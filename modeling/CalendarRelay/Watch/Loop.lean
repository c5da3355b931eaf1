namespace CalendarRelay.Watch

/-- What the loop is doing. -/
inductive Phase
  | waiting
  | debouncing
  | draining
  | drained
  | reloading
  | stopped
  deriving DecidableEq

/-- A loop that reloads a file after its changes: it takes one signal, waits a moment, drops all
that have come in meanwhile, and reloads. Beside the signals in its queue stands what has happened
so far: the changes of the file, those of them that a signal has followed, the signals, dropped
ones too, and the starts and ends of reloads. `heard` counts the signals before the start of the
last reload. -/
structure Loop where
  queue : Nat := 0
  phase : Phase := .waiting
  changes : Nat := 0
  signalled : Nat := 0
  signals : Nat := 0
  starts : Nat := 0
  ends : Nat := 0
  heard : Option Nat := none
  deriving DecidableEq

namespace Loop

/-- The most signals that wait in the queue. -/
def capacity : Nat := 16

/-- A change of the file, which signals are still to follow. -/
def change (l : Loop) : Loop := { l with changes := l.changes + 1 }

/-- A signal, which goes into the queue unless it is full. -/
def signal (l : Loop) : Loop :=
  { l with
    queue := min capacity (l.queue + 1)
    signalled := l.changes
    signals := l.signals + 1 }

/-- Takes a signal out of the queue and starts to wait for more changes. -/
def receive? (l : Loop) : Option Loop :=
  if l.phase = .waiting ∧ 0 < l.queue then
    some { l with queue := l.queue - 1, phase := .debouncing }
  else none

/-- Ends the wait for more changes. -/
def wake? (l : Loop) : Option Loop :=
  if l.phase = .debouncing then some { l with phase := .draining } else none

/-- Drops one signal that has come in during the wait. -/
def drain? (l : Loop) : Option Loop :=
  if l.phase = .draining ∧ 0 < l.queue then some { l with queue := l.queue - 1 } else none

/-- Finds the queue empty. Signals that come in from now on stay in it. -/
def finishDrain? (l : Loop) : Option Loop :=
  if l.phase = .draining ∧ l.queue = 0 then some { l with phase := .drained } else none

/-- Starts to reload. -/
def startReload? (l : Loop) : Option Loop :=
  if l.phase = .drained then
    some { l with phase := .reloading, starts := l.starts + 1, heard := some l.signals }
  else none

/-- Ends a reload, whether it went well or not. -/
def endReload? (l : Loop) : Option Loop :=
  if l.phase = .reloading then some { l with phase := .waiting, ends := l.ends + 1 } else none

/-- Ends the loop; a reload that is going on is finished first. -/
def stop? (l : Loop) : Option Loop :=
  if l.phase = .waiting then some { l with phase := .stopped } else none

/-- One step of the loop or of the world around it. -/
inductive Step (l : Loop) : Loop → Prop
  | change : Step l l.change
  | signal : Step l l.signal
  | receive {m : Loop} : l.receive? = some m → Step l m
  | wake {m : Loop} : l.wake? = some m → Step l m
  | drain {m : Loop} : l.drain? = some m → Step l m
  | finishDrain {m : Loop} : l.finishDrain? = some m → Step l m
  | startReload {m : Loop} : l.startReload? = some m → Step l m
  | endReload {m : Loop} : l.endReload? = some m → Step l m
  | stop {m : Loop} : l.stop? = some m → Step l m

/-- The states that a loop can get to. -/
inductive Reachable : Loop → Prop
  | start : Reachable {}
  | step {l m : Loop} : Reachable l → Step l m → Reachable m

/-- What a waiting loop comes to when nothing else changes, and how often it reloads on the
way. -/
def settle (l : Loop) : Loop × Nat :=
  match l.receive?.bind wake? with
  | some woken =>
    match ((finishDrain? { woken with queue := 0 }).bind startReload?).bind endReload? with
    | some done => (done, 1)
    | none => (l, 0)
  | none => (l, 0)

end Loop

end CalendarRelay.Watch
