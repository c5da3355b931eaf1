import CalendarRelay.Catalogue.Definition

namespace CalendarRelay

/-- The definitions served at one time, sorted by name, and the number of reloads before. -/
structure Snapshot where
  definitions : List (String × Definition) := []
  version : Nat := 0

namespace Snapshot

def get? (s : Snapshot) (name : String) : Option Definition :=
  (s.definitions.find? fun d => d.1 == name).map Prod.snd

def contains (s : Snapshot) (name : String) : Bool := (s.get? name).isSome

def names (s : Snapshot) : List String := s.definitions.map Prod.fst

def size (s : Snapshot) : Nat := s.definitions.length

end Snapshot

/-- What a reload has done. The names in the lists are sorted. -/
structure Report where
  loaded : List String := []
  failed : List (String × Definition.Fault) := []
  retained : List String := []
  removed : List String := []

/-- Whether every definition of the document is in use. -/
def Report.isClean (r : Report) : Bool := r.failed.isEmpty

/-- A channel that holds the number sent last and counts what has been sent. -/
structure Channel where
  value : Nat := 0
  sent : Nat := 0
  deriving DecidableEq

/-- Sends a number, which is a change to everyone who listens. -/
def Channel.send (c : Channel) (value : Nat) : Channel := { value, sent := c.sent + 1 }

/-- A store of calendars with the channel for its versions. All that share it see the same
snapshot. -/
structure Store where
  snapshot : Snapshot := {}
  versions : Channel := {}

namespace Store

/-- What one definition of a document comes to: in use, kept from before, or dropped. -/
inductive Outcome
  | loaded (d : Definition)
  | kept (fault : Definition.Fault) (d : Definition)
  | dropped (fault : Definition.Fault)

/-- The outcome of one definition, given the snapshot before. -/
def outcome (previous : Snapshot) (name : String) (j : Json) : Journaled Outcome :=
  match Definition.ofJson name j with
  | .ok d => do
    Journaled.note (.calendarLoaded name d.kind d.ruleCount)
    return .loaded d
  | .error fault => do
    Journaled.note (.calendarInvalid name fault.message)
    match previous.get? name with
    | some d =>
      Journaled.note (.calendarKept name)
      return .kept fault d
    | none => return .dropped fault

/-- The outcomes of all definitions of a document. -/
def outcomes (previous : Snapshot) : List (String × Json) → Journaled (List (String × Outcome))
  | [] => pure []
  | (name, j) :: rest => do
    let o ← outcome previous name j
    return (name, o) :: (← outcomes previous rest)

def Outcome.definition? : Outcome → Option Definition
  | loaded d => some d
  | kept _ d => some d
  | dropped _ => none

def Outcome.fault? : Outcome → Option Definition.Fault
  | loaded _ => none
  | kept fault _ => some fault
  | dropped fault => some fault

def Outcome.isLoaded : Outcome → Bool
  | loaded _ => true
  | _ => false

def Outcome.isKept : Outcome → Bool
  | kept .. => true
  | _ => false

/-- The report on the outcomes of a document, given the snapshot before. -/
def report (previous : Snapshot) (found : List (String × Outcome)) : Report where
  loaded := (found.filter fun f => f.2.isLoaded).map Prod.fst
  failed := found.filterMap fun f => f.2.fault?.map fun e => (f.1, e)
  retained := (found.filter fun f => f.2.isKept).map Prod.fst
  removed := previous.names.filter fun name => !(found.any fun f => f.1 == name)

/-- The store after reloading a document, and what the reload has done. A document that is no
object changes nothing. -/
def reload (s : Store) (document : Json) :
    Journaled (Except Definition.Fault (Store × Report)) :=
  match document with
  | .obj fields => do
    let found ← outcomes s.snapshot fields
    let report := report s.snapshot found
    let version := s.snapshot.version + 1
    let definitions := found.filterMap fun f => f.2.definition?.map fun d => (f.1, d)
    Journaled.note (.catalogueReloaded version report.loaded.length report.failed.length
      report.removed.length)
    return .ok (⟨⟨definitions, version⟩, s.versions.send version⟩, report)
  | _ => pure (.error .badDocument)

end Store

/-- One who wants to hear of new versions of a store, with how many of them it has seen sent. -/
structure Subscriber where
  seen : Nat := 0
  deriving DecidableEq

namespace Subscriber

/-- Whether something has been sent that the subscriber has not seen. -/
def hasChanged (r : Subscriber) (s : Store) : Bool := r.seen != s.versions.sent

/-- The version sent last, and the subscriber that has seen it. -/
def look (_ : Subscriber) (s : Store) : Nat × Subscriber :=
  (s.versions.value, ⟨s.versions.sent⟩)

end Subscriber

/-- A handle on a store. Its own subscriber never looks: new subscribers are copies of it, and
because of it a version never goes unsent. -/
structure Handle where
  own : Subscriber := {}

namespace Handle

/-- Another handle on the same store. -/
def clone (h : Handle) : Handle := { own := h.own }

/-- What the handle sees of the store, which is what every other handle sees. -/
def snapshot (_ : Handle) (s : Store) : Snapshot := s.snapshot

/-- A new subscriber, which has seen what the one of the handle has. -/
def subscribe (h : Handle) : Subscriber := h.own

end Handle

end CalendarRelay
