import Mathlib
import CalendarRelay.Watch.Watcher

namespace CalendarRelay.Watch

open Relation

/-- Whether a loop has taken a signal and not yet started to reload. -/
def Phase.isPending : Phase → Bool
  | debouncing => true
  | draining => true
  | drained => true
  | _ => false

namespace Loop

/-- Some signal has come in since the last reload started, or at all if none has. -/
def Unheard (l : Loop) : Prop := l.heard.getD 0 < l.signals

/-- A reload is still to come: a signal waits in the queue, or has been taken out of it. -/
def Due (l : Loop) : Prop := 0 < l.queue ∨ l.phase.isPending = true

section

variable {l m : Loop}

theorem receive?_eq_some_iff : l.receive? = some m ↔
    (l.phase = .waiting ∧ 0 < l.queue) ∧
      m = { l with queue := l.queue - 1, phase := .debouncing } := by
  simp [receive?, eq_comm]

theorem wake?_eq_some_iff : l.wake? = some m ↔
    l.phase = .debouncing ∧ m = { l with phase := .draining } := by
  simp [wake?, eq_comm]

theorem drain?_eq_some_iff : l.drain? = some m ↔
    (l.phase = .draining ∧ 0 < l.queue) ∧ m = { l with queue := l.queue - 1 } := by
  simp [drain?, eq_comm]

theorem finishDrain?_eq_some_iff : l.finishDrain? = some m ↔
    (l.phase = .draining ∧ l.queue = 0) ∧ m = { l with phase := .drained } := by
  simp [finishDrain?, eq_comm]

theorem startReload?_eq_some_iff : l.startReload? = some m ↔ l.phase = .drained ∧
    m = { l with phase := .reloading, starts := l.starts + 1, heard := some l.signals } := by
  simp [startReload?, eq_comm]

theorem endReload?_eq_some_iff : l.endReload? = some m ↔ l.phase = .reloading ∧
    m = { l with phase := .waiting, ends := l.ends + 1 } := by
  simp [endReload?, eq_comm]

theorem stop?_eq_some_iff : l.stop? = some m ↔
    l.phase = .waiting ∧ m = { l with phase := .stopped } := by
  simp [stop?, eq_comm]

end

/-- What a loop keeps to at all times. -/
structure Sound (l : Loop) : Prop where
  running : l.starts = l.ends + if l.phase = .reloading then 1 else 0
  heard_le : l.heard.getD 0 ≤ l.signals
  signalled_le : l.signalled ≤ l.changes
  due : l.phase ≠ .stopped → l.Unheard → l.Due

theorem Sound.step {l m : Loop} (h : l.Sound) (hstep : Step l m) : m.Sound := by
  obtain ⟨hrunning, hheard, hsignalled, hdue⟩ := h
  cases hstep with
  | change => exact ⟨hrunning, hheard, Nat.le_succ_of_le hsignalled, hdue⟩
  | signal =>
    have hqueue : 0 < min capacity (l.queue + 1) := by simp [capacity]
    exact ⟨hrunning, Nat.le_succ_of_le hheard, Nat.le_refl _, fun _ _ => .inl hqueue⟩
  | receive hm =>
    obtain ⟨⟨hphase, -⟩, rfl⟩ := receive?_eq_some_iff.mp hm
    refine ⟨?_, hheard, hsignalled, fun _ _ => .inr rfl⟩
    simpa [hphase] using hrunning
  | wake hm =>
    obtain ⟨hphase, rfl⟩ := wake?_eq_some_iff.mp hm
    refine ⟨?_, hheard, hsignalled, fun _ _ => .inr rfl⟩
    simpa [hphase] using hrunning
  | drain hm =>
    obtain ⟨⟨hphase, -⟩, rfl⟩ := drain?_eq_some_iff.mp hm
    refine ⟨hrunning, hheard, hsignalled, fun _ _ => .inr ?_⟩
    rw [hphase]
    rfl
  | finishDrain hm =>
    obtain ⟨⟨hphase, -⟩, rfl⟩ := finishDrain?_eq_some_iff.mp hm
    refine ⟨?_, hheard, hsignalled, fun _ _ => .inr rfl⟩
    simpa [hphase] using hrunning
  | startReload hm =>
    obtain ⟨hphase, rfl⟩ := startReload?_eq_some_iff.mp hm
    refine ⟨?_, Nat.le_refl _, hsignalled, fun _ hunheard => ?_⟩
    · simpa [hphase] using hrunning
    · exact absurd hunheard (Nat.lt_irrefl _)
  | endReload hm =>
    obtain ⟨hphase, rfl⟩ := endReload?_eq_some_iff.mp hm
    refine ⟨?_, hheard, hsignalled, fun _ hunheard => ?_⟩
    · simpa [hphase] using hrunning
    · -- while the loop reloads, nothing but the queue can hold the signal
      have hbefore := hdue (by simp [hphase]) hunheard
      simpa [Due, hphase, Phase.isPending] using hbefore
  | stop hm =>
    obtain ⟨hphase, rfl⟩ := stop?_eq_some_iff.mp hm
    refine ⟨?_, hheard, hsignalled, fun hrunning _ => absurd rfl hrunning⟩
    simpa [hphase] using hrunning

theorem sound_of_reachable {l : Loop} (h : Reachable l) : l.Sound := by
  induction h with
  | start => exact ⟨rfl, Nat.le_refl _, Nat.le_refl _, fun _ h => absurd h (Nat.lt_irrefl _)⟩
  | step _ hstep ih => exact ih.step hstep

/-- A step that the loop takes on its own, other than its end. -/
inductive Own (l : Loop) : Loop → Prop
  | receive {m : Loop} (hm : l.receive? = some m) : Own l m
  | wake {m : Loop} (hm : l.wake? = some m) : Own l m
  | drain {m : Loop} (hm : l.drain? = some m) : Own l m
  | finishDrain {m : Loop} (hm : l.finishDrain? = some m) : Own l m
  | startReload {m : Loop} (hm : l.startReload? = some m) : Own l m
  | endReload {m : Loop} (hm : l.endReload? = some m) : Own l m

theorem Own.step {l m : Loop} (h : Own l m) : Step l m := by
  cases h with
  | receive hm => exact .receive hm
  | wake hm => exact .wake hm
  | drain hm => exact .drain hm
  | finishDrain hm => exact .finishDrain hm
  | startReload hm => exact .startReload hm
  | endReload hm => exact .endReload hm

/-- A change of the file and a signal leave the reloads alone. Any other step leaves the changes
and signals alone, and either starts a reload, which then knows of all signals, or does not. -/
theorem step_cases {l m : Loop} (h : Step l m) : m = l.change ∨ m = l.signal ∨
    (m.changes = l.changes ∧ m.signalled = l.signalled ∧ m.signals = l.signals ∧
      (m.starts = l.starts ∧ m.heard = l.heard ∨
        m.starts = l.starts + 1 ∧ m.heard = some l.signals)) := by
  cases h with
  | change => exact .inl rfl
  | signal => exact .inr (.inl rfl)
  | receive hm =>
    obtain ⟨-, rfl⟩ := receive?_eq_some_iff.mp hm
    exact .inr (.inr ⟨rfl, rfl, rfl, .inl ⟨rfl, rfl⟩⟩)
  | wake hm =>
    obtain ⟨-, rfl⟩ := wake?_eq_some_iff.mp hm
    exact .inr (.inr ⟨rfl, rfl, rfl, .inl ⟨rfl, rfl⟩⟩)
  | drain hm =>
    obtain ⟨-, rfl⟩ := drain?_eq_some_iff.mp hm
    exact .inr (.inr ⟨rfl, rfl, rfl, .inl ⟨rfl, rfl⟩⟩)
  | finishDrain hm =>
    obtain ⟨-, rfl⟩ := finishDrain?_eq_some_iff.mp hm
    exact .inr (.inr ⟨rfl, rfl, rfl, .inl ⟨rfl, rfl⟩⟩)
  | startReload hm =>
    obtain ⟨-, rfl⟩ := startReload?_eq_some_iff.mp hm
    exact .inr (.inr ⟨rfl, rfl, rfl, .inr ⟨rfl, rfl⟩⟩)
  | endReload hm =>
    obtain ⟨-, rfl⟩ := endReload?_eq_some_iff.mp hm
    exact .inr (.inr ⟨rfl, rfl, rfl, .inl ⟨rfl, rfl⟩⟩)
  | stop hm =>
    obtain ⟨-, rfl⟩ := stop?_eq_some_iff.mp hm
    exact .inr (.inr ⟨rfl, rfl, rfl, .inl ⟨rfl, rfl⟩⟩)

/-- A step with which no reload starts. -/
def Quiet (l m : Loop) : Prop := Step l m ∧ m.starts = l.starts

/-- Only a signal changes what has been heard of while no reload starts. -/
theorem Quiet.cases {l m : Loop} (h : Quiet l m) : m = l.signal ∨
    m.signals = l.signals ∧ m.signalled = l.signalled ∧ m.heard = l.heard := by
  obtain ⟨hstep, hstarts⟩ := h
  rcases step_cases hstep with rfl | rfl |
    ⟨-, hsignalled, hsignals, ⟨-, hheard⟩ | ⟨hstart, -⟩⟩
  · exact .inr ⟨rfl, rfl, rfl⟩
  · exact .inl rfl
  · exact .inr ⟨hsignals, hsignalled, hheard⟩
  · omega

theorem changes_le_of_step {l m : Loop} (h : Step l m) : l.changes ≤ m.changes := by
  rcases step_cases h with rfl | rfl | ⟨hchanges, -⟩
  · exact Nat.le_succ l.changes
  · exact Nat.le_refl _
  · exact hchanges.ge

variable {l m : Loop}

theorem reachable_of_quiet (hl : Reachable l) (h : ReflTransGen Quiet l m) : Reachable m := by
  induction h with
  | refl => exact hl
  | tail _ hstep ih => exact .step ih hstep.1

theorem unheard_signal (hl : l.Sound) : l.signal.Unheard := Nat.lt_succ_of_le hl.heard_le

/-- A signal is unheard until a reload starts. -/
theorem unheard_of_quiet (hl : Reachable l) (h : ReflTransGen Quiet l m) (hunheard : l.Unheard) :
    m.Unheard := by
  induction h with
  | refl => exact hunheard
  | @tail k m hquiet hstep ih =>
    have hk := sound_of_reachable (reachable_of_quiet hl hquiet)
    rcases hstep.cases with rfl | ⟨hsignals, -, hheard⟩
    · exact unheard_signal hk
    · rwa [Unheard, hsignals, hheard]

/-- A change that a signal has followed is unheard until a reload starts. -/
theorem unheard_of_change (hl : Reachable l) (h : ReflTransGen Quiet l.change m)
    (hsignalled : m.signalled = m.changes) : m.Unheard := by
  have hchange : Reachable l.change := .step hl .change
  have hsome : m.signalled ≤ l.changes ∨ m.Unheard := by
    clear hsignalled
    induction h with
    | refl => exact .inl (sound_of_reachable hl).signalled_le
    | @tail k m hquiet hstep ih =>
      have hk := sound_of_reachable (reachable_of_quiet hchange hquiet)
      rcases hstep.cases with rfl | ⟨hsignals, hsame, hheard⟩
      · exact .inr (unheard_signal hk)
      · rwa [Unheard, hsame, hsignals, hheard]
  have hchanges : l.changes < m.changes := by
    clear hsignalled hsome
    induction h with
    | refl => exact Nat.lt_succ_self l.changes
    | tail _ hstep ih => exact ih.trans_le (changes_le_of_step hstep.1)
  rcases hsome with hle | hunheard
  · omega
  · exact hunheard

/-- The loop can get to the start of a reload that knows of all signals so far. -/
def WillReload (l : Loop) : Prop :=
  ∃ k m, ReflTransGen Own l k ∧ k.startReload? = some m ∧ m.heard = some l.signals

theorem WillReload.head (h : m.WillReload) (hown : Own l m) (hsignals : m.signals = l.signals) :
    l.WillReload := by
  obtain ⟨k, n, hrun, hstart, hheard⟩ := h
  exact ⟨k, n, .head hown hrun, hstart, hheard.trans (congrArg some hsignals)⟩

theorem willReload_of_drained (h : l.phase = .drained) : l.WillReload :=
  ⟨l, _, .refl, startReload?_eq_some_iff.mpr ⟨h, rfl⟩, rfl⟩

theorem willReload_of_draining (h : l.phase = .draining) : l.WillReload := by
  -- the queue is emptied one signal at a time
  generalize hqueue : l.queue = n
  induction n generalizing l with
  | zero =>
    have hfinish := finishDrain?_eq_some_iff.mpr ⟨⟨h, hqueue⟩, rfl⟩
    exact (willReload_of_drained rfl).head (.finishDrain hfinish) rfl
  | succ n ih =>
    have hdrain := drain?_eq_some_iff.mpr ⟨⟨h, by omega⟩, rfl⟩
    have hrest : WillReload { l with queue := l.queue - 1 } := ih h (by simp [hqueue])
    exact hrest.head (.drain hdrain) rfl

theorem willReload_of_debouncing (h : l.phase = .debouncing) : l.WillReload := by
  have hwake := wake?_eq_some_iff.mpr ⟨h, rfl⟩
  exact (willReload_of_draining rfl).head (.wake hwake) rfl

theorem willReload_of_waiting (h : l.phase = .waiting) (hqueue : 0 < l.queue) :
    l.WillReload := by
  have hreceive := receive?_eq_some_iff.mpr ⟨⟨h, hqueue⟩, rfl⟩
  exact (willReload_of_debouncing rfl).head (.receive hreceive) rfl

theorem Due.willReload (h : l.Due) (hrunning : l.phase ≠ .stopped) : l.WillReload := by
  cases hphase : l.phase with
  | waiting =>
    have hqueue : 0 < l.queue := by simpa [Due, hphase, Phase.isPending] using h
    exact willReload_of_waiting hphase hqueue
  | debouncing => exact willReload_of_debouncing hphase
  | draining => exact willReload_of_draining hphase
  | drained => exact willReload_of_drained hphase
  | reloading =>
    have hqueue : 0 < l.queue := by simpa [Due, hphase, Phase.isPending] using h
    have hend := endReload?_eq_some_iff.mpr ⟨hphase, rfl⟩
    have hafter : WillReload { l with phase := .waiting, ends := l.ends + 1 } :=
      willReload_of_waiting rfl hqueue
    exact hafter.head (.endReload hend) rfl
  | stopped => exact absurd hphase hrunning

/-- As many reloads have started as have ended, and one more while the loop reloads. After a
signal, or after a change that a signal has followed, and until a reload starts, a running loop
has a signal in its queue or is on its way from a signal to a reload; it gets there on its own. -/
theorem due_until_reload (h : Reachable l) :
    l.starts = l.ends + (if l.phase = .reloading then 1 else 0) ∧
    (∀ m, ReflTransGen Quiet l.signal m → m.phase ≠ .stopped →
      (0 < m.queue ∨ m.phase.isPending = true) ∧ m.WillReload) ∧
    ∀ m, ReflTransGen Quiet l.change m → m.signalled = m.changes → m.phase ≠ .stopped →
      (0 < m.queue ∨ m.phase.isPending = true) ∧ m.WillReload := by
  refine ⟨(sound_of_reachable h).running, ?_, ?_⟩
  · intro m hquiet hrunning
    have hsignal : Reachable l.signal := .step h .signal
    have hm := sound_of_reachable (reachable_of_quiet hsignal hquiet)
    have hunheard := unheard_of_quiet hsignal hquiet (unheard_signal (sound_of_reachable h))
    have hdue := hm.due hrunning hunheard
    exact ⟨hdue, hdue.willReload hrunning⟩
  · intro m hquiet hsignalled hrunning
    have hm := sound_of_reachable (reachable_of_quiet (.step h .change) hquiet)
    have hunheard := unheard_of_change h hquiet hsignalled
    have hdue := hm.due hrunning hunheard
    exact ⟨hdue, hdue.willReload hrunning⟩

/-- A loop that reloads after a first change. -/
def firstReload : Loop :=
  { phase := .reloading, changes := 1, signalled := 1, signals := 1, starts := 1, heard := some 1 }

/-- The same loop after a change during the reload and the end of the reload. -/
def savedMeanwhile : Loop :=
  { queue := 1, changes := 2, signalled := 2, signals := 2
    starts := 1, ends := 1, heard := some 1 }

theorem reachable_firstReload : Reachable firstReload := by
  have hsignal : Reachable (signal (change {})) := .step (.step .start .change) .signal
  have hdraining := Reachable.step (.step hsignal (.receive rfl)) (.wake rfl)
  exact .step (.step hdraining (.finishDrain rfl)) (.startReload rfl)

theorem due_until_reload_savedMeanwhile :
    Reachable firstReload ∧ ReflTransGen Quiet firstReload.change savedMeanwhile ∧
      savedMeanwhile.signalled = savedMeanwhile.changes ∧ savedMeanwhile.phase ≠ .stopped ∧
      (0 < savedMeanwhile.queue ∨ savedMeanwhile.phase.isPending = true) ∧
      savedMeanwhile.WillReload := by
  have hquiet : ReflTransGen Quiet firstReload.change savedMeanwhile :=
    .head ⟨.signal, rfl⟩ (.single ⟨.endReload rfl, rfl⟩)
  obtain ⟨-, -, hchange⟩ := due_until_reload reachable_firstReload
  exact ⟨reachable_firstReload, hquiet, rfl, by decide, hchange _ hquiet rfl (by decide)⟩

/-- A loop that has nothing to do until the next signal. -/
structure AtRest (l : Loop) : Prop where
  phase : l.phase = .waiting
  queue : l.queue = 0

theorem own_emptied (h : l.phase = .draining) : ReflTransGen Own l { l with queue := 0 } := by
  generalize hqueue : l.queue = n
  induction n generalizing l with
  | zero =>
    have hempty : { l with queue := 0 } = l := by rw [← hqueue]
    rw [hempty]
  | succ n ih =>
    have hdrain := drain?_eq_some_iff.mpr ⟨⟨h, by omega⟩, rfl⟩
    have hrest : ReflTransGen Own { l with queue := l.queue - 1 } { l with queue := 0 } :=
      ih h (by simp [hqueue])
    exact .head (.drain hdrain) hrest

/-- A waiting loop with signals in its queue settles by one reload. -/
theorem settle_of_waiting (h : l.phase = .waiting) (hqueue : 0 < l.queue) :
    l.settle = (
      { l with
        queue := 0
        phase := .waiting
        starts := l.starts + 1
        ends := l.ends + 1
        heard := some l.signals }, 1) := by
  simp [settle, receive?, wake?, finishDrain?, startReload?, endReload?, h, hqueue]

theorem settle_of_not_waiting (h : ¬ (l.phase = .waiting ∧ 0 < l.queue)) : l.settle = (l, 0) := by
  simp [settle, receive?, h]

/-- A loop settles by steps of its own. -/
theorem own_settle (l : Loop) : ReflTransGen Own l l.settle.1 := by
  by_cases h : l.phase = .waiting ∧ 0 < l.queue
  · obtain ⟨hphase, hqueue⟩ := h
    rw [settle_of_waiting hphase hqueue]
    have hdraining : ReflTransGen Own l { l with queue := l.queue - 1, phase := .draining } :=
      .head (.receive (receive?_eq_some_iff.mpr ⟨⟨hphase, hqueue⟩, rfl⟩))
        (.single (.wake (wake?_eq_some_iff.mpr ⟨rfl, rfl⟩)))
    have hempty := hdraining.trans (own_emptied rfl)
    have hdrained := hempty.tail (.finishDrain (finishDrain?_eq_some_iff.mpr ⟨⟨rfl, rfl⟩, rfl⟩))
    have hreloading := hdrained.tail (.startReload (startReload?_eq_some_iff.mpr ⟨rfl, rfl⟩))
    exact hreloading.tail (.endReload (endReload?_eq_some_iff.mpr ⟨rfl, rfl⟩))
  · rw [settle_of_not_waiting h]

theorem reachable_of_own (hl : Reachable l) (h : ReflTransGen Own l m) : Reachable m := by
  induction h with
  | refl => exact hl
  | tail _ hown ih => exact .step ih hown.step

/-- A loop after changes with a signal for each. -/
theorem foldl_change_signal (hl : Reachable l) (places : List Place)
    (h : m = places.foldl (fun l _ => l.change.signal) l) :
    Reachable m ∧ m.phase = l.phase ∧ (0 < m.queue ↔ 0 < l.queue ∨ places ≠ []) := by
  induction places generalizing l with
  | nil =>
    subst h
    simp [hl]
  | cons place places ih =>
    obtain ⟨hm, hphase, hqueue⟩ := ih (.step (.step hl .change) .signal) h
    have hfull : 0 < l.change.signal.queue := by simp [signal, capacity]
    refine ⟨hm, hphase, ?_⟩
    simp [hqueue, hfull]

end Loop

namespace Watcher

/-- A watcher at rest reloads once when a place that concerns it is touched, and not at all
otherwise. Its loop comes to rest again. -/
theorem settle_of_atRest {w : Watcher} {l : Loop} (hloop : w.loop = some l)
    (hl : Loop.Reachable l) (hrest : l.AtRest) (touched : List Place) :
    (w.settle touched).2 = (if touched.any w.scope.concerns then 1 else 0) ∧
      ∃ m, (w.settle touched).1.loop = some m ∧ Loop.Reachable m ∧ m.AtRest := by
  rw [settle, hloop]
  dsimp only
  generalize hm : (touched.filter w.scope.concerns).foldl (fun l _ => l.change.signal) l = m
  obtain ⟨hreachable, hphase, hqueue⟩ := Loop.foldl_change_signal hl _ hm.symm
  rw [hrest.phase] at hphase
  have hsome : 0 < m.queue ↔ touched.any w.scope.concerns = true := by
    simp [hqueue, hrest.queue, List.filter_eq_nil_iff]
  refine ⟨?_, _, rfl, Loop.reachable_of_own hreachable (Loop.own_settle m), ?_⟩
  · by_cases hany : touched.any w.scope.concerns = true
    · rw [if_pos hany, Loop.settle_of_waiting hphase (hsome.mpr hany)]
    · rw [if_neg hany, Loop.settle_of_not_waiting fun h => hany (hsome.mp h.2)]
  · by_cases hpos : 0 < m.queue
    · rw [Loop.settle_of_waiting hphase hpos]
      exact ⟨rfl, rfl⟩
    · rw [Loop.settle_of_not_waiting fun h => hpos h.2]
      exact ⟨hphase, Nat.eq_zero_of_not_pos hpos⟩

end Watcher

end CalendarRelay.Watch
