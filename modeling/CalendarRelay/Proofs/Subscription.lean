import CalendarRelay.Proofs.History

namespace CalendarRelay

namespace Store

/-- A store that has sent each of its versions, the present one last. -/
structure InStep (s : Store) : Prop where
  value : s.versions.value = s.snapshot.version
  sent : s.versions.sent = s.snapshot.version

theorem InStep.reloaded {s : Store} (h : s.InStep) (document : Json) :
    (s.reloaded document).InStep := by
  cases document with
  | obj fields => exact ⟨rfl, congrArg (· + 1) h.sent⟩
  | _ => exact h

theorem InStep.replay {s : Store} (h : s.InStep) (documents : List Json) :
    (s.replay documents).InStep := by
  induction documents generalizing s with
  | nil => exact h
  | cons document documents ih => exact ih (h.reloaded document)

end Store

/-- A store with all that hold on to it, each in the order in which they came. -/
structure Audience where
  store : Store := {}
  handles : List Handle := [{}]
  subscribers : List Subscriber := []

namespace Audience

/-- What a handle or a subscriber does, each known by its place. -/
inductive Act
  | reload (handle : Nat) (document : Json)
  | clone (handle : Nat)
  | subscribe (handle : Nat)
  | check (subscriber : Nat)
  | look (subscriber : Nat)

/-- Whether the act is the reload of a document that the store accepts. -/
def Act.isAccepted : Act → Bool
  | reload _ document => document.fields?.isSome
  | _ => false

/-- The documents that are reloaded. -/
def documents (acts : List Act) : List Json :=
  acts.filterMap fun
    | .reload _ document => some document
    | _ => none

/-- The audience after an act, if whoever acts is there. -/
def act? (a : Audience) : Act → Option Audience
  | .reload h document => a.handles[h]?.map fun _ =>
    { a with store := a.store.reloaded document }
  | .clone h => a.handles[h]?.map fun handle => { a with handles := a.handles ++ [handle.clone] }
  | .subscribe h => a.handles[h]?.map fun handle =>
    { a with subscribers := a.subscribers ++ [handle.subscribe] }
  | .check r => a.subscribers[r]?.map fun _ => a
  | .look r => a.subscribers[r]?.map fun subscriber =>
    { a with subscribers := a.subscribers.set r (subscriber.look a.store).2 }

/-- The audience after acts one after the other. -/
def run? (acts : List Act) (a : Audience) : Option Audience := acts.foldlM act? a

section

variable {acts before after : List Act} {act : Act} {a b c : Audience} {r : Nat}
  {subscriber : Subscriber}

theorem run?_cons_eq_some_iff :
    run? (act :: acts) a = some c ↔ ∃ b, a.act? act = some b ∧ run? acts b = some c := by
  rw [run?, List.foldlM_cons]
  exact Option.bind_eq_some_iff

theorem run?_append_eq_some_iff : run? (before ++ after) a = some c ↔
    ∃ b, run? before a = some b ∧ run? after b = some c := by
  rw [run?, List.foldlM_append]
  exact Option.bind_eq_some_iff

/-- An act reloads a document, adds to the handles or the subscribers, or marks one subscriber as
having seen everything. -/
theorem act?_cases (h : a.act? act = some b) :
    (∃ i document, act = .reload i document ∧
      b = { a with store := a.store.reloaded document }) ∨
    (∃ i, ∃ handle ∈ a.handles, act = .clone i ∧
      b = { a with handles := a.handles ++ [handle.clone] }) ∨
    (∃ i, ∃ handle ∈ a.handles, act = .subscribe i ∧
      b = { a with subscribers := a.subscribers ++ [handle.subscribe] }) ∨
    (∃ i, act = .check i ∧ b = a) ∨
    ∃ i, act = .look i ∧ i < a.subscribers.length ∧
      b = { a with subscribers := a.subscribers.set i ⟨a.store.versions.sent⟩ } := by
  cases act with
  | reload i document =>
    obtain ⟨handle, -, rfl⟩ := Option.map_eq_some_iff.mp h
    exact .inl ⟨i, document, rfl, rfl⟩
  | clone i =>
    obtain ⟨handle, hget, rfl⟩ := Option.map_eq_some_iff.mp h
    exact .inr (.inl ⟨i, handle, List.mem_of_getElem? hget, rfl, rfl⟩)
  | subscribe i =>
    obtain ⟨handle, hget, rfl⟩ := Option.map_eq_some_iff.mp h
    exact .inr (.inr (.inl ⟨i, handle, List.mem_of_getElem? hget, rfl, rfl⟩))
  | check i =>
    obtain ⟨subscriber, -, rfl⟩ := Option.map_eq_some_iff.mp h
    exact .inr (.inr (.inr (.inl ⟨i, rfl, rfl⟩)))
  | look i =>
    obtain ⟨subscriber, hget, rfl⟩ := Option.map_eq_some_iff.mp h
    have hlt := (List.getElem?_eq_some_iff.mp hget).1
    exact .inr (.inr (.inr (.inr ⟨i, rfl, hlt, rfl⟩)))

/-- The store is what the documents that are reloaded make of it. -/
theorem store_of_run? (h : run? acts a = some b) : b.store = a.store.replay (documents acts) := by
  induction acts generalizing a with
  | nil => exact Option.some.inj h ▸ rfl
  | cons act acts ih =>
    obtain ⟨c, hact, hrun⟩ := run?_cons_eq_some_iff.mp h
    rw [ih hrun]
    rcases act?_cases hact with ⟨i, document, rfl, rfl⟩ | ⟨i, handle, -, rfl, rfl⟩ |
      ⟨i, handle, -, rfl, rfl⟩ | ⟨i, rfl, rfl⟩ | ⟨i, rfl, -, rfl⟩ <;> rfl

/-- A subscriber stays as it is until it looks. -/
theorem subscriber_of_run? (h : run? acts a = some b) (hlook : .look r ∉ acts)
    (hr : a.subscribers[r]? = some subscriber) : b.subscribers[r]? = some subscriber := by
  induction acts generalizing a with
  | nil => exact Option.some.inj h ▸ hr
  | cons act acts ih =>
    obtain ⟨c, hact, hrun⟩ := run?_cons_eq_some_iff.mp h
    have hfirst := List.ne_of_not_mem_cons hlook
    apply ih hrun (List.not_mem_of_not_mem_cons hlook)
    rcases act?_cases hact with ⟨i, document, rfl, rfl⟩ | ⟨i, handle, -, rfl, rfl⟩ |
      ⟨i, handle, -, rfl, rfl⟩ | ⟨i, rfl, rfl⟩ | ⟨i, rfl, -, rfl⟩
    · exact hr
    · exact hr
    · exact List.getElem?_append_left (List.getElem?_eq_some_iff.mp hr).1 ▸ hr
    · exact hr
    · have hne : i ≠ r := fun heq => hfirst (heq ▸ rfl)
      exact (List.getElem?_set_ne hne).trans hr

/-- Handles whose own subscribers have never looked, and a place where no one has. -/
structure Unseen (a : Audience) (r : Nat) : Prop where
  handles : ∀ handle ∈ a.handles, handle.own.seen = 0
  subscriber : ∀ subscriber, a.subscribers[r]? = some subscriber → subscriber.seen = 0

theorem Unseen.run? (ha : a.Unseen r) (h : run? acts a = some b) (hlook : .look r ∉ acts) :
    b.Unseen r := by
  induction acts generalizing a with
  | nil => exact Option.some.inj h ▸ ha
  | cons act acts ih =>
    obtain ⟨c, hact, hrun⟩ := run?_cons_eq_some_iff.mp h
    have hfirst := List.ne_of_not_mem_cons hlook
    refine ih ?_ hrun (List.not_mem_of_not_mem_cons hlook)
    obtain ⟨hhandles, hsubscriber⟩ := ha
    rcases act?_cases hact with ⟨i, document, rfl, rfl⟩ | ⟨i, handle, hmem, rfl, rfl⟩ |
      ⟨i, handle, hmem, rfl, rfl⟩ | ⟨i, rfl, rfl⟩ | ⟨i, rfl, -, rfl⟩
    · exact ⟨hhandles, hsubscriber⟩
    · refine ⟨?_, hsubscriber⟩
      intro other hother
      rcases List.mem_append.mp hother with hold | hnew
      · exact hhandles other hold
      · rw [List.mem_singleton.mp hnew]
        exact hhandles handle hmem
    · refine ⟨hhandles, ?_⟩
      intro subscriber hget
      rcases Nat.lt_or_ge r a.subscribers.length with hold | hnew
      · rw [List.getElem?_append_left hold] at hget
        exact hsubscriber subscriber hget
      · rw [List.getElem?_append_right hnew] at hget
        rw [List.mem_singleton.mp (List.mem_of_getElem? hget)]
        exact hhandles handle hmem
    · exact ⟨hhandles, hsubscriber⟩
    · have hne : i ≠ r := fun heq => hfirst (heq ▸ rfl)
      refine ⟨hhandles, fun subscriber hget => hsubscriber subscriber ?_⟩
      rwa [List.getElem?_set_ne hne] at hget

theorem length_accepted (acts : List Act) :
    (Store.accepted (documents acts)).length = acts.countP Act.isAccepted := by
  induction acts with
  | nil => rfl
  | cons act acts ih =>
    rw [List.countP_cons, ← ih]
    cases act with
    | reload i document =>
      cases hfields : document.fields? with
      | none => simp [documents, Store.accepted, Act.isAccepted, hfields]
      | some fields => simp [documents, Store.accepted, Act.isAccepted, hfields]
    | _ => rfl

/-- The version of the snapshot, what the channel holds and how often it has been sent to are all
the number of accepted documents. -/
theorem version_of_run? (h : run? acts {} = some a) :
    a.store.snapshot.version = acts.countP Act.isAccepted ∧ a.store.InStep := by
  rw [store_of_run? h]
  constructor
  · rw [Store.replay_eq_ofHistory, Store.version_ofHistory, length_accepted]
  · have hnew : Store.InStep {} := ⟨rfl, rfl⟩
    exact hnew.replay (documents acts)

theorem sent_of_run? (h : run? acts {} = some a) :
    a.store.versions.sent = acts.countP Act.isAccepted := by
  obtain ⟨hversion, hstep⟩ := version_of_run? h
  exact hstep.sent.trans hversion

/-- Who has looked has seen what had been sent by then. -/
theorem seen_of_look (h : run? (before ++ .look r :: after) {} = some a)
    (hlast : .look r ∉ after) (hr : a.subscribers[r]? = some subscriber) :
    subscriber.seen = before.countP Act.isAccepted := by
  obtain ⟨b, hbefore, hrest⟩ := run?_append_eq_some_iff.mp h
  obtain ⟨c, hlook, hafter⟩ := run?_cons_eq_some_iff.mp hrest
  have hc : c.subscribers[r]? = some ⟨b.store.versions.sent⟩ := by
    obtain ⟨looking, hget, rfl⟩ := Option.map_eq_some_iff.mp hlook
    exact List.getElem?_set_self (List.getElem?_eq_some_iff.mp hget).1
  have hsame := (subscriber_of_run? hafter hlast hc).symm.trans hr
  rw [← Option.some.inj hsame]
  exact sent_of_run? hbefore

/-- Who has never looked has seen nothing. -/
theorem seen_of_no_look (h : run? acts {} = some a) (hnone : .look r ∉ acts)
    (hr : a.subscribers[r]? = some subscriber) : subscriber.seen = 0 := by
  have hstart : Unseen {} r := ⟨by simp, by simp⟩
  exact (hstart.run? h hnone).subscriber subscriber hr

theorem hasChanged_eq_true_iff {s : Store} {n : Nat}
    (hseen : subscriber.seen + n = s.versions.sent) :
    subscriber.hasChanged s = true ↔ 0 < n := by
  rw [Subscriber.hasChanged, bne_iff_ne]
  omega

end

/-- The store after any run of acts has sent each of its versions. What a subscriber is told when
it looks is the number of documents that have been accepted so far, and this is the version that
every handle sees. A subscriber finds a change when a document has been accepted since it last
looked, and one that has never looked when any has been, even before it was made. -/
theorem look_and_hasChanged_of_run {acts : List Act} {a : Audience} (h : run? acts {} = some a) :
    (∀ handle ∈ a.handles,
      (handle.snapshot a.store).version = acts.countP Act.isAccepted) ∧
    ∀ r subscriber, a.subscribers[r]? = some subscriber →
      (subscriber.look a.store).1 = acts.countP Act.isAccepted ∧
      (∀ before after, acts = before ++ .look r :: after → .look r ∉ after →
        (subscriber.hasChanged a.store = true ↔ ∃ act ∈ after, act.isAccepted = true)) ∧
      (.look r ∉ acts →
        (subscriber.hasChanged a.store = true ↔ ∃ act ∈ acts, act.isAccepted = true)) := by
  obtain ⟨hversion, hstep⟩ := version_of_run? h
  have hsent := sent_of_run? h
  refine ⟨fun _ _ => hversion, fun r subscriber hr => ⟨hstep.value.trans hversion, ?_, ?_⟩⟩
  · intro before after hacts hlast
    subst hacts
    have hseen := seen_of_look h hlast hr
    have hcount : (before ++ .look r :: after).countP Act.isAccepted =
        before.countP Act.isAccepted + after.countP Act.isAccepted := by
      rw [List.countP_append, List.countP_cons]
      rfl
    rw [hasChanged_eq_true_iff (by rw [hsent, hcount, hseen]), List.countP_pos_iff]
  · intro hnone
    have hseen := seen_of_no_look h hnone hr
    rw [hasChanged_eq_true_iff (by rw [hsent, hseen, Nat.zero_add]), List.countP_pos_iff]

/-- One who subscribes, hears of a first document and looks, and another who subscribes later and
does not look. A document that is refused and a second one follow. -/
def meeting : List Act := [
  .subscribe 0, .reload 0 (.obj []), .check 0, .look 0, .clone 0, .subscribe 1,
  .reload 1 (.arr []), .reload 1 (.obj [])]

def afterMeeting : Audience where
  store := Store.replay {} [.obj [], .arr [], .obj []]
  handles := [{}, {}]
  subscribers := [⟨1⟩, ⟨0⟩]

theorem look_and_hasChanged_of_run_meeting : run? meeting {} = some afterMeeting ∧
    (∀ handle ∈ afterMeeting.handles, (handle.snapshot afterMeeting.store).version = 2) ∧
    (Subscriber.look ⟨1⟩ afterMeeting.store).1 = 2 ∧
    Subscriber.hasChanged ⟨1⟩ afterMeeting.store = true ∧
    Subscriber.hasChanged ⟨0⟩ afterMeeting.store = true := by
  have hrun : run? meeting {} = some afterMeeting := rfl
  obtain ⟨hhandles, hsubscribers⟩ := look_and_hasChanged_of_run hrun
  obtain ⟨hlook, hchanged, -⟩ := hsubscribers 0 ⟨1⟩ rfl
  obtain ⟨-, -, hnever⟩ := hsubscribers 1 ⟨0⟩ rfl
  have hlast : Act.look 0 ∉ [.clone 0, .subscribe 1, .reload 1 (.arr []), .reload 1 (.obj [])] := by
    simp
  have hnone : Act.look 1 ∉ meeting := by simp [meeting]
  refine ⟨hrun, hhandles, hlook, ?_, ?_⟩
  · have hsince := hchanged [.subscribe 0, .reload 0 (.obj []), .check 0] _ rfl hlast
    exact hsince.mpr ⟨.reload 1 (.obj []), by simp, rfl⟩
  · exact (hnever hnone).mpr ⟨.reload 1 (.obj []), by simp [meeting], rfl⟩

end Audience

end CalendarRelay
