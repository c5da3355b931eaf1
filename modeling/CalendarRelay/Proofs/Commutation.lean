import CalendarRelay.Proofs.Effect

namespace CalendarRelay

open Text Rule

namespace Rule

/-- What a rule makes of an event: nothing when it removes it. -/
def effect (rule : Rule) (r : Record) : Option Record :=
  if (rule.filter.holds r).value then Operation.applyAll rule.operations r else some r

/-- What rules make of an event, one after the other. -/
theorem value_transform (index : Nat) (rules : List Rule) (r : Record) :
    (transform index rules r).value.1 = rules.foldlM (fun r rule => rule.effect r) r := by
  induction rules generalizing index r with
  | nil => rfl
  | cons rule rules ih =>
    rw [transform, List.foldlM_cons, effect, Journaled.value_bind]
    split
    · rw [Journaled.value_bind]
      cases ho : Operation.applyAll rule.operations r with
      | none => rfl
      | some r' => exact ih (index + 1) r'
    · exact ih (index + 1) r

/-- Rules of which neither edits what the other one edits or what its filter reads. -/
structure Independent (a b : Rule) : Prop where
  edits : ∀ k ∈ Operation.keys a.operations, ∀ l ∈ Operation.keys b.operations,
    sameName k l = false
  reads_right : ∀ k ∈ Operation.keys a.operations, ∀ name ∈ b.filter.fields,
    sameName k name = false
  reads_left : ∀ k ∈ Operation.keys b.operations, ∀ name ∈ a.filter.fields,
    sameName k name = false

namespace Independent

variable {a b : Rule}

theorem symm (h : Independent a b) : Independent b a where
  edits := fun k hk l hl => sameName_comm l k ▸ h.edits l hl k hk
  reads_right := h.reads_left
  reads_left := h.reads_right

/-- What one of the rules edits makes no difference to the filter of the other. -/
theorem holds_applyAll (h : Independent a b) {r r' : Record}
    (hr : Operation.applyAll a.operations r = some r') : b.filter.holds r' = b.filter.holds r :=
  Filter.holds_congr fun name hname => .of_eq <|
    Operation.lineOf?_applyAll (fun key hkey => h.reads_right key hkey name hname) hr

/-- A rule whose filter does not hold stays without effect after an independent one. -/
theorem effect_of_not_holds (h : Independent a b) {r : Record}
    (hb : (b.filter.holds r).value = false) : (a.effect r).bind b.effect = a.effect r := by
  rw [effect]
  split
  · cases hr : Operation.applyAll a.operations r with
    | none => rfl
    | some r' =>
      rw [Option.bind_some, effect, h.holds_applyAll hr, hb]
      rfl
  · rw [Option.bind_some, effect, hb]
    rfl

theorem effect_of_holds (h : Independent a b) {r : Record}
    (ha : (a.filter.holds r).value = true) (hb : (b.filter.holds r).value = true) :
    (a.effect r).bind b.effect =
      (Operation.applyAll a.operations r).bind (Operation.applyAll b.operations) := by
  rw [effect, if_pos ha]
  cases hr : Operation.applyAll a.operations r with
  | none => rfl
  | some r' => rw [Option.bind_some, Option.bind_some, effect, h.holds_applyAll hr, if_pos hb]

/-- Independent rules have the same effect in either order. -/
theorem effect_comm (h : Independent a b) (r : Record) :
    (a.effect r).bind b.effect = (b.effect r).bind a.effect := by
  cases hb : (b.filter.holds r).value with
  | false =>
    have hnone : b.effect r = some r := by simp [effect, hb]
    rw [h.effect_of_not_holds hb, hnone, Option.bind_some]
  | true =>
    cases ha : (a.filter.holds r).value with
    | false =>
      have hnone : a.effect r = some r := by simp [effect, ha]
      rw [h.symm.effect_of_not_holds ha, hnone, Option.bind_some]
    | true =>
      rw [h.effect_of_holds ha hb, h.symm.effect_of_holds hb ha,
        Operation.applyAll_comm h.edits]

end Independent

/-- Independent neighbours can change places among other rules. -/
theorem foldlM_effect_swap {a b : Rule} (h : Independent a b) (before after : List Rule)
    (r : Record) :
    (before ++ [a, b] ++ after).foldlM (fun r rule => rule.effect r) r =
      (before ++ [b, a] ++ after).foldlM (fun r rule => rule.effect r) r := by
  have hpair : ∀ r, [a, b].foldlM (fun r rule => rule.effect r) r =
      [b, a].foldlM (fun r rule => rule.effect r) r := by
    intro r
    simpa using h.effect_comm r
  simp only [List.foldlM_append, hpair]

/-- Runs that give the same components and count the same events and removals. The numbers of
rules that matched may differ. -/
def SameWork {α : Type} (x y : α × Stats) : Prop :=
  x.1 = y.1 ∧ x.2.events = y.2.events ∧ x.2.removed = y.2.removed

section

variable {rules rules' : List Rule}
  (h : ∀ r, (transform 0 rules r).value.1 = (transform 0 rules' r).value.1)
include h

theorem process_congr (c : Component) :
    SameWork (process rules c).value (process rules' c).value := by
  rw [process, process]
  split
  · have hc := h c.properties
    rw [Journaled.value_bind, Journaled.value_bind]
    generalize (transform 0 rules c.properties).value = x at hc
    generalize (transform 0 rules' c.properties).value = y at hc
    obtain ⟨out, matched⟩ := x
    obtain ⟨out', matched'⟩ := y
    have hout : out = out' := hc
    subst hout
    cases out <;> exact ⟨rfl, rfl, rfl⟩
  · exact ⟨rfl, rfl, rfl⟩

/-- Rules that make the same of every event do the same work on every calendar. -/
theorem run_congr (components : List Component) :
    SameWork (run rules components).value (run rules' components).value := by
  induction components with
  | nil => exact ⟨rfl, rfl, rfl⟩
  | cons c rest ih =>
    obtain ⟨hc, hevents, hremoved⟩ := process_congr h c
    obtain ⟨hrest, hevents', hremoved'⟩ := ih
    simp only [run, Journaled.value_bind, Journaled.value_pure]
    refine ⟨?_, ?_, ?_⟩
    · rw [hc, hrest]
    · simp only [addStats, hevents, hevents']
    · simp only [addStats, hremoved, hremoved']

end

/-- Independent rules next to each other can change places without a trace in the calendar or in
what is counted of events and removals. -/
theorem run_swap {a b : Rule} (h : Independent a b) (before after : List Rule)
    (components : List Component) :
    SameWork (run (before ++ [a, b] ++ after) components).value
      (run (before ++ [b, a] ++ after) components).value := by
  apply run_congr
  intro r
  rw [value_transform, value_transform, foldlM_effect_swap h]

/-- Hides what a meeting is about where the room says so. -/
def hideTitle : Rule where
  filter := .leaf { left := .field "location", comparison := .contains, right := .literal "Board" }
  operations := [.edit "Summary" "Meeting", .edit "DESCRIPTION" ""]

/-- Removes what has been cancelled or is of no importance. -/
def dropCancelled : Rule where
  filter := .or
    (.leaf { left := .field "STATUS", comparison := .eq, right := .literal "CANCELLED" })
    (.leaf { left := .field "PRIORITY", comparison := .eq, right := .literal "9" })
  operations := [.edit "STATUS" "CONFIRMED", .remove]

theorem independent_hideTitle_dropCancelled : Independent hideTitle dropCancelled :=
  ⟨by decide, by decide, by decide⟩

/-- Two meetings, one of them cancelled, and something that is no event. -/
def boardWeek : List Component := [
  .event [{ name := "SUMMARY", values := ["Budget"] }, { name := "SUMMARY", values := ["Etat"] },
    { name := "Location", values := ["Board room"] }, { name := "DESCRIPTION" }],
  { name := "VTODO", properties := [{ name := "STATUS", values := ["CANCELLED"] }] },
  .event [{ name := "Location", values := ["Board room"] },
    { name := "status", values := ["CANCELLED"] }]]

theorem run_swap_boardWeek : Independent hideTitle dropCancelled ∧
    SameWork (run ([dropCancelled] ++ [hideTitle, dropCancelled] ++ []) boardWeek).value
      (run ([dropCancelled] ++ [dropCancelled, hideTitle] ++ []) boardWeek).value :=
  ⟨independent_hideTitle_dropCancelled,
    run_swap independent_hideTitle_dropCancelled [dropCancelled] [] boardWeek⟩

end Rule

end CalendarRelay
