import Mathlib
import CalendarRelay.Rule.Pipeline

namespace CalendarRelay

open Rule

namespace Rule

namespace Operation

/-- How an event fares under operations in their order. The first removal is the end of it. -/
inductive Edits : List Operation → Record → Option Record → Prop
  | done (r : Record) : Edits [] r (some r)
  | removed (ops : List Operation) (r : Record) : Edits (remove :: ops) r none
  | edited {op : Operation} {ops : List Operation} {r s : Record} {out : Option Record}
    (happly : op.apply r = some s) (rest : Edits ops s out) : Edits (op :: ops) r out

theorem apply_eq_none_iff {op : Operation} {r : Record} : op.apply r = none ↔ op = remove := by
  cases op <;> simp [apply]

theorem edits_applyAll (ops : List Operation) (r : Record) : Edits ops r (applyAll ops r) := by
  induction ops generalizing r with
  | nil => exact .done r
  | cons op ops ih =>
    rw [applyAll]
    cases happly : op.apply r with
    | none =>
      have hremove : op = remove := apply_eq_none_iff.mp happly
      subst hremove
      exact .removed ops r
    | some s => exact .edited happly (ih s)

theorem Edits.applyAll_eq {ops : List Operation} {r : Record} {out : Option Record}
    (h : Edits ops r out) : applyAll ops r = out := by
  induction h with
  | done r => rfl
  | removed ops r => rfl
  | edited happly _ ih => rw [applyAll, happly, Option.bind_some, ih]

theorem applyAll_eq_iff {ops : List Operation} {r : Record} {out : Option Record} :
    applyAll ops r = out ↔ Edits ops r out := by
  constructor
  · intro h
    exact h ▸ edits_applyAll ops r
  · exact Edits.applyAll_eq

end Operation

/-- The course of an event through rules in their order: what is left of it, and how many of the
rules have matched. Each rule judges the event as the ones before have left it, and a removal is
the end of the course. -/
inductive Course : List Rule → Record → Option Record → Nat → Prop
  | done (r : Record) : Course [] r (some r) 0
  | skipped {rule : Rule} {rules : List Rule} {r : Record} {out : Option Record} {n : Nat}
    (hfilter : (rule.filter.holds r).value = false) (rest : Course rules r out n) :
    Course (rule :: rules) r out n
  | removed {rule : Rule} {rules : List Rule} {r : Record}
    (hfilter : (rule.filter.holds r).value = true)
    (edits : Operation.Edits rule.operations r none) : Course (rule :: rules) r none 1
  | edited {rule : Rule} {rules : List Rule} {r s : Record} {out : Option Record} {n : Nat}
    (hfilter : (rule.filter.holds r).value = true)
    (edits : Operation.Edits rule.operations r (some s)) (rest : Course rules s out n) :
    Course (rule :: rules) r out (n + 1)

section

variable {rules : List Rule} {r : Record} {out : Option Record} {n : Nat}

theorem Course.value_transform (h : Course rules r out n) (index : Nat) :
    (transform index rules r).value = (out, n) := by
  -- the number of a rule goes into the journal only, and is one more for the rest of the rules
  induction h generalizing index with
  | done r => rfl
  | skipped hfilter _ ih =>
    rw [transform, Journaled.value_bind, hfilter]
    exact ih (index + 1)
  | removed hfilter edits =>
    rw [transform, Journaled.value_bind, if_pos hfilter, Journaled.value_bind, edits.applyAll_eq]
    rfl
  | edited hfilter edits _ ih =>
    rw [transform, Journaled.value_bind, if_pos hfilter, Journaled.value_bind, edits.applyAll_eq]
    rw [Journaled.value_bind, ih (index + 1)]
    rfl

theorem exists_course (rules : List Rule) (r : Record) : ∃ out n, Course rules r out n := by
  induction rules generalizing r with
  | nil => exact ⟨some r, 0, .done r⟩
  | cons rule rules ih =>
    cases hfilter : (rule.filter.holds r).value with
    | false =>
      obtain ⟨out, n, rest⟩ := ih r
      exact ⟨out, n, .skipped hfilter rest⟩
    | true =>
      cases happly : Operation.applyAll rule.operations r with
      | none =>
        have edits := Operation.applyAll_eq_iff.mp happly
        exact ⟨none, 1, .removed hfilter edits⟩
      | some s =>
        have edits := Operation.applyAll_eq_iff.mp happly
        obtain ⟨out, n, rest⟩ := ih s
        exact ⟨out, n + 1, .edited hfilter edits rest⟩

/-- An event that no rule matches as it came in stays as it is. -/
theorem course_of_forall_not_holds
    (h : ∀ rule ∈ rules, (rule.filter.holds r).value = false) : Course rules r (some r) 0 := by
  induction rules with
  | nil => exact .done r
  | cons rule rules ih =>
    have hfirst := h rule (by simp)
    have hrest := ih fun rule' hrule => h rule' (by simp [hrule])
    exact .skipped hfirst hrest

end

/-- How a component fares under rules: what is left of it, and how many of the rules have matched.
Of an event only the properties are touched, and nothing of other components. -/
inductive Fares (rules : List Rule) : Component → Option Component → Nat → Prop
  | other {c : Component} (hother : c.isEvent = false) : Fares rules c (some c) 0
  | event {c : Component} {out : Option Record} {n : Nat} (hevent : c.isEvent = true)
    (course : Course rules c.properties out n) :
    Fares rules c (out.map fun r => { c with properties := r }) n

/-- What processing leaves of a component, and how many rules match on the way. -/
def fate (rules : List Rule) (c : Component) : Option Component × Nat :=
  ((process rules c).value.1, (process rules c).value.2.rulesMatched)

section

variable {rules : List Rule} {c : Component} {out : Option Component} {n : Nat}

theorem value_process_of_other (h : c.isEvent = false) :
    (process rules c).value = (some c, {}) := by
  simp [process, h]

theorem value_process_of_course {out : Option Record} (h : c.isEvent = true)
    (course : Course rules c.properties out n) :
    (process rules c).value = (out.map fun r => { c with properties := r },
      { events := 1, removed := if out.isNone then 1 else 0, rulesMatched := n }) := by
  rw [process, if_pos h, Journaled.value_bind, course.value_transform 0]
  cases out <;> rfl

theorem Fares.fate_eq (h : Fares rules c out n) : fate rules c = (out, n) := by
  cases h with
  | other hother => rw [fate, value_process_of_other hother]
  | event hevent course => rw [fate, value_process_of_course hevent course]

theorem fate_of_other (h : c.isEvent = false) : fate rules c = (some c, 0) := by
  apply Fares.fate_eq
  exact .other h

theorem fate_of_course {out : Option Record} (h : c.isEvent = true)
    (course : Course rules c.properties out n) :
    fate rules c = (out.map fun r => { c with properties := r }, n) := by
  apply Fares.fate_eq
  exact .event h course

theorem fares_fate (rules : List Rule) (c : Component) :
    Fares rules c (fate rules c).1 (fate rules c).2 := by
  cases hevent : c.isEvent with
  | false =>
    rw [fate_of_other hevent]
    exact .other hevent
  | true =>
    obtain ⟨out, n, course⟩ := exists_course rules c.properties
    rw [fate_of_course hevent course]
    exact .event hevent course

theorem fate_eq_iff : fate rules c = (out, n) ↔ Fares rules c out n := by
  constructor
  · intro h
    have hfares := fares_fate rules c
    rwa [h] at hfares
  · exact Fares.fate_eq

theorem stats_process (rules : List Rule) (c : Component) : (process rules c).value.2 =
    { events := if c.isEvent then 1 else 0
      removed := if (fate rules c).1.isNone then 1 else 0
      rulesMatched := (fate rules c).2 } := by
  cases hevent : c.isEvent with
  | false => simp [fate, value_process_of_other hevent]
  | true =>
    obtain ⟨out, n, course⟩ := exists_course rules c.properties
    simp [fate, value_process_of_course hevent course]

end

theorem value_run_cons (rules : List Rule) (c : Component) (rest : List Component) :
    (run rules (c :: rest)).value = ((fate rules c).1.toList ++ (run rules rest).value.1,
      addStats (process rules c).value.2 (run rules rest).value.2) := rfl

variable (rules : List Rule) (components : List Component)

theorem components_run :
    (run rules components).value.1 = components.filterMap fun c => (fate rules c).1 := by
  induction components with
  | nil => rfl
  | cons c rest ih =>
    rw [value_run_cons, ih, List.filterMap_cons]
    cases (fate rules c).1 <;> rfl

theorem events_run :
    (run rules components).value.2.events = components.countP Component.isEvent := by
  induction components with
  | nil => rfl
  | cons c rest ih =>
    rw [value_run_cons, List.countP_cons, ← ih, stats_process, Nat.add_comm]
    rfl

theorem removed_run :
    (run rules components).value.2.removed + (run rules components).value.1.length =
      components.length := by
  induction components with
  | nil => rfl
  | cons c rest ih =>
    rw [value_run_cons, stats_process, List.length_append, List.length_cons]
    simp only [addStats]
    cases (fate rules c).1 with
    | none => simp; omega
    | some d => simp; omega

theorem rulesMatched_run_cons (c : Component) :
    (run rules (c :: components)).value.2.rulesMatched =
      (fate rules c).2 + (run rules components).value.2.rulesMatched := by
  rw [value_run_cons, stats_process]
  rfl

theorem rulesMatched_run : (run rules components).value.2.rulesMatched =
    ((components.filter Component.isEvent).map fun c => (fate rules c).2).sum := by
  induction components with
  | nil => rfl
  | cons c rest ih =>
    rw [rulesMatched_run_cons, ih, List.filter_cons]
    cases hevent : c.isEvent with
    | false => simp [fate_of_other hevent]
    | true => simp

theorem fate_of_forall_not_holds {rules : List Rule} {c : Component}
    (h : ∀ rule ∈ rules, (rule.filter.holds c.properties).value = false) :
    fate rules c = (some c, 0) := by
  apply Fares.fate_eq
  cases hevent : c.isEvent with
  | false => exact .other hevent
  | true =>
    have course := course_of_forall_not_holds h
    obtain ⟨name, properties, components⟩ := c
    exact .event hevent course

/-- A run gives every component its own fate and leaves what remains in its place. It counts the
events that came in, the components that are gone, and the rules that matched on the way of each
event. What no rule matches as it came in stays as it is. -/
theorem run_eq_fates (rules : List Rule) :
    (∀ c out n, fate rules c = (out, n) ↔ Fares rules c out n) ∧
      (∀ c, (∀ rule ∈ rules, (rule.filter.holds c.properties).value = false) →
        fate rules c = (some c, 0)) ∧
      ∀ components,
        (run rules components).value.1 = (components.filterMap fun c => (fate rules c).1) ∧
        (run rules components).value.2.events = components.countP Component.isEvent ∧
        (run rules components).value.2.removed + (run rules components).value.1.length =
          components.length ∧
        (run rules components).value.2.rulesMatched =
          ((components.filter Component.isEvent).map fun c => (fate rules c).2).sum := by
  refine ⟨fun c out n => fate_eq_iff, fun c => fate_of_forall_not_holds, ?_⟩
  intro components
  refine ⟨components_run rules components, events_run rules components, ?_, ?_⟩
  · exact removed_run rules components
  · exact rulesMatched_run rules components

def moveRehearsals : Rule where
  filter := .leaf
    { left := .field "SUMMARY", comparison := .contains, right := .literal "Rehearsal" }
  operations := [.edit "LOCATION" "Hall"]

def dropCancelledInHall : Rule where
  filter := .and
    (.leaf { left := .field "location", comparison := .eq, right := .literal "Hall" })
    (.leaf { left := .field "status", comparison := .eq, right := .literal "CANCELLED" })
  operations := [.edit "STATUS" "", .remove, .edit "SUMMARY" ""]

def concert : Component := .event [
  { name := "SUMMARY", values := ["Concert"] }, { name := "LOCATION", values := ["Church"] }]

/-- A time zone, a rehearsal that has been cancelled, and a concert. -/
def season : List Component := [
  { name := "VTIMEZONE" },
  .event [{ name := "SUMMARY", values := ["Rehearsal"] },
    { name := "LOCATION", values := ["Room 2"] }, { name := "STATUS", values := ["CANCELLED"] }],
  concert]

/-- The rehearsal is dropped by the second rule, for the place that the first one has given it. -/
theorem run_eq_fates_season :
    (∀ rule ∈ [moveRehearsals, dropCancelledInHall],
      (rule.filter.holds concert.properties).value = false) ∧
    fate [moveRehearsals, dropCancelledInHall] concert = (some concert, 0) ∧
    (run [moveRehearsals, dropCancelledInHall] season).value =
      ([{ name := "VTIMEZONE" }, concert], { events := 2, removed := 1, rulesMatched := 2 }) := by
  have hconcert : ∀ rule ∈ [moveRehearsals, dropCancelledInHall],
      (rule.filter.holds concert.properties).value = false := by decide +kernel
  have hstays := (run_eq_fates [moveRehearsals, dropCancelledInHall]).2.1 concert hconcert
  exact ⟨hconcert, hstays, by decide +kernel⟩

end Rule

end CalendarRelay
