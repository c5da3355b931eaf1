import CalendarRelay.Rule.Pipeline

namespace CalendarRelay

namespace Journaled

/-- A computation that writes nothing but notices into its journal. -/
def Noting (x : Journaled α) : Prop := ∀ e ∈ x.journal, ∃ n, e = .note n

section

variable {x : Journaled α} {f : α → Journaled β}

theorem noting_pure (a : α) : (pure a : Journaled α).Noting := by
  intro e he
  simp at he

theorem noting_note (n : Notice) : (note n).Noting := by
  intro e he
  exact ⟨n, List.mem_singleton.mp he⟩

theorem Noting.bind (hx : x.Noting) (hf : (f x.value).Noting) : (x >>= f).Noting := by
  intro e he
  rcases List.mem_append.mp he with hfirst | hrest
  · exact hx e hfirst
  · exact hf e hrest

theorem Noting.moves_eq (h : x.Noting) : Entry.moves x.journal = [] := by
  rw [Entry.moves, List.filterMap_eq_nil_iff]
  intro e he
  obtain ⟨n, rfl⟩ := h e he
  rfl

theorem Noting.fetches_eq (h : x.Noting) : Entry.fetches x.journal = [] := by
  rw [Entry.fetches, List.filterMap_eq_nil_iff]
  intro e he
  obtain ⟨n, rfl⟩ := h e he
  rfl

end

end Journaled

open Journaled

namespace Rule

theorem Comparison.noting_matchesText (text pattern : String) :
    (matchesText text pattern).Noting := by
  rw [matchesText]
  split
  · exact noting_pure _
  · exact (noting_note _).bind (noting_pure _)

theorem Comparison.noting_holds (c : Comparison) (left right : Option Value) :
    (c.holds left right).Noting := by
  cases c with
  | contains =>
    cases left with
    | none => exact noting_pure _
    | some a => cases right <;> exact noting_pure _
  | regex =>
    cases left with
    | none => exact noting_pure _
    | some a =>
      cases right with
      | none => exact noting_pure _
      | some b => exact noting_matchesText _ _
  | _ => exact noting_pure _

theorem Condition.noting_holds (c : Condition) (r : Record) : (c.holds r).Noting := by
  rw [holds]
  split
  · exact (noting_pure _).bind (noting_pure _)
  · exact (c.comparison.noting_holds _ _).bind (noting_pure _)

theorem Predicate.noting_evalM {leaf : α → Journaled Bool} (h : ∀ a, (leaf a).Noting)
    (p : Predicate α) : (p.evalM leaf).Noting := by
  induction p with
  | always => exact noting_pure _
  | leaf a => exact h a
  | and l r hl hr =>
    refine hl.bind ?_
    split
    · exact hr
    · exact noting_pure _
  | or l r hl hr =>
    refine hl.bind ?_
    split
    · exact noting_pure _
    · exact hr

theorem Filter.noting_holds (f : Filter) (r : Record) : (f.holds r).Noting :=
  Predicate.noting_evalM (fun c => c.noting_holds r) f

theorem noting_transform (index : Nat) (rules : List Rule) (r : Record) :
    (transform index rules r).Noting := by
  induction rules generalizing index r with
  | nil => exact noting_pure _
  | cons rule rules ih =>
    rw [transform]
    refine (rule.filter.noting_holds r).bind ?_
    split
    · refine (noting_note _).bind ?_
      split
      · exact noting_pure _
      · exact (ih _ _).bind (noting_pure _)
    · exact ih _ _

theorem noting_process (rules : List Rule) (c : Component) : (process rules c).Noting := by
  rw [process]
  split
  · refine (noting_transform 0 rules c.properties).bind ?_
    split <;> exact noting_pure _
  · exact noting_pure _

/-- Rules count nothing and ask for nothing themselves. -/
theorem noting_run (rules : List Rule) (components : List Component) :
    (run rules components).Noting := by
  induction components with
  | nil => exact noting_pure _
  | cons c rest ih => exact (noting_process rules c).bind (ih.bind (noting_pure _))

end Rule

end CalendarRelay
