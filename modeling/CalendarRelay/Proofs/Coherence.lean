import CalendarRelay.Proofs.Meaning

namespace CalendarRelay

namespace Decimal.Binary64

theorem order?_swap (x y : Binary64) : y.order? x = (x.order? y).map Ordering.swap := by
  have hswap : compare y.key x.key = (compare x.key y.key).swap := Std.OrientedCmp.eq_swap
  rw [order?, order?, Bool.or_comm, hswap]
  split <;> rfl

theorem same_comm (x y : Binary64) : x.same y = y.same x := by
  have hswap := order?_swap x y
  rw [same, same, hswap]
  cases x.order? y with
  | none => rfl
  | some o => cases o <;> rfl

end Decimal.Binary64

namespace Rule

/-- Whether an operand is a number, and not a text that may be read as one. -/
def Value.isNumber : Value → Bool
  | text _ => false
  | number .. => true

namespace Comparison

section Absent

variable (a b : Option Value)

@[simp] theorem order?_none_left : order? none b = none := by
  cases b <;> rfl

@[simp] theorem order?_none_right : order? a none = none := by
  rcases a with _ | _ | _ <;> rfl

@[simp] theorem looselyEqual_none_left : looselyEqual none b = b.isNone := by
  cases b <;> rfl

@[simp] theorem looselyEqual_none_right : looselyEqual a none = a.isNone := by
  rcases a with _ | _ | _ <;> rfl

@[simp] theorem strictlyEqual_none_left : strictlyEqual none b = b.isNone := by
  cases b <;> rfl

@[simp] theorem strictlyEqual_none_right : strictlyEqual a none = a.isNone := by
  rcases a with _ | _ | _ <;> rfl

end Absent

variable {a b : Option Value} {v w : Value}

/-- The order of two operands that are not both texts is that of the numbers they stand for. -/
theorem order?_of_isNumber (h : v.isNumber = true ∨ w.isNumber = true) :
    order? (some v) (some w) = v.toNumber.order? w.toNumber := by
  cases v with
  | number s x => rfl
  | text s =>
    cases w with
    | number t y => rfl
    | text t => simp [Value.isNumber] at h

theorem order?_swap (a b : Option Value) : order? b a = (order? a b).map Ordering.swap := by
  cases a with
  | none => simp
  | some v =>
    cases b with
    | none => simp
    | some w =>
      by_cases hnumber : v.isNumber = true ∨ w.isNumber = true
      · rw [order?_of_isNumber hnumber, order?_of_isNumber hnumber.symm]
        exact Decimal.Binary64.order?_swap _ _
      · cases v with
        | number s x => simp [Value.isNumber] at hnumber
        | text s =>
          cases w with
          | number t y => simp [Value.isNumber] at hnumber
          | text t => exact congrArg some Std.OrientedCmp.eq_swap

/-- Two operands have no order exactly when they are compared as numbers and one of them stands for
no number. -/
theorem order?_eq_none_iff : order? (some v) (some w) = none ↔
    (v.isNumber = true ∨ w.isNumber = true) ∧
      (v.toNumber.isNaN = true ∨ w.toNumber.isNaN = true) := by
  by_cases hnumber : v.isNumber = true ∨ w.isNumber = true
  · rw [order?_of_isNumber hnumber, Decimal.Binary64.order?_eq_none_iff]
    simp [hnumber]
  · cases v with
    | number s x => simp [Value.isNumber] at hnumber
    | text s =>
      cases w with
      | number t y => simp [Value.isNumber] at hnumber
      | text t => simp [order?, Value.isNumber]

/-- Two operands are equal when their order says so. -/
theorem looselyEqual_iff : looselyEqual (some v) (some w) = true ↔
    order? (some v) (some w) = some .eq := by
  cases v with
  | number s x => exact beq_iff_eq
  | text s =>
    cases w with
    | number t y => exact beq_iff_eq
    | text t => simp [looselyEqual, order?]

theorem looselyEqual_comm (a b : Option Value) : looselyEqual a b = looselyEqual b a := by
  cases a with
  | none => simp
  | some v =>
    cases b with
    | none => simp
    | some w =>
      have hswap := order?_swap (some v) (some w)
      rw [Bool.eq_iff_iff, looselyEqual_iff, looselyEqual_iff, hswap]
      cases order? (some v) (some w) with
      | none => simp
      | some o => simp [Ordering.swap_eq_eq]

theorem strictlyEqual_comm (a b : Option Value) : strictlyEqual a b = strictlyEqual b a := by
  cases a with
  | none => simp
  | some v =>
    cases b with
    | none => simp
    | some w =>
      cases v <;> cases w
      · exact BEq.comm
      · rfl
      · rfl
      · exact Decimal.Binary64.same_comm _ _

theorem looselyEqual_of_strictlyEqual (h : strictlyEqual a b = true) : looselyEqual a b = true := by
  cases a with
  | none => simpa using h
  | some v =>
    cases b with
    | none => simp at h
    | some w =>
      cases v <;> cases w
      · exact h
      · simp [strictlyEqual] at h
      · simp [strictlyEqual] at h
      · exact h

/-- Operands that are equal and not strictly so are a text and a number. -/
theorem isNumber_ne_of_looselyEqual (h : looselyEqual (some v) (some w) = true)
    (hstrict : ¬ strictlyEqual (some v) (some w) = true) : v.isNumber ≠ w.isNumber := by
  cases v <;> cases w
  · exact absurd h hstrict
  · simp [Value.isNumber]
  · simp [Value.isNumber]
  · exact absurd h hstrict

/-- The comparison holds between two operands. -/
def Holds (c : Comparison) (a b : Option Value) : Prop := (c.holds a b).value = true

theorem holds_gt_iff : Holds .gt a b ↔ order? a b = some .gt := by
  change (order? a b).any (·.isGT) = true ↔ _
  rcases order? a b with _ | _ | _ | _ <;> simp

theorem holds_lt_iff : Holds .lt a b ↔ order? a b = some .lt := by
  change (order? a b).any (·.isLT) = true ↔ _
  rcases order? a b with _ | _ | _ | _ <;> simp

theorem holds_ge_iff : Holds .ge a b ↔ order? a b = some .gt ∨ order? a b = some .eq := by
  change (order? a b).any (·.isGE) = true ↔ _
  rcases order? a b with _ | _ | _ | _ <;> simp

theorem holds_le_iff : Holds .le a b ↔ order? a b = some .lt ∨ order? a b = some .eq := by
  change (order? a b).any (·.isLE) = true ↔ _
  rcases order? a b with _ | _ | _ | _ <;> simp

theorem holds_ne_iff : Holds .ne a b ↔ ¬ Holds .eq a b := by
  change (!looselyEqual a b) = true ↔ ¬ looselyEqual a b = true
  simp

theorem holds_strictNe_iff : Holds .strictNe a b ↔ ¬ Holds .strictEq a b := by
  change (!strictlyEqual a b) = true ↔ ¬ strictlyEqual a b = true
  simp

/-- The laws of comparing two operands of any kind. -/
structure Coherent (a b : Option Value) : Prop where
  ne_iff : Holds .ne a b ↔ ¬ Holds .eq a b
  strictNe_iff : Holds .strictNe a b ↔ ¬ Holds .strictEq a b
  eq_of_strictEq : Holds .strictEq a b → Holds .eq a b
  eq_comm : Holds .eq a b ↔ Holds .eq b a
  strictEq_comm : Holds .strictEq a b ↔ Holds .strictEq b a
  gt_iff : Holds .gt a b ↔ Holds .lt b a
  ge_iff : Holds .ge a b ↔ Holds .le b a

theorem coherent (a b : Option Value) : Coherent a b where
  ne_iff := holds_ne_iff
  strictNe_iff := holds_strictNe_iff
  eq_of_strictEq := looselyEqual_of_strictlyEqual
  eq_comm := Bool.eq_iff_iff.mp (looselyEqual_comm a b)
  strictEq_comm := Bool.eq_iff_iff.mp (strictlyEqual_comm a b)
  gt_iff := by
    have hswap := order?_swap a b
    rw [holds_gt_iff, holds_lt_iff, hswap]
    rcases order? a b with _ | _ | _ | _ <;> simp
  ge_iff := by
    have hswap := order?_swap a b
    rw [holds_ge_iff, holds_le_iff, hswap]
    rcases order? a b with _ | _ | _ | _ <;> simp

/-- The laws of comparing two operands that are there. -/
structure CoherentValues (v w : Value) : Prop where
  ge_iff : Holds .ge v w ↔ Holds .gt v w ∨ Holds .eq v w
  le_iff : Holds .le v w ↔ Holds .lt v w ∨ Holds .eq v w
  not_lt_and_eq : ¬ (Holds .lt v w ∧ Holds .eq v w)
  not_lt_and_gt : ¬ (Holds .lt v w ∧ Holds .gt v w)
  not_eq_and_gt : ¬ (Holds .eq v w ∧ Holds .gt v w)
  none_iff : (¬ Holds .lt v w ∧ ¬ Holds .eq v w ∧ ¬ Holds .gt v w) ↔
    (v.isNumber = true ∨ w.isNumber = true) ∧
      (v.toNumber.isNaN = true ∨ w.toNumber.isNaN = true)
  kinds_of_eq : Holds .eq v w → ¬ Holds .strictEq v w → v.isNumber ≠ w.isNumber

theorem coherentValues (v w : Value) : CoherentValues v w := by
  have heq : Holds .eq v w ↔ order? (some v) (some w) = some .eq := looselyEqual_iff
  refine ⟨?_, ?_, ?_, ?_, ?_, ?_, isNumber_ne_of_looselyEqual⟩
  · rw [holds_ge_iff, holds_gt_iff, heq]
  · rw [holds_le_iff, holds_lt_iff, heq]
  · rw [holds_lt_iff, heq]
    intro h
    simp [h.1] at h
  · rw [holds_lt_iff, holds_gt_iff]
    intro h
    simp [h.1] at h
  · rw [holds_gt_iff, heq]
    intro h
    simp [h.1] at h
  · rw [← order?_eq_none_iff, holds_lt_iff, holds_gt_iff, heq]
    rcases order? (some v) (some w) with _ | _ | _ | _ <;> simp

/-- The laws of comparing two operands one of which is absent. -/
structure CoherentAbsent (a b : Option Value) : Prop where
  fails : ∀ c ∈ [gt, ge, lt, le, contains, regex], ¬ Holds c a b
  eq_iff : Holds .eq a b ↔ a = none ∧ b = none
  strictEq_iff : Holds .strictEq a b ↔ a = none ∧ b = none

theorem coherentAbsent (h : a = none ∨ b = none) : CoherentAbsent a b := by
  refine ⟨?_, ?_, ?_⟩
  · intro c hc
    simp only [List.mem_cons, List.not_mem_nil, or_false] at hc
    rcases h with rfl | rfl
    · rcases hc with rfl | rfl | rfl | rfl | rfl | rfl <;> simp [Holds, holds]
    · rcases hc with rfl | rfl | rfl | rfl | rfl | rfl <;> cases a <;> simp [Holds, holds]
  · change looselyEqual a b = true ↔ _
    rcases h with rfl | rfl <;> simp
  · change strictlyEqual a b = true ↔ _
    rcases h with rfl | rfl <;> simp

end Comparison

namespace Condition

variable {left right : Operand} {comparison : Comparison} {c d : Condition}

/-- A condition can be made with a negation exactly when it can without. -/
theorem isSome_make?_negate (left : Operand) (comparison : Comparison) (right : Operand) :
    (make? left comparison right true).isSome = (make? left comparison right false).isSome := by
  unfold make?
  split
  · rw [Option.isSome_map, Option.isSome_map]
  · rfl

/-- Negating a condition turns its value around in every event. -/
theorem value_holds_negate (hc : make? left comparison right false = some c)
    (hd : make? left comparison right true = some d) (r : Record) :
    (d.holds r).value = !(c.holds r).value := by
  have hplain := value_holds_of_make? hc r
  have hnegated := value_holds_of_make? hd r
  rw [hplain, hnegated, Bool.bne_true, Bool.bne_false]

end Condition

/-- The comparisons hang together, for operands of every kind. Each inequality is the complement of
its equality, strict equality implies the loose one, and both are symmetric; what is greater one
way is less the other way. Of two operands that are there, one is at least the other when it is
greater or equal, at most one of less, equal and greater holds, none does only where numbers are
compared and one is missing, and only a text and a number are equal without being strictly so. An
absent operand is equal to an absent one and in no other comparison. A condition that is negated is
the complement of the one that is not, so that an equality negated is the inequality. -/
theorem comparisons_coherent :
    (∀ a b, Comparison.Coherent a b) ∧ (∀ v w, Comparison.CoherentValues v w) ∧
    (∀ a b, a = none ∨ b = none → Comparison.CoherentAbsent a b) ∧
    (∀ left comparison right,
      (Condition.make? left comparison right true).isSome =
        (Condition.make? left comparison right false).isSome ∧
      ∀ c d, Condition.make? left comparison right false = some c →
        Condition.make? left comparison right true = some d →
          ∀ r, (d.holds r).value = !(c.holds r).value) ∧
    ∀ left right,
      (∃ c d, Condition.make? left .eq right true = some c ∧
        Condition.make? left .ne right false = some d ∧
          ∀ r, (c.holds r).value = (d.holds r).value) ∧
      ∃ c d, Condition.make? left .strictEq right true = some c ∧
        Condition.make? left .strictNe right false = some d ∧
          ∀ r, (c.holds r).value = (d.holds r).value := by
  refine ⟨Comparison.coherent, Comparison.coherentValues, ?_, ?_, ?_⟩
  · intro a b h
    exact Comparison.coherentAbsent h
  · intro left comparison right
    have hmade := Condition.isSome_make?_negate left comparison right
    exact ⟨hmade, fun c d hc hd r => Condition.value_holds_negate hc hd r⟩
  · intro left right
    have heq : Condition.make? left .eq right true =
        some { left, comparison := .eq, right, negate := true } := rfl
    have hne : Condition.make? left .ne right false =
        some { left, comparison := .ne, right } := rfl
    have hstrictEq : Condition.make? left .strictEq right true =
        some { left, comparison := .strictEq, right, negate := true } := rfl
    have hstrictNe : Condition.make? left .strictNe right false =
        some { left, comparison := .strictNe, right } := rfl
    refine ⟨⟨_, _, heq, hne, ?_⟩, _, _, hstrictEq, hstrictNe, ?_⟩
    · intro r
      rw [Condition.value_holds_of_make? heq, Condition.value_holds_of_make? hne]
      simp [Comparison.holds]
    · intro r
      rw [Condition.value_holds_of_make? hstrictEq, Condition.value_holds_of_make? hstrictNe]
      simp [Comparison.holds]

end Rule

end CalendarRelay
