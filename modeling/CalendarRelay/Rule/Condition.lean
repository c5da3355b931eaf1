import CalendarRelay.Rule.Comparison

namespace CalendarRelay.Rule

structure Condition where
  left : Operand
  comparison : Comparison
  right : Operand
  negate : Bool := false
  pattern : Option Pattern := none

namespace Condition

/-- The condition of its parts; there is none when a pattern in it cannot be read. -/
def make? (left : Operand) (comparison : Comparison) (right : Operand) (negate : Bool) :
    Option Condition :=
  match comparison, right with
  | .regex, .literal source =>
    (Pattern.ofText? source).map fun p => { left, comparison, right, negate, pattern := some p }
  | _, _ => some { left, comparison, right, negate }

/-- Whether the condition holds of an event. -/
def holds (c : Condition) (r : Record) : Journaled Bool := do
  let left := c.left.resolve? r
  let matched ←
    match c.pattern with
    | some p => pure (left.any fun v => p.isMatch v.source)
    | none => c.comparison.holds left (c.right.resolve? r)
  return matched != c.negate

end Condition

end CalendarRelay.Rule
