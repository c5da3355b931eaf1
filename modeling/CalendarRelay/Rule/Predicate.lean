namespace CalendarRelay.Rule

inductive Predicate (α : Type)
  | always
  | leaf (a : α)
  | and (l r : Predicate α)
  | or (l r : Predicate α)
  deriving Inhabited

/-- The two branches of a joint. -/
inductive Side
  | left
  | right
  deriving DecidableEq

namespace Predicate

/-- The value of a predicate, where evaluating a leaf may have effects. -/
def evalM [Monad m] (leaf : α → m Bool) : Predicate α → m Bool
  | always => pure true
  | .leaf a => leaf a
  | .and l r => do if ← l.evalM leaf then r.evalM leaf else return false
  | .or l r => do if ← l.evalM leaf then return true else r.evalM leaf

end Predicate

end CalendarRelay.Rule
