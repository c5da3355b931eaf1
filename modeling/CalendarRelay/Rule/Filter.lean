import CalendarRelay.Rule.Condition
import CalendarRelay.Rule.Predicate
import CalendarRelay.Rule.Fault

namespace CalendarRelay.Rule

/-- How a node of a filter joins what it holds. -/
inductive Joint
  | and
  | or
  | test
  deriving DecidableEq

namespace Joint

def ofKey? (key : String) : Option Joint :=
  if key = "and" then some and
  else if key = "or" then some or
  else if key = "if" then some test
  else none

def key : Joint → String
  | and => "and"
  | or => "or"
  | test => "if"

end Joint

abbrev Filter := Predicate Condition

namespace Filter

/-- Whether the filter lets its operations at an event. -/
def holds (f : Filter) (r : Record) : Journaled Bool := f.evalM fun c => c.holds r

def textField (place : Json.Location) (fields : List (String × Json)) (name : String) :
    Except Fault String :=
  match Json.lookup? fields name with
  | some (.str s) => .ok s
  | some _ => .error ⟨place, .operandNotString name⟩
  | none => .error ⟨place, .operandMissing name⟩

/-- The condition of an `if` node. -/
def conditionOf (place : Json.Location) (fields : List (String × Json)) :
    Except Fault Condition := do
  let left ← textField place fields "left"
  let symbol ← textField place fields "operator"
  let right ← textField place fields "right"
  let some comparison := Comparison.ofSymbol? symbol | .error ⟨place, .unknownOperator symbol⟩
  let negate ← match Json.lookup? fields "negate" with
    | none => pure false
    | some (.bool b) => pure b
    | some found => .error ⟨place, .negateNotBool found⟩
  match Condition.make? (.ofText left) comparison (.ofText right) negate with
  | some c => return c
  | none => .error ⟨place, .invalidPattern right⟩

/-- The joint that an object names under `key`. -/
def jointOf (place : Json.Location) (fields : List (String × Json)) : Except Fault Joint :=
  match Json.lookup? fields "key" with
  | none => .error ⟨place, .keyMissing⟩
  | some found =>
    match found.string?.bind Joint.ofKey? with
    | some joint => .ok joint
    | none => .error ⟨place, .unknownKey found⟩

/-- The filter that a definition gives at the place. -/
def ofJson (place : Json.Location) (j : Json) : Except Fault Filter :=
  match j with
  | .obj fields =>
    match jointOf place fields with
    | .error e => .error e
    | .ok .test => (conditionOf place fields).map .leaf
    | .ok joint =>
      match hl : Json.lookup? fields "left" with
      | none => .error ⟨place, .branchMissing joint.key "left"⟩
      | some left =>
        match hr : Json.lookup? fields "right" with
        | none => .error ⟨place, .branchMissing joint.key "right"⟩
        | some right =>
          have := Json.sizeOf_lt_of_lookup? hl
          have := Json.sizeOf_lt_of_lookup? hr
          match ofJson (place ++ [.key "left"]) left with
          | .error e => .error e
          | .ok l =>
            (ofJson (place ++ [.key "right"]) right).map fun r =>
              if joint = .and then .and l r else .or l r
  | _ => .error ⟨place, .filterNotObject⟩
termination_by sizeOf j
decreasing_by all_goals simp_all only [Json.obj.sizeOf_spec]

end Filter

end CalendarRelay.Rule
