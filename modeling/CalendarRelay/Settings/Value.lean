import CalendarRelay.Decimal.Shortest
import CalendarRelay.Decimal.Numeral

namespace CalendarRelay.Settings

open Decimal (Binary64)

inductive Value
  | nothing
  | bool (b : Bool)
  | int (n : Int)
  | float (x : Binary64)
  | text (s : String)
  | list (items : List Value)
  | table (entries : List (String × Value))
  deriving Inhabited

namespace Value

/-- Every single value is a text. -/
def asText? : Value → Option String
  | bool b => some (if b then "true" else "false")
  | int n => some (toString n)
  | float x => some x.toPlainText
  | text s => some s
  | _ => none

def isYes (s : String) : Bool := s == "true" || s == "on" || s == "yes"

def isNo (s : String) : Bool := s == "false" || s == "off" || s == "no"

/-- A number is true unless it is zero, and some words and digits in any case have a truth
value. -/
def asBool? : Value → Option Bool
  | bool b => some b
  | int n => some (n != 0)
  | float x => some !(x.same .zero)
  | text s =>
    let s := Text.lower s
    if s = "1" ∨ isYes s then some true
    else if s = "0" ∨ isNo s then some false
    else none
  | _ => none

/-- The greatest number of sixty-four bits. -/
def maxNat : Nat := UInt64.size - 1

/-- A whole number: truth values count as one and zero, and fractions are rounded. -/
def asNat? : Value → Option Nat
  | bool b => some (if b then 1 else 0)
  | int n => if 0 ≤ n then some n.toNat else none
  | float x => some (x.clampToNat maxNat)
  | text s =>
    let word := Text.lower s
    if isYes word then some 1
    else if isNo word then some 0
    else Decimal.natBelow? (maxNat + 1) s
  | _ => none

/-- A whole number below a bound. -/
def asNatBelow? (bound : Nat) (v : Value) : Option Nat :=
  v.asNat?.filter fun n => decide (n < bound)

/-- The value of a variable of the environment: a truth value, a number, or else the text. -/
def ofVariable (s : String) : Value :=
  let word := Text.lower s
  if word = "true" then .bool true
  else if word = "false" then .bool false
  else
    match Decimal.int64? s with
    | some n => .int n
    | none =>
      match Binary64.ofText? s with
      | some x => .float x
      | none => .text s

end Value

end CalendarRelay.Settings
