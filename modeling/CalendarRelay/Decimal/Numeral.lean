import CalendarRelay.Decimal.Binary64
import CalendarRelay.Text.Ascii
import CalendarRelay.Text.Scan

namespace CalendarRelay.Decimal

open CalendarRelay.Text

/-- The leading digits of a text and what follows them. -/
def leadingDigits (cs : List Char) : List Char × List Char :=
  (cs.takeWhile isDigit, cs.dropWhile isDigit)

def natOf (digits : List Char) : Nat := ofDigits 10 (digits.map digitValue)

/-- An optional sign and what follows it. -/
def signed : List Char → Bool × List Char
  | '-' :: cs => (true, cs)
  | '+' :: cs => (false, cs)
  | cs => (false, cs)

/-- The exponent after the digits of a numeral; nothing at all stands for zero. -/
def exponentOf? : List Char → Option Int
  | [] => some 0
  | c :: cs =>
    if c = 'e' ∨ c = 'E' then
      let (negative, digits) := signed cs
      if digits ≠ [] ∧ digits.all isDigit then
        some (if negative then -(natOf digits : Int) else natOf digits)
      else none
    else none

/-- The digits after the point of a numeral and what follows them. -/
def fractionOf : List Char → List Char × List Char
  | '.' :: cs => leadingDigits cs
  | cs => ([], cs)

/-- The double that an unsigned numeral or word writes. -/
def unsigned? (negative : Bool) (cs : List Char) : Option Binary64 :=
  let word := String.ofList (cs.map Char.toLower)
  if word = "inf" ∨ word = "infinity" then some (.infinity negative)
  else if word = "nan" then some .nan
  else
    let (whole, rest) := leadingDigits cs
    let (fraction, rest) := fractionOf rest
    if whole = [] ∧ fraction = [] then none
    else (exponentOf? rest).map fun e =>
      .ofDecimal negative (natOf (whole ++ fraction)) (e - fraction.length)

/-- The double that a text writes, correctly rounded. -/
def Binary64.ofText? (s : String) : Option Binary64 :=
  let (negative, cs) := signed s.toList
  unsigned? negative cs

/-- The whole number of digits with an optional plus sign, below the bound. -/
def natBelow? (bound : Nat) (s : String) : Option Nat :=
  let cs := match s.toList with
    | '+' :: cs => cs
    | cs => cs
  if cs ≠ [] ∧ cs.all isDigit ∧ natOf cs < bound then some (natOf cs) else none

/-- Whether a number with a sign fits sixty-four bits. -/
def fitsInt64 (n : Int) : Bool :=
  let half : Int := Int.ofNat (UInt64.size / 2)
  decide (-half ≤ n) && decide (n < half)

/-- The whole number of digits with an optional sign, when it fits sixty-four bits. -/
def int64? (s : String) : Option Int :=
  let (negative, cs) := signed s.toList
  let n : Int := if negative then -(natOf cs : Int) else natOf cs
  if cs ≠ [] ∧ cs.all isDigit ∧ fitsInt64 n then some n else none

end CalendarRelay.Decimal
