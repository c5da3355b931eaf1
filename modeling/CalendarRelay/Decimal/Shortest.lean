import CalendarRelay.Decimal.Binary64

namespace CalendarRelay.Decimal

/-- The decimal number `digits * 10 ^ exponent`. -/
structure Shortest where
  digits : Nat
  exponent : Int
  deriving DecidableEq

namespace Shortest

/-- The decimal without trailing zeros. -/
def trimmed : (fuel : Nat) → Shortest → Shortest
  | 0, x => x
  | fuel + 1, x =>
    if x.digits % 10 = 0 ∧ x.digits ≠ 0 then trimmed fuel ⟨x.digits / 10, x.exponent + 1⟩ else x

/-- The reals that round to one double, as a range of fractions over a common denominator. -/
structure Interval where
  low : Nat
  value : Nat
  high : Nat
  denominator : Nat
  closed : Bool

/-- A double keeps half the gap to each neighbour; the ends belong to it when its mantissa is
even, and below a power of two the gap is half as wide. -/
def interval (magnitude : Nat) : Interval :=
  let a := Binary64.scaled magnitude
  let e := a.exponent - 2
  let up (n : Nat) : Nat := n * twoPow e.toNat
  let narrow := magnitude % twoPow 52 = 0 ∧ twoPow 53 ≤ magnitude
  { low := up (4 * a.mantissa - if narrow then 1 else 2)
    value := up (4 * a.mantissa)
    high := up (4 * a.mantissa + 2)
    denominator := twoPow (-e).toNat
    closed := a.mantissa % 2 = 0 }

/-- Whether the decimal lies in the interval. -/
def liesIn (x : Shortest) (i : Interval) : Bool :=
  let n := x.digits * tenPow x.exponent.toNat * i.denominator
  let d := tenPow (-x.exponent).toNat
  if i.closed then i.low * d ≤ n && n ≤ i.high * d else i.low * d < n && n < i.high * d

/-- The distance of the decimal from the value of the interval, over a denominator that depends
on the exponent alone. -/
def distance (x : Shortest) (i : Interval) : Nat :=
  let n := x.digits * tenPow x.exponent.toNat * i.denominator
  let v := i.value * tenPow (-x.exponent).toNat
  (n - v) + (v - n)

/-- The power of ten of the leading digit of `n / d`, from a guess that is never too high. -/
def leadingPlace (n d : Nat) (guess : Int) : Int :=
  let reaches (e : Int) : Bool := d * tenPow e.toNat ≤ n * tenPow (-e).toNat
  if reaches (guess + 2) then guess + 2 else if reaches (guess + 1) then guess + 1 else guess

/-- The nearer of the value's two neighbours on the grid of `10 ^ exponent` that lie in the
interval. -/
def onGrid (i : Interval) (exponent : Int) : Option Shortest :=
  let below := i.value * tenPow (-exponent).toNat / (i.denominator * tenPow exponent.toNat)
  let a : Shortest := ⟨below, exponent⟩
  let b : Shortest := ⟨below + 1, exponent⟩
  match a.liesIn i, b.liesIn i with
  | true, true =>
    if a.distance i < b.distance i then some a
    else if b.distance i < a.distance i then some b
    else some (if below % 2 = 0 then a else b)
  | true, false => some a
  | false, true => some b
  | false, false => none

/-- The shortest decimal that reads back as the finite, positive magnitude; seventeen digits
always do. -/
def ofMagnitude (magnitude : Nat) : Shortest :=
  if magnitude = 0 then ⟨0, 0⟩
  else
    let i := interval magnitude
    let guess := (Binary64.leadingExponent i.value i.denominator) * 30103 / 100000 - 1
    let place := leadingPlace i.value i.denominator guess
    let grids := (List.range 17).map fun k => place - Int.ofNat k
    match grids.findSome? (onGrid i) with
    | some x => trimmed 20 x
    | none => ⟨i.value, 0⟩

/-- The digits of the decimal in positional notation, with `point` after a whole number. -/
def positional (x : Shortest) (point : String) : String :=
  let ds := Nat.toDigits 10 x.digits
  if 0 ≤ x.exponent then
    String.ofList (ds ++ List.replicate x.exponent.toNat '0') ++ point
  else
    let places := (-x.exponent).toNat
    let padded := List.replicate (places + 1 - ds.length) '0' ++ ds
    let whole := padded.length - places
    String.ofList (padded.take whole) ++ "." ++ String.ofList (padded.drop whole)

/-- The digits of the decimal with one before the point and a power of ten with its sign. -/
def scientific (x : Shortest) : String :=
  let ds := Nat.toDigits 10 x.digits
  let power := x.exponent + (ds.length - 1 : Nat)
  let fraction := match ds.drop 1 with
    | [] => ""
    | rest => "." ++ String.ofList rest
  String.ofList (ds.take 1) ++ fraction ++ "e" ++ (if 0 < power then "+" else "") ++
    toString power

end Shortest

namespace Binary64

def signText (x : Binary64) : String := if x.negative then "-" else ""

/-- A finite number as a JSON document shows it: in positions from `0.00001` up to sixteen digits
before the point, otherwise with an exponent. -/
def toJsonText (x : Binary64) : String :=
  let s := Shortest.ofMagnitude x.magnitude
  let power := s.exponent + ((Nat.toDigits 10 s.digits).length - 1 : Nat)
  x.signText ++
    if x.magnitude = 0 ∨ (-6 < power ∧ power < 16) then s.positional ".0" else s.scientific

/-- A number as a setting shows it: always in positions, whole numbers without a point. -/
def toPlainText (x : Binary64) : String :=
  if x.isNaN then "NaN"
  else if x.isInfinite then x.signText ++ "inf"
  else x.signText ++ (Shortest.ofMagnitude x.magnitude).positional ""

end Binary64

end CalendarRelay.Decimal
