namespace CalendarRelay.Decimal

def twoPow (n : Nat) : Nat := Nat.pow 2 n

def tenPow (n : Nat) : Nat := Nat.pow 10 n

/-- A double. `magnitude` is the exponent field and the fraction field read as one number, so
that equal steps of it are neighbouring numbers. -/
structure Binary64 where
  negative : Bool
  magnitude : Nat
  deriving DecidableEq, Inhabited

namespace Binary64

/-- The magnitude of infinity; what lies above it is no number. -/
def top : Nat := 0x7FF * twoPow 52

def zero : Binary64 := ⟨false, 0⟩

def infinity (negative : Bool) : Binary64 := ⟨negative, top⟩

def nan : Binary64 := ⟨false, top + twoPow 51⟩

def isNaN (x : Binary64) : Bool := decide (top < x.magnitude)

def isInfinite (x : Binary64) : Bool := x.magnitude == top

def neg (x : Binary64) : Binary64 := ⟨!x.negative, x.magnitude⟩

/-- The place of a number among all numbers; the two zeros share one. -/
def key (x : Binary64) : Int := if x.negative then -(x.magnitude : Int) else x.magnitude

/-- The order of two numbers, or none when one of them is not a number. -/
def order? (x y : Binary64) : Option Ordering :=
  if x.isNaN || y.isNaN then none else some (compare x.key y.key)

def same (x y : Binary64) : Bool := x.order? y == some .eq

theorem order?_eq_none_iff (x y : Binary64) :
    x.order? y = none ↔ x.isNaN = true ∨ y.isNaN = true := by
  simp only [order?]
  split <;> simp_all

/-- The number `mantissa * 2 ^ exponent`. -/
structure Scaled where
  mantissa : Nat
  exponent : Int

/-- The mantissa and binary exponent of a finite magnitude. -/
def scaled (magnitude : Nat) : Scaled :=
  let field := magnitude / twoPow 52
  let fraction := magnitude % twoPow 52
  if field = 0 then ⟨fraction, -1074⟩ else ⟨fraction + twoPow 52, Int.ofNat field - 1075⟩

/-- The whole number nearest to `n / d`; of two at the same distance, the even one. -/
def roundHalfEven (n d : Nat) : Nat :=
  let q := n / d
  let r := n % d
  if 2 * r < d then q else if d < 2 * r then q + 1 else q + q % 2

/-- The exponent of two of the leading digit of `n / d`. -/
def leadingExponent (n d : Nat) : Int :=
  let e : Int := (n.log2 : Int) - d.log2
  if n * twoPow (-e).toNat < d * twoPow e.toNat then e - 1 else e

/-- The double nearest to `n / d`, with a tie going to the even neighbour. -/
def ofRatio (negative : Bool) (n d : Nat) : Binary64 :=
  if n = 0 then ⟨negative, 0⟩
  else
    let q := max (leadingExponent n d - 52) (-1074)
    let m := roundHalfEven (n * twoPow (-q).toNat) (d * twoPow q.toNat)
    ⟨negative, min ((q + 1074).toNat * twoPow 52 + m) top⟩

/-- The double nearest to `digits * 10 ^ exponent`. -/
def ofDecimal (negative : Bool) (digits : Nat) (exponent : Int) : Binary64 :=
  let places : Int := (Nat.toDigits 10 digits).length
  if digits = 0 then ⟨negative, 0⟩
  else if 400 < exponent + places then infinity negative
  else if exponent + places < -400 then ⟨negative, 0⟩
  else ofRatio negative (digits * tenPow exponent.toNat) (tenPow (-exponent).toNat)

/-- The product of a finite number with a power of ten, each rounded to a double. -/
def timesTenPow (x : Binary64) (n : Nat) : Binary64 :=
  let a := scaled x.magnitude
  let b := scaled (ofDecimal false 1 n).magnitude
  let e := a.exponent + b.exponent
  ofRatio x.negative (a.mantissa * b.mantissa * twoPow e.toNat) (twoPow (-e).toNat)

/-- The quotient of a finite number by a power of ten, each rounded to a double. -/
def overTenPow (x : Binary64) (n : Nat) : Binary64 :=
  let a := scaled x.magnitude
  let b := scaled (ofDecimal false 1 n).magnitude
  let e := a.exponent - b.exponent
  ofRatio x.negative (a.mantissa * twoPow e.toNat) (b.mantissa * twoPow (-e).toNat)

/-- The sixty-four bits of the number. -/
def toBits (x : Binary64) : Nat := (if x.negative then twoPow 63 else 0) + x.magnitude

/-- The whole number nearest to `x`, halves going away from zero, kept within zero and `bound`. -/
def clampToNat (x : Binary64) (bound : Nat) : Nat :=
  if x.isNaN || x.negative then 0
  else if x.isInfinite then bound
  else
    let a := scaled x.magnitude
    let d := twoPow (-a.exponent).toNat
    min bound ((2 * (a.mantissa * twoPow a.exponent.toNat) + d) / (2 * d))

end Binary64

end CalendarRelay.Decimal
