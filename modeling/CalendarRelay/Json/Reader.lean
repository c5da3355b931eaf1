import CalendarRelay.Json.Value
import CalendarRelay.Decimal.Numeral

namespace CalendarRelay.Json

open CalendarRelay.Text CalendarRelay.Decimal

def isSpace (c : Char) : Bool := c == ' ' || c == '\n' || c == '\t' || c == '\r'

def skipSpace (cs : List Char) : List Char := cs.dropWhile isSpace

/-- The code unit that four hexadecimal digits write. -/
def unit? (a b c d : Char) : Option Nat := do
  return ofDigits 16 [← hexValue? a, ← hexValue? b, ← hexValue? c, ← hexValue? d]

def isLead (n : Nat) : Bool := 0xD800 ≤ n && n < 0xDC00

def isTrail (n : Nat) : Bool := 0xDC00 ≤ n && n < 0xE000

/-- The character that a letter after a backslash stands for. -/
def escaped? : Char → Option Char
  | '"' => some '"'
  | '\\' => some '\\'
  | '/' => some '/'
  | 'b' => some '\x08'
  | 'f' => some '\x0c'
  | 'n' => some '\n'
  | 'r' => some '\r'
  | 't' => some '\t'
  | _ => none

/-- The rest of a string after its opening quote; `done` holds what has been read, last first. -/
def readString (done : List Char) : List Char → Option (String × List Char)
  | [] => none
  | '"' :: rest => some (String.ofList done.reverse, rest)
  | '\\' :: 'u' :: a :: b :: c :: d :: '\\' :: 'u' :: e :: f :: g :: h :: rest =>
    match unit? a b c d, unit? e f g h with
    | some n, some m =>
      if isLead n then
        if isTrail m then
          readString (Char.ofNat (0x10000 + (n - 0xD800) * 0x400 + (m - 0xDC00)) :: done) rest
        else none
      else if isTrail n then none
      else readString (Char.ofNat n :: done) ('\\' :: 'u' :: e :: f :: g :: h :: rest)
    | some n, none =>
      if isLead n || isTrail n then none
      else readString (Char.ofNat n :: done) ('\\' :: 'u' :: e :: f :: g :: h :: rest)
    | none, _ => none
  | '\\' :: 'u' :: a :: b :: c :: d :: rest =>
    match unit? a b c d with
    | some n => if isLead n || isTrail n then none else readString (Char.ofNat n :: done) rest
    | none => none
  | '\\' :: c :: rest =>
    match escaped? c with
    | some e => readString (e :: done) rest
    | none => none
  | c :: rest => if c < ' ' then none else readString (c :: done) rest

/-- The digits appended to `n` as long as the number fits sixty-four bits, and those left over. -/
def keepDigits (n : Nat) : List Char → Nat × List Char
  | [] => (n, [])
  | c :: cs =>
    let next := n * 10 + digitValue c
    if next < UInt64.size then keepDigits next cs else (n, c :: cs)

/-- A number times a power of ten by one rounded product or quotient, two for very small ones;
nothing when the result is too large. -/
def scaleBy? (x : Binary64) (e : Int) : Option Binary64 :=
  if x.magnitude = 0 then some x
  else if 308 < e then none
  else if 0 ≤ e then
    let y := x.timesTenPow e.toNat
    if y.isInfinite then none else some y
  else
    let k := (-e).toNat
    if k ≤ 308 then some (x.overTenPow k)
    else if k ≤ 616 then some ((x.overTenPow 308).overTenPow (k - 308))
    else some ⟨x.negative, 0⟩

/-- A point with at least one digit after it, if there is a point at all. -/
def readFraction? : List Char → Option (Option (List Char) × List Char)
  | '.' :: rest =>
    let (digits, rest) := leadingDigits rest
    if digits = [] then none else some (some digits, rest)
  | rest => some (none, rest)

/-- An exponent with at least one digit, if there is an exponent at all. -/
def readExponent? : List Char → Option (Option Int × List Char)
  | [] => some (none, [])
  | c :: rest =>
    if c = 'e' ∨ c = 'E' then
      let (negative, rest) := signed rest
      let (digits, rest) := leadingDigits rest
      if digits = [] then none
      else some (some (if negative then -(natOf digits : Int) else natOf digits), rest)
    else some (none, c :: rest)

/-- The value of a number from its digits before and after the point and its exponent. -/
def number? (negative : Bool) (whole : List Char) (fraction : Option (List Char))
    (exponent : Option Int) : Option Json :=
  let (kept, dropped) := keepDigits 0 whole
  if fraction.isNone ∧ exponent.isNone ∧ dropped = [] ∧ negative = false then some (.int kept)
  else if fraction.isNone ∧ exponent.isNone ∧ dropped = [] ∧ 0 < kept ∧ kept ≤ UInt64.size / 2 then
    some (.int (-kept))
  else
    let after := fraction.getD []
    let (kept, unread) := keepDigits kept after
    let shift : Int := Int.ofNat dropped.length - Int.ofNat (after.length - unread.length)
    (scaleBy? (.ofRatio negative kept 1) (shift + exponent.getD 0)).map .float

def readNumber (cs : List Char) : Option (Json × List Char) := do
  let (negative, rest) := match cs with
    | '-' :: rest => (true, rest)
    | rest => (false, rest)
  let (whole, rest) := leadingDigits rest
  guard (whole ≠ [] ∧ (whole.head? = some '0' → whole.length = 1))
  let (fraction, rest) ← readFraction? rest
  let (exponent, rest) ← readExponent? rest
  return (← number? negative whole fraction exponent, rest)

mutual

/-- One value at the start of the text, with at most `depth` levels below it. -/
def readValue : (fuel depth : Nat) → List Char → Option (Json × List Char)
  | 0, _, _ => none
  | fuel + 1, depth, cs =>
    match skipSpace cs with
    | 'n' :: 'u' :: 'l' :: 'l' :: rest => some (.null, rest)
    | 't' :: 'r' :: 'u' :: 'e' :: rest => some (.bool true, rest)
    | 'f' :: 'a' :: 'l' :: 's' :: 'e' :: rest => some (.bool false, rest)
    | '"' :: rest => (readString [] rest).map fun (s, rest) => (.str s, rest)
    | '[' :: rest =>
      match depth with
      | 0 => none
      | depth + 1 =>
        match skipSpace rest with
        | ']' :: rest => some (.arr [], rest)
        | rest => (readItems fuel depth rest).map fun (items, rest) => (.arr items, rest)
    | '\x7b' :: rest =>
      match depth with
      | 0 => none
      | depth + 1 =>
        match skipSpace rest with
        | '\x7d' :: rest => some (.obj [], rest)
        | rest => (readFields fuel depth rest).map fun (fields, rest) => (ofFields fields, rest)
    | rest => readNumber rest

/-- The items of an array up to its closing bracket. -/
def readItems : (fuel depth : Nat) → List Char → Option (List Json × List Char)
  | 0, _, _ => none
  | fuel + 1, depth, cs => do
    let (item, rest) ← readValue fuel depth cs
    match skipSpace rest with
    | ',' :: rest =>
      let (items, rest) ← readItems fuel depth rest
      return (item :: items, rest)
    | ']' :: rest => return ([item], rest)
    | _ => none

/-- The fields of an object up to its closing brace. -/
def readFields : (fuel depth : Nat) → List Char → Option (List (String × Json) × List Char)
  | 0, _, _ => none
  | fuel + 1, depth, cs =>
    match skipSpace cs with
    | '"' :: rest => do
      let (key, rest) ← readString [] rest
      match skipSpace rest with
      | ':' :: rest =>
        let (value, rest) ← readValue fuel depth rest
        match skipSpace rest with
        | ',' :: rest =>
          let (fields, rest) ← readFields fuel depth rest
          return ((key, value) :: fields, rest)
        | '\x7d' :: rest => return ([(key, value)], rest)
        | _ => none
      | _ => none
    | _ => none

end

/-- The value that a whole document writes. There are no comments, trailing commas, lone surrogates
or leading zeros, nothing stands after the value, and values nest at most 127 levels deep. -/
def ofText? (text : String) : Option Json :=
  let cs := text.toList
  match readValue (2 * cs.length + 2) 127 cs with
  | some (value, rest) => if (skipSpace rest).isEmpty then some value else none
  | none => none

end CalendarRelay.Json
