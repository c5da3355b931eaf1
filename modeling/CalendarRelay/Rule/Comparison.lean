import CalendarRelay.Rule.Operand
import CalendarRelay.Pattern.Basic
import CalendarRelay.Unicode.Lower
import CalendarRelay.Journal.Basic

namespace CalendarRelay.Rule

inductive Comparison
  | eq
  | ne
  | strictEq
  | strictNe
  | gt
  | ge
  | lt
  | le
  | contains
  | regex
  deriving DecidableEq

namespace Comparison

def all : List Comparison := [eq, ne, strictEq, strictNe, gt, ge, lt, le, contains, regex]

def symbol : Comparison → String
  | eq => "=="
  | ne => "!="
  | strictEq => "==="
  | strictNe => "!=="
  | gt => ">"
  | ge => ">="
  | lt => "<"
  | le => "<="
  | contains => "contains"
  | regex => "regex"

/-- The comparison with the symbol, in letters of any case. -/
def ofSymbol? (s : String) : Option Comparison :=
  all.find? fun c => c.symbol == Unicode.Lower.ofText s

/-- Equality in which a number equals every text that reads as it. -/
def looselyEqual : Option Value → Option Value → Bool
  | some (.text a), some (.text b) => a == b
  | some a, some b => a.toNumber.same b.toNumber
  | none, none => true
  | _, _ => false

/-- Equality that keeps numbers and texts apart. -/
def strictlyEqual : Option Value → Option Value → Bool
  | some (.text a), some (.text b) => a == b
  | some (.number _ x), some (.number _ y) => x.same y
  | none, none => true
  | _, _ => false

/-- The order of two operands. There is none when one is absent or is no number. -/
def order? : Option Value → Option Value → Option Ordering
  | some (.text a), some (.text b) => some (compare a b)
  | some a, some b => a.toNumber.order? b.toNumber
  | _, _ => none

/-- Whether a text matches a pattern that an event gives; a pattern that cannot be read is
reported and matches nothing. -/
def matchesText (text pattern : String) : Journaled Bool :=
  match Pattern.ofText? pattern with
  | some p => pure (p.isMatch text)
  | none => do
    Journaled.note (.patternInvalid pattern)
    return false

/-- Whether the comparison holds between two operands. -/
def holds (c : Comparison) (left right : Option Value) : Journaled Bool :=
  match c with
  | eq => pure (looselyEqual left right)
  | ne => pure !(looselyEqual left right)
  | strictEq => pure (strictlyEqual left right)
  | strictNe => pure !(strictlyEqual left right)
  | gt => pure ((order? left right).any (·.isGT))
  | ge => pure ((order? left right).any (·.isGE))
  | lt => pure ((order? left right).any (·.isLT))
  | le => pure ((order? left right).any (·.isLE))
  | contains =>
    match left, right with
    | some a, some b => pure (Text.occursIn b.source.toList a.source.toList)
    | _, _ => pure false
  | regex =>
    match left, right with
    | some a, some b => matchesText a.source b.source
    | _, _ => pure false

end Comparison

end CalendarRelay.Rule
