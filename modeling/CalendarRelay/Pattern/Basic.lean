import CalendarRelay.Pattern.Memory
import CalendarRelay.Pattern.Reader
import CalendarRelay.Pattern.Search

namespace CalendarRelay

open Pattern

/-- A regular expression: its text, the instructions that search for it, and the name of each of
its groups from the first on. -/
structure Pattern where
  source : String
  program : Array Instr
  groups : List (Option String)

/-- A part of a text, from the character at `start` up to the one at `stop`. -/
structure Span where
  start : Nat
  stop : Nat
  deriving DecidableEq

/-- Where a pattern has matched, and where each of its groups has, from the first on. -/
structure Match where
  whole : Span
  groups : List (Option Span)
  deriving DecidableEq

namespace Pattern

def Expr.toPattern (source : String) (e : Expr) : Pattern :=
  let found := e.groups
  let count := found.foldl (fun n g => max n g.1) 0
  { source
    program := e.program
    groups := (List.range count).map fun i =>
      (found.find? fun g => g.1 == i + 1).bind fun g => g.2 }

/-- The pattern that a text writes. A text that is no regular expression, or one that would take
too much memory, has none. -/
def ofText? (source : String) : Option Pattern := do
  let tree ← Tree.ofText? source
  let (e, _) ← Expr.ofTree? {} tree
  if e.fitsMemory then some (e.toPattern source) else none

def groupCount (p : Pattern) : Nat := p.groups.length

/-- The index of the group with the name, counted from one. -/
def groupNamed? (p : Pattern) (name : String) : Option Nat :=
  (p.groups.findIdx? (· == some name)).map (· + 1)

def span? (slots : Slots) (group : Nat) : Option Span :=
  match slots[2 * group]?, slots[2 * group + 1]? with
  | some (some start), some (some stop) => some ⟨start, stop⟩
  | _, _ => none

/-- The first match of the pattern in a text. -/
def find? (p : Pattern) (text : List Char) : Option Match := do
  let slots ← search p.program (2 * (p.groupCount + 1)) 0 none [] none text
  return ⟨← span? slots 0, (List.range p.groupCount).map fun i => span? slots (i + 1)⟩

def isMatch (p : Pattern) (text : String) : Bool := (p.find? text.toList).isSome

end Pattern

/-- The part of a text that a span covers. -/
def Span.slice (s : Span) (text : List Char) : List Char := (text.take s.stop).drop s.start

end CalendarRelay
