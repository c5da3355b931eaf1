import CalendarRelay.Unicode.CharSet

namespace CalendarRelay.Pattern

inductive Flag
  | ignoreCase
  | multiLine
  | dotAll
  | swapGreed
  | unicode
  | lineEnds
  | extended
  deriving DecidableEq

/-- A change of flags, as in `(?i-m)`. -/
structure FlagChange where
  on : List Flag := []
  off : List Flag := []

inductive Assertion
  | lineStart
  | lineEnd
  | textStart
  | textEnd
  | boundary
  | notBoundary
  | wordStart
  | wordEnd
  | wordStartHalf
  | wordEndHalf
  deriving DecidableEq

/-- A single character. `byte` tells that it was written by two hexadecimal digits. -/
structure Literal where
  char : Char
  byte : Bool := false
  deriving DecidableEq

inductive Shorthand
  | digit
  | blank
  | word
  deriving DecidableEq

/-- A property of characters: by one name, or by the name of a property and a value of it. -/
inductive Query
  | bare (name : String)
  | pair (name value : String)

inductive SetOp
  | inter
  | diff
  | symmDiff
  deriving DecidableEq

/-- A class of characters as it was written. -/
inductive ClassTree
  | range (first last : Literal)
  | posix (ranges : List (Nat × Nat)) (negated : Bool)
  | shorthand (kind : Shorthand) (negated : Bool)
  | property (query : Query) (negated : Bool)
  | bracket (negated : Bool) (inner : ClassTree)
  | union (items : List ClassTree)
  | combine (op : SetOp) (left right : ClassTree)

inductive GroupKind
  | capture (index : Nat) (name : Option String)
  | plain (change : FlagChange)

inductive Tree
  | empty
  | flags (change : FlagChange)
  | literal (l : Literal)
  | dot
  | assertion (a : Assertion)
  | cls (c : ClassTree)
  | times (t : Tree) (least : Nat) (most : Option Nat) (greedy : Bool)
  | group (kind : GroupKind) (t : Tree)
  | cat (items : List Tree)
  | alt (branches : List Tree)

namespace Tree

/-- The sequence of the items. -/
def ofItems : List Tree → Tree
  | [] => .empty
  | [t] => t
  | items => .cat items

/-- The choice between the branches. -/
def ofBranches : List Tree → Tree
  | [t] => t
  | branches => .alt branches

end Tree

mutual

/-- How deep brackets and operators are nested within a class. -/
def ClassTree.depth : ClassTree → Nat
  | .bracket _ inner => inner.depth + 1
  | .union items => ClassTree.depths items + 1
  | .combine _ l r => max l.depth r.depth + 1
  | _ => 0

def ClassTree.depths : List ClassTree → Nat
  | [] => 0
  | c :: rest => max c.depth (ClassTree.depths rest)

end

mutual

/-- How deep groups, repetitions, sequences, alternatives and classes are nested. -/
def Tree.depth : Tree → Nat
  | .cls c => c.depth
  | .times t _ _ _ => t.depth + 1
  | .group _ t => t.depth + 1
  | .cat items => Tree.depths items + 1
  | .alt branches => Tree.depths branches + 1
  | _ => 0

def Tree.depths : List Tree → Nat
  | [] => 0
  | t :: rest => max t.depth (Tree.depths rest)

end

end CalendarRelay.Pattern
