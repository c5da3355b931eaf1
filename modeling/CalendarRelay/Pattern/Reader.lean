import CalendarRelay.Pattern.Tree
import CalendarRelay.Unicode.Letter
import CalendarRelay.Unicode.Property
import CalendarRelay.Text.Ascii

namespace CalendarRelay.Pattern

open CalendarRelay.Text CalendarRelay.Unicode

/-- The text still to be read, whether blanks and comments in it are skipped, and the groups met
so far. -/
structure Cursor where
  rest : List Char
  extended : Bool := false
  groups : Nat := 0
  names : List String := []

abbrev Scan := StateT Cursor Option

namespace Scan

/-- The text after the blanks and comments at its start. -/
def afterBlanks (comment : Bool) : List Char → List Char
  | [] => []
  | c :: rest =>
    if comment then afterBlanks (c != '\n') rest
    else if Property.blank.contains c then afterBlanks false rest
    else if c = '#' then afterBlanks true rest
    else c :: rest

def skip : Scan Unit :=
  modify fun s => if s.extended then { s with rest := afterBlanks false s.rest } else s

def peek? : Scan (Option Char) := do return (← get).rest.head?

/-- The next character; fails at the end of the text. -/
def peek : Scan Char := do
  let s ← get
  s.rest.head?

def advance : Scan Unit := modify fun s => { s with rest := s.rest.tail }

/-- Steps over one character and the blanks after it. -/
def step : Scan Unit := do
  advance
  skip

def take : Scan Char := do
  let c ← peek
  advance
  return c

def expect (c : Char) : Scan Unit := do guard ((← take) = c)

/-- Steps over the mark when the text starts with it. -/
def accept (mark : String) : Scan Bool := do
  let s ← get
  if mark.toList.isPrefixOf s.rest then
    set { s with rest := s.rest.drop mark.length }
    return true
  else return false

/-- The leading characters that pass the test; in extended text blanks between them are skipped. -/
def spanUpTo (test : Char → Bool) : (fuel : Nat) → Scan (List Char)
  | 0 => return []
  | fuel + 1 => do
    match ← peek? with
    | some c =>
      if test c then
        step
        return c :: (← spanUpTo test fuel)
      else return []
    | none => return []

def spanOf (test : Char → Bool) : Scan (List Char) := do spanUpTo test (← get).rest.length

end Scan

open Scan

/-- The characters that keep their own meaning after a backslash because they have another one
without it. -/
def isMeta (c : Char) : Bool := "\\.+*?()|[]\x7b\x7d^$#&-~".toList.contains c

/-- The other characters that a backslash may stand before without changing them. -/
def isEscapable (c : Char) : Bool :=
  isMeta c || (c.toNat < 0x80 && !isDigit c && !isLetter c && c != '<' && c != '>')

def charOf? (n : Nat) : Option Char :=
  if n ≤ 0x10FFFF ∧ ¬(0xD800 ≤ n ∧ n ≤ 0xDFFF) then some (Char.ofNat n) else none

def isHex (c : Char) : Bool := (hexValue? c).isSome

def hexChar? (digits : List Char) : Option Char :=
  charOf? (ofDigits 16 (digits.filterMap hexValue?))

/-- A character given by as many hexadecimal digits as its letter asks for, or by any number of
them in braces. -/
def readHex (letter : Char) : Scan Literal := do
  step
  if (← peek) = '\x7b' then
    step
    let digits ← spanOf isHex
    guard ((← peek) = '\x7d')
    step
    guard (digits ≠ [])
    return { char := ← hexChar? digits }
  else
    let places := if letter = 'x' then 2 else if letter = 'u' then 4 else 8
    let digits ← spanUpTo isHex places
    guard (digits.length = places)
    return { char := ← hexChar? digits, byte := letter = 'x' }

/-- A property by its one-letter name or by what stands in braces. -/
def readProperty (negated : Bool) : Scan ClassTree := do
  step
  let c ← peek
  if c = '\x7b' then
    step
    let name := String.ofList (← spanOf (· != '\x7d'))
    expect '\x7d'
    match name.splitOn "!=", name.splitOn ":", name.splitOn "=" with
    | a :: b :: more, _, _ => return .property (.pair a ("!=".intercalate (b :: more))) !negated
    | _, a :: b :: more, _ => return .property (.pair a (":".intercalate (b :: more))) negated
    | _, _, a :: b :: more => return .property (.pair a ("=".intercalate (b :: more))) negated
    | _, _, _ => return .property (.bare name) negated
  else
    guard (c ≠ '\\')
    step
    return .property (.bare (String.ofList [c])) negated

/-- A word boundary of a special kind after `\b`, when braces with letters follow. -/
def readBoundary : Scan Assertion := do
  let start ← get
  if start.rest.head? ≠ some '\x7b' then return .boundary
  step
  let isNameChar (c : Char) : Bool := isLetter c || c == '-'
  if isNameChar (← peek) then
    let name := String.ofList (← spanOf isNameChar)
    expect '\x7d'
    if name = "start" then return .wordStart
    else if name = "end" then return .wordEnd
    else if name = "start-half" then return .wordStartHalf
    else if name = "end-half" then return .wordEndHalf
    else failure
  else
    set start
    return .boundary

/-- What a backslash and the text after it stand for. -/
inductive Atom
  | literal (l : Literal)
  | assertion (a : Assertion)
  | cls (c : ClassTree)

def readEscape : Scan Atom := do
  advance
  let c ← peek
  let char (c : Char) : Scan Atom := return .literal { char := c }
  if c = 'x' ∨ c = 'u' ∨ c = 'U' then return .literal (← readHex c)
  else if c = 'p' ∨ c = 'P' then return .cls (← readProperty (c = 'P'))
  else
    advance
    if isEscapable c then char c
    else
      match c with
      | 'd' => return .cls (.shorthand .digit false)
      | 'D' => return .cls (.shorthand .digit true)
      | 's' => return .cls (.shorthand .blank false)
      | 'S' => return .cls (.shorthand .blank true)
      | 'w' => return .cls (.shorthand .word false)
      | 'W' => return .cls (.shorthand .word true)
      | 'a' => char '\x07'
      | 'f' => char '\x0c'
      | 't' => char '\t'
      | 'n' => char '\n'
      | 'r' => char '\r'
      | 'v' => char '\x0b'
      | 'A' => return .assertion .textStart
      | 'z' => return .assertion .textEnd
      | 'b' => return .assertion (← readBoundary)
      | 'B' => return .assertion .notBoundary
      | '<' => return .assertion .wordStart
      | '>' => return .assertion .wordEnd
      | _ => failure

/-- The classes with a name between colons. -/
def posixRanges? (name : String) : Option (List (Nat × Nat)) :=
  match name with
  | "alnum" => some [(0x30, 0x39), (0x41, 0x5A), (0x61, 0x7A)]
  | "alpha" => some [(0x41, 0x5A), (0x61, 0x7A)]
  | "ascii" => some [(0, 0x7F)]
  | "blank" => some [(9, 9), (0x20, 0x20)]
  | "cntrl" => some [(0, 0x1F), (0x7F, 0x7F)]
  | "digit" => some [(0x30, 0x39)]
  | "graph" => some [(0x21, 0x7E)]
  | "lower" => some [(0x61, 0x7A)]
  | "print" => some [(0x20, 0x7E)]
  | "punct" => some [(0x21, 0x2F), (0x3A, 0x40), (0x5B, 0x60), (0x7B, 0x7E)]
  | "space" => some [(9, 13), (0x20, 0x20)]
  | "upper" => some [(0x41, 0x5A)]
  | "word" => some [(0x30, 0x39), (0x41, 0x5A), (0x5F, 0x5F), (0x61, 0x7A)]
  | "xdigit" => some [(0x30, 0x39), (0x41, 0x46), (0x61, 0x66)]
  | _ => none

/-- A class such as `[:alpha:]`, if one stands here. -/
def readPosix? : Scan (Option ClassTree) := do
  let start ← get
  match start.rest with
  | '[' :: ':' :: rest =>
    let (negated, rest) := match rest with
      | '^' :: rest => (true, rest)
      | rest => (false, rest)
    let name := String.ofList (rest.takeWhile (· != ':'))
    match rest.dropWhile (· != ':'), posixRanges? name with
    | ':' :: ']' :: rest, some ranges =>
      set { start with rest := rest }
      return some (.posix ranges negated)
    | _, _ => return none
  | _ => return none

/-- A character or an escape within brackets. -/
def readClassAtom : Scan Atom := do
  if (← peek) = '\\' then readEscape else return .literal { char := ← take }

def classOf : Atom → Scan ClassTree
  | .literal l => return .range l l
  | .cls c => return c
  | .assertion _ => failure

/-- A range of characters or a single item within brackets. A hyphen before a closing bracket or
another hyphen makes no range. -/
def readClassRange : Scan ClassTree := do
  let first ← readClassAtom
  skip
  let c ← peek
  let s ← get
  let after := s.rest.tail
  let next := (if s.extended then afterBlanks false after else after).head?
  if c ≠ '-' ∨ next = some ']' ∨ next = some '-' then classOf first
  else
    step
    let _ ← peek
    match first, ← readClassAtom with
    | .literal a, .literal b =>
      guard (a.char ≤ b.char)
      return .range a b
    | _, _ => failure

/-- The hyphens at the start of a class, which stand for themselves. -/
def readHyphens : (fuel : Nat) → Scan (List ClassTree)
  | 0 => return []
  | fuel + 1 => do
    if (← peek) = '-' then
      step
      return .range ⟨'-', false⟩ ⟨'-', false⟩ :: (← readHyphens fuel)
    else return []

/-- The opening of a class: whether it is negated, and its first items. -/
def readClassOpening : Scan (Bool × List ClassTree) := do
  step
  let negated := (← peek) = '^'
  if negated then step
  let hyphens ← readHyphens (← get).rest.length
  if hyphens.isEmpty ∧ (← peek) = ']' then
    step
    let _ ← peek
    return (negated, [.range ⟨']', false⟩ ⟨']', false⟩])
  else return (negated, hyphens.reverse)

/-- The items of a class as one set. -/
def unionOf : List ClassTree → ClassTree
  | [c] => c
  | items => .union items.reverse

/-- The operand on the left of an operator joined with the one on its right. -/
def joined (left : Option (SetOp × ClassTree)) (right : ClassTree) : ClassTree :=
  match left with
  | some (op, l) => .combine op l right
  | none => right

/-- The rest of a class up to its closing bracket; `items` are those since the last operator,
last first. -/
def readClassRest : (fuel : Nat) → (negated : Bool) → Option (SetOp × ClassTree) →
    List ClassTree → Scan ClassTree
  | 0, _, _, _ => failure
  | fuel + 1, negated, left, items => do
    skip
    let operator (op : SetOp) : Scan ClassTree :=
      readClassRest fuel negated (some (op, joined left (unionOf items))) []
    let c ← peek
    if c = '[' then
      match ← readPosix? with
      | some item => readClassRest fuel negated left (item :: items)
      | none =>
        let (negated', items') ← readClassOpening
        let inner ← readClassRest fuel negated' none items'
        readClassRest fuel negated left (inner :: items)
    else if c = ']' then
      advance
      return .bracket negated (joined left (unionOf items))
    else if ← accept "&&" then operator .inter
    else if ← accept "--" then operator .diff
    else if ← accept "~~" then operator .symmDiff
    else
      let item ← readClassRange
      readClassRest fuel negated left (item :: items)

/-- The number in a counted repetition, with blanks allowed around it. -/
def readCount? : Scan (Option Nat) := do
  modify fun s => { s with rest := s.rest.dropWhile Property.blank.contains }
  let digits ← spanOf isDigit
  modify fun s => { s with rest := s.rest.dropWhile Property.blank.contains }
  let n := ofDigits 10 (digits.map digitValue)
  guard (n < UInt32.size)
  return if digits = [] then none else some n

/-- The bounds of a counted repetition. -/
def readBounds : Scan (Nat × Option Nat) := do
  step
  let _ ← peek
  let least ← readCount?
  let bounds ←
    if (← peek) = ',' then
      step
      if (← peek) = '\x7d' then pure (← least, none)
      else
        let least ← least
        let most ← readCount?
        pure (least, some (← most))
    else pure (← least, some (← least))
  guard ((← peek) = '\x7d')
  step
  guard (bounds.2.all (bounds.1 ≤ ·))
  return bounds

/-- Whether something stands before a repetition that it can repeat. -/
def isRepeatable : Tree → Bool
  | .empty | .flags _ => false
  | _ => true

/-- The items, last first, with the last one repeated. -/
def repeatLast (least : Nat) (most : Option Nat) (greedy : Bool) :
    List Tree → Option (List Tree)
  | t :: items => if isRepeatable t then some (.times t least most greedy :: items) else none
  | [] => none

def flagOf? : Char → Option Flag
  | 'i' => some .ignoreCase
  | 'm' => some .multiLine
  | 's' => some .dotAll
  | 'U' => some .swapGreed
  | 'u' => some .unicode
  | 'R' => some .lineEnds
  | 'x' => some .extended
  | _ => none

/-- Flags up to a colon or a closing parenthesis; each may occur once, and something must follow
a minus. -/
def flagChange? (change : FlagChange) (negated : Bool) : List Char → Option FlagChange
  | [] => if negated ∧ change.off = [] then none else some change
  | '-' :: rest => if negated then none else flagChange? change true rest
  | c :: rest => do
    let f ← flagOf? c
    guard (f ∉ change.on ∧ f ∉ change.off)
    flagChange?
      (if negated then { change with off := f :: change.off }
        else { change with on := f :: change.on }) negated rest

def FlagChange.state? (change : FlagChange) (f : Flag) : Option Bool :=
  if f ∈ change.on then some true else if f ∈ change.off then some false else none

/-- The name of a group up to its closing angle. -/
def readGroupName : Scan String := do
  let s ← get
  let name := s.rest.takeWhile (· != '>')
  let isFirst (c : Char) : Bool := c == '_' || Letter.alphabetic.contains c
  let isLater (c : Char) : Bool :=
    c == '_' || c == '.' || c == '[' || c == ']' || Letter.isAlphanumeric c
  match name with
  | [] => failure
  | c :: cs =>
    let text := String.ofList name
    guard (isFirst c ∧ cs.all isLater ∧ text ∉ s.names)
    set { s with rest := s.rest.drop name.length, names := s.names ++ [text] }
    expect '>'
    return text

/-- What stands after an opening parenthesis: a change of flags that makes no group, or the kind
of the group. -/
def readGroupOpening : Scan (Sum FlagChange GroupKind) := do
  advance
  skip
  if ← accept "?=" then failure
  else if ← accept "?!" then failure
  else if ← accept "?<=" then failure
  else if ← accept "?<!" then failure
  else
    let named ← (do if ← accept "?P<" then return true else accept "?<")
    if named then
      modify fun s => { s with groups := s.groups + 1 }
      let index := (← get).groups
      return .inr (.capture index (some (← readGroupName)))
    else if ← accept "?" then
      let s ← get
      let letters := s.rest.takeWhile fun c => c != ':' && c != ')'
      set { s with rest := s.rest.drop letters.length }
      let change ← flagChange? {} false letters
      if (← take) = ')' then
        guard (letters ≠ [])
        return .inl change
      else return .inr (.plain change)
    else
      modify fun s => { s with groups := s.groups + 1 }
      return .inr (.capture (← get).groups none)

/-- The extended flag within a group. -/
def GroupKind.extended (old : Bool) : GroupKind → Bool
  | .plain change => (change.state? .extended).getD old
  | .capture .. => old

mutual

/-- Alternatives up to the end of the text or a closing parenthesis. -/
def readBranches : (fuel : Nat) → Scan (List Tree)
  | 0 => failure
  | fuel + 1 => do
    let branch := Tree.ofItems (← readItems fuel [])
    if (← peek?) = some '|' then
      advance
      return branch :: (← readBranches fuel)
    else return [branch]

/-- The items of one branch; `done` are those already read, last first. -/
def readItems : (fuel : Nat) → (done : List Tree) → Scan (List Tree)
  | 0, _ => failure
  | fuel + 1, done => do
    skip
    let item (t : Tree) : Scan (List Tree) := readItems fuel (t :: done)
    let repeated (least : Nat) (most : Option Nat) : Scan (List Tree) := do
      let lazy ← accept "?"
      readItems fuel (← repeatLast least most (!lazy) done)
    match ← peek? with
    | none => return done.reverse
    | some '|' => return done.reverse
    | some ')' => return done.reverse
    | some '(' =>
      match ← readGroupOpening with
      | .inl change =>
        modify fun s => { s with extended := (change.state? .extended).getD s.extended }
        item (.flags change)
      | .inr kind =>
        let old := (← get).extended
        modify fun s => { s with extended := kind.extended old }
        let branches ← readBranches fuel
        expect ')'
        modify fun s => { s with extended := old }
        item (.group kind (.ofBranches branches))
    | some '[' =>
      let (negated, items) ← readClassOpening
      item (.cls (← readClassRest fuel negated none items))
    | some '*' => do advance; repeated 0 none
    | some '+' => do advance; repeated 1 none
    | some '?' => do advance; repeated 0 (some 1)
    | some '\x7b' =>
      guard (repeatLast 0 none true done).isSome
      let (least, most) ← readBounds
      repeated least most
    | some '\\' =>
      match ← readEscape with
      | .literal l => item (.literal l)
      | .assertion a => item (.assertion a)
      | .cls c => item (.cls c)
    | some '.' => do advance; item .dot
    | some '^' => do advance; item (.assertion .lineStart)
    | some '$' => do advance; item (.assertion .lineEnd)
    | some c => do advance; item (.literal { char := c })

end

/-- The deepest nesting that is read. -/
def depthLimit : Nat := 250

/-- The tree that a text writes, with the number of its groups and their names. -/
def Tree.ofText? (text : String) : Option Tree :=
  let cs := text.toList
  match (readBranches (2 * cs.length + 2)).run { rest := cs } with
  | some (branches, s) =>
    let tree := Tree.ofBranches branches
    if s.rest.isEmpty ∧ tree.depth ≤ depthLimit then some tree else none
  | none => none

end CalendarRelay.Pattern
