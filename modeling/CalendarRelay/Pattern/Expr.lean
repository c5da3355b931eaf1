import CalendarRelay.Pattern.Tree
import CalendarRelay.Unicode.Age
import CalendarRelay.Unicode.Folding
import CalendarRelay.Unicode.Segmentation
import CalendarRelay.Text.Ascii

namespace CalendarRelay.Pattern

open CalendarRelay.Unicode

/-- A test of a place between two characters. -/
inductive Look
  | textStart
  | textEnd
  | lineStart
  | lineEnd
  | anyLineStart
  | anyLineEnd
  | boundary (ascii : Bool)
  | notBoundary (ascii : Bool)
  | wordStart (ascii : Bool)
  | wordEnd (ascii : Bool)
  | wordStartHalf (ascii : Bool)
  | wordEndHalf (ascii : Bool)
  deriving DecidableEq

namespace Look

/-- The word characters among all characters or among those of ASCII. -/
def asciiWord : CharSet := ⟨[(0x30, 0x39), (0x41, 0x5A), (0x5F, 0x5F), (0x61, 0x7A)]⟩

def isWord (ascii : Bool) (c : Option Char) : Bool :=
  c.any fun c => if c.toNat < 0x80 ∨ ascii then asciiWord.contains c else Property.word.contains c

/-- Whether the test holds between the character before a place and the one after it. -/
def holds (l : Look) (before after : Option Char) : Bool :=
  match l with
  | textStart => before.isNone
  | textEnd => after.isNone
  | lineStart => before.all (· == '\n')
  | lineEnd => after.all (· == '\n')
  | anyLineStart => before.all fun c => c == '\n' || (c == '\r' && after != some '\n')
  | anyLineEnd => after.all fun c => c == '\r' || (c == '\n' && before != some '\r')
  | boundary a => isWord a before != isWord a after
  | notBoundary a => isWord a before == isWord a after
  | wordStart a => !isWord a before && isWord a after
  | wordEnd a => isWord a before && !isWord a after
  | wordStartHalf a => !isWord a before
  | wordEndHalf a => !isWord a after

end Look

inductive Expr
  | empty
  | chars (set : CharSet)
  | look (l : Look)
  | times (e : Expr) (least : Nat) (most : Option Nat) (greedy : Bool)
  | group (index : Nat) (name : Option String) (e : Expr)
  | cat (items : List Expr)
  | alt (branches : List Expr)

/-- The flags in force at one place of a regular expression. -/
structure Flags where
  ignoreCase : Bool := false
  multiLine : Bool := false
  dotAll : Bool := false
  swapGreed : Bool := false
  unicode : Bool := true
  lineEnds : Bool := false

namespace Flags

def set (f : Flags) (value : Bool) : Flag → Flags
  | .ignoreCase => { f with ignoreCase := value }
  | .multiLine => { f with multiLine := value }
  | .dotAll => { f with dotAll := value }
  | .swapGreed => { f with swapGreed := value }
  | .unicode => { f with unicode := value }
  | .lineEnds => { f with lineEnds := value }
  | .extended => f

def change (f : Flags) (c : FlagChange) : Flags :=
  c.off.foldl (·.set false) (c.on.foldl (·.set true) f)

/-- The set with the other case of each of its ASCII letters. -/
def closeAscii (s : CharSet) : CharSet :=
  let letters := (List.range 26).flatMap fun k => [(0x41 + k, 0x61 + k), (0x61 + k, 0x41 + k)]
  s.union (.ofRanges ((letters.filter fun l => s.containsCode l.1).map fun l => (l.2, l.2)))

/-- The set with the other cases of its characters, if case is ignored. -/
def fold (f : Flags) (s : CharSet) : CharSet :=
  if !f.ignoreCase then s else if f.unicode then Folding.close s else closeAscii s

/-- The characters outside of a set. Where only ASCII counts no such set may be written, because
it would hold parts of characters. -/
def negate? (f : Flags) (negated : Bool) (s : CharSet) : Option CharSet :=
  if !negated then some s else if f.unicode then some s.complement else none

end Flags

/-- A name of a property without its case, blanks, underscores and hyphens, and without `is` at
its start. -/
def plainName (name : String) : String :=
  let (stripped, rest) := match name.toList with
    | a :: b :: rest =>
      if a.toLower = 'i' ∧ b.toLower = 's' then (true, rest) else (false, a :: b :: rest)
    | rest => (false, rest)
  let plain := rest.filter fun c => c.toNat < 0x80 && c != ' ' && c != '_' && c != '-'
  let plain := String.ofList (plain.map Char.toLower)
  if stripped ∧ plain = "c" then "isc" else plain

/-- The characters that have a property. -/
def Query.set? : Query → Option CharSet
  | .bare name =>
    let name := plainName name
    let property := if name = "cf" ∨ name = "sc" ∨ name = "lc" then none else Property.named? name
    property <|> Category.named? name <|> Script.named? name
  | .pair name value =>
    let name := plainName name
    let value := plainName value
    match name with
    | "gc" | "generalcategory" => Category.named? value
    | "sc" | "script" => Script.named? value
    | "scx" | "scriptextensions" => Script.extensionsNamed? value
    | "age" => Age.named? value
    | "gcb" | "graphemeclusterbreak" => Segmentation.Grapheme.named? value
    | "wb" | "wordbreak" => Segmentation.Word.named? value
    | "sb" | "sentencebreak" => Segmentation.Sentence.named? value
    | _ => none

def Shorthand.set (ascii : Bool) : Shorthand → CharSet
  | .digit => if ascii then ⟨[(0x30, 0x39)]⟩ else Property.digit
  | .blank => if ascii then ⟨[(9, 13), (0x20, 0x20)]⟩ else Property.blank
  | .word => if ascii then Look.asciiWord else Property.word

def SetOp.apply : SetOp → CharSet → CharSet → CharSet
  | .inter => .inter
  | .diff => .diff
  | .symmDiff => .symmDiff

mutual

/-- The characters of a class. -/
def ClassTree.set? (f : Flags) : ClassTree → Option CharSet
  | .range a b =>
    if f.unicode ∨ (a.char.toNat < 0x80 ∧ b.char.toNat < 0x80) then
      some ⟨[(a.char.toNat, b.char.toNat)]⟩
    else none
  | .posix ranges negated => f.negate? negated (f.fold ⟨ranges⟩)
  | .shorthand kind negated => f.negate? negated (kind.set !f.unicode)
  | .property query negated =>
    if f.unicode then query.set?.bind fun s => f.negate? negated (f.fold s) else none
  | .bracket negated inner => (inner.set? f).bind fun s => f.negate? negated (f.fold s)
  | .union items => ClassTree.unionSet? f items
  | .combine op l r =>
    (l.set? f).bind fun a => (r.set? f).map fun b => op.apply (f.fold a) (f.fold b)

def ClassTree.unionSet? (f : Flags) : List ClassTree → Option CharSet
  | [] => some .empty
  | c :: rest => (c.set? f).bind fun a => (ClassTree.unionSet? f rest).map a.union

end

def Literal.set? (f : Flags) (l : Literal) : Option CharSet :=
  if f.unicode then some (f.fold (.ofChar l.char))
  else if l.byte ∧ 0x80 ≤ l.char.toNat then none
  else some (f.fold (.ofChar l.char))

/-- What a dot stands for: any character, or any that ends no line. -/
def dotSet? (f : Flags) : Option CharSet :=
  if !f.unicode then none
  else if f.dotAll then some .all
  else if f.lineEnds then some (CharSet.complement ⟨[(10, 10), (13, 13)]⟩)
  else some (CharSet.complement ⟨[(10, 10)]⟩)

def Assertion.look (f : Flags) : Assertion → Look
  | .lineStart => if !f.multiLine then .textStart else if f.lineEnds then .anyLineStart
    else .lineStart
  | .lineEnd => if !f.multiLine then .textEnd else if f.lineEnds then .anyLineEnd else .lineEnd
  | .textStart => .textStart
  | .textEnd => .textEnd
  | .boundary => .boundary !f.unicode
  | .notBoundary => .notBoundary !f.unicode
  | .wordStart => .wordStart !f.unicode
  | .wordEnd => .wordEnd !f.unicode
  | .wordStartHalf => .wordStartHalf !f.unicode
  | .wordEndHalf => .wordEndHalf !f.unicode

mutual

/-- Whether the expression matches nothing but the empty text. -/
def Expr.isEmptyOnly : Expr → Bool
  | .empty => true
  | .chars _ => false
  | .look _ => true
  | .times e _ _ _ => e.isEmptyOnly
  | .group _ _ e => e.isEmptyOnly
  | .cat items => Expr.areEmptyOnly items
  | .alt branches => Expr.areEmptyOnly branches

def Expr.areEmptyOnly : List Expr → Bool
  | [] => true
  | e :: rest => e.isEmptyOnly && Expr.areEmptyOnly rest

end

/-- A repetition. What matches only the empty text is repeated at most once, and nothing is left
of what is repeated no times at all, its groups included. -/
def Expr.repeated (e : Expr) (least : Nat) (most : Option Nat) (greedy : Bool) : Expr :=
  let (least, most) :=
    if e.isEmptyOnly then (min least 1, some (min (most.getD 1) 1)) else (least, most)
  if least = 0 ∧ most = some 0 then .empty
  else if least = 1 ∧ most = some 1 then e
  else .times e least most greedy

mutual

/-- The expression of a tree and the flags in force after it. -/
def Expr.ofTree? (f : Flags) : Tree → Option (Expr × Flags)
  | .empty => some (.empty, f)
  | .flags c => some (.empty, f.change c)
  | .literal l => (l.set? f).map fun s => (.chars s, f)
  | .dot => (dotSet? f).map fun s => (.chars s, f)
  | .assertion a => some (.look (a.look f), f)
  | .cls c => (c.set? f).map fun s => (.chars s, f)
  | .times t least most greedy =>
    (Expr.ofTree? f t).map fun (e, f) => (e.repeated least most (greedy != f.swapGreed), f)
  | .group (.capture index name) t =>
    (Expr.ofTree? f t).map fun (e, _) => (.group index name e, f)
  | .group (.plain c) t => (Expr.ofTree? (f.change c) t).map fun (e, _) => (e, f)
  | .cat items => (Expr.ofTrees? f items).map fun (es, f) => (.cat es, f)
  | .alt branches => (Expr.ofTrees? f branches).map fun (es, f) => (.alt es, f)

def Expr.ofTrees? (f : Flags) : List Tree → Option (List Expr × Flags)
  | [] => some ([], f)
  | t :: rest =>
    (Expr.ofTree? f t).bind fun (e, f) => (Expr.ofTrees? f rest).map fun (es, f) => (e :: es, f)

end

mutual

/-- The groups of an expression, each with its index and name. -/
def Expr.groups : Expr → List (Nat × Option String)
  | .times e _ _ _ => e.groups
  | .group index name e => (index, name) :: e.groups
  | .cat items => Expr.groupsOf items
  | .alt branches => Expr.groupsOf branches
  | _ => []

def Expr.groupsOf : List Expr → List (Nat × Option String)
  | [] => []
  | e :: rest => e.groups ++ Expr.groupsOf rest

end

end CalendarRelay.Pattern
