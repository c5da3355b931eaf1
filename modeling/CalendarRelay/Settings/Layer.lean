import CalendarRelay.Settings.Value
import CalendarRelay.Text.Scan
import CalendarRelay.Text.Ascii

namespace CalendarRelay.Settings

open Text

/-- One step of a path into a value. -/
inductive PathStep
  | field (name : String)
  | item (index : Int)
  deriving DecidableEq

namespace PathStep

def isNameChar (c : Char) : Bool := isLetter c || isDigit c || c == '_' || c == '-'

/-- The items `[n]` at the start of a text and what follows them. -/
def readItems? : (fuel : Nat) → List Char → Option (List PathStep × List Char)
  | 0, _ => none
  | fuel + 1, '[' :: cs => do
    let (digits, rest) ← cutAt? [']'] cs
    let n ← Decimal.int64? (String.ofList (trimSpaces digits))
    guard (digits.head? ≠ some '+')
    let (steps, rest) ← readItems? fuel rest
    return (.item n :: steps, rest)
  | _, cs => some ([], cs)
where
  trimSpaces (cs : List Char) : List Char :=
    ((cs.dropWhile (· == ' ')).reverse.dropWhile (· == ' ')).reverse

/-- One name of a path with the items after it. -/
def readName? (cs : List Char) : Option (List PathStep) := do
  let name := cs.takeWhile isNameChar
  guard (name ≠ [])
  let (items, rest) ← readItems? (cs.length + 1) (cs.dropWhile isNameChar)
  guard (rest = [])
  return .field (String.ofList name) :: items

/-- The path that a key writes. -/
def pathOf (key : String) : List PathStep :=
  match (fieldsOf '.' key.toList).mapM readName? with
  | some steps => steps.flatten
  | none => [.field key]

end PathStep

namespace Value

/-- The entries of a table; what is no table has none. -/
def entries : Value → List (String × Value)
  | table entries => entries
  | _ => []

def lookup? (entries : List (String × Value)) (key : String) : Option Value :=
  (entries.find? fun e => e.1 == key).map Prod.snd

/-- The entries with the one under `key` put in its place, or at the end. -/
def put (key : String) (v : Value) : List (String × Value) → List (String × Value)
  | [] => [(key, v)]
  | (k, old) :: rest => if k = key then (key, v) :: rest else (k, old) :: put key v rest

/-- The place of an item; a negative one counts from the end. -/
def itemPlace (n : Int) (length : Nat) : Nat :=
  if 0 ≤ n then n.toNat else if (-n).toNat ≤ length then length - (-n).toNat else 0

/-- The list with the item at a place replaced, and filled up to it. -/
def putItem (place : Nat) (v : Value) (items : List Value) : List Value :=
  (items ++ List.replicate (place + 1 - items.length) nothing).set place v

mutual

/-- The value `old` with `v` laid over it. Tables are joined key by key, everything else is
replaced. -/
def overlay (old : Option Value) : Value → Value
  | .table new => overlayEntries (old.getD (.table [])) new
  | v => v

/-- The value with all entries laid over it. The first of them makes it a table. -/
def overlayEntries (old : Value) : List (String × Value) → Value
  | [] => old
  | (key, v) :: rest =>
    overlayEntries (.table (put key (overlay (lookup? old.entries key) v) old.entries)) rest

end

/-- The value with `v` laid over what is found along a path. -/
def assign (v : Value) : List PathStep → Value → Value
  | [], _ => v
  | [.field key], root => .table (put key (overlay (lookup? root.entries key) v) root.entries)
  | .field key :: rest, root =>
    let child := (lookup? root.entries key).getD .nothing
    .table (put key (assign v rest child) root.entries)
  | .item n :: rest, root =>
    let items := match root with
      | .list items => items
      | _ => []
    let place := itemPlace n items.length
    .list (putItem place (assign v rest (items.getD place .nothing)) items)

/-- The value with a layer of keys laid over it. -/
def lay (root : Value) (layer : List (String × Value)) : Value :=
  layer.foldl (fun root e => assign e.2 (PathStep.pathOf e.1) root) root

end Value

end CalendarRelay.Settings
