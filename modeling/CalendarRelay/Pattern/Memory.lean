import CalendarRelay.Pattern.Program
import CalendarRelay.Unicode.Octets

namespace CalendarRelay.Pattern

open Unicode (CharSet OctetRun)

/-- The directions in which a text is gone through. -/
inductive Direction
  | forward
  | backward
  deriving DecidableEq

/-- The bytes of memory that a state takes. -/
def stateSize : Nat := 32

/-- The bytes of memory that a state takes for each range of bytes that leads on from it. -/
def rangeSize : Nat := 8

/-- The bytes of memory that a state takes for each state that it leads on to unread. -/
def choiceSize : Nat := 4

/-- The memory for a set of characters. A single character has a state for each of its bytes, and
a set of ASCII characters has one state and an end. Larger sets have the tree of their encodings:
forwards, places are the same if the same encodings follow them; backwards, each byte range has a
state of its own and all encodings are chosen from at once. -/
def setCost (d : Direction) (s : CharSet) : Nat :=
  match s.ranges with
  | [(a, b)] =>
    if a = b then stateSize * (Char.ofNat a).utf8Size else several
  | _ => several
where
  several : Nat :=
    if s.isAscii then 2 * stateSize + rangeSize * s.ranges.length
    else
      let tree := OctetRun.tree s
      match d with
      | .forward =>
        let places := tree.eraseDups
        stateSize * (places.length + 1) + rangeSize * OctetRun.branchCount places
      | .backward =>
        stateSize * (OctetRun.branchCount tree + 2) + choiceSize * (OctetRun.ofSet s).length

/-- The memory for a repetition of what takes `cost` itself. -/
def timesCost (cost : Nat) (nonempty : Bool) : Nat → Option Nat → Nat
  | 0, none => if nonempty then cost + stateSize + 2 * choiceSize
    else cost + 3 * stateSize + 4 * choiceSize
  | least, none => least * cost + stateSize + 2 * choiceSize
  | 0, some 1 => cost + 2 * stateSize + 2 * choiceSize
  | least, some most =>
    let exactly := if least = 0 then stateSize else least * cost
    if most ≤ least then exactly
    else exactly + stateSize + (most - least) * (cost + stateSize + 2 * choiceSize)

mutual

/-- Whether nothing is written in the expression. -/
def Expr.isEmpty : Expr → Bool
  | .empty => true
  | .cat items => Expr.areEmpty items
  | _ => false

def Expr.areEmpty : List Expr → Bool
  | [] => true
  | e :: rest => e.isEmpty && Expr.areEmpty rest

end

mutual

/-- The set of characters that an expression is nothing more than. -/
def Expr.set? : Expr → Option CharSet
  | .chars s => some s
  | .cat items => Expr.onlySet? items
  | .alt branches => Expr.unionSet? branches
  | _ => none

/-- The set of the one item that is not empty. -/
def Expr.onlySet? : List Expr → Option CharSet
  | [] => none
  | e :: rest =>
    if e.isEmpty then Expr.onlySet? rest else if Expr.areEmpty rest then e.set? else none

/-- The union of branches that are all sets of characters. -/
def Expr.unionSet? : List Expr → Option CharSet
  | [] => none
  | [e] => e.set?
  | e :: rest => e.set?.bind fun a => (Expr.unionSet? rest).map a.union

end

mutual

/-- The memory for an expression. Groups are noted forwards only. -/
def Expr.cost (d : Direction) : Expr → Nat
  | .empty => stateSize
  | .chars s => setCost d s
  | .look _ => stateSize
  | .times e least most _ => timesCost (e.cost d) e.isNonempty least most
  | .group _ _ e => if d = .forward then e.cost d + 2 * stateSize else e.cost d
  | .cat items => if Expr.areEmpty items then stateSize else Expr.catCost d items
  | .alt branches =>
    match Expr.unionSet? branches with
    | some s => setCost d s
    | none => Expr.altCost d branches + 2 * stateSize + choiceSize * branches.length

/-- The memory for a sequence; its empty items take none. -/
def Expr.catCost (d : Direction) : List Expr → Nat
  | [] => 0
  | e :: rest => (if e.isEmpty then 0 else e.cost d) + Expr.catCost d rest

def Expr.altCost (d : Direction) : List Expr → Nat
  | [] => 0
  | e :: rest => e.cost d + Expr.altCost d rest

end

/-- The memory for a whole search: besides that for the expression there is a loop over any bytes
and an end, and forwards the whole match is noted as a group. -/
def Expr.searchCost (d : Direction) (e : Expr) : Nat :=
  let anyBytes := 3 * stateSize + rangeSize + 2 * choiceSize
  let whole := if d = .forward then 2 * stateSize else 0
  e.cost d + anyBytes + whole + stateSize

/-- The most memory that a search may ask for in either direction. -/
def memoryLimit : Nat := 10 * 1024 * 1024

def Expr.fitsMemory (e : Expr) : Bool :=
  e.searchCost .backward ≤ memoryLimit && e.searchCost .forward ≤ memoryLimit

end CalendarRelay.Pattern
