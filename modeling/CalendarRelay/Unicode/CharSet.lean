namespace CalendarRelay.Unicode

/-- A set of code points as ranges with both ends included. The ranges increase and neither touch
nor overlap. -/
structure CharSet where
  ranges : List (Nat × Nat)
  deriving Inhabited, DecidableEq

namespace CharSet

def empty : CharSet := ⟨[]⟩

def limit : Nat := 0x10FFFF

def all : CharSet := ⟨[(0, limit)]⟩

def ofChar (c : Char) : CharSet := ⟨[(c.toNat, c.toNat)]⟩

/-- Ranges in increasing order with those that touch or overlap joined. -/
def joinRanges : List (Nat × Nat) → List (Nat × Nat)
  | [] => []
  | (lo, hi) :: rest => go lo hi rest
where
  go (lo hi : Nat) : List (Nat × Nat) → List (Nat × Nat)
    | [] => [(lo, hi)]
    | (lo', hi') :: rest =>
      if lo' ≤ hi + 1 then go lo (max hi hi') rest else (lo, hi) :: go lo' hi' rest

/-- The set of the given ranges, in any order. -/
def ofRanges (ranges : List (Nat × Nat)) : CharSet :=
  ⟨joinRanges (ranges.mergeSort fun a b => a.1 ≤ b.1)⟩

def containsCode (s : CharSet) (n : Nat) : Bool :=
  go s.ranges
where
  go : List (Nat × Nat) → Bool
    | [] => false
    | (lo, hi) :: rest => if n < lo then false else n ≤ hi || go rest

def contains (s : CharSet) (c : Char) : Bool := s.containsCode c.toNat

def union (a b : CharSet) : CharSet := ofRanges (a.ranges ++ b.ranges)

/-- The code points from `start` on that lie in none of the ranges. -/
def gaps (start : Nat) : List (Nat × Nat) → List (Nat × Nat)
  | [] => if start ≤ limit then [(start, limit)] else []
  | (lo, hi) :: rest => if start < lo then (start, lo - 1) :: gaps (hi + 1) rest
    else gaps (hi + 1) rest

def complement (s : CharSet) : CharSet := ⟨gaps 0 s.ranges⟩

def inter (a b : CharSet) : CharSet := (a.complement.union b.complement).complement

def diff (a b : CharSet) : CharSet := a.inter b.complement

def symmDiff (a b : CharSet) : CharSet := (a.union b).diff (a.inter b)

/-- Whether all members are ASCII characters. -/
def isAscii (s : CharSet) : Bool := s.ranges.all fun r => r.2 < 0x80

/-- The entries of a table, which stand between blanks and line ends. -/
def splitTable (table : String) : List String :=
  ((table.splitOn "\n").flatMap fun line => line.splitOn " ").filter (· != "")

/-- The number that upper-case hexadecimal digits write. -/
def hex (s : String) : Nat :=
  s.toList.foldl (fun n c =>
    n * 16 + if c ≤ '9' then c.toNat - '0'.toNat else c.toNat - 'A'.toNat + 10) 0

/-- The set that a table of code points and ranges `A-B` writes. -/
def ofTable (table : String) : CharSet :=
  ⟨(splitTable table).map fun e =>
    match e.splitOn "-" with
    | [lo, hi] => (hex lo, hex hi)
    | _ => (hex e, hex e)⟩

end CharSet

/-- A run of code points at equal distances, all moved by the same amount. -/
structure Runs where
  first : Nat
  last : Nat
  stride : Nat
  up : Nat
  down : Nat

namespace Runs

/-- The code point that `n` is moved to. -/
def image (r : Runs) (n : Nat) : Nat := n + r.up - r.down

def starts (r : Runs) : List Nat :=
  (List.range ((r.last - r.first) / r.stride + 1)).map fun k => r.first + k * r.stride

def covers (r : Runs) (n : Nat) : Bool :=
  r.first ≤ n && n ≤ r.last && (n - r.first) % r.stride == 0

/-- One entry `A-B/s+d` or `A-B/s-d`. -/
def ofEntry (entry : String) : Runs :=
  match entry.splitOn "/" with
  | [span, move] =>
    let ends := (span.splitOn "-").map CharSet.hex
    let (up, down, stride) :=
      match move.splitOn "+", move.splitOn "-" with
      | [s, d], _ => (CharSet.hex d, 0, CharSet.hex s)
      | _, [s, d] => (0, CharSet.hex d, CharSet.hex s)
      | _, _ => (0, 0, 1)
    ⟨ends.headD 0, ends.getLastD 0, stride, up, down⟩
  | _ => ⟨0, 0, 1, 0, 0⟩

def ofTable (table : String) : List Runs := (CharSet.splitTable table).map ofEntry

end Runs

end CalendarRelay.Unicode
