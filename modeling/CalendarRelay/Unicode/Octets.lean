import CalendarRelay.Unicode.CharSet

namespace CalendarRelay.Unicode

/-- Ranges of bytes with both ends included, one for each byte of an encoding. A run stands for all
texts of one byte from each range. -/
abbrev OctetRun := List (Nat × Nat)

namespace OctetRun

/-- How many numbers have as many as `k` digits to the base 64. -/
def block : Nat → Nat
  | 0 => 1
  | k + 1 => 64 * block k

/-- The numbers from `lo` to `hi` by their digits to the base 64, of which `k` follow the first
one: in each part every digit runs through a range of its own. -/
def spans : Nat → Nat → Nat → List (List (Nat × Nat))
  | 0, lo, hi => [[(lo, hi)]]
  | k + 1, lo, hi =>
    let size := block (k + 1)
    let a := lo / size
    let b := hi / size
    if a = b then (spans k (lo % size) (hi % size)).map ((a, a) :: ·)
    else
      let before := if lo % size = 0 then []
        else (spans k (lo % size) (size - 1)).map ((a, a) :: ·)
      let after := if hi % size = size - 1 then []
        else (spans k 0 (hi % size)).map ((b, b) :: ·)
      let first := if lo % size = 0 then a else a + 1
      let stop := if hi % size = size - 1 then b + 1 else b
      let between :=
        if first < stop then [(first, stop - 1) :: List.replicate (k + 1) (0, 63)] else []
      before ++ between ++ after

/-- The code points whose encodings have the same number of bytes after the first, and what is
added to the first digit. -/
structure Width where
  first : Nat
  last : Nat
  trailing : Nat
  lead : Nat

def widths : List Width := [
  ⟨0, 0x7F, 0, 0⟩, ⟨0x80, 0x7FF, 1, 0xC0⟩, ⟨0x800, 0xD7FF, 2, 0xE0⟩, ⟨0xE000, 0xFFFF, 2, 0xE0⟩,
  ⟨0x10000, 0x10FFFF, 3, 0xF0⟩]

/-- The bytes of a number written by digits to the base 64. -/
def ofDigits (lead : Nat) : List (Nat × Nat) → OctetRun
  | [] => []
  | (a, b) :: rest => (lead + a, lead + b) :: rest.map fun d => (0x80 + d.1, 0x80 + d.2)

/-- The encodings of the characters from `lo` to `hi`. Surrogates have none. -/
def ofRange (lo hi : Nat) : List OctetRun :=
  widths.flatMap fun w =>
    let lo := max lo w.first
    let hi := min hi w.last
    if lo ≤ hi then (spans w.trailing lo hi).map (ofDigits w.lead) else []

/-- The encodings of the characters of a set, in increasing order. -/
def ofSet (s : CharSet) : List OctetRun := s.ranges.flatMap fun r => ofRange r.1 r.2

/-- The first ranges of the runs, each with what follows it in those that begin with it. -/
def branches : List OctetRun → List ((Nat × Nat) × List OctetRun)
  | [] => []
  | [] :: rest => branches rest
  | (r :: tail) :: rest =>
    match branches rest with
    | (r', tails) :: others =>
      if r = r' then (r, tail :: tails) :: others else (r, [tail]) :: (r', tails) :: others
    | [] => [(r, [tail])]

/-- The places of the tree that something follows, each by the runs that follow it, down to a
depth. -/
def forks : Nat → List OctetRun → List (List OctetRun)
  | 0, _ => []
  | depth + 1, runs =>
    match branches runs with
    | [] => []
    | found => runs :: found.flatMap fun b => forks depth b.2

/-- The places of the tree of encodings that something follows. No encoding has more than four
bytes. -/
def tree (s : CharSet) : List (List OctetRun) := forks 4 (ofSet s)

/-- How many branches go out from the given places. -/
def branchCount (places : List (List OctetRun)) : Nat :=
  places.foldl (fun n runs => n + (branches runs).length) 0

end OctetRun

end CalendarRelay.Unicode
