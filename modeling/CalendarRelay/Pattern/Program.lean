import CalendarRelay.Pattern.Expr

namespace CalendarRelay.Pattern

open Unicode (CharSet)

/-- The instructions of a search. All jumps count from the instruction that makes them, so code can
be repeated as it stands; the code of an expression ends by running past its last instruction. -/
inductive Instr
  | chars (set : CharSet)
  | look (l : Look)
  | save (slot : Nat)
  | fork (preferred other : Int)
  | jump (offset : Int)
  | accept

/-- A fork that goes on behind it rather than elsewhere, or the other way round. -/
def Instr.choice (greedy : Bool) (inside outside : Int) : Instr :=
  if greedy then .fork inside outside else .fork outside inside

/-- As many as `count` more repetitions, each after a choice to go on behind the last. -/
def optionalCode (code : List Instr) (greedy : Bool) (count : Nat) : List Instr :=
  let width := code.length + 1
  (List.range count).flatMap fun k =>
    .choice greedy 1 (((count - k) * width : Nat) : Int) :: code

mutual

/-- Whether each match of the expression takes a character. -/
def Expr.isNonempty : Expr → Bool
  | .empty => false
  | .chars _ => true
  | .look _ => false
  | .times e least _ _ => least != 0 && e.isNonempty
  | .group _ _ e => e.isNonempty
  | .cat items => Expr.someNonempty items
  | .alt branches => Expr.allNonempty branches

def Expr.someNonempty : List Expr → Bool
  | [] => false
  | e :: rest => e.isNonempty || Expr.someNonempty rest

def Expr.allNonempty : List Expr → Bool
  | [] => true
  | e :: rest => e.isNonempty && Expr.allNonempty rest

end

/-- The code of a loop around an expression, to be gone through at least `least` times. What can
match the empty text is not looped over from in front, so that the order of preference stays. -/
def loopCode (code : List Instr) (nonempty greedy : Bool) (least : Nat) : List Instr :=
  let n : Int := code.length
  let again := Instr.choice greedy (-n) 1
  match least with
  | 0 =>
    if nonempty then .choice greedy 1 (n + 2) :: code ++ [.jump (-(n + 1))]
    else .choice greedy 1 (n + 2) :: code ++ [again]
  | least + 1 => (List.replicate least code).flatten ++ code ++ [again]

mutual

def Expr.code : Expr → List Instr
  | .empty => []
  | .chars set => [.chars set]
  | .look l => [.look l]
  | .times e least none greedy => loopCode e.code e.isNonempty greedy least
  | .times e least (some most) greedy =>
    let code := e.code
    (List.replicate least code).flatten ++ optionalCode code greedy (most - least)
  | .group index _ e => .save (2 * index) :: e.code ++ [.save (2 * index + 1)]
  | .cat items => Expr.catCode items
  | .alt branches => Expr.altCode branches

def Expr.catCode : List Expr → List Instr
  | [] => []
  | e :: rest => e.code ++ Expr.catCode rest

def Expr.altCode : List Expr → List Instr
  | [] => []
  | [e] => e.code
  | e :: rest =>
    let first := e.code
    let others := Expr.altCode rest
    .fork 1 ((first.length + 2 : Nat) : Int) :: first ++
      .jump ((others.length + 1 : Nat) : Int) :: others

end

/-- The instructions that search for the whole expression and note its groups. -/
def Expr.program (e : Expr) : Array Instr :=
  (Instr.save 0 :: (e.code ++ [.save 1, .accept])).toArray

end CalendarRelay.Pattern
