import CalendarRelay.Pattern.Program

namespace CalendarRelay.Pattern

/-- The places noted so far, two for each group. -/
abbrev Slots := Array (Option Nat)

/-- A way through the program: the next instruction and the places noted. -/
structure Thread where
  next : Nat
  slots : Slots

/-- A place in a text: its number and the characters around it. -/
structure Place where
  index : Nat
  before : Option Char
  after : Option Char

/-- The threads at one place that wait for a character or have matched, in order of preference,
and the instructions already visited there. -/
structure Front where
  visited : Array Bool
  ready : Array Thread

/-- The instruction that a jump leads to. -/
def target (at' : Nat) (offset : Int) : Nat := (at' + offset).toNat

/-- Follows the threads of `work` through all instructions that take no character. -/
def advance (program : Array Instr) (place : Place) : (fuel : Nat) → List Thread → Front → Front
  | 0, _, front => front
  | _, [], front => front
  | fuel + 1, t :: work, front =>
    if front.visited.getD t.next true then advance program place fuel work front
    else
      let front := { front with visited := front.visited.setIfInBounds t.next true }
      let on (next : Nat) : Thread := { t with next }
      match program[t.next]? with
      | some (.fork a b) =>
        advance program place fuel (on (target t.next a) :: on (target t.next b) :: work) front
      | some (.jump a) => advance program place fuel (on (target t.next a) :: work) front
      | some (.save slot) =>
        let slots := t.slots.setIfInBounds slot (some place.index)
        advance program place fuel (⟨t.next + 1, slots⟩ :: work) front
      | some (.look l) =>
        if l.holds place.before place.after then
          advance program place fuel (on (t.next + 1) :: work) front
        else advance program place fuel work front
      | some (.chars _) | some .accept =>
        advance program place fuel work { front with ready := front.ready.push t }
      | none => advance program place fuel work front

/-- The threads that go on past the next character, last first, and the places of a match among
the threads before them. A match ends all threads of lower preference. -/
def consume (program : Array Instr) (c : Option Char) :
    List Thread → (moved : List Thread) → List Thread × Option Slots
  | [], moved => (moved, none)
  | t :: rest, moved =>
    match program[t.next]? with
    | some .accept => (moved, some t.slots)
    | some (.chars set) =>
      if c.any set.contains then consume program c rest ({ t with next := t.next + 1 } :: moved)
      else consume program c rest moved
    | _ => consume program c rest moved

/-- The best match that the threads of `work` lead to, or else the best known one. While none is
known a new thread starts at every place. -/
def search (program : Array Instr) (slotCount index : Nat) (before : Option Char)
    (work : List Thread) (best : Option Slots) (text : List Char) : Option Slots :=
  let place : Place := ⟨index, before, text.head?⟩
  let start : Thread := ⟨0, Array.replicate slotCount none⟩
  let work := if best.isNone then work ++ [start] else work
  let front := advance program place (2 * program.size + work.length + 1) work
    ⟨Array.replicate program.size false, #[]⟩
  let (moved, found) := consume program place.after front.ready.toList []
  let best := found <|> best
  match text with
  | [] => best
  | c :: text =>
    if best.isSome ∧ moved = [] then best
    else search program slotCount (index + 1) (some c) moved.reverse best text

end CalendarRelay.Pattern
