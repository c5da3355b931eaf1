namespace CalendarRelay.Text.Utf8

/-- A character whose first bytes have been read: the bits they give, how many bytes are still to
come, and the range that the next of them lies in. -/
structure Pending where
  bits : Nat
  missing : Nat
  low : Nat := 0x80
  high : Nat := 0xBF

/-- What stands for bytes that are no character. -/
def replacement : Char := '\uFFFD'

/-- The character that starts with a byte beyond ASCII. The second byte is limited where it could
make a surrogate, a number above all characters, or one that fewer bytes write. -/
def lead? (b : Nat) : Option Pending :=
  if 0xC2 ≤ b ∧ b ≤ 0xDF then some { bits := b - 0xC0, missing := 1 }
  else if b = 0xE0 then some { bits := 0, missing := 2, low := 0xA0 }
  else if b = 0xED then some { bits := 0xD, missing := 2, high := 0x9F }
  else if 0xE1 ≤ b ∧ b ≤ 0xEF then some { bits := b - 0xE0, missing := 2 }
  else if b = 0xF0 then some { bits := 0, missing := 3, low := 0x90 }
  else if 0xF1 ≤ b ∧ b ≤ 0xF3 then some { bits := b - 0xF0, missing := 3 }
  else if b = 0xF4 then some { bits := 4, missing := 3, high := 0x8F }
  else none

/-- The characters that are told by a byte that no other belongs to, and the one it starts. -/
def startWith (b : Nat) : List Char × Option Pending :=
  if b < 0x80 then ([Char.ofNat b], none)
  else
    match lead? b with
    | some p => ([], some p)
    | none => ([replacement], none)

/-- The characters that one more byte tells, and the one that is then pending. A byte that does not
go on with the pending character starts anew. -/
def step (pending : Option Pending) (b : Nat) : List Char × Option Pending :=
  match pending with
  | none => startWith b
  | some p =>
    if p.low ≤ b ∧ b ≤ p.high then
      let bits := p.bits * 64 + (b - 0x80)
      if p.missing = 1 then ([Char.ofNat bits], none)
      else ([], some { bits, missing := p.missing - 1 })
    else
      let (cs, pending) := startWith b
      (replacement :: cs, pending)

/-- The characters that bytes tell after a pending one. -/
def decode (pending : Option Pending) : List UInt8 → List Char
  | [] => if pending.isSome then [replacement] else []
  | b :: bs => (step pending b.toNat).1 ++ decode (step pending b.toNat).2 bs

/-- The text of bytes. Whatever in them is the beginning of a character that does not go on, or
belongs to none, is replaced. -/
def lossyText (bytes : List UInt8) : String := String.ofList (decode none bytes)

end CalendarRelay.Text.Utf8
