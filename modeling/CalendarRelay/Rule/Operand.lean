import CalendarRelay.Calendar.Property
import CalendarRelay.Decimal.Numeral
import CalendarRelay.Text.Blank

namespace CalendarRelay.Rule

open Decimal (Binary64)

inductive Operand
  | literal (text : String)
  | field (name : String)
  deriving DecidableEq

/-- What an operand stands for in one event; a number keeps the text it was read from. -/
inductive Value
  | text (source : String)
  | number (source : String) (x : Binary64)
  deriving DecidableEq

namespace Value

def isNumericType (valueType : String) : Bool :=
  Text.sameName valueType "integer" || Text.sameName valueType "float"

/-- A value of the given type; a numeral that cannot be read is text. -/
def typed (source valueType : String) : Value :=
  if isNumericType valueType then
    match Binary64.ofText? source with
    | some x => .number source x
    | none => .text source
  else .text source

def source : Value → String
  | text s => s
  | number s _ => s

/-- The value as a number: blank text counts as zero, and text that is no numeral as no number. -/
def toNumber : Value → Binary64
  | number _ x => x
  | text s =>
    let trimmed := String.ofList (Text.trimBlanks s.toList)
    if trimmed = "" then .zero else (Binary64.ofText? trimmed).getD .nan

end Value

namespace Operand

/-- What a field is introduced by. -/
def fieldMark : List Char := "event.".toList

/-- Every text is an operand. -/
def ofText (s : String) : Operand :=
  match Text.afterMark? fieldMark s.toList with
  | some name => .field (String.ofList name)
  | none => .literal s

/-- The value in an event; a field that the event lacks has none. -/
def resolve? (r : Record) : Operand → Option Value
  | literal s => some (.text s)
  | field name => (r.lineOf? name).bind fun p => p.value?.map fun v => .typed v p.valueType

end Operand

end CalendarRelay.Rule
