import CalendarRelay.Calendar.Component
import CalendarRelay.Calendar.ValueType
import CalendarRelay.Calendar.Folding
import CalendarRelay.Calendar.Escape
import CalendarRelay.Text.Scan

namespace CalendarRelay

namespace Property

/-- Whether a value of a parameter already stands in quotes, as a list of quoted values does. -/
def isQuoted (value : List Char) : Bool :=
  2 ≤ value.length && value.head? == some '"' && value.getLast? == some '"'

/-- A parameter as it is written; a value that holds a separator gets quotes. -/
def paramText (key value : String) : List Char :=
  let v := value.toList
  let quoted := !isQuoted v && v.any fun c => c == ':' || c == ';' || c == ','
  ';' :: key.toList ++ '=' :: (if quoted then '"' :: v ++ ['"'] else v)

/-- The parameter that names the type of the values, unless the name of the property says it. -/
def typeText (name valueType : String) : List Char :=
  if valueType = ValueType.ofName name ∨ valueType = ValueType.unknown then []
  else ";VALUE=".toList ++ (Text.upper valueType).toList

/-- The values as they are written, with commas between them. -/
def valueText (p : Property) : List Char :=
  Text.joinWith ',' <| p.values.map fun v =>
    if p.valueType = ValueType.text then Escape.escape v.toList else v.toList

/-- The content line of a property. -/
def contentLine (p : Property) : List Char :=
  let name := Text.upper p.name
  name.toList ++ p.params.flatMap (fun q => paramText q.1 q.2) ++ typeText name p.valueType ++
    ':' :: p.valueText

end Property

namespace Component

def openingLine (name : String) : List Char := "BEGIN:".toList ++ (Text.upper name).toList

def closingLine (name : String) : List Char := "END:".toList ++ (Text.upper name).toList

mutual

/-- The document of a component. -/
def write : Component → List Char
  | ⟨name, properties, components⟩ =>
    Folding.foldLine (openingLine name) ++
      properties.flatMap (fun p => Folding.foldLine p.contentLine) ++
      writeAll components ++ Folding.foldLine (closingLine name)

def writeAll : List Component → List Char
  | [] => []
  | c :: rest => write c ++ writeAll rest

end

def toText (c : Component) : String := String.ofList c.write

end Component

end CalendarRelay
