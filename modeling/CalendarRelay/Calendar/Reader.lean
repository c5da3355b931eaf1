import CalendarRelay.Calendar.Component
import CalendarRelay.Calendar.ValueType
import CalendarRelay.Calendar.Folding
import CalendarRelay.Calendar.Escape
import CalendarRelay.Text.Scan

namespace CalendarRelay.Document

open Text

/-- Why a text is no calendar document. -/
inductive Fault
  | notCalendar
  | malformed
  deriving DecidableEq

def Fault.message : Fault → String
  | notCalendar => "日历文档缺少 BEGIN:VCALENDAR"
  | malformed => "日历文档格式无效: 无法解析"

/-- A property as it was written: the text of each parameter without its quotes, and the text
after the colon. -/
structure RawProperty where
  name : List Char
  params : List (List Char × List Char) := []
  value : List Char := []

def isKeyChar (c : Char) : Bool :=
  c == '.' || c == ',' || c == '/' || c == '_' || c == '-' ||
    Unicode.Letter.isAlphanumeric c

def isTab (c : Char) : Bool := c == ' ' || c == '\t'

def isSpace (c : Char) : Bool := isTab c || c == '\r' || c == '\n'

/-- The text after all line ends at its start. -/
def skipLineEnds : List Char → List Char
  | '\n' :: cs => skipLineEnds cs
  | '\r' :: '\n' :: cs => skipLineEnds cs
  | cs => cs

/-- The text after one line end at its start, if there is one. -/
def skipLineEnd : List Char → List Char
  | '\n' :: cs => cs
  | '\r' :: '\n' :: cs => cs
  | cs => cs

/-- A name and what follows it; a name may be empty. -/
def readKey (cs : List Char) : List Char × List Char :=
  (cs.takeWhile isKeyChar, cs.dropWhile isKeyChar)

/-- The content of a quoted text, which is not empty, and what follows it. -/
def readQuoted? : List Char → Option (List Char × List Char)
  | '"' :: cs =>
    match cs.takeWhile (· != '"'), cs.dropWhile (· != '"') with
    | c :: content, _ :: rest => some (c :: content, rest)
    | _, _ => none
  | _ => none

theorem length_of_readQuoted? {cs content rest : List Char}
    (h : readQuoted? cs = some (content, rest)) : rest.length < cs.length := by
  unfold readQuoted? at h
  split at h
  · rename_i cs
    split at h
    · rename_i q _ _ hd
      have := (List.dropWhile_sublist (l := cs) (· != '"')).length_le
      simp only [Option.some.injEq, Prod.mk.injEq] at h
      rw [hd] at this
      simp only [List.length_cons] at this ⊢
      rw [← h.2]
      omega
    · simp at h
  · simp at h

/-- The text after any number of further quoted texts, each with a comma before it. -/
def skipQuoted (cs : List Char) : List Char :=
  match cs with
  | ',' :: rest =>
    match h : readQuoted? rest with
    | some (_, after) =>
      have := length_of_readQuoted? h
      skipQuoted after
    | none => ',' :: rest
  | cs => cs
termination_by cs.length
decreasing_by simp only [List.length_cons]; omega

/-- The value of a parameter and what follows it. One quoted text stands for its content, several
with commas between them for themselves; anything else goes on to the next separator. -/
def readParamValue (cs : List Char) : List Char × List Char :=
  match readQuoted? cs with
  | some (content, rest) =>
    let after := skipQuoted rest
    if after.length = rest.length then (content, rest)
    else (cs.take (cs.length - after.length), after)
  | none => (cs.takeWhile fun c => c != ';' && c != ':', cs.dropWhile fun c => c != ';' && c != ':')

/-- One parameter after its semicolon and what follows it. -/
def readParam (cs : List Char) : (List Char × List Char) × List Char :=
  let (key, rest) := readKey (cs.dropWhile isTab)
  match rest with
  | '=' :: rest =>
    let (value, rest) := readParamValue rest
    ((key, value), rest)
  | rest => ((key, []), rest)

/-- The parameters at the start of a text and what follows them. -/
def readParams (cs : List Char) : List (List Char × List Char) × List Char :=
  match cs with
  | ';' :: rest =>
    let (param, after) := readParam rest
    if after.length ≤ rest.length then
      let (params, last) := readParams after
      (param :: params, last)
    else ([param], after)
  | cs => ([], cs)
termination_by cs.length

/-- A value and what follows it. A value ends at the first line end with a carriage return
anywhere in the text, if there is none at the first line feed, and else with the text. -/
def readValue (cs : List Char) : List Char × List Char :=
  match cutAt? ['\r', '\n'] cs with
  | some (value, rest) => (value, rest)
  | none =>
    match cutAt? ['\n'] cs with
    | some (value, rest) => (value, rest)
    | none => (cs, [])

/-- Whether what follows a word is the end of a name. -/
def endsName : Option (List Char) → Bool
  | some [] => true
  | some (c :: _) => c == ':' || c == ';'
  | none => false

/-- Whether the text starts with the opening or closing of a component, which no property may. -/
def isReserved (cs : List Char) : Bool :=
  endsName (afterWord? "BEGIN".toList cs) || endsName (afterWord? "END".toList cs)

/-- A property with a colon and what follows it. -/
def readLine? (cs : List Char) : Option (RawProperty × List Char) :=
  let (name, rest) := readKey cs
  let (params, rest) := readParams rest
  match rest with
  | ':' :: rest =>
    let (value, rest) := readValue rest
    some (⟨name, params, value⟩, rest)
  | _ => none

/-- A property and what follows it: a whole line after any blanks, or else a name alone. -/
def readProperty? (cs : List Char) : Option (RawProperty × List Char) :=
  let start := cs.dropWhile isSpace
  if isReserved start then none
  else
    match readLine? start with
    | some found => some found
    | none =>
      let (name, rest) := readKey cs
      some (⟨name, [], []⟩, skipLineEnd rest)

/-- The name of the component that opens here and what follows it. -/
def readOpening? (cs : List Char) : Option (List Char × List Char) :=
  (afterWord? "BEGIN:".toList (skipLineEnds cs)).map fun rest =>
    let (name, rest) := readKey rest
    (name, skipLineEnds rest)

/-- What follows the name of the component that closes here. -/
def readClosing? (cs : List Char) : Option (List Char) :=
  afterWord? "END:".toList (skipLineEnds cs)

/-- Whether a parameter names the type of the values. -/
def isTypeKey (key : List Char) : Bool := upper (String.ofList key) == "VALUE"

/-- Whether the value of a property was written with escapes: text is, unless it is a list. -/
def RawProperty.isEscaped (p : RawProperty) : Bool :=
  let name := String.ofList p.name
  if sameName name "CATEGORIES" || sameName name "RESOURCES" then false
  else
    match p.params.find? fun q => String.ofList q.1 == "VALUE" with
    | some q =>
      let declared := String.ofList q.2
      if ValueType.declarable.contains declared then declared == "TEXT"
      else ValueType.isTextName name
    | none => ValueType.isTextName name

/-- The last type that a parameter names, or else the one that goes with the name. -/
def RawProperty.valueType (p : RawProperty) : String :=
  match (p.params.filter fun q => isTypeKey q.1).getLast? with
  | some q => lower (String.ofList q.2)
  | none => ValueType.ofName (String.ofList p.name)

/-- The property that was written. -/
def RawProperty.toProperty (p : RawProperty) : Property :=
  let name := String.ofList p.name
  let value := if p.isEscaped then Escape.unescape p.value else p.value
  { name := upper name
    params := (p.params.filter fun q => !isTypeKey q.1).map fun q =>
      (upper (String.ofList q.1), String.ofList q.2)
    valueType := p.valueType
    values :=
      if ValueType.isList name then (fieldsOf ',' value).map String.ofList
      else [String.ofList value] }

/-- What stands between the first and the last line of a component. -/
structure Body where
  properties : List Property := []
  components : List Component := []

/-- The body of the component of the given name and what follows its last line. The text of each
item is shorter than what was there before it. -/
def readBody? (name cs : List Char) : Option (Body × List Char) :=
  match readClosing? cs with
  | some rest => (afterMark? name rest).map fun rest => ({}, skipLineEnds rest)
  | none =>
    match readOpening? cs with
    | some (childName, rest) =>
      if rest.length < cs.length then
        match readBody? childName rest with
        | some (child, after) =>
          if (skipLineEnds after).length < cs.length then
            (readBody? name (skipLineEnds after)).map fun (body, last) =>
              ({ body with components :=
                ⟨upper (String.ofList childName), child.properties, child.components⟩ ::
                  body.components }, last)
          else none
        | none => none
      else none
    | none =>
      match readProperty? (skipLineEnds cs) with
      | some (p, rest) =>
        if (skipLineEnds rest).length < cs.length then
          (readBody? name (skipLineEnds rest)).map fun (body, last) =>
            ({ body with properties := p.toProperty :: body.properties }, last)
        else none
      | none => none
termination_by cs.length

/-- The component that a text after unfolding consists of. -/
def readDocument? (cs : List Char) : Option Component :=
  match readOpening? cs with
  | some (name, rest) =>
    match readBody? name rest with
    | some (body, []) =>
      some ⟨upper (String.ofList name), body.properties, body.components⟩
    | _ => none
  | none => none

/-- The text without the byte order mark at its start. -/
def withoutMark : List Char → List Char
  | '\uFEFF' :: cs => cs
  | cs => cs

/-- The calendar that a document holds. -/
def read (text : String) : Except Fault Component :=
  match readDocument? (Folding.unfold (withoutMark text.toList)) with
  | none => .error .malformed
  | some root => if sameName root.name "VCALENDAR" then .ok root else .error .notCalendar

end CalendarRelay.Document
