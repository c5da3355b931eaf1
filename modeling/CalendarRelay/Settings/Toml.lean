import CalendarRelay.Settings.Value
import CalendarRelay.Text.Ascii
import CalendarRelay.Text.Scan

namespace CalendarRelay.Settings.Toml

open Text Decimal

abbrev Scan := StateT (List Char) Option

def isBlank (c : Char) : Bool := c == ' ' || c == '\t'

/-- A character that may stand in a comment and within one line of a text. -/
def isPrintable (c : Char) : Bool := c == '\t' || (' ' ≤ c && c != '\x7f')

def skipBlanks : Scan Unit := modify fun cs => cs.dropWhile isBlank

def peek? : Scan (Option Char) := do return (← get).head?

def advance (n : Nat := 1) : Scan Unit := modify fun cs => cs.drop n

/-- Steps over the mark when the text starts with it. -/
def accept (mark : String) : Scan Bool := do
  match afterMark? mark.toList (← get) with
  | some rest =>
    set rest
    return true
  | none => return false

def expect (mark : String) : Scan Unit := do guard (← accept mark)

def acceptLineEnd : Scan Bool := do
  if ← accept "\n" then return true else accept "\r\n"

/-- Steps over a comment, if one starts here. -/
def skipComment : Scan Unit := do
  if (← peek?) = some '#' then modify fun cs => cs.dropWhile isPrintable

/-- Steps over blanks and a comment to the end of the line. -/
def endLine : Scan Unit := do
  skipBlanks
  skipComment
  guard (← get).isEmpty <|> (do guard (← acceptLineEnd))

/-- Steps over blanks, comments and line ends. -/
def skipLines : (fuel : Nat) → Scan Unit
  | 0 => return
  | fuel + 1 => do
    skipBlanks
    skipComment
    if ← acceptLineEnd then skipLines fuel else return

/-- Runs a scan that needs fuel with as much as the text can take: each character at most two
calls. -/
def withFuel (scan : Nat → Scan α) : Scan α := do scan (2 * (← get).length + 2)

def escaped? : Char → Option Char
  | 'b' => some '\x08'
  | 't' => some '\t'
  | 'n' => some '\n'
  | 'f' => some '\x0c'
  | 'r' => some '\r'
  | '"' => some '"'
  | '\\' => some '\\'
  | _ => none

/-- The character of a code point written by hexadecimal digits. -/
def readCodePoint (digits : Nat) : Scan Char := do
  let cs := (← get).take digits
  guard (cs.length = digits ∧ cs.all fun c => (hexValue? c).isSome)
  advance digits
  let n := ofDigits 16 (cs.filterMap hexValue?)
  guard (n ≤ 0x10FFFF ∧ ¬(0xD800 ≤ n ∧ n ≤ 0xDFFF))
  return Char.ofNat n

/-- The character that an escape after its backslash stands for. -/
def readEscape : Scan Char := do
  let some c ← peek? | failure
  advance
  if c = 'u' then readCodePoint 4
  else if c = 'U' then readCodePoint 8
  else escaped? c

/-- The text up to the closing quote of one line. -/
def readBasic : (fuel : Nat) → Scan (List Char)
  | 0 => failure
  | fuel + 1 => do
    let some c ← peek? | failure
    advance
    if c = '"' then return []
    else if c = '\\' then
      let e ← readEscape
      return e :: (← readBasic fuel)
    else
      guard (isPrintable c)
      return c :: (← readBasic fuel)

/-- Steps over the line end after a backslash and all blanks behind it. -/
def skipContinuation : (fuel : Nat) → Scan Unit
  | 0 => return
  | fuel + 1 => do
    skipBlanks
    if ← acceptLineEnd then skipContinuation fuel else return

/-- The end of a text of several lines: three quotes, with up to two more that belong to the
text. -/
def closing? (quote : Char) (cs : List Char) : Option (List Char × List Char) :=
  let run := cs.takeWhile (· == quote)
  if run.length < 3 then none
  else
    let extra := min (run.length - 3) 2
    some (List.replicate extra quote, cs.drop (extra + 3))

/-- The text up to three closing quotes; in a basic one backslashes start escapes. -/
def readMultiLine (quote : Char) : (fuel : Nat) → Scan (List Char)
  | 0 => failure
  | fuel + 1 => do
    match closing? quote (← get) with
    | some (last, rest) =>
      set rest
      return last
    | none =>
      if ← acceptLineEnd then return '\n' :: (← readMultiLine quote fuel)
      let some c ← peek? | failure
      advance
      if c = '\\' ∧ quote = '"' then
        let rest ← get
        let next := (rest.dropWhile isBlank).head?
        if next = some '\n' ∨ next = some '\r' then
          skipBlanks
          guard (← acceptLineEnd)
          withFuel skipContinuation
          readMultiLine quote fuel
        else
          let e ← readEscape
          return e :: (← readMultiLine quote fuel)
      else
        guard (isPrintable c)
        return c :: (← readMultiLine quote fuel)

/-- The text up to the closing apostrophe of one line. -/
def readLiteral : Scan (List Char) := do
  let cs ← get
  let content := cs.takeWhile fun c => isPrintable c && c != '\''
  set (cs.drop content.length)
  expect "'"
  return content

/-- A text in quotes, if one starts here. -/
def readText? : Scan (Option String) := do
  let multiLine (quote : Char) : Scan (Option String) := do
    let _ ← acceptLineEnd
    return some (String.ofList (← withFuel (readMultiLine quote)))
  if ← accept "\"\"\"" then multiLine '"'
  else if ← accept "'''" then multiLine '\''
  else if ← accept "\"" then return some (String.ofList (← withFuel readBasic))
  else if ← accept "'" then return some (String.ofList (← readLiteral))
  else return none

def isBareChar (c : Char) : Bool := isLetter c || isDigit c || c == '_' || c == '-'

/-- One name of a key. -/
def readName : Scan String := do
  if ← accept "\"" then return String.ofList (← withFuel readBasic)
  else if ← accept "'" then return String.ofList (← readLiteral)
  else
    let cs ← get
    let name := cs.takeWhile isBareChar
    guard (name ≠ [])
    set (cs.dropWhile isBareChar)
    return String.ofList name

/-- A key: names with dots between them. -/
def readKey : (fuel : Nat) → Scan (List String)
  | 0 => failure
  | fuel + 1 => do
    let name ← readName
    skipBlanks
    if ← accept "." then
      skipBlanks
      return name :: (← readKey fuel)
    else return [name]

/-- Digits without the underscores between them. -/
def plainDigits? (isDigit : Char → Bool) (cs : List Char) : Option (List Char) :=
  let pieces := fieldsOf '_' cs
  if pieces.all fun p => !p.isEmpty && p.all isDigit then some pieces.flatten else none

/-- Decimal digits with no zero in front of others. -/
def wholeDigits? (cs : List Char) : Option (List Char) :=
  (plainDigits? isDigit cs).filter fun ds => ds.length == 1 || ds.head? != some '0'

def int? (n : Int) : Option Value :=
  if Decimal.fitsInt64 n then some (.int n) else none

/-- A whole number in another base than ten. -/
def based? (base : Nat) (cs : List Char) : Option Value :=
  let isDigitOf (c : Char) : Bool := (hexValue? c).any (· < base)
  (plainDigits? isDigitOf cs).bind fun ds => int? (ofDigits base (ds.filterMap hexValue?))

/-- A number with a fraction or an exponent. -/
def float? (negative : Bool) (cs : List Char) : Option Value := do
  let isMark (c : Char) : Bool := c == '.' || c == 'e' || c == 'E'
  let whole ← wholeDigits? (cs.takeWhile fun c => !isMark c)
  let rest := cs.dropWhile fun c => !isMark c
  let (fraction, rest) ← match rest with
    | '.' :: rest => do
      let isExponent (c : Char) : Bool := c == 'e' || c == 'E'
      let digits ← plainDigits? isDigit (rest.takeWhile fun c => !isExponent c)
      pure (digits, rest.dropWhile fun c => !isExponent c)
    | rest => pure ([], rest)
  let exponent : Int ← match rest with
    | _ :: rest => do
      let (down, digits) := signed rest
      let n := natOf (← plainDigits? isDigit digits)
      pure (if down then -(n : Int) else n)
    | [] => pure 0
  return .float (.ofDecimal negative (natOf (whole ++ fraction)) (exponent - fraction.length))

/-- A number in one word. -/
def number? (word : List Char) : Option Value :=
  let (negative, cs) := signed word
  match word with
  | '0' :: 'x' :: cs => based? 16 cs
  | '0' :: 'o' :: cs => based? 8 cs
  | '0' :: 'b' :: cs => based? 2 cs
  | _ =>
    if cs = "inf".toList then some (.float (.infinity negative))
    else if cs = "nan".toList then some (.float .nan)
    else if cs.any fun c => c == '.' || c == 'e' || c == 'E' then float? negative cs
    else (wholeDigits? cs).bind fun ds => int? (if negative then -(natOf ds : Int) else natOf ds)

/-- Digits in exactly so many places, and what follows them. -/
def places? (n : Nat) (cs : List Char) : Option (Nat × List Char) :=
  let ds := cs.take n
  if ds.length = n ∧ ds.all isDigit then some (natOf ds, cs.drop n) else none

def isLeap (year : Nat) : Bool := year % 4 == 0 && (year % 100 != 0 || year % 400 == 0)

def daysOf (year month : Nat) : Nat :=
  if month = 2 then (if isLeap year then 29 else 28)
  else if [4, 6, 9, 11].contains month then 30 else 31

/-- The text of a date at the start and what follows it. -/
def date? (cs : List Char) : Option (List Char × List Char) := do
  let (year, rest) ← places? 4 cs
  let rest ← afterMark? ['-'] rest
  let (month, rest) ← places? 2 rest
  let rest ← afterMark? ['-'] rest
  let (day, rest) ← places? 2 rest
  guard (1 ≤ month ∧ month ≤ 12 ∧ 1 ≤ day ∧ day ≤ daysOf year month)
  return (cs.take 10, rest)

/-- The fraction of a second, cut to nine places and without zeros at its end. -/
def secondFraction? : List Char → Option (List Char × List Char)
  | '.' :: cs =>
    let digits := cs.takeWhile isDigit
    let kept := ((digits.take 9).reverse.dropWhile (· == '0')).reverse
    if digits = [] then none
    else some (if kept = [] then [] else '.' :: kept, cs.dropWhile isDigit)
  | cs => some ([], cs)

/-- The text of a time at the start and what follows it. -/
def time? (cs : List Char) : Option (List Char × List Char) := do
  let (hour, rest) ← places? 2 cs
  let rest ← afterMark? [':'] rest
  let (minute, rest) ← places? 2 rest
  let rest ← afterMark? [':'] rest
  let (second, rest) ← places? 2 rest
  guard (hour ≤ 23 ∧ minute ≤ 59 ∧ second ≤ 60)
  let (fraction, rest) ← secondFraction? rest
  return (cs.take 8 ++ fraction, rest)

/-- The text of an offset, which is all that is left. -/
def offset? : List Char → Option (List Char)
  | [] => some []
  | ['Z'] => some ['Z']
  | ['z'] => some ['Z']
  | c :: cs => do
    guard (c = '+' ∨ c = '-')
    let (hour, rest) ← places? 2 cs
    let rest ← afterMark? [':'] rest
    let (minute, rest) ← places? 2 rest
    guard (hour ≤ 23 ∧ minute ≤ 59 ∧ rest = [])
    return c :: cs

/-- A date, a time or both in one word, as text. -/
def moment? (word : List Char) : Option Value :=
  match date? word with
  | some (date, []) => some (.text (String.ofList date))
  | some (date, mark :: rest) => do
    guard (mark = 'T' ∨ mark = 't' ∨ mark = ' ')
    let (time, rest) ← time? rest
    return .text (String.ofList (date ++ 'T' :: time ++ (← offset? rest)))
  | none => do
    let (time, rest) ← time? word
    guard (rest = [])
    return .text (String.ofList time)

def isWordChar (c : Char) : Bool :=
  isLetter c || isDigit c || c == '+' || c == '-' || c == '_' || c == '.' || c == ':'

/-- A value that is one word; a date and a time may have a blank between them. -/
def readWord : Scan Value := do
  let cs ← get
  let word := cs.takeWhile isWordChar
  let word := match date? word, cs.drop word.length with
    | some (_, []), ' ' :: d :: rest =>
      if isDigit d then word ++ ' ' :: (d :: rest).takeWhile isWordChar else word
    | _, _ => word
  set (cs.drop word.length)
  if word = "true".toList then return .bool true
  else if word = "false".toList then return .bool false
  else number? word <|> moment? word

/-- How a table came to be: by headers of tables within it, by its own header, or by keys with
dots. -/
inductive Origin
  | implied
  | headed
  | dotted
  deriving DecidableEq

/-- What a key leads to while a document is read: a finished value, a table, or a list of tables,
the last of them first. -/
inductive Node
  | leaf (v : Value)
  | table (origin : Origin) (entries : List (String × Node))
  | tables (items : List (List (String × Node)))

/-- The entries of a table while a document is read. -/
abbrev Entries := List (String × Node)

/-- The entries with the one under the key changed or made; nothing when `f` refuses. -/
def update (key : String) (f : Option Node → Option Node) : Entries → Option Entries
  | [] => (f none).map fun n => [(key, n)]
  | (k, n) :: rest =>
    if k = key then (f (some n)).map fun n => (k, n) :: rest
    else (update key f rest).map ((k, n) :: ·)

/-- The entries with the table at the path changed, which is made if there is none. A key with
dots does not lead into a table that has a header, and a header leads into the last table of a
list. -/
def descend (dotted : Bool) (f : Entries → Option Entries) : List String → Entries → Option Entries
  | [], entries => f entries
  | key :: path, entries =>
    update key (fun
      | none => (descend dotted f path []).map (.table (if dotted then .dotted else .implied))
      | some (.table origin inner) =>
        if dotted ∧ origin = .headed then none
        else (descend dotted f path inner).map (.table origin)
      | some (.tables (last :: before)) =>
        if dotted then none
        else (descend dotted f path last).map fun last => .tables (last :: before)
      | _ => none) entries

/-- The entries with a value under a key with dots, which must be new. -/
def putValue (v : Value) (key : List String) (entries : Entries) : Option Entries :=
  descend true (update (key.getLastD "") fun
    | none => some (.leaf v)
    | some _ => none) key.dropLast entries

/-- The entries with a table under its header. A table may have one header only. -/
def putTable (key : List String) (entries : Entries) : Option Entries :=
  descend false (update (key.getLastD "") fun
    | none => some (.table .headed [])
    | some (.table .implied inner) => some (.table .headed inner)
    | some _ => none) key.dropLast entries

/-- The entries with one more table in a list of them. -/
def putListTable (key : List String) (entries : Entries) : Option Entries :=
  descend false (update (key.getLastD "") fun
    | none => some (.tables [[]])
    | some (.tables items) => some (.tables ([] :: items))
    | some _ => none) key.dropLast entries

mutual

def Node.value : Node → Value
  | .leaf v => v
  | .table _ entries => .table (Node.entryValues entries)
  | .tables items => .list (Node.tableValues items).reverse

def Node.entryValues : List (String × Node) → List (String × Value)
  | [] => []
  | (key, n) :: rest => (key, n.value) :: Node.entryValues rest

def Node.tableValues : List (List (String × Node)) → List Value
  | [] => []
  | entries :: rest => .table (Node.entryValues entries) :: Node.tableValues rest

end

mutual

def readValue : (fuel : Nat) → Scan Value
  | 0 => failure
  | fuel + 1 => do
    match ← readText? with
    | some s => return .text s
    | none =>
      if ← accept "[" then
        withFuel skipLines
        if ← accept "]" then return .list [] else return .list (← readItems fuel)
      else if ← accept "\x7b" then
        skipBlanks
        if ← accept "\x7d" then return .table []
        else return .table (Node.entryValues (← readPairs fuel []))
      else readWord

/-- The items of a list up to its closing bracket. -/
def readItems : (fuel : Nat) → Scan (List Value)
  | 0 => failure
  | fuel + 1 => do
    let v ← readValue fuel
    withFuel skipLines
    if ← accept "," then
      withFuel skipLines
      if ← accept "]" then return [v] else return v :: (← readItems fuel)
    else
      expect "]"
      return [v]

/-- The entries of a table on one line up to its closing brace. -/
def readPairs : (fuel : Nat) → Entries → Scan Entries
  | 0, _ => failure
  | fuel + 1, entries => do
    let key ← withFuel readKey
    expect "="
    skipBlanks
    let v ← readValue fuel
    let entries ← putValue v key entries
    skipBlanks
    if ← accept "," then
      skipBlanks
      readPairs fuel entries
    else
      expect "\x7d"
      return entries

end

/-- The key of a header up to its closing brackets. -/
def readHeader (closing : String) : Scan (List String) := do
  skipBlanks
  let key ← withFuel readKey
  expect closing
  return key

/-- The lines of a document from here on; `table` is the key of the last header. -/
def readDocument : (fuel : Nat) → (table : List String) → Entries → Scan Entries
  | 0, _, _ => failure
  | fuel + 1, table, entries => do
    skipBlanks
    match ← peek? with
    | none => return entries
    | some '[' =>
      advance
      if ← accept "[" then
        let key ← readHeader "]]"
        let entries ← putListTable key entries
        endLine
        readDocument fuel key entries
      else
        let key ← readHeader "]"
        let entries ← putTable key entries
        endLine
        readDocument fuel key entries
    | some c =>
      if c = '#' ∨ c = '\n' ∨ c = '\r' then
        endLine
        readDocument fuel table entries
      else
        let key ← withFuel readKey
        expect "="
        skipBlanks
        let v ← withFuel readValue
        let entries ← descend false (putValue v key) table entries
        endLine
        readDocument fuel table entries

/-- The entries of the document that a text writes. A table is written in one place only, and no key
twice. -/
def ofText? (text : String) : Option (List (String × Value)) :=
  let cs := match text.toList with
    | '\uFEFF' :: cs => cs
    | cs => cs
  match (readDocument (cs.length + 1) [] []).run cs with
  | some (entries, []) => some (Node.entryValues entries)
  | _ => none

end CalendarRelay.Settings.Toml
