import CalendarRelay.Journal.Notice
import CalendarRelay.Decimal.Numeral
import CalendarRelay.Unicode.Letter
import CalendarRelay.Text.Blank

namespace CalendarRelay

open Text

/-- The levels that are shown; no level shows nothing. -/
abbrev Threshold := Option Level

namespace Threshold

def levels : List Level := [.error, .warn, .info, .debug, .trace]

/-- A level by its name in any case or by its number. -/
def ofText? (s : String) : Option Threshold :=
  match Decimal.natBelow? UInt64.size s with
  | some 0 => some none
  | some n => (levels.find? fun l => l.verbosity == n).map some
  | none =>
    if s = "" then some (some .error)
    else if sameName s "off" then some none
    else (levels.find? fun l => sameName l.text s).map some

def text : Threshold → String
  | none => "off"
  | some l => lower l.text

/-- Whether notices of a level are shown. -/
def shows (t : Threshold) (l : Level) : Bool := t.any fun most => l.verbosity ≤ most.verbosity

end Threshold

structure Directive where
  target : Option String := none
  span : Option String := none
  fields : List String := []
  threshold : Threshold := some .trace
  deriving DecidableEq

namespace Directive

/-- The place within a directive while it is read; each holds where its text starts. -/
inductive State
  | outset
  | word (start : Nat)
  | span (start : Nat)
  | field (start : Nat)
  | fieldsEnd
  | spanEnd
  | level (start : Nat)

/-- The characters that a directive may start with, besides a bracket. -/
def isOutset (c : Char) : Bool :=
  c == '-' || c == ':' || c == '_' || Unicode.Letter.isAlphanumeric c

/-- The state after one character, which stands at `i` of the text `cs`. -/
def step (cs : List Char) (i : Nat) (c : Char) (d : Directive) :
    State → Option (Directive × State)
  | .outset =>
    if c = '[' then some (d, .span (i + 1))
    else if isOutset c then some (d, .word i)
    else none
  | .word start =>
    let target := some (String.ofList ((cs.take i).drop start))
    if c = '=' then some ({ d with target }, .level (i + 1))
    else if c = '[' then some ({ d with target }, .span (i + 1))
    else some (d, .word start)
  | .span start =>
    let name := String.ofList ((cs.take i).drop start)
    if c = ']' then some ({ d with span := some name }, .spanEnd)
    else if c = '\x7b' then
      some ({ d with span := if name = "" then none else some name }, .field (i + 1))
    else some (d, .span start)
  | .field start =>
    if c = '\x7d' then
      let name := String.ofList ((cs.take i).drop start)
      if name = "" then none else some ({ d with fields := d.fields ++ [name] }, .fieldsEnd)
    else some (d, .field start)
  | .fieldsEnd => if c = ']' then some (d, .spanEnd) else none
  | .spanEnd => if c = '=' then some (d, .level (i + 1)) else none
  | .level start => some (d, .level start)

/-- Goes through the characters of a directive. -/
def scan (cs : List Char) (i : Nat) (d : Directive) (s : State) :
    List Char → Option (Directive × State)
  | [] => some (d, s)
  | c :: rest => (step cs i c d s).bind fun (d, s) => scan cs (i + 1) d s rest

/-- The directive that a text writes. A lone word is a level if it can be one, or else a part of
the service of which everything is shown. -/
def ofText? (text : String) : Option Directive := do
  let cs := text.toList
  let (d, s) ← scan cs 0 {} .outset (trimBlanks cs)
  match s with
  | .word start =>
    let word := String.ofList (cs.drop start)
    match Threshold.ofText? word with
    | some threshold => return { d with threshold }
    | none => return { d with target := some word }
  | .level start =>
    let word := String.ofList (cs.drop start)
    if word = "" then return d
    else return { d with threshold := ← Threshold.ofText? word }
  | .spanEnd => return d
  | _ => none

def size? (s : Option String) : Int :=
  match s with
  | some s => s.utf8ByteSize
  | none => -1

def compareText? (a b : Option String) : Ordering :=
  match a, b with
  | none, none => .eq
  | none, some _ => .lt
  | some _, none => .gt
  | some a, some b => compare a b

def compareTexts : (a b : List String) → Ordering
  | [], [] => .eq
  | [], _ :: _ => .lt
  | _ :: _, [] => .gt
  | a :: as, b :: bs => (compare a b).then (compareTexts as bs)

/-- How specific a directive is: the longer its target and the more fields, the more. -/
def compareSpecific (a b : Directive) : Ordering :=
  (compare (size? a.target) (size? b.target)).then <|
  (compare a.span.isSome b.span.isSome).then <|
  (compare a.fields.length b.fields.length).then <|
  (compareText? a.target b.target).then <|
  (compareText? a.span b.span).then (compareTexts a.fields b.fields)

/-- The directives with one more in its place, the most specific first; it replaces one that is
just as specific. -/
def insert (d : Directive) : List Directive → List Directive
  | [] => [d]
  | x :: rest =>
    match compareSpecific d x with
    | .gt => d :: x :: rest
    | .eq => d :: rest
    | .lt => x :: insert d rest

/-- Whether a directive depends on the span that a notice is written in. -/
def isDynamic (d : Directive) : Bool := d.span.isSome || !d.fields.isEmpty

/-- Whether a directive depends on nothing but the kind of a notice. -/
def isStatic (d : Directive) : Bool := d.span.isNone && d.fields.all fun f => !f.toList.contains '='

def text (d : Directive) : String :=
  let fields := if d.fields.isEmpty then "" else "\x7b" ++ ",".intercalate d.fields ++ "\x7d"
  let span := if d.isDynamic then "[" ++ d.span.getD "" ++ fields ++ "]" else ""
  let before := d.target.getD "" ++ span
  (if d.target.isSome || d.isDynamic then before ++ "=" else "") ++ d.threshold.text

end Directive

structure LogFilter where
  statics : List Directive
  dynamics : List Directive := []

namespace LogFilter

/-- The filter of some directives. Without any only errors are shown. -/
def ofDirectives (ds : List Directive) : LogFilter :=
  let dynamics := ds.filter Directive.isDynamic
  let statics := (ds.filter fun d => !d.isDynamic) ++ dynamics.filter Directive.isStatic
  let put (ds : List Directive) : List Directive := ds.foldl (fun acc d => d.insert acc) []
  if ds.isEmpty then { statics := [{ threshold := some .error }] }
  else { statics := put statics, dynamics := put dynamics }

/-- The filter that a text writes. -/
def ofText? (s : String) : Option LogFilter :=
  if s = "" then some (ofDirectives [])
  else
    ((fieldsOf ',' s.toList).mapM fun piece => Directive.ofText? (String.ofList piece)).map
      ofDirectives

/-- The filter in force: the one of the environment, or else the one of the settings, or else the
level of information. -/
def choose (environment : Option String) (setting : String) : LogFilter :=
  ((environment.bind ofText?) <|> ofText? setting).getD
    (ofDirectives [{ threshold := some .info }])

def text (f : LogFilter) : String :=
  ",".intercalate ((f.statics ++ f.dynamics).map Directive.text)

/-- Whether a line is shown. The first directive whose target the part of the service starts with
decides. -/
def shows (f : LogFilter) (line : LogLine) : Bool :=
  let applies (d : Directive) : Bool :=
    d.target.all (fun t => t.toList.isPrefixOf line.target.toList) &&
      d.fields.all fun name => line.fields.any fun field => field.1 == name
  match f.statics.find? applies with
  | some d => d.threshold.shows line.level
  | none => false

end LogFilter

end CalendarRelay
