import CalendarRelay.Catalogue.Address
import CalendarRelay.Rule.Pipeline

namespace CalendarRelay

open Rule

/-- A feed of a merged calendar. Of a private one only the times of events are shown. -/
structure Source where
  url : String
  isPrivate : Bool
  deriving DecidableEq

inductive Definition
  | filtered (name url : String) (rules : List Rule)
  | merged (name : String) (sources : List Source)

namespace Definition

def name : Definition → String
  | filtered name _ _ => name
  | merged name _ => name

def kind : Definition → String
  | filtered .. => "filtered"
  | merged .. => "merged"

def ruleCount : Definition → Nat
  | filtered _ _ rules => rules.length
  | merged .. => 0

/-- Why something is no definition, or no collection of definitions. -/
inductive Fault
  | badName (name : String)
  | badCalendar (calendar : String) (fault : Rule.Fault)
  | badDocument

/-- The calendar that a fault is about. -/
def Fault.calendar? : Fault → Option String
  | badName name => some name
  | badCalendar calendar _ => some calendar
  | badDocument => none

def Fault.message : Fault → String
  | badName name => "日历名称无效: " ++ name
  | badCalendar calendar fault => "日历配置无效: " ++ calendar ++ " (" ++ fault.message ++ ")"
  | badDocument => "配置文档无效: 日历配置必须是以日历名称为键的对象"

/-- The field of an object at the place. -/
def field (place : Json.Location) (fields : List (String × Json)) (name : String) :
    Except Rule.Fault Json :=
  match Json.lookup? fields name with
  | some j => .ok j
  | none => .error ⟨place, .missing name⟩

def ruleOfJson (place : Json.Location) (j : Json) : Except Rule.Fault Rule := do
  let some fields := j.fields? | .error ⟨place, .ruleNotObject⟩
  let filter ← Filter.ofJson (place ++ [.key "filter"]) (← field place fields "filter")
  let operations ← Operation.listOfJson (place ++ [.key "operations"])
    (← field place fields "operations")
  return { filter, operations }

/-- The rules that the items of an array give, the first of which stands at `index`. -/
def rulesOfItems (index : Nat) : List Json → Except Rule.Fault (List Rule)
  | [] => .ok []
  | j :: rest => do
    let rule ← ruleOfJson [.key "rules", .index index] j
    return rule :: (← rulesOfItems (index + 1) rest)

def sourceOfJson (place : Json.Location) (j : Json) : Except Rule.Fault Source := do
  let some fields := j.fields? | .error ⟨place, .sourceNotObject⟩
  let url ← match ← field place fields "url" with
    | .str s => .ok s
    | found => .error ⟨place, .invalidUrl found⟩
  let isPrivate ← match ← field place fields "private" with
    | .bool b => .ok b
    | found => .error ⟨place, .invalidPrivate found⟩
  return { url, isPrivate }

/-- The sources that the items of an array give, the first of which stands at `index`. -/
def sourcesOfItems (index : Nat) : List Json → Except Rule.Fault (List Source)
  | [] => .ok []
  | j :: rest => do
    let source ← sourceOfJson [.key "urls", .index index] j
    return source :: (← sourcesOfItems (index + 1) rest)

def filteredOfFields (name : String) (fields : List (String × Json)) :
    Except Rule.Fault Definition := do
  let found ← field [] fields "url"
  let some url := found.string?.filter Address.isFeedUrl | .error ⟨[], .invalidUrl found⟩
  match Json.lookup? fields "rules" with
  | none => return .filtered name url []
  | some (.arr items) => return .filtered name url (← rulesOfItems 0 items)
  | some _ => .error ⟨[], .rulesNotArray⟩

def mergedOfFields (name : String) (fields : List (String × Json)) :
    Except Rule.Fault Definition := do
  match ← field [] fields "urls" with
  | .arr [] => .error ⟨[], .urlsEmpty⟩
  | .arr items => return .merged name (← sourcesOfItems 0 items)
  | _ => .error ⟨[], .urlsNotArray⟩

/-- The definition of the calendar with the given name, which is taken to be a proper one. -/
def bodyOfJson (name : String) (j : Json) : Except Rule.Fault Definition := do
  let some fields := j.fields? | .error ⟨[], .calendarNotObject⟩
  let found ← field [] fields "type"
  if found.string? = some "filtered" then filteredOfFields name fields
  else if found.string? = some "merged" then mergedOfFields name fields
  else .error ⟨[], .unknownType found⟩

/-- The definition of the calendar with the given name. -/
def ofJson (name : String) (j : Json) : Except Fault Definition :=
  if Address.isCalendarName name then (bodyOfJson name j).mapError (.badCalendar name)
  else .error (.badName name)

end Definition

end CalendarRelay
