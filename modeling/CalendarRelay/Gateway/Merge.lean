import CalendarRelay.Gateway.Fault
import CalendarRelay.Catalogue.Definition

namespace CalendarRelay.Gateway

/-- The properties that tell when an event takes place. -/
def schedulingNames : List String := ["UID", "DTSTART", "DTEND", "DURATION", "DTSTAMP", "RRULE",
  "RDATE", "EXDATE", "RECURRENCE-ID", "SEQUENCE", "STATUS", "TRANSP"]

def isScheduling (p : Property) : Bool := schedulingNames.any p.isNamed

/-- An event of a private feed, with nothing but its times, under a title that tells only that one
is busy. -/
def redact (event : Component) : Component :=
  { name := event.name
    properties := event.properties.filter isScheduling ++
      [{ name := "SUMMARY", valueType := ValueType.text, values := ["Busy"] }] }

/-- What a source adds to a merged calendar. -/
def contribution (source : Source) (calendar : Component) : List Component :=
  if source.isPrivate then (calendar.components.filter Component.isEvent).map redact
  else calendar.components

/-- The calendars of the sources in order. The first fault ends the asking. -/
def gather (fetch : Fetcher) : List Source → Journaled (Except Fault (List (Source × Component)))
  | [] => pure (.ok [])
  | source :: rest => do
    match ← askCalendar fetch source.url with
    | .error e => return .error e
    | .ok calendar =>
      Journaled.note (.sourceLoaded source.url source.isPrivate)
      return (← gather fetch rest).map ((source, calendar) :: ·)

/-- One calendar of those of all sources. -/
def combine : List (Source × Component) → Except Fault Component
  | [] => .error (.internal "合并日历没有任何来源")
  | (source, calendar) :: rest =>
    .ok { calendar with
      components := ((source, calendar) :: rest).flatMap fun s => contribution s.1 s.2 }

def merge (fetch : Fetcher) (sources : List Source) : Journaled (Except Fault Component) := do
  return (← gather fetch sources).bind combine

end CalendarRelay.Gateway
