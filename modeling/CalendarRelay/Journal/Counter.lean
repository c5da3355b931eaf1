namespace CalendarRelay

inductive Counter
  | httpRequests (method path : String) (status : Nat)
  | calendarRequests (kind outcome : String)
  | eventsProcessed
  | eventsRemoved
  | configReloads (outcome : String)
  | serviceStarts (service : String)
  deriving DecidableEq

namespace Counter

def name : Counter → String
  | httpRequests .. => "http_requests_total"
  | calendarRequests .. => "calendar_requests_total"
  | eventsProcessed => "calendar_events_processed_total"
  | eventsRemoved => "calendar_events_removed_total"
  | configReloads _ => "config_reloads_total"
  | serviceStarts _ => "service_starts_total"

/-- The labels in increasing order of their names. -/
def labels : Counter → List (String × String)
  | httpRequests method path status =>
    [("method", method), ("path", path), ("status", toString status)]
  | calendarRequests kind outcome => [("kind", kind), ("outcome", outcome)]
  | eventsProcessed => []
  | eventsRemoved => []
  | configReloads outcome => [("outcome", outcome)]
  | serviceStarts service => [("service", service)]

/-- The counter with its labels, as in `name{label=value}`. -/
def text (c : Counter) : String :=
  c.name ++ "\x7b" ++ ",".intercalate (c.labels.map fun l => l.1 ++ "=" ++ l.2) ++ "\x7d"

end Counter

end CalendarRelay
