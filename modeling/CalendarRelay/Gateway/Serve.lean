import CalendarRelay.Gateway.Merge
import CalendarRelay.Gateway.Route
import CalendarRelay.Calendar.Writer
import CalendarRelay.Catalogue.Store

namespace CalendarRelay.Gateway

structure Request where
  method : String := "GET"
  target : String
  headers : List (String × String) := []

/-- A request of a method and a target on one line. -/
def Request.ofLine (line : String) : Request :=
  match ((line.toList.takeWhile fun c => c != '\r' && c != '\n') |> Text.fieldsOf ' ') with
  | [target] => { target := String.ofList target }
  | method :: target :: _ => { method := String.ofList method, target := String.ofList target }
  | [] => { target := "" }

/-- What requests are answered from: the name of the service, its calendars, and how it gets at
feeds. -/
structure Server where
  service : String
  store : Store
  fetch : Fetcher

/-- The text after applying rules to a feed. -/
def renderFiltered (fetch : Fetcher) (name url : String) (rules : List Rule) :
    Journaled (Except Fault Component) := do
  match ← askCalendar fetch url with
  | .error e => return .error e
  | .ok calendar =>
    let (components, stats) ← Rule.run rules calendar.components
    Journaled.count .eventsProcessed stats.events
    Journaled.count .eventsRemoved stats.removed
    Journaled.note (.rulesApplied name stats.events stats.removed stats.rulesMatched)
    return .ok { calendar with components }

/-- The calendar that a definition describes, made from its feeds. -/
def render (fetch : Fetcher) : Definition → Journaled (Except Fault Component)
  | .filtered name url rules => renderFiltered fetch name url rules
  | .merged _ sources => merge fetch sources

def calendarSuffix : String := ".ics"

/-- The name of the calendar that a file is for. -/
def calendarName? (file : String) : Option String :=
  (Text.afterMark? calendarSuffix.toList.reverse file.toList.reverse).map fun name =>
    String.ofList name.reverse

/-- The definition behind a file. -/
def definition? (store : Store) (file : String) : Except Fault Definition :=
  match calendarName? file with
  | none => .error (.notFound file)
  | some name =>
    match store.snapshot.get? name with
    | some d => .ok d
    | none => .error (.notFound name)

/-- The response to a request for a file. -/
def serveFile (server : Server) (file : String) : Journaled Response := do
  match definition? server.store file with
  | .error e => e.respond
  | .ok d =>
    match ← render server.fetch d with
    | .ok calendar =>
      Journaled.count (.calendarRequests d.kind "ok")
      return .contentType "text/calendar" 200 calendar.toText
    | .error e =>
      Journaled.count (.calendarRequests d.kind "error")
      e.respond

def serveIndex : Response := .plain 200 "Hello, you should not be here :)"

/-- The state of the service in short. -/
def serveHealth (server : Server) : Response :=
  .json 200 <| Json.ofFields [
    ("status", .str "ok"), ("service", .str server.service),
    ("calendars", .int server.store.snapshot.size),
    ("version", .int server.store.snapshot.version)]

/-- The response to a request for a segment of a path, which need not be text. -/
def serveSegment (server : Server) (segment : List Char) : Journaled Response :=
  match decodeSegment? segment with
  | some file => serveFile server file
  | none => pure (.plain 400 "Invalid URL: Invalid UTF-8 in \x60file\x60")

/-- The response to a request that only reads. -/
def serveRead (server : Server) : Route → Journaled Response
  | .index => pure serveIndex
  | .health => pure (serveHealth server)
  | .file segment => serveSegment server segment
  | .unmatched => pure { status := 404 }

def allowed : String × String := ("allow", "GET,HEAD")

/-- The response of a route to a method. Asking for options is answered everywhere. -/
def dispatch (server : Server) (method : String) (route : Route) : Journaled Response :=
  if method = "OPTIONS" then
    pure { status := 200
           headers := ("access-control-allow-methods", "GET") ::
             if route = .unmatched then [] else [allowed] }
  else if route = .unmatched then pure { status := 404 }
  else if method = "GET" then serveRead server route
  else if method = "HEAD" then do return { ← serveRead server route with body := "" }
  else pure { status := 405, headers := [allowed] }

/-- Whether a header is text: visible ASCII characters, spaces and tabs. -/
def isVisible (value : String) : Bool :=
  value.toList.all fun c => (' ' ≤ c && c ≤ '~') || c == '\t'

/-- The identifier of a request: the one it brings, or else a fresh one. -/
def requestId (headers : List (String × String)) (fresh : String) : String :=
  match headers.find? fun h => h.1 == "x-request-id" with
  | some h => if isVisible h.2 then h.2 else fresh
  | none => fresh

/-- The response to a request, given an identifier that no other request has. -/
def answer (server : Server) (fresh : String) (request : Request) : Journaled Response := do
  let route := Route.ofTarget request.target
  let response ← dispatch server request.method route
  Journaled.count (.httpRequests request.method route.label response.status)
  return { response with
    headers := response.headers ++ [("access-control-allow-origin", "*"),
      ("x-request-id", requestId request.headers fresh)] }

end CalendarRelay.Gateway
