import CalendarRelay.Settings.Layer
import CalendarRelay.Settings.Toml
import CalendarRelay.Unicode.Upper
import CalendarRelay.Text.Utf8
import CalendarRelay.Files

namespace CalendarRelay

structure ServerSettings where
  host : String := "0.0.0.0"
  port : Nat := 3000
  deriving DecidableEq

structure ObservabilitySettings where
  logLevel : String := "info"
  logFormat : String := "pretty"
  metricsEnabled : Bool := false
  metricsPort : Nat := 9090
  deriving DecidableEq

/-- Where the definitions are, and whether and after how many milliseconds a change of them is
loaded. -/
structure CalendarSettings where
  path : String := "config.json"
  watch : Bool := true
  debounce : Nat := 500
  deriving DecidableEq

/-- How feeds are asked for; the timeout counts seconds. -/
structure FetchSettings where
  timeout : Nat := 30
  userAgent : String := "calendar-proxy/0.1.0"
  deriving DecidableEq

structure Settings where
  serviceName : String := ""
  environment : String := ""
  server : ServerSettings := {}
  observability : ObservabilitySettings := {}
  calendars : CalendarSettings := {}
  fetch : FetchSettings := {}
  deriving DecidableEq

namespace Settings

/-- The address that the service listens on. -/
def address (s : Settings) : String := s.server.host ++ ":" ++ toString s.server.port

/-- Whether log lines are written as JSON. -/
def jsonLogs (s : Settings) : Bool := Text.sameName s.observability.logFormat "json"

inductive Fault
  | malformedFile (path : String)
  | invalid
  deriving DecidableEq

/-- Where settings come from: the variables of the environment, and the files. -/
structure Sources where
  env : List (String × String)
  files : Files

/-- The value of a variable of the environment. -/
def variableNamed? (s : Sources) (name : String) : Option String :=
  (s.env.find? fun v => v.1 == name).map Prod.snd

/-- The value that a section gives under a name. A section that is a list gives its values by
their places. -/
def valueAt? (section' : Value) (place : Nat) (name : String) : Option Value :=
  match section' with
  | .table entries => Value.lookup? entries name
  | .list items => items[place]?
  | _ => none

/-- A setting of a section as what it is needed for, or else what is built in. -/
def setting (section' : Value) (place : Nat) (name : String) (as? : Value → Option α)
    (builtIn : α) : Except Fault α :=
  match valueAt? section' place name with
  | none => .ok builtIn
  | some v =>
    match as? v with
    | some a => .ok a
    | none => .error .invalid

/-- A value that can be a section. -/
def sectionOf (v : Value) : Except Fault Value :=
  match v with
  | .table _ => .ok v
  | .list _ => .ok v
  | _ => .error .invalid

def portBound : Nat := UInt16.size

/-- A section of the settings that is read by `read`; one that is not there is empty. -/
def sectionAt (root : Value) (place : Nat) (name : String) (read : Value → Except Fault α) :
    Except Fault α :=
  match valueAt? root place name with
  | none => read (.table [])
  | some v => (sectionOf v).bind read

def readServer (v : Value) : Except Fault ServerSettings := do
  return {
    host := ← setting v 0 "host" Value.asText? "0.0.0.0"
    port := ← setting v 1 "port" (Value.asNatBelow? portBound) 3000 }

def readObservability (v : Value) : Except Fault ObservabilitySettings := do
  return {
    logLevel := ← setting v 0 "log_level" Value.asText? "info"
    logFormat := ← setting v 1 "log_format" Value.asText? "pretty"
    metricsEnabled := ← setting v 2 "metrics_enabled" Value.asBool? false
    metricsPort := ← setting v 3 "metrics_port" (Value.asNatBelow? portBound) 9090 }

def readCalendars (v : Value) : Except Fault CalendarSettings := do
  return {
    path := ← setting v 0 "path" Value.asText? "config.json"
    watch := ← setting v 1 "watch" Value.asBool? true
    debounce := ← setting v 2 "debounce_ms" Value.asNat? 500 }

def readFetch (v : Value) : Except Fault FetchSettings := do
  return {
    timeout := ← setting v 0 "timeout_seconds" Value.asNat? 30
    userAgent := ← setting v 1 "user_agent" Value.asText? "calendar-proxy/0.1.0" }

/-- The settings that a value holds. -/
def ofValue (root : Value) : Except Fault Settings := do
  return {
    serviceName := ← setting root 0 "service_name" Value.asText? ""
    environment := ← setting root 1 "environment" Value.asText? ""
    server := ← sectionAt root 2 "server" readServer
    observability := ← sectionAt root 3 "observability" readObservability
    calendars := ← sectionAt root 4 "calendars" readCalendars
    fetch := ← sectionAt root 5 "fetch" readFetch }

/-- What the variables that belong to settings start with; their names count in any case. -/
def variableMark : String := "calproxy__"

/-- The names with two underscores replaced by a dot. -/
def dotted : List Char → List Char
  | '_' :: '_' :: cs => '.' :: dotted cs
  | c :: cs => c :: dotted cs
  | [] => []

/-- The layer of the variables of the environment. -/
def variableLayer (env : List (String × String)) : List (String × Value) :=
  env.filterMap fun (name, value) =>
    (Text.afterMark? variableMark.toList (Text.lower name).toList).map fun key =>
      (String.ofList (dotted key), .ofVariable value)

/-- The directory of the files of settings. -/
def directory (s : Sources) : String := (variableNamed? s "CONFIG_DIR").getD "config"

/-- The name of the environment. -/
def environmentName (s : Sources) : String := (variableNamed? s "CALPROXY_ENV").getD "development"

/-- The path of a file of settings. -/
def filePath (s : Sources) (name : String) : String := Place.join (directory s) (name ++ ".toml")

/-- The text of a file. A byte order mark at its start is left out, and bytes that are no text are
replaced. -/
def fileText (bytes : ByteArray) : String :=
  let text := Text.Utf8.lossyText bytes.data.toList
  match text.toList with
  | '\uFEFF' :: cs => String.ofList cs
  | _ => text

/-- Whether nothing stands in the name of a file before its extension, which then is none. -/
def isBare (name : String) : Bool :=
  name.toList.getLast?.all (· == '/')

/-- The layer of a file; a file that is not there, or has nothing before its extension, is an
empty one. -/
def fileLayer (s : Sources) (name : String) : Except Fault (List (String × Value)) :=
  if isBare name then .ok []
  else
    match s.files.get (filePath s name) with
    | .content bytes =>
      match Toml.ofText? (fileText bytes) with
      | some entries => .ok entries
      | none => .error (.malformedFile (filePath s name))
    | _ => .ok []

/-- All layers of the settings of a service, the first of them below. -/
def layers (s : Sources) (service : String) : Except Fault (List (List (String × Value))) := do
  let environment := environmentName s
  return [
    [("service_name", .text service), ("environment", .text environment)],
    ← fileLayer s "default",
    ← fileLayer s environment,
    ← fileLayer s service,
    variableLayer s.env]

/-- The variable that sets the port of a service: `CALENDAR_PROXY_PORT` for `calendar-proxy`. -/
def portVariable (service : String) : String :=
  String.ofList ((Unicode.Upper.ofText service).toList.map fun c => if c = '-' then '_' else c)
    ++ "_PORT"

/-- The port that the variables of the environment give. The one of the service hides the general
one even where it is no port. -/
def portOf? (s : Sources) (service : String) : Option Nat :=
  (variableNamed? s (portVariable service) <|> variableNamed? s "PORT").bind
    (Decimal.natBelow? portBound)

/-- The settings of a service. -/
def load (s : Sources) (service : String) : Except Fault Settings := do
  let settings ← ofValue ((← layers s service).foldl Value.lay (.table []))
  match portOf? s service with
  | some port => return { settings with server := { settings.server with port } }
  | none => return settings

/-- The paths of all files that settings may come from. -/
def filePaths (s : Sources) (service : String) : List String :=
  ["default", environmentName s, service].map (filePath s)

/-- The variables of the environment that can bear on the settings of a service. -/
def variableNames (service : String) : List String :=
  ["CALPROXY_ENV", "CONFIG_DIR", "RUST_LOG", "PORT", portVariable service] ++
    ["SERVICE_NAME", "ENVIRONMENT", "SERVER__HOST", "SERVER__PORT", "OBSERVABILITY__LOG_LEVEL",
      "OBSERVABILITY__LOG_FORMAT", "OBSERVABILITY__METRICS_ENABLED",
      "OBSERVABILITY__METRICS_PORT", "CALENDARS__PATH", "CALENDARS__WATCH",
      "CALENDARS__DEBOUNCE_MS", "FETCH__TIMEOUT_SECONDS", "FETCH__USER_AGENT"].map
      fun key => "CALPROXY__" ++ key

end Settings

end CalendarRelay
