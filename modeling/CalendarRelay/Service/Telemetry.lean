import CalendarRelay.Journal.Filter
import CalendarRelay.Journal.Basic
import CalendarRelay.Settings.Basic
import CalendarRelay.Json.Printer

namespace CalendarRelay

/-- What a process has set up already. -/
structure Telemetry where
  logging : Bool := false
  metrics : Bool := false
  deriving DecidableEq

namespace Telemetry

inductive Fault
  | alreadyLogging
  | alreadyCounting
  | portTaken
  deriving DecidableEq

def Fault.message : Fault → String
  | alreadyLogging => "a global default trace dispatcher has already been set"
  | alreadyCounting =>
    "attempted to set a recorder after the metrics system was already initialized"
  | portTaken => "Address already in use (os error 98)"

def startLogging (t : Telemetry) : Except Fault Telemetry :=
  if t.logging then .error .alreadyLogging else .ok { t with logging := true }

/-- Sets up the counters and offers them on a port. -/
def startMetrics (t : Telemetry) (busyPorts : List Nat) (port : Nat) (service : String) :
    Journaled (Except Fault Telemetry) := do
  if t.metrics then return .error .alreadyCounting
  Journaled.count (.serviceStarts service)
  if busyPorts.contains port then return .error .portTaken
  Journaled.note (.metricsListening ("0.0.0.0:" ++ toString port))
  return .ok { t with metrics := true }

/-- Sets up the log, and the counters if settings ask for them. -/
def start (t : Telemetry) (busyPorts : List Nat) (s : ObservabilitySettings) (service : String) :
    Journaled (Except Fault Telemetry) := do
  match t.startLogging with
  | .error e => return .error e
  | .ok t =>
    Journaled.note (.observabilityReady service s.logFormat s.metricsEnabled)
    if s.metricsEnabled then startMetrics t busyPorts s.metricsPort service else return .ok t

/-- The lines of a journal that are shown under settings. Where `RUST_LOG` is set it decides. -/
def shown (s : ObservabilitySettings) (env : List (String × String))
    (journal : List Entry) : List LogLine :=
  let chosen := (env.find? fun v => v.1 == "RUST_LOG").map Prod.snd
  let filter := LogFilter.choose chosen s.logLevel
  ((Entry.notices journal).map Notice.line).filter filter.shows

end Telemetry

/-- A line of the log, as JSON or as plain text. -/
def LogLine.render (l : LogLine) (json : Bool) : String :=
  if json then
    (Json.ofFields [
      ("level", .str l.level.text), ("target", .str l.target),
      ("fields", .ofFields (("message", .str l.message) ::
        l.fields.map fun f => (f.1, .str f.2)))]).render
  else
    " ".intercalate (l.level.text :: (l.target ++ ":") :: l.message ::
      l.fields.map fun f => f.1 ++ "=" ++ f.2)

end CalendarRelay
