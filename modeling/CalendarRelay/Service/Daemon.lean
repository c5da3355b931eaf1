import CalendarRelay.Service.Telemetry
import CalendarRelay.Catalogue.DefinitionFile
import CalendarRelay.Watch.Watcher
import CalendarRelay.Gateway.Session

namespace CalendarRelay

/-- What a service finds around it. -/
structure Host where
  env : List (String × String)
  files : Files
  busyPorts : List Nat := []

/-- A service that is running. -/
structure Daemon where
  settings : Settings
  store : Store
  watcher : Option Watch.Watcher

namespace Daemon

def settingsOf (host : Host) (service : String) : Except Settings.Fault Settings :=
  Settings.load ⟨host.env, host.files⟩ service

/-- Why a service does not start, as it tells on its way out. -/
inductive Fault
  | settings
  | telemetry (fault : Telemetry.Fault)
  | definitions (path : String)
  | watch (text : String)
  | client
  | unknownHost
  | portTaken
  deriving DecidableEq

def Fault.message : Fault → String
  | settings => "加载服务配置失败"
  | telemetry fault => fault.message
  | definitions path => "加载日历定义失败: " ++ path
  | watch text => text
  | client => "创建 HTTP 客户端失败"
  | unknownHost => "failed to lookup address information: Name or service not known"
  | portTaken => "Address already in use (os error 98)"

/-- The status that a service ends with when it does not start. -/
def failureStatus : Nat := 1

/-- Whether a text can be a header: it has no control characters but tabs. -/
def isHeaderText (s : String) : Bool :=
  s.toList.all fun c => c == '\t' || (' ' ≤ c && c != '\x7f')

/-- An address of four numbers below 256. -/
def isQuad (host : String) : Bool :=
  let parts := Text.fieldsOf '.' host.toList
  parts.length == 4 && parts.all fun p =>
    !p.isEmpty && p.length ≤ 3 && p.all Text.isDigit && decide (Decimal.natOf p < 256)

/-- Whether a name of a host is known without asking anyone. -/
def isKnownHost (host : String) : Bool :=
  host == "localhost" || isQuad host || (Text.occursIn [':'] host.toList &&
    host.toList.all fun c => c == ':' || c == '.' || (Text.hexValue? c).isSome)

/-- Starts to watch the definitions, if settings ask for it. -/
def startWatch (s : CalendarSettings) (files : Files) :
    Journaled (Except Fault (Option Watch.Watcher)) := do
  if s.watch then
    return (← Watch.Watcher.start { path := s.path } files).mapError Fault.watch |>.map some
  else return .ok none

/-- Starts to listen on the address of the settings. -/
def listen (s : Settings) (busyPorts : List Nat) : Journaled (Except Fault Unit) := do
  if !isHeaderText s.fetch.userAgent then return .error .client
  else if !isKnownHost s.server.host then return .error .unknownHost
  else if busyPorts.contains s.server.port then return .error .portTaken
  else
    Journaled.note (.listening s.address)
    return .ok ()

/-- Loads the definitions, watches them and listens. -/
def run (host : Host) (s : Settings) : Journaled (Except Fault Daemon) := do
  Journaled.note (.starting s.serviceName s.address)
  match ← DefinitionFile.load s.calendars.path (host.files.get s.calendars.path) {} with
  | .error _ => return .error (.definitions s.calendars.path)
  | .ok (store, _) =>
    match ← startWatch s.calendars host.files with
    | .error e => return .error e
    | .ok watcher =>
      match ← listen s host.busyPorts with
      | .error e => return .error e
      | .ok () => return .ok { settings := s, store, watcher }

/-- Starts a service with its settings. Once the log is set up, a service that does not start
says good-bye. -/
def start (host : Host) (s : Settings) : Journaled (Except Fault Daemon) := do
  match ← Telemetry.start {} host.busyPorts s.observability s.serviceName with
  | .error e => return .error (.telemetry e)
  | .ok _ =>
    match ← run host s with
    | .ok p => return .ok p
    | .error e =>
      Journaled.note .observabilityClosed
      return .error e

/-- Loads the definitions again after their file has changed. -/
def reload (p : Daemon) (files : Files) : Journaled Daemon := do
  let path := p.settings.calendars.path
  Journaled.note (.fileChanged path)
  let (answer, store) ← DefinitionFile.refresh path (files.get path) p.store
  match answer with
  | .ok () => pure ()
  | .error e => Journaled.note (.reloadFailed e.message)
  return { p with store }

/-- The service after changes of files have settled. -/
def notice (p : Daemon) (files : Files) (touched : List Place) : Journaled Daemon := do
  match p.watcher with
  | none => return p
  | some w =>
    let (w, reloads) := w.settle touched
    let p := { p with watcher := some w }
    if reloads = 0 then return p else p.reload files

/-- The end of a service after a signal. -/
def stop (p : Daemon) (signal : String) : Journaled Unit := do
  Journaled.note (.signalled signal)
  match p.watcher with
  | some w => let _ ← w.stop
  | none => pure ()
  Journaled.note .stopped
  Journaled.note .observabilityClosed

/-- How the service answers requests while it can get at feeds through `fetch`. -/
def server (p : Daemon) (fetch : Gateway.Fetcher) : Gateway.Server :=
  { service := p.settings.serviceName, store := p.store, fetch }

/-- What gets at no feed at all. -/
def offline : Gateway.Fetcher := Gateway.Feed.fetcher fun url =>
  .unreachable ("error sending request for url (" ++ url ++ ")")

end Daemon

end CalendarRelay
