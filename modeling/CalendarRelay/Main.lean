import CalendarRelay.Service.Daemon

namespace CalendarRelay.Command

def serviceName : String := "calendar-proxy"

/-- The variables of the environment that matter to the service. -/
def readVariables : IO (List (String × String)) := do
  let found ← (Settings.variableNames serviceName).mapM fun name => do
    return (← IO.getEnv name).map fun value => (name, value)
  return found.filterMap id

/-- The files with what is found at a path of the machine. -/
def readInto (files : Files) (path : String) : IO Files := do
  try
    let bytes ← IO.FS.readBinFile path
    return files.install path (.content bytes)
  catch _ => return files

def writeLines (settings : Settings) (env : List (String × String))
    (journal : List Entry) : IO Unit :=
  for line in Telemetry.shown settings.observability env journal do
    IO.println (line.render settings.jsonLogs)

/-- Answers requests until the input ends. -/
partial def answerLines (input : IO.FS.Stream) (env : List (String × String))
    (daemon : Daemon) (count : Nat) : IO Unit := do
  let line ← input.getLine
  if line.isEmpty then return
  let request := Gateway.Request.ofLine line
  let response := Gateway.answer (daemon.server Daemon.offline) (toString count) request
  writeLines daemon.settings env response.journal
  IO.println response.value.render
  answerLines input env daemon (count + 1)

/-- Runs a service that has its settings and answers requests. -/
def runWith (host : Host) (settings : Settings) : IO UInt32 := do
  let started := Daemon.start host settings
  writeLines settings host.env started.journal
  match started.value with
  | .error e =>
    IO.eprintln ("Error: " ++ e.message)
    return 1
  | .ok daemon =>
    answerLines (← IO.getStdin) host.env daemon 1
    writeLines settings host.env (daemon.stop "SIGTERM").journal
    return 0

/-- Starts the service with the settings that the environment and the files give. -/
def run : IO UInt32 := do
  let env ← readVariables
  let paths := Settings.filePaths ⟨env, {}⟩ serviceName
  let files ← paths.foldlM readInto {}
  match Daemon.settingsOf { env, files } serviceName with
  | .error _ =>
    IO.eprintln ("Error: " ++ Daemon.Fault.settings.message)
    return 1
  | .ok settings =>
    let files ← readInto files settings.calendars.path
    let files := files.install (Watch.Scope.ofPath settings.calendars.path).directory .directory
    runWith { env, files } settings

end CalendarRelay.Command

def main : IO UInt32 := CalendarRelay.Command.run
