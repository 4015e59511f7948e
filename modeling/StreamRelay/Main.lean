import StreamRelay.Program.Station

set_option autoImplicit false
set_option relaxedAutoImplicit false

namespace StreamRelay.Program

open Std.Async.TCP.Socket (Server)

def fail (filter : Log.Filter × List String) (log : Log) (error : RelayError) : IO UInt32 := do
  filter.2.forM IO.eprintln
  writeLog filter.1 log
  IO.eprintln (failureLine error)
  return 1

/-- The host as far as listening goes. A listener is opened only if its transport can be had. -/
def openHost (files : Files) (s : Settings) : IO (Net.Host × Option Server) := do
  let host := ((Net.HostPort.split s.listenAddr).toOption.map (·.host)).getD ""
  let directory ← (Machine.directory host).block
  let deaf : Net.Host := ⟨directory, fun _ => .silent, fun _ => .ok ()⟩
  match Opening.listen Tls.pemLibrary files deaf s with
  | (.error _, _) => return (deaf, none)
  | (.ok bound, _) =>
    match ← Machine.listen bound.address with
    | .ok server => return (deaf, some server)
    | .error error => return ({ deaf with listen := fun _ => .error error }, none)

def runWith (files : Files) (env : Settings.Environment) (s : Settings) : IO UInt32 := do
  let filter := filter env s.logLevel.name
  let (host, server) ← openHost files s
  match start files host s with
  | (.error .panic, log) =>
    filter.2.forM IO.eprintln
    writeLog filter.1 log
    return panicCode.toUInt32
  | (.error (.error error), log) => fail filter (log ++ [stopped error, allClosed]) error
  | (.ok bound, log) =>
    filter.2.forM IO.eprintln
    writeLog filter.1 log
    server.forM (serve filter.1 s bound.transport)
    writeLog filter.1 [allClosed]
    return 0

def run (arguments : CommandLine.Arguments) : IO UInt32 := do
  let env ← Machine.environment
  let configured ← Machine.files arguments.configFile.toList
  let files ← Machine.files (arguments.configFile.toList ++ namedFiles configured env arguments)
  match settings files env arguments with
  | .ok s => runWith files env s
  | .error fault =>
    fail (filter env (startLevel arguments)) [misconfigured fault] (.config (.settings fault))

end StreamRelay.Program

def main (texts : List String) : IO UInt32 := do
  match StreamRelay.CommandLine.read texts with
  | .error fault =>
    fault.lines.forM IO.eprintln
    return 2
  | .ok .help =>
    StreamRelay.CommandLine.helpLines.forM IO.println
    return 0
  | .ok .version =>
    StreamRelay.CommandLine.versionLines.forM IO.println
    return 0
  | .ok (.run arguments) => StreamRelay.Program.run arguments
