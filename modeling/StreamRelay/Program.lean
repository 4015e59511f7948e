import StreamRelay.CommandLine.Help
import StreamRelay.Log.Filter
import StreamRelay.Relay.Opening
import StreamRelay.Settings.Apply
import StreamRelay.Settings.Source
import StreamRelay.Tls.PemLibrary

/-!
# The program

From the arguments, the environment and the files of a machine to a relay that accepts: the settings
are resolved, the log is set up, the settings are reported, and the listener is opened. What fails
on the way ends the program.
-/

set_option autoImplicit false
set_option relaxedAutoImplicit false

namespace StreamRelay.Program

def entry (level : Level) (message : String) : Entry := ⟨.program, level, message⟩

/-- The sources of settings, later ones winning: a file, the environment, the arguments. -/
def sources (env : Settings.Environment) (arguments : CommandLine.Arguments) :
    List Settings.Source :=
  arguments.configFile.toList.map .file ++
    [.environment env Settings.defaultStem, .flags arguments.overrides]

/-- What is remarked on settings goes nowhere, because the log is set up from them. -/
def settings (files : Files) (env : Settings.Environment)
    (arguments : CommandLine.Arguments) : Except Settings.Fault Settings :=
  match Settings.Source.loadAll files (sources env arguments) with
  | .error fault => .error fault
  | .ok overrides => (Settings.resolve files overrides).1

def namedFiles (files : Files) (env : Settings.Environment) (arguments : CommandLine.Arguments) :
    List String :=
  match Settings.Source.loadAll files (sources env arguments) with
  | .error _ => []
  | .ok overrides =>
    overrides.flatMap fun o => o.certFilePath.toList ++ o.keyFilePath.toList

def startLevel (arguments : CommandLine.Arguments) : String :=
  arguments.logLevel.getD Settings.default.logLevel.name

def filterVariable : String := "RUST_LOG"

def filter (env : Settings.Environment) (level : String) : Log.Filter × List String :=
  Log.Filter.read (((env.lookup filterVariable).bind Text.Utf8.text?).getD level)

def misconfigured (fault : Settings.Fault) : Entry :=
  entry .error s!"Failed to load configuration: {(RelayError.config (.settings fault)).message}"

def report (s : Settings) : Log :=
  [entry .info s!"Starting {CommandLine.programName} v{CommandLine.programVersion}",
   entry .info s!"Listen address: {s.listenAddr}",
   entry .info s!"Backend address: {s.backendAddr}",
   entry .info s!"Buffer size: {s.bufferSize} KB"]

def reportCertificate (files : Files) (s : Settings) : Log :=
  if !s.tlsEnabled then []
  else
    entry .info s!"Using certificate: {s.certFilePath}" ::
      match Tls.inspect files s.certFilePath with
      | .ok certificate =>
        [entry .info s!"Certificate subject: {certificate.subjectText}",
         entry .info s!"Certificate fingerprint: {certificate.fingerprint}"]
      | .error error =>
        [entry .warn s!"Unable to get certificate subject: {error.message}",
         entry .warn s!"Unable to get certificate fingerprint: {error.message}"]

def starting : Entry := entry .info "Relay service starting, press Ctrl+C to stop"

/-- Open the listener, with all that is reported up to the first accept. -/
def start (files : Files) (host : Net.Host) (s : Settings) :
    Except Failure (Opening.Bound Tls.PemAcceptor) × Log :=
  let (result, notes) := Opening.listen Tls.pemLibrary files host s
  let before := report s ++ reportCertificate files s ++ [starting] ++ Opening.log notes
  match result with
  | .ok bound => (.ok bound, before ++ [Relay.forwarding s])
  | .error failure => (.error failure, before)

/-- The code that a panic ends the program with. -/
def panicCode : Nat := 101

inductive Signal where
  | interrupt
  | terminate
deriving DecidableEq, Repr

def Signal.entry : Signal → Entry
  | .interrupt => Program.entry .info "Received Ctrl+C, shutting down"
  | .terminate => Program.entry .info "Received SIGTERM, shutting down"

def stopped (error : RelayError) : Entry :=
  entry .error s!"Relay stopped with error: {error.message}"

def allClosed : Entry := entry .info "All connections closed"

def kindWord : IoKind → String
  | .notFound => "NotFound"
  | .permissionDenied => "PermissionDenied"
  | .connectionRefused => "ConnectionRefused"
  | .connectionReset => "ConnectionReset"
  | .connectionAborted => "ConnectionAborted"
  | .notConnected => "NotConnected"
  | .addrInUse => "AddrInUse"
  | .addrNotAvailable => "AddrNotAvailable"
  | .brokenPipe => "BrokenPipe"
  | .wouldBlock => "WouldBlock"
  | .invalidInput => "InvalidInput"
  | .invalidData => "InvalidData"
  | .timedOut => "TimedOut"
  | .writeZero => "WriteZero"
  | .interrupted => "Interrupted"
  | .unexpectedEof => "UnexpectedEof"
  | .other => "Other"

/-- A structured account: a name and its parts between braces. -/
def account (name : String) (parts : List (String × String)) : String :=
  name ++ " \x7b " ++ ", ".intercalate (parts.map fun part => part.1 ++ ": " ++ part.2) ++ " \x7d"

def ioAccount : IoError → String
  | .system code =>
    let kind := systemKind code
    account "Os" [("code", toString code),
      ("kind", if kind = .other then "Uncategorized" else kindWord kind),
      ("message", Text.quoted (systemMessage code))]
  | .bare kind => s!"Kind({kindWord kind})"
  | .described kind text =>
    account "Custom" [("kind", kindWord kind), ("error", Text.quoted text)]

def errorAccount : RelayError → String
  | .io source => s!"Io({ioAccount source})"
  | .tls => "Ssl(ErrorStack([]))"
  | .bind addr source => account "Bind" [("addr", Text.quoted addr), ("source", ioAccount source)]
  | .config fault => s!"Config({Text.quoted fault.message})"
  | .credential fault => s!"Credential({Text.quoted fault.message})"

def failureLine (error : RelayError) : String := "Error: " ++ errorAccount error

end StreamRelay.Program
