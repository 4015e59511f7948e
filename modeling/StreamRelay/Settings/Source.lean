import StreamRelay.Files
import StreamRelay.Json.Document
import StreamRelay.Settings.Fault
import StreamRelay.Text.Blank

set_option autoImplicit false
set_option relaxedAutoImplicit false

namespace StreamRelay.Settings

abbrev Environment := List (String × Bytes)

def defaultStem : String := "TLS_RELAY"

def Field.variable : Field → String
  | .listenAddr => "LISTEN_ADDR"
  | .backendAddr => "BACKEND_ADDR"
  | .bufferSize => "BUFFER_SIZE"
  | .tlsEnabled => "TLS_ENABLED"
  | .certFilePath => "CERT_FILE_PATH"
  | .keyFilePath => "KEY_FILE_PATH"
  | .connectTimeout => "CONNECT_TIMEOUT"
  | .logLevel => "LOG_LEVEL"

/-- The text of a setting's variable; one whose value is no text counts as not set. -/
def Environment.text? (env : Environment) (stem : String) (field : Field) : Option String :=
  (env.lookup (stem ++ "_" ++ field.variable)).bind Text.Utf8.text?

def Environment.number? (env : Environment) (stem : String) (field : Field)
    (quantity : Quantity) : Except Fault (Option Int64) :=
  match env.text? stem field with
  | none => .ok none
  | some text =>
    match Number.readSigned (Text.trimChars text.toList) with
    | .ok n => .ok (some n)
    | .error fault => .error (.badNumber quantity fault text)

/-- Whether a text is the word `true` in any ASCII case, with blanks around it. -/
def isTrue (text : String) : Bool :=
  (Text.trimChars text.toList).map Char.toLower == ['t', 'r', 'u', 'e']

def fromEnvironment (env : Environment) (stem : String) : Except Fault Overrides := do
  let bufferSize ← env.number? stem .bufferSize .bufferSize
  let connectTimeout ← env.number? stem .connectTimeout .connectTimeout
  return {
    listenAddr := env.text? stem .listenAddr
    backendAddr := env.text? stem .backendAddr
    bufferSize := bufferSize
    tlsEnabled := (env.text? stem .tlsEnabled).map isTrue
    certFilePath := env.text? stem .certFilePath
    keyFilePath := env.text? stem .keyFilePath
    connectTimeout := connectTimeout
    logLevel := env.text? stem .logLevel }

def fromJson (text : Bytes) : Except Fault Overrides :=
  match Json.readOverrides text with
  | .ok o => .ok o
  | .error fault => .error (.badJson fault text)

def fromFile (files : Files) (path : String) : Except Fault Overrides :=
  match files.read path with
  | .ok text => fromJson text
  | .error error => .error (.unreadable path error)

inductive Source where
  | json (text : Bytes)
  | file (path : String)
  | environment (env : Environment) (stem : String)
  | flags (overrides : Overrides)
deriving Repr

def Source.load (files : Files) : Source → Except Fault Overrides
  | .json text => fromJson text
  | .file path => fromFile files path
  | .environment env stem => fromEnvironment env stem
  | .flags overrides => .ok overrides

/-- The settings that several sources give, or the fault of the first that gives none. -/
def Source.loadAll (files : Files) (sources : List Source) : Except Fault (List Overrides) :=
  sources.mapM (Source.load files)

end StreamRelay.Settings
