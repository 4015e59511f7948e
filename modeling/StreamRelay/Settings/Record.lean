import StreamRelay.Log
import StreamRelay.Settings.Field

set_option autoImplicit false
set_option relaxedAutoImplicit false

namespace StreamRelay

/-- The settings that a relay runs from: the buffer size is in kilobytes and the timeout in seconds.
A path that is not Unicode has no place here, though a flag may give it. -/
structure Settings where
  listenAddr : String := "127.0.0.1:8080"
  backendAddr : String := "127.0.0.1:9000"
  bufferSize : Nat := 32
  tlsEnabled : Bool := false
  certFilePath : String := ""
  keyFilePath : String := ""
  connectTimeout : Nat := 5
  logLevel : Level := .info
deriving DecidableEq, Repr

namespace Settings

def default : Settings := {}

def maxWord : Nat := 0xFFFFFFFFFFFFFFFF

/-- The buffer size in bytes, clamped to a machine word. -/
def bufferSizeBytes (s : Settings) : Nat := min (s.bufferSize * 1024) maxWord

abbrev Field.Setting : Field → Type
  | .listenAddr => String
  | .backendAddr => String
  | .bufferSize => Nat
  | .tlsEnabled => Bool
  | .certFilePath => String
  | .keyFilePath => String
  | .connectTimeout => Nat
  | .logLevel => Level

def get (s : Settings) : (field : Field) → field.Setting
  | .listenAddr => s.listenAddr
  | .backendAddr => s.backendAddr
  | .bufferSize => s.bufferSize
  | .tlsEnabled => s.tlsEnabled
  | .certFilePath => s.certFilePath
  | .keyFilePath => s.keyFilePath
  | .connectTimeout => s.connectTimeout
  | .logLevel => s.logLevel

def put (s : Settings) : (field : Field) → field.Setting → Settings
  | .listenAddr, value => { s with listenAddr := value }
  | .backendAddr, value => { s with backendAddr := value }
  | .bufferSize, value => { s with bufferSize := value }
  | .tlsEnabled, value => { s with tlsEnabled := value }
  | .certFilePath, value => { s with certFilePath := value }
  | .keyFilePath, value => { s with keyFilePath := value }
  | .connectTimeout, value => { s with connectTimeout := value }
  | .logLevel, value => { s with logLevel := value }

@[simp] theorem get_put_self (s : Settings) (field : Field) (value : field.Setting) :
    (s.put field value).get field = value := by
  cases field <;> rfl

theorem get_put_of_ne (s : Settings) {field other : Field} (value : field.Setting)
    (h : other ≠ field) : (s.put field value).get other = s.get other := by
  cases field <;> cases other <;> first | rfl | exact absurd rfl h

def escapeDigits (n : Nat) : List Char :=
  [Nat.digitChar (n / 16), Nat.digitChar (n % 16)]

def jsonChar (c : Char) : List Char :=
  if c == '"' then ['\\', '"']
  else if c == '\\' then ['\\', '\\']
  else if c.toNat == 0x08 then ['\\', 'b']
  else if c.toNat == 0x0C then ['\\', 'f']
  else if c == '\n' then ['\\', 'n']
  else if c == '\r' then ['\\', 'r']
  else if c == '\t' then ['\\', 't']
  else if c.toNat < 0x20 then ['\\', 'u', '0', '0'] ++ escapeDigits c.toNat
  else [c]

def jsonText (s : String) : List Char := '"' :: s.toList.flatMap jsonChar ++ ['"']

def jsonValue (s : Settings) : Field → List Char
  | .listenAddr => jsonText s.listenAddr
  | .backendAddr => jsonText s.backendAddr
  | .bufferSize => Nat.toDigits 10 s.bufferSize
  | .tlsEnabled => if s.tlsEnabled then ['t', 'r', 'u', 'e'] else ['f', 'a', 'l', 's', 'e']
  | .certFilePath => jsonText s.certFilePath
  | .keyFilePath => jsonText s.keyFilePath
  | .connectTimeout => Nat.toDigits 10 s.connectTimeout
  | .logLevel => jsonText s.logLevel.name

def jsonMember (s : Settings) (field : Field) : List Char :=
  jsonText field.name ++ ':' :: s.jsonValue field

def jsonMembers (s : Settings) : List Field → List Char
  | [] => []
  | [field] => s.jsonMember field
  | field :: fields => s.jsonMember field ++ ',' :: s.jsonMembers fields

/-- The record in JSON, without white space and with the settings in their order. -/
def toJson (s : Settings) : String :=
  String.ofList ('\x7b' :: s.jsonMembers Field.all ++ ['\x7d'])

end Settings

end StreamRelay
