import StreamRelay.Settings.Field

set_option autoImplicit false
set_option relaxedAutoImplicit false

namespace StreamRelay.Settings

/-- The values that one source gives. Numbers are signed, so that a negative one is out of range and
not unreadable. Paths are texts: one that is not Unicode has no place here, though a flag may give
it. -/
structure Overrides where
  listenAddr : Option String := none
  backendAddr : Option String := none
  bufferSize : Option Int64 := none
  tlsEnabled : Option Bool := none
  certFilePath : Option String := none
  keyFilePath : Option String := none
  connectTimeout : Option Int64 := none
  logLevel : Option String := none
deriving DecidableEq, Repr

def Overrides.unset : Overrides := {}

def Overrides.isEmpty (o : Overrides) : Bool := o == .unset

def Overrides.get (o : Overrides) : (field : Field) → Option field.shape.Value
  | .listenAddr => o.listenAddr
  | .backendAddr => o.backendAddr
  | .bufferSize => o.bufferSize
  | .tlsEnabled => o.tlsEnabled
  | .certFilePath => o.certFilePath
  | .keyFilePath => o.keyFilePath
  | .connectTimeout => o.connectTimeout
  | .logLevel => o.logLevel

def Overrides.set (o : Overrides) : (field : Field) → Option field.shape.Value → Overrides
  | .listenAddr, value => { o with listenAddr := value }
  | .backendAddr, value => { o with backendAddr := value }
  | .bufferSize, value => { o with bufferSize := value }
  | .tlsEnabled, value => { o with tlsEnabled := value }
  | .certFilePath, value => { o with certFilePath := value }
  | .keyFilePath, value => { o with keyFilePath := value }
  | .connectTimeout, value => { o with connectTimeout := value }
  | .logLevel, value => { o with logLevel := value }

@[simp] theorem Overrides.get_set_self (o : Overrides) (field : Field)
    (value : Option field.shape.Value) : (o.set field value).get field = value := by
  cases field <;> rfl

theorem Overrides.get_set_of_ne (o : Overrides) {field other : Field}
    (value : Option field.shape.Value) (h : other ≠ field) :
    (o.set field value).get other = o.get other := by
  cases field <;> cases other <;> first | rfl | exact absurd rfl h

end StreamRelay.Settings
