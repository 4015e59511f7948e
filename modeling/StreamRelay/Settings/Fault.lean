import StreamRelay.IoError
import StreamRelay.Json.Fault
import StreamRelay.Net.HostPort
import StreamRelay.Number.Reading

set_option autoImplicit false
set_option relaxedAutoImplicit false

namespace StreamRelay.Settings

inductive Quantity where
  | bufferSize
  | connectTimeout
deriving DecidableEq, Repr

def Quantity.message : Quantity → String
  | .bufferSize => "buffer size"
  | .connectTimeout => "connect timeout"

inductive Role where
  | certificate
  | key
deriving DecidableEq, Repr

def Role.message : Role → String
  | .certificate => "cert file path"
  | .key => "key file path"

/-- The largest buffer size, in kilobytes. -/
def maxBufferSize : Nat := 65536

inductive Fault where
  | badAddress (addr : String) (fault : Net.AddressFault)
  | notPositive (quantity : Quantity)
  | bufferTooLarge (kilobytes : Nat)
  | bufferOversized
  | noFile (role : Role) (path : String) (error : IoError)
  | badNumber (quantity : Quantity) (fault : Number.Fault) (text : String)
  | unreadable (path : String) (error : IoError)
  | badJson (fault : Json.Fault) (text : Bytes)
  | sameAddresses
deriving Repr

def Fault.message : Fault → String
  | .badAddress addr fault => s!"parse address: split host port {addr}: {fault.message}"
  | .notPositive quantity => s!"{quantity.message} must be positive"
  | .bufferTooLarge kilobytes =>
    s!"buffer size too large: {kilobytes} KB (max {maxBufferSize} KB)"
  | .bufferOversized => "buffer size too large"
  | .noFile role path error => s!"{role.message} {path}: {error.message}"
  | .badNumber quantity fault text =>
    s!"{quantity.message}: {fault.message}: {Text.quoted text}"
  | .unreadable path error => s!"read config file {path}: {error.message}"
  | .badJson fault text => s!"parse json config: {fault.message text}"
  | .sameAddresses => "listen and backend addresses must be different"

end StreamRelay.Settings
