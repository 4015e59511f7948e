import StreamRelay.Number.Reading

/-!
# Host and port

Addresses are texts of the form `host:port`. The port stands after the last colon; a host with
colons of its own stands in square brackets; the host may be empty. `split` reads an address,
`join` writes one, and `normalize` is the one after the other.
-/

set_option autoImplicit false
set_option relaxedAutoImplicit false

namespace StreamRelay.Net

structure HostPort where
  host : String
  port : UInt16
deriving DecidableEq, Repr

inductive AddressFault where
  | missingPort
  | missingBracket
  | tooManyColons
  | badPort (fault : Number.Fault)
deriving DecidableEq, Repr

def AddressFault.message : AddressFault → String
  | .missingPort => "missing port in address"
  | .missingBracket => "missing ']' in address"
  | .tooManyColons => "too many colons in address"
  | .badPort fault => "invalid port: " ++ fault.message

def splitAtLastColon : List Char → Option (List Char × List Char)
  | [] => none
  | c :: cs =>
    match splitAtLastColon cs with
    | some (before, after) => some (c :: before, after)
    | none => if c = ':' then some ([], cs) else none

/-- The host in front of the last colon: what brackets hold, or a text without colons. -/
def hostOf : List Char → Except AddressFault (List Char)
  | '[' :: inner =>
    if inner.getLast? = some ']' then .ok inner.dropLast else .error .missingBracket
  | cs => if cs.contains ':' then .error .tooManyColons else .ok cs

def HostPort.split (addr : String) : Except AddressFault HostPort :=
  match splitAtLastColon addr.toList with
  | none => .error .missingPort
  | some (before, after) => do
    let host ← hostOf before
    match Number.readWord after with
    | .ok port => .ok ⟨String.ofList host, port⟩
    | .error fault => .error (.badPort fault)

/-- Write an address; a host with a colon in it is put in square brackets. -/
def HostPort.join (hp : HostPort) : String :=
  let port := String.ofList (Nat.toDigits 10 hp.port.toNat)
  if hp.host.toList.contains ':' then "[" ++ hp.host ++ "]:" ++ port
  else hp.host ++ ":" ++ port

/-- The one spelling that `join` gives to an address. -/
def normalize (addr : String) : Except AddressFault String :=
  (HostPort.split addr).map HostPort.join

/-- An empty host means the local machine, and a text that is no address is passed on as it is. -/
def dialTarget (addr : String) : String :=
  match HostPort.split addr with
  | .ok ⟨host, port⟩ => if host.isEmpty then HostPort.join ⟨"localhost", port⟩ else addr
  | .error _ => addr

end StreamRelay.Net
