import StreamRelay.Net.Resolve

set_option autoImplicit false
set_option relaxedAutoImplicit false

namespace StreamRelay.Net

/-- What an attempt to connect comes to: a connection, a failure, or no reply at all. -/
inductive Reach where
  | reached
  | failed (error : IoError)
  | silent
deriving DecidableEq, Repr

structure Host where
  directory : Directory
  reach : SocketAddress → Reach
  listen : SocketAddress → Except IoError Unit

/-- A fault of the arguments, found before the network is asked. -/
def invalidInput (text : String) : IoError := .described .invalidInput text

def nowhere : IoError := invalidInput "could not resolve to any address"

def noReply : IoError := .described .timedOut "Connection timed out"

/-- A printed socket address names itself; any other text is cut at its last colon. -/
def dialAddresses (directory : Directory) (target : String) :
    Except IoError (List SocketAddress) :=
  match SocketAddress.parse? target.toList with
  | some addr => .ok [addr]
  | none =>
    match splitAtLastColon target.toList with
    | none => .error (invalidInput "invalid socket address")
    | some (host, port) =>
      match Number.readWord port with
      | .error _ => .error (invalidInput "invalid port value")
      | .ok port => (hostAddresses directory (String.ofList host)).map (·.map (⟨·, port⟩))

/-- Try addresses one after the other; one that does not reply keeps the rest waiting. -/
def Host.reachFirst (host : Host) (last : IoError) : List SocketAddress → Reach
  | [] => .failed last
  | addr :: addrs =>
    match host.reach addr with
    | .failed error => host.reachFirst error addrs
    | reach => reach

def Host.dial (host : Host) (target : String) : Reach :=
  match dialAddresses host.directory target with
  | .error error => .failed error
  | .ok addrs => host.reachFirst nowhere addrs

def Host.dialInTime (host : Host) (target : String) : Except IoError Unit :=
  match host.dial target with
  | .reached => .ok ()
  | .failed error => .error error
  | .silent => .error noReply

end StreamRelay.Net
