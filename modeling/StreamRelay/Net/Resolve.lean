import StreamRelay.IoError
import StreamRelay.Net.HostPort
import StreamRelay.Net.SocketAddress

set_option autoImplicit false
set_option relaxedAutoImplicit false

namespace StreamRelay.Net

/-- What a machine knows about host names that are not numeric. -/
abbrev Directory := String → Except IoError (List Ip)

def hostAddresses (directory : Directory) (host : String) : Except IoError (List Ip) :=
  if host.toList.contains (Char.ofNat 0) then
    .error (.described .invalidInput "file name contained an unexpected NUL byte")
  else
    match numericHost? host.toList with
    | some ip => .ok [ip]
    | none => directory host

inductive ResolveFault where
  | address (fault : AddressFault)
  | lookup (error : IoError)
  | nothing
deriving DecidableEq, Repr

/-- The first socket address that `host:port` names. -/
def resolve (directory : Directory) (addr : String) : Except ResolveFault SocketAddress :=
  match HostPort.split addr with
  | .error fault => .error (.address fault)
  | .ok ⟨host, port⟩ =>
    if host.isEmpty then .ok ⟨.v4 ⟨0, 0, 0, 0⟩, port⟩
    else
      match hostAddresses directory host with
      | .error error => .error (.lookup error)
      | .ok [] => .error .nothing
      | .ok (ip :: _) => .ok ⟨ip, port⟩

def ResolveFault.message (addr : String) : ResolveFault → String
  | .address fault => s!"split host port {addr}: {fault.message}"
  | .lookup error => s!"Failed to resolve address {addr}: {error.message}"
  | .nothing => s!"Failed to resolve address: {addr}"

end StreamRelay.Net
