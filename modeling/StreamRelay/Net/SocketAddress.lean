import StreamRelay.Net.NumericHost

set_option autoImplicit false
set_option relaxedAutoImplicit false

namespace StreamRelay.Net

structure SocketAddress where
  ip : Ip
  port : UInt16
deriving DecidableEq, Repr

def SocketAddress.text (addr : SocketAddress) : String :=
  match addr.ip with
  | .v4 ip => String.ofList (ip.text ++ ':' :: decimal addr.port.toNat)
  | .v6 ip scope =>
    let mark := if scope = 0 then [] else '%' :: decimal scope.toNat
    String.ofList ('[' :: ip.text ++ mark ++ ']' :: ':' :: decimal addr.port.toNat)

def port? (cs : List Char) : Option UInt16 :=
  match Number.digits 0xFFFF .tooLarge cs with
  | .ok n => some (UInt16.ofNat n)
  | .error _ => none

def bracketed? (cs : List Char) : Option Ip :=
  match Ipv6.parse? cs with
  | some ip => some (.v6 ip 0)
  | none => scoped? cs

def SocketAddress.parse? : List Char → Option SocketAddress
  | '[' :: cs =>
    match cs.dropWhile (· ≠ ']') with
    | _ :: ':' :: port => do return ⟨← bracketed? (cs.takeWhile (· ≠ ']')), ← port? port⟩
    | _ => none
  | cs =>
    match cs.dropWhile (· ≠ ':') with
    | _ :: port => do return ⟨.v4 (← Ipv4.parse? (cs.takeWhile (· ≠ ':'))), ← port? port⟩
    | [] => none

end StreamRelay.Net
