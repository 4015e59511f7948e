import StreamRelay.Net.Resolve
import StreamRelay.Proofs.Net.Grammar

set_option autoImplicit false
set_option relaxedAutoImplicit false

namespace StreamRelay.Net

/-- The socket address that a text names. -/
inductive Resolves (directory : Directory) (addr : String) : SocketAddress → Prop
  | everywhere {port : UInt16} : IsAddress addr.toList ⟨"", port⟩ →
      Resolves directory addr ⟨.v4 ⟨0, 0, 0, 0⟩, port⟩
  | named {host : String} {port : UInt16} {ip : Ip} {ips : List Ip} :
      IsAddress addr.toList ⟨host, port⟩ → host ≠ "" →
      hostAddresses directory host = .ok (ip :: ips) → Resolves directory addr ⟨ip, port⟩

/-- Why a text names no socket address. -/
inductive Unresolved (directory : Directory) (addr : String) : ResolveFault → Prop
  | address {fault : AddressFault} : IsFault addr.toList fault →
      Unresolved directory addr (.address fault)
  | lookup {host : String} {port : UInt16} {error : IoError} : IsAddress addr.toList ⟨host, port⟩ →
      host ≠ "" → hostAddresses directory host = .error error →
      Unresolved directory addr (.lookup error)
  | nothing {host : String} {port : UInt16} : IsAddress addr.toList ⟨host, port⟩ → host ≠ "" →
      hostAddresses directory host = .ok [] → Unresolved directory addr .nothing

variable {directory : Directory} {addr : String}

private theorem resolve_of_everywhere {port : UInt16} (read : IsAddress addr.toList ⟨"", port⟩) :
    resolve directory addr = .ok ⟨.v4 ⟨0, 0, 0, 0⟩, port⟩ := by
  simp [resolve, HostPort.split_of_isAddress read]

private theorem resolve_of_named {host : String} {port : UInt16}
    (read : IsAddress addr.toList ⟨host, port⟩) (named : host ≠ "") :
    resolve directory addr = match hostAddresses directory host with
      | .error error => .error (.lookup error)
      | .ok [] => .error .nothing
      | .ok (ip :: _) => .ok ⟨ip, port⟩ := by
  simp only [resolve, HostPort.split_of_isAddress read]
  exact if_neg (by simpa using named)

theorem Resolves.resolve {address : SocketAddress} (resolves : Resolves directory addr address) :
    Net.resolve directory addr = .ok address := by
  cases resolves with
  | everywhere read => exact resolve_of_everywhere read
  | named read named found => rw [resolve_of_named read named, found]

theorem Unresolved.resolve {fault : ResolveFault} (unresolved : Unresolved directory addr fault) :
    Net.resolve directory addr = .error fault := by
  cases unresolved with
  | address failed => simp only [Net.resolve, HostPort.split_of_isFault failed]
  | lookup read named failed => rw [resolve_of_named read named, failed]
  | nothing read named none => rw [resolve_of_named read named, none]

theorem resolves_or_unresolved (directory : Directory) (addr : String) :
    (∃ address, Resolves directory addr address) ∨ ∃ fault, Unresolved directory addr fault := by
  rcases HostPort.isAddress_or_isFault addr.toList with ⟨⟨host, port⟩, read⟩ | ⟨fault, failed⟩
  · by_cases empty : host = ""
    · subst empty
      exact .inl ⟨_, .everywhere read⟩
    · cases found : hostAddresses directory host with
      | error error => exact .inr ⟨_, .lookup read empty found⟩
      | ok ips =>
        cases ips with
        | nil => exact .inr ⟨_, .nothing read empty found⟩
        | cons ip ips => exact .inl ⟨_, .named read empty found⟩
  · exact .inr ⟨_, .address failed⟩

theorem resolve_eq_ok_iff {address : SocketAddress} :
    resolve directory addr = .ok address ↔ Resolves directory addr address := by
  refine ⟨fun found => ?_, Resolves.resolve⟩
  rcases resolves_or_unresolved directory addr with ⟨address', resolves⟩ | ⟨fault, unresolved⟩
  · obtain rfl := Except.ok.inj (resolves.resolve.symm.trans found)
    exact resolves
  · cases unresolved.resolve.symm.trans found

theorem resolve_eq_error_iff {fault : ResolveFault} :
    resolve directory addr = .error fault ↔ Unresolved directory addr fault := by
  refine ⟨fun failed => ?_, Unresolved.resolve⟩
  rcases resolves_or_unresolved directory addr with ⟨address, resolves⟩ | ⟨fault', unresolved⟩
  · cases resolves.resolve.symm.trans failed
  · obtain rfl := Except.error.inj (unresolved.resolve.symm.trans failed)
    exact unresolved

end StreamRelay.Net
