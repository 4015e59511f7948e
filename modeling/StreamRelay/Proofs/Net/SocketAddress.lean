import StreamRelay.Net.Resolve
import StreamRelay.Proofs.Net.HostPort
import StreamRelay.Proofs.Net.Ip

set_option autoImplicit false
set_option relaxedAutoImplicit false

namespace StreamRelay.Net

private theorem numericHost?_v4 (ip : Ipv4) : numericHost? ip.text = some (.v4 ip) := by
  simp [numericHost?, ip.parse?_text]

private theorem numericHost?_v6 (ip : Ipv6) : numericHost? ip.text = some (.v6 ip 0) := by
  have canonical := ip.text_isCanonical
  simp [numericHost?, Ipv4.parse?_eq_none canonical.colon_mem, Ipv6.parse?_of_isCanonical canonical]

def Ip.IsUnscoped : Ip → Prop
  | .v4 _ => True
  | .v6 _ scope => scope = 0

namespace SocketAddress

/-- The canonical form of the address, in brackets if it is of version 6, a colon and the port. -/
inductive IsCanonical (port : UInt16) : Ip → List Char → Prop
  | v4 (ip : Ipv4) : IsCanonical port (.v4 ip)
      (['.'].intercalate [decimal ip.a.toNat, decimal ip.b.toNat, decimal ip.c.toNat,
        decimal ip.d.toNat] ++ ':' :: decimal port.toNat)
  | v6 {ip : Ipv6} {cs : List Char} : ip.IsCanonical cs →
      IsCanonical port (.v6 ip 0) ('[' :: cs ++ ']' :: ':' :: decimal port.toNat)

/-- A text that the relay takes for a socket address wherever it takes addresses. -/
structure IsNamedBy (addr : SocketAddress) (text : String) : Prop where
  normal : normalize text = .ok text
  dialled : dialTarget text = text
  resolved : ∀ directory, resolve directory text = .ok addr

private theorem text_v4 (ip : Ipv4) (port : UInt16) :
    text ⟨.v4 ip, port⟩ = HostPort.join ⟨String.ofList ip.text, port⟩ := by
  have plain : ':' ∉ ip.text := ip.not_mem_text (by decide) (by decide)
  apply String.toList_injective
  rw [HostPort.toList_join, String.toList_ofList, bracketed_of_not_mem plain]
  simp [text, decimal]

private theorem text_v6 (ip : Ipv6) (port : UInt16) :
    text ⟨.v6 ip 0, port⟩ = HostPort.join ⟨String.ofList ip.text, port⟩ := by
  apply String.toList_injective
  rw [HostPort.toList_join, String.toList_ofList, bracketed_of_mem ip.text_isCanonical.colon_mem]
  simp [text, decimal]

private theorem isNamedBy_join {host : List Char} {ip : Ip} (port : UInt16)
    (filled : host ≠ []) (plain : ':' ∈ host ∨ host.head? ≠ some '[')
    (nulless : Char.ofNat 0 ∉ host) (numeric : numericHost? host = some ip) :
    IsNamedBy ⟨ip, port⟩ (HostPort.join ⟨String.ofList host, port⟩) := by
  have isPlain : HostPort.IsPlain ⟨String.ofList host, port⟩ := by
    simpa [HostPort.IsPlain] using plain
  have split := (HostPort.split_join_iff _).mpr isPlain
  have named : (String.ofList host).isEmpty = false := by simpa using filled
  refine ⟨by rw [normalize, split]; rfl, ?_, fun directory => ?_⟩
  · simp [dialTarget, split, named]
  · simp [resolve, split, named, hostAddresses, nulless, numeric]

private theorem text_v4_isNamedBy (ip : Ipv4) (port : UInt16) :
    IsNamedBy ⟨.v4 ip, port⟩ (text ⟨.v4 ip, port⟩) := by
  have filled : ip.text ≠ [] := by
    intro empty
    have read := ip.parse?_text
    rw [empty] at read
    cases read
  have unbracketed : ip.text.head? ≠ some '[' := fun bracket =>
    ip.not_mem_text (by decide) (by decide) (List.mem_of_head? bracket)
  rw [text_v4]
  exact isNamedBy_join port filled (.inr unbracketed) (ip.not_mem_text (by decide) (by decide))
    (numericHost?_v4 ip)

private theorem text_v6_isNamedBy (ip : Ipv6) (port : UInt16) :
    IsNamedBy ⟨.v6 ip 0, port⟩ (text ⟨.v6 ip 0, port⟩) := by
  rw [text_v6]
  have canonical := ip.text_isCanonical
  exact isNamedBy_join port (List.ne_nil_of_mem canonical.colon_mem) (.inl canonical.colon_mem)
    (canonical.not_mem (by decide) (by decide) (by decide) (by decide)) (numericHost?_v6 ip)

private theorem text_isCanonical {addr : SocketAddress} (unscoped : addr.ip.IsUnscoped) :
    IsCanonical addr.port addr.ip addr.text.toList := by
  obtain ⟨ip, port⟩ := addr
  cases ip with
  | v4 ip =>
    have written : (text ⟨.v4 ip, port⟩).toList = ip.text ++ ':' :: decimal port.toNat := by
      simp [text]
    rw [written, ip.text_eq_intercalate]
    exact .v4 ip
  | v6 ip scope =>
    obtain rfl : scope = 0 := unscoped
    have written : (text ⟨.v6 ip 0, port⟩).toList =
        '[' :: ip.text ++ ']' :: ':' :: decimal port.toNat := by
      simp [text]
    rw [written]
    exact .v6 ip.text_isCanonical

private theorem IsCanonical.unique {port : UInt16} {ip : Ip} {cs cs' : List Char}
    (canonical : IsCanonical port ip cs) (canonical' : IsCanonical port ip cs') : cs = cs' := by
  cases canonical with
  | v4 ip =>
    cases canonical' with
    | v4 => rfl
  | v6 written =>
    cases canonical' with
    | v6 written' =>
      rw [(Ipv6.isCanonical_iff _ _).mp written, (Ipv6.isCanonical_iff _ _).mp written']

/-- A printed socket address is canonical, and is split, dialled and resolved as itself. -/
theorem text_names_itself (addr : SocketAddress) (unscoped : addr.ip.IsUnscoped) :
    (∀ text : String, IsCanonical addr.port addr.ip text.toList ↔ text = addr.text) ∧
      addr.IsNamedBy addr.text := by
  have printed := text_isCanonical unscoped
  refine ⟨fun text => ⟨fun canonical => ?_, fun same => same ▸ printed⟩, ?_⟩
  · exact String.toList_injective (canonical.unique printed)
  · obtain ⟨ip, port⟩ := addr
    cases ip with
    | v4 ip => exact text_v4_isNamedBy ip port
    | v6 ip scope =>
      obtain rfl : scope = 0 := unscoped
      exact text_v6_isNamedBy ip port

theorem text_names_itself_twoRuns :
    let addr : SocketAddress := ⟨.v6 ⟨0x2001, 0xDB8, 0, 0, 1, 0, 0, 1⟩ 0, 65535⟩
    addr.ip.IsUnscoped ∧ addr.IsNamedBy "[2001:db8::1:0:0:1]:65535" := by
  intro addr
  have written : addr.text = "[2001:db8::1:0:0:1]:65535" := by decide
  exact ⟨rfl, written ▸ (text_names_itself addr rfl).2⟩

end SocketAddress

end StreamRelay.Net
