import StreamRelay.Net.Host
import StreamRelay.Proofs.Net.Grammar
import StreamRelay.Proofs.Relay.Isolation
import StreamRelay.Relay.Opening

set_option autoImplicit false
set_option relaxedAutoImplicit false

namespace StreamRelay

namespace Net

/-- The host that is dialled for a host: the local machine for an empty one. -/
def dialHost (host : String) : String := if host = "" then "localhost" else host

section

open HostPort (split)

variable {a : String}

private theorem dialTarget_of_empty {port : UInt16} (read : split a = .ok ⟨"", port⟩) :
    dialTarget a = HostPort.join ⟨"localhost", port⟩ := by
  simp [dialTarget, read]

private theorem dialTarget_of_named {hp : HostPort} (read : split a = .ok hp)
    (named : hp.host ≠ "") : dialTarget a = a := by
  simp [dialTarget, read, named]

private theorem dialTarget_of_error {fault : AddressFault} (refused : split a = .error fault) :
    dialTarget a = a := by
  simp [dialTarget, refused]

private theorem split_localhost (port : UInt16) :
    split (HostPort.join ⟨"localhost", port⟩) = .ok ⟨"localhost", port⟩ :=
  (HostPort.split_join_iff _).mpr (.inr (show "localhost".toList.head? ≠ some '[' by decide))

private theorem split_dialTarget {host : String} {port : UInt16}
    (read : split a = .ok ⟨host, port⟩) : split (dialTarget a) = .ok ⟨dialHost host, port⟩ := by
  by_cases empty : host = ""
  · subst empty
    rw [dialTarget_of_empty read]
    exact split_localhost port
  · rw [dialTarget_of_named read empty, dialHost, if_neg empty]
    exact read

private theorem dialHost_ne_empty (host : String) : dialHost host ≠ "" := by
  unfold dialHost
  split
  · decide
  · assumption

private theorem dialTarget_dialTarget (a : String) : dialTarget (dialTarget a) = dialTarget a := by
  cases read : split a with
  | error fault => rw [dialTarget_of_error read, dialTarget_of_error read]
  | ok hp =>
    obtain ⟨host, port⟩ := hp
    exact dialTarget_of_named (split_dialTarget read) (dialHost_ne_empty host)

end

private theorem isWord_of_port? {cs : List Char} {port : UInt16} (read : port? cs = some port) :
    Number.IsWord cs port := by
  unfold port? at read
  split at read
  · rename_i n digits
    obtain ⟨numeral, within⟩ := Number.digits_eq_ok_iff.mp digits
    obtain rfl := Option.some.inj read
    refine ⟨cs, .inl rfl, ?_⟩
    rwa [UInt16.toNat_ofNat_of_lt' (Nat.lt_succ_of_le within)]
  · cases read

private theorem SocketAddress.parse?_port {cs : List Char} {addr : SocketAddress}
    (read : SocketAddress.parse? cs = some addr) :
    ∃ before after, cs = before ++ ':' :: after ∧ Number.IsWord after addr.port := by
  unfold SocketAddress.parse? at read
  split at read
  · rename_i cs
    split at read
    · rename_i bracket port rest
      obtain ⟨ip, -, read⟩ := Option.bind_eq_some_iff.mp read
      obtain ⟨number, digits, made⟩ := Option.bind_eq_some_iff.mp read
      obtain rfl := Option.some.inj made
      refine ⟨'[' :: cs.takeWhile (· ≠ ']') ++ [bracket], port, ?_, isWord_of_port? digits⟩
      rw [List.append_assoc, List.singleton_append, List.cons_append, ← rest,
        List.takeWhile_append_dropWhile]
    · cases read
  · split at read
    · rename_i first port rest
      obtain ⟨ip, -, read⟩ := Option.bind_eq_some_iff.mp read
      obtain ⟨number, digits, made⟩ := Option.bind_eq_some_iff.mp read
      obtain rfl := Option.some.inj made
      refine ⟨cs.takeWhile (· ≠ ':'), port, ?_, isWord_of_port? digits⟩
      -- What ends the text in front is the first colon.
      have colon : first = ':' := by
        have ends := List.head?_dropWhile_not (p := (· ≠ ':')) cs
        rw [rest] at ends
        simpa using ends
      subst colon
      rw [← rest, List.takeWhile_append_dropWhile]
    · cases read

section

variable {target : String} {hp : HostPort}

private theorem splitAtLastColon_of_split (read : HostPort.split target = .ok hp) :
    ∃ before after, splitAtLastColon target.toList = some (before, after) ∧
      IsHost before hp.host.toList ∧ Number.readWord after = .ok hp.port ∧
      ∀ before' after' port, target.toList = before' ++ ':' :: after' →
        Number.IsWord after' port → port = hp.port := by
  obtain ⟨before, after, parts, host, word⟩ := HostPort.split_eq_ok_iff.mp read
  have found := splitAtLastColon_append before (not_mem_of_isWord word)
  rw [← parts] at found
  refine ⟨before, after, found, host, Number.readWord_eq_ok_iff.mpr word, ?_⟩
  intro before' after' port parts' word'
  have found' := splitAtLastColon_append before' (not_mem_of_isWord word')
  rw [← parts', found] at found'
  obtain ⟨-, rfl⟩ := Prod.mk.inj (Option.some.inj found')
  have same := (Number.readWord_eq_ok_iff.mpr word').symm.trans (Number.readWord_eq_ok_iff.mpr word)
  exact Except.ok.inj same

private theorem dialAddresses_port {directory : Directory} {addrs : List SocketAddress}
    (read : HostPort.split target = .ok hp) (found : dialAddresses directory target = .ok addrs) :
    ∀ addr ∈ addrs, addr.port = hp.port := by
  obtain ⟨before, after, parts, -, word, unique⟩ := splitAtLastColon_of_split read
  intro addr member
  cases printed : SocketAddress.parse? target.toList with
  | some named =>
    simp only [dialAddresses, printed, Except.ok.injEq] at found
    subst found
    obtain rfl := List.mem_singleton.mp member
    obtain ⟨before', after', parts', word'⟩ := SocketAddress.parse?_port printed
    exact unique before' after' addr.port parts' word'
  | none =>
    simp only [dialAddresses, printed, parts, word] at found
    cases resolved : hostAddresses directory (String.ofList before) with
    | error error => simp [resolved, Except.map] at found
    | ok ips =>
      simp only [resolved, Except.map, Except.ok.injEq] at found
      subst found
      obtain ⟨ip, -, rfl⟩ := List.mem_map.mp member
      rfl

private theorem dialAddresses_congr {directory directory' : Directory}
    (alike : ∀ name, name ≠ "" → directory' name = directory name)
    (read : HostPort.split target = .ok hp) (named : hp.host ≠ "") :
    dialAddresses directory' target = dialAddresses directory target := by
  obtain ⟨before, after, parts, host, word, -⟩ := splitAtLastColon_of_split read
  have filled : String.ofList before ≠ "" := by
    cases host with
    | bracketed => simp
    | bare => simpa using named
  simp only [dialAddresses, parts, word, hostAddresses, alike _ filled]

end

end Net

namespace Relay

def Aims (r : Relay) : Prop := ∀ s ∈ r.sessions, s.target = r.target

private theorem Aims.step {r : Relay} (aims : r.Aims) (move : Move) : (r.step move).1.Aims := by
  have stepped := r.step_stepped move
  generalize (r.step move).1 = r' at stepped ⊢
  generalize (r.step move).2 = notes at stepped
  cases stepped with
  | arrives | closesListener | nowhere => exact aims
  | cancels =>
    intro t cancelled
    obtain ⟨s, member, rfl⟩ := List.mem_map.mp cancelled
    exact aims s member
  | tends closed _ => cases closed <;> exact aims
  | loops looped _ =>
    cases looped with
    | rest | ends | fails => exact aims
    | accepts =>
      intro s member
      rcases List.mem_append.mp member with member | member
      · exact aims s member
      · rw [List.mem_singleton.mp member]
        rfl
  | @moves index s move there =>
    intro t member
    rcases List.mem_or_eq_of_mem_set member with member | rfl
    · exact aims t member
    · exact (s.step_names r.pool move).2.trans (aims s (List.mem_of_getElem? there))

private theorem Aims.run {r : Relay} (aims : r.Aims) (moves : List Move) :
    (r.run moves).1.Aims := by
  induction moves generalizing r with
  | nil => exact aims
  | cons move moves ih => exact ih (aims.step move)

end Relay

namespace Net

/-- What is dialled for an address has its port and its host, or the local machine for no host. -/
theorem dialTarget_keeps_port (a : String) :
    (∀ host port, HostPort.split a = .ok ⟨host, port⟩ →
        HostPort.split (dialTarget a) = .ok ⟨if host = "" then "localhost" else host, port⟩ ∧
          (∀ directory addrs, dialAddresses directory (dialTarget a) = .ok addrs →
            ∀ addr ∈ addrs, addr.port = port) ∧
          ∀ directory directory' : Directory,
            (∀ name, name ≠ "" → directory' name = directory name) →
              dialAddresses directory' (dialTarget a) = dialAddresses directory (dialTarget a)) ∧
      (∀ fault, HostPort.split a = .error fault → dialTarget a = a) ∧
      dialTarget (dialTarget a) = dialTarget a ∧
      ∀ settings : Settings, settings.backendAddr = a → ∀ moves,
        ∀ session ∈ ((Relay.ofSettings settings).run moves).1.sessions,
          session.target = dialTarget a := by
  refine ⟨fun host port read => ?_, fun fault => dialTarget_of_error, dialTarget_dialTarget a, ?_⟩
  · have split := split_dialTarget read
    exact ⟨split, fun directory addrs found => dialAddresses_port split found,
      fun directory directory' alike => dialAddresses_congr alike split (dialHost_ne_empty host)⟩
  · rintro settings rfl moves session member
    have begins : (Relay.ofSettings settings).Aims := fun s member => nomatch member
    exact (begins.run moves session member).trans (Relay.run_target _ moves)

theorem dialTarget_keeps_port_emptyBrackets :
    HostPort.split "[]:+0080" = .ok ⟨"", 80⟩ ∧ dialTarget "[]:+0080" = "localhost:80" ∧
      HostPort.split (dialTarget "[]:+0080") = .ok ⟨"localhost", 80⟩ ∧
      (HostPort.split "[::1:80" = .error .missingBracket ∧ dialTarget "[::1:80" = "[::1:80") := by
  have read : HostPort.split "[]:+0080" = .ok ⟨"", 80⟩ := rfl
  have refused : HostPort.split "[::1:80" = .error .missingBracket := rfl
  obtain ⟨target, -, -⟩ := (dialTarget_keeps_port "[]:+0080").1 "" 80 read
  exact ⟨read, rfl, target, refused, (dialTarget_keeps_port "[::1:80").2.1 _ refused⟩

end Net

end StreamRelay
