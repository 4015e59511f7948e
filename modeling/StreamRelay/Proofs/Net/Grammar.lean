import StreamRelay.Error
import StreamRelay.Proofs.Net.HostPort
import StreamRelay.Proofs.Number.Reading

/-!
# The grammar of addresses

An address is a host, a colon and a port. A host in square brackets may be any text at all; any
other host has no colon and does not begin with a bracket. Splitting reads the texts of this grammar
and no others, and for any other text it names the first of the reasons that it looks for.
-/

set_option autoImplicit false
set_option relaxedAutoImplicit false

namespace StreamRelay.Net

/-- What stands in front of the colon, for a host. -/
inductive IsHost : List Char → List Char → Prop
  | bracketed (host : List Char) : IsHost ('[' :: host ++ [']']) host
  | bare {host : List Char} : ':' ∉ host → host.head? ≠ some '[' → IsHost host host

/-- A host, a colon and a port. -/
def IsAddress (cs : List Char) (hp : HostPort) : Prop :=
  ∃ before after, cs = before ++ ':' :: after ∧ IsHost before hp.host.toList ∧
    Number.IsWord after hp.port

/-- Why a text is no address. Brackets are looked at before colons, and the host before the port. -/
inductive IsFault (cs : List Char) : AddressFault → Prop
  | missingPort : ':' ∉ cs → IsFault cs .missingPort
  | missingBracket {before after : List Char} : cs = before ++ ':' :: after → ':' ∉ after →
      before.head? = some '[' → (¬ ∃ host, before = '[' :: host ++ [']']) →
      IsFault cs .missingBracket
  | tooManyColons {before after : List Char} : cs = before ++ ':' :: after → ':' ∉ after →
      before.head? ≠ some '[' → ':' ∈ before → IsFault cs .tooManyColons
  | badPort {before after host : List Char} {fault : Number.Fault} :
      cs = before ++ ':' :: after → ':' ∉ after → IsHost before host →
      Number.IsWordFault after fault → IsFault cs (.badPort fault)

/-- What is said of a text that is no address. -/
inductive IsReason (cs : List Char) : String → Prop
  | missingPort : IsFault cs .missingPort → IsReason cs "missing port in address"
  | missingBracket : IsFault cs .missingBracket → IsReason cs "missing ']' in address"
  | tooManyColons : IsFault cs .tooManyColons → IsReason cs "too many colons in address"
  | badPort {fault : Number.Fault} {words : String} : IsFault cs (.badPort fault) →
      fault.IsTold words → IsReason cs ("invalid port: " ++ words)

private theorem IsFault.isReason {cs : List Char} {fault : AddressFault}
    (failed : IsFault cs fault) : IsReason cs fault.message := by
  cases fault with
  | missingPort => exact .missingPort failed
  | missingBracket => exact .missingBracket failed
  | tooManyColons => exact .tooManyColons failed
  | badPort fault => exact .badPort failed fault.isTold_message

private theorem exists_last_colon {cs : List Char} (colon : ':' ∈ cs) :
    ∃ before after, cs = before ++ ':' :: after ∧ ':' ∉ after := by
  obtain ⟨behind, ahead, split, plain⟩ := List.eq_append_cons_of_mem (List.mem_reverse.mpr colon)
  refine ⟨ahead.reverse, behind.reverse, ?_, by simpa using plain⟩
  rw [← List.reverse_reverse cs, split]
  simp

theorem not_mem_of_isWord {cs : List Char} {port : UInt16} (word : Number.IsWord cs port) :
    ':' ∉ cs := by
  obtain ⟨digits, behind, numeral⟩ := word
  have plain : ':' ∉ digits := fun member => absurd (numeral.digits ':' member) (by decide)
  rcases behind with rfl | rfl
  · exact plain
  · simpa using plain

private theorem hostOf_bracketed (host : List Char) : hostOf ('[' :: host ++ [']']) = .ok host := by
  simp [hostOf]

private theorem hostOf_unbracketed {cs : List Char} (unbracketed : cs.head? ≠ some '[') :
    hostOf cs = if ':' ∈ cs then .error .tooManyColons else .ok cs := by
  unfold hostOf
  split
  · simp at unbracketed
  · simp only [List.contains_iff_mem]

private theorem hostOf_cases (before : List Char) :
    (∃ host, IsHost before host ∧ hostOf before = .ok host) ∨
      (before.head? = some '[' ∧ (¬ ∃ host, before = '[' :: host ++ [']']) ∧
        hostOf before = .error .missingBracket) ∨
      before.head? ≠ some '[' ∧ ':' ∈ before ∧ hostOf before = .error .tooManyColons := by
  by_cases bracket : before.head? = some '['
  · obtain ⟨inner, rfl⟩ := List.head?_eq_some_iff.mp bracket
    by_cases closed : inner.getLast? = some ']'
    · obtain ⟨host, rfl⟩ := List.getLast?_eq_some_iff.mp closed
      exact .inl ⟨host, .bracketed host, hostOf_bracketed host⟩
    · refine .inr (.inl ⟨bracket, ?_, by simp [hostOf, closed]⟩)
      rintro ⟨host, same⟩
      obtain rfl : inner = host ++ [']'] := by simpa using same
      simp at closed
  · by_cases colon : ':' ∈ before
    · exact .inr (.inr ⟨bracket, colon, by rw [hostOf_unbracketed bracket, if_pos colon]⟩)
    · exact .inl ⟨before, .bare colon bracket, by rw [hostOf_unbracketed bracket, if_neg colon]⟩

private theorem IsHost.hostOf {before host : List Char} (isHost : IsHost before host) :
    Net.hostOf before = .ok host := by
  cases isHost with
  | bracketed host => exact hostOf_bracketed host
  | bare plain unbracketed => rw [hostOf_unbracketed unbracketed, if_neg plain]

namespace HostPort

private theorem split_of_not_mem {a : String} (none : ':' ∉ a.toList) :
    split a = .error .missingPort := by
  rw [split, splitAtLastColon_eq_none none]

section

variable {a : String} {before after : List Char}

private theorem split_of_hostOf_error (parts : a.toList = before ++ ':' :: after)
    (last : ':' ∉ after) {fault : AddressFault} (refused : hostOf before = .error fault) :
    split a = .error fault := by
  rw [split, parts, splitAtLastColon_append before last]
  simp only [refused]
  rfl

private theorem split_of_hostOf_ok (parts : a.toList = before ++ ':' :: after) (last : ':' ∉ after)
    {host : List Char} (read : hostOf before = .ok host) :
    split a = match Number.readWord after with
      | .ok port => .ok ⟨String.ofList host, port⟩
      | .error fault => .error (.badPort fault) := by
  rw [split, parts, splitAtLastColon_append before last]
  simp only [read]
  rfl

end

theorem split_of_isAddress {a : String} {hp : HostPort} (address : IsAddress a.toList hp) :
    split a = .ok hp := by
  obtain ⟨before, after, parts, host, word⟩ := address
  rw [split_of_hostOf_ok parts (not_mem_of_isWord word) host.hostOf,
    Number.readWord_eq_ok_iff.mpr word]
  simp

theorem split_of_isFault {a : String} {fault : AddressFault} (failed : IsFault a.toList fault) :
    split a = .error fault := by
  cases failed with
  | missingPort none => exact split_of_not_mem none
  | @missingBracket before after parts last bracket unclosed =>
    rcases hostOf_cases before with ⟨host, isHost, -⟩ | ⟨-, -, refused⟩ | ⟨other, -, -⟩
    · cases isHost with
      | bracketed host => exact absurd ⟨host, rfl⟩ unclosed
      | bare _ unbracketed => exact absurd bracket unbracketed
    · exact split_of_hostOf_error parts last refused
    · exact absurd bracket other
  | tooManyColons parts last unbracketed colon =>
    refine split_of_hostOf_error parts last ?_
    rw [hostOf_unbracketed unbracketed, if_pos colon]
  | badPort parts last host bad =>
    rw [split_of_hostOf_ok parts last host.hostOf, Number.readWord_eq_error_iff.mpr bad]

theorem isAddress_or_isFault (cs : List Char) :
    (∃ hp, IsAddress cs hp) ∨ ∃ fault, IsFault cs fault := by
  by_cases colon : ':' ∈ cs
  · obtain ⟨before, after, parts, last⟩ := exists_last_colon colon
    rcases hostOf_cases before with ⟨host, isHost, -⟩ | ⟨bracket, unclosed, -⟩ |
      ⟨unbracketed, more, -⟩
    · cases read : Number.readWord after with
      | ok port =>
        refine .inl ⟨⟨String.ofList host, port⟩, before, after, parts, by simpa using isHost, ?_⟩
        exact Number.readWord_eq_ok_iff.mp read
      | error fault =>
        exact .inr ⟨_, .badPort parts last isHost (Number.readWord_eq_error_iff.mp read)⟩
    · exact .inr ⟨_, .missingBracket parts last bracket unclosed⟩
    · exact .inr ⟨_, .tooManyColons parts last unbracketed more⟩
  · exact .inr ⟨_, .missingPort colon⟩

theorem split_eq_ok_iff {a : String} {hp : HostPort} :
    split a = .ok hp ↔ IsAddress a.toList hp := by
  refine ⟨fun read => ?_, split_of_isAddress⟩
  rcases isAddress_or_isFault a.toList with ⟨hp', address⟩ | ⟨fault, failed⟩
  · obtain rfl := Except.ok.inj ((split_of_isAddress address).symm.trans read)
    exact address
  · rw [split_of_isFault failed] at read
    cases read

private theorem split_eq_error_iff {a : String} {fault : AddressFault} :
    split a = .error fault ↔ IsFault a.toList fault := by
  refine ⟨fun refused => ?_, split_of_isFault⟩
  rcases isAddress_or_isFault a.toList with ⟨hp, address⟩ | ⟨fault', failed⟩
  · rw [split_of_isAddress address] at refused
    cases refused
  · obtain rfl := Except.error.inj ((split_of_isFault failed).symm.trans refused)
    exact failed

private theorem reason_unique {cs : List Char} {reason reason' : String} (told : IsReason cs reason)
    (told' : IsReason cs reason') : reason = reason' := by
  have message {words : String} (told : IsReason cs words) :
      ∃ fault, split (String.ofList cs) = .error fault ∧ fault.message = words := by
    cases told with
    | missingPort failed => exact ⟨_, split_of_isFault (by simpa using failed), rfl⟩
    | missingBracket failed => exact ⟨_, split_of_isFault (by simpa using failed), rfl⟩
    | tooManyColons failed => exact ⟨_, split_of_isFault (by simpa using failed), rfl⟩
    | badPort failed words =>
      exact ⟨_, split_of_isFault (by simpa using failed), congrArg (_ ++ ·) words.message⟩
  obtain ⟨fault, refused, rfl⟩ := message told
  obtain ⟨fault', refused', rfl⟩ := message told'
  exact congrArg _ (Except.error.inj (refused.symm.trans refused'))

/-- The addresses of the grammar are split, and any other text is told what is wrong with it. -/
theorem split_reads_addresses (a : String) :
    (∀ hp, split a = .ok hp ↔ IsAddress a.toList hp) ∧
      (∀ fault, split a = .error fault ↔ IsFault a.toList fault) ∧
      ∀ fault, split a = .error fault → ∃ reason, IsReason a.toList reason ∧
        (RelayError.config (.address a fault)).message =
          "Configuration error: " ++ ("split host port " ++ a ++ ": " ++ reason) := by
  refine ⟨fun hp => split_eq_ok_iff, fun fault => split_eq_error_iff, fun fault refused => ?_⟩
  exact ⟨fault.message, (split_eq_error_iff.mp refused).isReason, rfl⟩

theorem split_reads_addresses_brackets :
    (split "[a:b]]:+0080" = .ok ⟨"a:b]", 80⟩ ∧
        IsAddress "[a:b]]:+0080".toList ⟨"a:b]", 80⟩) ∧
      (IsFault "[::1:99999".toList .missingBracket ∧
        (RelayError.config (.address "[::1:99999" .missingBracket)).message =
          "Configuration error: split host port [::1:99999: missing ']' in address") ∧
      (IsFault "[::1]:99999".toList (.badPort .tooLarge) ∧
        (RelayError.config (.address "[::1]:99999" (.badPort .tooLarge))).message =
          "Configuration error: split host port [::1]:99999: " ++
            "invalid port: number too large to fit in target type") := by
  obtain ⟨written, -, -⟩ := split_reads_addresses "[a:b]]:+0080"
  obtain ⟨-, failed, named⟩ := split_reads_addresses "[::1:99999"
  obtain ⟨-, failed', named'⟩ := split_reads_addresses "[::1]:99999"
  have read : split "[a:b]]:+0080" = .ok ⟨"a:b]", 80⟩ := rfl
  have unclosed := (failed .missingBracket).mp rfl
  have large := (failed' (.badPort .tooLarge)).mp rfl
  obtain ⟨reason, told, message⟩ := named .missingBracket rfl
  obtain ⟨reason', told', message'⟩ := named' (.badPort .tooLarge) rfl
  obtain rfl := reason_unique told (.missingBracket unclosed)
  obtain rfl := reason_unique told' (.badPort large .tooLarge)
  exact ⟨⟨read, (written _).mp read⟩, ⟨unclosed, message⟩, large, message'⟩

end HostPort

end StreamRelay.Net
