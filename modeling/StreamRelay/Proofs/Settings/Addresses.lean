import StreamRelay.Proofs.Net.HostPort
import StreamRelay.Proofs.Settings.Layering

set_option autoImplicit false
set_option relaxedAutoImplicit false

namespace StreamRelay.Settings

open Net (HostPort)

theorem exists_split_of_normalize {a v : String} (normal : Net.normalize a = .ok v) :
    ∃ hp, HostPort.split a = .ok hp ∧ v = hp.join := by
  unfold Net.normalize at normal
  cases read : HostPort.split a with
  | error fault => simp [read, Except.map] at normal
  | ok hp =>
    rw [read] at normal
    exact ⟨hp, rfl, (Except.ok.inj normal).symm⟩

private theorem normalize_join_iff (hp : HostPort) :
    Net.normalize hp.join = .ok hp.join ↔ hp.IsPlain := by
  rw [← HostPort.split_join_iff]
  constructor
  · intro same
    obtain ⟨hp', read, written⟩ := exists_split_of_normalize same
    rw [read, HostPort.join_injective written]
  · intro read
    rw [Net.normalize, read]
    rfl

private theorem exists_split_of_stored {text : String} {address : Option String}
    (given : address = some text) (filled : Text.isBlankText text = false)
    (valid : ∀ value, address = some value → IsAddress value) (old : String) :
    ∃ hp, HostPort.split (Text.trim text) = .ok hp ∧
      (address.bind addressFor?).getD old = hp.join := by
  subst given
  rcases valid text rfl with blank | ⟨normal, read⟩
  · simp [blank] at filled
  · obtain ⟨hp, split, rfl⟩ := exists_split_of_normalize read
    exact ⟨hp, split, by simp [addressFor?, filled, read, Except.toOption]⟩

/-- A normal form is read back, and is its own normal form, exactly when the host is plain. -/
theorem normalize_stable_iff (a : String) :
    (∀ v, Net.normalize a = .ok v → ∃ hp, HostPort.split a = .ok hp ∧ v = hp.join ∧
        (HostPort.split v = HostPort.split a ↔ hp.IsPlain) ∧
        (Net.normalize v = .ok v ↔ hp.IsPlain)) ∧
      ∀ files o s, (apply files o s).fault = none → Text.isBlankText a = false →
        let stored := (apply files o s).settings
        ∀ address ∈ [(o.listenAddr, stored.listenAddr), (o.backendAddr, stored.backendAddr)],
          address.1 = some a →
            ∃ hp, HostPort.split (Text.trim a) = .ok hp ∧ address.2 = hp.join ∧
              (HostPort.split address.2 = .ok hp ↔ hp.IsPlain) := by
  constructor
  · intro v normal
    obtain ⟨hp, read, rfl⟩ := exists_split_of_normalize normal
    refine ⟨hp, read, rfl, ?_, normalize_join_iff hp⟩
    rw [read]
    exact hp.split_join_iff
  · intro files o s through filled stored address member given
    rcases apply_cases files o s with ⟨valid, -, each⟩ | ⟨fault, failed, -⟩
    · have read : ∃ hp, HostPort.split (Text.trim a) = .ok hp ∧ address.2 = hp.join := by
        rcases List.mem_cons.mp member with rfl | member
        · obtain ⟨hp, split, set⟩ :=
            exists_split_of_stored given filled (valid .listenAddr) s.listenAddr
          exact ⟨hp, split, (each .listenAddr).trans set⟩
        · obtain rfl := List.mem_singleton.mp member
          obtain ⟨hp, split, set⟩ :=
            exists_split_of_stored given filled (valid .backendAddr) s.backendAddr
          exact ⟨hp, split, (each .backendAddr).trans set⟩
      obtain ⟨hp, split, written⟩ := read
      refine ⟨hp, split, written, ?_⟩
      rw [written]
      exact hp.split_join_iff
    · simp [failed] at through

/-- A normal form may be refused, and it may be read as another host. -/
theorem normalize_not_stable :
    (Net.normalize "[[x]:80" = .ok "[x:80" ∧ HostPort.split "[[x]:80" = .ok ⟨"[x", 80⟩ ∧
        HostPort.split "[x:80" = .error .missingBracket) ∧
      (Net.normalize "[[x]]:80" = .ok "[x]:80" ∧ Net.normalize "[x]:80" = .ok "x:80") ∧
      ¬ ∀ a v, Net.normalize a = .ok v → HostPort.split v = HostPort.split a := by
  have normal : Net.normalize "[[x]:80" = .ok "[x:80" := rfl
  have wanted : HostPort.split "[[x]:80" = .ok ⟨"[x", 80⟩ := rfl
  have refused : HostPort.split "[x:80" = .error .missingBracket := rfl
  refine ⟨⟨normal, wanted, refused⟩, ⟨rfl, rfl⟩, fun stable => ?_⟩
  have same := stable _ _ normal
  rw [wanted, refused] at same
  cases same

end StreamRelay.Settings
