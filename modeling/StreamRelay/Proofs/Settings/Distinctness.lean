import StreamRelay.Proofs.Settings.Addresses

set_option autoImplicit false
set_option relaxedAutoImplicit false

namespace StreamRelay.Settings

open Net (HostPort)

/-- The address that a text gives, without the blanks around it; a text of blanks gives none. -/
def given? (text : String) : Option String :=
  if Text.isBlankText text then none else some (Text.trim text)

/-- The address as it was written in the last source that gives one, or the default. -/
def lastGiven (sources : List Overrides) (address : Overrides → Option String) (start : String) :
    String :=
  ((sources.filterMap fun o => (address o).bind given?).getLast?).getD start

private theorem normalize_eq_iff {a b v v' : String} (normal : Net.normalize a = .ok v)
    (normal' : Net.normalize b = .ok v') : v = v' ↔ HostPort.split a = HostPort.split b := by
  obtain ⟨hp, read, rfl⟩ := exists_split_of_normalize normal
  obtain ⟨hp', read', rfl⟩ := exists_split_of_normalize normal'
  rw [read, read', Except.ok.injEq]
  constructor
  · exact HostPort.join_injective
  · rintro rfl
    rfl

private theorem IsAddress.given {text : String} (valid : IsAddress text) :
    (given? text = none ∧ addressFor? text = none) ∨
      ∃ a v, given? text = some a ∧ addressFor? text = some v ∧ Net.normalize a = .ok v := by
  cases blank : Text.isBlankText text with
  | true => exact .inl ⟨by simp [given?, blank], by simp [addressFor?, blank]⟩
  | false =>
    obtain ⟨v, normal⟩ := valid.resolve_left (by simp [blank])
    exact .inr ⟨Text.trim text, v, by simp [given?, blank],
      by simp [addressFor?, blank, normal, Except.toOption], normal⟩

private theorem normalize_lastGiven {sources : List Overrides} {address : Overrides → Option String}
    (valid : ∀ o ∈ sources, ∀ text, address o = some text → IsAddress text)
    {start start' : String} (normal : Net.normalize start = .ok start') :
    Net.normalize (lastGiven sources address start) =
      .ok (((sources.filterMap fun o => (address o).bind addressFor?).getLast?).getD start') := by
  induction sources generalizing start start' with
  | nil => exact normal
  | cons o sources ih =>
    have later : ∀ o ∈ sources, ∀ text, address o = some text → IsAddress text :=
      fun o member => valid o (List.mem_cons_of_mem _ member)
    have next : Net.normalize (((address o).bind given?).getD start) =
        .ok (((address o).bind addressFor?).getD start') := by
      cases set : address o with
      | none => exact normal
      | some text =>
        rcases (valid o (List.mem_cons_self ..) text set).given with ⟨none, none'⟩ |
          ⟨a, v, some, some', normal'⟩
        · simpa [none, none'] using normal
        · simpa [some, some'] using normal'
    rw [lastGiven, filterMap_cons_toList, filterMap_cons_toList, getLast?_getD_cons,
      getLast?_getD_cons]
    exact ih later next

private theorem validate_eq_sameAddresses_iff (s : Settings) :
    s.validate = .error .sameAddresses ↔ s.listenAddr = s.backendAddr := by
  by_cases same : s.listenAddr = s.backendAddr
  · simp [validate, same]
  · -- The faults of the quantities are others.
    simp only [validate, same, if_false, iff_false]
    split
    · simp
    split
    · simp
    split <;> simp

private theorem Overrides.IsFault.ne_sameAddresses {files : Files} {o : Overrides} {fault : Fault}
    (found : o.IsFault files fault) : fault ≠ .sameAddresses := by
  obtain ⟨-, field, -, value, -, -, -, -, named⟩ := found
  rintro rfl
  cases field with
  | listenAddr | backendAddr =>
    obtain ⟨-, cause, -, other⟩ := named
    cases other
  | bufferSize =>
    rcases named with ⟨-, other⟩ | ⟨-, other⟩
    · cases other
    · cases other
  | certFilePath | keyFilePath =>
    obtain ⟨-, error, -, other⟩ := named
    cases other
  | connectTimeout =>
    obtain ⟨-, other⟩ := named
    cases other
  | tlsEnabled | logLevel => exact named

private theorem resolve_eq_sameAddresses_iff (files : Files) (sources : List Overrides) :
    (resolve files sources).1 = .error .sameAddresses ↔
      (∀ o ∈ sources, o.IsValid files) ∧
        HostPort.split (lastGiven sources Overrides.listenAddr default.listenAddr) =
          HostPort.split (lastGiven sources Overrides.backendAddr default.backendAddr) := by
  rcases resolve_cases files sources with ⟨valid, s, -, outcome⟩ |
    ⟨fault, before, o, later, outcome, split, -, named⟩
  · have listen : Net.normalize (lastGiven sources Overrides.listenAddr default.listenAddr) =
        .ok (layered sources .listenAddr) :=
      normalize_lastGiven (fun o member => valid o member .listenAddr) rfl
    have backend : Net.normalize (lastGiven sources Overrides.backendAddr default.backendAddr) =
        .ok (layered sources .backendAddr) :=
      normalize_lastGiven (fun o member => valid o member .backendAddr) rfl
    rw [outcome, ← normalize_eq_iff listen backend]
    by_cases same : layered sources .listenAddr = layered sources .backendAddr
    · simpa [same] using valid
    · simp [same]
  · have invalid : ¬ ∀ o ∈ sources, o.IsValid files := fun valid =>
      named.not_isValid (valid o (by simp [split]))
    rw [outcome, Except.error.injEq]
    exact ⟨fun same => absurd same named.ne_sameAddresses, fun ⟨valid, _⟩ => absurd valid invalid⟩

/-- No two hosts and ports are written alike, so only addresses that are split alike are equal. -/
theorem join_tells_apart :
    (∀ hp : HostPort, HostPort.split hp.join = .ok hp ↔
        ':' ∈ hp.host.toList ∨ hp.host.toList.head? ≠ some '[') ∧
      (∀ hp hp' : HostPort, hp.join = hp'.join → hp = hp') ∧
      (∀ a b v v', Net.normalize a = .ok v → Net.normalize b = .ok v' →
        (v = v' ↔ HostPort.split a = HostPort.split b) ∧
          ∀ s : Settings, s.listenAddr = v → s.backendAddr = v' →
            (s.validate = .error .sameAddresses ↔ HostPort.split a = HostPort.split b)) ∧
      ∀ files sources, (resolve files sources).1 = .error .sameAddresses ↔
        (∀ o ∈ sources, o.IsValid files) ∧
          HostPort.split (lastGiven sources Overrides.listenAddr default.listenAddr) =
            HostPort.split (lastGiven sources Overrides.backendAddr default.backendAddr) := by
  refine ⟨fun hp => hp.split_join_iff, fun hp hp' => HostPort.join_injective, ?_,
    resolve_eq_sameAddresses_iff⟩
  intro a b v v' normal normal'
  refine ⟨normalize_eq_iff normal normal', ?_⟩
  rintro s rfl rfl
  rw [validate_eq_sameAddresses_iff]
  exact normalize_eq_iff normal normal'

theorem join_tells_apart_twoSpellings :
    let s : Settings := { default with listenAddr := "[::1]:80", backendAddr := "[::1]:80" }
    Net.normalize "[::1]:80" = .ok s.listenAddr ∧ Net.normalize "[::1]:+080" = .ok s.backendAddr ∧
      HostPort.split "[::1]:80" = HostPort.split "[::1]:+080" ∧
      s.validate = .error .sameAddresses := by
  intro s
  have listen : Net.normalize "[::1]:80" = .ok s.listenAddr := rfl
  have backend : Net.normalize "[::1]:+080" = .ok s.backendAddr := rfl
  obtain ⟨-, -, compared, -⟩ := join_tells_apart
  obtain ⟨same, refused⟩ := compared _ _ _ _ listen backend
  have split := same.mp rfl
  exact ⟨listen, backend, split, (refused s rfl rfl).mpr split⟩

end StreamRelay.Settings
