import StreamRelay.Proofs.Json.Objects
import StreamRelay.Proofs.Json.Printing
import StreamRelay.Proofs.Settings.Addresses

set_option autoImplicit false
set_option relaxedAutoImplicit false

namespace StreamRelay.Settings

private theorem eq_of_get {s t : Settings} (same : ∀ field, s.get field = t.get field) : s = t := by
  cases s
  cases t
  simp only [mk.injEq]
  exact ⟨same .listenAddr, same .backendAddr, same .bufferSize, same .tlsEnabled,
    same .certFilePath, same .keyFilePath, same .connectTimeout, same .logLevel⟩

private theorem layered_cases (sources : List Overrides) (field : Field) :
    layered sources field = default.get field ∨
      ∃ o ∈ sources, o.sets? field = some (layered sources field) := by
  unfold layered
  cases last : (sources.filterMap fun o => o.sets? field).getLast? with
  | none => exact .inl rfl
  | some setting =>
    have listed := List.mem_of_getLast? last
    obtain ⟨o, member, sets⟩ := List.mem_filterMap.mp listed
    exact .inr ⟨o, member, sets⟩

private theorem levelFor?_name (level : Level) : levelFor? level.name = some level := by
  cases level <;> decide +kernel

private theorem isBlankText_of_stable {text : String}
    (stable : Net.normalize (Text.trim text) = .ok text) : Text.isBlankText text = false := by
  cases blank : Text.isBlankText text with
  | false => rfl
  | true =>
    have trimmed : Text.trim text = "" := by
      have dropped : text.toList.dropWhile Text.isBlank = [] := by
        rw [← List.append_nil text.toList,
          List.dropWhile_append_of_pos (List.all_eq_true.mp blank), List.dropWhile_nil]
      rw [Text.trim, Text.trimChars, dropped]
      rfl
    rw [trimmed] at stable
    cases stable

private theorem addressFor?_of_stable {text : String}
    (stable : Net.normalize (Text.trim text) = .ok text) : addressFor? text = some text := by
  simp [addressFor?, isBlankText_of_stable stable, stable, Except.toOption]

private theorem IsPath.layered {files : Files} {sources : List Overrides}
    (valid : ∀ o ∈ sources, o.IsValid files) :
    IsPath files (Settings.layered sources .certFilePath) ∧
      IsPath files (Settings.layered sources .keyFilePath) := by
  have path {given : Option String} {set : String}
      (valid : ∀ path, given = some path → IsPath files path)
      (sets : given.bind pathFor? = some set) : IsPath files set := by
    obtain ⟨path, rfl, stands⟩ := Option.bind_eq_some_iff.mp sets
    unfold pathFor? at stands
    split at stands
    · cases stands
    · obtain rfl := Option.some.inj stands
      exact valid path rfl
  constructor
  · rcases layered_cases sources .certFilePath with unset | ⟨o, member, sets⟩
    · exact .inl unset
    · exact path (valid o member .certFilePath) sets
  · rcases layered_cases sources .keyFilePath with unset | ⟨o, member, sets⟩
    · exact .inl unset
    · exact path (valid o member .keyFilePath) sets

section

variable {files : Files} {s : Settings}

private theorem InRange.toInt (range : s.InRange) :
    (Int64.ofNat s.bufferSize).toInt = s.bufferSize ∧
      (Int64.ofNat s.connectTimeout).toInt = s.connectTimeout := by
  obtain ⟨-, size, -, timeout⟩ := range
  unfold maxBufferSize at size
  exact ⟨Int64.toInt_ofNat_of_lt (by omega), Int64.toInt_ofNat_of_lt (by omega)⟩

private theorem written_isValid (range : s.InRange)
    (listen : Net.normalize (Text.trim s.listenAddr) = .ok s.listenAddr)
    (backend : Net.normalize (Text.trim s.backendAddr) = .ok s.backendAddr)
    (certificate : IsPath files s.certFilePath) (key : IsPath files s.keyFilePath) :
    s.written.IsValid files := by
  intro field value given
  obtain ⟨size, timeout⟩ := range.toInt
  cases field with
  | listenAddr =>
    obtain rfl := Option.some.inj given
    exact .inr ⟨_, listen⟩
  | backendAddr =>
    obtain rfl := Option.some.inj given
    exact .inr ⟨_, backend⟩
  | bufferSize =>
    obtain rfl := Option.some.inj given
    have least := range.bufferSize_pos
    have most := range.bufferSize_le
    unfold maxBufferSize at most
    change 1 ≤ (Int64.ofNat s.bufferSize).toInt ∧ (Int64.ofNat s.bufferSize).toInt ≤ 65536
    omega
  | tlsEnabled => trivial
  | certFilePath =>
    obtain rfl := Option.some.inj given
    exact certificate
  | keyFilePath =>
    obtain rfl := Option.some.inj given
    exact key
  | connectTimeout =>
    obtain rfl := Option.some.inj given
    have least := range.connectTimeout_pos
    change 0 < (Int64.ofNat s.connectTimeout).toInt
    omega
  | logLevel => trivial

private theorem layered_written (range : s.InRange)
    (listen : Net.normalize (Text.trim s.listenAddr) = .ok s.listenAddr)
    (backend : Net.normalize (Text.trim s.backendAddr) = .ok s.backendAddr) (field : Field) :
    layered [s.written] field = s.get field := by
  have alone : layered [s.written] field = (s.written.sets? field).getD (default.get field) := by
    unfold layered
    cases sets : s.written.sets? field <;> simp [sets]
  rw [alone]
  obtain ⟨size, timeout⟩ := range.toInt
  cases field with
  | listenAddr => exact congrArg (Option.getD · _) (addressFor?_of_stable listen)
  | backendAddr => exact congrArg (Option.getD · _) (addressFor?_of_stable backend)
  | bufferSize => exact (congrArg Int.toNat size).trans (Int.toNat_natCast _)
  | tlsEnabled => rfl
  | certFilePath | keyFilePath =>
    change (pathFor? _).getD "" = _
    unfold pathFor?
    split
    · rename_i empty
      exact empty.symm
    · rfl
  | connectTimeout => exact (congrArg Int.toNat timeout).trans (Int.toNat_natCast _)
  | logLevel => exact congrArg (Option.getD · _) (levelFor?_name s.logLevel)

end

private theorem applyAll_of_resolve {files : Files} {sources : List Overrides} {s : Settings}
    (resolved : (resolve files sources).1 = .ok s) :
    (applyAll files sources default).settings = s := by
  simp only [resolve] at resolved
  split at resolved
  · cases resolved
  · cases checked : (applyAll files sources default).settings.validate with
    | error fault =>
      rw [checked] at resolved
      cases resolved
    | ok _ =>
      rw [checked] at resolved
      exact Except.ok.inj resolved

/-- A resolved record is read back from its own printed form. -/
theorem resolve_reloads {files : Files} {sources : List Overrides} {s : Settings}
    (resolved : (resolve files sources).1 = .ok s)
    (listen : Net.normalize (Text.trim s.listenAddr) = .ok s.listenAddr)
    (backend : Net.normalize (Text.trim s.backendAddr) = .ok s.backendAddr) :
    ∃ o, fromJson (Bytes.ofText s.toJson) = .ok o ∧ (resolve files [o]).1 = .ok s := by
  have range : s.InRange := by
    rw [← applyAll_of_resolve resolved]
    exact (Reachable.default.applyAll files sources).inRange
  obtain ⟨certificate, key, differ⟩ : IsPath files s.certFilePath ∧ IsPath files s.keyFilePath ∧
      s.get .listenAddr ≠ s.get .backendAddr := by
    rcases resolve_cases files sources with ⟨valid, t, layers, outcome⟩ |
      ⟨fault, -, -, -, refused, -⟩
    · rw [outcome] at resolved
      split at resolved
      · cases resolved
      · rename_i differ
        obtain rfl := Except.ok.inj resolved
        obtain ⟨certificate, key⟩ := IsPath.layered valid
        rw [← layers] at certificate key
        rw [← layers, ← layers] at differ
        exact ⟨certificate, key, differ⟩
    · rw [refused] at resolved
      cases resolved
  have valid := written_isValid range listen backend certificate key
  have layers := layered_written range listen backend
  refine ⟨s.written, ?_, ?_⟩
  · obtain ⟨-, size, -, timeout⟩ := range
    unfold maxBufferSize at size
    have object := Json.Object.toJson (s := s) (by omega) (by omega)
    rw [fromJson, Json.readOverrides_object (.bare object)]
  · rcases resolve_cases files [s.written] with ⟨-, t, same, outcome⟩ |
      ⟨fault, before, o, later, -, split, -, fault'⟩
    · rw [outcome, layers, layers, if_neg differ]
      exact congrArg Except.ok (eq_of_get fun field => (same field).trans (layers field))
    · have member : o ∈ [s.written] := by
        rw [split]
        simp
      obtain rfl := List.mem_singleton.mp member
      exact (fault'.not_isValid valid).elim

def brokenName : Files := ⟨[(["a\nb"], .file [])], []⟩

/-- A quote in a host, a line break in a path, no key and the longest timeout. -/
def quoted : Settings where
  listenAddr := "x\"y:80"
  certFilePath := "a\nb"
  connectTimeout := 0x7FFFFFFFFFFFFFFF
  logLevel := .trace

theorem resolve_reloads_quoted :
    (resolve brokenName [quoted.written]).1 = .ok quoted ∧
      ∃ o, fromJson (Bytes.ofText quoted.toJson) = .ok o ∧
        (resolve brokenName [o]).1 = .ok quoted := by
  have resolved : (resolve brokenName [quoted.written]).1 = .ok quoted := rfl
  exact ⟨resolved, resolve_reloads resolved rfl rfl⟩

end StreamRelay.Settings
