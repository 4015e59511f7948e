import StreamRelay.Proofs.Settings.Judgement
import StreamRelay.Relay.Opening

set_option autoImplicit false
set_option relaxedAutoImplicit false

namespace StreamRelay

namespace Settings

section Preservation

variable {files : Files} {P : Settings → Prop}

private theorem applyFields_keeps
    (put : ∀ (s : Settings) (field : Field) (value : field.shape.Value) (setting : field.Setting),
      judge files field value = .ok (some setting) → P s → P (s.put field setting))
    (o : Overrides) (fields : List Field) {s : Settings} (holds : P s) :
    P (applyFields files o fields s).settings := by
  induction fields generalizing s with
  | nil => exact holds
  | cons field fields ih =>
    unfold applyFields
    cases applied : applyField files o s field with
    | error fault => exact holds
    | ok outcome =>
      obtain ⟨s', log⟩ := outcome
      have holds' : P s' := by
        simp only [applyField] at applied
        split at applied
        · cases applied
          exact holds
        · split at applied
          · cases applied
          · cases applied
            exact holds
          · rename_i judged
            cases applied
            exact put s field _ _ judged holds
      exact ih holds'

end Preservation

def after (files : Files) (sources : List Overrides) (s : Settings) : Settings :=
  sources.foldl (fun s o => (apply files o s).settings) s

/-- The records that sources lead to from the defaults, each taken over to its end or not. -/
inductive Reachable : Settings → Prop
  | default : Reachable .default
  | apply (files : Files) (o : Overrides) {s : Settings} :
      Reachable s → Reachable (apply files o s).settings

private theorem Reachable.after (files : Files) (sources : List Overrides) {s : Settings}
    (reachable : s.Reachable) : (s.after files sources).Reachable := by
  induction sources generalizing s with
  | nil => exact reachable
  | cons o sources ih => exact ih (.apply files o reachable)

theorem Reachable.applyAll (files : Files) (sources : List Overrides) {s : Settings}
    (reachable : s.Reachable) : (applyAll files sources s).settings.Reachable := by
  induction sources generalizing s with
  | nil => exact reachable
  | cons o sources ih =>
    have next : (Settings.apply files o s).settings.Reachable := .apply files o reachable
    unfold Settings.applyAll
    cases fault : (Settings.apply files o s).fault with
    | some fault => simpa [fault] using next
    | none => simpa [fault] using ih next

/-- The limits of the quantities. -/
structure InRange (s : Settings) : Prop where
  bufferSize_pos : 1 ≤ s.bufferSize
  bufferSize_le : s.bufferSize ≤ maxBufferSize
  connectTimeout_pos : 1 ≤ s.connectTimeout
  connectTimeout_le : s.connectTimeout ≤ 0x7FFFFFFFFFFFFFFF

private theorem InRange.put {files : Files} {s : Settings} (range : s.InRange) {field : Field}
    {value : field.shape.Value} {setting : field.Setting}
    (judged : judge files field value = .ok (some setting)) : (s.put field setting).InRange := by
  rcases judge_cases files field value with ⟨valid, stands⟩ | ⟨-, fault, refused, -⟩
  · have same : standsFor? field value = some setting := Except.ok.inj (stands.symm.trans judged)
    cases field with
    | bufferSize =>
      obtain ⟨least, most⟩ : 1 ≤ value.toInt ∧ value.toInt ≤ 65536 := valid
      obtain rfl : value.toInt.toNat = setting := Option.some.inj same
      have size : 1 ≤ value.toInt.toNat ∧ value.toInt.toNat ≤ 65536 := by omega
      exact { range with bufferSize_pos := size.1, bufferSize_le := size.2 }
    | connectTimeout =>
      have positive : 0 < value.toInt := valid
      have most : value.toInt < 0x8000000000000000 := value.toInt_lt
      obtain rfl : value.toInt.toNat = setting := Option.some.inj same
      have timeout : 1 ≤ value.toInt.toNat ∧ value.toInt.toNat ≤ 0x7FFFFFFFFFFFFFFF := by omega
      exact { range with connectTimeout_pos := timeout.1, connectTimeout_le := timeout.2 }
    | _ => exact ⟨range.1, range.2, range.3, range.4⟩
  · simp [refused] at judged

theorem Reachable.inRange {s : Settings} (reachable : s.Reachable) : s.InRange := by
  induction reachable with
  | default => exact ⟨by decide, by decide, by decide, by decide⟩
  | apply files o _ range =>
    refine applyFields_keeps ?_ o Field.all range
    intro s field value setting judged range
    exact range.put judged

structure PlainPaths (s : Settings) : Prop where
  certificate : hasNul s.certFilePath = false
  key : hasNul s.keyFilePath = false

private theorem hasNul_of_exists {files : Files} {path : String}
    (there : files.exists path = .ok ()) : hasNul path = false := by
  cases broken : hasNul path with
  | false => rfl
  | true => simp [Files.exists, Files.find, broken, Except.map] at there

private theorem hasNul_of_pathFor {files : Files} {path path' : String} (valid : IsPath files path)
    (stands : pathFor? path = some path') : hasNul path' = false := by
  by_cases empty : path = ""
  · simp [pathFor?, empty] at stands
  · obtain rfl : path = path' := by simpa [pathFor?, empty] using stands
    exact hasNul_of_exists (valid.resolve_left empty)

private theorem PlainPaths.put {files : Files} {s : Settings} (plain : s.PlainPaths) {field : Field}
    {value : field.shape.Value} {setting : field.Setting}
    (judged : judge files field value = .ok (some setting)) : (s.put field setting).PlainPaths := by
  rcases judge_cases files field value with ⟨valid, stands⟩ | ⟨-, fault, refused, -⟩
  · have same : standsFor? field value = some setting := Except.ok.inj (stands.symm.trans judged)
    cases field with
    | certFilePath => exact ⟨hasNul_of_pathFor valid same, plain.key⟩
    | keyFilePath => exact ⟨plain.certificate, hasNul_of_pathFor valid same⟩
    | _ => exact ⟨plain.certificate, plain.key⟩
  · simp [refused] at judged

/-- A path gets into a record only if something stood there, so it has no NUL. -/
theorem Reachable.plainPaths {s : Settings} (reachable : s.Reachable) : s.PlainPaths := by
  induction reachable with
  | default => exact ⟨by decide, by decide⟩
  | apply files o _ plain =>
    refine applyFields_keeps ?_ o Field.all plain
    intro s field value setting judged plain
    exact plain.put judged

/-- In a record that sources lead to, only the addresses are left to be checked. -/
theorem InRange.validate {s : Settings} (range : s.InRange) :
    s.validate = if s.listenAddr = s.backendAddr then .error .sameAddresses else .ok () := by
  have nonzero : s.bufferSize ≠ 0 := Nat.ne_of_gt range.bufferSize_pos
  have within : ¬ maxBufferSize < s.bufferSize := Nat.not_lt.mpr range.bufferSize_le
  have waits : s.connectTimeout ≠ 0 := Nat.ne_of_gt range.connectTimeout_pos
  simp only [Settings.validate, nonzero, within, waits, if_false]

end Settings

/-- The buffers of every relay that settings describe can be allocated. -/
theorem Relay.ofSettings_fits (files : Files) (sources : List Settings.Overrides) :
    (Relay.ofSettings (Settings.default.after files sources)).pool.size ≤ maxAllocation := by
  have within := (Settings.Reachable.default.after files sources).inRange.bufferSize_le
  simp only [Relay.ofSettings, Pool.ofBytes, Settings.bufferSizeBytes, Settings.maxBufferSize,
    maxAllocation] at within ⊢
  omega

end StreamRelay
