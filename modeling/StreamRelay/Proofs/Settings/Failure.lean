import StreamRelay.Proofs.Settings.Layering

set_option autoImplicit false
set_option relaxedAutoImplicit false

namespace StreamRelay.Settings

/-- Whether a value says nothing: a blank text or an empty path. -/
def IsVacant : (field : Field) → field.shape.Value → Prop
  | .listenAddr, text | .backendAddr, text | .logLevel, text => Text.isBlankText text = true
  | .certFilePath, path | .keyFilePath, path => path = ""
  | .bufferSize, _ | .tlsEnabled, _ | .connectTimeout, _ => False

/-- Whether a source says nothing about a setting. -/
def Overrides.IsVacantAt (o : Overrides) (field : Field) : Prop :=
  ∀ value, o.get field = some value → IsVacant field value

private theorem applyField_of_isVacantAt {o : Overrides} {field : Field}
    (vacant : o.IsVacantAt field)
    (files : Files) (s : Settings) : applyField files o s field = .ok (s, []) := by
  cases given : o.get field with
  | none => simp [applyField, given]
  | some value =>
    have empty := vacant value given
    rw [applyField, given]
    cases field with
    | listenAddr | backendAddr | logLevel =>
      have blank : Text.isBlankText value = true := empty
      simp [judge, judgeAddress, judgeLevel, remark, blank]
    | certFilePath | keyFilePath =>
      obtain rfl : value = "" := empty
      simp [judge, judgePath, remark]
    | bufferSize | tlsEnabled | connectTimeout => exact empty.elim

section

variable {o p : Overrides} {fields : List Field}

private theorem applyFields_of_isVacantAt (vacant : ∀ field ∈ fields, o.IsVacantAt field)
    (files : Files) (s : Settings) : applyFields files o fields s = ⟨s, [], none⟩ := by
  induction fields with
  | nil => rfl
  | cons field fields ih =>
    rw [List.forall_mem_cons] at vacant
    simp only [applyFields, applyField_of_isVacantAt vacant.1, ih vacant.2, List.append_nil]

private theorem applyFields_congr (same : ∀ field ∈ fields, o.get field = p.get field)
    (files : Files)
    (s : Settings) : applyFields files o fields s = applyFields files p fields s := by
  induction fields generalizing s with
  | nil => rfl
  | cons field fields ih =>
    rw [List.forall_mem_cons] at same
    simp only [applyFields, applyField, same.1, ih same.2]

private theorem applyFields_append {files : Files} {s : Settings}
    (through : (applyFields files o fields s).fault = none) (more : List Field) :
    applyFields files o (fields ++ more) s =
      { applyFields files o more (applyFields files o fields s).settings with
        log := (applyFields files o fields s).log ++
          (applyFields files o more (applyFields files o fields s).settings).log } := by
  induction fields generalizing s with
  | nil => simp [applyFields]
  | cons field fields ih =>
    simp only [List.cons_append, applyFields] at through ⊢
    cases applied : applyField files o s field with
    | error fault => simp [applied] at through
    | ok outcome =>
      simp only [applied] at through
      simp only [ih through, List.append_assoc]

private theorem applyFields_append_of_fault {files : Files} {s : Settings}
    (failed : (applyFields files o fields s).fault ≠ none) (more : List Field) :
    applyFields files o (fields ++ more) s = applyFields files o fields s := by
  induction fields generalizing s with
  | nil => simp [applyFields] at failed
  | cons field fields ih =>
    simp only [List.cons_append, applyFields] at failed ⊢
    cases applied : applyField files o s field with
    | error fault => rfl
    | ok outcome =>
      simp only [applied] at failed
      simp only [ih failed]

private theorem applyFields_of_isValidAt {files : Files}
    (valid : ∀ field ∈ fields, o.IsValidAt files field)
    (s : Settings) : (applyFields files o fields s).fault = none ∧
      ∀ field ∉ fields, (applyFields files o fields s).settings.get field = s.get field := by
  rcases applyFields_cases files o fields s with ⟨-, through, each⟩ |
    ⟨-, early, field, late, value, -, rfl, -, given, invalid, -⟩
  · exact ⟨through, fun field other => (each field).trans (if_neg other)⟩
  · exact absurd (valid field (by simp) value given) invalid

end

private theorem Field.not_mem_of_split {early late : List Field} (split : Field.all = early ++ late)
    {field : Field} (member : field ∈ late) : field ∉ early := by
  have distinct : (early ++ late).Nodup := split ▸ by decide
  exact fun earlier => (List.nodup_append.mp distinct).2.2 field earlier field member rfl

variable {files : Files} {o : Overrides} {s : Settings}

private theorem apply_eq_of_fault {fault : Fault} (failed : (apply files o s).fault = some fault) :
    ∃ early field late value, Field.all = early ++ field :: late ∧
      (∀ other ∈ early, o.IsValidAt files other) ∧ o.get field = some value ∧
      ¬ IsValid files field value ∧ IsFault files field value fault ∧
      apply files o s = { applyFields files o early s with fault := some fault } := by
  rcases applyFields_cases files o Field.all s with ⟨-, through, -⟩ |
    ⟨fault', early, field, late, value, found, split, valid, given, invalid, named⟩
  · exact absurd (through.symm.trans failed) (by simp)
  · obtain rfl : fault' = fault := Option.some.inj (found.symm.trans failed)
    refine ⟨early, field, late, value, split, valid, given, invalid, named, ?_⟩
    have whole := applyFields_append (applyFields_of_isValidAt valid s).1 (field :: late)
    rw [← split] at whole
    rcases applyField_cases files o (applyFields files o early s).settings field with
      ⟨fine, -⟩ | ⟨-, fault, -, -, -, refused⟩
    · exact absurd (fine value given) invalid
    · simp only [applyFields, refused, List.append_nil] at whole
      have same := congrArg Applied.fault whole
      rw [apply, whole]
      obtain rfl : fault = fault' := Option.some.inj (same.symm.trans failed)
      rfl

private theorem apply_copied {early late : List Field} (split : Field.all = early ++ late)
    (through : (applyFields files o early s).fault = none) :
    apply files (o.copied .unset early) s = applyFields files o early s := by
  have same : applyFields files (o.copied .unset early) early s = applyFields files o early s := by
    refine applyFields_congr (fun field member => ?_) files s
    rw [Overrides.get_copied, if_pos member]
  have vacant : ∀ field ∈ late, (o.copied .unset early).IsVacantAt field := by
    intro field member value given
    rw [Overrides.get_copied, if_neg (Field.not_mem_of_split split member),
      Overrides.get_unset] at given
    cases given
  have whole := applyFields_append (same ▸ through) late
  rw [← split, applyFields_of_isVacantAt vacant, same, List.append_nil, ← through] at whole
  exact whole

private theorem apply_fault_set_level (level : Option String) :
    (apply files (o.set .logLevel level) s).fault = (apply files o s).fault := by
  obtain ⟨front, split, apart⟩ :
      ∃ front, Field.all = front ++ [.logLevel] ∧ .logLevel ∉ front :=
    ⟨Field.all.dropLast, rfl, by decide⟩
  have same : applyFields files (o.set .logLevel level) front s = applyFields files o front s := by
    refine applyFields_congr (fun field member => ?_) files s
    have other : field ≠ .logLevel := by
      rintro rfl
      exact apart member
    exact o.get_set_of_ne level other
  have harmless (p : Overrides) (s : Settings) :
      (applyFields files p [.logLevel] s).fault = none := by
    refine (applyFields_of_isValidAt ?_ s).1
    rintro field member value -
    obtain rfl := List.mem_singleton.mp member
    exact trivial
  rw [apply, apply, split]
  by_cases through : (applyFields files o front s).fault = none
  · rw [applyFields_append through, applyFields_append (same ▸ through), harmless, harmless]
  · rw [applyFields_append_of_fault through, applyFields_append_of_fault (same ▸ through), same]

/-- A source is taken over up to its first value that is not valid, and fails with its fault. -/
theorem apply_stops_at_fault (files : Files) (o : Overrides) (s : Settings) :
    ((apply files o s).fault = none ↔ o.IsValid files) ∧
      (∀ fault, (apply files o s).fault = some fault → ∃ early field late value,
        Field.all = early ++ field :: late ∧ (∀ other ∈ early, o.IsValidAt files other) ∧
          o.get field = some value ∧ ¬ IsValid files field value ∧
          IsFault files field value fault ∧
          (apply files (o.copied .unset early) s).fault = none ∧
          (apply files o s).log = (apply files (o.copied .unset early) s).log ∧
          (∀ other ∈ early, (apply files o s).settings.get other =
            (apply files (o.copied .unset early) s).settings.get other) ∧
          ∀ other ∈ field :: late, (apply files o s).settings.get other = s.get other) ∧
      (∀ level, (apply files (o.set .logLevel level) s).fault = (apply files o s).fault) ∧
      ((∀ field, o.IsVacantAt field) → apply files o s = ⟨s, [], none⟩) := by
  refine ⟨?_, fun fault failed => ?_, fun level => apply_fault_set_level level, fun vacant => ?_⟩
  · rcases apply_cases files o s with ⟨valid, through, -⟩ | ⟨fault, failed, named⟩
    · exact ⟨fun _ => valid, fun _ => through⟩
    · refine ⟨fun through => ?_, fun valid => absurd valid named.not_isValid⟩
      rw [failed] at through
      cases through
  · obtain ⟨early, field, late, value, split, valid, given, invalid, named, whole⟩ :=
      apply_eq_of_fault failed
    obtain ⟨through, kept⟩ := applyFields_of_isValidAt valid s
    have only := apply_copied split through
    refine ⟨early, field, late, value, split, valid, given, invalid, named, ?_⟩
    rw [only, whole]
    exact ⟨through, rfl, fun _ _ => rfl,
      fun other member => kept other (Field.not_mem_of_split split member)⟩
  · exact applyFields_of_isVacantAt (fun field _ => vacant field) files s

/-- The address is taken over in its normal form, the timeout behind the buffer size is not. -/
def noBuffer : Overrides :=
  { listenAddr := some "[::1]:+080", bufferSize := some 0, connectTimeout := some 9 }

theorem apply_stops_at_fault_noBuffer :
    let applied := apply ⟨[], []⟩ noBuffer .default
    applied.fault = some (.notPositive .bufferSize) ∧ applied.settings.listenAddr = "[::1]:80" ∧
      applied.settings.connectTimeout = 5 ∧
      (apply ⟨[], []⟩ (noBuffer.set .logLevel (some "loud")) .default).fault = applied.fault := by
  intro applied
  obtain ⟨-, -, level, -⟩ := apply_stops_at_fault ⟨[], []⟩ noBuffer .default
  exact ⟨rfl, by decide, by decide, level (some "loud")⟩

end StreamRelay.Settings
