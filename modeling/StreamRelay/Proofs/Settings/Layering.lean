import StreamRelay.Program
import StreamRelay.Proofs.Settings.Overrides
import StreamRelay.Proofs.Settings.Range

/-!
# Layers of settings

What a list of sources comes to, told setting by setting: the last source that sets it decides, and
without one the default stands. Taking sources over one after the other agrees with that, and it
fails with the earliest value that may not be given.
-/

set_option autoImplicit false
set_option relaxedAutoImplicit false

namespace StreamRelay.Settings

namespace Overrides

/-- Whether a source gives nothing for a setting or a value that may be given. -/
def IsValidAt (files : Files) (o : Overrides) (field : Field) : Prop :=
  ∀ value, o.get field = some value → Settings.IsValid files field value

def IsValid (files : Files) (o : Overrides) : Prop := ∀ field, o.IsValidAt files field

/-- What a source sets a setting to, if it does. -/
def sets? (o : Overrides) (field : Field) : Option field.Setting :=
  (o.get field).bind (standsFor? field)

/-- The fault of a source is found at the first of its settings at which a value is not valid. -/
def IsFault (files : Files) (o : Overrides) (fault : Fault) : Prop :=
  ∃ early field late value, Field.all = early ++ field :: late ∧
    (∀ other ∈ early, o.IsValidAt files other) ∧ o.get field = some value ∧
    ¬ Settings.IsValid files field value ∧ Settings.IsFault files field value fault

end Overrides

/-- The last source that sets a setting decides, and without one the default stands. -/
def layered (sources : List Overrides) (field : Field) : field.Setting :=
  ((sources.filterMap fun o => o.sets? field).getLast?).getD (default.get field)

theorem applyField_cases (files : Files) (o : Overrides) (s : Settings) (field : Field) :
    (o.IsValidAt files field ∧ ∃ log, applyField files o s field =
        .ok (((o.sets? field).map (s.put field)).getD s, log)) ∨
      ∃ value fault, o.get field = some value ∧ ¬ IsValid files field value ∧
        IsFault files field value fault ∧ applyField files o s field = .error fault := by
  cases given : o.get field with
  | none =>
    exact .inl ⟨by simp [Overrides.IsValidAt, given], [],
      by simp [applyField, given, Overrides.sets?]⟩
  | some value =>
    rcases judge_cases files field value with ⟨valid, judged⟩ | ⟨invalid, fault, judged, named⟩
    · refine .inl ⟨by simpa [Overrides.IsValidAt, given] using valid, ?_⟩
      cases stands : standsFor? field value with
      | none =>
        exact ⟨s.remark field value, by simp [applyField, given, judged, stands, Overrides.sets?]⟩
      | some setting =>
        exact ⟨[], by simp [applyField, given, judged, stands, Overrides.sets?]⟩
    · exact .inr ⟨value, fault, rfl, invalid, named, by simp [applyField, given, judged]⟩

private theorem get_sets (o : Overrides) (s : Settings) (field other : Field) :
    (((o.sets? field).map (s.put field)).getD s).get other =
      if other = field then (o.sets? other).getD (s.get other) else s.get other := by
  by_cases same : other = field
  · subst same
    cases o.sets? other <;> simp
  · cases o.sets? field with
    | none => simp [same]
    | some setting => simp [same, get_put_of_ne s setting same]

private theorem applyFields_cons_ok {files : Files} {o : Overrides} {s s' : Settings}
    {field : Field}
    {log : Log} (applied : applyField files o s field = .ok (s', log)) (fields : List Field) :
    (applyFields files o (field :: fields) s).fault = (applyFields files o fields s').fault ∧
      (applyFields files o (field :: fields) s).settings =
        (applyFields files o fields s').settings := by
  simp [applyFields, applied]

/-- Settings are taken over up to the first value that is not valid. -/
theorem applyFields_cases (files : Files) (o : Overrides) (fields : List Field) (s : Settings) :
    ((∀ field ∈ fields, o.IsValidAt files field) ∧ (applyFields files o fields s).fault = none ∧
        ∀ field, (applyFields files o fields s).settings.get field =
          if field ∈ fields then (o.sets? field).getD (s.get field) else s.get field) ∨
      ∃ fault early field late value, (applyFields files o fields s).fault = some fault ∧
        fields = early ++ field :: late ∧ (∀ other ∈ early, o.IsValidAt files other) ∧
        o.get field = some value ∧ ¬ IsValid files field value ∧
        IsFault files field value fault := by
  induction fields generalizing s with
  | nil => exact .inl ⟨by simp, rfl, by simp [applyFields]⟩
  | cons field fields ih =>
    rcases applyField_cases files o s field with ⟨valid, log, applied⟩ |
      ⟨value, fault, given, invalid, named, refused⟩
    · have onward := applyFields_cons_ok applied fields
      rcases ih (((o.sets? field).map (s.put field)).getD s) with ⟨all, none, each⟩ |
        ⟨fault, early, other, late, value, found, rfl, before, given, invalid, named⟩
      · refine .inl ⟨by simpa using ⟨valid, all⟩, onward.1.trans none, fun other => ?_⟩
        rw [onward.2, each other, get_sets]
        by_cases same : other = field
        · subst same
          cases o.sets? other <;> simp
        · simp [same]
      · exact .inr ⟨fault, field :: early, other, late, value, onward.1.trans found, rfl,
          by simpa using ⟨valid, before⟩, given, invalid, named⟩
    · exact .inr ⟨fault, [], field, fields, value, by simp [applyFields, refused], rfl, by simp,
        given, invalid, named⟩

theorem apply_cases (files : Files) (o : Overrides) (s : Settings) :
    (o.IsValid files ∧ (apply files o s).fault = none ∧
        ∀ field, (apply files o s).settings.get field = (o.sets? field).getD (s.get field)) ∨
      ∃ fault, (apply files o s).fault = some fault ∧ o.IsFault files fault := by
  rcases applyFields_cases files o Field.all s with ⟨valid, none, each⟩ |
    ⟨fault, early, field, late, value, found, split, before, given, invalid, named⟩
  · refine .inl ⟨fun field => valid field field.mem_all, none, fun field => ?_⟩
    exact (each field).trans (if_pos field.mem_all)
  · exact .inr ⟨fault, found, early, field, late, value, split, before, given, invalid, named⟩

theorem Overrides.IsFault.not_isValid {files : Files} {o : Overrides} {fault : Fault}
    (found : o.IsFault files fault) : ¬ o.IsValid files := by
  obtain ⟨-, field, -, value, -, -, given, invalid, -⟩ := found
  exact fun valid => invalid (valid field value given)

theorem getLast?_getD_cons {α : Type} (first : Option α) (later : List α) (start : α) :
    ((first.toList ++ later).getLast?).getD start = (later.getLast?).getD (first.getD start) := by
  cases first <;> simp [List.getLast?_cons]

theorem filterMap_cons_toList {α β : Type} (f : α → Option β) (a : α) (as : List α) :
    (a :: as).filterMap f = (f a).toList ++ as.filterMap f := by
  cases value : f a <;> simp [value]

private theorem applyAll_cases (files : Files) (sources : List Overrides) (s : Settings) :
    ((∀ o ∈ sources, o.IsValid files) ∧ (applyAll files sources s).fault = none ∧
        ∀ field, (applyAll files sources s).settings.get field =
          ((sources.filterMap fun o => o.sets? field).getLast?).getD (s.get field)) ∨
      ∃ fault before o later, (applyAll files sources s).fault = some fault ∧
        sources = before ++ o :: later ∧ (∀ p ∈ before, p.IsValid files) ∧
        o.IsFault files fault := by
  induction sources generalizing s with
  | nil => exact .inl ⟨by simp, rfl, by simp [applyAll]⟩
  | cons o sources ih =>
    rcases apply_cases files o s with ⟨valid, none, each⟩ | ⟨fault, found, named⟩
    · have onward : (applyAll files (o :: sources) s).fault =
          (applyAll files sources (apply files o s).settings).fault ∧
          (applyAll files (o :: sources) s).settings =
            (applyAll files sources (apply files o s).settings).settings := by
        simp [applyAll, none]
      rcases ih (apply files o s).settings with ⟨all, none, last⟩ |
        ⟨fault, before, p, later, found, rfl, earlier, named⟩
      · refine .inl ⟨by simpa using ⟨valid, all⟩, onward.1.trans none, fun field => ?_⟩
        rw [onward.2, last field, each field, filterMap_cons_toList, getLast?_getD_cons]
      · exact .inr ⟨fault, o :: before, p, later, onward.1.trans found, rfl,
          by simpa using ⟨valid, earlier⟩, named⟩
    · exact .inr ⟨fault, [], o, sources, by simp [applyAll, found], rfl, by simp, named⟩

theorem resolve_cases (files : Files) (sources : List Overrides) :
    ((∀ o ∈ sources, o.IsValid files) ∧ ∃ s : Settings,
        (∀ field, s.get field = layered sources field) ∧
          (resolve files sources).1 =
            if layered sources .listenAddr = layered sources .backendAddr then
              .error .sameAddresses
            else .ok s) ∨
      ∃ fault before o later, (resolve files sources).1 = .error fault ∧
        sources = before ++ o :: later ∧ (∀ p ∈ before, p.IsValid files) ∧
        o.IsFault files fault := by
  rcases applyAll_cases files sources default with ⟨valid, none, last⟩ |
    ⟨fault, before, o, later, found, split, earlier, named⟩
  · have range := (Reachable.default.applyAll files sources).inRange
    have listen : (applyAll files sources default).settings.listenAddr =
        layered sources .listenAddr := last .listenAddr
    have backend : (applyAll files sources default).settings.backendAddr =
        layered sources .backendAddr := last .backendAddr
    refine .inl ⟨valid, (applyAll files sources default).settings, last, ?_⟩
    simp only [resolve, none, range.validate, listen, backend]
    split <;> rfl
  · have refused : (resolve files sources).1 = .error fault := by simp [resolve, found]
    exact .inr ⟨fault, before, o, later, refused, split, earlier, named⟩

private theorem settings_eq_resolve (files : Files) (env : Environment)
    (arguments : CommandLine.Arguments) :
    Program.settings files env arguments = (do
      let file ← arguments.configFile.toList.mapM (fromFile files)
      let environment ← fromEnvironment env defaultStem
      (resolve files (file ++ [environment, arguments.overrides])).1) := by
  simp only [Program.settings, Source.loadAll, Program.sources]
  cases arguments.configFile with
  | none =>
    simp only [Option.toList_none, List.map_nil, List.nil_append, List.mapM_cons, List.mapM_nil,
      Source.load]
    cases fromEnvironment env defaultStem <;> rfl
  | some path =>
    simp only [Option.toList_some, List.map_cons, List.map_nil, List.cons_append, List.nil_append,
      List.mapM_cons, List.mapM_nil, Source.load]
    cases fromFile files path <;> cases fromEnvironment env defaultStem <;> rfl

/-- Each setting is what the last source sets it to, and the first bad value is reported. -/
theorem resolve_layers (files : Files) (sources : List Overrides) :
    ((∃ s, (resolve files sources).1 = .ok s) ↔
        (∀ o ∈ sources, o.IsValid files) ∧
          layered sources .listenAddr ≠ layered sources .backendAddr) ∧
      (∀ s, (resolve files sources).1 = .ok s → ∀ field, s.get field = layered sources field) ∧
      (∀ fault, (resolve files sources).1 = .error fault →
        (∃ before o later, sources = before ++ o :: later ∧ (∀ p ∈ before, p.IsValid files) ∧
            o.IsFault files fault) ∨
          (∀ o ∈ sources, o.IsValid files) ∧ fault = .sameAddresses) ∧
      ∀ env arguments, Program.settings files env arguments = (do
        let file ← arguments.configFile.toList.mapM (fromFile files)
        let environment ← fromEnvironment env defaultStem
        (resolve files (file ++ [environment, arguments.overrides])).1) := by
  rcases resolve_cases files sources with ⟨valid, s, layers, outcome⟩ |
    ⟨fault, before, o, later, outcome, split, earlier, named⟩
  · by_cases same : layered sources .listenAddr = layered sources .backendAddr
    · rw [if_pos same] at outcome
      refine ⟨⟨fun ⟨s, resolved⟩ => ?_, fun ⟨_, differ⟩ => absurd same differ⟩, ?_, ?_,
        settings_eq_resolve files⟩
      · simp [outcome] at resolved
      · intro s resolved
        simp [outcome] at resolved
      · intro fault refused
        exact .inr ⟨valid, (Except.error.inj (outcome.symm.trans refused)).symm⟩
    · rw [if_neg same] at outcome
      refine ⟨⟨fun _ => ⟨valid, same⟩, fun _ => ⟨s, outcome⟩⟩, ?_, ?_, settings_eq_resolve files⟩
      · intro s' resolved
        obtain rfl := Except.ok.inj (outcome.symm.trans resolved)
        exact layers
      · intro fault refused
        simp [outcome] at refused
  · have invalid : ¬ ∀ o ∈ sources, o.IsValid files := fun valid =>
      named.not_isValid (valid o (by simp [split]))
    refine ⟨⟨fun ⟨s, resolved⟩ => ?_, fun ⟨valid, _⟩ => absurd valid invalid⟩, ?_, ?_,
      settings_eq_resolve files⟩
    · simp [outcome] at resolved
    · intro s resolved
      simp [outcome] at resolved
    · intro fault' refused
      obtain rfl := Except.error.inj (outcome.symm.trans refused)
      exact .inl ⟨before, o, later, split, earlier, named⟩

/-- A level in capitals and an address, and behind them a level that there is none of. -/
def loudDebug : List Overrides :=
  [{ logLevel := some "DEBUG", listenAddr := some " :80 " }, { logLevel := some "LOUD" }]

def mendedSize : List Overrides :=
  [{ bufferSize := some 0 }, { bufferSize := some 8, listenAddr := some "nowhere" }]

theorem resolve_layers_loudDebug :
    (∃ s, (resolve ⟨[], []⟩ loudDebug).1 = .ok s ∧ s.logLevel = .debug ∧ s.listenAddr = ":80" ∧
        s.bufferSize = default.bufferSize) ∧
      (resolve ⟨[], []⟩ mendedSize).1 = .error (.notPositive .bufferSize) := by
  constructor
  · obtain ⟨resolves, layers, -⟩ := resolve_layers ⟨[], []⟩ loudDebug
    have listen : layered loudDebug .listenAddr = ":80" := by decide +kernel
    have valid : ∀ o ∈ loudDebug, o.IsValid ⟨[], []⟩ := by
      intro o member field value given
      rcases List.mem_cons.mp member with rfl | member
      · cases field <;> cases given
        · exact .inr ⟨":80", rfl⟩
        · trivial
      · obtain rfl := List.mem_singleton.mp member
        cases field <;> cases given
        trivial
    obtain ⟨s, resolved⟩ := resolves.mpr ⟨valid, by rw [listen]; decide +kernel⟩
    have each := layers s resolved
    refine ⟨s, resolved, (each .logLevel).trans ?_, (each .listenAddr).trans listen,
      each .bufferSize⟩
    decide +kernel
  · obtain ⟨resolves, -, refuses, -⟩ := resolve_layers ⟨[], []⟩ mendedSize
    have bad : ¬ Overrides.IsValid ⟨[], []⟩ { bufferSize := some 0 } := fun valid =>
      absurd (valid .bufferSize (0 : Int64) rfl).1 (by decide)
    cases outcome : (resolve ⟨[], []⟩ mendedSize).1 with
    | ok s => exact absurd ((resolves.mp ⟨s, outcome⟩).1 _ (.head _)) bad
    | error fault =>
      rcases refuses fault outcome with ⟨before, o, later, split, earlier, named⟩ | ⟨valid, -⟩
      · cases before with
        | cons first before =>
          obtain ⟨rfl, -⟩ := List.cons.inj split
          exact absurd (earlier _ (.head _)) bad
        | nil =>
          obtain ⟨rfl, -⟩ := List.cons.inj split
          obtain ⟨-, field, -, value, -, -, given, -, reported⟩ := named
          cases field <;> cases given
          rcases reported with ⟨-, rfl⟩ | ⟨large, -⟩
          · rfl
          · exact absurd large (by decide)
      · exact absurd (valid _ (.head _)) bad

end StreamRelay.Settings
