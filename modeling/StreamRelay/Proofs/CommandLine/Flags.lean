import StreamRelay.CommandLine.Arguments
import StreamRelay.Proofs.Settings.Overrides

set_option autoImplicit false
set_option relaxedAutoImplicit false

namespace StreamRelay.CommandLine

open Settings (Field Overrides Shape)

/-- The arguments that give a setting a value; one that looks like a flag needs an equals sign. -/
inductive Gives (field : Field) (text : String) : List String → Prop
  | switch : field.shape = .switch → text = "true" →
      Gives field text ["--" ++ (Flag.setting field).name]
  | joined : field.shape ≠ .switch →
      Gives field text ["--" ++ (Flag.setting field).name ++ "=" ++ text]
  | apart : field.shape ≠ .switch → (∀ c cs, text.toList ≠ '-' :: c :: cs) →
      Gives field text ["--" ++ (Flag.setting field).name, text]

inductive GivesAll (o : Overrides) : List Field → List String → Prop
  | nil : GivesAll o [] []
  | cons {field : Field} {fields : List Field} {value : field.shape.Value}
      {texts rest : List String} : o.get field = some value →
      (field.shape = .path → field.shape.plain value ≠ "") →
      Gives field (field.shape.plain value) texts → GivesAll o fields rest →
      GivesAll o (field :: fields) (texts ++ rest)

private theorem Flag.named?_name (field : Field) :
    Flag.named? (Flag.setting field).name = some (.setting field) := by
  cases field <;> decide +kernel

private theorem Flag.name_plain (field : Field) :
    '=' ∉ (Flag.setting field).name.toList ∧ (Flag.setting field).name ≠ "help" ∧
      (Flag.setting field).name ≠ "version" := by
  cases field <;> decide

private theorem splitFlag_append {name : List Char} (plain : '=' ∉ name) (value : List Char) :
    splitFlag (name ++ '=' :: value) = (String.ofList name, some (String.ofList value)) := by
  have before : (name ++ '=' :: value).takeWhile (· ≠ '=') = name := by
    have passed : ∀ c ∈ name, decide (c ≠ '=') = true := by
      intro c member
      apply decide_eq_true
      rintro rfl
      exact plain member
    rw [List.takeWhile_append_of_pos passed, List.takeWhile_cons_of_neg (by decide),
      List.append_nil]
  simp only [splitFlag, before, List.drop_left]

private theorem ofText_flag (field : Field) :
    Argument.ofText ("--" ++ (Flag.setting field).name) = .flag (Flag.setting field).name none := by
  cases field <;> decide

private theorem ofText_joined (field : Field) (value : String) :
    Argument.ofText ("--" ++ (Flag.setting field).name ++ "=" ++ value) =
      .flag (Flag.setting field).name (some value) := by
  have chars : ("--" ++ (Flag.setting field).name ++ "=" ++ value).toList =
      '-' :: '-' :: ((Flag.setting field).name.toList ++ '=' :: value.toList) := by
    simp
  have split := splitFlag_append (Flag.name_plain field).1 value.toList
  unfold Argument.ofText
  rw [chars]
  split
  · simp_all
  · rename_i same
    cases same
    rw [split, String.ofList_toList, String.ofList_toList]
  · rename_i other same
    cases same
    exact absurd rfl other
  · simp_all

private theorem ofText_plain {text : String} (plain : ∀ c cs, text.toList ≠ '-' :: c :: cs) :
    Argument.ofText text = .plain text := by
  unfold Argument.ofText
  split
  · exact absurd ‹_› (plain _ _)
  · exact absurd ‹_› (plain _ _)
  · exact absurd ‹_› (plain _ _)
  · rfl

private theorem readFrom_flag {reading next : Reading} {text name : String} {value : Option String}
    (told : Argument.ofText text = .flag name value) (help : name ≠ "help")
    (version : name ≠ "version") (read : reading.flag name value = .ok next) (rest : List String) :
    readFrom reading (text :: rest) = readFrom next rest := by
  rw [readFrom.eq_def]
  simp only [told]
  split
  case h_6 same =>
    cases same
    rw [read]
  all_goals first | contradiction | (rename_i same; cases same; contradiction)

private theorem readFrom_plain {reading : Reading} {text : String} {flag : Flag}
    (told : Argument.ofText text = .plain text) (waits : reading.waiting = some (flag, none))
    (rest : List String) :
    readFrom reading (text :: rest) =
      readFrom { reading with waiting := some (flag, some text) } rest := by
  rw [readFrom.eq_def]
  simp only [told, waits]

private theorem judge_plain {field : Field} {value : field.shape.Value}
    (other : field.shape ≠ .switch) (path : field.shape = .path → field.shape.plain value ≠ "") :
    judge (.setting field) (field.shape.plain value) = .ok value := by
  cases field with
  | listenAddr | backendAddr | logLevel => rfl
  | certFilePath | keyFilePath =>
    have filled : ¬ String.isEmpty value = true := by
      intro empty
      exact path rfl (String.isEmpty_iff.mp empty)
    exact if_neg filled
  | tlsEnabled => contradiction
  | bufferSize | connectTimeout =>
    have read := Number.readSigned_decimal value
    rw [← String.toList_ofList (l := Number.decimal _)] at read
    exact congrArg (Except.mapError _) read

private theorem judge_switch {field : Field} {value : field.shape.Value}
    (switch : field.shape = .switch) (on : field.shape.plain value = "true") (text : String) :
    judge (.setting field) text = .ok value := by
  cases field with
  | tlsEnabled =>
    cases value with
    | true => rfl
    | false => contradiction
  | _ => contradiction

section

variable {field : Field} (reading : Reading)

private theorem Reading.flag_switch (shape : field.shape = .switch) :
    reading.flag (Flag.setting field).name none =
      reading.andThen (Reading.takeNow (.setting field) "") := by
  simp only [Reading.flag, Flag.named?_name, Flag.shape, shape]

private theorem Reading.flag_value (shape : field.shape ≠ .switch) (text : String) :
    reading.flag (Flag.setting field).name (some text) =
      reading.andThen (Reading.takeNow (.setting field) text) := by
  simp only [Reading.flag, Flag.named?_name, Flag.shape]

private theorem Reading.flag_alone (shape : field.shape ≠ .switch) :
    reading.flag (Flag.setting field).name none =
      reading.andThen fun reading =>
        .ok { reading with waiting := some (.setting field, none) } := by
  simp only [Reading.flag, Flag.named?_name, Flag.shape]

end

/-- Flags that give the values of some overrides. A switch is on or not given at all. -/
structure Arguments.Give (arguments : Arguments) (o : Overrides) : Prop where
  listen : arguments.listen = o.listenAddr
  backend : arguments.backend = o.backendAddr
  bufferSize : arguments.bufferSize = o.bufferSize
  on : arguments.tlsEnabled = true → o.tlsEnabled = some true
  off : arguments.tlsEnabled = false → o.tlsEnabled = none
  certFilePath : arguments.certFilePath = o.certFilePath
  keyFilePath : arguments.keyFilePath = o.keyFilePath
  connectTimeout : arguments.connectTimeout = o.connectTimeout
  logLevel : arguments.logLevel = o.logLevel

theorem Arguments.overrides_eq_iff {arguments : Arguments} {o : Overrides} :
    arguments.overrides = o ↔ arguments.Give o := by
  constructor
  · rintro rfl
    exact ⟨rfl, rfl, rfl, fun on => if_pos on, fun off => if_neg (by simp [off]), rfl, rfl, rfl,
      rfl⟩
  · intro give
    have switch : (if arguments.tlsEnabled then some true else none) = o.tlsEnabled := by
      cases on : arguments.tlsEnabled with
      | true => exact (give.on on).symm
      | false => exact (give.off on).symm
    simp only [Arguments.overrides, switch, give.listen, give.backend, give.bufferSize,
      give.certFilePath, give.keyFilePath, give.connectTimeout, give.logLevel]

def Arguments.giving (o : Overrides) : Arguments where
  listen := o.listenAddr
  backend := o.backendAddr
  bufferSize := o.bufferSize
  tlsEnabled := o.tlsEnabled == some true
  certFilePath := o.certFilePath
  keyFilePath := o.keyFilePath
  connectTimeout := o.connectTimeout
  logLevel := o.logLevel

theorem Arguments.overrides_giving {o : Overrides} (kept : o.tlsEnabled ≠ some false) :
    (Arguments.giving o).overrides = o := by
  obtain ⟨listenAddr, backendAddr, bufferSize, tlsEnabled⟩ := o
  cases tlsEnabled with
  | none => rfl
  | some on =>
    cases on with
    | false => exact absurd rfl kept
    | true => rfl

private theorem Arguments.put_giving (o : Overrides) (field : Field) (value : field.shape.Value) :
    (Arguments.giving o).put (.setting field) value =
      Arguments.giving (o.set field (some value)) := by
  cases field with
  | tlsEnabled => cases value <;> rfl
  | _ => rfl

def Reading.holding (o : Overrides) (named : List Field) : Reading :=
  { arguments := .giving o, given := named.map .setting }

/-- What is read so far comes to `o` once what is waiting is judged. -/
def Reading.Comes (reading : Reading) (o : Overrides) (named : List Field) : Prop :=
  reading.settle = (Reading.holding o named, none)

private theorem Reading.take_setting {o : Overrides} {named : List Field} {field : Field}
    {value : field.shape.Value} {text : String} (fresh : field ∉ named)
    (judged : judge (.setting field) text = .ok value) :
    (Reading.holding o named).take (.setting field) text =
      (Reading.holding (o.set field (some value)) (named ++ [field]), none) := by
  have unnamed : (named.map Flag.setting).contains (.setting field) = false := by
    simpa using fresh
  simp only [Reading.take, Reading.holding, unnamed, judged, Arguments.put_giving,
    List.map_append, List.map_cons, List.map_nil]
  rfl

private theorem Reading.Comes.andThen {reading : Reading} {o : Overrides} {named : List Field}
    (comes : reading.Comes o named) (next : Reading → Except Fault Reading) :
    reading.andThen next = next (Reading.holding o named) := by
  simp only [Reading.andThen, show reading.settle = _ from comes]

private theorem Gives.read {o : Overrides} {field : Field} {value : field.shape.Value}
    {texts : List String} (gives : Gives field (field.shape.plain value) texts)
    (path : field.shape = .path → field.shape.plain value ≠ "") {reading : Reading}
    {named : List Field} (comes : reading.Comes o named) (fresh : field ∉ named)
    (rest : List String) :
    ∃ next : Reading, readFrom reading (texts ++ rest) = readFrom next rest ∧
      next.Comes (o.set field (some value)) (named ++ [field]) := by
  obtain ⟨-, help, version⟩ := Flag.name_plain field
  cases gives with
  | switch shape on =>
    have taken := Reading.take_setting (o := o) fresh (judge_switch shape on "")
    refine ⟨Reading.holding _ _, readFrom_flag (ofText_flag field) help version ?_ rest, rfl⟩
    rw [reading.flag_switch shape, comes.andThen, Reading.takeNow, taken]
  | joined shape =>
    have taken := Reading.take_setting (o := o) fresh (judge_plain shape path)
    refine ⟨Reading.holding _ _, readFrom_flag (ofText_joined field _) help version ?_ rest, rfl⟩
    rw [reading.flag_value shape, comes.andThen, Reading.takeNow, taken]
  | apart shape plain =>
    have taken := Reading.take_setting (o := o) fresh (judge_plain shape path)
    refine ⟨{ Reading.holding o named with
      waiting := some (.setting field, some (field.shape.plain value)) }, ?_, taken⟩
    have waits : reading.flag (Flag.setting field).name none =
        .ok { Reading.holding o named with waiting := some (.setting field, none) } := by
      rw [reading.flag_alone shape, comes.andThen]
    rw [List.cons_append, readFrom_flag (ofText_flag field) help version waits]
    exact readFrom_plain (ofText_plain plain) rfl rest

private theorem GivesAll.readFrom {o : Overrides} {fields : List Field} {texts : List String}
    (gives : GivesAll o fields texts) (distinct : fields.Nodup) {start : Overrides}
    {reading : Reading} {named : List Field} (comes : reading.Comes start named)
    (fresh : ∀ field ∈ fields, field ∉ named) :
    CommandLine.readFrom reading texts = .ok (.run (.giving (o.copied start fields))) := by
  -- A value in an argument of its own is judged only later, so the states are compared settled.
  induction gives generalizing start reading named with
  | nil =>
    rw [CommandLine.readFrom.eq_def]
    simp only [show reading.settle = _ from comes]
    rfl
  | @cons field fields value texts rest given path gives _ ih =>
    obtain ⟨absent, distinct⟩ := List.nodup_cons.mp distinct
    obtain ⟨next, read, comes⟩ :=
      gives.read path comes (fresh field (List.mem_cons_self ..)) rest
    have fresh' : ∀ other ∈ fields, other ∉ named ++ [field] := by
      intro other listed member
      rcases List.mem_append.mp member with earlier | last
      · exact fresh other (List.mem_cons_of_mem _ listed) earlier
      · cases List.mem_singleton.mp last
        exact absent listed
    rw [read, ih distinct comes fresh', ← given]
    rfl

private theorem GivesAll.tlsEnabled {o : Overrides} {fields : List Field} {texts : List String}
    (gives : GivesAll o fields texts) (listed : .tlsEnabled ∈ fields) :
    o.tlsEnabled = some true := by
  induction gives with
  | nil => cases listed
  | @cons field fields value texts rest given path gives _ ih =>
    rcases List.mem_cons.mp listed with rfl | later
    · cases gives with
      | switch _ on =>
        cases value with
        | true => exact given
        | false => contradiction
      | joined other => exact absurd rfl other
      | apart other => exact absurd rfl other
    · exact ih later

theorem GivesAll.read {o : Overrides} {fields : List Field} {texts : List String}
    (gives : GivesAll o fields texts) (distinct : fields.Nodup)
    (covered : ∀ field, o.get field ≠ none → field ∈ fields) :
    CommandLine.read texts = .ok (.run (.giving o)) ∧ (Arguments.giving o).overrides = o := by
  have comes : Reading.Comes {} .unset [] := rfl
  refine ⟨?_, Arguments.overrides_giving fun off => ?_⟩
  · rw [CommandLine.read, gives.readFrom distinct comes fun field _ => List.not_mem_nil,
      Overrides.copied_unset covered]
  · have listed : .tlsEnabled ∈ fields := covered .tlsEnabled fun unset => by
      cases off.symm.trans unset
    rw [gives.tlsEnabled listed] at off
    cases off

end StreamRelay.CommandLine
