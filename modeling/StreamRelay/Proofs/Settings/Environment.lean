import StreamRelay.Proofs.Settings.Overrides
import StreamRelay.Proofs.Text.Blank
import StreamRelay.Proofs.Text.Utf8
import StreamRelay.Settings.Source

set_option autoImplicit false
set_option relaxedAutoImplicit false

namespace StreamRelay

namespace Text

private theorem isBlank_of_mem_decimal {n : Int} {c : Char} (member : c ∈ Number.decimal n) :
    isBlank c = false := by
  have digit {c : Char} (digit : c.isDigit = true) : isBlank c = false := by
    have bounds := Char.isDigit_iff_toNat.mp digit
    have table : ∀ n ≤ '9'.toNat, '0'.toNat ≤ n → blankRanges.covers n = false := by decide
    exact table c.toNat bounds.2 bounds.1
  unfold Number.decimal at member
  split at member
  · rcases List.mem_cons.mp member with rfl | member
    · decide
    · exact digit (Number.isDigit_of_mem_toDigits member)
  · exact digit (Number.isDigit_of_mem_toDigits member)

end Text

namespace Settings

def Environment.Holds (env : Environment) (stem : String) (o : Overrides) : Prop :=
  ∀ field, env.lookup (stem ++ "_" ++ field.variable) =
    (o.get field).map fun value => Bytes.ofText (field.shape.plain value)

variable {env : Environment} {stem : String} {o : Overrides}

private theorem Environment.Holds.text? (holds : env.Holds stem o) (field : Field) :
    env.text? stem field = (o.get field).map field.shape.plain := by
  rw [Environment.text?, holds field]
  cases o.get field with
  | none => rfl
  | some value => exact Text.Utf8.text?_ofText _

private theorem readSigned_plain (n : Int64) :
    Number.readSigned (Text.trimChars (Shape.plain .number n).toList) = .ok n := by
  rw [Shape.plain, String.toList_ofList,
    Text.trimChars_eq_self fun c member => Text.isBlank_of_mem_decimal member,
    Number.readSigned_decimal]

private theorem isTrue_plain (on : Bool) : isTrue (Shape.plain .switch on) = on := by
  cases on <;> decide

private theorem Environment.Holds.number? (holds : env.Holds stem o) {field : Field}
    (quantity : Quantity) {number : Option Int64}
    (given : (o.get field).map field.shape.plain = number.map (Shape.plain .number)) :
    env.number? stem field quantity = .ok number := by
  rw [Environment.number?, holds.text?, given]
  cases number with
  | none => rfl
  | some n => simp only [Option.map_some, readSigned_plain]

theorem fromEnvironment_holds (holds : env.Holds stem o) : fromEnvironment env stem = .ok o := by
  have size : env.number? stem .bufferSize .bufferSize = .ok o.bufferSize :=
    holds.number? .bufferSize rfl
  have timeout : env.number? stem .connectTimeout .connectTimeout = .ok o.connectTimeout :=
    holds.number? .connectTimeout rfl
  have plain (value : Option String) : value.map (Shape.plain .text) = value := by
    cases value <;> rfl
  have switch (value : Option Bool) : (value.map (Shape.plain .switch)).map isTrue = value := by
    cases value with
    | none => rfl
    | some on => exact congrArg some (isTrue_plain on)
  simp only [fromEnvironment, size, timeout, holds.text?, bind, Except.bind, pure, Except.pure]
  apply congrArg Except.ok
  apply Overrides.eq_of_get
  intro field
  cases field with
  | listenAddr => exact plain o.listenAddr
  | backendAddr => exact plain o.backendAddr
  | bufferSize => rfl
  | tlsEnabled => exact switch o.tlsEnabled
  | certFilePath => exact plain o.certFilePath
  | keyFilePath => exact plain o.keyFilePath
  | connectTimeout => rfl
  | logLevel => exact plain o.logLevel

def Overrides.binding? (o : Overrides) (stem : String) (field : Field) : Option (String × Bytes) :=
  (o.get field).map fun value =>
    (stem ++ "_" ++ field.variable, Bytes.ofText (field.shape.plain value))

def Overrides.environment (o : Overrides) (stem : String) : Environment :=
  Field.all.filterMap (o.binding? stem)

private theorem Field.variable_injective {field other : Field}
    (same : field.variable = other.variable) : field = other := by
  cases field <;> cases other <;> first | rfl | exact absurd same (by decide)

private theorem Overrides.lookup_environment (o : Overrides) (stem : String) (field : Field)
    (fields : List Field) :
    (fields.filterMap (o.binding? stem)).lookup (stem ++ "_" ++ field.variable) =
      if field ∈ fields then (o.get field).map fun value => Bytes.ofText (field.shape.plain value)
      else none := by
  induction fields with
  | nil => rfl
  | cons first fields ih =>
    cases given : o.get first with
    | none =>
      have skipped : o.binding? stem first = none := by rw [binding?, given, Option.map_none]
      rw [List.filterMap_cons_none skipped, ih]
      by_cases same : field = first
      · subst same
        simp [given]
      · simp [same]
    | some value =>
      have held : o.binding? stem first =
          some (stem ++ "_" ++ first.variable, Bytes.ofText (first.shape.plain value)) := by
        rw [binding?, given, Option.map_some]
      rw [List.filterMap_cons_some held, List.lookup_cons]
      by_cases same : field = first
      · subst same
        simp [given]
      · have apart : stem ++ "_" ++ field.variable ≠ stem ++ "_" ++ first.variable := by
          intro named
          have lists := congrArg String.toList named
          simp only [String.toList_append] at lists
          exact same (Field.variable_injective
            (String.toList_injective (List.append_cancel_left lists)))
        rw [beq_false_of_ne apart, ih]
        simp [same]

theorem Overrides.environment_holds (o : Overrides) (stem : String) :
    (o.environment stem).Holds stem o := by
  intro field
  rw [environment, lookup_environment, if_pos field.mem_all]

end Settings

end StreamRelay
