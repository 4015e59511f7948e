import StreamRelay.Error
import StreamRelay.Proofs.Number.Reading
import StreamRelay.Proofs.Settings.Overrides
import StreamRelay.Proofs.Text.Blank
import StreamRelay.Proofs.Text.Quoted
import StreamRelay.Proofs.Text.Utf8
import StreamRelay.Settings.Source

/-!
# What variables stand for

Each setting has a variable of its own, and the text of that variable decides what an environment
gives for the setting: a text or a path is given as it is, a switch is on for one word only, and a
number must be a decimal numeral of its range. An environment is read exactly if both numbers are
such numerals.
-/

set_option autoImplicit false
set_option relaxedAutoImplicit false

namespace StreamRelay.Settings

/-- Whether an environment holds a text in the variable of a setting. -/
def Environment.Gives (env : Environment) (stem : String) (field : Field) (text : String) : Prop :=
  env.lookup (stem ++ "_" ++ field.variable) = some (Bytes.ofText text)

private theorem Environment.text?_eq_some_iff {env : Environment} {stem : String} {field : Field}
    {text : String} : env.text? stem field = some text ↔ env.Gives stem field text := by
  simp only [Environment.text?, Gives, Option.bind_eq_some_iff, Text.Utf8.text?_eq_some_iff]
  constructor
  · rintro ⟨bytes, held, rfl⟩
    exact held
  · exact fun held => ⟨_, held, rfl⟩

/-- A numeral with at most one sign between blanks, and the number that it makes. -/
def IsPadded (text : String) (n : Int) : Prop :=
  ∃ core, Text.IsTrimmed text.toList core ∧ Number.IsSigned core n

def IsNumber (text : String) : Prop :=
  ∃ n, IsPadded text n ∧ -0x8000000000000000 ≤ n ∧ n ≤ 0x7FFFFFFFFFFFFFFF

/-- The word `true` between blanks, with letters of either case. -/
def IsOn (text : String) : Prop :=
  ∃ t ∈ ['t', 'T'], ∃ r ∈ ['r', 'R'], ∃ u ∈ ['u', 'U'], ∃ e ∈ ['e', 'E'],
    Text.IsTrimmed text.toList [t, r, u, e]

/-- Which value the text of a variable stands for. -/
def Shape.Denotes : (shape : Shape) → String → shape.Value → Prop
  | .text, held, value | .path, held, value => value = held
  | .switch, held, on => on = true ↔ IsOn held
  | .number, held, n => IsPadded held n.toInt

private theorem isPadded_iff {text : String} {n : Int} :
    IsPadded text n ↔ Number.IsSigned (Text.trimChars text.toList) n := by
  constructor
  · rintro ⟨core, trimmed, signed⟩
    rwa [Text.trimChars_eq_iff.mpr trimmed]
  · exact fun signed => ⟨_, Text.isTrimmed_trimChars _, signed⟩

private theorem mem_of_toLower_eq {c small capital : Char} (same : c.toLower = small)
    (apart : small.toNat = capital.toNat + 32) : c ∈ [small, capital] := by
  unfold Char.toLower at same
  split at same
  · rename_i upper
    have most : c.toNat ≤ 90 := upper.2
    have values : (c.val + 32).toNat = small.toNat := congrArg Char.toNat same
    rw [UInt32.toNat_add] at values
    have level : c.toNat = capital.toNat := by
      have number : c.val.toNat = c.toNat := rfl
      have step : (32 : UInt32).toNat = 32 := rfl
      omega
    exact Char.toNat_inj.mp level ▸ .tail _ (.head _)
  · exact same ▸ .head _

private theorem isTrue_iff (text : String) : isTrue text = true ↔ IsOn text := by
  have lower {c small capital : Char} (plain : [small, capital].map Char.toLower = [small, small])
      (member : c ∈ [small, capital]) : c.toLower = small := by
    have mapped := List.mem_map_of_mem (f := Char.toLower) member
    rw [plain] at mapped
    simpa using mapped
  rw [isTrue, beq_iff_eq]
  simp only [List.map_eq_cons_iff, List.map_eq_nil_iff]
  constructor
  · rintro ⟨t, _, core, first, r, _, rfl, second, u, _, rfl, third, e, _, rfl, fourth, rfl⟩
    exact ⟨t, mem_of_toLower_eq first rfl, r, mem_of_toLower_eq second rfl, u,
      mem_of_toLower_eq third rfl, e, mem_of_toLower_eq fourth rfl, Text.trimChars_eq_iff.mp core⟩
  · rintro ⟨t, first, r, second, u, third, e, fourth, trimmed⟩
    exact ⟨t, _, Text.trimChars_eq_iff.mpr trimmed, lower (by decide) first, r, _, rfl,
      lower (by decide) second, u, _, rfl, lower (by decide) third, e, _, rfl,
      lower (by decide) fourth, rfl⟩

def Quantity.field : Quantity → Field
  | .bufferSize => .bufferSize
  | .connectTimeout => .connectTimeout

private theorem isNumber_iff {text : String} :
    IsNumber text ↔ ∃ n, Number.readSigned (Text.trimChars text.toList) = .ok n := by
  constructor
  · rintro ⟨n, padded, least, most⟩
    have value : (Int64.ofInt n).toInt = n := Int64.toInt_ofInt_of_le (by omega) (by omega)
    exact ⟨.ofInt n, Number.readSigned_eq_ok_iff.mpr (value.symm ▸ isPadded_iff.mp padded)⟩
  · rintro ⟨n, read⟩
    have least := n.le_toInt
    have most := n.toInt_lt
    have padded := isPadded_iff.mpr (Number.readSigned_eq_ok_iff.mp read)
    exact ⟨n.toInt, padded, by omega, by omega⟩

section

variable {env : Environment} {stem : String}

private theorem Environment.Gives.unique {field : Field} {text text' : String}
    (held : env.Gives stem field text) (held' : env.Gives stem field text') : text = text' := by
  rw [← Environment.text?_eq_some_iff] at held held'
  exact Option.some.inj (held.symm.trans held')

private theorem text?_denotes {field : Field} (value : String) :
    env.text? stem field = some value ↔ ∃ text, env.Gives stem field text ∧ value = text := by
  simp [Environment.text?_eq_some_iff]

private theorem isTrue_denotes {field : Field} (on : Bool) :
    (env.text? stem field).map isTrue = some on ↔
      ∃ text, env.Gives stem field text ∧ (on = true ↔ IsOn text) := by
  rw [Option.map_eq_some_iff]
  refine exists_congr fun text => ?_
  rw [Environment.text?_eq_some_iff, ← isTrue_iff, ← Bool.eq_iff_iff, eq_comm (a := on)]

private theorem number?_cases (env : Environment) (stem : String) (field : Field)
    (quantity : Quantity) : ((∀ text, env.Gives stem field text → IsNumber text) ∧
        ∃ number, env.number? stem field quantity = .ok number ∧
          ∀ n, number = some n ↔ ∃ text, env.Gives stem field text ∧ IsPadded text n.toInt) ∨
      ∃ text cause, env.Gives stem field text ∧ ¬ IsNumber text ∧
        Number.IsSignedFault (Text.trimChars text.toList) cause ∧
        env.number? stem field quantity = .error (.badNumber quantity cause text) := by
  cases given : env.text? stem field with
  | none =>
    have unheld (text : String) : ¬ env.Gives stem field text := fun held => by
      rw [← Environment.text?_eq_some_iff, given] at held
      cases held
    exact .inl ⟨fun text held => absurd held (unheld text), none,
      by simp [Environment.number?, given], by simp [unheld]⟩
  | some text =>
    have held := Environment.text?_eq_some_iff.mp given
    cases read : Number.readSigned (Text.trimChars text.toList) with
    | ok n =>
      refine .inl ⟨fun text' held' => ?_, some n, by simp [Environment.number?, given, read], ?_⟩
      · exact held.unique held' ▸ isNumber_iff.mpr ⟨n, read⟩
      · intro m
        constructor
        · intro same
          obtain rfl := Option.some.inj same
          exact ⟨text, held, isPadded_iff.mpr (Number.readSigned_eq_ok_iff.mp read)⟩
        · rintro ⟨text', held', padded⟩
          obtain rfl := held.unique held'
          have read' := Number.readSigned_eq_ok_iff.mpr (isPadded_iff.mp padded)
          exact congrArg some (Except.ok.inj (read.symm.trans read'))
    | error cause =>
      refine .inr ⟨text, cause, held, fun number => ?_, Number.readSigned_eq_error_iff.mp read,
        by simp [Environment.number?, given, read]⟩
      obtain ⟨n, read'⟩ := isNumber_iff.mp number
      rw [read] at read'
      cases read'

private theorem fromEnvironment_cases (env : Environment) (stem : String) :
    ((∀ quantity : Quantity, ∀ text, env.Gives stem quantity.field text → IsNumber text) ∧
        ∃ o, fromEnvironment env stem = .ok o ∧ ∀ field value, o.get field = some value ↔
          ∃ text, env.Gives stem field text ∧ field.shape.Denotes text value) ∨
      ∃ quantity text cause, env.Gives stem quantity.field text ∧ ¬ IsNumber text ∧
        Number.IsSignedFault (Text.trimChars text.toList) cause ∧
        (quantity = .connectTimeout → ∀ text, env.Gives stem .bufferSize text → IsNumber text) ∧
        fromEnvironment env stem = .error (.badNumber quantity cause text) := by
  rcases number?_cases env stem .bufferSize .bufferSize with ⟨fine, size, read, sized⟩ |
    ⟨text, cause, held, bad, named, refused⟩
  · rcases number?_cases env stem .connectTimeout .connectTimeout with
      ⟨fine', timeout, read', timed⟩ | ⟨text, cause, held, bad, named, refused⟩
    · refine .inl ⟨fun quantity => ?_, ?_⟩
      · cases quantity with
        | bufferSize => exact fine
        | connectTimeout => exact fine'
      · refine ⟨_, by simp only [fromEnvironment, read, read', bind, Except.bind]; rfl, ?_⟩
        intro field value
        cases field with
        | listenAddr | backendAddr | certFilePath | keyFilePath | logLevel =>
          exact text?_denotes value
        | bufferSize => exact sized value
        | connectTimeout => exact timed value
        | tlsEnabled => exact isTrue_denotes value
    · exact .inr ⟨.connectTimeout, text, cause, held, bad, named, fun _ => fine,
        by simp [fromEnvironment, read, refused, bind, Except.bind]⟩
  · exact .inr ⟨.bufferSize, text, cause, held, bad, named, nofun,
      by simp [fromEnvironment, refused, bind, Except.bind]⟩

end

/-- What is said of a text that is no number: why, and the text as it was given, between quotes. -/
inductive IsComplaint (text : String) : Number.Fault → String → Prop
  | intro {core : List Char} {cause : Number.Fault} {reason quotation : String} :
      Text.IsTrimmed text.toList core → Number.IsSignedFault core cause → cause.IsTold reason →
      Text.IsQuotation text quotation → IsComplaint text cause (reason ++ ": " ++ quotation)

/-- Why an environment cannot be read, and what is said of it. The buffer size comes first. -/
inductive Environment.Misleads (env : Environment) (stem : String) : Fault → String → Prop
  | bufferSize {text words : String} {cause : Number.Fault} : env.Gives stem .bufferSize text →
      ¬ IsNumber text → IsComplaint text cause words →
      Misleads env stem (.badNumber .bufferSize cause text) ("buffer size: " ++ words)
  | connectTimeout {text words : String} {cause : Number.Fault} :
      (∀ size, env.Gives stem .bufferSize size → IsNumber size) →
      env.Gives stem .connectTimeout text → ¬ IsNumber text → IsComplaint text cause words →
      Misleads env stem (.badNumber .connectTimeout cause text) ("connect timeout: " ++ words)

private theorem IsComplaint.cause {text words : String} {cause cause' : Number.Fault}
    (complaint : IsComplaint text cause words)
    (unread : Number.readSigned (Text.trimChars text.toList) = .error cause') : cause = cause' := by
  cases complaint with
  | intro trimmed failed =>
    rw [Text.trimChars_eq_iff.mpr trimmed, Number.readSigned_eq_error_iff.mpr failed] at unread
    exact Except.error.inj unread

/-- An environment is read if its numbers are; else the first bad one is named and quoted. -/
theorem fromEnvironment_reads_variables (env : Environment) (stem : String) :
    ((∃ o, fromEnvironment env stem = .ok o) ↔
        ∀ field ∈ [Field.bufferSize, .connectTimeout], ∀ text, env.Gives stem field text →
          IsNumber text) ∧
      (∀ o, fromEnvironment env stem = .ok o → ∀ field value, o.get field = some value ↔
        ∃ text, env.Gives stem field text ∧ field.shape.Denotes text value) ∧
      ∀ fault, fromEnvironment env stem = .error fault → ∃ words, env.Misleads stem fault words ∧
        (RelayError.config (.settings fault)).message = "Configuration error: " ++ words := by
  have both (P : Field → Prop) :
      (∀ field ∈ [Field.bufferSize, .connectTimeout], P field) ↔ ∀ q : Quantity, P q.field := by
    constructor
    · intro fields q
      exact fields q.field (by cases q <;> simp [Quantity.field])
    · intro quantities
      simpa using ⟨quantities .bufferSize, quantities .connectTimeout⟩
  rw [both]
  rcases fromEnvironment_cases env stem with ⟨fine, o, read, each⟩ |
    ⟨quantity, text, cause, held, bad, named, first, refused⟩
  · refine ⟨⟨fun _ => fine, fun _ => ⟨o, read⟩⟩, fun o' read' => ?_, fun fault refused => ?_⟩
    · exact Except.ok.inj (read.symm.trans read') ▸ each
    · rw [read] at refused
      cases refused
  · refine ⟨⟨fun ⟨o, read⟩ => ?_, fun fine => absurd (fine quantity text held) bad⟩,
      fun o read => ?_, fun fault refused' => ?_⟩
    · rw [refused] at read
      cases read
    · rw [refused] at read
      cases read
    · obtain rfl := Except.error.inj (refused.symm.trans refused')
      have complaint : IsComplaint text cause _ :=
        .intro (Text.isTrimmed_trimChars _) named cause.isTold_message
          (Text.isQuotation_quoted text)
      cases quantity with
      | bufferSize => exact ⟨_, .bufferSize held bad complaint, rfl⟩
      | connectTimeout => exact ⟨_, .connectTimeout (first rfl) held bad complaint, rfl⟩

/-- The least number of its type, a word in mixed case, and blanks around both. -/
def leastSize : Environment :=
  [("R_BUFFER_SIZE", Bytes.ofText "\u3000-0009223372036854775808\n"),
    ("R_TLS_ENABLED", Bytes.ofText " TrUe"), ("R_CONNECT_TIMEOUT", [0xFF]),
    ("R_LISTEN_ADDR", Bytes.ofText " :80 ")]

def neitherNumber : Environment :=
  [("R_CONNECT_TIMEOUT", Bytes.ofText "soon"), ("R_BUFFER_SIZE", Bytes.ofText " lots")]

theorem fromEnvironment_reads_variables_leastSize :
    (∃ o, fromEnvironment leastSize "R" = .ok o ∧ o.bufferSize = some Int64.minValue ∧
      o.tlsEnabled = some true ∧ o.listenAddr = some " :80 ") ∧
      ∃ fault, fromEnvironment neitherNumber "R" = .error fault ∧
        (RelayError.config (.settings fault)).message =
          "Configuration error: buffer size: invalid digit found in string: \" lots\"" := by
  constructor
  · obtain ⟨reads, each, -⟩ := fromEnvironment_reads_variables leastSize "R"
    have size : leastSize.Gives "R" .bufferSize "\u3000-0009223372036854775808\n" := rfl
    have switch : leastSize.Gives "R" .tlsEnabled " TrUe" := rfl
    have padded : IsPadded "\u3000-0009223372036854775808\n" Int64.minValue.toInt :=
      isPadded_iff.mpr (Number.readSigned_eq_ok_iff.mp (by decide))
    obtain ⟨o, read⟩ := reads.mpr fun field member text held => by
      rcases List.mem_cons.mp member with rfl | member
      · obtain rfl := size.unique held
        exact ⟨_, padded, by decide, by decide⟩
      · obtain rfl := List.mem_singleton.mp member
        have bytes : [0xFF] = Bytes.ofText text := Option.some.inj held
        have unread : Text.Utf8.text? [0xFF] = none := by
          simp [Text.Utf8.text?, Text.Utf8.decode?, Text.Utf8.charAt?]
        rw [bytes, Text.Utf8.text?_ofText] at unread
        cases unread
    refine ⟨o, read, (each o read .bufferSize _).mpr ⟨_, size, padded⟩,
      (each o read .tlsEnabled true).mpr ⟨_, switch, ?_⟩,
      (each o read .listenAddr " :80 ").mpr ⟨_, rfl, rfl⟩⟩
    exact ⟨fun _ => (isTrue_iff _).mp (by decide), fun _ => rfl⟩
  · obtain ⟨reads, -, refuses⟩ := fromEnvironment_reads_variables neitherNumber "R"
    have size : neitherNumber.Gives "R" .bufferSize " lots" := rfl
    have unread : Number.readSigned (Text.trimChars " lots".toList) = .error .badDigit := by decide
    have bad : ¬ IsNumber " lots" := by
      rw [isNumber_iff, unread]
      rintro ⟨n, read⟩
      cases read
    cases came : fromEnvironment neitherNumber "R" with
    | ok o => exact absurd (reads.mp ⟨o, came⟩ _ (.head _) _ size) bad
    | error fault =>
      obtain ⟨words, misleads, message⟩ := refuses fault came
      cases misleads with
      | connectTimeout fine => exact absurd (fine _ size) bad
      | @bufferSize text words cause held _ complaint =>
        obtain rfl := size.unique held
        obtain rfl := complaint.cause unread
        exact ⟨_, rfl, by decide +kernel⟩

end StreamRelay.Settings
