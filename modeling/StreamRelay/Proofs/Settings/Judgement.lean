import StreamRelay.Settings.Apply

set_option autoImplicit false
set_option relaxedAutoImplicit false

namespace StreamRelay.Settings

def IsAddress (text : String) : Prop :=
  Text.isBlankText text = true ∨ ∃ normal, Net.normalize (Text.trim text) = .ok normal

def IsPath (files : Files) (path : String) : Prop := path = "" ∨ files.exists path = .ok ()

/-- Whether a value may be given for a setting. -/
def IsValid (files : Files) : (field : Field) → field.shape.Value → Prop
  | .listenAddr, text | .backendAddr, text => IsAddress text
  | .bufferSize, value => 1 ≤ value.toInt ∧ value.toInt ≤ 65536
  | .certFilePath, path | .keyFilePath, path => IsPath files path
  | .connectTimeout, value => 0 < value.toInt
  | .tlsEnabled, _ | .logLevel, _ => True

def addressFor? (text : String) : Option String :=
  if Text.isBlankText text then none else (Net.normalize (Text.trim text)).toOption

def pathFor? (path : String) : Option String := if path = "" then none else some path

def levelFor? (text : String) : Option Level :=
  [("error", .error), ("warn", .warn), ("info", .info), ("debug", .debug), ("trace", .trace)].lookup
    (Text.lowercase text)

/-- What a valid value stands for in the record; some leave the setting as it is. -/
def standsFor? : (field : Field) → field.shape.Value → Option field.Setting
  | .listenAddr, text | .backendAddr, text => addressFor? text
  | .bufferSize, value | .connectTimeout, value => some value.toInt.toNat
  | .tlsEnabled, value => some value
  | .certFilePath, path | .keyFilePath, path => pathFor? path
  | .logLevel, text => levelFor? text

def IsAddressFault (text : String) (fault : Fault) : Prop :=
  Text.isBlankText text = false ∧ ∃ cause, Net.HostPort.split (Text.trim text) = .error cause ∧
    fault = .badAddress (Text.trim text) cause

def IsPathFault (files : Files) (role : Role) (path : String) (fault : Fault) : Prop :=
  path ≠ "" ∧ ∃ error, files.exists path = .error error ∧ fault = .noFile role path error

/-- Which fault a value that is not valid is reported with. -/
def IsFault (files : Files) : (field : Field) → field.shape.Value → Fault → Prop
  | .listenAddr, text, fault | .backendAddr, text, fault => IsAddressFault text fault
  | .bufferSize, value, fault =>
    value.toInt ≤ 0 ∧ fault = .notPositive .bufferSize ∨
      65536 < value.toInt ∧ fault = .bufferTooLarge value.toInt.toNat
  | .certFilePath, path, fault => IsPathFault files .certificate path fault
  | .keyFilePath, path, fault => IsPathFault files .key path fault
  | .connectTimeout, value, fault => value.toInt ≤ 0 ∧ fault = .notPositive .connectTimeout
  | .tlsEnabled, _, _ | .logLevel, _, _ => False

private theorem judgeAddress_cases (text : String) :
    (IsAddress text ∧ judgeAddress text = .ok (addressFor? text)) ∨
      ¬ IsAddress text ∧ ∃ fault, judgeAddress text = .error fault ∧ IsAddressFault text fault := by
  cases blank : Text.isBlankText text with
  | true => exact .inl ⟨.inl blank, by simp [judgeAddress, addressFor?, blank]⟩
  | false =>
    cases read : Net.HostPort.split (Text.trim text) with
    | ok address =>
      have normal : Net.normalize (Text.trim text) = .ok address.join := by
        simp [Net.normalize, read, Except.map]
      exact .inl ⟨.inr ⟨_, normal⟩,
        by simp [judgeAddress, addressFor?, blank, normal, Except.toOption]⟩
    | error cause =>
      have unread : Net.normalize (Text.trim text) = .error cause := by
        simp [Net.normalize, read, Except.map]
      refine .inr ⟨by simp [IsAddress, blank, unread], .badAddress (Text.trim text) cause, ?_,
        blank, cause, read, rfl⟩
      simp [judgeAddress, blank, unread]

private theorem judgePath_cases (files : Files) (role : Role) (path : String) :
    (IsPath files path ∧ judgePath files role path = .ok (pathFor? path)) ∨
      ¬ IsPath files path ∧ ∃ fault, judgePath files role path = .error fault ∧
        IsPathFault files role path fault := by
  by_cases empty : path = ""
  · subst empty
    exact .inl ⟨.inl rfl, rfl⟩
  · have filled : path.isEmpty = false := by simpa using empty
    cases found : files.exists path with
    | ok there =>
      exact .inl ⟨.inr found, by simp [judgePath, pathFor?, filled, empty, found]⟩
    | error error =>
      refine .inr ⟨by simp [IsPath, empty, found], .noFile role path error, ?_, empty, error, found,
        rfl⟩
      simp [judgePath, filled, found]

private theorem lookup_eq_named? (name : String) :
    [("error", Level.error), ("warn", .warn), ("info", .info), ("debug", .debug),
      ("trace", .trace)].lookup name = Level.named? name := by
  simp only [List.lookup_cons, List.lookup_nil, Level.named?, Level.all, List.find?_cons,
    List.find?_nil, Level.name, BEq.comm (a := name)]

private theorem lowerChar_of_isBlank {c : Char} (blank : Text.isBlank c = true) :
    Text.lowerChar c = [c] ∧ c.toNat ≠ 0x3A3 := by
  have each : ∀ range ∈ Text.blankRanges, ∀ k ≤ range.2 - range.1,
      Text.lowerChar (Char.ofNat (range.1 + k)) = [Char.ofNat (range.1 + k)] ∧
        range.1 + k ≠ 0x3A3 := by
    decide +kernel
  obtain ⟨range, member, within⟩ := List.any_eq_true.mp blank
  simp only [Bool.and_eq_true, decide_eq_true_eq] at within
  have plain := each range member (c.toNat - range.1) (by omega)
  rwa [Nat.add_sub_cancel' within.1, Char.ofNat_toNat] at plain

private theorem isBlank_head?_lowercase {text : String} (blank : Text.isBlankText text = true) :
    (Text.lowercase text).toList.head?.all Text.isBlank = true := by
  cases spelt : text.toList with
  | nil => simp [Text.lowercase, spelt, Text.lowerAfter]
  | cons c cs =>
    have first : Text.isBlank c = true := List.all_eq_true.mp blank c (by simp [spelt])
    obtain ⟨lower, other⟩ := lowerChar_of_isBlank first
    simp [Text.lowercase, spelt, Text.lowerAfter, lower, other, first]

private theorem judgeLevel_eq (text : String) : judgeLevel text = levelFor? text := by
  rw [judgeLevel, levelFor?, lookup_eq_named?]
  split
  · rename_i blank
    refine (List.find?_eq_none.mpr fun level _ spelt => ?_).symm
    have begins := isBlank_head?_lowercase blank
    rw [← beq_iff_eq.mp spelt] at begins
    revert begins
    cases level <;> decide
  · rfl

private theorem judgePositive_cases (quantity : Quantity) (value : Int64) :
    (0 < value.toInt ∧ judgePositive quantity value = .ok value.toInt.toNat) ∨
      value.toInt ≤ 0 ∧ judgePositive quantity value = .error (.notPositive quantity) := by
  by_cases small : value.toInt ≤ 0
  · exact .inr ⟨small, if_pos small⟩
  · exact .inl ⟨Int.not_le.mp small, if_neg small⟩

private theorem judgeBufferSize_cases (value : Int64) :
    (1 ≤ value.toInt ∧ value.toInt ≤ 65536 ∧
        judgeBufferSize value = .ok (some value.toInt.toNat)) ∨
      (value.toInt ≤ 0 ∧ judgeBufferSize value = .error (.notPositive .bufferSize)) ∨
      65536 < value.toInt ∧ judgeBufferSize value = .error (.bufferTooLarge value.toInt.toNat) := by
  rcases judgePositive_cases .bufferSize value with ⟨positive, judged⟩ | ⟨small, judged⟩
  · have read : judgeBufferSize value =
        if maxBufferSize < value.toInt.toNat then .error (.bufferTooLarge value.toInt.toNat)
        else .ok (some value.toInt.toNat) := by
      rw [judgeBufferSize, judged]
      rfl
    by_cases large : maxBufferSize < value.toInt.toNat
    · exact .inr (.inr ⟨by simp only [maxBufferSize] at large; omega, read.trans (if_pos large)⟩)
    · exact .inl ⟨positive, by simp only [maxBufferSize] at large; omega,
        read.trans (if_neg large)⟩
  · exact .inr (.inl ⟨small, by rw [judgeBufferSize, judged]; rfl⟩)

theorem judge_cases (files : Files) (field : Field) (value : field.shape.Value) :
    (IsValid files field value ∧ judge files field value = .ok (standsFor? field value)) ∨
      ¬ IsValid files field value ∧
        ∃ fault, judge files field value = .error fault ∧ IsFault files field value fault := by
  cases field with
  | listenAddr | backendAddr => exact judgeAddress_cases value
  | bufferSize =>
    rcases judgeBufferSize_cases value with ⟨least, most, judged⟩ | ⟨small, judged⟩ |
      ⟨large, judged⟩
    · exact .inl ⟨⟨least, most⟩, judged⟩
    · exact .inr ⟨fun valid => Int.not_le.mpr valid.1 small, _, judged, .inl ⟨small, rfl⟩⟩
    · exact .inr ⟨fun valid => Int.not_le.mpr large valid.2, _, judged, .inr ⟨large, rfl⟩⟩
  | tlsEnabled => exact .inl ⟨trivial, rfl⟩
  | certFilePath => exact judgePath_cases files .certificate value
  | keyFilePath => exact judgePath_cases files .key value
  | connectTimeout =>
    rcases judgePositive_cases .connectTimeout value with ⟨positive, judged⟩ | ⟨small, judged⟩
    · exact .inl ⟨positive, by rw [judge, judged]; rfl⟩
    · exact .inr ⟨Int.not_lt.mpr small, _, by rw [judge, judged]; rfl, small, rfl⟩
  | logLevel => exact .inl ⟨trivial, congrArg _ (judgeLevel_eq value)⟩

end StreamRelay.Settings
