import StreamRelay.Proofs.Json.Grammar
import StreamRelay.Proofs.Text.Utf8
import StreamRelay.Settings.Record

set_option autoImplicit false
set_option relaxedAutoImplicit false

namespace StreamRelay

namespace Settings

/-- What a source gives that sets every setting to what a record holds. -/
def written (s : Settings) : Overrides where
  listenAddr := s.listenAddr
  backendAddr := s.backendAddr
  bufferSize := Int64.ofNat s.bufferSize
  tlsEnabled := s.tlsEnabled
  certFilePath := s.certFilePath
  keyFilePath := s.keyFilePath
  connectTimeout := Int64.ofNat s.connectTimeout
  logLevel := s.logLevel.name

end Settings

namespace Json

open Settings (Field Overrides Shape)

abbrev bytes (cs : List Char) : Bytes := cs.flatMap String.utf8EncodeChar

private theorem bytes_ascii {cs : List Char} (ascii : ∀ c ∈ cs, c.toNat < 0x80) :
    bytes cs = cs.map Char.toUInt8 := by
  rw [← Text.Utf8.ofText_ofList ascii, Bytes.ofText, String.toList_ofList]

private theorem bytes_append (cs ds : List Char) : bytes (cs ++ ds) = bytes cs ++ bytes ds :=
  List.flatMap_append

private theorem HexWord.control {n : Nat} (control : n < 0x20) :
    HexWord n (bytes ('0' :: '0' :: Settings.escapeDigits n)) := by
  have digit {m : Nat} (small : m < 16) : HexDigit m (Nat.digitChar m).toUInt8 :=
    ⟨small, .inl rfl⟩
  have table : ∀ m < 16, (Nat.digitChar m).toNat < 0x80 := by decide
  have first : n / 0x1000 = 0 := by omega
  have second : n / 0x100 % 16 = 0 := by omega
  have third : n / 0x10 % 16 = n / 16 := by omega
  rw [bytes_ascii]
  · refine .mk ?_ ?_ ?_ (digit (by omega))
    · rw [first]
      exact digit (by decide)
    · rw [second]
      exact digit (by decide)
    · rw [third]
      exact digit (by omega)
  · intro c member
    simp only [Settings.escapeDigits, List.mem_cons, List.not_mem_nil, or_false] at member
    rcases member with rfl | rfl | rfl | rfl
    · decide
    · decide
    · exact table _ (by omega)
    · exact table _ (by omega)

private theorem Spells.jsonChar (c : Char) : Spells c (bytes (Settings.jsonChar c)) := by
  have letter {letter : Char} (listed : (c, letter) ∈ letterEscapes) (ascii : letter.toNat < 0x80) :
      Spells c (bytes ['\\', letter]) := by
    rw [bytes_ascii (by simpa using ascii)]
    exact .letter listed
  have numbered {n : Nat} (same : (c.toNat == n) = true) : c = Char.ofNat n := by
    rw [← eq_of_beq same, Char.ofNat_toNat]
  unfold Settings.jsonChar
  split
  · rename_i quote
    exact letter (by simp [eq_of_beq quote, letterEscapes]) (by decide)
  rename_i quote
  split
  · rename_i escape
    exact letter (by simp [eq_of_beq escape, letterEscapes]) (by decide)
  rename_i escape
  split
  · rename_i backspace
    exact letter (by simp [numbered backspace, letterEscapes]) (by decide)
  split
  · rename_i feed
    exact letter (by simp [numbered feed, letterEscapes]) (by decide)
  split
  · rename_i line
    exact letter (by simp [eq_of_beq line, letterEscapes]) (by decide)
  split
  · rename_i back
    exact letter (by simp [eq_of_beq back, letterEscapes]) (by decide)
  split
  · rename_i tab
    exact letter (by simp [eq_of_beq tab, letterEscapes]) (by decide)
  split
  · rename_i control
    have front : bytes ['\\', 'u'] = ['\\'.toUInt8, 'u'.toUInt8] := by decide
    change Spells c (bytes (['\\', 'u'] ++ '0' :: '0' :: Settings.escapeDigits c.toNat))
    rw [bytes_append, front]
    exact .word (.control control)
  · rename_i printable
    have raw : Spells c (String.utf8EncodeChar c) :=
      .raw (by simpa using quote) (by simpa using escape) (by omega)
    simpa [bytes] using raw

private theorem SpellsAll.jsonText (cs : List Char) :
    SpellsAll cs (bytes (cs.flatMap Settings.jsonChar)) := by
  induction cs with
  | nil => exact .nil
  | cons c cs ih =>
    rw [List.flatMap_cons, bytes_append]
    exact .cons (.jsonChar c) ih

private theorem Quotes.jsonText (s : String) : Quotes s (bytes (Settings.jsonText s)) := by
  have quote : bytes ['"'] = ['"'.toUInt8] := by decide
  change Quotes s (bytes (['"'] ++ s.toList.flatMap Settings.jsonChar ++ ['"']))
  rw [bytes_append, bytes_append, quote]
  exact .mk (.jsonText s.toList)

private theorem Writes.toDigits {n : Nat} (fits : n < 0x8000000000000000) :
    Writes .number (Int64.ofNat n) (bytes (Nat.toDigits 10 n)) := by
  have same : (Int64.ofNat n).toInt = n := Int64.toInt_ofNat_of_lt fits
  have natural : Number.decimal n = Nat.toDigits 10 n := by
    rw [Number.decimal, if_neg (by omega), Int.natAbs_natCast]
  change _ = Bytes.ofText (String.ofList (Number.decimal (Int64.ofNat n).toInt))
  rw [same, natural, Bytes.ofText, String.toList_ofList]

private theorem Member.jsonMember {s : Settings} (size : s.bufferSize < 0x8000000000000000)
    (timeout : s.connectTimeout < 0x8000000000000000) (field : Field) :
    Member s.written field (bytes (s.jsonMember field)) := by
  have colon : bytes [':'] = [':'.toUInt8] := by decide
  have value : WritesOption field.shape (s.written.get field) (bytes (s.jsonValue field)) := by
    cases field with
    | listenAddr | backendAddr | certFilePath | keyFilePath | logLevel => exact Quotes.jsonText _
    | bufferSize => exact Writes.toDigits size
    | connectTimeout => exact Writes.toDigits timeout
    | tlsEnabled =>
      change bytes (if s.tlsEnabled then _ else _) = Bytes.ofText (Shape.plain .switch s.tlsEnabled)
      cases s.tlsEnabled <;> decide
  have member := Member.mk (.jsonText field.name) isSpaces_nil isSpaces_nil value
  rw [List.append_nil] at member
  change Member s.written field
    (bytes (Settings.jsonText field.name ++ ([':'] ++ s.jsonValue field)))
  rw [bytes_append, bytes_append, colon, ← List.append_assoc]
  exact member

private theorem Separated.jsonMembers {s : Settings} (size : s.bufferSize < 0x8000000000000000)
    (timeout : s.connectTimeout < 0x8000000000000000) (fields : List Field) :
    Separated (Member s.written) fields (bytes (s.jsonMembers fields)) := by
  have comma : bytes [','] = [','.toUInt8] := by decide
  induction fields with
  | nil => exact .none isSpaces_nil
  | cons field fields ih =>
    have member := Padded.bare (Member.jsonMember size timeout field)
    cases fields with
    | nil => exact .one member
    | cons next fields =>
      change Separated (Member s.written) (field :: next :: fields)
        (bytes (s.jsonMember field ++ ([','] ++ s.jsonMembers (next :: fields))))
      rw [bytes_append, bytes_append, comma]
      exact .more member ih

/-- The written form of a record is an object that sets every setting to its value. -/
theorem Object.toJson {s : Settings} (size : s.bufferSize < 0x8000000000000000)
    (timeout : s.connectTimeout < 0x8000000000000000) :
    Object s.written (Bytes.ofText s.toJson) := by
  have braces : bytes ['\x7b'] = [0x7B] ∧ bytes ['\x7d'] = [0x7D] := by decide
  rw [Bytes.ofText, Settings.toJson, String.toList_ofList]
  change Object s.written (bytes (['\x7b'] ++ s.jsonMembers Field.all ++ ['\x7d']))
  rw [bytes_append, bytes_append, braces.1, braces.2]
  exact .mk (by decide) (fun field _ => field.mem_all) (.jsonMembers size timeout Field.all)

end Json

end StreamRelay
