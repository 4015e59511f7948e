import StreamRelay.Proofs.Json.Lists
import StreamRelay.Proofs.Json.Rejection
import StreamRelay.Settings.Source

set_option autoImplicit false
set_option relaxedAutoImplicit false

namespace StreamRelay.Json

open Settings (Field Overrides)

private theorem isAsciiSpace_iff (b : UInt8) :
    isAsciiSpace b = true ↔ b ∈ ([0x20, 0x09, 0x0A, 0x0D, 0x0C] : Bytes) := by
  simp [isAsciiSpace, isSpace, or_assoc]

def Record (o : Overrides) (text : Bytes) : Prop := Object o text ∨ Listing o text

private theorem Record.read {o : Overrides} {text : Bytes} (written : Record o text) {space : Bytes}
    (spaces : IsSpaces space) (rest : Bytes) :
    readRecord (space ++ text ++ rest) = .ok (o, rest) := by
  rcases written with object | listing
  · exact object.read spaces rest
  · exact listing.read spaces rest

private theorem Record.exists_token {o : Overrides} {text : Bytes} (written : Record o text) :
    ∃ b ∈ text, isAsciiSpace b = false := by
  rcases written with ⟨-, -, -⟩ | ⟨-, -, -⟩
  · exact ⟨0x7B, List.mem_cons_self .., by decide⟩
  · exact ⟨'['.toUInt8, List.mem_cons_self .., by decide⟩

private theorem Record.of_readRecord {o : Overrides} {text rest : Bytes}
    (read : readRecord text = .ok (o, rest)) :
    ∃ space written, IsSpaces space ∧ Record o written ∧ text = space ++ written ++ rest := by
  unfold readRecord at read
  split at read
  · cases read
  rename_i b tail token
  obtain ⟨space, spaces, rfl⟩ := Json.exists_token token
  split at read
  · rename_i brace
    obtain ⟨written, object, same⟩ := Object.of_readMembers read
    exact ⟨space, written, spaces, .inl object, by rw [brace, same, List.append_assoc]⟩
  split at read
  · rename_i bracket
    obtain ⟨written, listing, same⟩ := Listing.of_readElements read
    exact ⟨space, written, spaces, .inr listing, by rw [bracket, same, List.append_assoc]⟩
  · exact (refuse_ne_ok _ _ _ read).elim

private theorem readOverrides_eq_ok {o : Overrides} {text : Bytes}
    (read : readOverrides text = .ok o) : (text.all isAsciiSpace = true ∧ o = .unset) ∨
      ∃ rest, readRecord text = .ok (o, rest) ∧ IsSpaces rest := by
  unfold readOverrides at read
  split at read
  · rename_i blank
    exact .inl ⟨blank, (Except.ok.inj read).symm⟩
  · obtain ⟨⟨found, rest⟩, record, read⟩ := exists_of_bind_eq_ok read
    dsimp only at read
    split at read
    · rename_i behind
      obtain rfl := Except.ok.inj read
      obtain ⟨space, spaces, split⟩ := exists_space rest
      rw [behind, List.append_nil] at split
      exact .inr ⟨rest, record, split ▸ spaces⟩
    · cases read

private theorem readOverrides_iff (text : Bytes) (o : Overrides) :
    readOverrides text = .ok o ↔
      (text.all isAsciiSpace = true ∧ o = .unset) ∨ Padded (Record o) text := by
  constructor
  · intro read
    rcases readOverrides_eq_ok read with blank | ⟨rest, record, after⟩
    · exact .inl blank
    · obtain ⟨space, written, before, this, rfl⟩ := Record.of_readRecord record
      exact .inr (.mk before this after)
  · rintro (⟨blank, rfl⟩ | ⟨before, this, after⟩)
    · rw [readOverrides, if_pos blank]
    · obtain ⟨b, token, other⟩ := this.exists_token
      exact readOverrides_of_readRecord (this.read before _) after (by simp [token]) other

private theorem Record.trailing {o p : Overrides} {space text rest : Bytes}
    (spaces : IsSpaces space)
    (written : Record o text) (read : readOverrides (space ++ text ++ rest) = .ok p) :
    IsSpaces rest := by
  obtain ⟨b, token, other⟩ := written.exists_token
  rcases readOverrides_eq_ok read with ⟨blank, -⟩ | ⟨rest', record, after⟩
  · have within := List.mem_append_left rest (List.mem_append_right space token)
    rw [List.all_eq_true.mp blank b within] at other
    cases other
  · rw [written.read spaces] at record
    obtain ⟨-, rfl⟩ := Prod.mk.inj (Except.ok.inj record)
    exact after

private theorem Separated.keys_of_readOverrides {keys : List String} {space body rest : Bytes}
    (spaces : IsSpaces space) (members : Separated AnyMember keys body) {o : Overrides}
    (read : readOverrides (space ++ 0x7B :: body ++ 0x7D :: rest) = .ok o) :
    keys.Nodup ∧ ∀ key ∈ keys, ∃ field : Field, field.name = key := by
  rcases readOverrides_eq_ok read with ⟨blank, -⟩ | ⟨rest', record, -⟩
  · have brace := List.all_eq_true.mp blank 0x7B (by simp)
    contradiction
  · rw [List.append_assoc, List.cons_append, readRecord, spaces.skipSpace,
      skipSpace_cons (by decide)] at record
    have parts : body ++ 0x7D :: rest = (body ++ [0x7D]) ++ rest := by
      simp
    replace record : readMembers true Field.all .unset (body ++ 0x7D :: rest) = .ok (o, rest') :=
      record
    rw [parts] at record
    obtain ⟨distinct, names⟩ := members.remains.keys_of_readMembers (by decide) record
    refine ⟨distinct, ?_⟩
    intro key listed
    obtain ⟨field, -, name⟩ := names key listed
    exact ⟨field, name⟩

end StreamRelay.Json

namespace StreamRelay.Settings

open Json (AnyMember IsSpaces Listing Object Padded Separated)

private theorem fromJson_eq_ok_iff (text : Bytes) (o : Overrides) :
    fromJson text = .ok o ↔ Json.readOverrides text = .ok o := by
  rw [fromJson]
  split
  · rename_i found read
    rw [read, Except.ok.injEq, Except.ok.injEq]
  · rename_i fault read
    rw [read]
    constructor
    all_goals
      intro same
      cases same

private theorem exists_fault_of_ne_ok {text : Bytes}
    (rejected : ∀ o, Json.readOverrides text ≠ .ok o) : ∃ fault, fromJson text = .error fault := by
  cases given : fromJson text with
  | error fault => exact ⟨fault, rfl⟩
  | ok o => exact (rejected o ((fromJson_eq_ok_iff text o).mp given)).elim

/-- Overrides are given by white space and by the objects and lists that write them, and no more. -/
theorem fromJson_accepts_only (text : Bytes) :
    (∀ o, fromJson text = .ok o ↔
      ((∀ b ∈ text, b ∈ ([0x20, 0x09, 0x0A, 0x0D, 0x0C] : Bytes)) ∧ o = .unset) ∨
        Padded (Object o) text ∨ Padded (Listing o) text) ∧
    (∀ space keys body rest, IsSpaces space → Separated AnyMember keys body →
      text = space ++ 0x7B :: body ++ 0x7D :: rest →
      (¬ keys.Nodup ∨ ∃ key ∈ keys, ∀ field : Field, field.name ≠ key) →
        ∃ fault, fromJson text = .error fault) ∧
    ∀ o space front rest, IsSpaces space → (Object o front ∨ Listing o front) →
      text = space ++ front ++ rest → ¬ IsSpaces rest → ∃ fault, fromJson text = .error fault := by
  refine ⟨?_, ?_, ?_⟩
  · intro o
    have blank : text.all Json.isAsciiSpace = true ↔
        ∀ b ∈ text, b ∈ ([0x20, 0x09, 0x0A, 0x0D, 0x0C] : Bytes) := by
      simp only [List.all_eq_true, Json.isAsciiSpace_iff]
    have padded : Padded (Json.Record o) text ↔
        Padded (Object o) text ∨ Padded (Listing o) text := by
      constructor
      · rintro ⟨before, object | listing, after⟩
        · exact .inl ⟨before, object, after⟩
        · exact .inr ⟨before, listing, after⟩
      · rintro (⟨before, object, after⟩ | ⟨before, listing, after⟩)
        · exact ⟨before, .inl object, after⟩
        · exact ⟨before, .inr listing, after⟩
    rw [fromJson_eq_ok_iff, Json.readOverrides_iff, blank, padded]
  · rintro space keys body rest spaces members rfl wrong
    refine exists_fault_of_ne_ok ?_
    intro o read
    obtain ⟨distinct, names⟩ := members.keys_of_readOverrides spaces read
    rcases wrong with repeated | ⟨key, listed, unknown⟩
    · exact repeated distinct
    · obtain ⟨field, name⟩ := names key listed
      exact unknown field name
  · rintro o space front rest spaces written rfl more
    refine exists_fault_of_ne_ok ?_
    intro p read
    exact more (Json.Record.trailing spaces written read)

private theorem listing_oneOfTwo :
    Listing { listenAddr := some "a:1" } (Bytes.ofText "[\"a:1\", null]") := by
  have spelt : Json.SpellsAll "a:1".toList _ := .raw (by decide)
  have value : Json.Element { listenAddr := some "a:1" } .listenAddr _ := Json.Quotes.mk spelt
  have null : Json.Element { listenAddr := some "a:1" } .backendAddr (Bytes.ofText "null") := rfl
  have space : IsSpaces [0x20] := by decide
  have elements : Separated (Json.Element { listenAddr := some "a:1" })
      [.listenAddr, .backendAddr] _ := .more (.bare value) (.one (.mk space null Json.isSpaces_nil))
  have covered : ∀ field : Field, Overrides.get { listenAddr := some "a:1" } field ≠ none →
      field ∈ [Field.listenAddr, .backendAddr] := by
    intro field
    cases field <;> decide
  have front : [Field.listenAddr, .backendAddr] <+: Field.all := by decide
  exact .mk front covered elements

private theorem members_repeated : Separated AnyMember ["key_file_path", "key_file_path"]
    (Bytes.ofText "\"key_file_path\":null,\"key_file_path\":null") := by
  have null : Json.AnyValue (Bytes.ofText "null") := .word (by decide)
  have member : AnyMember "key_file_path" _ :=
    .mk (.name .keyFilePath) Json.isSpaces_nil Json.isSpaces_nil null
  exact .more (.bare member) (.one (.bare member))

private theorem members_unknown : Separated AnyMember ["buffer_size", "size"]
    (Bytes.ofText "\"buffer_size\":1.5,\"size\":null") := by
  have real : Json.AnyValue (Bytes.ofText "1.5") := by
    have point : ∀ b ∈ ['.'.toUInt8, '5'.toUInt8].head?,
        b ∈ (['.'.toUInt8, 'e'.toUInt8, 'E'.toUInt8] : Bytes) := by
      rintro b ⟨⟩
      decide
    have number : Json.AnyValue ([] ++ ['1'.toUInt8] ++ ['.'.toUInt8, '5'.toUInt8]) :=
      .number (by decide) (by decide) (by decide) point
    exact number
  have null : Json.AnyValue (Bytes.ofText "null") := .word (by decide)
  have spelt : Json.SpellsAll "size".toList _ := .raw (by decide)
  have size : AnyMember "buffer_size" _ :=
    .mk (.name .bufferSize) Json.isSpaces_nil Json.isSpaces_nil real
  have unknown : AnyMember "size" _ := .mk ⟨spelt⟩ Json.isSpaces_nil Json.isSpaces_nil null
  exact .more (.bare size) (.one (.bare unknown))

theorem fromJson_accepts_only_oneOfFour :
    fromJson (Bytes.ofText "[\"a:1\", null]") = .ok { listenAddr := some "a:1" } ∧
      (∃ fault, fromJson (Bytes.ofText
        "\x7b\"key_file_path\":null,\"key_file_path\":null\x7d") = .error fault) ∧
      (∃ fault, fromJson (Bytes.ofText "\x7b\"buffer_size\":1.5,\"size\":null\x7d") =
        .error fault) ∧
      ∃ fault, fromJson (Bytes.ofText "[]0") = .error fault := by
  have bare := Json.isSpaces_nil
  have empty : Listing .unset (Bytes.ofText "[]") := by
    have covered : ∀ field : Field, Overrides.unset.get field ≠ none → field ∈ [] := by
      intro field
      cases field <;> decide
    exact .mk List.nil_prefix covered (.none bare)
  refine ⟨?_, ?_, ?_, ?_⟩
  · exact ((fromJson_accepts_only _).1 _).mpr (.inr (.inr (.bare listing_oneOfTwo)))
  · exact (fromJson_accepts_only _).2.1 [] _ _ [] bare members_repeated rfl (.inl (by decide))
  · have unknown : ∀ field : Field, field.name ≠ "size" := by
      intro field
      cases field <;> decide
    exact (fromJson_accepts_only _).2.1 [] _ _ [] bare members_unknown rfl
      (.inr ⟨"size", by decide, unknown⟩)
  · exact (fromJson_accepts_only _).2.2 .unset [] _ ['0'.toUInt8] bare (.inr empty) rfl (by decide)

end StreamRelay.Settings
