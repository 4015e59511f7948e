import StreamRelay.Proofs.Json.Objects

set_option autoImplicit false
set_option relaxedAutoImplicit false

namespace StreamRelay.Json

open Settings (Field Overrides Shape)

/-- A value of whatever type, or what opens a list or an object. -/
inductive AnyValue : Bytes → Prop
  | word {word : String} : word ∈ ["null", "true", "false"] → AnyValue (Bytes.ofText word)
  | string {s : String} {text : Bytes} : Quotes s text → AnyValue text
  | number {sign digits tail : Bytes} : sign ∈ ([[], ['-'.toUInt8]] : List Bytes) →
      digits ≠ [] → digits.all isDigit = true →
      (∀ b ∈ tail.head?, b ∈ (['.'.toUInt8, 'e'.toUInt8, 'E'.toUInt8] : Bytes)) →
      AnyValue (sign ++ digits ++ tail)
  | opened {b : UInt8} {text : Bytes} : b ∈ (['['.toUInt8, 0x7B] : Bytes) → AnyValue (b :: text)

/-- A member of whatever key and value. -/
inductive AnyMember (key : String) : Bytes → Prop
  | mk {name before after value : Bytes} : Quotes key name → IsSpaces before → IsSpaces after →
      AnyValue value → AnyMember key (name ++ before ++ ':'.toUInt8 :: after ++ value)

def begins : Shape → UInt8 → Bool
  | .text, b => b = '"'.toUInt8
  | .path, b => b = '"'.toUInt8
  | .switch, b => b = 't'.toUInt8 || b = 'f'.toUInt8
  | .number, b => b = '-'.toUInt8 || isDigit b

private theorem begins_of_readShape {shape : Shape} {b : UInt8} {text rest : Bytes}
    {value : shape.Value}
    (read : readShape shape (b :: text) = .ok (value, rest)) : begins shape b = true := by
  have string {s : String} (read : readText shape (b :: text) = .ok (s, rest)) :
      decide (b = '"'.toUInt8) = true := by
    rw [readText] at read
    split at read
    · exact decide_eq_true ‹_›
    · exact (refuse_ne_ok _ _ _ read).elim
  cases shape with
  | text => exact string read
  | path => exact string read
  | switch =>
    rw [readShape, readSwitch] at read
    split at read
    · exact Bool.or_eq_true_iff.mpr (.inl (decide_eq_true ‹_›))
    split at read
    · exact Bool.or_eq_true_iff.mpr (.inr (decide_eq_true ‹_›))
    · exact (refuse_ne_ok _ _ _ read).elim
  | number =>
    rw [readShape, readNumber] at read
    split at read
    · assumption
    · exact (refuse_ne_ok _ _ _ read).elim

private theorem readValue_eq_ok {shape : Shape} {value : Option shape.Value} {space : Bytes}
    (spaces : IsSpaces space) {b : UInt8} (token : isSpace b = false) {text rest : Bytes}
    (read : readValue shape (space ++ b :: text) = .ok (value, rest)) :
    b = 'n'.toUInt8 ∨ begins shape b = true ∧
      ∃ found, readShape shape (b :: text) = .ok (found, rest) := by
  rw [readValue, spaces.skipSpace, skipSpace_cons token] at read
  dsimp only at read
  split at read
  · exact .inl ‹_›
  · obtain ⟨⟨found, after⟩, shaped, same⟩ := exists_of_bind_eq_ok read
    obtain ⟨-, rfl⟩ := Prod.mk.inj (Except.ok.inj same)
    exact .inr ⟨begins_of_readShape shaped, found, shaped⟩

def behindDigits : Bytes → Bytes
  | [] => []
  | b :: text => if b = '-'.toUInt8 then text.dropWhile isDigit else (b :: text).dropWhile isDigit

private theorem behindDigits_append {sign digits rest : Bytes}
    (signs : sign ∈ ([[], ['-'.toUInt8]] : List Bytes)) (some : digits ≠ [])
    (all : digits.all isDigit = true) (stops : ∀ b ∈ rest.head?, isDigit b = false) :
    behindDigits (sign ++ digits ++ rest) = rest := by
  have behind : (digits ++ rest).dropWhile isDigit = rest := by
    rw [List.dropWhile_append_of_pos (List.all_eq_true.mp all)]
    cases rest with
    | nil => rfl
    | cons b rest => exact List.dropWhile_cons_of_neg (Bool.eq_false_iff.mp (stops b rfl))
  simp only [List.mem_cons, List.not_mem_nil, or_false] at signs
  rcases signs with rfl | rfl
  · cases digits with
    | nil => contradiction
    | cons d digits =>
      have other : d ≠ '-'.toUInt8 := by
        rintro rfl
        rw [List.all_cons, Bool.and_eq_true] at all
        exact absurd all.1 (by decide)
      exact (if_neg other).trans behind
  · rw [List.append_assoc, List.cons_append, List.nil_append, behindDigits, if_pos rfl, behind]

private theorem IsAfterValue.endsNumber {rest : Bytes} (after : IsAfterValue rest) :
    EndsNumber rest := by
  obtain ⟨b, tail, rfl, stops⟩ := after.stops
  intro d first
  obtain rfl := Option.some.inj first
  exact stops

private theorem behindDigits_decimal (n : Int) {rest : Bytes} (ends : EndsNumber rest) :
    behindDigits ((Number.decimal n).map Char.toUInt8 ++ rest) = rest := by
  have all : ((Nat.toDigits 10 n.natAbs).map Char.toUInt8).all isDigit = true := by
    rw [List.all_map, List.all_eq_true]
    intro c member
    exact (isDigit_toUInt8 (Number.isDigit_of_mem_toDigits member)).1
  have some : (Nat.toDigits 10 n.natAbs).map Char.toUInt8 ≠ [] := by
    simp
  have stops : ∀ b ∈ rest.head?, isDigit b = false := fun b first => (ends b first).1
  by_cases negative : n < 0
  · rw [Number.decimal, if_pos negative]
    have minus : ['-'.toUInt8] ∈ ([[], ['-'.toUInt8]] : List Bytes) := by decide
    exact behindDigits_append minus some all stops
  · rw [Number.decimal, if_neg negative]
    exact behindDigits_append (List.mem_cons_self ..) some all stops

private theorem exists_number_head {sign digits : Bytes}
    (signs : sign ∈ ([[], ['-'.toUInt8]] : List Bytes))
    (some : digits ≠ []) (all : digits.all isDigit = true) (tail : Bytes) :
    ∃ b behind, sign ++ digits ++ tail = b :: behind ∧ isSpace b = false ∧ b ≠ 'n'.toUInt8 ∧
      ∀ shape, begins shape b = true → shape = .number := by
  simp only [List.mem_cons, List.not_mem_nil, or_false] at signs
  rcases signs with rfl | rfl
  · cases digits with
    | nil => contradiction
    | cons d digits =>
      rw [List.all_cons, Bool.and_eq_true] at all
      obtain ⟨token, other, -⟩ := isSpace_of_isDigit all.1
      refine ⟨d, digits ++ tail, rfl, token, other, ?_⟩
      intro shape begun
      cases shape with
      | number => rfl
      | text | path =>
        obtain rfl := of_decide_eq_true begun
        exact absurd all.1 (by decide)
      | switch =>
        rw [begins, Bool.or_eq_true, decide_eq_true_eq, decide_eq_true_eq] at begun
        rcases begun with rfl | rfl <;> exact absurd all.1 (by decide)
  · refine ⟨'-'.toUInt8, digits ++ tail, rfl, by decide, by decide, ?_⟩
    intro shape begun
    cases shape with
    | number => rfl
    | text | path | switch => contradiction

private theorem AnyValue.readValue {text : Bytes} (any : AnyValue text) {space : Bytes}
    (spaces : IsSpaces space) {rest behind : Bytes} (after : IsAfterValue rest) {shape : Shape}
    {value : Option shape.Value}
    (read : Json.readValue shape (space ++ text ++ rest) = .ok (value, behind)) :
    behind = rest := by
  have done (found : Option shape.Value) (written : WritesOption shape found text) :
      behind = rest := by
    rw [written.read spaces after] at read
    exact (Prod.mk.inj (Except.ok.inj read)).2.symm
  have shaped {b : UInt8} {tail : Bytes} (bytes : text = b :: tail) (token : isSpace b = false)
      (other : b ≠ 'n'.toUInt8) : begins shape b = true ∧
        ∃ found, readShape shape (text ++ rest) = .ok (found, behind) := by
    rw [bytes, List.append_assoc, List.cons_append] at read
    rw [bytes, List.cons_append]
    exact (readValue_eq_ok spaces token read).resolve_left other
  cases any with
  | word listed =>
    simp only [List.mem_cons, List.not_mem_nil, or_false] at listed
    rcases listed with rfl | rfl | rfl
    · exact done none rfl
    · cases shape with
      | switch => exact done (some true) rfl
      | text | path | number =>
        have begun := (shaped (b := 't'.toUInt8) rfl (by decide) (by decide)).1
        contradiction
    · cases shape with
      | switch => exact done (some false) rfl
      | text | path | number =>
        have begun := (shaped (b := 'f'.toUInt8) rfl (by decide) (by decide)).1
        contradiction
  | @string s _ quoted =>
    cases shape with
    | text | path => exact done (some s) quoted
    | switch | number =>
      obtain ⟨-⟩ := quoted
      have begun := (shaped (b := '"'.toUInt8) rfl (by decide) (by decide)).1
      contradiction
  | @number sign digits tail signs some all goes =>
    obtain ⟨b, others, bytes, token, other, numeric⟩ := exists_number_head signs some all tail
    obtain ⟨begun, found, read⟩ := shaped bytes token other
    obtain rfl := numeric shape begun
    obtain ⟨same, ends⟩ := readNumber_eq_ok read
    have plain : Bytes.ofText (Shape.plain .number found) =
        (Number.decimal (Int64.toInt found)).map Char.toUInt8 :=
      Text.Utf8.ofText_ofList fun c member => Number.toNat_lt_of_mem_decimal member
    have stops : ∀ b ∈ (tail ++ rest).head?, isDigit b = false := by
      cases tail with
      | nil => exact fun b first => (after.endsNumber b first).1
      | cons d tail =>
        intro b first
        obtain rfl := Option.some.inj first
        have listed := goes d rfl
        simp only [List.mem_cons, List.not_mem_nil, or_false] at listed
        rcases listed with rfl | rfl | rfl <;> decide
    have split : tail ++ rest = behind := by
      rw [← behindDigits_append signs some all stops, ← behindDigits_decimal _ ends, ← plain,
        ← same, List.append_assoc, List.append_assoc, List.append_assoc]
    -- The number that is read ends where no number goes on, so nothing stands behind its digits.
    cases tail with
    | nil => exact split.symm
    | cons d tail =>
      rw [← split] at ends
      obtain ⟨-, point, small, large⟩ := ends d rfl
      have listed := goes d rfl
      simp only [List.mem_cons, List.not_mem_nil, or_false] at listed
      rcases listed with rfl | rfl | rfl <;> contradiction
  | @opened b _ listed =>
    have opened : isSpace b = false ∧ b ≠ 'n'.toUInt8 ∧ ∀ shape, begins shape b = false := by
      simp only [List.mem_cons, List.not_mem_nil, or_false] at listed
      rcases listed with rfl | rfl
      all_goals
        refine ⟨by decide, by decide, ?_⟩
        intro shape
        cases shape <;> decide
    obtain ⟨token, other, refused⟩ := opened
    have begun := (shaped rfl token other).1
    rw [refused shape] at begun
    cases begun

private theorem AnyMember.read {key : String} {text : Bytes} (any : AnyMember key text)
    {first : Bool}
    {lead : Bytes} (opens : Opens first lead) {free : List Field} {filled o : Overrides}
    {rest behind : Bytes} (after : IsAfterValue rest)
    (read : readMembers first free filled (lead ++ text ++ rest) = .ok (o, behind)) :
    ∃ field value, field ∈ free ∧ field.name = key ∧
      readMembers false (free.erase field) (filled.set field value) rest = .ok (o, behind) := by
  obtain ⟨⟨spelt⟩, left, right, any⟩ := any
  rename_i before behind' value body
  have parts : lead ++ ('"'.toUInt8 :: body ++ ['"'.toUInt8] ++ before ++ ':'.toUInt8 :: behind' ++
      value) ++ rest = lead ++ '"'.toUInt8 :: (body ++ '"'.toUInt8 ::
        (before ++ ':'.toUInt8 :: (behind' ++ value ++ rest))) := by
    simp
  rw [parts, readMembers, opens.nextKey] at read
  simp only [bind, Except.bind, spelt.read, String.ofList_toList] at read
  split at read
  · exact (faultAfterKey_ne_ok _ _ _ read).elim
  rename_i field named
  split at read
  · rename_i unnamed
    rw [readColon_append left] at read
    obtain ⟨⟨found, reached⟩, valued, onward⟩ := exists_of_bind_eq_ok read
    obtain rfl := any.readValue right after valued
    exact ⟨field, found, unnamed, Field.name_of_named? named, onward⟩
  · exact (faultAfterKey_ne_ok _ _ _ read).elim

theorem Remains.keys_of_readMembers {first : Bool} {keys : List String} {text : Bytes}
    (remains : Remains AnyMember 0x7D first keys text) {free : List Field} (distinct : free.Nodup)
    {filled o : Overrides} {rest behind : Bytes}
    (read : Json.readMembers first free filled (text ++ rest) = .ok (o, behind)) :
    keys.Nodup ∧ ∀ key ∈ keys, ∃ field ∈ free, field.name = key := by
  induction remains generalizing free filled with
  | closed => exact ⟨.nil, fun key listed => nomatch listed⟩
  | @cons first key keys lead text remaining opens member remains ih =>
    rw [List.append_assoc] at read
    obtain ⟨field, value, unnamed, name, onward⟩ :=
      member.read opens (remains.isAfterValue (by decide) rest) read
    obtain ⟨apart, names⟩ := ih (distinct.erase field) onward
    have other : key ∉ keys := by
      intro listed
      obtain ⟨again, free', same⟩ := names key listed
      have named := Field.named?_name field
      rw [name, ← same, Field.named?_name] at named
      obtain rfl := Option.some.inj named
      exact distinct.not_mem_erase free'
    refine ⟨List.nodup_cons.mpr ⟨other, apart⟩, ?_⟩
    intro other listed
    rcases List.mem_cons.mp listed with rfl | listed
    · exact ⟨field, unnamed, name⟩
    · obtain ⟨found, free', same⟩ := names other listed
      exact ⟨found, List.mem_of_mem_erase free', same⟩

end StreamRelay.Json
