import StreamRelay.Proofs.Json.Numerals
import StreamRelay.Json.Document

set_option autoImplicit false
set_option relaxedAutoImplicit false

namespace StreamRelay.Json

open Settings (Shape)

theorem isSpace_of_isDigit {b : UInt8} (digit : isDigit b = true) :
    isSpace b = false ∧ b ≠ 'n'.toUInt8 ∧ b ≠ ']'.toUInt8 := by
  refine ⟨?_, ?_, ?_⟩
  · cases space : isSpace b with
    | false => rfl
    | true =>
      simp only [isSpace, Bool.or_eq_true, decide_eq_true_eq, or_assoc] at space
      rcases space with rfl | rfl | rfl | rfl <;> contradiction
  all_goals
    rintro rfl
    contradiction

private theorem readNumber_decimal (n : Int64) {rest : Bytes} (after : IsAfterValue rest) :
    readNumber (Bytes.ofText (String.ofList (Number.decimal n.toInt)) ++ rest) =
      .ok (n, rest) := by
  have least := n.le_toInt
  have most := n.toInt_lt
  have read := readNumeral_decimal least most after
  obtain ⟨c, cs, written, first⟩ := exists_decimal_eq_cons n.toInt
  rw [Text.Utf8.ofText_ofList fun c member => Number.toNat_lt_of_mem_decimal member]
  rw [written, List.map_cons, List.cons_append] at read ⊢
  have digits : (c.toUInt8 = '-'.toUInt8 || isDigit c.toUInt8) = true := by
    simpa using first
  rw [readNumber, if_pos digits, read]
  by_cases negative : n.toInt < 0
  · rw [if_pos negative]
    exact congrArg (fun m => Except.ok (m, rest)) (Number.ofInt_neg_natAbs negative)
  · have fits : n.toInt.natAbs < 0x8000000000000000 := by omega
    rw [if_neg negative]
    exact (if_pos fits).trans
      (congrArg (fun m => Except.ok (m, rest)) (Number.ofNat_natAbs negative))

private theorem readWord_append (word rest : Bytes) : readWord word (word ++ rest) = .ok rest := by
  induction word with
  | nil => rw [List.nil_append, readWord]
  | cons letter word ih => rw [List.cons_append, readWord, if_pos rfl, ih]

private theorem Quotes.readText {s : String} {text : Bytes} (quoted : Quotes s text) (shape : Shape)
    (rest : Bytes) : Json.readText shape (text ++ rest) = .ok (s, rest) := by
  obtain ⟨spelt⟩ := quoted
  have read := spelt.read rest
  rw [List.append_assoc, List.cons_append, List.cons_append, List.nil_append, Json.readText,
    if_pos rfl, read]
  exact congrArg (fun s => Except.ok (s, rest)) String.ofList_toList

private theorem readSwitch_append (on : Bool) (rest : Bytes) :
    readSwitch (Bytes.ofText (if on then "true" else "false") ++ rest) = .ok (on, rest) := by
  cases on with
  | true =>
    have word : Bytes.ofText "true" = 't'.toUInt8 :: [0x72, 0x75, 0x65] := by decide
    rw [if_pos rfl, word, List.cons_append, readSwitch, if_pos rfl, readWord_append]
    rfl
  | false =>
    have word : Bytes.ofText "false" = 'f'.toUInt8 :: [0x61, 0x6C, 0x73, 0x65] := by decide
    rw [if_neg Bool.false_ne_true, word, List.cons_append, readSwitch, if_neg (by decide),
      if_pos rfl, readWord_append]
    rfl

private theorem Writes.head {shape : Shape} {value : shape.Value} {text : Bytes}
    (written : Writes shape value text) :
    ∃ b tail, text = b :: tail ∧ isSpace b = false ∧ b ≠ 'n'.toUInt8 ∧ b ≠ ']'.toUInt8 := by
  cases shape with
  | text | path =>
    obtain ⟨spelt⟩ := written
    exact ⟨_, _, rfl, by decide⟩
  | switch =>
    cases value with
    | true => exact ⟨'t'.toUInt8, [0x72, 0x75, 0x65], written, by decide⟩
    | false => exact ⟨'f'.toUInt8, [0x61, 0x6C, 0x73, 0x65], written, by decide⟩
  | number =>
    obtain ⟨c, cs, decimal, first⟩ := exists_decimal_eq_cons (Int64.toInt value)
    have bytes := Text.Utf8.ofText_ofList fun c member =>
      Number.toNat_lt_of_mem_decimal (n := Int64.toInt value) member
    rw [decimal] at bytes
    refine ⟨c.toUInt8, cs.map Char.toUInt8, ?_, ?_⟩
    · have plain : text = Bytes.ofText (String.ofList (Number.decimal (Int64.toInt value))) :=
        written
      rw [plain, decimal, bytes, List.map_cons]
    · rcases first with dash | digit
      · rw [dash]
        decide
      · exact isSpace_of_isDigit digit

private theorem Writes.read {shape : Shape} {value : shape.Value} {text : Bytes}
    (written : Writes shape value text) {rest : Bytes} (after : IsAfterValue rest) :
    readShape shape (text ++ rest) = .ok (value, rest) := by
  cases shape with
  | text => exact written.readText .text rest
  | path => exact written.readText .path rest
  | switch =>
    rw [show text = _ from written]
    exact readSwitch_append value rest
  | number =>
    rw [show text = _ from written]
    exact readNumber_decimal value after

private theorem IsSpaces.isSpace {space : Bytes} (spaces : IsSpaces space) {b : UInt8}
    (member : b ∈ space) : Json.isSpace b = true := by
  have listed := spaces b member
  simp only [List.mem_cons, List.not_mem_nil, or_false] at listed
  rcases listed with rfl | rfl | rfl | rfl <;> decide

theorem IsSpaces.skipSpace {space : Bytes} (spaces : IsSpaces space) (text : Bytes) :
    Json.skipSpace (space ++ text) = Json.skipSpace text := by
  induction space with
  | nil => rfl
  | cons b space ih =>
    have first := spaces.isSpace (List.mem_cons_self ..)
    have others := ih fun d member => spaces d (List.mem_cons_of_mem _ member)
    rw [List.cons_append, Json.skipSpace, List.dropWhile_cons_of_pos first]
    exact others

theorem skipSpace_cons {b : UInt8} (token : isSpace b = false) (text : Bytes) :
    skipSpace (b :: text) = b :: text :=
  List.dropWhile_cons_of_neg (Bool.not_eq_true _ ▸ token)

theorem WritesOption.read {shape : Shape} {value : Option shape.Value} {text : Bytes}
    (written : WritesOption shape value text) {space rest : Bytes} (spaces : IsSpaces space)
    (after : IsAfterValue rest) : readValue shape (space ++ text ++ rest) = .ok (value, rest) := by
  rw [List.append_assoc, readValue, spaces.skipSpace]
  cases value with
  | none =>
    have word : Bytes.ofText "null" = 'n'.toUInt8 :: [0x75, 0x6C, 0x6C] := by decide
    rw [show text = _ from written, word, List.cons_append, skipSpace_cons (by decide)]
    simp only [if_true, readWord_append]
    rfl
  | some value =>
    have read := Writes.read written after
    obtain ⟨b, tail, rfl, token, other, -⟩ := Writes.head written
    rw [List.cons_append] at read ⊢
    rw [skipSpace_cons token]
    simp only [if_neg other, read]
    rfl

theorem WritesOption.head {shape : Shape} {value : Option shape.Value} {text : Bytes}
    (written : WritesOption shape value text) :
    ∃ b tail, text = b :: tail ∧ isSpace b = false ∧ b ≠ ']'.toUInt8 := by
  cases value with
  | none => exact ⟨'n'.toUInt8, [0x75, 0x6C, 0x6C], written, by decide⟩
  | some value =>
    obtain ⟨b, tail, same, token, -, other⟩ := Writes.head written
    exact ⟨b, tail, same, token, other⟩

theorem exists_of_bind_eq_ok {α β : Type} {first : Except Fault α} {next : α → Except Fault β}
    {value : β} (read : first >>= next = .ok value) : ∃ a, first = .ok a ∧ next a = .ok value := by
  cases first with
  | error fault => cases read
  | ok a => exact ⟨a, rfl, read⟩

private theorem readWord_eq_ok {word text rest : Bytes} (read : readWord word text = .ok rest) :
    text = word ++ rest := by
  induction word generalizing text with
  | nil => exact Except.ok.inj read
  | cons letter word ih =>
    cases text with
    | nil => cases read
    | cons b text =>
      unfold readWord at read
      split at read
      · rename_i same
        rw [same, ih read, List.cons_append]
      · cases read

theorem refuse_ne_ok {α : Type} (wanted : Wanted) (text : Bytes) (value : α) :
    refuse wanted text ≠ .ok value := by
  intro read
  have word (letters rest : Bytes) (cause : Cause)
      (read : (readWord letters rest >>= faultHere cause : Except Fault α) = .ok value) :
      False := by
    obtain ⟨after, -, read⟩ := exists_of_bind_eq_ok read
    cases read
  unfold refuse at read
  split at read
  · cases read
  split at read
  · exact word _ _ _ read
  split at read
  · exact word _ _ _ read
  split at read
  · exact word _ _ _ read
  split at read
  · obtain ⟨⟨numeral, after⟩, -, read⟩ := exists_of_bind_eq_ok read
    cases numeral <;> cases read
  split at read
  · obtain ⟨⟨s, after⟩, -, read⟩ := exists_of_bind_eq_ok read
    cases read
  split at read
  · cases read
  split at read <;> cases read

private theorem Quotes.of_readText {shape : Shape} {text rest : Bytes} {s : String}
    (read : Json.readText shape text = .ok (s, rest)) :
    ∃ quoted, Quotes s quoted ∧ text = quoted ++ rest := by
  unfold Json.readText at read
  split at read
  · cases read
  split at read
  · rename_i b text quote
    obtain ⟨⟨cs, after⟩, string, same⟩ := exists_of_bind_eq_ok read
    obtain ⟨rfl, rfl⟩ := Prod.mk.inj (Except.ok.inj same)
    obtain ⟨-, body, spelt, rfl⟩ := SpellsAll.of_readStringFrom string
    refine ⟨'"'.toUInt8 :: body ++ ['"'.toUInt8], ⟨?_⟩, by simp [quote]⟩
    rwa [String.toList_ofList]
  · exact (refuse_ne_ok _ _ _ read).elim

private theorem readSwitch_eq_ok {text rest : Bytes} {on : Bool}
    (read : readSwitch text = .ok (on, rest)) :
    text = Bytes.ofText (Shape.plain .switch on) ++ rest := by
  unfold readSwitch at read
  split at read
  · cases read
  split at read
  · rename_i letter
    obtain ⟨after, word, same⟩ := exists_of_bind_eq_ok read
    obtain ⟨rfl, rfl⟩ := Prod.mk.inj (Except.ok.inj same)
    rw [letter, readWord_eq_ok word]
    rfl
  split at read
  · rename_i letter
    obtain ⟨after, word, same⟩ := exists_of_bind_eq_ok read
    obtain ⟨rfl, rfl⟩ := Prod.mk.inj (Except.ok.inj same)
    rw [letter, readWord_eq_ok word]
    rfl
  · exact (refuse_ne_ok _ _ _ read).elim

theorem readNumber_eq_ok {n : Int64} {text rest : Bytes} (read : readNumber text = .ok (n, rest)) :
    text = Bytes.ofText (Shape.plain .number n) ++ rest ∧ EndsNumber rest := by
  have plain (m : Int) (same : n.toInt = m) :
      Bytes.ofText (Shape.plain .number n) = (Number.decimal m).map Char.toUInt8 := by
    rw [← same]
    exact Text.Utf8.ofText_ofList fun c member => Number.toNat_lt_of_mem_decimal member
  unfold readNumber at read
  split at read
  · cases read
  split at read
  · obtain ⟨⟨numeral, after⟩, found, read⟩ := exists_of_bind_eq_ok read
    rcases readNumeral_eq_ok found with real | ⟨ends, m, written, outcome⟩
    · cases numeral with
      | real x => cases read
      | _ => exact real.elim
    · rcases outcome with ⟨natural, rfl⟩ | ⟨negative, least, rfl⟩
      · dsimp only at read
        split at read
        · rename_i within
          obtain ⟨rfl, rfl⟩ := Prod.mk.inj (Except.ok.inj read)
          refine ⟨?_, ends⟩
          rw [plain m, written]
          rw [Int64.toInt_ofNat_of_lt within]
          omega
        · cases read
      · obtain ⟨rfl, rfl⟩ := Prod.mk.inj (Except.ok.inj read)
        refine ⟨?_, ends⟩
        rw [plain m, written]
        rw [Int64.toInt_ofInt_of_le (by omega) (by omega)]
        omega
  · exact (refuse_ne_ok _ _ _ read).elim

private theorem Writes.of_readShape {shape : Shape} {value : shape.Value} {text rest : Bytes}
    (read : readShape shape text = .ok (value, rest)) :
    ∃ written, Writes shape value written ∧ text = written ++ rest := by
  cases shape with
  | text => exact Quotes.of_readText read
  | path => exact Quotes.of_readText read
  | switch => exact ⟨_, rfl, readSwitch_eq_ok read⟩
  | number => exact ⟨_, rfl, (readNumber_eq_ok read).1⟩

private theorem isSpaces_takeWhile (text : Bytes) : IsSpaces (text.takeWhile isSpace) := by
  intro b member
  have space := List.all_eq_true.mp List.all_takeWhile b member
  simp only [isSpace, Bool.or_eq_true, decide_eq_true_eq, or_assoc] at space
  simpa using space

theorem exists_space (text : Bytes) : ∃ space, IsSpaces space ∧ text = space ++ skipSpace text :=
  ⟨text.takeWhile isSpace, isSpaces_takeWhile text, List.takeWhile_append_dropWhile.symm⟩

theorem WritesOption.of_readValue {shape : Shape} {value : Option shape.Value} {text rest : Bytes}
    (read : readValue shape text = .ok (value, rest)) :
    ∃ space written, IsSpaces space ∧ WritesOption shape value written ∧
      text = space ++ (written ++ rest) := by
  obtain ⟨space, spaces, split⟩ := exists_space text
  refine ⟨space, ?_⟩
  unfold readValue at read
  split at read
  · cases read
  rename_i b tail token
  rw [token] at split
  split at read
  · rename_i letter
    obtain ⟨after, word, same⟩ := exists_of_bind_eq_ok read
    obtain ⟨rfl, rfl⟩ := Prod.mk.inj (Except.ok.inj same)
    refine ⟨Bytes.ofText "null", spaces, rfl, ?_⟩
    rw [split, letter, readWord_eq_ok word]
    rfl
  · obtain ⟨⟨found, after⟩, shaped, same⟩ := exists_of_bind_eq_ok read
    obtain ⟨rfl, rfl⟩ := Prod.mk.inj (Except.ok.inj same)
    obtain ⟨written, writes, bytes⟩ := Writes.of_readShape shaped
    exact ⟨written, spaces, writes, by rw [split, bytes]⟩

end StreamRelay.Json
