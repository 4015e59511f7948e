import StreamRelay.Proofs.Json.Grammar
import StreamRelay.Proofs.Text.Utf8
import StreamRelay.Json.Scalar

set_option autoImplicit false
set_option relaxedAutoImplicit false

namespace StreamRelay.Json

private theorem hexValue?_digitChar : ∀ n < 16, hexValue? (Nat.digitChar n).toUInt8 = some n ∧
    hexValue? (Nat.digitChar n).toUpper.toUInt8 = some n := by
  decide

private theorem HexDigit.hexValue? {n : Nat} {b : UInt8} (digit : HexDigit n b) :
    Json.hexValue? b = some n := by
  obtain ⟨small, rfl | rfl⟩ := digit
  · exact (hexValue?_digitChar n small).1
  · exact (hexValue?_digitChar n small).2

private theorem HexWord.lt {n : Nat} {word : Bytes} (spelt : HexWord n word) : n < 0x10000 := by
  obtain ⟨⟨first, -⟩, -, -, -⟩ := spelt
  omega

private theorem HexWord.read {n : Nat} {word : Bytes} (spelt : HexWord n word) (rest : Bytes) :
    readHexWord (word ++ rest) = .ok (n, rest) := by
  obtain ⟨a, b, c, d⟩ := spelt
  have whole : ((n / 0x1000 * 16 + n / 0x100 % 16) * 16 + n / 0x10 % 16) * 16 + n % 16 = n := by
    omega
  simp only [List.cons_append, List.nil_append, readHexWord, hexWord?, a.hexValue?, b.hexValue?,
    c.hexValue?, d.hexValue?, Option.bind_eq_bind, Option.bind_some, Option.pure_def, whole]

private theorem readEscape_letter {c letter : Char} (listed : (c, letter) ∈ letterEscapes)
    (rest : Bytes) : readEscape (letter.toUInt8 :: rest) = .ok (c, rest) := by
  simp only [letterEscapes, List.mem_cons, Prod.mk.injEq, List.not_mem_nil, or_false] at listed
  rcases listed with h | h | h | h | h | h | h | h <;> obtain ⟨rfl, rfl⟩ := h <;> rfl

private theorem readEscape_word {c : Char} {word : Bytes} (spelt : HexWord c.toNat word)
    (rest : Bytes) : readEscape ('u'.toUInt8 :: word ++ rest) = .ok (c, rest) := by
  have valid : c.toNat.isValidChar := c.valid
  have plain : ¬ (0xDC00 ≤ c.toNat ∧ c.toNat < 0xE000) ∧
      ¬ (0xD800 ≤ c.toNat ∧ c.toNat < 0xDC00) := by
    simp only [Nat.isValidChar] at valid
    omega
  have read : readCodePoint (word ++ rest) = .ok (c, rest) := by
    simp only [readCodePoint, spelt.read, Bool.and_eq_true, decide_eq_true_eq, if_neg plain.1,
      if_neg plain.2, Char.ofNat_toNat]
  exact read

private theorem readPair_pair {n high : Nat} {low : Bytes} (spelt : HexWord n low)
    (second : 0xDC00 ≤ n ∧ n < 0xE000) (rest : Bytes) :
    readPair high ('\\'.toUInt8 :: 'u'.toUInt8 :: low ++ rest) =
      .ok (Char.ofNat (0x10000 + (high - 0xD800) * 0x400 + (n - 0xDC00)), rest) := by
  simp only [List.cons_append, readPair, ne_eq, not_true_eq_false, if_false, spelt.read,
    Bool.and_eq_true, decide_eq_true_eq, if_pos second]

private theorem readEscape_pair {c : Char} {highText lowText : Bytes} (beyond : 0x10000 ≤ c.toNat)
    (first : HexWord (0xD800 + (c.toNat - 0x10000) / 0x400) highText)
    (second : HexWord (0xDC00 + (c.toNat - 0x10000) % 0x400) lowText) (rest : Bytes) :
    readEscape ('u'.toUInt8 :: highText ++ '\\'.toUInt8 :: 'u'.toUInt8 :: lowText ++ rest) =
      .ok (c, rest) := by
  have bound := Text.Utf8.toNat_lt c
  have high : ¬ (0xDC00 ≤ 0xD800 + (c.toNat - 0x10000) / 0x400 ∧
        0xD800 + (c.toNat - 0x10000) / 0x400 < 0xE000) ∧
      (0xD800 ≤ 0xD800 + (c.toNat - 0x10000) / 0x400 ∧
        0xD800 + (c.toNat - 0x10000) / 0x400 < 0xDC00) := by
    omega
  have low : 0xDC00 ≤ 0xDC00 + (c.toNat - 0x10000) % 0x400 ∧
      0xDC00 + (c.toNat - 0x10000) % 0x400 < 0xE000 := by
    omega
  have whole : 0x10000 + (0xD800 + (c.toNat - 0x10000) / 0x400 - 0xD800) * 0x400 +
      (0xDC00 + (c.toNat - 0x10000) % 0x400 - 0xDC00) = c.toNat := by
    omega
  have read : readCodePoint (highText ++ '\\'.toUInt8 :: 'u'.toUInt8 :: lowText ++ rest) =
      .ok (c, rest) := by
    rw [List.append_assoc]
    simp only [readCodePoint, first.read, Bool.and_eq_true, decide_eq_true_eq, if_neg high.1,
      if_pos high.2, readPair_pair second low, whole, Char.ofNat_toNat]
  exact read

private theorem readStringFrom_raw {lead : UInt8} {c : Char} {text rest : Bytes}
    (quote : lead ≠ '"'.toUInt8) (escape : lead ≠ '\\'.toUInt8) (plain : ¬ lead < 0x20)
    (read : Text.Utf8.charAt? lead text = some (c, rest)) :
    readStringFrom none (lead :: text) = consChar c (readStringFrom none rest) := by
  rw [readStringFrom, if_neg quote, if_neg escape, if_neg plain]
  split
  · rename_i found
    rw [read] at found
    cases found
    rfl
  · rename_i found
    rw [read] at found
    cases found

private theorem readStringFrom_escape {c : Char} {text rest : Bytes}
    (read : readEscape text = .ok (c, rest)) :
    readStringFrom none ('\\'.toUInt8 :: text) = consChar c (readStringFrom none rest) := by
  rw [readStringFrom, if_neg (by decide), if_pos rfl]
  split
  · rename_i found
    rw [read] at found
    cases found
  · rename_i found
    rw [read] at found
    cases found
    rfl

private theorem Spells.read {c : Char} {text : Bytes} (spelt : Spells c text) (rest : Bytes) :
    readStringFrom none (text ++ rest) = consChar c (readStringFrom none rest) := by
  cases spelt with
  | raw quote escape plain =>
    obtain ⟨lead, tail, encoded, read, size⟩ := Text.Utf8.charAt?_utf8EncodeChar c rest
    have char_eq {b : Char} (small : b.toNat < 0x80) (same : lead = b.toUInt8) : c = b := by
      have value : lead.toNat = b.toNat := by rw [same, Text.Utf8.toNat_toUInt8 (by omega)]
      exact Char.toNat_inj.mp (by omega)
    rw [encoded]
    refine readStringFrom_raw ?_ ?_ ?_ read
    · intro same
      exact quote (char_eq (by decide) same)
    · intro same
      exact escape (char_eq (by decide) same)
    · rw [UInt8.lt_iff_toNat_lt]
      simp only [UInt8.reduceToNat]
      omega
  | letter listed => exact readStringFrom_escape (readEscape_letter listed rest)
  | word spelt => exact readStringFrom_escape (readEscape_word spelt rest)
  | pair beyond first second =>
    exact readStringFrom_escape (readEscape_pair beyond first second rest)

theorem SpellsAll.read {cs : List Char} {body : Bytes} (spelt : SpellsAll cs body) (rest : Bytes) :
    readString (body ++ '"'.toUInt8 :: rest) = .ok (cs, rest) := by
  unfold readString
  induction spelt with
  | nil => rw [List.nil_append, readStringFrom, if_pos rfl]
  | cons spelt _ ih => rw [List.append_assoc, spelt.read, ih, consChar]

private theorem HexDigit.of_hexValue? {b : UInt8} {n : Nat} (read : Json.hexValue? b = some n) :
    HexDigit n b := by
  have table : ∀ m < 0x100, ∀ n ∈ Json.hexValue? (UInt8.ofNat m), HexDigit n (UInt8.ofNat m) := by
    decide +kernel
  have digit := table b.toNat b.toNat_lt n
  rw [UInt8.ofNat_toNat] at digit
  exact digit read

private theorem HexWord.of_readHexWord {text rest : Bytes} {n : Nat}
    (read : readHexWord text = .ok (n, rest)) : ∃ word, HexWord n word ∧ text = word ++ rest := by
  unfold readHexWord at read
  split at read
  · rename_i a b c d text
    split at read
    · rename_i m known
      obtain ⟨rfl, rfl⟩ := Prod.mk.inj (Except.ok.inj read)
      simp only [hexWord?, Option.bind_eq_bind, Option.pure_def, Option.bind_eq_some_iff] at known
      obtain ⟨i, first, j, second, k, third, l, fourth, whole⟩ := known
      have whole : ((i * 16 + j) * 16 + k) * 16 + l = m := Option.some.inj whole
      have first := HexDigit.of_hexValue? first
      have second := HexDigit.of_hexValue? second
      have third := HexDigit.of_hexValue? third
      have fourth := HexDigit.of_hexValue? fourth
      have small := And.intro first.1 (And.intro second.1 (And.intro third.1 fourth.1))
      refine ⟨[a, b, c, d], .mk ?_ ?_ ?_ ?_, rfl⟩
      · rwa [show m / 0x1000 = i by omega]
      · rwa [show m / 0x100 % 16 = j by omega]
      · rwa [show m / 0x10 % 16 = k by omega]
      · rwa [show m % 16 = l by omega]
    · cases read
  · cases read

private theorem Spells.of_readPair {high : Nat} {highText text rest : Bytes} {c : Char}
    (first : HexWord high highText) (surrogate : 0xD800 ≤ high ∧ high < 0xDC00)
    (read : readPair high text = .ok (c, rest)) :
    ∃ spelling, Spells c ('\\'.toUInt8 :: 'u'.toUInt8 :: highText ++ spelling) ∧
      text = spelling ++ rest := by
  unfold readPair at read
  split at read
  · cases read
  · split at read <;> cases read
  · rename_i a b text
    split at read
    · cases read
    split at read
    · cases read
    rename_i backslash letter
    obtain rfl := Decidable.not_not.mp backslash
    obtain rfl := Decidable.not_not.mp letter
    split at read
    · cases read
    · rename_i low rest' word
      obtain ⟨lowText, second, rfl⟩ := HexWord.of_readHexWord word
      split at read
      · rename_i within
        simp only [Bool.and_eq_true, decide_eq_true_eq] at within
        obtain ⟨rfl, rfl⟩ := Prod.mk.inj (Except.ok.inj read)
        have size := Text.Utf8.toNat_charOfNat
          (n := 0x10000 + (high - 0xD800) * 0x400 + (low - 0xDC00)) (.inr (by omega))
        refine ⟨'\\'.toUInt8 :: 'u'.toUInt8 :: lowText, .pair ?_ ?_ ?_, rfl⟩
        · omega
        · rwa [size, show 0xD800 + (0x10000 + (high - 0xD800) * 0x400 + (low - 0xDC00) -
            0x10000) / 0x400 = high by omega]
        · rwa [size, show 0xDC00 + (0x10000 + (high - 0xD800) * 0x400 + (low - 0xDC00) -
            0x10000) % 0x400 = low by omega]
      · cases read

private theorem Spells.of_readCodePoint {text rest : Bytes} {c : Char}
    (read : readCodePoint text = .ok (c, rest)) :
    ∃ spelling, Spells c ('\\'.toUInt8 :: 'u'.toUInt8 :: spelling) ∧ text = spelling ++ rest := by
  unfold readCodePoint at read
  split at read
  · cases read
  · rename_i n rest' known
    obtain ⟨word, spelt, rfl⟩ := HexWord.of_readHexWord known
    have small := spelt.lt
    split at read
    · cases read
    rename_i low
    simp only [Bool.and_eq_true, decide_eq_true_eq] at low
    split at read
    · rename_i high
      simp only [Bool.and_eq_true, decide_eq_true_eq] at high
      obtain ⟨spelling, pair, rfl⟩ := Spells.of_readPair spelt high read
      exact ⟨word ++ spelling, pair, (List.append_assoc ..).symm⟩
    · rename_i high
      simp only [Bool.and_eq_true, decide_eq_true_eq] at high
      obtain ⟨rfl, rfl⟩ := Prod.mk.inj (Except.ok.inj read)
      have valid : n.isValidChar := by
        simp only [Nat.isValidChar]
        omega
      refine ⟨word, .word ?_, rfl⟩
      rwa [Text.Utf8.toNat_charOfNat valid]

private theorem Spells.of_readEscape {text rest : Bytes} {c : Char}
    (read : readEscape text = .ok (c, rest)) :
    ∃ spelling, Spells c ('\\'.toUInt8 :: spelling) ∧ text = spelling ++ rest := by
  unfold readEscape at read
  split at read
  · cases read
  · rename_i b tail
    have letter {d e : Char} (listed : (d, e) ∈ letterEscapes) (same : b = e.toUInt8)
        (read : (Except.ok (d, tail) : Reading Char) = .ok (c, rest)) :
        ∃ spelling, Spells c ('\\'.toUInt8 :: spelling) ∧ b :: tail = spelling ++ rest := by
      obtain ⟨rfl, rfl⟩ := Prod.mk.inj (Except.ok.inj read)
      exact ⟨[e.toUInt8], .letter listed, by rw [same]; rfl⟩
    split at read
    · exact letter (e := '"') (by decide) ‹_› read
    split at read
    · exact letter (e := '\\') (by decide) ‹_› read
    split at read
    · exact letter (e := '/') (by decide) ‹_› read
    split at read
    · exact letter (e := 'b') (by decide) ‹_› read
    split at read
    · exact letter (e := 'f') (by decide) ‹_› read
    split at read
    · exact letter (e := 'n') (by decide) ‹_› read
    split at read
    · exact letter (e := 'r') (by decide) ‹_› read
    split at read
    · exact letter (e := 't') (by decide) ‹_› read
    split at read
    · rename_i u
      subst u
      obtain ⟨spelling, spelt, rfl⟩ := Spells.of_readCodePoint read
      exact ⟨'u'.toUInt8 :: spelling, spelt, rfl⟩
    · cases read

private theorem consChar_eq_ok {c : Char} {behind : Reading (List Char)} {cs : List Char}
    {rest : Bytes} (read : consChar c behind = .ok (cs, rest)) :
    ∃ others, cs = c :: others ∧ behind = .ok (others, rest) := by
  rcases behind with fault | ⟨others, rest'⟩
  · cases read
  · obtain ⟨rfl, rfl⟩ := Prod.mk.inj (Except.ok.inj read)
    exact ⟨others, rfl, rfl⟩

private theorem Spells.of_charAt? {lead : UInt8} {text rest : Bytes} {c : Char}
    (quote : lead ≠ '"'.toUInt8) (escape : lead ≠ '\\'.toUInt8) (plain : ¬ lead < 0x20)
    (read : Text.Utf8.charAt? lead text = some (c, rest)) :
    ∃ spelling, Spells c spelling ∧ lead :: text = spelling ++ rest := by
  have bytes := Text.Utf8.eq_of_charAt? read
  have first (ascii : c.toNat < 0x80) : lead = c.toUInt8 := by
    rw [Text.Utf8.utf8EncodeChar_ascii ascii] at bytes
    exact (List.cons.inj bytes).1
  refine ⟨String.utf8EncodeChar c, .raw ?_ ?_ ?_, bytes⟩
  · rintro rfl
    exact quote (first (by decide))
  · rintro rfl
    exact escape (first (by decide))
  · refine Nat.le_of_not_lt fun control => plain ?_
    rw [first (by omega), UInt8.lt_iff_toNat_lt, Text.Utf8.toNat_toUInt8 (by omega)]
    exact control

theorem SpellsAll.of_readStringFrom {bad : Option Nat} {text rest : Bytes} {cs : List Char}
    (read : readStringFrom bad text = .ok (cs, rest)) :
    bad = none ∧ ∃ body, SpellsAll cs body ∧ text = body ++ '"'.toUInt8 :: rest := by
  fun_induction readStringFrom bad text generalizing cs rest with
  | case1 => cases read
  | case2 => cases read
  | case3 text =>
    obtain ⟨rfl, rfl⟩ := Prod.mk.inj (Except.ok.inj read)
    exact ⟨rfl, [], .nil, rfl⟩
  | case4 => cases read
  | case5 bad text c rest' escape _ ih =>
    obtain ⟨others, rfl, behind⟩ := consChar_eq_ok read
    obtain ⟨none, body, spelt, rfl⟩ := ih behind
    obtain ⟨spelling, first, rfl⟩ := Spells.of_readEscape escape
    exact ⟨none, '\\'.toUInt8 :: spelling ++ body, .cons first spelt, by simp⟩
  | case6 => cases read
  | case7 bad b text quote escape plain c rest' raw ih =>
    obtain ⟨others, rfl, behind⟩ := consChar_eq_ok read
    obtain ⟨none, body, spelt, rfl⟩ := ih behind
    obtain ⟨spelling, first, bytes⟩ := Spells.of_charAt? quote escape plain raw
    exact ⟨none, spelling ++ body, .cons first spelt, by simp [bytes]⟩
  | case8 bad b text _ _ _ _ ih =>
    obtain ⟨none, -⟩ := ih read
    cases bad <;> cases none

end StreamRelay.Json
