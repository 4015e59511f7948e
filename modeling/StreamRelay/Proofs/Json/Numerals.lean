import StreamRelay.Proofs.Json.Strings

set_option autoImplicit false
set_option relaxedAutoImplicit false

namespace StreamRelay.Json

/-- A text that begins as what follows a value: with white space, a comma or a closing bracket. -/
def IsAfterValue (rest : Bytes) : Prop :=
  ∃ b ∈ ([0x20, 0x09, 0x0A, 0x0D, ','.toUInt8, ']'.toUInt8, 0x7D] : Bytes), ∃ tail, rest = b :: tail

theorem isDigit_toUInt8 {c : Char} (digit : c.isDigit = true) :
    isDigit c.toUInt8 = true ∧ digitValue c.toUInt8 = c.toNat - '0'.toNat := by
  have bounds := Char.isDigit_iff_toNat.mp digit
  have ascii := Number.toNat_lt_of_isDigit digit
  have value := Text.Utf8.toNat_toUInt8 (c := c) (by omega)
  constructor
  · have zero : '0'.toUInt8.toNat = '0'.toNat := rfl
    have nine' : '9'.toUInt8.toNat = '9'.toNat := rfl
    simp only [isDigit, UInt8.le_iff_toNat_le, value, zero, nine', bounds, decide_true,
      Bool.and_self]
  · rw [digitValue, value]

private theorem wholeDigits_map {cs : List Char} (digits : ∀ c ∈ cs, c.isDigit = true) {value : Nat}
    (within : Nat.ofDigitChars 10 cs value < 0x10000000000000000) {b : UInt8} (tail : Bytes)
    (stop : isDigit b = false) :
    wholeDigits value 0 (cs.map Char.toUInt8 ++ b :: tail) =
      (Nat.ofDigitChars 10 cs value, 0, b :: tail) := by
  induction cs generalizing value with
  | nil => simp [wholeDigits, stop]
  | cons c cs ih =>
    obtain ⟨digit, size⟩ := isDigit_toUInt8 (digits c (List.mem_cons_self ..))
    rw [Nat.ofDigitChars_cons, Nat.mul_comm] at within
    have fits := Nat.lt_of_le_of_lt (Number.le_ofDigitChars cs _) within
    have read := ih (fun d member => digits d (List.mem_cons_of_mem _ member)) within
    rw [List.map_cons, List.cons_append, wholeDigits, if_pos digit, size, if_pos, read,
      Nat.ofDigitChars_cons, Nat.mul_comm]
    simp only [decide_true, Bool.true_and, decide_eq_true_eq]
    exact fits

private theorem readMagnitude_toDigits (negative : Bool) {n : Nat}
    (within : n < 0x10000000000000000) {b : UInt8} (tail : Bytes) (stop : isDigit b = false) :
    readMagnitude negative ((Nat.toDigits 10 n).map Char.toUInt8 ++ b :: tail) =
      readTail negative n 0 (b :: tail) := by
  rcases Nat.eq_zero_or_pos n with rfl | positive
  · have digit : isDigit '0'.toUInt8 = true := by decide
    rw [Nat.toDigits_zero, List.map_singleton, List.singleton_append, readMagnitude]
    simp only [digit, Bool.not_true, Bool.false_eq_true, if_false, if_true, List.head?_cons,
      Option.map_some, Option.getD_some, stop]
  · have first := Number.head?_toDigits_ne positive
    have value : Nat.ofDigitChars 10 (Nat.toDigits 10 n) 0 = n := Nat.ofDigitChars_ten_toDigits
    have all (c : Char) (member : c ∈ Nat.toDigits 10 n) := Number.isDigit_of_mem_toDigits member
    cases written : Nat.toDigits 10 n with
    | nil => exact absurd written Nat.toDigits_ne_nil
    | cons c cs =>
      rw [written] at first value all
      obtain ⟨digit, size⟩ := isDigit_toUInt8 (all c (List.mem_cons_self ..))
      rw [Nat.ofDigitChars_cons, Nat.mul_zero, Nat.zero_add] at value
      have other : c.toUInt8 ≠ '0'.toUInt8 := by
        intro same
        have ascii := Number.toNat_lt_of_isDigit (all c (List.mem_cons_self ..))
        have zero := Text.Utf8.toUInt8_injective (by omega) (by decide) same
        exact first (congrArg some zero)
      have fits : Nat.ofDigitChars 10 cs (c.toNat - '0'.toNat) < 0x10000000000000000 := by
        omega
      have read := wholeDigits_map (fun d member => all d (List.mem_cons_of_mem _ member)) fits
        tail stop
      rw [List.map_cons, List.cons_append, readMagnitude]
      simp only [digit, Bool.not_true, Bool.false_eq_true, if_false, other, size, read, value]

theorem IsAfterValue.stops {rest : Bytes} (after : IsAfterValue rest) :
    ∃ b tail, rest = b :: tail ∧ isDigit b = false ∧ b ≠ '.'.toUInt8 ∧ b ≠ 'e'.toUInt8 ∧
      b ≠ 'E'.toUInt8 := by
  obtain ⟨b, member, tail, rfl⟩ := after
  simp only [List.mem_cons, List.not_mem_nil, or_false] at member
  rcases member with rfl | rfl | rfl | rfl | rfl | rfl | rfl <;> exact ⟨_, tail, rfl, by decide⟩

private theorem readTail_natural {b : UInt8} (tail : Bytes) (point : b ≠ '.'.toUInt8)
    (small : b ≠ 'e'.toUInt8) (large : b ≠ 'E'.toUInt8) (n : Nat) :
    readTail false n 0 (b :: tail) = .ok (.natural n, b :: tail) := by
  simp [readTail, point, small, large]

private theorem readTail_negative {b : UInt8} (tail : Bytes) (point : b ≠ '.'.toUInt8)
    (small : b ≠ 'e'.toUInt8) (large : b ≠ 'E'.toUInt8) {n : Nat} (positive : 0 < n)
    (within : n ≤ 0x8000000000000000) :
    readTail true n 0 (b :: tail) = .ok (.negative n, b :: tail) := by
  have exact : ¬ (n = 0 ∨ 0x8000000000000000 < n) := by omega
  simp [readTail, point, small, large, exact]

theorem readNumeral_decimal {n : Int} (least : -0x8000000000000000 ≤ n)
    (most : n < 0x8000000000000000) {rest : Bytes} (after : IsAfterValue rest) :
    readNumeral ((Number.decimal n).map Char.toUInt8 ++ rest) =
      .ok (if n < 0 then .negative n.natAbs else .natural n.natAbs, rest) := by
  obtain ⟨b, tail, rfl, stop, point, small, large⟩ := after.stops
  have magnitude (negative : Bool) :=
    readMagnitude_toDigits negative (n := n.natAbs) (by omega) tail stop
  by_cases negative : n < 0
  · have read := readTail_negative tail point small large (n := n.natAbs) (by omega) (by omega)
    simp only [Number.decimal, if_pos negative, List.map_cons, List.cons_append, readNumeral,
      if_true, magnitude, read]
  · have read := readTail_natural tail point small large n.natAbs
    obtain ⟨c, cs, written, digit⟩ := Number.exists_toDigits_eq_cons n.natAbs
    have other : c.toUInt8 ≠ '-'.toUInt8 := by
      intro same
      have ascii := Number.toNat_lt_of_isDigit digit
      obtain rfl := Text.Utf8.toUInt8_injective (by omega) (by decide) same
      contradiction
    have magnitude := magnitude false
    rw [written, List.map_cons, List.cons_append] at magnitude
    simp only [Number.decimal, if_neg negative, written, List.map_cons, List.cons_append,
      readNumeral, if_neg other, magnitude, read]

theorem exists_decimal_eq_cons (n : Int) :
    ∃ c cs, Number.decimal n = c :: cs ∧ (c.toUInt8 = '-'.toUInt8 ∨ isDigit c.toUInt8 = true) := by
  by_cases negative : n < 0
  · exact ⟨'-', _, if_pos negative, .inl rfl⟩
  · obtain ⟨c, cs, written, digit⟩ := Number.exists_toDigits_eq_cons n.natAbs
    exact ⟨c, cs, (if_neg negative).trans written, .inr (isDigit_toUInt8 digit).1⟩

def Numeral.IsReal : Numeral → Prop
  | .real _ => True
  | _ => False

/-- A text that does not go on with a number. -/
def EndsNumber (rest : Bytes) : Prop :=
  ∀ b ∈ rest.head?, isDigit b = false ∧ b ≠ '.'.toUInt8 ∧ b ≠ 'e'.toUInt8 ∧ b ≠ 'E'.toUInt8

section

variable {negative : Bool} {value : Nat} {numeral : Numeral} {text rest : Bytes}

private theorem realNumeral_isReal {exponent : Int}
    (read : realNumeral negative value exponent text = .ok (numeral, rest)) : numeral.IsReal := by
  unfold realNumeral at read
  split at read <;> cases read
  trivial

private theorem readExponent_isReal {scale : Int}
    (read : readExponent negative value scale text = .ok (numeral, rest)) : numeral.IsReal := by
  unfold readExponent at read
  split at read
  split at read
  · cases read
  split at read
  · cases read
  split at read
  · split at read <;> cases read
    trivial
  · exact realNumeral_isReal read

private theorem readFraction_isReal {dropped : Nat}
    (read : readFraction negative value dropped text = .ok (numeral, rest)) : numeral.IsReal := by
  unfold readFraction at read
  split at read
  · cases read
  split at read
  · cases read
  dsimp only at read
  unfold readScale at read
  split at read
  · split at read
    · exact readExponent_isReal read
    · exact realNumeral_isReal read
  · exact realNumeral_isReal read

private theorem readTail_eq_ok {dropped : Nat}
    (read : readTail negative value dropped text = .ok (numeral, rest)) :
    numeral.IsReal ∨ dropped = 0 ∧ rest = text ∧
      (∀ b ∈ text.head?, b ≠ '.'.toUInt8 ∧ b ≠ 'e'.toUInt8 ∧ b ≠ 'E'.toUInt8) ∧
      (negative = false ∧ numeral = .natural value ∨
        negative = true ∧ numeral = .negative value ∧ 0 < value ∧ value ≤ 0x8000000000000000) := by
  have whole (read : (if dropped ≠ 0 then realNumeral negative value dropped text
      else if !negative then .ok (.natural value, text)
      else if value = 0 || 0x8000000000000000 < value then .ok (.real (-(Float.ofNat value)), text)
      else .ok (.negative value, text)) = .ok (numeral, rest)) :
      numeral.IsReal ∨ dropped = 0 ∧ rest = text ∧
        (negative = false ∧ numeral = .natural value ∨
          negative = true ∧ numeral = .negative value ∧ 0 < value ∧
            value ≤ 0x8000000000000000) := by
    split at read
    · exact .inl (realNumeral_isReal read)
    · rename_i kept
      have kept := Decidable.not_not.mp kept
      split at read
      · rename_i plain
        obtain ⟨rfl, rfl⟩ := Prod.mk.inj (Except.ok.inj read)
        exact .inr ⟨kept, rfl, .inl ⟨by simpa using plain, rfl⟩⟩
      · rename_i signed
        split at read
        · cases read
          exact .inl trivial
        · rename_i within
          obtain ⟨rfl, rfl⟩ := Prod.mk.inj (Except.ok.inj read)
          simp only [Bool.or_eq_true, decide_eq_true_eq] at within
          exact .inr ⟨kept, rfl, .inr ⟨by simpa using signed, rfl, by omega, by omega⟩⟩
  unfold readTail at read
  dsimp only at read
  cases text with
  | nil =>
    rcases whole read with real | ⟨kept, same, outcome⟩
    · exact .inl real
    · exact .inr ⟨kept, same, by simp, outcome⟩
  | cons b tail =>
    simp only at read
    split at read
    · exact .inl (readFraction_isReal read)
    · rename_i point
      split at read
      · exact .inl (readExponent_isReal read)
      · rename_i letter
        rcases whole read with real | ⟨kept, same, outcome⟩
        · exact .inl real
        · refine .inr ⟨kept, same, ?_, outcome⟩
          simp only [Bool.or_eq_true, decide_eq_true_eq, not_or] at letter
          simpa using ⟨point, letter⟩
end

private theorem exists_char_of_isDigit {b : UInt8} (digit : isDigit b = true) :
    ∃ c : Char, c.isDigit = true ∧ c.toUInt8 = b := by
  have table : ∀ n < 0x100, isDigit (UInt8.ofNat n) = true →
      (Char.ofNat n).isDigit = true ∧ (Char.ofNat n).toUInt8 = UInt8.ofNat n := by
    decide +kernel
  have found := table b.toNat b.toNat_lt
  rw [UInt8.ofNat_toNat] at found
  exact ⟨_, found digit⟩

private theorem wholeDigits_eq {value dropped read : Nat} {text rest : Bytes}
    (collected : wholeDigits value dropped text = (read, 0, rest)) :
    dropped = 0 ∧ (∀ b ∈ rest.head?, isDigit b = false) ∧
      ∃ cs : List Char, (∀ c ∈ cs, c.isDigit = true) ∧ text = cs.map Char.toUInt8 ++ rest ∧
        read = Nat.ofDigitChars 10 cs value := by
  fun_induction wholeDigits value dropped text with
  | case1 value dropped =>
    obtain ⟨rfl, rfl, rfl⟩ : value = read ∧ dropped = 0 ∧ [] = rest := by simpa using collected
    exact ⟨rfl, by simp, [], by simp, rfl, rfl⟩
  | case2 value dropped b text digit fits ih =>
    obtain ⟨-, stop, cs, digits, rfl, rfl⟩ := ih collected
    obtain ⟨c, isDigit, rfl⟩ := exists_char_of_isDigit digit
    simp only [Bool.and_eq_true, decide_eq_true_eq] at fits
    refine ⟨fits.1, stop, c :: cs, ?_, rfl, ?_⟩
    · simpa using ⟨isDigit, digits⟩
    · rw [Nat.ofDigitChars_cons, (isDigit_toUInt8 isDigit).2, Nat.mul_comm]
  | case3 value dropped b text digit full ih =>
    obtain ⟨none, -⟩ := ih collected
    cases none
  | case4 value dropped b text other =>
    obtain ⟨rfl, rfl, rfl⟩ : value = read ∧ dropped = 0 ∧ b :: text = rest := by
      simpa using collected
    exact ⟨rfl, by simpa using other, [], by simp, rfl, rfl⟩

private theorem readMagnitude_eq_ok {negative : Bool} {numeral : Numeral} {text rest : Bytes}
    (read : readMagnitude negative text = .ok (numeral, rest)) :
    numeral.IsReal ∨ EndsNumber rest ∧ ∃ n,
      text = (Nat.toDigits 10 n).map Char.toUInt8 ++ rest ∧
      (negative = false ∧ numeral = .natural n ∨
        negative = true ∧ numeral = .negative n ∧ 0 < n ∧ n ≤ 0x8000000000000000) := by
  unfold readMagnitude at read
  split at read
  · cases read
  rename_i b text
  split at read
  · cases read
  rename_i digit
  simp only [Bool.not_eq_true', Bool.not_eq_false] at digit
  split at read
  · rename_i zero
    split at read
    · cases read
    rename_i single
    rcases readTail_eq_ok read with real | ⟨-, rfl, plain, outcome⟩
    · exact .inl real
    · refine .inr ⟨fun d member => ⟨?_, plain d member⟩, 0, ?_, outcome⟩
      · rw [Option.mem_def.mp member] at single
        simpa using single
      · rw [zero, Nat.toDigits_zero]
        rfl
  · rename_i leading
    dsimp only at read
    rcases collected : wholeDigits (digitValue b) 0 text with ⟨value, dropped, after⟩
    rw [collected] at read
    rcases readTail_eq_ok read with real | ⟨rfl, rfl, plain, outcome⟩
    · exact .inl real
    · obtain ⟨-, stop, cs, digits, rfl, rfl⟩ := wholeDigits_eq collected
      obtain ⟨c, isDigit, rfl⟩ := exists_char_of_isDigit digit
      have size := (isDigit_toUInt8 isDigit).2
      have bounds := Char.isDigit_iff_toNat.mp isDigit
      have first : c.toNat ≠ '0'.toNat := fun same =>
        leading (congrArg Char.toUInt8 (Char.toNat_inj.mp same))
      have positive : 0 < digitValue c.toUInt8 := by omega
      refine .inr ⟨fun d member => ⟨stop d member, plain d member⟩, _, ?_, outcome⟩
      have last : Nat.toDigits 10 (digitValue c.toUInt8) = [c] := by
        have below : c.toNat - '0'.toNat < 10 := by
          have nine : '9'.toNat = 57 := rfl
          have zero : '0'.toNat = 48 := rfl
          omega
        rw [size, Nat.toDigits_of_lt_base below, Number.digitChar_of_isDigit isDigit]
      rw [Number.toDigits_ofDigitChars digits positive, last]
      rfl

theorem readNumeral_eq_ok {numeral : Numeral} {text rest : Bytes}
    (read : readNumeral text = .ok (numeral, rest)) :
    numeral.IsReal ∨ EndsNumber rest ∧ ∃ n : Int,
      text = (Number.decimal n).map Char.toUInt8 ++ rest ∧
      (0 ≤ n ∧ numeral = .natural n.toNat ∨
        n < 0 ∧ -0x8000000000000000 ≤ n ∧ numeral = .negative n.natAbs) := by
  unfold readNumeral at read
  split at read
  · cases read
  rename_i b text
  split at read
  · rename_i minus
    rcases readMagnitude_eq_ok read with real | ⟨ends, n, rfl, outcome⟩
    · exact .inl real
    · obtain ⟨rfl, positive, most⟩ : numeral = .negative n ∧ 0 < n ∧ n ≤ 0x8000000000000000 := by
        simpa using outcome
      have written : Number.decimal (-(n : Int)) = '-' :: Nat.toDigits 10 n := by
        rw [Number.decimal, if_pos (by omega), Int.natAbs_neg, Int.natAbs_natCast]
      refine .inr ⟨ends, -(n : Int), by rw [minus, written]; rfl, .inr ⟨by omega, by omega, ?_⟩⟩
      rw [Int.natAbs_neg, Int.natAbs_natCast]
  · rcases readMagnitude_eq_ok read with real | ⟨ends, n, written, outcome⟩
    · exact .inl real
    · obtain rfl : numeral = .natural n := by simpa using outcome
      refine .inr ⟨ends, n, ?_, .inl ⟨by omega, rfl⟩⟩
      rw [Number.decimal, if_neg (by omega), Int.natAbs_natCast, written]

end StreamRelay.Json
