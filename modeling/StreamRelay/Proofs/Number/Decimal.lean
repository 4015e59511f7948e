import StreamRelay.Proofs.Number.Reading

set_option autoImplicit false
set_option relaxedAutoImplicit false

namespace StreamRelay.Number

def decimal (n : Int) : List Char :=
  if n < 0 then '-' :: Nat.toDigits 10 n.natAbs else Nat.toDigits 10 n.natAbs

theorem toNat_lt_of_isDigit {c : Char} (digit : c.isDigit = true) : c.toNat < 0x80 := by
  have bounds := Char.isDigit_iff_toNat.mp digit
  have nine : '9'.toNat = 57 := rfl
  omega

theorem isDigit_of_mem_toDigits {n : Nat} {c : Char} (member : c ∈ Nat.toDigits 10 n) :
    c.isDigit = true :=
  Nat.isDigit_of_mem_toDigits (by decide) (by decide) member

theorem not_mem_toDigits {c : Char} (other : c.isDigit = false) (n : Nat) :
    c ∉ Nat.toDigits 10 n := by
  intro member
  rw [isDigit_of_mem_toDigits member] at other
  exact Bool.noConfusion other

theorem exists_toDigits_eq_cons (n : Nat) :
    ∃ c cs, Nat.toDigits 10 n = c :: cs ∧ c.isDigit = true := by
  cases written : Nat.toDigits 10 n with
  | nil => exact absurd written Nat.toDigits_ne_nil
  | cons c cs => exact ⟨c, cs, rfl, isDigit_of_mem_toDigits (written ▸ List.mem_cons_self ..)⟩

theorem head?_toDigits_ne {n : Nat} (positive : 0 < n) :
    (Nat.toDigits 10 n).head? ≠ some '0' := by
  induction n using Nat.base_induction 10 (by decide) with
  | single m small =>
    rw [Nat.toDigits_of_lt_base small, List.head?_cons, ne_eq, Option.some.injEq,
      Nat.digitChar_eq_zero]
    omega
  | digit m k small before ih =>
    obtain ⟨c, cs, written, -⟩ := exists_toDigits_eq_cons m
    rw [← Nat.toDigits_append_toDigits (by decide) before small]
    rw [written] at ih ⊢
    exact ih before

theorem digitChar_of_isDigit {c : Char} (digit : c.isDigit = true) :
    Nat.digitChar (c.toNat - '0'.toNat) = c := by
  have bounds := Char.isDigit_iff_toNat.mp digit
  have table : ∀ n ≤ '9'.toNat, '0'.toNat ≤ n → (Nat.digitChar (n - '0'.toNat)).toNat = n := by
    decide
  exact Char.toNat_inj.mp (table c.toNat bounds.2 bounds.1)

theorem toDigits_ofDigitChars {cs : List Char} (digits : ∀ c ∈ cs, c.isDigit = true) {value : Nat}
    (positive : 0 < value) :
    Nat.toDigits 10 (Nat.ofDigitChars 10 cs value) = Nat.toDigits 10 value ++ cs := by
  induction cs generalizing value with
  | nil => simp
  | cons c cs ih =>
    have digit := digits c (List.mem_cons_self ..)
    have bounds := Char.isDigit_iff_toNat.mp digit
    have below : c.toNat - '0'.toNat < 10 := by
      have zero : '0'.toNat = 48 := rfl
      have nine : '9'.toNat = 57 := rfl
      omega
    have last : Nat.toDigits 10 (c.toNat - '0'.toNat) = [c] := by
      rw [Nat.toDigits_of_lt_base below, digitChar_of_isDigit digit]
    rw [Nat.ofDigitChars_cons, ih (fun d member => digits d (List.mem_cons_of_mem _ member))
      (by omega), ← Nat.toDigits_append_toDigits (by decide) positive below, last,
      List.append_assoc, List.singleton_append]

theorem toNat_lt_of_mem_decimal {n : Int} {c : Char} (member : c ∈ decimal n) :
    c.toNat < 0x80 := by
  have digit (member : c ∈ Nat.toDigits 10 n.natAbs) : c.toNat < 0x80 :=
    toNat_lt_of_isDigit (isDigit_of_mem_toDigits member)
  unfold decimal at member
  split at member
  · rcases List.mem_cons.mp member with rfl | member
    · decide
    · exact digit member
  · exact digit member

private theorem isNumeral_toDigits (n : Nat) : IsNumeral (Nat.toDigits 10 n) n where
  filled := Nat.toDigits_ne_nil
  digits := fun _ member => isDigit_of_mem_toDigits member
  value := Nat.ofDigitChars_ten_toDigits

theorem digits_toDigits (limit : Nat) (excess : Fault) {n : Nat} (within : n ≤ limit) :
    digits limit excess (Nat.toDigits 10 n) = .ok n :=
  digits_eq_ok_iff.mpr ⟨isNumeral_toDigits n, within⟩

theorem readWord_toDigits (port : UInt16) :
    readWord (Nat.toDigits 10 port.toNat) = .ok port :=
  readWord_eq_ok_iff.mpr ⟨_, .inl rfl, isNumeral_toDigits port.toNat⟩

theorem ofInt_neg_natAbs {n : Int64} (negative : n.toInt < 0) :
    Int64.ofInt (-(n.toInt.natAbs : Int)) = n := by
  rw [show -(n.toInt.natAbs : Int) = n.toInt by omega, Int64.ofInt_toInt]

theorem ofNat_natAbs {n : Int64} (natural : ¬ n.toInt < 0) : Int64.ofNat n.toInt.natAbs = n := by
  rw [← Int64.ofInt_eq_ofNat, show (n.toInt.natAbs : Int) = n.toInt by omega, Int64.ofInt_toInt]

theorem readSigned_decimal (n : Int64) : readSigned (decimal n.toInt) = .ok n := by
  have least := n.le_toInt
  have most := n.toInt_lt
  obtain ⟨c, cs, written, digit⟩ := exists_toDigits_eq_cons n.toInt.natAbs
  by_cases negative : n.toInt < 0
  · have read := digits_toDigits 0x8000000000000000 .tooSmall (n := n.toInt.natAbs) (by omega)
    simp only [decimal, if_pos negative, readSigned, read]
    exact congrArg Except.ok (ofInt_neg_natAbs negative)
  · have read := digits_toDigits 0x7FFFFFFFFFFFFFFF .tooLarge (n := n.toInt.natAbs) (by omega)
    have plus : c ≠ '+' := by rintro rfl; simp at digit
    have minus : c ≠ '-' := by rintro rfl; simp at digit
    simp only [decimal, if_neg negative]
    rw [written] at read ⊢
    unfold readSigned
    split
    · contradiction
    · simp_all
    · simp_all
    · simp only [read, Except.map, ofNat_natAbs negative]

end StreamRelay.Number
