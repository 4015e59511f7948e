import Mathlib.Data.List.TakeWhile
import StreamRelay.Number.Reading

set_option autoImplicit false
set_option relaxedAutoImplicit false

namespace StreamRelay.Number

/-- The words for what is wrong with a numeral. -/
inductive Fault.IsTold : Fault → String → Prop
  | empty : IsTold .empty "cannot parse integer from empty string"
  | badDigit : IsTold .badDigit "invalid digit found in string"
  | tooLarge : IsTold .tooLarge "number too large to fit in target type"
  | tooSmall : IsTold .tooSmall "number too small to fit in target type"

theorem Fault.isTold_message (fault : Fault) : fault.IsTold fault.message := by
  cases fault with
  | empty => exact .empty
  | badDigit => exact .badDigit
  | tooLarge => exact .tooLarge
  | tooSmall => exact .tooSmall

theorem Fault.IsTold.message {fault : Fault} {words : String} (told : fault.IsTold words) :
    fault.message = words := by
  cases told <;> rfl

/-- One or more decimal digits and the number that they make. -/
structure IsNumeral (cs : List Char) (n : Nat) : Prop where
  filled : cs ≠ []
  digits : ∀ c ∈ cs, c.isDigit = true
  value : Nat.ofDigitChars 10 cs 0 = n

def leading (cs : List Char) : Nat := Nat.ofDigitChars 10 (cs.takeWhile Char.isDigit) 0

theorem le_ofDigitChars (cs : List Char) (value : Nat) : value ≤ Nat.ofDigitChars 10 cs value := by
  induction cs generalizing value with
  | nil => simp
  | cons c cs ih =>
    have grown := ih (10 * value + (c.toNat - '0'.toNat))
    rw [Nat.ofDigitChars_cons]
    omega

private theorem digit?_of_isDigit {c : Char} (digit : c.isDigit = true) :
    digit? c = some (c.toNat - '0'.toNat) := by
  simp [digit?, digit]

private theorem extend_cases {limit value : Nat} (within : value ≤ limit) (excess : Fault)
    (cs : List Char) :
    let reached := Nat.ofDigitChars 10 (cs.takeWhile Char.isDigit) value
    (limit < reached ∧ extend limit excess value cs = .error excess) ∨
      (reached ≤ limit ∧ (∃ c ∈ cs, c.isDigit = false) ∧
        extend limit excess value cs = .error .badDigit) ∨
      reached ≤ limit ∧ (∀ c ∈ cs, c.isDigit = true) ∧
        extend limit excess value cs = .ok (Nat.ofDigitChars 10 cs value) := by
  induction cs generalizing value with
  | nil => exact .inr (.inr ⟨by simpa using within, by simp, by simp [extend]⟩)
  | cons c cs ih =>
    cases digit : c.isDigit with
    | false =>
      refine .inr (.inl ⟨?_, ⟨c, List.mem_cons_self .., digit⟩, ?_⟩)
      · simpa [digit] using within
      · simp [extend, digit?, digit]
    | true =>
      rw [List.takeWhile_cons_of_pos digit, Nat.ofDigitChars_cons]
      have value' : 10 * value + (c.toNat - '0'.toNat) = value * 10 + (c.toNat - '0'.toNat) := by
        rw [Nat.mul_comm]
      rw [value']
      by_cases large : limit < value * 10 + (c.toNat - '0'.toNat)
      · refine .inl ⟨Nat.lt_of_lt_of_le large (le_ofDigitChars _ _), ?_⟩
        simp only [extend, digit?_of_isDigit digit, if_pos large]
      · have onward : extend limit excess value (c :: cs) =
            extend limit excess (value * 10 + (c.toNat - '0'.toNat)) cs := by
          simp only [extend, digit?_of_isDigit digit, if_neg large]
        rw [onward]
        rcases ih (Nat.not_lt.mp large) with ⟨exceeds, refused⟩ |
          ⟨fits, ⟨d, member, bad⟩, refused⟩ | ⟨fits, digits, read⟩
        · exact .inl ⟨exceeds, refused⟩
        · exact .inr (.inl ⟨fits, ⟨d, List.mem_cons_of_mem c member, bad⟩, refused⟩)
        · refine .inr (.inr ⟨fits, by simpa [digit] using digits, ?_⟩)
          rw [read, Nat.ofDigitChars_cons, value']

private theorem IsNumeral.leading {cs : List Char} {n : Nat} (numeral : IsNumeral cs n) :
    Number.leading cs = n := by
  rw [Number.leading, List.takeWhile_eq_self_iff.mpr numeral.digits, numeral.value]

private theorem digits_cases (limit : Nat) (excess : Fault) (cs : List Char) :
    (limit < leading cs ∧ digits limit excess cs = .error excess) ∨
      (leading cs ≤ limit ∧ (cs = [] ∨ ∃ c ∈ cs, c.isDigit = false) ∧
        digits limit excess cs = .error .badDigit) ∨
      ∃ n, IsNumeral cs n ∧ n ≤ limit ∧ digits limit excess cs = .ok n := by
  cases cs with
  | nil => exact .inr (.inl ⟨Nat.zero_le limit, .inl rfl, rfl⟩)
  | cons c cs =>
    have opened : digits limit excess (c :: cs) = extend limit excess 0 (c :: cs) := rfl
    rw [opened]
    rcases extend_cases (Nat.zero_le limit) excess (c :: cs) with ⟨exceeds, refused⟩ |
      ⟨fits, bad, refused⟩ | ⟨fits, all, read⟩
    · exact .inl ⟨exceeds, refused⟩
    · exact .inr (.inl ⟨fits, .inr bad, refused⟩)
    · rw [List.takeWhile_eq_self_iff.mpr all] at fits
      exact .inr (.inr ⟨_, ⟨List.cons_ne_nil c cs, all, rfl⟩, fits, read⟩)

theorem digits_eq_ok_iff {limit : Nat} {excess : Fault} {cs : List Char} {n : Nat} :
    digits limit excess cs = .ok n ↔ IsNumeral cs n ∧ n ≤ limit := by
  rcases digits_cases limit excess cs with ⟨exceeds, refused⟩ | ⟨-, bad, refused⟩ |
    ⟨m, numeral, fits, read⟩
  · refine ⟨fun read => by simp [refused] at read, fun ⟨numeral, fits⟩ => ?_⟩
    rw [numeral.leading] at exceeds
    omega
  · refine ⟨fun read => by simp [refused] at read, fun ⟨numeral, _⟩ => ?_⟩
    rcases bad with none | ⟨c, member, other⟩
    · exact absurd none numeral.filled
    · simp [numeral.digits c member] at other
  · rw [read, Except.ok.injEq]
    constructor
    · rintro rfl
      exact ⟨numeral, fits⟩
    · rintro ⟨numeral', -⟩
      exact numeral.value.symm.trans numeral'.value

private theorem digits_eq_error_iff {limit : Nat} {excess fault : Fault} {cs : List Char} :
    digits limit excess cs = .error fault ↔ limit < leading cs ∧ fault = excess ∨
      leading cs ≤ limit ∧ (cs = [] ∨ ∃ c ∈ cs, c.isDigit = false) ∧ fault = .badDigit := by
  rcases digits_cases limit excess cs with ⟨exceeds, refused⟩ | ⟨fits, bad, refused⟩ |
    ⟨n, numeral, fits, read⟩
  · have outside : ¬ leading cs ≤ limit := Nat.not_le.mpr exceeds
    simp only [refused, exceeds, outside, Except.error.injEq, true_and, false_and, or_false]
    exact eq_comm
  · have inside : ¬ limit < leading cs := Nat.not_lt.mpr fits
    simp only [refused, fits, inside, bad, Except.error.injEq, true_and, false_and, false_or]
    exact eq_comm
  · have inside : ¬ limit < leading cs := by
      rw [numeral.leading]
      omega
    have sound : ¬ (cs = [] ∨ ∃ c ∈ cs, c.isDigit = false) := by
      rintro (none | ⟨c, member, other⟩)
      · exact numeral.filled none
      · simp [numeral.digits c member] at other
    simp [read, inside, sound]

private theorem map_eq_error_iff {α β : Type} {f : α → β} {read : Except Fault α} {fault : Fault} :
    read.map f = .error fault ↔ read = .error fault := by
  cases read <;> simp [Except.map]

private theorem map_eq_ok_iff {α β : Type} {f : α → β} {read : Except Fault α} {value : β} :
    read.map f = .ok value ↔ ∃ a, read = .ok a ∧ f a = value := by
  cases read <;> simp [Except.map]

def unsigned : List Char → List Char
  | '+' :: cs => cs
  | cs => cs

/-- A number of sixteen bits in decimal, behind at most one plus sign. -/
def IsWord (cs : List Char) (word : UInt16) : Prop :=
  ∃ digits, (cs = digits ∨ cs = '+' :: digits) ∧ IsNumeral digits word.toNat

/-- Why a text is no number of sixteen bits. -/
inductive IsWordFault (cs : List Char) : Fault → Prop
  | empty : cs = [] → IsWordFault cs .empty
  | badDigit : cs ≠ [] → leading (unsigned cs) ≤ 65535 →
      (unsigned cs = [] ∨ ∃ c ∈ unsigned cs, c.isDigit = false) → IsWordFault cs .badDigit
  | tooLarge : 65535 < leading (unsigned cs) → IsWordFault cs .tooLarge

private theorem IsNumeral.unsigned {cs : List Char} {n : Nat} (numeral : IsNumeral cs n) :
    Number.unsigned cs = cs := by
  unfold Number.unsigned
  split
  · exact absurd (numeral.digits '+' (List.mem_cons_self ..)) (by decide)
  · rfl

private theorem isWord_iff {cs : List Char} {word : UInt16} :
    IsWord cs word ↔ cs ≠ [] ∧ IsNumeral (unsigned cs) word.toNat := by
  constructor
  · rintro ⟨digits, rfl | rfl, numeral⟩
    · rw [numeral.unsigned]
      exact ⟨numeral.filled, numeral⟩
    · exact ⟨List.cons_ne_nil _ _, numeral⟩
  · rintro ⟨filled, numeral⟩
    unfold unsigned at numeral
    split at numeral
    · exact ⟨_, .inr rfl, numeral⟩
    · exact ⟨_, .inl rfl, numeral⟩

private theorem readWord_of_ne_nil {cs : List Char} (filled : cs ≠ []) :
    readWord cs = (digits 65535 .tooLarge (unsigned cs)).map UInt16.ofNat := by
  unfold readWord
  split
  · contradiction
  · rfl
  · rename_i unsigned'
    rw [unsigned]
    · exact unsigned'

theorem readWord_eq_ok_iff {cs : List Char} {word : UInt16} :
    readWord cs = .ok word ↔ IsWord cs word := by
  rw [isWord_iff]
  by_cases filled : cs = []
  · simp [filled, readWord]
  · rw [readWord_of_ne_nil filled, map_eq_ok_iff]
    constructor
    · rintro ⟨n, read, rfl⟩
      obtain ⟨numeral, fits⟩ := digits_eq_ok_iff.mp read
      refine ⟨filled, ?_⟩
      rwa [UInt16.toNat_ofNat_of_lt' (Nat.lt_succ_of_le fits)]
    · rintro ⟨-, numeral⟩
      have fits : word.toNat ≤ 65535 := Nat.le_of_lt_succ word.toNat_lt
      exact ⟨_, digits_eq_ok_iff.mpr ⟨numeral, fits⟩, UInt16.ofNat_toNat⟩

theorem readWord_eq_error_iff {cs : List Char} {fault : Fault} :
    readWord cs = .error fault ↔ IsWordFault cs fault := by
  by_cases filled : cs = []
  · subst filled
    have unread : readWord [] = .error .empty := rfl
    rw [unread, Except.error.injEq]
    constructor
    · rintro rfl
      exact .empty rfl
    · intro failed
      cases failed with
      | empty _ => rfl
      | badDigit filled _ _ => contradiction
      | tooLarge exceeds => exact absurd exceeds (by decide)
  · rw [readWord_of_ne_nil filled, map_eq_error_iff, digits_eq_error_iff]
    constructor
    · rintro (⟨exceeds, rfl⟩ | ⟨fits, bad, rfl⟩)
      · exact .tooLarge exceeds
      · exact .badDigit filled fits bad
    · intro failed
      cases failed with
      | empty none => contradiction
      | badDigit _ fits bad => exact .inr ⟨fits, bad, rfl⟩
      | tooLarge exceeds => exact .inl ⟨exceeds, rfl⟩

section Signed

/-- A number in decimal behind at most one sign. -/
inductive IsSigned : List Char → Int → Prop
  | bare {cs : List Char} {n : Nat} : IsNumeral cs n → IsSigned cs n
  | plus {cs : List Char} {n : Nat} : IsNumeral cs n → IsSigned ('+' :: cs) n
  | minus {cs : List Char} {n : Nat} : IsNumeral cs n → IsSigned ('-' :: cs) (-n)

def magnitude : List Char → List Char
  | '+' :: cs => cs
  | '-' :: cs => cs
  | cs => cs

/-- The largest number that may stand behind the sign of a text. -/
def reach (cs : List Char) : Nat :=
  if cs.head? = some '-' then 0x8000000000000000 else 0x7FFFFFFFFFFFFFFF

inductive IsSignedFault (cs : List Char) : Fault → Prop
  | empty : cs = [] → IsSignedFault cs .empty
  | badDigit : cs ≠ [] → leading (magnitude cs) ≤ reach cs →
      (magnitude cs = [] ∨ ∃ c ∈ magnitude cs, c.isDigit = false) → IsSignedFault cs .badDigit
  | tooLarge : cs.head? ≠ some '-' → reach cs < leading (magnitude cs) → IsSignedFault cs .tooLarge
  | tooSmall : cs.head? = some '-' → reach cs < leading (magnitude cs) → IsSignedFault cs .tooSmall

private theorem IsNumeral.head?_ne {cs : List Char} {n : Nat} (numeral : IsNumeral cs n) {c : Char}
    (other : c.isDigit = false) : cs.head? ≠ some c := by
  intro first
  rw [numeral.digits c (List.mem_of_head? first)] at other
  exact Bool.noConfusion other

private theorem IsNumeral.magnitude {cs : List Char} {n : Nat} (numeral : IsNumeral cs n) :
    Number.magnitude cs = cs := by
  unfold Number.magnitude
  split
  · exact absurd rfl (numeral.head?_ne (c := '+') (by decide))
  · exact absurd rfl (numeral.head?_ne (c := '-') (by decide))
  · rfl

private theorem readSigned_natural {cs : List Char} (filled : cs ≠ [])
    (natural : cs.head? ≠ some '-') :
    readSigned cs = (digits 0x7FFFFFFFFFFFFFFF .tooLarge (magnitude cs)).map Int64.ofNat := by
  unfold readSigned
  split
  · contradiction
  · rfl
  · exact absurd rfl natural
  · rename_i plus minus
    rw [magnitude]
    · exact plus
    · exact minus

private theorem readSigned_negative (cs : List Char) :
    readSigned ('-' :: cs) =
      (digits 0x8000000000000000 .tooSmall cs).map fun n : Nat => Int64.ofInt (-(n : Int)) := by
  cases read : digits 0x8000000000000000 .tooSmall cs <;> simp only [readSigned, read] <;> rfl

private theorem toInt_ofNat {n : Nat} (within : n ≤ 0x7FFFFFFFFFFFFFFF) :
    (Int64.ofNat n).toInt = n :=
  Int64.toInt_ofNat_of_lt (by omega)

private theorem toInt_ofInt_neg {n : Nat} (within : n ≤ 0x8000000000000000) :
    (Int64.ofInt (-(n : Int))).toInt = -(n : Int) :=
  Int64.toInt_ofInt_of_le (by omega) (by omega)

theorem readSigned_eq_ok_iff {cs : List Char} {n : Int64} :
    readSigned cs = .ok n ↔ IsSigned cs n.toInt := by
  have least := n.le_toInt
  have most := n.toInt_lt
  constructor
  · intro read
    by_cases filled : cs = []
    · subst filled
      cases read
    by_cases negative : cs.head? = some '-'
    · obtain ⟨ds, rfl⟩ := List.head?_eq_some_iff.mp negative
      rw [readSigned_negative] at read
      obtain ⟨m, digits, rfl⟩ := map_eq_ok_iff.mp read
      obtain ⟨numeral, within⟩ := digits_eq_ok_iff.mp digits
      rw [toInt_ofInt_neg within]
      exact .minus numeral
    · rw [readSigned_natural filled negative] at read
      obtain ⟨m, digits, rfl⟩ := map_eq_ok_iff.mp read
      obtain ⟨numeral, within⟩ := digits_eq_ok_iff.mp digits
      rw [toInt_ofNat within]
      unfold magnitude at numeral
      split at numeral
      · exact .plus numeral
      · exact absurd rfl negative
      · exact .bare numeral
  · intro signed
    generalize value : n.toInt = z at signed
    cases signed with
    | @bare cs m numeral =>
      have within : m ≤ 0x7FFFFFFFFFFFFFFF := by omega
      rw [readSigned_natural numeral.filled (numeral.head?_ne (by decide)), numeral.magnitude,
        digits_eq_ok_iff.mpr ⟨numeral, within⟩]
      exact congrArg Except.ok (Int64.toInt_inj.mp ((toInt_ofNat within).trans value.symm))
    | @plus cs m numeral =>
      have within : m ≤ 0x7FFFFFFFFFFFFFFF := by omega
      rw [readSigned_natural (List.cons_ne_nil _ _) (by simp), magnitude,
        digits_eq_ok_iff.mpr ⟨numeral, within⟩]
      exact congrArg Except.ok (Int64.toInt_inj.mp ((toInt_ofNat within).trans value.symm))
    | @minus cs m numeral =>
      have within : m ≤ 0x8000000000000000 := by omega
      rw [readSigned_negative, digits_eq_ok_iff.mpr ⟨numeral, within⟩]
      exact congrArg Except.ok (Int64.toInt_inj.mp ((toInt_ofInt_neg within).trans value.symm))

theorem readSigned_eq_error_iff {cs : List Char} {fault : Fault} :
    readSigned cs = .error fault ↔ IsSignedFault cs fault := by
  by_cases filled : cs = []
  · subst filled
    have unread : readSigned [] = .error .empty := rfl
    rw [unread, Except.error.injEq]
    constructor
    · rintro rfl
      exact .empty rfl
    · intro failed
      cases failed with
      | empty _ => rfl
      | badDigit filled _ _ => contradiction
      | tooLarge _ exceeds => exact absurd exceeds (by decide)
      | tooSmall _ exceeds => exact absurd exceeds (by decide)
  by_cases negative : cs.head? = some '-'
  · obtain ⟨ds, rfl⟩ := List.head?_eq_some_iff.mp negative
    rw [readSigned_negative, map_eq_error_iff, digits_eq_error_iff]
    constructor
    · rintro (⟨exceeds, rfl⟩ | ⟨fits, bad, rfl⟩)
      · exact .tooSmall rfl exceeds
      · exact .badDigit filled fits bad
    · intro failed
      cases failed with
      | empty none => contradiction
      | badDigit _ fits bad => exact .inr ⟨fits, bad, rfl⟩
      | tooLarge natural _ => exact absurd rfl natural
      | tooSmall _ exceeds => exact .inl ⟨exceeds, rfl⟩
  · have limit : reach cs = 0x7FFFFFFFFFFFFFFF := if_neg negative
    rw [readSigned_natural filled negative, map_eq_error_iff, digits_eq_error_iff, ← limit]
    constructor
    · rintro (⟨exceeds, rfl⟩ | ⟨fits, bad, rfl⟩)
      · exact .tooLarge negative exceeds
      · exact .badDigit filled fits bad
    · intro failed
      cases failed with
      | empty none => contradiction
      | badDigit _ fits bad => exact .inr ⟨fits, bad, rfl⟩
      | tooLarge _ exceeds => exact .inl ⟨exceeds, rfl⟩
      | tooSmall negative' _ => exact absurd negative' negative

end Signed

end StreamRelay.Number
