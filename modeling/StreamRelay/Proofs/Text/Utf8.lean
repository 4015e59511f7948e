import StreamRelay.Text.Utf8

set_option autoImplicit false
set_option relaxedAutoImplicit false

namespace StreamRelay.Text.Utf8

private theorem toNat_ofNat {n : Nat} (small : n < 0x100) : (UInt8.ofNat n).toNat = n := by
  rw [UInt8.toNat_ofNat']
  omega

theorem toNat_toUInt8 {c : Char} (small : c.toNat < 0x100) : c.toUInt8.toNat = c.toNat := by
  have value : c.toUInt8.toNat = c.toNat % 0x100 := UInt32.toNat_toUInt8 c.val
  omega

theorem toUInt8_injective {c d : Char} (small : c.toNat < 0x100) (other : d.toNat < 0x100)
    (same : c.toUInt8 = d.toUInt8) : c = d := by
  rw [← UInt8.toNat_inj, toNat_toUInt8 small, toNat_toUInt8 other] at same
  exact Char.toNat_inj.mp same

private theorem ofNat_lt_iff {n : Nat} (small : n < 0x100) (b : UInt8) :
    UInt8.ofNat n < b ↔ n < b.toNat := by
  rw [UInt8.lt_iff_toNat_lt, toNat_ofNat small]

private theorem le_ofNat_iff {n : Nat} (small : n < 0x100) (b : UInt8) :
    b ≤ UInt8.ofNat n ↔ b.toNat ≤ n := by
  rw [UInt8.le_iff_toNat_le, toNat_ofNat small]

private theorem continuation?_ofNat (n : Nat) :
    continuation? (UInt8.ofNat (n % 0x40 + 0x80)) = some (n % 0x40) := by
  have small : n % 0x40 + 0x80 < 0x100 := by omega
  have within : (0x80 ≤ n % 0x40 + 0x80 ∧ n % 0x40 + 0x80 < 0xC0) := by omega
  simp only [continuation?, le_ofNat_iff small, ofNat_lt_iff small, toNat_ofNat small,
    UInt8.reduceToNat, within.1, within.2, decide_true, Bool.and_self, if_true,
    Nat.add_sub_cancel]

private theorem scalar?_toNat {least : Nat} {c : Char} (large : least ≤ c.toNat) :
    scalar? least c.toNat = some c := by
  have valid : c.toNat.isValidChar := c.valid
  simp [scalar?, large, valid]

theorem toNat_lt (c : Char) : c.toNat < 0x110000 := by
  have valid : c.toNat.isValidChar := c.valid
  simp only [Nat.isValidChar] at valid
  omega

theorem toNat_charOfNat {n : Nat} (valid : n.isValidChar) : (Char.ofNat n).toNat = n := by
  rw [Char.ofNat, dif_pos valid]
  rfl

private theorem continuation?_eq_some {b : UInt8} {n : Nat} (read : continuation? b = some n) :
    n < 0x40 ∧ b = UInt8.ofNat (n + 0x80) := by
  unfold continuation? at read
  split at read
  · rename_i within
    simp only [Bool.and_eq_true, decide_eq_true_eq, UInt8.le_iff_toNat_le, UInt8.lt_iff_toNat_lt,
      UInt8.reduceToNat] at within
    obtain rfl := Option.some.inj read
    refine ⟨by omega, ?_⟩
    rw [Nat.sub_add_cancel within.1, UInt8.ofNat_toNat]
  · cases read

private theorem scalar?_eq_some {least n : Nat} {c : Char} (read : scalar? least n = some c) :
    c.toNat = n ∧ least ≤ n := by
  unfold scalar? at read
  split at read
  · rename_i within
    simp only [Bool.and_eq_true, decide_eq_true_eq] at within
    obtain rfl := Option.some.inj read
    exact ⟨toNat_charOfNat within.2, within.1⟩
  · cases read

section

variable {c : Char}

private theorem utf8EncodeChar_one (below : c.toNat < 0x80) :
    String.utf8EncodeChar c = [UInt8.ofNat c.toNat] :=
  if_pos (Nat.le_of_lt_succ below)

private theorem utf8EncodeChar_two (large : 0x80 ≤ c.toNat) (below : c.toNat < 0x800) :
    String.utf8EncodeChar c =
      [UInt8.ofNat (c.toNat / 64 % 0x20 + 0xC0), UInt8.ofNat (c.toNat % 0x40 + 0x80)] := by
  have value : c.val.toNat = c.toNat := rfl
  have one : ¬ c.toNat ≤ 0x7F := by omega
  have two : c.toNat ≤ 0x7FF := by omega
  simp only [String.utf8EncodeChar, value, if_neg one, if_pos two]

private theorem utf8EncodeChar_three (large : 0x800 ≤ c.toNat) (below : c.toNat < 0x10000) :
    String.utf8EncodeChar c =
      [UInt8.ofNat (c.toNat / 4096 % 0x10 + 0xE0), UInt8.ofNat (c.toNat / 64 % 0x40 + 0x80),
        UInt8.ofNat (c.toNat % 0x40 + 0x80)] := by
  have value : c.val.toNat = c.toNat := rfl
  have one : ¬ c.toNat ≤ 0x7F := by omega
  have two : ¬ c.toNat ≤ 0x7FF := by omega
  have three : c.toNat ≤ 0xFFFF := by omega
  simp only [String.utf8EncodeChar, value, if_neg one, if_neg two, if_pos three]

private theorem utf8EncodeChar_four (large : 0x10000 ≤ c.toNat) :
    String.utf8EncodeChar c =
      [UInt8.ofNat (c.toNat / 262144 % 0x08 + 0xF0), UInt8.ofNat (c.toNat / 4096 % 0x40 + 0x80),
        UInt8.ofNat (c.toNat / 64 % 0x40 + 0x80), UInt8.ofNat (c.toNat % 0x40 + 0x80)] := by
  have value : c.val.toNat = c.toNat := rfl
  have one : ¬ c.toNat ≤ 0x7F := by omega
  have two : ¬ c.toNat ≤ 0x7FF := by omega
  have three : ¬ c.toNat ≤ 0xFFFF := by omega
  simp only [String.utf8EncodeChar, value, if_neg one, if_neg two, if_neg three]

variable (rest : Bytes)

private theorem charAt?_one (below : c.toNat < 0x80) :
    charAt? (UInt8.ofNat c.toNat) rest = some (c, rest) := by
  have small : c.toNat < 0x100 := by omega
  simp only [charAt?, ofNat_lt_iff small, UInt8.reduceToNat, if_pos below, toNat_ofNat small,
    Char.ofNat_toNat]

private theorem charAt?_two (large : 0x80 ≤ c.toNat) (below : c.toNat < 0x800) :
    charAt? (UInt8.ofNat (c.toNat / 64 % 0x20 + 0xC0))
      (UInt8.ofNat (c.toNat % 0x40 + 0x80) :: rest) = some (c, rest) := by
  have small : c.toNat / 64 % 0x20 + 0xC0 < 0x100 := by omega
  have lead : ¬ c.toNat / 64 % 0x20 + 0xC0 < 0x80 ∧ 0xC0 ≤ c.toNat / 64 % 0x20 + 0xC0 ∧
    c.toNat / 64 % 0x20 + 0xC0 < 0xE0 := by omega
  have whole : (c.toNat / 64 % 0x20 + 0xC0 - 0xC0) * 0x40 + c.toNat % 0x40 = c.toNat := by omega
  simp only [charAt?, ofNat_lt_iff small, le_ofNat_iff small, UInt8.reduceToNat, lead, if_false,
    decide_true, Bool.and_self, if_true, Option.bind_eq_bind, Option.bind_eq_some_iff]
  rw [toNat_ofNat small]
  refine ⟨_, continuation?_ofNat _, c, ?_, rfl⟩
  rw [whole, scalar?_toNat large]

private theorem charAt?_three (large : 0x800 ≤ c.toNat) (below : c.toNat < 0x10000) :
    charAt? (UInt8.ofNat (c.toNat / 4096 % 0x10 + 0xE0))
      (UInt8.ofNat (c.toNat / 64 % 0x40 + 0x80) :: UInt8.ofNat (c.toNat % 0x40 + 0x80) :: rest) =
      some (c, rest) := by
  have small : c.toNat / 4096 % 0x10 + 0xE0 < 0x100 := by omega
  have lead : ¬ c.toNat / 4096 % 0x10 + 0xE0 < 0x80 ∧ 0xC0 ≤ c.toNat / 4096 % 0x10 + 0xE0 ∧
    ¬ c.toNat / 4096 % 0x10 + 0xE0 < 0xE0 ∧ 0xE0 ≤ c.toNat / 4096 % 0x10 + 0xE0 ∧
    c.toNat / 4096 % 0x10 + 0xE0 < 0xF0 := by omega
  have whole : (c.toNat / 4096 % 0x10 + 0xE0 - 0xE0) * 0x1000 + c.toNat / 64 % 0x40 * 0x40 +
    c.toNat % 0x40 = c.toNat := by omega
  simp only [charAt?, ofNat_lt_iff small, le_ofNat_iff small, UInt8.reduceToNat, lead, if_false,
    decide_true, decide_false, Bool.and_self, Bool.and_false, Bool.false_eq_true, if_true,
    Option.bind_eq_bind, Option.bind_eq_some_iff]
  rw [toNat_ofNat small]
  refine ⟨_, continuation?_ofNat _, _, continuation?_ofNat _, c, ?_, rfl⟩
  rw [whole, scalar?_toNat large]

private theorem charAt?_four (large : 0x10000 ≤ c.toNat) :
    charAt? (UInt8.ofNat (c.toNat / 262144 % 0x08 + 0xF0))
      (UInt8.ofNat (c.toNat / 4096 % 0x40 + 0x80) :: UInt8.ofNat (c.toNat / 64 % 0x40 + 0x80) ::
        UInt8.ofNat (c.toNat % 0x40 + 0x80) :: rest) = some (c, rest) := by
  have bound := toNat_lt c
  have small : c.toNat / 262144 % 0x08 + 0xF0 < 0x100 := by omega
  have lead : ¬ c.toNat / 262144 % 0x08 + 0xF0 < 0x80 ∧ 0xC0 ≤ c.toNat / 262144 % 0x08 + 0xF0 ∧
    ¬ c.toNat / 262144 % 0x08 + 0xF0 < 0xE0 ∧ 0xE0 ≤ c.toNat / 262144 % 0x08 + 0xF0 ∧
    ¬ c.toNat / 262144 % 0x08 + 0xF0 < 0xF0 ∧ 0xF0 ≤ c.toNat / 262144 % 0x08 + 0xF0 ∧
    c.toNat / 262144 % 0x08 + 0xF0 < 0xF8 := by omega
  have whole : (c.toNat / 262144 % 0x08 + 0xF0 - 0xF0) * 0x40000 +
    c.toNat / 4096 % 0x40 * 0x1000 + c.toNat / 64 % 0x40 * 0x40 + c.toNat % 0x40 = c.toNat := by
    omega
  -- `Option.bind_some` holds by definition, and checking it would unfold the product by 0x40000.
  simp only [charAt?, ofNat_lt_iff small, le_ofNat_iff small, UInt8.reduceToNat, lead, if_false,
    decide_true, decide_false, Bool.and_self, Bool.and_false, Bool.false_eq_true, if_true,
    Option.bind_eq_bind, Option.bind_eq_some_iff]
  rw [toNat_ofNat small]
  refine ⟨_, continuation?_ofNat _, _, continuation?_ofNat _, _, continuation?_ofNat _, c, ?_, rfl⟩
  rw [whole, scalar?_toNat large]

end

theorem charAt?_utf8EncodeChar (c : Char) (rest : Bytes) :
    ∃ lead tail, String.utf8EncodeChar c = lead :: tail ∧
      charAt? lead (tail ++ rest) = some (c, rest) ∧
      (lead.toNat = c.toNat ∨ 0x80 ≤ lead.toNat) := by
  by_cases one : c.toNat < 0x80
  · refine ⟨_, _, utf8EncodeChar_one one, charAt?_one rest one, .inl (toNat_ofNat ?_)⟩
    omega
  by_cases two : c.toNat < 0x800
  · refine ⟨_, _, utf8EncodeChar_two (by omega) two, charAt?_two rest (by omega) two, .inr ?_⟩
    rw [toNat_ofNat (by omega)]
    omega
  by_cases three : c.toNat < 0x10000
  · refine ⟨_, _, utf8EncodeChar_three (by omega) three, charAt?_three rest (by omega) three,
      .inr ?_⟩
    rw [toNat_ofNat (by omega)]
    omega
  · refine ⟨_, _, utf8EncodeChar_four (by omega), charAt?_four rest (by omega), .inr ?_⟩
    rw [toNat_ofNat (by omega)]
    omega

theorem eq_of_charAt? {lead : UInt8} {rest after : Bytes} {c : Char}
    (read : charAt? lead rest = some (c, after)) :
    lead :: rest = String.utf8EncodeChar c ++ after := by
  have whole : UInt8.ofNat lead.toNat = lead := UInt8.ofNat_toNat
  unfold charAt? at read
  simp only [UInt8.lt_iff_toNat_lt, UInt8.le_iff_toNat_le, UInt8.reduceToNat, Bool.and_eq_true,
    decide_eq_true_eq, Option.pure_def, Option.bind_eq_bind] at read
  -- The reader tells the length of a character by the first byte. Each time the bits behind the
  -- marks are those of the code point, and `least` rules out the shorter forms.
  split at read
  · rename_i small
    obtain ⟨rfl, rfl⟩ := Prod.mk.inj (Option.some.inj read)
    have size := toNat_charOfNat (n := lead.toNat) (.inl (by omega))
    rw [utf8EncodeChar_one (by omega), size, whole, List.singleton_append]
  split at read
  · cases rest with
    | nil => cases read
    | cons b rest =>
      simp only [Option.bind_eq_some_iff] at read
      obtain ⟨m, next, d, scalar, same⟩ := read
      obtain ⟨rfl, rfl⟩ := Prod.mk.inj (Option.some.inj same)
      obtain ⟨_, rfl⟩ := continuation?_eq_some next
      obtain ⟨size, least⟩ := scalar?_eq_some scalar
      have first : d.toNat / 64 % 0x20 + 0xC0 = lead.toNat := by omega
      have last : d.toNat % 0x40 = m := by omega
      rw [utf8EncodeChar_two (by omega) (by omega), first, last, whole]
      rfl
  split at read
  · split at read
    · simp only [Option.bind_eq_some_iff] at read
      obtain ⟨l, next, m, next', d, scalar, same⟩ := read
      obtain ⟨rfl, rfl⟩ := Prod.mk.inj (Option.some.inj same)
      obtain ⟨_, rfl⟩ := continuation?_eq_some next
      obtain ⟨_, rfl⟩ := continuation?_eq_some next'
      obtain ⟨size, least⟩ := scalar?_eq_some scalar
      have first : d.toNat / 4096 % 0x10 + 0xE0 = lead.toNat := by omega
      have second : d.toNat / 64 % 0x40 = l := by omega
      have last : d.toNat % 0x40 = m := by omega
      rw [utf8EncodeChar_three (by omega) (by omega), first, second, last, whole]
      rfl
    · cases read
  split at read
  · split at read
    · simp only [Option.bind_eq_some_iff] at read
      obtain ⟨k, next, l, next', m, next'', d, scalar, same⟩ := read
      obtain ⟨rfl, rfl⟩ := Prod.mk.inj (Option.some.inj same)
      obtain ⟨_, rfl⟩ := continuation?_eq_some next
      obtain ⟨_, rfl⟩ := continuation?_eq_some next'
      obtain ⟨_, rfl⟩ := continuation?_eq_some next''
      obtain ⟨size, least⟩ := scalar?_eq_some scalar
      have first : d.toNat / 262144 % 0x08 + 0xF0 = lead.toNat := by omega
      have second : d.toNat / 4096 % 0x40 = k := by omega
      have third : d.toNat / 64 % 0x40 = l := by omega
      have last : d.toNat % 0x40 = m := by omega
      rw [utf8EncodeChar_four (by omega), first, second, third, last, whole]
      rfl
    · cases read
  · cases read

theorem utf8EncodeChar_ascii {c : Char} (ascii : c.toNat < 0x80) :
    String.utf8EncodeChar c = [c.toUInt8] := by
  have same : UInt8.ofNat c.toNat = c.toUInt8 := by
    rw [← UInt8.toNat_inj, toNat_toUInt8 (by omega)]
    exact toNat_ofNat (by omega)
  rw [utf8EncodeChar_one ascii, same]

theorem ofText_ofList {cs : List Char} (ascii : ∀ c ∈ cs, c.toNat < 0x80) :
    Bytes.ofText (String.ofList cs) = cs.map Char.toUInt8 := by
  rw [Bytes.ofText, String.toList_ofList]
  induction cs with
  | nil => rfl
  | cons c cs ih =>
    rw [List.flatMap_cons, utf8EncodeChar_ascii (ascii c (List.mem_cons_self ..)),
      ih fun d member => ascii d (List.mem_cons_of_mem _ member)]
    rfl

private theorem decode?_flatMap (cs : List Char) :
    decode? (cs.flatMap String.utf8EncodeChar) = some cs := by
  induction cs with
  | nil => simp [decode?]
  | cons c cs ih =>
    obtain ⟨lead, tail, encoded, read, -⟩ :=
      charAt?_utf8EncodeChar c (cs.flatMap String.utf8EncodeChar)
    rw [List.flatMap_cons, encoded, List.cons_append, decode?]
    split
    · rename_i none
      rw [read] at none
      cases none
    · rename_i some
      rw [read] at some
      cases some
      rw [ih, Option.map_some]

theorem text?_ofText (s : String) : text? (Bytes.ofText s) = some s := by
  rw [text?, Bytes.ofText, decode?_flatMap, Option.map_some, String.ofList_toList]

private theorem eq_flatMap_of_decode? {bytes : Bytes} {cs : List Char}
    (read : decode? bytes = some cs) : bytes = cs.flatMap String.utf8EncodeChar := by
  fun_induction decode? bytes generalizing cs with
  | case1 =>
    obtain rfl := Option.some.inj read
    rfl
  | case2 lead rest none => cases read
  | case3 lead rest c after first ih =>
    obtain ⟨ds, later, rfl⟩ := Option.map_eq_some_iff.mp read
    rw [List.flatMap_cons, ← ih later]
    exact eq_of_charAt? first

theorem text?_eq_some_iff {bytes : Bytes} {s : String} :
    text? bytes = some s ↔ bytes = Bytes.ofText s := by
  constructor
  · intro read
    obtain ⟨cs, decoded, rfl⟩ := Option.map_eq_some_iff.mp read
    rw [Bytes.ofText, String.toList_ofList]
    exact eq_flatMap_of_decode? decoded
  · rintro rfl
    exact text?_ofText s

end StreamRelay.Text.Utf8
