import StreamRelay.Net.NumericHost
import StreamRelay.Proofs.Number.Decimal

/-!
# Printed addresses

The printed form of an address of version 4 is four decimal numbers. One of version 6 has the
longest run of its zero groups, the leftmost of several, in the form of two colons. Each printed
form is read back as the address that was printed, and none of version 6 is read as one of
version 4.
-/

set_option autoImplicit false
set_option relaxedAutoImplicit false

namespace StreamRelay.Net

private theorem splitAtAll_eq_splitOn (sep : Char) (cs : List Char) :
    splitAtAll sep cs = cs.splitOn sep := by
  induction cs with
  | nil => rfl
  | cons c cs ih =>
    rw [splitAtAll, ih, List.splitOn_cons_eq_if_modifyHead]
    by_cases same : c = sep
    · simp [same]
    · obtain ⟨piece, pieces, split⟩ := List.exists_cons_of_ne_nil (List.splitOn_ne_nil sep cs)
      simp [same, split]

section Version4

private theorem octet?_decimal (n : UInt8) : octet? (decimal n.toNat) = some n := by
  have below : n.toNat < 256 := n.toNat_lt
  have short : (decimal n.toNat).length ≤ 3 :=
    (Nat.length_toDigits_le_iff (by decide) (by decide)).mpr (Nat.lt_of_lt_of_le below (by decide))
  have filled : (decimal n.toNat).length ≠ 0 := Nat.ne_of_gt Nat.length_toDigits_pos
  have canonical : ¬ ((decimal n.toNat).head? = some '0' ∧ 1 < (decimal n.toNat).length) := by
    rintro ⟨zero, long⟩
    have large : ¬ n.toNat < 10 := by
      intro small
      rw [decimal, Nat.toDigits_of_lt_base small] at long
      simp at long
    exact Number.head?_toDigits_ne (by omega) zero
  have read : Number.digits 255 .tooLarge (decimal n.toNat) = .ok n.toNat :=
    Number.digits_toDigits 255 .tooLarge (Nat.le_of_lt_succ below)
  simp only [octet?, read]
  rw [if_neg]
  · exact congrArg some (UInt8.ofNat_toNat ..)
  · simp only [Bool.or_eq_true, Bool.and_eq_true, decide_eq_true_eq, not_or]
    exact ⟨⟨filled, Nat.not_lt.mpr short⟩, canonical⟩

private theorem isDigit_of_octet? {cs : List Char} {n : UInt8} (read : octet? cs = some n)
    {c : Char} (member : c ∈ cs) : c.isDigit = true := by
  unfold octet? at read
  split at read
  · cases read
  · split at read
    · rename_i digits
      exact (Number.digits_eq_ok_iff.mp digits).1.digits c member
    · cases read

theorem Ipv4.text_eq_intercalate (ip : Ipv4) :
    ip.text = ['.'].intercalate
      [decimal ip.a.toNat, decimal ip.b.toNat, decimal ip.c.toNat, decimal ip.d.toNat] := by
  simp [Ipv4.text, List.intercalate]

theorem Ipv4.parse?_text (ip : Ipv4) : Ipv4.parse? ip.text = some ip := by
  have plain (n : Nat) : '.' ∉ decimal n := Number.not_mem_toDigits (by decide) n
  have split : splitAtAll '.' ip.text =
      [decimal ip.a.toNat, decimal ip.b.toNat, decimal ip.c.toNat, decimal ip.d.toNat] := by
    rw [splitAtAll_eq_splitOn, ip.text_eq_intercalate]
    refine List.splitOn_intercalate '.' ?_ (List.cons_ne_nil _ _)
    intro piece member
    simp only [List.mem_cons, List.not_mem_nil, or_false] at member
    rcases member with rfl | rfl | rfl | rfl <;> exact plain _
  simp [Ipv4.parse?, split, octet?_decimal]

private theorem isDigit_of_parse? {cs : List Char} {ip : Ipv4} (read : Ipv4.parse? cs = some ip)
    {c : Char} (member : c ∈ cs) : c.isDigit = true ∨ c = '.' := by
  unfold Ipv4.parse? at read
  split at read
  · rename_i a b c' d split
    simp only [Option.bind_eq_bind, Option.bind_eq_some_iff] at read
    obtain ⟨_, first, _, second, _, third, _, fourth, -⟩ := read
    have whole : cs = ['.'].intercalate [a, b, c', d] := by
      rw [← split, splitAtAll_eq_splitOn, List.intercalate_splitOn]
    simp only [whole, List.intercalate, List.intersperse, List.flatten_cons, List.flatten_nil,
      List.mem_append, List.mem_singleton, List.not_mem_nil, or_false] at member
    rcases member with member | dot | member | dot | member | dot | member
    · exact .inl (isDigit_of_octet? first member)
    · exact .inr dot
    · exact .inl (isDigit_of_octet? second member)
    · exact .inr dot
    · exact .inl (isDigit_of_octet? third member)
    · exact .inr dot
    · exact .inl (isDigit_of_octet? fourth member)
  · cases read

theorem Ipv4.parse?_eq_none {cs : List Char} (colon : ':' ∈ cs) : Ipv4.parse? cs = none := by
  cases read : Ipv4.parse? cs with
  | none => rfl
  | some ip => rcases isDigit_of_parse? read colon with digit | dot <;> contradiction

theorem Ipv4.not_mem_text {c : Char} (digitless : c.isDigit = false) (dotless : c ≠ '.')
    (ip : Ipv4) : c ∉ ip.text := by
  intro member
  rcases isDigit_of_parse? ip.parse?_text member with digit | dot
  · rw [digitless] at digit
    exact Bool.noConfusion digit
  · exact dotless dot

end Version4

section Groups

private theorem hexDigit?_digitChar {d : Nat} (small : d < 16) :
    hexDigit? (Nat.digitChar d) = some d := by
  have table : ∀ n < 16, hexDigit? (Nat.digitChar n) = some n := by decide
  exact table d small

private theorem hexFrom?_append (value : Nat) (front back : List Char) :
    hexFrom? value (front ++ back) = (hexFrom? value front).bind fun n => hexFrom? n back := by
  induction front generalizing value with
  | nil => rfl
  | cons c front ih =>
    cases digit : hexDigit? c with
    | none => simp [hexFrom?, digit]
    | some d => simp [hexFrom?, digit, ih]

private theorem hexFrom?_toDigits (n : Nat) : hexFrom? 0 (Nat.toDigits 16 n) = some n := by
  induction n using Nat.base_induction 16 (by decide) with
  | single m small =>
    simp [Nat.toDigits_of_lt_base small, hexFrom?, hexDigit?_digitChar small]
  | digit m k small before ih =>
    rw [← Nat.toDigits_append_toDigits (by decide) before small, hexFrom?_append, ih,
      Nat.toDigits_of_lt_base small]
    simp [hexFrom?, hexDigit?_digitChar small, Nat.mul_comm]

private theorem group?_toDigits (g : UInt16) : group? (Nat.toDigits 16 g.toNat) = some g := by
  have short : (Nat.toDigits 16 g.toNat).length ≤ 4 :=
    (Nat.length_toDigits_le_iff (by decide) (by decide)).mpr g.toNat_lt
  have filled : (Nat.toDigits 16 g.toNat).length ≠ 0 := Nat.ne_of_gt Nat.length_toDigits_pos
  simp only [group?, hexFrom?_toDigits, Option.map_some, UInt16.ofNat_toNat]
  rw [if_neg]
  simp only [Bool.or_eq_true, decide_eq_true_eq, not_or]
  exact ⟨filled, Nat.not_lt.mpr short⟩

private theorem hexDigit?_ne_none {value n : Nat} {cs : List Char}
    (read : hexFrom? value cs = some n) {c : Char} (member : c ∈ cs) : hexDigit? c ≠ none := by
  induction cs generalizing value with
  | nil => simp at member
  | cons first cs ih =>
    cases digit : hexDigit? first with
    | none => simp [hexFrom?, digit] at read
    | some d =>
      rcases List.mem_cons.mp member with rfl | member
      · simp [digit]
      · exact ih (by simpa [hexFrom?, digit] using read) member

private theorem not_mem_hexDigits {c : Char} (other : hexDigit? c = none) (n : Nat) :
    c ∉ Nat.toDigits 16 n :=
  fun member => hexDigit?_ne_none (hexFrom?_toDigits n) member other

private theorem groupsText_eq_intercalate (gs : List UInt16) :
    groupsText gs = [':'].intercalate (gs.map fun g => Nat.toDigits 16 g.toNat) := by
  induction gs with
  | nil => rfl
  | cons g gs ih =>
    cases gs with
    | nil => simp [groupsText, List.intercalate]
    | cons g' gs =>
      rw [groupsText, ih]
      simp [List.intercalate_cons_cons]
      exact List.cons_ne_nil _ _

private theorem exists_groupsText_eq_cons (g : UInt16) (gs : List UInt16) :
    ∃ c cs, groupsText (g :: gs) = c :: cs ∧ c ≠ ':' := by
  have plain := not_mem_hexDigits (c := ':') (by decide) g.toNat
  have filled : Nat.toDigits 16 g.toNat ≠ [] := Nat.toDigits_ne_nil
  obtain ⟨c, cs, written⟩ := List.exists_cons_of_ne_nil filled
  rw [written, List.mem_cons, not_or] at plain
  cases gs with
  | nil => exact ⟨c, cs, by simp [groupsText, written], Ne.symm plain.1⟩
  | cons g' gs =>
    exact ⟨c, cs ++ ':' :: groupsText (g' :: gs), by simp [groupsText, written],
      Ne.symm plain.1⟩

private theorem not_mem_groupsText {c : Char} (other : hexDigit? c = none) (apart : c ≠ ':')
    (gs : List UInt16) : c ∉ groupsText gs := by
  induction gs with
  | nil => exact List.not_mem_nil
  | cons g gs ih =>
    cases gs with
    | nil => exact not_mem_hexDigits other g.toNat
    | cons g' gs =>
      rw [groupsText, List.mem_append, List.mem_cons]
      · rintro (member | colon | member)
        · exact not_mem_hexDigits other g.toNat member
        · exact apart colon
        · exact ih member
      · exact List.cons_ne_nil _ _

private theorem groupsOf?_digits (gs : List UInt16) :
    groupsOf? (gs.map fun g => Nat.toDigits 16 g.toNat) = some gs := by
  have single (g : UInt16) : Ipv4.parse? (Nat.toDigits 16 g.toNat) = none := by
    have plain := not_mem_hexDigits (c := '.') (by decide) g.toNat
    rw [Ipv4.parse?, splitAtAll_eq_splitOn, List.splitOn_eq_singleton plain]
  induction gs with
  | nil => rfl
  | cons g gs ih =>
    cases gs with
    | nil => simp [groupsOf?, single, group?_toDigits]
    | cons g' gs =>
      rw [List.map_cons] at ih ⊢
      simp [groupsOf?, group?_toDigits, ih]

private theorem groupRun?_groupsText (gs : List UInt16) : groupRun? (groupsText gs) = some gs := by
  cases gs with
  | nil => rfl
  | cons g gs =>
    obtain ⟨c, cs, written, -⟩ := exists_groupsText_eq_cons g gs
    have filled : (groupsText (g :: gs)).isEmpty = false := by rw [written]; rfl
    have split : splitAtAll ':' (groupsText (g :: gs)) =
        (g :: gs).map fun g => Nat.toDigits 16 g.toNat := by
      rw [splitAtAll_eq_splitOn, groupsText_eq_intercalate]
      refine List.splitOn_intercalate ':' ?_ (List.cons_ne_nil _ _)
      intro piece member
      obtain ⟨g', -, rfl⟩ := List.mem_map.mp member
      exact not_mem_hexDigits (by decide) g'.toNat
    rw [groupRun?, filled, if_neg (by decide), split, groupsOf?_digits]

end Groups

section Pairs

private theorem splitAtPair_cons_of_ne {c : Char} (other : c ≠ ':') (cs : List Char) :
    splitAtPair (c :: cs) = (splitAtPair cs).map fun (before, after) => (c :: before, after) := by
  rw [splitAtPair]
  intro _ same
  exact absurd same other

private theorem splitAtPair_append_of_not_mem {front : List Char} (plain : ':' ∉ front)
    (back : List Char) :
    splitAtPair (front ++ back) =
      (splitAtPair back).map fun (before, after) => (front ++ before, after) := by
  induction front with
  | nil => simp
  | cons c front ih =>
    rw [List.mem_cons, not_or] at plain
    rw [List.cons_append, splitAtPair_cons_of_ne (Ne.symm plain.1), ih plain.2, Option.map_map]
    rfl

private theorem splitAtPair_groupsText_append (gs : List UInt16) (back : List Char) :
    splitAtPair (groupsText gs ++ back) =
      (splitAtPair back).map fun (before, after) => (groupsText gs ++ before, after) := by
  have plain (g : UInt16) := not_mem_hexDigits (c := ':') (by decide) g.toNat
  induction gs with
  | nil => simp [groupsText]
  | cons g gs ih =>
    cases gs with
    | nil => exact splitAtPair_append_of_not_mem (plain g) back
    | cons g' gs =>
      obtain ⟨c, cs, written, other⟩ := exists_groupsText_eq_cons g' gs
      have single : splitAtPair (':' :: (groupsText (g' :: gs) ++ back)) =
          (splitAtPair (groupsText (g' :: gs) ++ back)).map
            fun (before, after) => (':' :: before, after) := by
        rw [written, List.cons_append, splitAtPair]
        intro rest _ same
        exact absurd (List.cons.inj same).1 other
      rw [groupsText, List.append_assoc, List.cons_append,
        splitAtPair_append_of_not_mem (plain g), single, ih, Option.map_map, Option.map_map]
      · congr 1
        funext parts
        simp
      · exact List.cons_ne_nil _ _

end Pairs

section ZeroRuns

/-- A run of zero groups that no other run exceeds and no other of its length precedes. -/
structure IsLongestZeroRun (gs front : List UInt16) (count : Nat) (back : List UInt16) : Prop where
  parts : gs = front ++ List.replicate count 0 ++ back
  longest : ∀ front' count' back', gs = front' ++ List.replicate count' 0 ++ back' →
    count' ≤ count
  leftmost : ∀ front' back', gs = front' ++ List.replicate count 0 ++ back' →
    front.length ≤ front'.length

private theorem exists_leadingZeros (gs : List UInt16) :
    ∃ back, gs = List.replicate (leadingZeros gs) 0 ++ back := by
  induction gs with
  | nil => exact ⟨[], rfl⟩
  | cons g gs ih =>
    by_cases zero : g = 0
    · obtain ⟨back, parts⟩ := ih
      exact ⟨back, by rw [leadingZeros, if_pos zero, List.replicate_succ, List.cons_append, ← parts,
        zero]⟩
    · exact ⟨g :: gs, by simp [leadingZeros, zero]⟩

private theorem le_leadingZeros {gs back : List UInt16} {count : Nat}
    (parts : gs = List.replicate count 0 ++ back) : count ≤ leadingZeros gs := by
  induction count generalizing gs with
  | zero => exact Nat.zero_le _
  | succ count ih =>
    subst parts
    rw [List.replicate_succ, List.cons_append, leadingZeros, if_pos rfl]
    exact Nat.succ_le_succ (ih rfl)

private theorem longestZeroRun_isLongest (position : Nat) (gs : List UInt16) :
    ∃ front back, (longestZeroRun position gs).start = position + front.length ∧
      IsLongestZeroRun gs front (longestZeroRun position gs).length back := by
  induction gs generalizing position with
  | nil =>
    refine ⟨[], [], rfl, rfl, ?_, fun _ _ _ => Nat.zero_le _⟩
    intro front' count' back' parts
    have lengths := congrArg List.length parts
    simp only [List.length_nil, List.length_append, List.length_replicate] at lengths
    omega
  | cons g gs ih =>
    obtain ⟨front, back, start, later⟩ := ih (position + 1)
    rw [longestZeroRun]
    split
    · rename_i here
      obtain ⟨rest, parts⟩ := exists_leadingZeros (g :: gs)
      refine ⟨[], rest, rfl, parts, ?_, fun _ _ _ => Nat.zero_le _⟩
      intro front' count' back' parts'
      cases front' with
      | nil => exact le_leadingZeros parts'
      | cons first front' =>
        exact (later.longest front' count' back' (List.cons.inj parts').2).trans here
    · rename_i here
      refine ⟨g :: front, back, ?_, ?_, ?_, ?_⟩
      · simp only [start, List.length_cons]
        omega
      · rw [List.cons_append, List.cons_append, ← later.parts]
      · intro front' count' back' parts'
        cases front' with
        | nil => exact (le_leadingZeros parts').trans (Nat.le_of_not_le here)
        | cons first front' => exact later.longest front' count' back' (List.cons.inj parts').2
      · intro front' back' parts'
        cases front' with
        | nil => exact absurd (le_leadingZeros parts') here
        | cons first front' =>
          exact Nat.succ_le_succ (later.leftmost front' back' (List.cons.inj parts').2)

section

variable {gs front front' back back' : List UInt16} {count count' : Nat}

private theorem IsLongestZeroRun.take_eq (run : IsLongestZeroRun gs front count back) :
    gs.take front.length = front := by
  rw [run.parts, List.append_assoc, List.take_left]

private theorem IsLongestZeroRun.drop_eq (run : IsLongestZeroRun gs front count back) :
    gs.drop (front.length + count) = back := by
  have length : front.length + count = (front ++ List.replicate count (0 : UInt16)).length := by
    simp
  rw [run.parts, length, List.drop_left]

private theorem IsLongestZeroRun.unique (run : IsLongestZeroRun gs front count back)
    (run' : IsLongestZeroRun gs front' count' back') : front = front' ∧ back = back' := by
  obtain rfl : count = count' :=
    Nat.le_antisymm (run'.longest _ _ _ run.parts) (run.longest _ _ _ run'.parts)
  have level : front.length = front'.length :=
    Nat.le_antisymm (run.leftmost _ _ run'.parts) (run'.leftmost _ _ run.parts)
  have same := run.parts.symm.trans run'.parts
  rw [List.append_assoc, List.append_assoc] at same
  obtain ⟨rfl, rest⟩ := List.append_inj same level
  exact ⟨rfl, List.append_cancel_left rest⟩

end

end ZeroRuns

section Version6

private theorem Ipv4.groups_ofGroups (high low : UInt16) :
    (Ipv4.ofGroups high low).groups = [high, low] := by
  have whole (g : UInt16) :
      UInt16.ofNat ((UInt8.ofNat (g.toNat / 256)).toNat * 256 + (UInt8.ofNat g.toNat).toNat) =
        g := by
    have below : g.toNat < 65536 := g.toNat_lt
    rw [← UInt16.toNat_inj, UInt16.toNat_ofNat', UInt8.toNat_ofNat', UInt8.toNat_ofNat']
    omega
  simp only [Ipv4.ofGroups, Ipv4.groups, whole]

private theorem Ipv4.groups_eq_iff {ip : Ipv4} {high low : UInt16} :
    ip.groups = [high, low] ↔ ip = Ipv4.ofGroups high low := by
  constructor
  · intro held
    have upper (a b : UInt8) :
        UInt8.ofNat ((UInt16.ofNat (a.toNat * 256 + b.toNat)).toNat / 256) = a := by
      have first : a.toNat < 256 := a.toNat_lt
      have second : b.toNat < 256 := b.toNat_lt
      rw [← UInt8.toNat_inj, UInt8.toNat_ofNat', UInt16.toNat_ofNat']
      omega
    have lower (a b : UInt8) :
        UInt8.ofNat (UInt16.ofNat (a.toNat * 256 + b.toNat)).toNat = b := by
      have second : b.toNat < 256 := b.toNat_lt
      rw [← UInt8.toNat_inj, UInt8.toNat_ofNat', UInt16.toNat_ofNat']
      omega
    obtain ⟨rfl, rest⟩ := List.cons.inj held
    obtain ⟨rfl, -⟩ := List.cons.inj rest
    simp only [Ipv4.ofGroups, upper, lower]
  · rintro rfl
    exact Ipv4.groups_ofGroups high low

private theorem Ipv6.ofGroups?_groups (ip : Ipv6) : Ipv6.ofGroups? ip.groups = some ip := rfl

/-- An address that stands for one of version 4. -/
def Ipv6.Maps (ip : Ipv6) (v4 : Ipv4) : Prop := ip.groups = [0, 0, 0, 0, 0, 0xFFFF] ++ v4.groups

/-- The canonical text: a pair of colons for the longest run of at least two zero groups, the
leftmost of several, and decimal numbers at the end of an address that stands for one of version 4.
-/
inductive Ipv6.IsCanonical (ip : Ipv6) : List Char → Prop
  | mapped {v4 : Ipv4} : ip.Maps v4 →
      IsCanonical ip ([':', ':', 'f', 'f', 'f', 'f', ':'] ++ v4.text)
  | compressed {front back : List UInt16} {count : Nat} : (∀ v4, ¬ ip.Maps v4) →
      IsLongestZeroRun ip.groups front count back → 2 ≤ count →
      IsCanonical ip (groupsText front ++ ':' :: ':' :: groupsText back)
  | full : (∀ v4, ¬ ip.Maps v4) →
      (∀ front count back, ip.groups = front ++ List.replicate count 0 ++ back → count < 2) →
      IsCanonical ip (groupsText ip.groups)

private theorem Ipv6.maps_iff (ip : Ipv6) (v4 : Ipv4) :
    ip.Maps v4 ↔ (ip.g0 = 0 ∧ ip.g1 = 0 ∧ ip.g2 = 0 ∧ ip.g3 = 0 ∧ ip.g4 = 0 ∧ ip.g5 = 0xFFFF) ∧
      v4 = Ipv4.ofGroups ip.g6 ip.g7 := by
  rw [← Ipv4.groups_eq_iff, eq_comm (a := v4.groups)]
  simp [Maps, Ipv6.groups, and_assoc]

theorem Ipv6.text_isCanonical (ip : Ipv6) : ip.IsCanonical ip.text := by
  unfold Ipv6.text
  split
  · rename_i zeros
    exact .mapped ((ip.maps_iff _).mpr ⟨zeros, rfl⟩)
  · rename_i other
    have unmapped (v4 : Ipv4) : ¬ ip.Maps v4 := fun maps => other ((ip.maps_iff v4).mp maps).1
    obtain ⟨front, back, start, run⟩ := longestZeroRun_isLongest 0 ip.groups
    rw [Nat.zero_add] at start
    simp only
    split
    · rename_i long
      rw [start, run.take_eq, run.drop_eq]
      exact .compressed unmapped run long
    · rename_i short
      refine .full unmapped fun front' count' back' parts => ?_
      have within := run.longest front' count' back' parts
      omega

private theorem Ipv6.parse?_mapped {ip : Ipv6} {v4 : Ipv4} (maps : ip.Maps v4) :
    Ipv6.parse? ([':', ':', 'f', 'f', 'f', 'f', ':'] ++ v4.text) = some ip := by
  have plain : ':' ∉ v4.text := v4.not_mem_text (by decide) (by decide)
  have split : splitAtAll ':' (['f', 'f', 'f', 'f', ':'] ++ v4.text) =
      [['f', 'f', 'f', 'f'], v4.text] := by
    rw [splitAtAll_eq_splitOn]
    have first : ':' ∉ ['f', 'f', 'f', 'f'] := by decide
    exact (List.splitOn_append_cons_self_of_not_mem first v4.text).trans
      (congrArg _ (List.splitOn_eq_singleton plain))
  have ones : group? ['f', 'f', 'f', 'f'] = some 0xFFFF := by decide
  have back : groupRun? (['f', 'f', 'f', 'f', ':'] ++ v4.text) = some (0xFFFF :: v4.groups) := by
    rw [groupRun?, if_neg (by simp), split]
    simp [groupsOf?, ones, v4.parse?_text]
  have pair : splitAtPair ([':', ':', 'f', 'f', 'f', 'f', ':'] ++ v4.text) =
      some ([], ['f', 'f', 'f', 'f', ':'] ++ v4.text) := rfl
  have front : groupRun? [] = some [] := rfl
  rw [Ipv6.parse?, pair]
  simp only [back, front]
  exact (congrArg Ipv6.ofGroups? maps.symm).trans ip.ofGroups?_groups

private theorem Ipv6.parse?_compressed {ip : Ipv6} {front back : List UInt16} {count : Nat}
    (parts : ip.groups = front ++ List.replicate count 0 ++ back) (filled : 1 ≤ count) :
    Ipv6.parse? (groupsText front ++ ':' :: ':' :: groupsText back) = some ip := by
  have lengths := congrArg List.length parts
  simp only [Ipv6.groups, List.length_cons, List.length_nil, List.length_append,
    List.length_replicate] at lengths
  have pair : splitAtPair (groupsText front ++ ':' :: ':' :: groupsText back) =
      some (groupsText front, groupsText back) := by
    rw [splitAtPair_groupsText_append]
    simp [splitAtPair]
  have dotless : '.' ∉ groupsText front := not_mem_groupsText (by decide) (by decide) front
  have room : ¬ 8 ≤ front.length + back.length := by omega
  have missing : 8 - front.length - back.length = count := by omega
  have read : Ipv6.ofGroups? (front ++ (List.replicate count 0 ++ back)) = some ip := by
    rw [← List.append_assoc, ← parts, ofGroups?_groups]
  rw [Ipv6.parse?, pair]
  simp [dotless, groupRun?_groupsText, room, missing, read]

private theorem Ipv6.parse?_full (ip : Ipv6) : Ipv6.parse? (groupsText ip.groups) = some ip := by
  have single : splitAtPair (groupsText ip.groups) = none := by
    have whole := splitAtPair_groupsText_append ip.groups []
    rwa [List.append_nil] at whole
  rw [Ipv6.parse?, single]
  simp [groupRun?_groupsText, ofGroups?_groups]

theorem Ipv6.parse?_of_isCanonical {ip : Ipv6} {cs : List Char} (canonical : ip.IsCanonical cs) :
    Ipv6.parse? cs = some ip := by
  cases canonical with
  | mapped maps => exact parse?_mapped maps
  | compressed _ run long => exact parse?_compressed run.parts (Nat.le_of_succ_le long)
  | full _ _ => exact ip.parse?_full

theorem Ipv6.isCanonical_iff (ip : Ipv6) (cs : List Char) : ip.IsCanonical cs ↔ cs = ip.text := by
  have printed := ip.text_isCanonical
  refine ⟨fun canonical => ?_, fun same => same ▸ printed⟩
  generalize ip.text = text at printed
  cases canonical with
  | mapped maps =>
    cases printed with
    | mapped maps' => rw [((ip.maps_iff _).mp maps).2, ((ip.maps_iff _).mp maps').2]
    | compressed unmapped _ _ => exact absurd maps (unmapped _)
    | full unmapped _ => exact absurd maps (unmapped _)
  | compressed unmapped run long =>
    cases printed with
    | mapped maps => exact absurd maps (unmapped _)
    | compressed _ run' _ => rw [(run.unique run').1, (run.unique run').2]
    | full _ short => exact absurd (short _ _ _ run.parts) (Nat.not_lt.mpr long)
  | full unmapped short =>
    cases printed with
    | mapped maps => exact absurd maps (unmapped _)
    | compressed _ run long => exact absurd (short _ _ _ run.parts) (Nat.not_lt.mpr long)
    | full _ _ => rfl

theorem Ipv6.IsCanonical.colon_mem {ip : Ipv6} {cs : List Char} (canonical : ip.IsCanonical cs) :
    ':' ∈ cs := by
  cases canonical with
  | mapped _ => exact .head _
  | compressed _ _ _ => simp
  | full _ _ => simp [Ipv6.groups, groupsText]

theorem Ipv6.IsCanonical.not_mem {ip : Ipv6} {cs : List Char} (canonical : ip.IsCanonical cs)
    {c : Char} (hexless : hexDigit? c = none) (digitless : c.isDigit = false) (colonless : c ≠ ':')
    (dotless : c ≠ '.') : c ∉ cs := by
  have plain := not_mem_groupsText hexless colonless
  cases canonical with
  | @mapped v4 _ =>
    have letter : c ≠ 'f' := by
      rintro rfl
      contradiction
    simp [letter, colonless, v4.not_mem_text digitless dotless]
  | compressed _ _ _ => simp [plain, colonless]
  | full _ _ => exact plain _

end Version6

end StreamRelay.Net
