import StreamRelay.Proofs.Json.Items
import StreamRelay.Proofs.Settings.Overrides

set_option autoImplicit false
set_option relaxedAutoImplicit false

namespace StreamRelay.Json

open Settings (Field Overrides)

theorem Opens.nextKey {first : Bool} {lead : Bytes} (opens : Opens first lead) (rest : Bytes) :
    Json.nextKey first (lead ++ '"'.toUInt8 :: rest) = .ok (true, rest) := by
  cases first with
  | true =>
    rw [Json.nextKey, IsSpaces.skipSpace opens, skipSpace_cons (by decide)]
    rfl
  | false =>
    obtain ⟨before, after, left, right, rfl⟩ := opens
    rw [List.append_assoc, List.cons_append, Json.nextKey, left.skipSpace,
      skipSpace_cons (by decide)]
    simp only [Bool.false_eq_true, if_false, if_true, right.skipSpace]
    rw [skipSpace_cons (by decide)]
    rfl

private theorem nextKey_end (first : Bool) {space : Bytes} (spaces : IsSpaces space)
    (rest : Bytes) : nextKey first (space ++ 0x7D :: rest) = .ok (false, rest) := by
  rw [nextKey, spaces.skipSpace, skipSpace_cons (by decide)]
  rfl

theorem readColon_append {space : Bytes} (spaces : IsSpaces space) (rest : Bytes) :
    readColon (space ++ ':'.toUInt8 :: rest) = .ok rest := by
  rw [readColon, spaces.skipSpace, skipSpace_cons (by decide)]
  rfl

private theorem Member.read {o : Overrides} {field : Field} {text : Bytes}
    (written : Member o field text)
    {first : Bool} {lead : Bytes} (opens : Opens first lead) {free : List Field}
    (unnamed : field ∈ free) (filled : Overrides) {rest : Bytes} (after : IsAfterValue rest) :
    readMembers first free filled (lead ++ text ++ rest) =
      readMembers false (free.erase field) (filled.set field (o.get field)) rest := by
  obtain ⟨⟨spelt⟩, before, behind, value⟩ := written
  rename_i left right value' body
  have parts : lead ++ ('"'.toUInt8 :: body ++ ['"'.toUInt8] ++ left ++ ':'.toUInt8 :: right ++
      value') ++ rest = lead ++ '"'.toUInt8 :: (body ++ '"'.toUInt8 ::
        (left ++ ':'.toUInt8 :: (right ++ value' ++ rest))) := by
    simp
  rw [parts, readMembers, opens.nextKey]
  simp only [bind, Except.bind, spelt.read, String.ofList_toList, Field.named?_name,
    dif_pos unnamed, readColon_append before, value.read behind after]

private theorem Remains.readMembers {o : Overrides} {first : Bool} {fields : List Field}
    {text : Bytes} (remains : Remains (Member o) 0x7D first fields text) (distinct : fields.Nodup)
    {free : List Field} (unnamed : fields ⊆ free) (filled : Overrides) (rest : Bytes) :
    Json.readMembers first free filled (text ++ rest) = .ok (o.copied filled fields, rest) := by
  -- From turn to turn a member is taken away, its setting is filled in and is no longer free.
  induction remains generalizing free filled with
  | closed spaces =>
    rw [List.append_assoc, List.cons_append, List.nil_append, Json.readMembers,
      nextKey_end _ spaces]
    rfl
  | @cons first field fields lead text behind opens member remains ih =>
    obtain ⟨others, apart⟩ := List.nodup_cons.mp distinct
    have kept : fields ⊆ free.erase field := by
      intro other listed
      have different : other ≠ field := by
        rintro rfl
        exact others listed
      exact (List.mem_erase_of_ne different).mpr (unnamed (List.mem_cons_of_mem _ listed))
    rw [List.append_assoc, member.read opens (unnamed (List.mem_cons_self ..)) filled
      (remains.isAfterValue (by decide) rest), ih apart kept]
    rfl

theorem Object.read {o : Overrides} {text : Bytes} (written : Object o text) {space : Bytes}
    (spaces : IsSpaces space) (rest : Bytes) :
    readRecord (space ++ text ++ rest) = .ok (o, rest) := by
  obtain ⟨distinct, covered, members⟩ := written
  rename_i fields body
  have all : fields ⊆ Field.all := fun field _ => field.mem_all
  have read := members.remains.readMembers distinct all .unset rest
  rw [Overrides.copied_unset covered] at read
  rw [List.append_assoc, List.cons_append, List.cons_append, readRecord, spaces.skipSpace,
    skipSpace_cons (by decide)]
  exact read

theorem readOverrides_object {o : Overrides} {text : Bytes} (written : Padded (Object o) text) :
    readOverrides text = .ok o := by
  obtain ⟨before, object, after⟩ := written
  have read := object.read before
  obtain ⟨-, -, -⟩ := object
  exact readOverrides_of_readRecord (b := 0x7B) (read _) after (by simp) (by decide)

private theorem nextKey_eq_ok {first key : Bool} {text rest : Bytes}
    (read : nextKey first text = .ok (key, rest)) :
    (key = true ∧ ∃ lead, Opens first lead ∧ text = lead ++ '"'.toUInt8 :: rest) ∨
      key = false ∧ ∃ space, IsSpaces space ∧ text = space ++ 0x7D :: rest := by
  unfold nextKey at read
  split at read
  · cases read
  rename_i b tail token
  obtain ⟨space, spaces, rfl⟩ := exists_token token
  split at read
  · rename_i close
    obtain ⟨rfl, rfl⟩ := Prod.mk.inj (Except.ok.inj read)
    exact .inr ⟨rfl, space, spaces, by rw [close]⟩
  split at read
  · rename_i opening
    split at read
    · rename_i quote
      obtain ⟨rfl, rfl⟩ := Prod.mk.inj (Except.ok.inj read)
      obtain rfl := opening
      exact .inl ⟨rfl, space, spaces, by rw [quote]⟩
    · cases read
  rename_i later
  split at read
  · rename_i comma
    split at read
    · cases read
    rename_i d after token'
    obtain ⟨space', spaces', rfl⟩ := exists_token token'
    split at read
    · rename_i quote
      obtain ⟨rfl, rfl⟩ := Prod.mk.inj (Except.ok.inj read)
      obtain rfl : first = false := by simpa using later
      refine .inl ⟨rfl, space ++ ','.toUInt8 :: space', ⟨space, space', spaces, spaces', rfl⟩, ?_⟩
      simp [comma, quote]
    split at read <;> cases read
  · cases read

private theorem readColon_eq_ok {text rest : Bytes} (read : readColon text = .ok rest) :
    ∃ space, IsSpaces space ∧ text = space ++ ':'.toUInt8 :: rest := by
  unfold readColon at read
  split at read
  · cases read
  rename_i b tail token
  obtain ⟨space, spaces, rfl⟩ := exists_token token
  split at read
  · rename_i colon
    obtain rfl := Except.ok.inj read
    exact ⟨space, spaces, by rw [colon]⟩
  · cases read

theorem Field.name_of_named? {name : String} {field : Field}
    (found : Field.named? name = some field) : field.name = name := by
  have same := List.find?_some found
  simpa using same

theorem faultAfterKey_ne_ok {α : Type} (cause : Cause) (text : Bytes) (value : α) :
    faultAfterKey cause text ≠ .ok value := by
  intro read
  unfold faultAfterKey at read
  split at read
  · cases read
  · split at read <;> cases read

private theorem Member.of_read {first : Bool} {free : List Field} {filled o : Overrides}
    {text rest : Bytes} (read : Json.readMembers first free filled text = .ok (o, rest)) :
    (o = filled ∧ ∃ space, IsSpaces space ∧ text = space ++ 0x7D :: rest) ∨
      ∃ field value lead written after, field ∈ free ∧ Opens first lead ∧
        (∀ p : Overrides, p.get field = value → Member p field written) ∧
        text = lead ++ (written ++ after) ∧
        Json.readMembers false (free.erase field) (filled.set field value) after =
          .ok (o, rest) := by
  rw [Json.readMembers] at read
  obtain ⟨⟨_ | _, behind⟩, next, turn⟩ := exists_of_bind_eq_ok read
  · obtain ⟨rfl, rfl⟩ := Prod.mk.inj (Except.ok.inj turn)
    rcases nextKey_eq_ok next with ⟨wrong, -⟩ | ⟨-, space, spaces, rfl⟩
    · cases wrong
    · exact .inl ⟨rfl, space, spaces, rfl⟩
  rcases nextKey_eq_ok next with ⟨-, lead, opens, rfl⟩ | ⟨wrong, -⟩
  · obtain ⟨⟨key, behindKey⟩, string, named⟩ := exists_of_bind_eq_ok turn
    obtain ⟨-, body, spelt, rfl⟩ := SpellsAll.of_readStringFrom string
    dsimp only at named
    split at named
    · exact (faultAfterKey_ne_ok _ _ _ named).elim
    rename_i field found
    split at named
    · rename_i unnamed
      obtain ⟨behindColon, colon, valued⟩ := exists_of_bind_eq_ok named
      obtain ⟨before, spaces, rfl⟩ := readColon_eq_ok colon
      obtain ⟨⟨value, after⟩, found', onward⟩ := exists_of_bind_eq_ok valued
      obtain ⟨space, written, spaces', writes, rfl⟩ := WritesOption.of_readValue found'
      have quoted : Quotes field.name ('"'.toUInt8 :: body ++ ['"'.toUInt8]) := by
        refine ⟨?_⟩
        rwa [Field.name_of_named? found, String.toList_ofList]
      refine .inr ⟨field, value, lead, '"'.toUInt8 :: body ++ ['"'.toUInt8] ++ before ++
        ':'.toUInt8 :: space ++ written, after, unnamed, opens, ?_, ?_, onward⟩
      · intro p given
        exact .mk quoted spaces spaces' (given ▸ writes)
      · simp
    · exact (faultAfterKey_ne_ok _ _ _ named).elim
  · cases wrong

private theorem Remains.of_readMembers {first : Bool} {free : List Field} (distinct : free.Nodup)
    {filled o : Overrides} {text rest : Bytes}
    (read : Json.readMembers first free filled text = .ok (o, rest)) :
    ∃ fields written, fields.Nodup ∧ fields ⊆ free ∧ o = o.copied filled fields ∧
      Remains (Member o) 0x7D first fields written ∧ text = written ++ rest := by
  -- Every turn takes a setting away from the free ones, so the induction is on their number.
  induction size : free.length generalizing first free filled text with
  | zero =>
    rcases Member.of_read read with ⟨rfl, space, spaces, rfl⟩ | ⟨field, -, -, -, -, unnamed, -⟩
    · exact ⟨[], _, .nil, List.nil_subset _, rfl, .closed spaces, by simp⟩
    · rw [List.eq_nil_of_length_eq_zero size] at unnamed
      cases unnamed
  | succ count ih =>
    rcases Member.of_read read with ⟨rfl, space, spaces, rfl⟩ |
      ⟨field, value, lead, written, after, unnamed, opens, writes, rfl, onward⟩
    · exact ⟨[], _, .nil, List.nil_subset _, rfl, .closed spaces, by simp⟩
    · have shorter : (free.erase field).length = count := by
        rw [List.length_erase_of_mem unnamed, size, Nat.add_sub_cancel]
      obtain ⟨fields, behind, apart, within, same, remains, rfl⟩ :=
        ih (distinct.erase field) onward shorter
      have others : field ∉ fields := fun listed => distinct.not_mem_erase (within listed)
      have given : o.get field = value := by
        rw [same, Overrides.get_copied, if_neg others, Overrides.get_set_self]
      have kept : fields ⊆ free := fun other listed => List.mem_of_mem_erase (within listed)
      rw [← given] at same
      exact ⟨field :: fields, _, List.nodup_cons.mpr ⟨others, apart⟩,
        List.cons_subset.mpr ⟨unnamed, kept⟩, same, remains.cons opens (writes o given), by simp⟩

theorem Object.of_readMembers {o : Overrides} {text rest : Bytes}
    (read : readMembers true Field.all .unset text = .ok (o, rest)) :
    ∃ written, Object o written ∧ 0x7B :: text = written ++ rest := by
  obtain ⟨fields, written, distinct, -, same, remains, rfl⟩ :=
    Remains.of_readMembers (by decide) read
  obtain ⟨body, members, rfl⟩ := remains.whole
  exact ⟨_, ⟨distinct, Overrides.mem_of_eq_copied same, members⟩, by simp⟩

end StreamRelay.Json
