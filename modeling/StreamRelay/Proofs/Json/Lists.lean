import StreamRelay.Proofs.Json.Items

set_option autoImplicit false
set_option relaxedAutoImplicit false

namespace StreamRelay.Json

open Settings (Field Overrides)

private theorem readListEnd_append (o : Overrides) {space : Bytes} (spaces : IsSpaces space)
    (rest : Bytes) : readListEnd o (space ++ ']'.toUInt8 :: rest) = .ok (o, rest) := by
  rw [readListEnd, spaces.skipSpace, skipSpace_cons (by decide)]
  rfl

private theorem readElements_end (first : Bool) (o : Overrides) (fields : List Field)
    {space : Bytes} (spaces : IsSpaces space) (rest : Bytes) :
    readElements first o fields (space ++ ']'.toUInt8 :: rest) = .ok (o, rest) := by
  cases fields with
  | nil => exact readListEnd_append o spaces rest
  | cons field fields =>
    rw [readElements, spaces.skipSpace, skipSpace_cons (by decide)]
    rfl

private theorem Element.read {o : Overrides} {field : Field} {text : Bytes}
    (written : Element o field text)
    {first : Bool} {lead : Bytes} (opens : Opens first lead) (filled : Overrides)
    (fields : List Field) {rest : Bytes} (after : IsAfterValue rest) :
    readElements first filled (field :: fields) (lead ++ text ++ rest) =
      readElements false (filled.set field (o.get field)) fields rest := by
  have read := WritesOption.read written isSpaces_nil after
  obtain ⟨b, tail, rfl, token, other⟩ := WritesOption.head written
  rw [List.nil_append] at read
  rw [List.append_assoc]
  cases first with
  | true =>
    rw [readElements, IsSpaces.skipSpace opens, List.cons_append, skipSpace_cons token]
    rw [List.cons_append] at read
    simp only [if_neg other, if_true, read]
    rfl
  | false =>
    obtain ⟨before, behind, left, right, rfl⟩ := opens
    rw [List.append_assoc, List.cons_append, readElements, left.skipSpace,
      skipSpace_cons (by decide)]
    rw [List.cons_append] at read ⊢
    have comma : ','.toUInt8 ≠ ']'.toUInt8 := by decide
    simp only [if_neg comma, Bool.false_eq_true, if_false, if_true, right.skipSpace,
      skipSpace_cons token, if_neg other, read]
    rfl

private theorem Remains.readElements {o : Overrides} {first : Bool} {fields : List Field}
    {text : Bytes}
    (remains : Remains (Element o) ']'.toUInt8 first fields text) (later : List Field)
    (filled : Overrides) (rest : Bytes) :
    Json.readElements first filled (fields ++ later) (text ++ rest) =
      .ok (o.copied filled fields, rest) := by
  induction remains generalizing filled with
  | closed spaces =>
    rw [List.append_assoc]
    exact readElements_end _ _ _ spaces rest
  | cons opens element remains ih =>
    rw [List.append_assoc, List.cons_append, element.read opens filled _
      (remains.isAfterValue (by decide) rest), ih]
    rfl

theorem Listing.read {o : Overrides} {text : Bytes} (written : Listing o text) {space : Bytes}
    (spaces : IsSpaces space) (rest : Bytes) :
    readRecord (space ++ text ++ rest) = .ok (o, rest) := by
  obtain ⟨⟨later, whole⟩, covered, elements⟩ := written
  have read := elements.remains.readElements later .unset rest
  rw [Overrides.copied_unset covered, whole] at read
  rw [List.append_assoc, List.cons_append, List.cons_append, readRecord, spaces.skipSpace,
    skipSpace_cons (by decide)]
  exact read

private theorem readListEnd_eq_ok {filled o : Overrides} {text rest : Bytes}
    (read : readListEnd filled text = .ok (o, rest)) :
    o = filled ∧ ∃ space, IsSpaces space ∧ text = space ++ ']'.toUInt8 :: rest := by
  unfold readListEnd at read
  split at read
  · cases read
  rename_i b tail token
  obtain ⟨space, spaces, rfl⟩ := exists_token token
  split at read
  · rename_i close
    obtain ⟨rfl, rfl⟩ := Prod.mk.inj (Except.ok.inj read)
    exact ⟨rfl, space, spaces, by rw [close]⟩
  split at read
  · split at read
    · cases read
    · split at read <;> cases read
  · cases read

private theorem Element.of_read {first : Bool} {field : Field} {fields : List Field}
    {filled o : Overrides} {text rest : Bytes}
    (read : readElements first filled (field :: fields) text = .ok (o, rest)) :
    (o = filled ∧ ∃ space, IsSpaces space ∧ text = space ++ ']'.toUInt8 :: rest) ∨
      ∃ value lead written after, Opens first lead ∧
        (∀ p : Overrides, p.get field = value → Element p field written) ∧
        text = lead ++ (written ++ after) ∧
        readElements false (filled.set field value) fields after = .ok (o, rest) := by
  -- What the list comes to is known at its end only, so the element is one of all that give this.
  have element {value : Option field.shape.Value} {front lead after : Bytes}
      (valued : readValue field.shape front = .ok (value, after)) (opens : Opens first lead) :
      ∃ lead' written, Opens first lead' ∧
        (∀ p : Overrides, p.get field = value → Element p field written) ∧
        lead ++ front = lead' ++ (written ++ after) := by
    obtain ⟨space, written, spaces, writes, rfl⟩ := WritesOption.of_readValue valued
    refine ⟨lead ++ space, written, opens.append spaces, ?_, by simp⟩
    intro p given
    rwa [Element, given]
  rw [readElements] at read
  split at read
  · cases read
  rename_i b tail token
  obtain ⟨space, spaces, rfl⟩ := exists_token token
  split at read
  · rename_i close
    obtain ⟨rfl, rfl⟩ := Prod.mk.inj (Except.ok.inj read)
    exact .inl ⟨rfl, space, spaces, by rw [close]⟩
  split at read
  · rename_i opening
    obtain rfl := opening
    obtain ⟨⟨value, after⟩, valued, onward⟩ := exists_of_bind_eq_ok read
    have opens : Opens true space := spaces
    obtain ⟨lead, written, opens, writes, same⟩ := element valued opens
    exact .inr ⟨value, lead, written, after, opens, writes, same, onward⟩
  rename_i later
  obtain rfl : first = false := by simpa using later
  split at read
  · rename_i comma
    obtain rfl := comma
    split at read
    · cases read
    rename_i d behind token'
    obtain ⟨space', spaces', rfl⟩ := exists_token token'
    split at read
    · cases read
    obtain ⟨⟨value, after⟩, valued, onward⟩ := exists_of_bind_eq_ok read
    have opens : Opens false (space ++ ','.toUInt8 :: space') :=
      ⟨space, space', spaces, spaces', rfl⟩
    obtain ⟨lead, written, opens, writes, same⟩ := element valued opens
    exact .inr ⟨value, lead, written, after, opens, writes, by simpa using same, onward⟩
  · cases read

private theorem Remains.of_readElements {first : Bool} {fields : List Field}
    (distinct : fields.Nodup) {filled o : Overrides} {text rest : Bytes}
    (read : Json.readElements first filled fields text = .ok (o, rest)) :
    ∃ front written, front <+: fields ∧ o = o.copied filled front ∧
      Remains (Element o) ']'.toUInt8 first front written ∧ text = written ++ rest := by
  induction fields generalizing first filled text with
  | nil =>
    obtain ⟨rfl, space, spaces, rfl⟩ := readListEnd_eq_ok read
    exact ⟨[], _, List.nil_prefix, rfl, .closed spaces, by simp⟩
  | cons field fields ih =>
    obtain ⟨others, apart⟩ := List.nodup_cons.mp distinct
    rcases Element.of_read read with ⟨rfl, space, spaces, rfl⟩ |
      ⟨value, lead, written, after, opens, writes, rfl, onward⟩
    · exact ⟨[], _, List.nil_prefix, rfl, .closed spaces, by simp⟩
    · obtain ⟨front, behind, within, same, remains, rfl⟩ := ih apart onward
      have other : field ∉ front := fun listed => others (within.subset listed)
      have given : o.get field = value := by
        rw [same, Overrides.get_copied, if_neg other, Overrides.get_set_self]
      rw [← given] at same
      exact ⟨field :: front, _, List.prefix_cons_inj field |>.mpr within, same,
        remains.cons opens (writes o given), by simp⟩

theorem Listing.of_readElements {o : Overrides} {text rest : Bytes}
    (read : Json.readElements true .unset Field.all text = .ok (o, rest)) :
    ∃ written, Listing o written ∧ '['.toUInt8 :: text = written ++ rest := by
  obtain ⟨fields, written, front, same, remains, rfl⟩ :=
    Remains.of_readElements (by decide) read
  obtain ⟨body, elements, rfl⟩ := remains.whole
  exact ⟨_, ⟨front, Overrides.mem_of_eq_copied same, elements⟩, by simp⟩

end StreamRelay.Json
