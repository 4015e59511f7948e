import StreamRelay.Proofs.Json.Values

set_option autoImplicit false
set_option relaxedAutoImplicit false

namespace StreamRelay.Json

/-- White space behind an opening byte, and a comma among white space behind an item. -/
def Opens : Bool → Bytes → Prop
  | true, lead => IsSpaces lead
  | false, lead => ∃ before after, IsSpaces before ∧ IsSpaces after ∧
      lead = before ++ ','.toUInt8 :: after

private theorem IsSpaces.append {before after : Bytes} (first : IsSpaces before)
    (second : IsSpaces after) : IsSpaces (before ++ after) := by
  intro b member
  rcases List.mem_append.mp member with member | member
  · exact first b member
  · exact second b member

theorem Opens.append {first : Bool} {lead space : Bytes} (opens : Opens first lead)
    (spaces : IsSpaces space) : Opens first (lead ++ space) := by
  cases first with
  | true => exact IsSpaces.append opens spaces
  | false =>
    obtain ⟨before, after, left, right, rfl⟩ := opens
    exact ⟨before, after ++ space, left, right.append spaces, by simp⟩

private theorem IsSpaces.isAfterValue {space : Bytes} (spaces : IsSpaces space) {b : UInt8}
    (close : b ∈ ([','.toUInt8, ']'.toUInt8, 0x7D] : Bytes)) (rest : Bytes) :
    IsAfterValue (space ++ b :: rest) := by
  cases space with
  | nil => exact ⟨b, List.mem_append_right [0x20, 0x09, 0x0A, 0x0D] close, rest, rfl⟩
  | cons d space =>
    exact ⟨d, List.mem_append_left _ (spaces d (List.mem_cons_self ..)), space ++ b :: rest, rfl⟩

theorem exists_token {text rest : Bytes} {b : UInt8} (token : skipSpace text = b :: rest) :
    ∃ space, IsSpaces space ∧ text = space ++ b :: rest := by
  obtain ⟨space, spaces, split⟩ := exists_space text
  exact ⟨space, spaces, token ▸ split⟩

/-- The items to come, with what stands before each of them, and the closing byte. -/
inductive Remains {α : Type} (item : α → Bytes → Prop) (close : UInt8) :
    Bool → List α → Bytes → Prop
  | closed {first : Bool} {space : Bytes} : IsSpaces space →
      Remains item close first [] (space ++ [close])
  | cons {first : Bool} {a : α} {items : List α} {lead text behind : Bytes} : Opens first lead →
      item a text → Remains item close false items behind →
      Remains item close first (a :: items) (lead ++ text ++ behind)

section

variable {α : Type} {item : α → Bytes → Prop} {close : UInt8} {items : List α}

theorem Remains.isAfterValue {text : Bytes} (remains : Remains item close false items text)
    (closes : close ∈ ([']'.toUInt8, 0x7D] : Bytes)) (rest : Bytes) :
    IsAfterValue (text ++ rest) := by
  cases remains with
  | closed spaces =>
    have after := spaces.isAfterValue (List.mem_cons_of_mem _ closes) rest
    simpa using after
  | cons opens this behind =>
    obtain ⟨before, space, left, -, rfl⟩ := opens
    have after := left.isAfterValue (b := ','.toUInt8) (by decide)
    simpa using after _

private theorem Separated.remains_of_opens {body : Bytes} (written : Separated item items body)
    (some : items ≠ []) {first : Bool} {lead : Bytes} (opens : Opens first lead) :
    Remains item close first items (lead ++ body ++ [close]) := by
  induction written generalizing first lead with
  | none => contradiction
  | one padded =>
    obtain ⟨before, this, after⟩ := padded
    have remains : Remains item close first [_] _ :=
      .cons (opens.append before) this (.closed after)
    simpa using remains
  | more padded others ih =>
    obtain ⟨before, this, after⟩ := padded
    have comma : Opens false (_ ++ [','.toUInt8]) := ⟨_, [], after, isSpaces_nil, rfl⟩
    have remains := Remains.cons (opens.append before) this (ih (List.cons_ne_nil _ _) comma)
    simpa using remains

theorem Separated.remains {body : Bytes} (written : Separated item items body) :
    Remains item close true items (body ++ [close]) := by
  cases items with
  | nil =>
    obtain ⟨spaces⟩ := written
    exact .closed spaces
  | cons a items =>
    have opens : Opens true [] := isSpaces_nil
    exact written.remains_of_opens (List.cons_ne_nil a items) opens

private theorem Separated.behind {body : Bytes} (written : Separated item items body)
    {space : Bytes} (spaces : IsSpaces space) : Separated item items (space ++ body) := by
  have padded {a : α} {text : Bytes} (padded : Padded (item a) text) :
      Padded (item a) (space ++ text) := by
    obtain ⟨before, inner, after⟩ := padded
    have wider := Padded.mk (spaces.append before) inner after
    simpa using wider
  cases written with
  | none before => exact .none (spaces.append before)
  | one first => exact .one (padded first)
  | more first others =>
    have wider := Separated.more (padded first) others
    simpa using wider

private theorem Remains.separated {first : Bool} {text : Bytes}
    (remains : Remains item close first items text) :
    (items = [] ∧ ∃ space, IsSpaces space ∧ text = space ++ [close]) ∨
      items ≠ [] ∧ ∃ lead body, Opens first lead ∧ Separated item items body ∧
        text = lead ++ body ++ [close] := by
  induction remains with
  | closed spaces => exact .inl ⟨rfl, _, spaces, rfl⟩
  | @cons first a items lead text behind opens this _ ih =>
    refine .inr ⟨List.cons_ne_nil a items, ?_⟩
    rcases ih with ⟨rfl, space, spaces, rfl⟩ | ⟨some, comma, body, between, others, rfl⟩
    · have padded := Padded.mk isSpaces_nil this spaces
      exact ⟨lead, _, opens, .one padded, by simp⟩
    · obtain ⟨before, after, left, right, rfl⟩ := between
      have padded := Padded.mk isSpaces_nil this left
      cases items with
      | nil => contradiction
      | cons next items =>
        exact ⟨lead, _, opens, .more padded (others.behind right), by simp⟩

theorem Remains.whole {text : Bytes} (remains : Remains item close true items text) :
    ∃ body, Separated item items body ∧ text = body ++ [close] := by
  rcases remains.separated with ⟨rfl, space, spaces, rfl⟩ | ⟨-, lead, body, opens, written, rfl⟩
  · exact ⟨space, .none spaces, rfl⟩
  · exact ⟨lead ++ body, written.behind opens, rfl⟩

end

theorem readOverrides_of_readRecord {o : Settings.Overrides} {text rest : Bytes}
    (read : readRecord text = .ok (o, rest)) (spaces : IsSpaces rest) {b : UInt8}
    (token : b ∈ text) (other : isAsciiSpace b = false) : readOverrides text = .ok o := by
  have some : text.all isAsciiSpace = false :=
    List.all_eq_false.mpr ⟨b, token, Bool.not_eq_true _ |>.mpr other⟩
  have behind := spaces.skipSpace []
  rw [List.append_nil] at behind
  rw [readOverrides, some, read]
  simp only [Bool.false_eq_true, if_false, bind, Except.bind, behind]
  rfl

end StreamRelay.Json
