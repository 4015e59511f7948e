import StreamRelay.Bytes

set_option autoImplicit false
set_option relaxedAutoImplicit false

namespace StreamRelay.Text.Utf8

def continuation? (b : UInt8) : Option Nat :=
  if 0x80 ≤ b && b < 0xC0 then some (b.toNat - 0x80) else none

/-- The character with code point `n`, when `n` is a scalar value not below `least`. -/
def scalar? (least n : Nat) : Option Char :=
  if least ≤ n && n.isValidChar then some (Char.ofNat n) else none

/-- The character that `lead` begins, with the bytes after it. -/
def charAt? (lead : UInt8) (rest : Bytes) : Option (Char × Bytes) :=
  if lead < 0x80 then some (Char.ofNat lead.toNat, rest)
  else if 0xC0 ≤ lead && lead < 0xE0 then
    match rest with
    | b :: rest => do
      let b ← continuation? b
      let c ← scalar? 0x80 ((lead.toNat - 0xC0) * 0x40 + b)
      return (c, rest)
    | [] => none
  else if 0xE0 ≤ lead && lead < 0xF0 then
    match rest with
    | a :: b :: rest => do
      let a ← continuation? a
      let b ← continuation? b
      let c ← scalar? 0x800 ((lead.toNat - 0xE0) * 0x1000 + a * 0x40 + b)
      return (c, rest)
    | _ => none
  else if 0xF0 ≤ lead && lead < 0xF8 then
    match rest with
    | a :: b :: d :: rest => do
      let a ← continuation? a
      let b ← continuation? b
      let d ← continuation? d
      let c ← scalar? 0x10000 ((lead.toNat - 0xF0) * 0x40000 + a * 0x1000 + b * 0x40 + d)
      return (c, rest)
    | _ => none
  else none

theorem length_le_of_charAt? {lead : UInt8} {rest after : Bytes} {c : Char}
    (h : charAt? lead rest = some (c, after)) : after.length ≤ rest.length := by
  unfold charAt? at h
  split at h
  · obtain ⟨-, rfl⟩ := Prod.mk.inj (Option.some.inj h)
    exact Nat.le_refl _
  · split at h
    · cases rest with
      | nil => simp at h
      | cons b rest =>
        simp only [Option.pure_def, Option.bind_eq_bind, Option.bind_eq_some_iff] at h
        obtain ⟨_, _, _, _, h⟩ := h
        obtain ⟨-, rfl⟩ := Prod.mk.inj (Option.some.inj h)
        simp
    · split at h
      · split at h
        · simp only [Option.pure_def, Option.bind_eq_bind, Option.bind_eq_some_iff] at h
          obtain ⟨_, _, _, _, _, _, h⟩ := h
          obtain ⟨-, rfl⟩ := Prod.mk.inj (Option.some.inj h)
          simp only [List.length_cons]
          omega
        · simp at h
      · split at h
        · split at h
          · simp only [Option.pure_def, Option.bind_eq_bind, Option.bind_eq_some_iff] at h
            obtain ⟨_, _, _, _, _, _, _, _, h⟩ := h
            obtain ⟨-, rfl⟩ := Prod.mk.inj (Option.some.inj h)
            simp only [List.length_cons]
            omega
          · simp at h
        · simp at h

def decode? : Bytes → Option (List Char)
  | [] => some []
  | lead :: rest =>
    match _h : charAt? lead rest with
    | none => none
    | some (c, after) => (decode? after).map (c :: ·)
termination_by bytes => bytes.length
decreasing_by
  have := length_le_of_charAt? _h
  simp only [List.length_cons]
  omega

def text? (bytes : Bytes) : Option String := (decode? bytes).map String.ofList

end StreamRelay.Text.Utf8
