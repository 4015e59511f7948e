import Mathlib.Data.List.TakeWhile
import StreamRelay.Text.Blank

set_option autoImplicit false
set_option relaxedAutoImplicit false

namespace StreamRelay.Text

def IsTight (cs : List Char) : Prop :=
  (∀ c, cs.head? = some c → isBlank c = false) ∧ ∀ c, cs.getLast? = some c → isBlank c = false

/-- A text, and what of it stands between the blanks at its ends. -/
def IsTrimmed (cs core : List Char) : Prop :=
  IsTight core ∧ ∃ front back, cs = front ++ core ++ back ∧
    (∀ c ∈ front, isBlank c = true) ∧ ∀ c ∈ back, isBlank c = true

private theorem isTight_of_forall {cs : List Char} (filled : ∀ c ∈ cs, isBlank c = false) :
    IsTight cs :=
  ⟨fun c first => filled c (List.mem_of_head? first),
    fun c last => filled c (List.mem_of_getLast? last)⟩

private theorem dropWhile_isBlank_append {front rest : List Char}
    (blank : ∀ c ∈ front, isBlank c = true)
    (filled : ∀ c, rest.head? = some c → isBlank c = false) :
    (front ++ rest).dropWhile isBlank = rest := by
  rw [List.dropWhile_append_of_pos blank]
  cases rest with
  | nil => rfl
  | cons c rest => exact List.dropWhile_cons_of_neg (by simp [filled c rfl])

private theorem head?_dropWhile_isBlank {cs : List Char} {c : Char}
    (first : (cs.dropWhile isBlank).head? = some c) : isBlank c = false := by
  have stops := List.head?_dropWhile_not isBlank cs
  rwa [first] at stops

private theorem trimChars_eq_of_isTrimmed {cs core : List Char} (trimmed : IsTrimmed cs core) :
    trimChars cs = core := by
  obtain ⟨⟨first, last⟩, front, back, rfl, before, behind⟩ := trimmed
  by_cases empty : core = []
  · subst empty
    have blank : ∀ c ∈ front ++ back, isBlank c = true := fun c member =>
      (List.mem_append.mp member).elim (before c) (behind c)
    have dropped : (front ++ back).dropWhile isBlank = [] :=
      List.dropWhile_eq_nil_iff.mpr blank
    simp [trimChars, dropped]
  · have front_dropped : (front ++ core ++ back).dropWhile isBlank = core ++ back := by
      obtain ⟨d, rest, rfl⟩ := List.exists_cons_of_ne_nil empty
      rw [List.append_assoc]
      exact dropWhile_isBlank_append before first
    have back_dropped : (back.reverse ++ core.reverse).dropWhile isBlank = core.reverse := by
      refine dropWhile_isBlank_append (fun c member => behind c (List.mem_reverse.mp member)) ?_
      simpa using last
    rw [trimChars, front_dropped, List.reverse_append, back_dropped, List.reverse_reverse]

theorem isTrimmed_trimChars (cs : List Char) : IsTrimmed cs (trimChars cs) := by
  have whole := List.takeWhile_append_dropWhile (p := isBlank) (l := cs)
  have middle := List.takeWhile_append_dropWhile (p := isBlank)
    (l := (cs.dropWhile isBlank).reverse)
  have parts : cs.dropWhile isBlank =
      trimChars cs ++ ((cs.dropWhile isBlank).reverse.takeWhile isBlank).reverse := by
    rw [trimChars, ← List.reverse_append, middle, List.reverse_reverse]
  refine ⟨⟨fun c first => ?_, fun c last => ?_⟩, cs.takeWhile isBlank,
    ((cs.dropWhile isBlank).reverse.takeWhile isBlank).reverse, ?_, ?_, ?_⟩
  · have front : (cs.dropWhile isBlank).head? = some c := by
      rw [parts, List.head?_append, first, Option.some_or]
    exact head?_dropWhile_isBlank front
  · rw [trimChars, List.getLast?_reverse] at last
    exact head?_dropWhile_isBlank last
  · rw [List.append_assoc, ← parts, whole]
  · exact fun c member => List.mem_takeWhile_imp member
  · exact fun c member => List.mem_takeWhile_imp (List.mem_reverse.mp member)

/-- What trimming leaves is the one part with blanks around it and none at its own ends. -/
theorem trimChars_eq_iff {cs core : List Char} : trimChars cs = core ↔ IsTrimmed cs core :=
  ⟨fun same => same ▸ isTrimmed_trimChars cs, trimChars_eq_of_isTrimmed⟩

theorem trimChars_eq_self {cs : List Char} (filled : ∀ c ∈ cs, isBlank c = false) :
    trimChars cs = cs :=
  trimChars_eq_of_isTrimmed ⟨isTight_of_forall filled, [], [], by simp, by simp, by simp⟩

end StreamRelay.Text
