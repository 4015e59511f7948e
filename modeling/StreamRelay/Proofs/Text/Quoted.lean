import Mathlib.Data.List.Forall2
import StreamRelay.Text.Quoted

set_option autoImplicit false
set_option relaxedAutoImplicit false

namespace StreamRelay.Text

/-- How a character may be written between quotes; only beyond ASCII is there a choice. -/
inductive IsWritten : Char → List Char → Prop
  | plain {c : Char} : 0x20 ≤ c.toNat → c ≠ '"' → c ≠ '\\' → IsWritten c [c]
  | quote : IsWritten '"' ['\\', '"']
  | backslash : IsWritten '\\' ['\\', '\\']
  | newline : IsWritten '\n' ['\\', 'n']
  | tab : IsWritten '\t' ['\\', 't']
  | carriageReturn : IsWritten '\r' ['\\', 'r']
  | nul : IsWritten (Char.ofNat 0) ['\\', '0']
  | code {c : Char} : c.toNat < 0x20 ∨ 0x7E < c.toNat → c ∉ ['\n', '\t', '\r', Char.ofNat 0] →
      IsWritten c ('\\' :: 'u' :: '\x7b' :: Nat.toDigits 16 c.toNat ++ ['\x7d'])

def IsQuotation (text quotation : String) : Prop :=
  ∃ parts, List.Forall₂ IsWritten text.toList parts ∧
    quotation.toList = '"' :: parts.flatten ++ ['"']

/-- Ranges that leave printable ASCII out. -/
def SkipAscii (ranges : Ranges) : Prop := ∀ range ∈ ranges, range.2 < 0x20 ∨ 0x7E < range.1

private theorem SkipAscii.beyond {ranges : Ranges} {n : Nat} (skip : SkipAscii ranges)
    (covered : ranges.covers n = true) : n < 0x20 ∨ 0x7E < n := by
  obtain ⟨range, member, within⟩ := List.any_eq_true.mp covered
  simp only [Bool.and_eq_true, decide_eq_true_eq] at within
  have apart := skip range member
  omega

private theorem skipAscii_invisibleRanges : SkipAscii invisibleRanges := by
  unfold SkipAscii
  decide +kernel

private theorem skipAscii_extendingRanges : SkipAscii extendingRanges := by
  unfold SkipAscii
  decide +kernel

private theorem beyond_ascii {c : Char} (invisible : isPrintable c = false) :
    c.toNat < 0x20 ∨ 0x7E < c.toNat := by
  simp only [isPrintable, Bool.and_eq_false_iff, Bool.not_eq_false'] at invisible
  exact invisible.elim skipAscii_invisibleRanges.beyond skipAscii_extendingRanges.beyond

private theorem le_of_isPrintable {c : Char} (visible : isPrintable c = true) :
    0x20 ≤ c.toNat := by
  by_contra control
  have covered : invisibleRanges.covers c.toNat = true := by
    refine List.any_eq_true.mpr ⟨(0x0, 0x1F), .head _, ?_⟩
    simp only [Bool.and_eq_true, decide_eq_true_eq]
    omega
  simp [isPrintable, covered] at visible

private theorem isWritten_quoteChar (c : Char) : IsWritten c (quoteChar c) := by
  by_cases quote : c = '"'
  · exact quote ▸ .quote
  by_cases backslash : c = '\\'
  · exact backslash ▸ .backslash
  by_cases newline : c = '\n'
  · exact newline ▸ .newline
  by_cases tab : c = '\t'
  · exact tab ▸ .tab
  by_cases home : c = '\r'
  · exact home ▸ .carriageReturn
  by_cases nul : c.toNat = 0
  · obtain rfl : c = Char.ofNat 0 := by rw [← nul, Char.ofNat_toNat]
    exact .nul
  cases visible : isPrintable c with
  | true =>
    have written : quoteChar c = [c] := by
      simp [quoteChar, quote, backslash, newline, tab, home, nul, visible]
    exact written ▸ .plain (le_of_isPrintable visible) quote backslash
  | false =>
    have written :
        quoteChar c = '\\' :: 'u' :: '\x7b' :: Nat.toDigits 16 c.toNat ++ ['\x7d'] := by
      simp [quoteChar, quote, backslash, newline, tab, home, nul, visible, hexDigits]
    have unlettered : c ∉ ['\n', '\t', '\r', Char.ofNat 0] := by
      have nonzero : c ≠ Char.ofNat 0 := by
        rintro rfl
        exact nul rfl
      simp [newline, tab, home, nonzero]
    exact written ▸ .code (beyond_ascii visible) unlettered

theorem isQuotation_quoted (text : String) : IsQuotation text (quoted text) := by
  refine ⟨text.toList.map quoteChar, ?_, by simp [quoted, List.flatMap_def]⟩
  induction text.toList with
  | nil => exact .nil
  | cons c cs ih => exact .cons (isWritten_quoteChar c) ih

end StreamRelay.Text
