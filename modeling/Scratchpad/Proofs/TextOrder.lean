import Mathlib.Data.Char
import Mathlib.Data.List.Lex
import Scratchpad.Text.Order

/-!
# The order of texts is lexicographic

The order by which entries and candidates are sorted is the one that lists of characters
have anyway, so that what is known of linear orders holds of it.
-/

namespace Scratchpad

/-- The order of texts is that of lists of characters. -/
theorem textLe_iff {s t : Text} : textLe s t = true ↔ s ≤ t := by
  rw [← not_lt]
  induction s generalizing t with
  | nil => simp [textLe]
  | cons a s ih =>
    cases t with
    | nil => simp [textLe]
    | cons b t =>
      have hlt : a.toNat < b.toNat ↔ a < b := Iff.rfl
      simp only [textLe, Bool.or_eq_true, Bool.and_eq_true, beq_iff_eq, Nat.blt_eq, hlt, ih,
        List.cons_lt_cons_iff]
      rcases lt_trichotomy a b with h | rfl | h
      · simp [h, h.not_gt, h.ne']
      · simp
      · simp [h, h.not_gt, h.ne']

/-- Texts in order that are not the same are strictly in order. -/
theorem lt_of_textLe {s t : Text} (h : textLe s t = true) (hne : s ≠ t) : s < t :=
  lt_of_le_of_ne (textLe_iff.mp h) hne

end Scratchpad
