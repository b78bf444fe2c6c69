import Scratchpad.Text.Lines

/-!
# Order of texts

Texts are ordered by their first different character, characters by their code points,
and a text stands before its extensions. The order is total, so sorting by it decides
everything but the places of equal texts.
-/

namespace Scratchpad

/-- Whether a text stands before another one or is the same. -/
def textLe : Text → Text → Bool
  | [], _ => true
  | _ :: _, [] => false
  | a :: s, b :: t => Nat.blt a.toNat b.toNat || (a == b && textLe s t)

/-- Characters of which neither stands before the other are the same. -/
theorem char_eq_of_not_lt {a b : Char} (h : ¬a.toNat < b.toNat) (h' : ¬b.toNat < a.toNat) :
    a = b :=
  Char.toNat_inj.mp (by omega)

/-- Of two texts one stands before the other. -/
theorem textLe_total (s t : Text) : (textLe s t || textLe t s) = true := by
  induction s generalizing t with
  | nil => simp [textLe]
  | cons a s ih =>
    cases t with
    | nil => simp [textLe]
    | cons b t =>
      by_cases h : a.toNat < b.toNat
      · simp [textLe, h]
      · by_cases h' : b.toNat < a.toNat
        · simp [textLe, h']
        · obtain rfl := char_eq_of_not_lt h h'
          simpa [textLe] using ih t

/-- Two texts that stand before each other are the same. -/
theorem textLe_antisymm {s t : Text} (h : textLe s t = true) (h' : textLe t s = true) :
    s = t := by
  induction s generalizing t with
  | nil => cases t <;> simp_all [textLe]
  | cons a s ih =>
    cases t with
    | nil => simp [textLe] at h
    | cons b t =>
      simp only [textLe, Bool.or_eq_true, Bool.and_eq_true, beq_iff_eq, Nat.blt_eq] at h h'
      -- the first characters cannot stand before each other both ways
      have hab : a = b := by
        rcases h with h | h
        · rcases h' with h' | h'
          · omega
          · exact h'.1.symm
        · exact h.1
      subst hab
      simp only [Nat.lt_irrefl, true_and, false_or] at h h'
      rw [ih h h']

/-- What stands before a text stands before all texts behind that one. -/
theorem textLe_trans {s t u : Text} (h : textLe s t = true) (h' : textLe t u = true) :
    textLe s u = true := by
  induction s generalizing t u with
  | nil => rfl
  | cons a s ih =>
    cases t with
    | nil => simp [textLe] at h
    | cons b t =>
      cases u with
      | nil => simp [textLe] at h'
      | cons c u =>
        simp only [textLe, Bool.or_eq_true, Bool.and_eq_true, beq_iff_eq, Nat.blt_eq] at h h' ⊢
        rcases h with h | ⟨rfl, h⟩
        · rcases h' with h' | ⟨rfl, h'⟩
          -- the first character that differs in either pair decides
          · exact .inl (by omega)
          · exact .inl h
        · rcases h' with h' | ⟨rfl, h'⟩
          · exact .inl h'
          · exact .inr ⟨rfl, ih h h'⟩

end Scratchpad
