import Mathlib.Data.Set.Function
import Scratchpad.Proofs.Edit

/-!
# Lines and columns

A position in a text is told by its line and its column there, and the two tell the position.
Lines and positions may come from a caller that counts some of them from the end, so the
readings are those that take any integer (`lineAt`, `columnAt`, `startOfLine`); from zero on
they are the ones that count line feeds.

* `lineAt_natCast`, `columnAt_natCast`, `startOfLine_natCast`, `sliceAt_natCast` — from zero on;
* `columnOf_le_length`, `not_mem_slice_lineStart` — a position does not leave its line;
* `bijOn_lineAt_columnAt` — positions in the text against places in its lines;
* `Buffer.toLineEnd_cursor`, `Buffer.toLineEnd_place` — where the end of a line is looked for;
* `Buffer.lines_and_columns_bijective` — all of this for the text of a buffer.
-/

namespace Scratchpad

variable {t : Text} {pos l k : Nat}

/-! ## Counted from zero -/

@[simp] theorem lineAt_natCast (t : Text) (pos : Nat) : lineAt t pos = lineOf t pos := by
  have hpos : ¬ (pos : Int) < 0 := by omega
  rw [lineAt, if_neg hpos, Int.toNat_natCast]

@[simp] theorem columnAt_natCast (t : Text) (pos : Nat) : columnAt t pos = columnOf t pos := by
  have hpos : ¬ (pos : Int) < 0 := by omega
  rw [columnAt, if_neg hpos, Int.toNat_natCast]

@[simp] theorem startOfLine_natCast (t : Text) (l : Nat) : startOfLine t l = lineStart t l := by
  have hl : ¬ (l : Int) < 0 := by omega
  rw [startOfLine, if_neg hl, Int.toNat_natCast]

theorem sliceAt_natCast {start stop : Nat} (hstart : start ≤ t.length) (hstop : stop ≤ t.length) :
    sliceAt t start stop = slice t start stop := by
  have hclamp : ∀ n : Nat, n ≤ t.length → clampIndex t.length n = n := by
    intro n hn
    have hnot : ¬ (n : Int) < 0 := by omega
    rw [clampIndex, if_neg hnot, Int.toNat_natCast, Nat.min_eq_left hn]
  rw [sliceAt, hclamp start hstart, hclamp stop hstop]

/-- A negative line counts from the last one, and stops at the first. -/
theorem startOfLine_of_neg {l : Int} (hl : l < 0) :
    startOfLine t l = startOfLine t (max 0 (lineCount t + l)) := by
  have hmax : ¬ max 0 (lineCount t + l) < 0 := by omega
  have htoNat : (max 0 (lineCount t + l)).toNat = (lineCount t + l).toNat := by omega
  rw [startOfLine, if_pos hl, startOfLine, if_neg hmax, htoNat]

/-- A negative position is on no line, which counts as being before the first. -/
theorem lineAt_mono (t : Text) {p q : Int} (hpq : p ≤ q) : lineAt t p ≤ lineAt t q := by
  rcases lt_or_ge q 0 with hq | hq
  · have hp : p < 0 := by omega
    rw [lineAt, if_pos hp, lineAt, if_pos hq]
  · lift q to Nat using hq
    rw [lineAt_natCast]
    rcases lt_or_ge p 0 with hp | hp
    · rw [lineAt, if_pos hp]
      omega
    · lift p to Nat using hp
      rw [lineAt_natCast]
      have hle : lineOf t p ≤ lineOf t q := lineOf_mono t (by omega)
      omega

/-! ## Within the line -/

theorem columnOf_le_length (hpos : pos ≤ t.length) :
    columnOf t pos ≤ (lineText t (lineOf t pos)).length := by
  have hend := le_lineEnd_lineOf hpos
  have hcolumn := lineStart_add_columnOf hpos
  rw [lineEnd] at hend
  omega

/-- Between the start of its line and a position the line does not end. -/
theorem not_mem_slice_lineStart (hpos : pos ≤ t.length) :
    '\n' ∉ slice t (lineStart t (lineOf t pos)) pos := by
  obtain ⟨before, line, after, k, rfl, hcut, hk, rfl⟩ := exists_lineCut_at hpos
  have hslice : slice (before ++ line ++ after) before.length (before.length + k) =
      line.take k := by
    rw [slice, List.append_assoc, List.take_length_add_append, List.drop_left,
      List.take_append_of_le_length hk]
  rw [hcut.lineOf hk, hcut.lineStart, hslice]
  exact fun hmem => hcut.single (List.mem_of_mem_take hmem)

/-- A position in the text is a place in one of its lines, and each of these is one
position. -/
theorem bijOn_lineAt_columnAt (t : Text) :
    Set.BijOn (fun pos : Nat => (lineAt t pos, columnAt t pos)) {pos | pos ≤ t.length}
      {place | ∃ l k : Nat, place = (↑l, ↑k) ∧ l < lineCount t ∧
        k ≤ (lineText t l).length} := by
  refine ⟨?_, ?_, ?_⟩
  · intro pos hpos
    exact ⟨lineOf t pos, columnOf t pos, by simp, lineOf_lt_lineCount t pos,
      columnOf_le_length hpos⟩
  -- a place has one position: the start of its line and the column added up
  · intro p hp q hq hplace
    simp only [lineAt_natCast, columnAt_natCast, Prod.mk.injEq, Int.natCast_inj] at hplace
    obtain ⟨hline, hcolumn⟩ := hplace
    calc p = lineStart t (lineOf t p) + columnOf t p := (lineStart_add_columnOf hp).symm
      _ = lineStart t (lineOf t q) + columnOf t q := by rw [hline, hcolumn]
      _ = q := lineStart_add_columnOf hq
  · rintro _ ⟨l, k, rfl, hl, hk⟩
    -- every place in a line is reached
    have hle : lineStart t l + k ≤ t.length := by
      have hend := lineEnd_le_length hl
      rw [lineEnd] at hend
      omega
    refine ⟨lineStart t l + k, hle, ?_⟩
    simp only [lineAt_natCast, columnAt_natCast, lineOf_lineStart_add hl hk,
      columnOf_lineStart_add hl hk]

/-! ## Ends of lines -/

namespace Buffer

/-- Of a line that there is not, the nearest one is taken. -/
theorem toLineEnd_cursor (b : Buffer) (l : Int) :
    (b.toLineEnd l).cursor = lineEnd b.text (min l.toNat (lineCount b.text - 1)) := by
  have hpos : 0 < lineCount b.text := Nat.succ_pos _
  have hlt : min l.toNat (lineCount b.text - 1) < lineCount b.text := by omega
  have hnearest : b.toLineEnd l = b.toLineEnd (min l.toNat (lineCount b.text - 1) : Nat) := by
    simp only [toLineEnd, deselect, Int.toNat_natCast, Nat.min_assoc, Nat.min_self]
  rw [hnearest, toLineEnd_eq b hlt, put_cursor]

/-- The end of the nearest line is the place behind all of its characters. -/
theorem toLineEnd_place (b : Buffer) (l : Int) :
    lineAt b.text (b.toLineEnd l).cursor = max 0 (min l (lineCount b.text - 1)) ∧
      columnAt b.text (b.toLineEnd l).cursor =
        (lineText b.text (lineAt b.text (b.toLineEnd l).cursor).toNat).length := by
  have hcount : 0 < lineCount b.text := Nat.succ_pos _
  have hlt : min l.toNat (lineCount b.text - 1) < lineCount b.text := by omega
  -- a line before the first counts as the first, one behind the last as the last
  have hline : lineOf b.text (b.toLineEnd l).cursor = min l.toNat (lineCount b.text - 1) := by
    rw [toLineEnd_cursor]
    exact lineOf_lineStart_add hlt (Nat.le_refl _)
  have hcolumn : columnOf b.text (b.toLineEnd l).cursor =
      (lineText b.text (lineOf b.text (b.toLineEnd l).cursor)).length := by
    rw [hline, toLineEnd_cursor]
    exact columnOf_lineStart_add hlt (Nat.le_refl _)
  rw [lineAt_natCast, columnAt_natCast, Int.toNat_natCast, hcolumn]
  refine ⟨?_, rfl⟩
  omega

/-- Positions in the text of a buffer and places in its lines are the same: a position is its
column behind the start of its line, within that line, and later positions are on later lines.
Every line starts at a position on it in column 0, further lines start at the end of the text,
and negative ones count from the last. Going to the end of a line leads behind the last
character of the nearest line that there is. -/
theorem lines_and_columns_bijective (b : Buffer) :
    let t := b.text
    (∀ pos : Nat, pos ≤ t.length →
      startOfLine t (lineAt t pos) + columnAt t pos = pos ∧
      columnAt t pos ≤ (lineText t (lineAt t pos).toNat).length ∧
      '\n' ∉ sliceAt t (startOfLine t (lineAt t pos)) pos) ∧
    Set.BijOn (fun pos : Nat => (lineAt t pos, columnAt t pos)) {pos | pos ≤ t.length}
      {place | ∃ l k : Nat, place = (↑l, ↑k) ∧ l < lineCount t ∧ k ≤ (lineText t l).length} ∧
    (∀ p q : Int, p ≤ q → lineAt t p ≤ lineAt t q) ∧
    (∀ l : Nat, l < lineCount t →
      lineAt t (startOfLine t l) = l ∧ columnAt t (startOfLine t l) = 0) ∧
    (∀ l : Nat, lineCount t ≤ l → startOfLine t l = t.length) ∧
    (∀ l : Int, l < 0 → startOfLine t l = startOfLine t (max 0 (lineCount t + l))) ∧
    (∀ l : Int,
      let b' := b.toLineEnd l
      b'.text = t ∧ lineAt t b'.cursor = max 0 (min l (lineCount t - 1)) ∧
        columnAt t b'.cursor = (lineText t (lineAt t b'.cursor).toNat).length) := by
  intro t
  refine ⟨?_, bijOn_lineAt_columnAt t, fun _ _ => lineAt_mono t, ?_, ?_,
    fun _ => startOfLine_of_neg, ?_⟩
  · intro pos hpos
    have hsum := lineStart_add_columnOf hpos
    simp only [lineAt_natCast, columnAt_natCast, startOfLine_natCast, Int.toNat_natCast]
    refine ⟨by omega, ?_, ?_⟩
    · exact_mod_cast columnOf_le_length hpos
    · rw [sliceAt_natCast (lineStart_le_length _ _) hpos]
      exact not_mem_slice_lineStart hpos
  · intro l hl
    rw [startOfLine_natCast, lineAt_natCast, columnAt_natCast, lineOf_lineStart hl,
      columnOf_lineStart hl]
    exact ⟨rfl, rfl⟩
  · intro l hl
    rw [startOfLine_natCast, lineStart_of_le hl]
  · exact fun l => ⟨put_text .., b.toLineEnd_place l⟩

/-- A text with an empty line inside and one at its end. -/
theorem lines_and_columns_bijective_sample :
    let b : Buffer := { text := "ab\n\ncde\n".toList }
    let t := b.text
    (7 ≤ t.length ∧ startOfLine t (lineAt t 7) + columnAt t 7 = 7) ∧
    (3 < lineCount t ∧ lineAt t (startOfLine t 3) = 3) ∧
    (lineCount t ≤ 4 ∧ startOfLine t 4 = t.length) ∧
    ((-9 : Int) < 0 ∧ startOfLine t (-9) = startOfLine t (max 0 (lineCount t + -9))) := by
  intro b t
  obtain ⟨hposition, -, -, hline, hbehind, hnegative, -⟩ := lines_and_columns_bijective b
  have hinside : 7 ≤ t.length := by decide
  have hlast : 3 < lineCount t := by decide
  have hnone : lineCount t ≤ 4 := by decide
  exact ⟨⟨hinside, (hposition 7 hinside).1⟩, ⟨hlast, (hline 3 hlast).1⟩,
    ⟨hnone, hbehind 4 hnone⟩, ⟨by decide, hnegative (-9) (by decide)⟩⟩

end Buffer

end Scratchpad
