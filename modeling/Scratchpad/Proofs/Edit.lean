import Scratchpad.Buffer.Basic
import Scratchpad.Proofs.Line

/-!
# Edits of a buffer

What the editing operations do to text and cursor. Operations that look at the
cursor's line are described for a buffer whose cursor stands in a line that is cut
off (`Buffer.At`); every buffer with its cursor in the text is of that form
(`Buffer.exists_at`).
-/

namespace Scratchpad

namespace Buffer

/-! ## Putting a text in place -/

/-- The three things that putting a text in place can do. -/
theorem put_eq (b : Buffer) (t : Text) (c : Nat) :
    b.put t c =
      if t = b.text then
        if c = b.cursor then b else { b with cursor := c, popup := none, column := none }
      else { text := t, cursor := c } := by
  by_cases ht : t = b.text
  -- the text is only said to change if it does
  · simp only [put, if_pos ht]
  · by_cases hc : c = b.cursor
    · simp [put, if_neg ht, hc]
    · simp [put, if_neg ht, hc]

@[simp] theorem put_text (b : Buffer) (t : Text) (c : Nat) : (b.put t c).text = t := by
  rw [put_eq]
  split
  · split <;> simp_all
  · rfl

@[simp] theorem put_cursor (b : Buffer) (t : Text) (c : Nat) : (b.put t c).cursor = c := by
  rw [put_eq]
  split
  · split <;> simp_all
  · rfl

/-- No edit opens a popup. -/
theorem put_popup {b : Buffer} (h : b.popup = none) (t : Text) (c : Nat) :
    (b.put t c).popup = none := by
  rw [put_eq]
  split
  · split <;> simp_all
  · rfl

theorem put_self (b : Buffer) : b.put b.text b.cursor = b := by
  simp [put]

/-- A new text leaves nothing of the old buffer. -/
theorem put_of_ne {b : Buffer} {t : Text} (h : t ≠ b.text) (c : Nat) :
    b.put t c = { text := t, cursor := c } := by
  rw [put_eq, if_neg h]

/-! ## Inserting -/

@[simp] theorem insert_text (b : Buffer) (t : Text) :
    (b.insert t).text = b.before ++ t ++ b.after := put_text ..

@[simp] theorem insert_cursor (b : Buffer) (t : Text) :
    (b.insert t).cursor = b.cursor + t.length := put_cursor ..

theorem insert_nil (b : Buffer) : b.insert [] = b := by
  simpa [insert, before, after] using put_self b

/-- An insertion of anything drops selection, popup and column. -/
theorem insert_of_ne_nil (b : Buffer) {t : Text} (h : t ≠ []) :
    b.insert t = { text := b.before ++ t ++ b.after, cursor := b.cursor + t.length } := by
  apply put_of_ne
  intro heq
  have hlen := congrArg List.length heq
  have hpos : 0 < t.length := List.length_pos_iff.mpr h
  simp only [before, after, List.length_append, List.length_take, List.length_drop] at hlen
  omega

/-! ## The cursor in a line -/

/-- The cursor stands behind `k` characters of a line. -/
structure At (b : Buffer) (before line after : Text) (k : Nat) : Prop where
  cut : LineCut before line after
  text : b.text = before ++ line ++ after
  cursor : b.cursor = before.length + k
  within : k ≤ line.length

/-- A cursor in the text stands in some line. -/
theorem exists_at {b : Buffer} (h : b.cursor ≤ b.text.length) :
    ∃ before line after k, b.At before line after k := by
  obtain ⟨before, line, after, k, htext, hcut, hk, hpos⟩ := exists_lineCut_at h
  exact ⟨before, line, after, k, hcut, htext, hpos, hk⟩

namespace At

variable {b : Buffer} {before line after : Text} {k : Nat}

theorem before_eq (h : b.At before line after k) : b.before = before ++ line.take k := by
  rw [Buffer.before, h.text, h.cursor, List.append_assoc, List.take_length_add_append,
    List.take_append_of_le_length h.within]

theorem after_eq (h : b.At before line after k) : b.after = line.drop k ++ after := by
  rw [Buffer.after, h.text, h.cursor, List.append_assoc, ← List.drop_drop, List.drop_left,
    List.drop_append_of_le_length h.within]

theorem lineBefore_eq (h : b.At before line after k) : b.lineBefore = line.take k := by
  rw [lineBefore, h.before_eq, takeWhile_reverse_line h.cut.opens]
  exact fun hm => h.cut.single (List.mem_of_mem_take hm)

theorem lineAfter_eq (h : b.At before line after k) : b.lineAfter = line.drop k := by
  rw [lineAfter, h.after_eq, takeWhile_line _ h.cut.closes]
  exact fun hm => h.cut.single (List.mem_of_mem_drop hm)

theorem currentLine_eq (h : b.At before line after k) : b.currentLine = line := by
  rw [currentLine, h.lineBefore_eq, h.lineAfter_eq, List.take_append_drop]

theorem line_eq (h : b.At before line after k) : b.line = before.count '\n' := by
  rw [Buffer.line, h.text, h.cursor, h.cut.lineOf h.within]

theorem col_eq (h : b.At before line after k) : b.col = k := by
  rw [col, h.text, h.cursor, h.cut.columnOf h.within]

/-- Emptying the line takes all of it out and leaves its start. -/
theorem clearLine_eq (h : b.At before line after k) :
    b.clearLine = b.put (before ++ after) before.length := by
  have hk := h.within
  have hstart : b.cursor - (line.take k).length = before.length := by
    rw [h.cursor, List.length_take, Nat.min_eq_left hk, Nat.add_sub_cancel]
  -- the line is taken away on both sides of the cursor
  have hstop : b.cursor + (line.drop k).length = (before ++ line).length := by
    rw [h.cursor, List.length_drop, List.length_append]
    omega
  simp only [clearLine, h.lineBefore_eq, h.lineAfter_eq, hstart, hstop, h.text]
  rw [List.drop_left, List.append_assoc, List.take_left]

end At

/-- Deleting a character takes it out. -/
theorem backspace_eq {b : Buffer} {t after : Text} {c : Char} (htext : b.text = t ++ c :: after)
    (hcursor : b.cursor = t.length + 1) : b.backspace = b.put (t ++ after) t.length := by
  have hafter : b.after = after := by
    rw [Buffer.after, htext, hcursor]
    simp
  simp [backspace, hcursor, hafter, htext]

/-! ## Going to the end of a line -/

/-- Going to the end of a line that there is only moves the cursor there. -/
theorem toLineEnd_eq (b : Buffer) {l : Nat} (hl : l < lineCount b.text) :
    b.toLineEnd l = b.deselect.put b.text (lineEnd b.text l) := by
  have hlast : min l (lineCount b.text - 1) = l := by omega
  have hle := lineEnd_le_length hl
  simp [toLineEnd, moveTo, deselect, hlast, hle]

end Buffer

end Scratchpad
