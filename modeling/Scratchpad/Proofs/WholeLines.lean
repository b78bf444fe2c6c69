import Scratchpad.Proofs.BelowSelection

/-!
# Selections evaluate whole lines

Of a selection over several lines only the lines count: evaluated is the text from the start
of the line of its first end up to the first line that it does not touch, or up to the end of
the text. The direction of the selection does not matter, and of the columns only whether the
last one is 0: a line at whose start the selection ends is not touched.

* `lineBehind` — the first line that is not touched;
* `Buffer.target_source_eq` — the evaluated text;
* `Buffer.target_source_congr` — it depends on two lines only;
* `commit_evaluates_lines` — the evaluated text of a commit, and what it depends on.
-/

namespace Scratchpad

/-- The first line that a selection over several lines does not touch, if it ends at `stop`. -/
def lineBehind (t : Text) (stop : Nat) : Nat :=
  if columnOf t stop = 0 then lineOf t stop else lineOf t stop + 1

/-- The start of a line, or the end of the text if there is no such line. -/
def startOrEnd (t : Text) (line : Nat) : Nat :=
  if line < lineCount t then lineStart t line else t.length

theorem lineStart_eq_startOrEnd (t : Text) (line : Nat) :
    lineStart t line = startOrEnd t line := by
  unfold startOrEnd
  split
  · rfl
  next h => exact lineStart_of_le (Nat.le_of_not_lt h)

/-- Behind the last line that is touched comes the first one that is not. -/
theorem lastTouched_succ {t : Text} {start stop : Nat}
    (hlines : lineOf t start < lineOf t stop) : lastTouched t stop + 1 = lineBehind t stop := by
  unfold lastTouched lineBehind
  split <;> split <;> omega

theorem lineBehind_lineStart {t : Text} {line : Nat} (h : line < lineCount t) :
    lineBehind t (lineStart t line) = line := by
  rw [lineBehind, if_pos (columnOf_lineStart h), lineOf_lineStart h]

namespace Buffer

variable {b b' : Buffer}

theorem selection_lines_le (b : Buffer) :
    lineOf b.text b.selection.1 ≤ lineOf b.text b.selection.2 := by
  have hle : b.selection.1 ≤ b.selection.2 := by
    unfold selection
    split
    · exact Nat.le_refl _
    · dsimp only
      omega
  exact lineOf_mono b.text hle

/-- What is evaluated of a selection over several lines. -/
theorem target_source_eq (hin : b.InText)
    (hlines : lineOf b.text b.selection.1 < lineOf b.text b.selection.2) :
    b.target.source = slice b.text (lineStart b.text (lineOf b.text b.selection.1))
      (startOrEnd b.text (lineBehind b.text b.selection.2)) := by
  rw [target_of_lines hin hlines, lastTouched_succ hlines, lineStart_eq_startOrEnd b.text
    (lineBehind _ _)]

/-- Selections with the same lines evaluate the same text. -/
theorem target_source_congr (hin : b.InText) (hin' : b'.InText) (htext : b'.text = b.text)
    (hlines : lineOf b.text b.selection.1 < lineOf b.text b.selection.2)
    (hlines' : lineOf b.text b'.selection.1 < lineOf b.text b'.selection.2)
    (hfirst : lineOf b.text b'.selection.1 = lineOf b.text b.selection.1)
    (hbehind : lineBehind b.text b'.selection.2 = lineBehind b.text b.selection.2) :
    b'.target.source = b.target.source := by
  rw [← htext] at hlines'
  rw [target_source_eq hin hlines, target_source_eq hin' hlines', htext, hfirst, hbehind]

end Buffer

/-- A commit of a selection over several lines evaluates whole lines: from the start of the
first one up to the first line that is not touched, or the end of the text. Any selection
with the same lines evaluates the same, and so does one that goes up to the start of the next
line where this one ends within its last line. -/
theorem commit_evaluates_lines {w : World} (hin : w.buffer.InText)
    (hlines : lineOf w.buffer.text w.buffer.selection.1 ≠
      lineOf w.buffer.text w.buffer.selection.2) :
    let t := w.buffer.text
    let low := w.buffer.selection.1
    let high := w.buffer.selection.2
    let source := slice t (lineStart t (lineOf t low)) (startOrEnd t (lineBehind t high))
    w.buffer.target.source = source ∧
    commit w = (finishCommit source (compile source) >>= fun _ => pure true) w.opened ∧
    (∀ w', commit w = (.done true, w') → w'.history = w.evaluated.history.record source) ∧
    ∀ b : Buffer, b.InText → b.text = t → lineOf t b.selection.1 = lineOf t low →
      (lineOf t b.selection.2 = lineOf t high →
        (columnOf t b.selection.2 = 0 ↔ columnOf t high = 0) → b.target.source = source) ∧
      (0 < columnOf t high → lineOf t high + 1 < lineCount t →
        b.selection.2 = lineStart t (lineOf t high + 1) → b.target.source = source) := by
  intro t low high source
  have hlt : lineOf t low < lineOf t high :=
    Nat.lt_of_le_of_ne w.buffer.selection_lines_le hlines
  have hsource : w.buffer.target.source = source := Buffer.target_source_eq hin hlt
  have hselected : w.buffer.target.selected = true := by
    rw [Buffer.target_of_lines hin hlt]
  refine ⟨hsource, ?_, fun w' h => ?_, fun b hb htext hfirst => ⟨fun hlast hcolumn => ?_,
    fun hcolumn hnext hstop => ?_⟩⟩
  · rw [← hsource]
    exact commit_eq (.inr hselected)
  · obtain ⟨-, -, hhistory⟩ := commit_true_inv h
    rw [hhistory, hsource]
  · rw [← hsource]
    -- the same last line, touched in both or in neither
    have hlt' : lineOf t b.selection.1 < lineOf t b.selection.2 := by rwa [hfirst, hlast]
    refine Buffer.target_source_congr hin hb htext hlt hlt' hfirst ?_
    simp only [lineBehind]
    rw [hlast, if_congr hcolumn rfl rfl]
  · rw [← hsource]
    have hlt' : lineOf t b.selection.1 < lineOf t b.selection.2 := by
      -- the selection stops before the first character of the line behind
      rw [hfirst, hstop, lineOf_lineStart hnext]
      omega
    refine Buffer.target_source_congr hin hb htext hlt hlt' hfirst ?_
    have hbehind : lineBehind t high = lineOf t high + 1 := if_neg (by omega)
    rw [hstop, lineBehind_lineStart hnext]
    exact hbehind.symm

/-- The block above the last line, selected backwards from the start of that line. -/
def blockBackwards : Buffer :=
  { text := "a = 1\nprint(a)\nc = 3".toList, cursor := 2, anchor := some 15 }

/-- Two selections of the first two of three lines. -/
theorem commit_evaluates_first_lines :
    blockAbove.buffer.InText ∧
    lineOf blockAbove.buffer.text blockAbove.buffer.selection.1 ≠
      lineOf blockAbove.buffer.text blockAbove.buffer.selection.2 ∧
    blockAbove.buffer.target.source = "a = 1\nprint(a)\n".toList ∧
    blockBackwards.target.source = "a = 1\nprint(a)\n".toList := by
  have hin : blockAbove.buffer.InText := by decide +kernel
  have hlines : lineOf blockAbove.buffer.text blockAbove.buffer.selection.1 ≠
      lineOf blockAbove.buffer.text blockAbove.buffer.selection.2 := by decide +kernel
  obtain ⟨hsource, -, -, hsame⟩ := commit_evaluates_lines hin hlines
  have hback := (hsame blockBackwards (by decide +kernel) rfl (by decide +kernel)).2
    (by decide +kernel) (by decide +kernel) (by decide +kernel)
  exact ⟨hin, hlines, hsource, hback⟩

end Scratchpad
