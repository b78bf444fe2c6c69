import Scratchpad.Proofs.Insertion

/-!
# Output below a selection

A selection over several lines evaluates whole lines, and the output should stand right
below the last of them. The line to go below is looked up at the end of the evaluated
text. That is the start of the next line wherever there is one, so the output stands
below a line that was not evaluated.

* `touchedLines_eq`, `lineOf_lineStart_succ` — the evaluated lines, and the line that is
  found at their end;
* `commit_below_selection_iff` — the output stands right below the evaluated lines
  exactly if the selection ends within the last line of the buffer;
* `commit_skips_line` — a selection that is followed by a line.
-/

namespace Scratchpad

/-- The last line that a selection over several lines evaluates: one at whose start the
selection ends is not evaluated. -/
def lastTouched (t : Text) (stop : Nat) : Nat :=
  if 0 < columnOf t stop then lineOf t stop else lineOf t stop - 1

variable {t : Text} {start stop : Nat}

/-! ## The evaluated lines -/

theorem lastTouched_lt (t : Text) (stop : Nat) : lastTouched t stop < lineCount t := by
  have hlt := lineOf_lt_lineCount t stop
  unfold lastTouched
  split <;> omega

theorem le_lastTouched (hlines : lineOf t start < lineOf t stop) :
    lineOf t start ≤ lastTouched t stop := by
  unfold lastTouched
  split <;> omega

/-- Whole lines are evaluated, the last touched one included. -/
theorem touchedLines_eq (hlines : lineOf t start < lineOf t stop) (hstop : stop ≤ t.length) :
    Buffer.touchedLines t start stop =
      (lineStart t (lineOf t start), lineStart t (lastTouched t stop + 1)) := by
  have hcolumn := lineStart_add_columnOf hstop
  simp only [Buffer.touchedLines, lastTouched, if_pos hlines]
  by_cases hc : 0 < columnOf t stop
  · simp only [gt_iff_lt, if_pos hc]
  · -- the selection ends at the start of its last line
    have hprev : lineOf t stop - 1 + 1 = lineOf t stop := by omega
    have hstart : stop = lineStart t (lineOf t stop) := by omega
    simp only [gt_iff_lt, if_neg hc, hprev]
    rw [← hstart]

/-- The last touched line is the last one of the text only if the selection ends
within that. -/
theorem lastTouched_last_iff (hlines : lineOf t start < lineOf t stop) :
    lastTouched t stop + 1 = lineCount t ↔
      0 < columnOf t stop ∧ lineOf t stop + 1 = lineCount t := by
  have hlt := lineOf_lt_lineCount t stop
  unfold lastTouched
  split <;> omega

/-- Every evaluated line has a part in the evaluated text, if only its line feed. -/
theorem lineStart_lastTouched_lt (hlines : lineOf t start < lineOf t stop)
    (hstop : stop ≤ t.length) :
    lineStart t (lastTouched t stop) < lineStart t (lastTouched t stop + 1) := by
  by_cases hnext : lastTouched t stop + 1 < lineCount t
  · rw [lineStart_succ hnext, lineEnd]
    omega
  · have hlt := lastTouched_lt t stop
    -- the last line of the text is touched, and the selection goes into it
    obtain ⟨hc, -⟩ := (lastTouched_last_iff hlines).mp (by omega)
    have hend : lineStart t (lastTouched t stop + 1) = t.length := lineStart_of_le (by omega)
    have hcolumn := lineStart_add_columnOf hstop
    rw [hend, lastTouched, if_pos hc]
    omega

/-! ## The line that is found at their end -/

/-- At the start of a next line that line is found, and the last line at the end of
the text. -/
theorem lineOf_lineStart_succ {l : Nat} (hl : l < lineCount t) :
    lineOf t (lineStart t (l + 1)) = if l + 1 < lineCount t then l + 1 else l := by
  split
  next hnext => exact lineOf_lineStart hnext
  next hlast =>
    rw [lineStart_of_le (by omega), lineOf_length]
    omega

theorem lineEnd_lt_succ {l : Nat} (hl : l + 1 < lineCount t) :
    lineEnd t l < lineEnd t (l + 1) := by
  have hnext := lineStart_succ hl
  simp only [lineEnd] at hnext ⊢
  omega

namespace Buffer

variable {b b' : Buffer}

/-- What a commit evaluates of a selection over several lines, and where it looks for the
line to go below. -/
theorem target_of_lines (hin : b.InText)
    (hlines : lineOf b.text b.selection.1 < lineOf b.text b.selection.2) :
    b.target =
      { source := slice b.text (lineStart b.text (lineOf b.text b.selection.1))
          (lineStart b.text (lastTouched b.text b.selection.2 + 1))
        last :=
          if lastTouched b.text b.selection.2 + 1 < lineCount b.text then
            lastTouched b.text b.selection.2 + 1
          else lastTouched b.text b.selection.2
        selected := true } := by
  have hsel : b.selection.1 ≠ b.selection.2 := by
    intro heq
    rw [heq] at hlines
    exact Nat.lt_irrefl _ hlines
  rw [target_of_selected hsel, span, if_neg hsel, touchedLines_eq hlines hin.selection_le,
    lineOf_lineStart_succ (lastTouched_lt ..)]

/-- Text and cursor tell where an insertion was made. -/
theorem InsertedBelow.length_eq {l : Nat} (hl : l < lineCount b.text)
    (h : b.InsertedBelow l b') :
    b'.text.length + lineEnd b.text l = b.text.length + b'.cursor := by
  have hle := lineEnd_le_length hl
  obtain ⟨out, -, rfl⟩ := h
  simp only [List.length_append, List.length_take, List.length_cons, List.length_drop]
  omega

end Buffer

/-! ## Below the selection -/

/-- The output stands right below the evaluated lines exactly if the selection ends
within the last line of the buffer. Otherwise the next line, which was not evaluated,
stands between. -/
theorem commit_below_selection_iff {w w' : World} (hin : w.buffer.InText)
    (hlines : lineOf w.buffer.text w.buffer.selection.1 <
      lineOf w.buffer.text w.buffer.selection.2)
    (hprints : w.PrintsOnly) (h : commit w = (.done true, w')) :
    let t := w.buffer.text
    let first := lineOf t w.buffer.selection.1
    let k := lastTouched t w.buffer.selection.2
    let endsInside := 0 < columnOf t w.buffer.selection.2 ∧
      lineOf t w.buffer.selection.2 + 1 = lineCount t
    (first ≤ k ∧ k < lineCount t ∧ lineStart t k < lineStart t (k + 1) ∧
      w.buffer.target.source = slice t (lineStart t first) (lineStart t (k + 1))) ∧
    (w.buffer.InsertedBelow k w'.buffer ↔ endsInside) ∧
    (¬ endsInside → k + 1 < lineCount t ∧ w.buffer.InsertedBelow (k + 1) w'.buffer) := by
  have htarget := Buffer.target_of_lines hin hlines
  have hinserted := commit_insertedBelow hprints h
  have hk := lastTouched_lt w.buffer.text w.buffer.selection.2
  have hlast := lastTouched_last_iff hlines
  refine ⟨⟨le_lastTouched hlines, hk, lineStart_lastTouched_lt hlines hin.selection_le, ?_⟩, ?_⟩
  · rw [htarget]
  · simp only [← hlast]
    rw [htarget] at hinserted
    by_cases hnext : lastTouched w.buffer.text w.buffer.selection.2 + 1 <
        lineCount w.buffer.text
    · rw [if_pos hnext] at hinserted
      refine ⟨⟨fun hbelow => ?_, fun heq => absurd heq (Nat.ne_of_lt hnext)⟩,
        fun _ => ⟨hnext, hinserted⟩⟩
      -- an insertion cannot be below both lines
      have hhere := hbelow.length_eq hk
      have hthere := hinserted.length_eq hnext
      have hlt := lineEnd_lt_succ hnext
      omega
    · rw [if_neg hnext] at hinserted
      have heq : lastTouched w.buffer.text w.buffer.selection.2 + 1 =
          lineCount w.buffer.text := by omega
      exact ⟨⟨fun _ => heq, fun _ => hinserted⟩, fun hne => absurd heq hne⟩

/-! ## Samples -/

/-- A session in whose buffer something is selected. -/
def selectionSample (text : String) (anchor cursor : Nat) : World :=
  { World.start {} {} none #[] with
    buffer := { text := text.toList, cursor, anchor := some anchor } }

/-- A block at the end of the buffer, selected backwards. -/
def blockAtEnd : World := selectionSample "a = 1\nprint(a)" 10 0

theorem commit_below_selection_at_end :
    ∃ w', commit blockAtEnd = (.done true, w') ∧ blockAtEnd.buffer.InsertedBelow 1 w'.buffer := by
  have hin : blockAtEnd.buffer.InText := by decide +kernel
  have hlines : lineOf blockAtEnd.buffer.text blockAtEnd.buffer.selection.1 <
      lineOf blockAtEnd.buffer.text blockAtEnd.buffer.selection.2 := by decide +kernel
  have hprints : blockAtEnd.PrintsOnly :=
    .of_eq (b := { text := "a = 1\nprint(a)\n--> 1\n".toList, cursor := 21 }) ["1\n".toList]
      (by decide +kernel) (by decide +kernel)
  obtain ⟨w', hcommit⟩ := exists_of_saysYes (x := commit) (w := blockAtEnd) (by decide +kernel)
  have hbelow := (commit_below_selection_iff hin hlines hprints hcommit).2.1
  exact ⟨w', hcommit, hbelow.mpr (by decide +kernel)⟩

/-- A block above a line that is not selected. -/
def blockAbove : World := selectionSample "a = 1\nprint(a)\nc = 3" 0 10

/-- Two lines are evaluated, and the output is not below the second one. -/
theorem commit_skips_line :
    blockAbove.buffer.InText ∧
    lineOf blockAbove.buffer.text blockAbove.buffer.selection.1 <
      lineOf blockAbove.buffer.text blockAbove.buffer.selection.2 ∧
    blockAbove.buffer.target.source = "a = 1\nprint(a)\n".toList ∧
    lastTouched blockAbove.buffer.text blockAbove.buffer.selection.2 = 1 ∧
    ∃ w', commit blockAbove = (.done true, w') ∧
      w'.buffer.text = "a = 1\nprint(a)\nc = 3\n--> 1\n".toList ∧
      ¬ blockAbove.buffer.InsertedBelow 1 w'.buffer := by
  refine ⟨by decide +kernel, by decide +kernel, by decide +kernel, by decide +kernel, ?_⟩
  obtain ⟨w', hcommit⟩ := exists_of_saysYes (x := commit) (w := blockAbove) (by decide +kernel)
  have htext : (commit blockAbove).2.buffer.text =
      "a = 1\nprint(a)\nc = 3\n--> 1\n".toList := by decide +kernel
  rw [hcommit] at htext
  refine ⟨w', hcommit, htext, fun hbelow => ?_⟩
  -- the third line would still end the text
  have hsuffix := hbelow.suffix
  rw [htext] at hsuffix
  revert hsuffix
  decide +kernel

end Scratchpad
