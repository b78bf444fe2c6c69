import Scratchpad.Proofs.Output
import Scratchpad.Session.Start

/-!
# A commit is one insertion

Opening a line, printing, ending a line that is still open and writing the block of the
outcome all edit the buffer. Of a snippet that only prints, all of it together is one
insertion at the end of a line (`Buffer.InsertedBelow`), and that line does not end
before the evaluated text does.

* `Buffer.slice_span`, `Buffer.span_le` — the evaluated text and where it ends;
* `commit_insertedBelow` — the insertion, at the end of the line that was aimed at;
* `commit_inserts_once` — what it leaves of the buffer, and where the cursor goes.
-/

namespace Scratchpad

namespace Buffer

/-- The two ends of the selection are positions in the text. -/
structure InText (b : Buffer) : Prop where
  cursor : b.cursor ≤ b.text.length
  anchor : ∀ a, b.anchor = some a → a ≤ b.text.length

instance (b : Buffer) : Decidable b.InText :=
  decidable_of_iff (b.cursor ≤ b.text.length ∧ ∀ a ∈ b.anchor, a ≤ b.text.length)
    ⟨fun h => ⟨h.1, h.2⟩, fun h => ⟨h.cursor, h.anchor⟩⟩

/-- `b'` is `b` with one insertion at the end of a line: a line feed, and output behind
which the cursor stands on an empty line. -/
def InsertedBelow (b : Buffer) (l : Nat) (b' : Buffer) : Prop :=
  ∃ out, OpensLine out ∧
    b' =
      { text := b.text.take (lineEnd b.text l) ++ '\n' :: (out ++ b.text.drop (lineEnd b.text l))
        cursor := lineEnd b.text l + 1 + out.length }

/-- The range of the text that a commit evaluates. -/
def span (b : Buffer) : Nat × Nat :=
  if b.selection.1 = b.selection.2 then (lineStart b.text b.line, lineEnd b.text b.line)
  else touchedLines b.text b.selection.1 b.selection.2

/-! ## The evaluated text -/

theorem InText.selection_le {b : Buffer} (h : b.InText) : b.selection.2 ≤ b.text.length := by
  have hcursor := h.cursor
  cases ha : b.anchor with
  | none => simpa [selection, ha] using hcursor
  | some a =>
    have hanchor := h.anchor a ha
    simp only [selection, ha]
    omega

theorem target_of_empty {b : Buffer} (h : b.selection.1 = b.selection.2) :
    b.target = { source := b.currentLine, last := b.line, selected := false } := if_pos h

theorem target_of_selected {b : Buffer} (h : b.selection.1 ≠ b.selection.2) :
    b.target =
      { source := slice b.text b.span.1 b.span.2, last := lineOf b.text b.span.2,
        selected := true } := by
  rw [span, if_neg h]
  exact if_neg h

theorem target_last_lt (b : Buffer) : b.target.last < lineCount b.text := by
  by_cases h : b.selection.1 = b.selection.2
  · rw [target_of_empty h]
    exact lineOf_lt_lineCount ..
  · rw [target_of_selected h]
    exact lineOf_lt_lineCount ..

theorem slice_span {b : Buffer} (h : b.InText) :
    slice b.text b.span.1 b.span.2 = b.target.source := by
  by_cases hsel : b.selection.1 = b.selection.2
  · obtain ⟨before, line, after, k, hat⟩ := exists_at h.cursor
    rw [target_of_empty hsel, span, if_pos hsel, hat.line_eq, hat.text, hat.cut.lineStart,
      hat.cut.lineEnd, LineCut.slice_line, hat.currentLine_eq]
  · rw [target_of_selected hsel]

theorem touchedLines_le {t : Text} {start stop : Nat} (h : stop ≤ t.length) :
    (touchedLines t start stop).2 ≤ t.length := by
  have hstart := lineStart_le_length t (lineOf t stop + 1)
  unfold touchedLines
  dsimp only
  split
  · split
    · exact hstart
    · exact h
  · exact h

/-- The evaluated text does not reach beyond the line that the output goes below. -/
theorem span_le {b : Buffer} (h : b.InText) :
    b.span.2 ≤ lineEnd b.text b.target.last := by
  by_cases hsel : b.selection.1 = b.selection.2
  · rw [target_of_empty hsel, span, if_pos hsel]
  · rw [target_of_selected hsel]
    apply le_lineEnd_lineOf
    rw [span, if_neg hsel]
    exact touchedLines_le h.selection_le

/-! ## What an insertion leaves -/

variable {b b' : Buffer} {l : Nat}

theorem InsertedBelow.sublist (h : b.InsertedBelow l b') : b.text.Sublist b'.text := by
  obtain ⟨out, -, rfl⟩ := h
  have hkept : (b.text.drop (lineEnd b.text l)).Sublist
      ('\n' :: (out ++ b.text.drop (lineEnd b.text l))) :=
    (List.sublist_append_right out _).cons '\n'
  simpa using (List.Sublist.refl (b.text.take (lineEnd b.text l))).append hkept

/-- What stands behind an insertion stays at the end of the text. -/
theorem InsertedBelow.suffix (h : b.InsertedBelow l b') :
    b.text.drop (lineEnd b.text l) <:+ b'.text := by
  obtain ⟨out, -, rfl⟩ := h
  exact ⟨b.text.take (lineEnd b.text l) ++ '\n' :: out, by simp⟩

/-- An insertion as the two texts around the cursor that it leaves. -/
theorem insertedBelow_iff (hl : l < lineCount b.text) :
    b.InsertedBelow l b' ↔ ∃ out, OpensLine out ∧
      b' = between (b.text.take (lineEnd b.text l) ++ ['\n'] ++ out)
        (b.text.drop (lineEnd b.text l)) := by
  have hle := lineEnd_le_length hl
  simp [InsertedBelow, between, hle, Nat.add_assoc, Nat.add_comm 1]

/-- The cursor is left alone on a line. -/
theorem InsertedBelow.prompt (hl : l < lineCount b.text) (h : b.InsertedBelow l b') :
    b'.col = 0 ∧ b'.currentLine = [] := by
  obtain ⟨out, hout, rfl⟩ := (insertedBelow_iff hl).mp h
  have hopens : OpensLine (b.text.take (lineEnd b.text l) ++ ['\n'] ++ out) :=
    opensLine_append.mpr ⟨hout, fun _ => opensLine_concat _⟩
  exact ⟨col_between.mpr hopens, currentLine_between hopens (closesLine_drop_lineEnd hl)⟩

end Buffer

/-! ## The insertion of a commit -/

open Buffer in
/-- A commit of code that only prints is one insertion. -/
theorem commit_insertedBelow {w w' : World} (hprints : w.PrintsOnly)
    (h : commit w = (.done true, w')) :
    w.buffer.InsertedBelow w.buffer.target.last w'.buffer := by
  have hlast := target_last_lt w.buffer
  obtain ⟨chunks, hchunks⟩ := hprints
  obtain ⟨block?, hbuffer, -⟩ := commit_true_inv h
  -- the prints and the block extend the text before the cursor in turn
  obtain ⟨printed, hprinted⟩ := printAll_between chunks
    (w.buffer.text.take (lineEnd w.buffer.text w.buffer.target.last) ++ ['\n'])
    (w.buffer.text.drop (lineEnd w.buffer.text w.buffer.target.last))
  rw [hchunks, World.opened_buffer, openBelow_eq hlast, hprinted] at hbuffer
  obtain ⟨block, hblock, hopens⟩ := writeBlock_between block?
    (w.buffer.text.take (lineEnd w.buffer.text w.buffer.target.last) ++ ['\n'] ++ printed)
    (w.buffer.text.drop (lineEnd w.buffer.text w.buffer.target.last))
  rw [hblock, List.append_assoc] at hbuffer
  rw [List.append_assoc] at hopens
  exact (insertedBelow_iff hlast).mpr ⟨printed ++ block, (opensLine_append.mp hopens).1, hbuffer⟩

/-- Nothing of the buffer is lost in a commit of code that only prints, and the cursor
comes to stand alone on a line. -/
theorem commit_inserts_once {w w' : World} (hin : w.buffer.InText) (hprints : w.PrintsOnly)
    (h : commit w = (.done true, w')) :
    ∃ l out, l < lineCount w.buffer.text ∧
      slice w.buffer.text w.buffer.span.1 w.buffer.span.2 = w.buffer.target.source ∧
      w.buffer.span.2 ≤ lineEnd w.buffer.text l ∧
      OpensLine out ∧
      w'.buffer =
        { text := w.buffer.text.take (lineEnd w.buffer.text l) ++
            '\n' :: (out ++ w.buffer.text.drop (lineEnd w.buffer.text l))
          cursor := lineEnd w.buffer.text l + 1 + out.length } ∧
      w.buffer.text.Sublist w'.buffer.text ∧
      w'.buffer.col = 0 ∧ w'.buffer.currentLine = [] := by
  have hlast := w.buffer.target_last_lt
  -- all of it is said of one insertion below the last line of the target
  have hinserted := commit_insertedBelow hprints h
  have hprompt := hinserted.prompt hlast
  have hsub := hinserted.sublist
  obtain ⟨out, hout, heq⟩ := hinserted
  exact ⟨w.buffer.target.last, out, hlast, Buffer.slice_span hin, Buffer.span_le hin, hout, heq,
    hsub, hprompt⟩

/-- A session that stands in the middle one of three lines, which prints without ending
its line and gives a value. -/
def printSample : World :=
  { World.start {} {} none #[] with
    buffer := { text := "x = 0\nprint(1, 'a', end='') or 2\n# z".toList, cursor := 9 } }

/-- What its run leaves in the buffer. -/
def printedSample : Buffer :=
  { text := "x = 0\nprint(1, 'a', end='') or 2\n--> 1\ta\n# z".toList, cursor := 40 }

/-- What was printed is settled by evaluating both sides to the same buffer. -/
theorem World.PrintsOnly.of_eq {w : World} {b : Buffer} (chunks : List Text)
    (hleft : w.evaluated.buffer = b) (hprinted : w.opened.buffer.printAll chunks = b) :
    w.PrintsOnly :=
  ⟨chunks, Eq.trans hleft (Eq.symm hprinted)⟩

/-- A computation that answers yes. -/
def Run.saysYes (x : Run Bool) (w : World) : Bool :=
  match (x w).1 with
  | .done b => b
  | _ => false

theorem exists_of_saysYes {x : Run Bool} {w : World} (h : x.saysYes w = true) :
    ∃ w', x w = (.done true, w') := by
  rcases hx : x w with ⟨b | e | _, w'⟩
  · simp only [Run.saysYes, hx] at h
    exact ⟨w', by rw [h]⟩
  · simp [Run.saysYes, hx] at h
  · simp [Run.saysYes, hx] at h

/-- What is printed, the break of its line and the value stand below the middle line. -/
theorem commit_inserts_once_between_lines :
    printSample.buffer.InText ∧ printSample.PrintsOnly ∧
    ∃ w', commit printSample = (.done true, w') ∧
      ∃ l out, l < lineCount printSample.buffer.text ∧
        slice printSample.buffer.text printSample.buffer.span.1 printSample.buffer.span.2 =
          printSample.buffer.target.source ∧
        printSample.buffer.span.2 ≤ lineEnd printSample.buffer.text l ∧
        OpensLine out ∧
        w'.buffer =
          { text := printSample.buffer.text.take (lineEnd printSample.buffer.text l) ++
              '\n' :: (out ++ printSample.buffer.text.drop (lineEnd printSample.buffer.text l))
            cursor := lineEnd printSample.buffer.text l + 1 + out.length } ∧
        printSample.buffer.text.Sublist w'.buffer.text ∧
        w'.buffer.col = 0 ∧ w'.buffer.currentLine = [] := by
  have hin : printSample.buffer.InText := by decide +kernel
  have hprints : printSample.PrintsOnly :=
    .of_eq (b := printedSample) ["1\ta".toList] (by decide +kernel) (by decide +kernel)
  obtain ⟨w', hcommit⟩ := exists_of_saysYes (x := commit) (w := printSample) (by decide +kernel)
  have hinserts := commit_inserts_once hin hprints hcommit
  exact ⟨hin, hprints, w', hcommit, hinserts⟩

example : (commit printSample).2.buffer.text =
    "x = 0\nprint(1, 'a', end='') or 2\n--> 1\ta\n--> 2\n\n# z".toList := by
  decide +kernel

end Scratchpad
