import Mathlib.Data.List.Basic
import Mathlib.Data.List.TakeWhile
import Scratchpad.Buffer.Document

/-!
# A text cut at one of its lines

Positions, lines and columns are defined by counting line feeds. Here a text is
instead cut in three at the two ends of a line, `before ++ line ++ after`, and every
notion of a position is read off the cut:

* `LineCut.lineOf`, `LineCut.columnOf` — a position inside `line` is on the line
  with the number of line feeds in `before`, at its distance from `before`;
* `LineCut.lineStart`, `LineCut.lineText`, `LineCut.lineEnd` — that line starts behind
  `before`, holds `line` and ends behind it;
* `exists_lineCut_at`, `exists_lineCut_line` — every position and every line has a cut;
* `lineStart_add_columnOf`, `lineOf_lineStart_add`, `columnOf_lineStart_add` — a position is
  told by its line and its column there, and these are read off it again.
-/

namespace Scratchpad

/-- What follows the text stands at the start of a line. -/
def OpensLine (t : Text) : Prop := t = [] ∨ t.getLast? = some '\n'

/-- What precedes the text stands at the end of a line. -/
def ClosesLine (t : Text) : Prop := t = [] ∨ t.head? = some '\n'

instance (t : Text) : Decidable (OpensLine t) := inferInstanceAs (Decidable (_ ∨ _))

instance (t : Text) : Decidable (ClosesLine t) := inferInstanceAs (Decidable (_ ∨ _))

/-- `line` is a whole line between `before` and `after`. -/
structure LineCut (before line after : Text) : Prop where
  opens : OpensLine before
  closes : ClosesLine after
  single : '\n' ∉ line

/-! ## Ends of lines -/

theorem opensLine_nil : OpensLine [] := Or.inl rfl

theorem opensLine_concat (t : Text) : OpensLine (t ++ ['\n']) := by
  right
  simp

/-- A text that opens a line is empty or ends in a line feed. -/
theorem opensLine_iff {t : Text} : OpensLine t ↔ t = [] ∨ ∃ a, t = a ++ ['\n'] := by
  constructor
  · rintro (h | h)
    · exact Or.inl h
    · obtain ⟨a, ha⟩ := List.getLast?_eq_some_iff.mp h
      exact Or.inr ⟨a, ha⟩
  · rintro (rfl | ⟨a, rfl⟩)
    · exact opensLine_nil
    · exact opensLine_concat a

/-- A text that closes a line is empty or starts with a line feed. -/
theorem closesLine_iff {t : Text} : ClosesLine t ↔ t = [] ∨ ∃ a, t = '\n' :: a := by
  cases t <;> simp [ClosesLine]

/-- Where a text ends, its last part decides, unless that is empty. -/
theorem opensLine_append {a t : Text} :
    OpensLine (a ++ t) ↔ OpensLine t ∧ (t = [] → OpensLine a) := by
  by_cases ht : t = []
  · subst ht
    simp [opensLine_nil]
  · simp only [OpensLine, List.append_eq_nil_iff, ht, List.getLast?_append_of_ne_nil a ht]
    simp

theorem closesLine_reverse {t : Text} : ClosesLine t.reverse ↔ OpensLine t := by
  simp [ClosesLine, OpensLine]

/-! ## Cutting off a line -/

/-- What is taken up to a line feed holds none. -/
theorem not_mem_takeWhile (t : Text) : '\n' ∉ t.takeWhile (· ≠ '\n') := by
  intro hm
  simpa using List.mem_takeWhile_imp hm

theorem closesLine_dropWhile (t : Text) : ClosesLine (t.dropWhile (· ≠ '\n')) := by
  have hhead := List.head?_dropWhile_not (· ≠ '\n') t
  cases hd : t.dropWhile (· ≠ '\n') with
  | nil => exact Or.inl rfl
  | cons c r =>
    right
    rw [hd] at hhead
    simpa using hhead

/-- The rest of a line is what stands before the next line feed. -/
theorem takeWhile_line {l t : Text} (hl : '\n' ∉ l) (ht : ClosesLine t) :
    (l ++ t).takeWhile (· ≠ '\n') = l := by
  have hall : ∀ c ∈ l, decide (c ≠ '\n') = true := by
    intro c hc
    have hne : c ≠ '\n' := fun h => hl (h ▸ hc)
    simpa using hne
  rw [List.takeWhile_append_of_pos hall]
  rcases closesLine_iff.mp ht with rfl | ⟨a, rfl⟩ <;> simp

/-- The start of a line is what stands behind the last line feed. -/
theorem takeWhile_reverse_line {t l : Text} (ht : OpensLine t) (hl : '\n' ∉ l) :
    ((t ++ l).reverse.takeWhile (· ≠ '\n')).reverse = l := by
  rw [List.reverse_append, takeWhile_line (by simpa using hl) (closesLine_reverse.mpr ht),
    List.reverse_reverse]

/-- Every text is whole lines and the start of a further one. -/
theorem exists_open_line (t : Text) : ∃ a l, t = a ++ l ∧ OpensLine a ∧ '\n' ∉ l := by
  refine ⟨(t.reverse.dropWhile (· ≠ '\n')).reverse, (t.reverse.takeWhile (· ≠ '\n')).reverse,
    ?_, ?_, ?_⟩
  · rw [← List.reverse_append, List.takeWhile_append_dropWhile, List.reverse_reverse]
  · exact closesLine_reverse.mp (by simpa using closesLine_dropWhile t.reverse)
  · simpa using not_mem_takeWhile t.reverse

/-! ## Counting -/

/-- The line behind a line feed starts right behind it. -/
theorem lineStart_behind (a b : Text) :
    lineStart (a ++ '\n' :: b) (a.count '\n' + 1) = a.length + 1 := by
  induction a with
  | nil => simp [lineStart]
  | cons c a ih =>
    by_cases hc : c = '\n'
    · subst hc
      simp [lineStart, ih, Nat.add_comm]
    · simp [lineStart, hc, ih, Nat.add_comm]

/-- A line feed separates the lines on its two sides. -/
theorem lines_append (a b : Text) : lines (a ++ '\n' :: b) = lines a ++ lines b := by
  induction a with
  | nil => simp [lines]
  | cons c a ih =>
    by_cases hc : c = '\n'
    · subst hc
      simp [lines, ih]
    · cases hl : lines a with
      | nil => exact absurd hl (lines_ne_nil a)
      | cons l ls => simp [lines, hc, ih, hl]

theorem lines_of_single {l : Text} (h : '\n' ∉ l) : lines l = [l] := by
  induction l with
  | nil => rfl
  | cons c l ih =>
    obtain ⟨hc, hl⟩ : ¬ '\n' = c ∧ '\n' ∉ l := by simpa using h
    simp [lines, ih hl, Ne.symm hc]

theorem length_lines (t : Text) : (lines t).length = lineCount t := by
  induction t with
  | nil => rfl
  | cons c t ih =>
    by_cases hc : c = '\n'
    · simp [lines, lineCount, hc, ih]
    · cases hl : lines t with
      | nil => exact absurd hl (lines_ne_nil t)
      | cons l ls =>
        rw [hl] at ih
        simpa [lines, lineCount, hc, hl] using ih

/-- The lines of a text that opens a line are whole ones and an empty rest. -/
theorem OpensLine.lines_append {a : Text} (h : OpensLine a) :
    ∃ ls, ls.length = a.count '\n' ∧ ∀ b, lines (a ++ b) = ls ++ lines b := by
  rcases opensLine_iff.mp h with rfl | ⟨a, rfl⟩
  · exact ⟨[], rfl, fun _ => rfl⟩
  · refine ⟨lines a, ?_, fun b => ?_⟩
    · simp [length_lines, lineCount]
    · rw [List.append_assoc, List.singleton_append, Scratchpad.lines_append]

/-! ## Reading a cut -/

namespace LineCut

variable {before line after : Text}

/-- A position inside the line is on the line that `before` counts up to. -/
theorem lineOf (h : LineCut before line after) {k : Nat} (hk : k ≤ line.length) :
    lineOf (before ++ line ++ after) (before.length + k) = before.count '\n' := by
  have htake : (before ++ line ++ after).take (before.length + k) = before ++ line.take k := by
    rw [List.append_assoc, List.take_length_add_append, List.take_append_of_le_length hk]
  have hnone : (line.take k).count '\n' = 0 :=
    List.count_eq_zero_of_not_mem fun hm => h.single (List.mem_of_mem_take hm)
  rw [Scratchpad.lineOf, htake, List.count_append, hnone, Nat.add_zero]

theorem lineStart (h : LineCut before line after) :
    lineStart (before ++ line ++ after) (before.count '\n') = before.length := by
  rcases opensLine_iff.mp h.opens with rfl | ⟨a, rfl⟩
  · simp [Scratchpad.lineStart]
  · have := lineStart_behind a (line ++ after)
    simpa using this

theorem columnOf (h : LineCut before line after) {k : Nat} (hk : k ≤ line.length) :
    columnOf (before ++ line ++ after) (before.length + k) = k := by
  simp only [Scratchpad.columnOf, h.lineOf hk, h.lineStart]
  omega

theorem lineText (h : LineCut before line after) :
    lineText (before ++ line ++ after) (before.count '\n') = line := by
  obtain ⟨ls, hlen, hls⟩ := h.opens.lines_append
  -- as many lines stand before this one as there are breaks
  have hhead : ∃ more, lines (line ++ after) = line :: more := by
    rcases closesLine_iff.mp h.closes with rfl | ⟨a, rfl⟩
    · exact ⟨[], by simp [lines_of_single h.single]⟩
    · exact ⟨lines a, by simp [Scratchpad.lines_append, lines_of_single h.single]⟩
  obtain ⟨more, hmore⟩ := hhead
  simp [Scratchpad.lineText, hls, hmore, ← hlen]

theorem lineEnd (h : LineCut before line after) :
    lineEnd (before ++ line ++ after) (before.count '\n') = before.length + line.length := by
  simp only [Scratchpad.lineEnd, h.lineStart, h.lineText]

/-- The piece between the two ends of a line is the line. -/
theorem slice_line (before line after : Text) :
    slice (before ++ line ++ after) before.length (before.length + line.length) = line := by
  rw [slice, ← List.length_append, List.take_left, List.drop_left]

/-- Counting line feeds tells whether a line follows. -/
theorem lineCount_eq (h : LineCut before line after) :
    lineCount (before ++ line ++ after) = before.count '\n' + after.count '\n' + 1 := by
  simp only [lineCount, List.count_append, List.count_eq_zero_of_not_mem h.single]
  omega

/-- A line that does not end the text is closed by a line feed. -/
theorem exists_next (h : LineCut before line after)
    (hl : before.count '\n' + 1 < lineCount (before ++ line ++ after)) :
    ∃ rest, after = '\n' :: rest := by
  have hafter : after ≠ [] := by
    rintro rfl
    rw [h.lineCount_eq] at hl
    simp at hl
  exact (closesLine_iff.mp h.closes).resolve_left hafter

/-- The line feed that closes a line opens the next one. -/
theorem next {rest : Text} (h : LineCut before line ('\n' :: rest)) :
    LineCut (before ++ line ++ ['\n']) (rest.takeWhile (· ≠ '\n'))
        (rest.dropWhile (· ≠ '\n')) ∧
      (before ++ line ++ ['\n']).count '\n' = before.count '\n' + 1 := by
  refine ⟨⟨opensLine_concat _, closesLine_dropWhile rest, not_mem_takeWhile rest⟩, ?_⟩
  simp [List.count_eq_zero_of_not_mem h.single]

end LineCut

/-! ## Every position and every line has a cut -/

/-- Every position lies in a line. -/
theorem exists_lineCut_at {t : Text} {pos : Nat} (hpos : pos ≤ t.length) :
    ∃ before line after k, t = before ++ line ++ after ∧ LineCut before line after ∧
      k ≤ line.length ∧ pos = before.length + k := by
  -- the line goes back to the last break before the position, and on to the next one behind it
  obtain ⟨a, l, hal, ha, hl⟩ := exists_open_line (t.take pos)
  refine ⟨a, l ++ (t.drop pos).takeWhile (· ≠ '\n'), (t.drop pos).dropWhile (· ≠ '\n'),
    l.length, ?_, ⟨ha, closesLine_dropWhile _, ?_⟩, by simp, ?_⟩
  · rw [List.append_assoc, List.append_assoc, List.takeWhile_append_dropWhile,
      ← List.append_assoc, ← hal, List.take_append_drop]
  · simpa [hl] using not_mem_takeWhile (t.drop pos)
  · rw [← List.length_append, ← hal, List.length_take, Nat.min_eq_left hpos]

/-- Every line that a text counts can be cut out. -/
theorem exists_lineCut_line {t : Text} {l : Nat} (hl : l < lineCount t) :
    ∃ before line after, t = before ++ line ++ after ∧ LineCut before line after ∧
      before.count '\n' = l := by
  induction l with
  | zero =>
    exact ⟨[], t.takeWhile (· ≠ '\n'), t.dropWhile (· ≠ '\n'),
      (List.takeWhile_append_dropWhile).symm,
      ⟨opensLine_nil, closesLine_dropWhile t, not_mem_takeWhile t⟩, rfl⟩
  | succ l ih =>
    obtain ⟨before, line, after, rfl, hcut, rfl⟩ := ih (by omega)
    -- a break follows the line before, or there would be fewer lines
    obtain ⟨rest, rfl⟩ := hcut.exists_next hl
    obtain ⟨hnext, hcount⟩ := hcut.next
    exact ⟨_, _, _, by simp, hnext, hcount⟩

/-! ## Starts of lines -/

/-- Later positions are on later lines. -/
theorem lineOf_mono (t : Text) {pos pos' : Nat} (hle : pos ≤ pos') :
    lineOf t pos ≤ lineOf t pos' :=
  (List.take_prefix_take_left hle).sublist.count_le '\n'

theorem lineOf_lt_lineCount (t : Text) (pos : Nat) : lineOf t pos < lineCount t := by
  have := (List.take_sublist pos t).count_le '\n'
  simp only [lineOf, lineCount]
  omega

/-- A line ends within the text. -/
theorem lineEnd_le_length {t : Text} {l : Nat} (hl : l < lineCount t) :
    lineEnd t l ≤ t.length := by
  obtain ⟨before, line, after, rfl, hcut, rfl⟩ := exists_lineCut_line hl
  rw [hcut.lineEnd]
  simp

theorem lineStart_le_length (t : Text) (l : Nat) : lineStart t l ≤ t.length := by
  induction t generalizing l with
  | nil => cases l <;> simp [lineStart]
  | cons c t ih =>
    cases l with
    | zero => simp [lineStart]
    | succ l =>
      have hsame := ih (l + 1)
      have hnext := ih l
      simp only [lineStart, List.length_cons]
      split <;> omega

/-- Behind the end of a line comes a line feed or nothing. -/
theorem closesLine_drop_lineEnd {t : Text} {l : Nat} (hl : l < lineCount t) :
    ClosesLine (t.drop (lineEnd t l)) := by
  obtain ⟨before, line, after, rfl, hcut, rfl⟩ := exists_lineCut_line hl
  rw [hcut.lineEnd, ← List.length_append, List.drop_left]
  exact hcut.closes

/-- A line that is not the last one is followed by the next one. -/
theorem lineStart_succ {t : Text} {l : Nat} (hl : l + 1 < lineCount t) :
    lineStart t (l + 1) = lineEnd t l + 1 := by
  obtain ⟨before, line, after, rfl, hcut, rfl⟩ := exists_lineCut_line (Nat.lt_of_succ_lt hl)
  obtain ⟨rest, rfl⟩ := hcut.exists_next hl
  have hbehind := lineStart_behind (before ++ line) rest
  rw [List.count_append, List.count_eq_zero_of_not_mem hcut.single, Nat.add_zero] at hbehind
  rw [hbehind, hcut.lineEnd, List.length_append]

/-- Lines that there are not start at the end of the text. -/
theorem lineStart_of_le {t : Text} {l : Nat} (hl : lineCount t ≤ l) :
    lineStart t l = t.length := by
  induction t generalizing l with
  | nil => cases l <;> simp [lineStart]
  | cons c t ih =>
    cases l with
    | zero => simp [lineCount] at hl
    | succ l =>
      by_cases hc : c = '\n'
      · subst hc
        -- only a break takes one of the lines that are asked for
        have hrest : lineCount t ≤ l := by simpa [lineCount] using hl
        simp [lineStart, ih hrest, Nat.add_comm]
      · have hrest : lineCount t ≤ l + 1 := by simpa [lineCount, hc] using hl
        simp [lineStart, hc, ih hrest, Nat.add_comm]

/-- A place in a line is on that line. -/
theorem lineOf_lineStart_add {t : Text} {l k : Nat} (hl : l < lineCount t)
    (hk : k ≤ (lineText t l).length) : lineOf t (lineStart t l + k) = l := by
  obtain ⟨before, line, after, rfl, hcut, rfl⟩ := exists_lineCut_line hl
  rw [hcut.lineText] at hk
  rw [hcut.lineStart, hcut.lineOf hk]

/-- A place in a line is in its column. -/
theorem columnOf_lineStart_add {t : Text} {l k : Nat} (hl : l < lineCount t)
    (hk : k ≤ (lineText t l).length) : columnOf t (lineStart t l + k) = k := by
  rw [columnOf, lineOf_lineStart_add hl hk, Nat.add_sub_cancel_left]

theorem lineOf_lineStart {t : Text} {l : Nat} (hl : l < lineCount t) :
    lineOf t (lineStart t l) = l :=
  lineOf_lineStart_add hl (Nat.zero_le _)

theorem columnOf_lineStart {t : Text} {l : Nat} (hl : l < lineCount t) :
    columnOf t (lineStart t l) = 0 :=
  columnOf_lineStart_add hl (Nat.zero_le _)

theorem lineOf_length (t : Text) : lineOf t t.length = lineCount t - 1 := by
  simp [lineOf, lineCount]

/-- A position is its column behind the start of its line. -/
theorem lineStart_add_columnOf {t : Text} {pos : Nat} (hpos : pos ≤ t.length) :
    lineStart t (lineOf t pos) + columnOf t pos = pos := by
  obtain ⟨before, line, after, k, rfl, hcut, hk, rfl⟩ := exists_lineCut_at hpos
  rw [hcut.lineOf hk, hcut.lineStart, hcut.columnOf hk]

/-- A position is not behind the end of its line. -/
theorem le_lineEnd_lineOf {t : Text} {pos : Nat} (hpos : pos ≤ t.length) :
    pos ≤ lineEnd t (lineOf t pos) := by
  obtain ⟨before, line, after, k, rfl, hcut, hk, rfl⟩ := exists_lineCut_at hpos
  rw [hcut.lineOf hk, hcut.lineEnd]
  omega

end Scratchpad
