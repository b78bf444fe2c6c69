import Scratchpad.Proofs.Insertion

/-!
# Marks of output lines

Every line of output should start with the marker, so that it can be told from input. Two
writers share this work. The block of an outcome repeats the marker behind every line break.
A print puts the marker in front of what it prints if that starts a line, and behind a line
feed inside of it stands just what was printed. So all lines of the output are marked exactly
if, behind each line feed inside a printed chunk, the chunks go on with the marker themselves.

* `lines_markLines` — the lines of a block;
* `outputOf` — what prints and a block add behind a text;
* `markedFrom_outputOf_iff` — its lines are marked, by induction on the chunks;
* `commit_marks_lines_iff` — the exact condition for the output of a commit;
* `commit_leaves_line_unmarked` — a printed text with a line feed inside.
-/

namespace Scratchpad

/-! ## Lines that start with the marker -/

theorem not_mem_marker : '\n' ∉ marker := by decide

/-- A line feed behind a text without one stands in what follows that text. -/
theorem exists_of_append_eq {m c a b : Text} (hm : '\n' ∉ m) (h : m ++ c = a ++ '\n' :: b) :
    ∃ s, a = m ++ s ∧ c = s ++ '\n' :: b := by
  rcases List.append_eq_append_iff.mp h with ⟨s, ha, hc⟩ | ⟨s, hs, hb⟩
  · exact ⟨s, ha, hc⟩
  · cases s with
    | nil => exact ⟨[], by simpa using hs.symm, by simpa using hb.symm⟩
    | cons d s =>
      obtain ⟨rfl, -⟩ : '\n' = d ∧ b = s ++ c := by simpa using hb
      exact absurd (by simp [hs]) hm

/-- Whether a line is marked is settled by the line alone. -/
theorem marker_prefix_line_iff {x y : Text} : marker <+: x ++ '\n' :: y ↔ marker <+: x := by
  constructor
  · rintro ⟨r, hr⟩
    obtain ⟨s, hx, -⟩ := exists_of_append_eq not_mem_marker hr
    exact ⟨s, hx.symm⟩
  · intro h
    exact h.trans (List.prefix_append _ _)

/-- A line that is ended by a line feed, with what stands before and behind it. -/
theorem exists_of_mem_dropLast_lines {t l : Text} (h : l ∈ (lines t).dropLast) :
    ∃ a b, t = a ++ (l ++ '\n' :: b) ∧ OpensLine a := by
  obtain ⟨i, hi, hl⟩ := List.mem_iff_getElem.mp h
  rw [List.length_dropLast, length_lines] at hi
  have hlast : i + 1 < lineCount t := by omega
  have htext : lineText t i = l := by
    rw [← hl, lineText, List.getElem_dropLast, List.getElem?_eq_getElem, Option.getD_some]
  obtain ⟨before, line, after, rfl, hcut, rfl⟩ := exists_lineCut_line (Nat.lt_of_succ_lt hlast)
  obtain ⟨rest, rfl⟩ := hcut.exists_next hlast
  rw [hcut.lineText] at htext
  exact ⟨before, rest, by simp [htext], hcut.opens⟩

theorem OpensLine.mem {t : Text} (h : OpensLine t) (hne : t ≠ []) : '\n' ∈ t := by
  obtain ⟨a, rfl⟩ := (opensLine_iff.mp h).resolve_left hne
  simp

/-- Where a line starts in `t`, if `before` precedes it, the marker follows or nothing. -/
def MarkedFrom (before t : Text) : Prop :=
  ∀ a b, t = a ++ b → OpensLine (before ++ a) → b ≠ [] → marker <+: b

/-- A text of whole lines is marked if all of its lines are. -/
theorem markedFrom_iff {before t : Text} (hb : OpensLine before) (ht : OpensLine t) :
    MarkedFrom before t ↔ ∀ l ∈ (lines t).dropLast, marker <+: l := by
  constructor
  · intro h l hl
    obtain ⟨a, b, rfl, ha⟩ := exists_of_mem_dropLast_lines hl
    have hopens : OpensLine (before ++ a) := opensLine_append.mpr ⟨ha, fun _ => hb⟩
    exact marker_prefix_line_iff.mp (h a _ rfl hopens (by simp))
  · rintro h a b rfl hopens hne
    -- the rest is a line and what follows it, since the text ends behind a break
    obtain ⟨l, r, rfl, hl⟩ := List.eq_append_cons_of_mem ((opensLine_append.mp ht).1.mem hne)
    obtain ⟨ls, -, hls⟩ : ∃ ls : List Text, ls.length = a.count '\n' ∧
        ∀ u, lines (a ++ u) = ls ++ lines u := by
      by_cases ha : a = []
      · exact ⟨[], by simp [ha], by simp [ha]⟩
      · exact (opensLine_append.mp hopens).1.lines_append
    have hmem : l ∈ (lines (a ++ (l ++ '\n' :: r))).dropLast := by
      rw [hls, lines_append, lines_of_single hl, List.singleton_append,
        List.dropLast_append_of_ne_nil (by simp), List.dropLast_cons_of_ne_nil (lines_ne_nil r)]
      simp
    exact marker_prefix_line_iff.mpr (h l hmem)

/-- What is marked in two parts: a line of the first one may go on in the second one. -/
theorem markedFrom_append {before t u : Text} :
    MarkedFrom before (t ++ u) ↔
      (∀ a b, t = a ++ b → OpensLine (before ++ a) → b ≠ [] → marker <+: b ++ u) ∧
        MarkedFrom (before ++ t) u := by
  constructor
  · intro h
    refine ⟨?_, ?_⟩
    · rintro a b rfl hopens hne
      exact h a (b ++ u) (List.append_assoc ..) hopens (by simp [hne])
    · rintro a b rfl hopens hne
      exact h (t ++ a) b (List.append_assoc ..).symm (by simpa using hopens) hne
  · rintro ⟨ht, hu⟩ a b heq hopens hne
    rcases List.append_eq_append_iff.mp heq with ⟨s, rfl, rfl⟩ | ⟨s, rfl, rfl⟩
    · exact hu s b rfl (by simpa using hopens) hne
    · cases s with
      | nil => exact hu [] u rfl (by simpa using hopens) (by simpa using hne)
      | cons c s => exact ht a (c :: s) rfl hopens (by simp)

/-! ## The block of an outcome -/

theorem lines_append_markBreaks (p t : Text) (hp : '\n' ∉ p) :
    ∃ l ls, lines t = l :: ls ∧
      lines (p ++ markBreaks marker t) = (p ++ l) :: ls.map (marker ++ ·) := by
  fun_induction markBreaks marker t generalizing p with
  -- the start of the line may be any text: a break ends it, any other character extends it
  | case1 => exact ⟨[], [], rfl, by simp [lines_of_single hp]⟩
  | case2 rest ih =>
    obtain ⟨l, ls, hl, hls⟩ := ih marker not_mem_marker
    -- the carriage return belongs to the line that the line feed ends
    have hp' : '\n' ∉ p ++ ['\r'] := by simpa using hp
    refine ⟨['\r'], l :: ls, by simp [lines, hl], ?_⟩
    have hsplit := lines_append (p ++ ['\r']) (marker ++ markBreaks marker rest)
    rw [lines_of_single hp', hls] at hsplit
    simpa using hsplit
  | case3 rest ih =>
    obtain ⟨l, ls, hl, hls⟩ := ih marker not_mem_marker
    refine ⟨[], l :: ls, by simp [lines, hl], ?_⟩
    rw [lines_append, lines_of_single hp, hls]
    simp
  | case4 c rest hpair hbreak ih =>
    have hc : '\n' ≠ c := fun h => hbreak h.symm
    have hp' : '\n' ∉ p ++ [c] := by simp [hp, hc]
    obtain ⟨l, ls, hl, hls⟩ := ih (p ++ [c]) hp'
    refine ⟨c :: l, ls, by simp [lines, hl, hc.symm], ?_⟩
    simpa using hls

/-- The lines of a block are those of its text behind the marker. -/
theorem lines_markLines (t : Text) : lines (markLines marker t) = (lines t).map (marker ++ ·) := by
  obtain ⟨l, ls, hl, hls⟩ := lines_append_markBreaks marker t not_mem_marker
  rw [markLines, hls, hl, List.map_cons]

/-- What ends a line that is still open. -/
def closing (before : Text) : Text := if OpensLine before then [] else ['\n']

/-- A block on lines of its own. -/
def blockLines (block? : Option Text) : Text := (block?.map (· ++ ['\n'])).getD []

theorem opensLine_blockLines (block? : Option Text) : OpensLine (blockLines block?) := by
  cases block? with
  | none => exact opensLine_nil
  | some t => exact opensLine_concat t

/-- A block starts each of its lines with the marker. -/
theorem markedFrom_blockLines {before : Text} {block? : Option Text} (hb : OpensLine before)
    (hblock : ∀ t ∈ block?, ∃ m, t = markLines marker m) :
    MarkedFrom before (blockLines block?) := by
  rw [markedFrom_iff hb (opensLine_blockLines block?)]
  cases block? with
  | none => simp [blockLines, lines]
  | some t =>
    obtain ⟨m, rfl⟩ := hblock t rfl
    intro l hl
    have hlines : lines (blockLines (some (markLines marker m))) =
        (lines m).map (marker ++ ·) ++ [[]] := by
      rw [← lines_markLines]
      exact lines_append _ []
    rw [hlines, List.dropLast_concat] at hl
    obtain ⟨k, -, rfl⟩ := List.mem_map.mp hl
    exact List.prefix_append marker k

theorem outcomeBlock_marked {w : World} {edge indent : Int} {o : Outcome} {block? : Option Text}
    (h : w.outcomeBlock edge indent o = .ok block?) :
    ∀ t ∈ block?, ∃ m, t = markLines marker m := by
  intro t ht
  cases o with
  | value v =>
    simp only [World.outcomeBlock] at h
    cases hv : w.resultText edge indent v with
    | ok m =>
      rw [hv] at h
      cases h
      exact ⟨m, by simpa using ht.symm⟩
    | error e =>
      rw [hv] at h
      cases h
  | error m =>
    rw [outcomeBlock_error] at h
    cases h
    exact ⟨m, by simpa using ht.symm⟩
  | noValue | incomplete =>
    cases h
    cases ht

theorem shownOutcome_marked {o o' : Outcome} {block? : Option Text} {w w' : World}
    (h : shownOutcome o w = (.done (o', block?), w')) :
    ∀ t ∈ block?, ∃ m, t = markLines marker m := by
  rcases shownOutcome_cases o w with ⟨o₁, b?, hshow, hblock⟩ | ⟨e, e', -, hout, -⟩
  · rw [hshow] at h
    cases h
    exact outcomeBlock_marked hblock
  · rw [hout] at h
    cases h

/-! ## The whole output -/

/-- What printing chunks and writing a block add behind a text. -/
def outputOf (block? : Option Text) (before : Text) : List Text → Text
  | [] => closing before ++ blockLines block?
  | c :: rest =>
    Buffer.printed before c ++ outputOf block? (before ++ Buffer.printed before c) rest

theorem writeBlock_printAll_between (block? : Option Text) (chunks : List Text)
    (before after : Text) :
    ((Buffer.between before after).printAll chunks).writeBlock block? =
      Buffer.between (before ++ outputOf block? before chunks) after := by
  induction chunks generalizing before with
  | nil =>
    have hclose : (Buffer.between before after).closeLine =
        -- behind the last chunk an open line is closed, and then the block stands on its own lines
        Buffer.between (before ++ closing before) after := by
      unfold Buffer.closeLine closing
      by_cases hopens : OpensLine before
      · rw [if_neg (by rw [Buffer.col_between.mpr hopens]; simp), if_pos hopens, List.append_nil]
      · have hcol : (Buffer.between before after).col ≠ 0 := mt Buffer.col_between.mp hopens
        rw [if_pos (Nat.pos_of_ne_zero hcol), if_neg hopens, Buffer.newline_between]
    rw [Buffer.printAll_nil, Buffer.writeBlock, hclose]
    cases block? with
    | none => simp [Buffer.insertBlock, outputOf, blockLines]
    | some t =>
      simp only [Buffer.insertBlock, Buffer.insert_between, Buffer.newline_between, outputOf,
        blockLines, List.append_assoc, Option.map_some, Option.getD_some]
  | cons c rest ih =>
    rw [Buffer.printAll_cons, Buffer.printChunk_between, ih, outputOf, List.append_assoc]

theorem opensLine_outputOf (block? : Option Text) (chunks : List Text) (before : Text) :
    OpensLine (before ++ outputOf block? before chunks) := by
  induction chunks generalizing before with
  | nil =>
    rw [outputOf, ← List.append_assoc]
    refine opensLine_append.mpr ⟨opensLine_blockLines block?, fun _ => ?_⟩
    unfold closing
    split
    next h => simpa using h
    next => exact opensLine_concat before
  | cons c rest ih =>
    rw [outputOf, ← List.append_assoc]
    exact ih _

/-- Behind each line feed inside a chunk the chunks go on with the marker themselves. -/
def MarkThemselves : List Text → Prop
  | [] => True
  | c :: rest =>
    (∀ a b, c = a ++ '\n' :: b → b ≠ [] → marker <+: b ++ rest.flatten) ∧ MarkThemselves rest

/-- On a line that was begun the chunks are printed as they are up to their first line feed. -/
theorem outputOf_line (block? : Option Text) (chunks : List Text) {before : Text}
    (h : ¬ OpensLine before) :
    ∃ l r, outputOf block? before chunks = l ++ '\n' :: r ∧
      (chunks.flatten = l ∨ ∃ r', chunks.flatten = l ++ '\n' :: r') := by
  induction chunks generalizing before with
  | nil => exact ⟨[], blockLines block?, by simp [outputOf, closing, h], .inl rfl⟩
  | cons c rest ih =>
    have hprinted : Buffer.printed before c = c := if_neg h
    rw [outputOf, hprinted, List.flatten_cons]
    by_cases hc : '\n' ∈ c
    -- a chunk without a break leaves the line open for the next one
    · obtain ⟨l, r, rfl, -⟩ := List.eq_append_cons_of_mem hc
      exact ⟨l, _, List.append_assoc .., .inr ⟨_, List.append_assoc ..⟩⟩
    · have hopen : ¬ OpensLine (before ++ c) := by
        intro hopens
        obtain ⟨hend, hnil⟩ := opensLine_append.mp hopens
        by_cases hne : c = []
        · exact h (hnil hne)
        · exact hc (hend.mem hne)
      obtain ⟨l, r, heq, hflat⟩ := ih hopen
      refine ⟨c ++ l, r, by rw [heq, List.append_assoc], ?_⟩
      rcases hflat with hflat | ⟨r', hflat⟩
      · exact .inl (by rw [hflat])
      · exact .inr ⟨r', by rw [hflat, List.append_assoc]⟩

/-- Whether a line that a chunk begins is marked is settled by the chunks. -/
theorem marker_prefix_outputOf_iff (block? : Option Text) (chunks : List Text)
    {before b : Text} (hb : b ≠ []) :
    marker <+: b ++ outputOf block? (before ++ b) chunks ↔ marker <+: b ++ chunks.flatten := by
  by_cases hline : '\n' ∈ b
  · obtain ⟨l, r, rfl, -⟩ := List.eq_append_cons_of_mem hline
    simp only [List.append_assoc, List.cons_append, marker_prefix_line_iff]
  · have hopen : ¬ OpensLine (before ++ b) :=
      fun hopens => hline ((opensLine_append.mp hopens).1.mem hb)
    obtain ⟨l, r, heq, hflat⟩ := outputOf_line block? chunks hopen
    rw [heq, ← List.append_assoc, marker_prefix_line_iff]
    rcases hflat with hflat | ⟨r', hflat⟩
    · rw [hflat]
    · rw [hflat, ← List.append_assoc, marker_prefix_line_iff]

/-- A print puts the marker in front of a chunk where a line starts, and nothing elsewhere. -/
theorem exists_printed_eq (before c : Text) :
    ∃ m, Buffer.printed before c = m ++ c ∧ '\n' ∉ m ∧ (OpensLine before → m = marker) := by
  by_cases h : OpensLine before
  · exact ⟨marker, if_pos h, not_mem_marker, fun _ => rfl⟩
  · exact ⟨[], if_neg h, List.not_mem_nil, fun hopens => absurd hopens h⟩

/-- All lines of the output are marked exactly if the chunks see to it behind the line feeds
inside of them. -/
theorem markedFrom_outputOf_iff {block? : Option Text}
    (hblock : ∀ t ∈ block?, ∃ m, t = markLines marker m) (chunks : List Text) (before : Text) :
    MarkedFrom before (outputOf block? before chunks) ↔ MarkThemselves chunks := by
  induction chunks generalizing before with
  | nil =>
    refine iff_of_true ?_ trivial
    rw [outputOf, closing]
    by_cases hopens : OpensLine before
    · rw [if_pos hopens, List.nil_append]
      exact markedFrom_blockLines hopens hblock
    · rw [if_neg hopens, markedFrom_append]
      refine ⟨?_, markedFrom_blockLines (opensLine_concat before) hblock⟩
      intro a b heq hstart hne
      rcases List.append_eq_singleton_iff.mp heq.symm with ⟨rfl, -⟩ | ⟨-, rfl⟩
      · exact absurd (by simpa using hstart) hopens
      · exact absurd rfl hne
  | cons c rest ih =>
    obtain ⟨m, hprinted, hm, hmarker⟩ := exists_printed_eq before c
    rw [outputOf, markedFrom_append, ih, MarkThemselves, hprinted]
    refine and_congr_left fun _ => ⟨?_, ?_⟩
    · rintro h a b rfl hne
      have hopens : OpensLine (before ++ (m ++ a ++ ['\n'])) := by
        rw [← List.append_assoc]
        exact opensLine_concat _
      have hmarked := h (m ++ a ++ ['\n']) b (by simp) hopens hne
      have hsplit : before ++ (m ++ (a ++ '\n' :: b)) = before ++ m ++ a ++ ['\n'] ++ b := by simp
      rw [hsplit] at hmarked
      exact (marker_prefix_outputOf_iff block? rest hne).mp hmarked
    · intro h a b heq hopens hne
      rcases opensLine_iff.mp (opensLine_append.mp hopens).1 with rfl | ⟨a, rfl⟩
      · -- the chunk starts the line itself
        have hb : b = marker ++ c := by
          rw [← hmarker (by simpa using hopens), heq, List.nil_append]
        rw [hb, List.append_assoc]
        exact List.prefix_append _ _
      · rw [List.append_assoc, List.singleton_append] at heq
        obtain ⟨s, rfl, rfl⟩ := exists_of_append_eq hm heq
        have hsplit : before ++ (m ++ (s ++ '\n' :: b)) = before ++ m ++ s ++ ['\n'] ++ b := by simp
        rw [hsplit]
        exact (marker_prefix_outputOf_iff block? rest hne).mpr (h s b rfl hne)

/-! ## The output of a commit -/

/-- Chunks without a line feed inside of them leave nothing to mark. -/
theorem markThemselves_of_single {chunks : List Text} (h : ∀ c ∈ chunks, '\n' ∉ c.dropLast) :
    MarkThemselves chunks := by
  induction chunks with
  | nil => trivial
  | cons c rest ih =>
    refine ⟨?_, ih fun d hd => h d (List.mem_cons_of_mem _ hd)⟩
    rintro a b rfl hne
    have hnone := h _ List.mem_cons_self
    rw [List.dropLast_append_of_ne_nil (by simp), List.dropLast_cons_of_ne_nil hne] at hnone
    simp at hnone

/-- The output of a commit is inserted below the evaluated text, and its lines all start with
the marker exactly if the printed chunks go on with it behind each line feed inside of them.
The empty line that is left for the next input is no line of the output. -/
theorem commit_marks_lines_iff {w w' : World} {chunks : List Text}
    (hprints : w.evaluated.buffer = w.opened.buffer.printAll chunks)
    (h : commit w = (.done true, w')) :
    ∃ out, OpensLine out ∧
      w'.buffer =
        { text := w.buffer.text.take (lineEnd w.buffer.text w.buffer.target.last) ++
            '\n' :: (out ++ w.buffer.text.drop (lineEnd w.buffer.text w.buffer.target.last))
          cursor := lineEnd w.buffer.text w.buffer.target.last + 1 + out.length } ∧
      ((∀ l ∈ (lines out).dropLast, marker <+: l) ↔ MarkThemselves chunks) := by
  have hlast := w.buffer.target_last_lt
  have hle := lineEnd_le_length hlast
  obtain ⟨o, o', block?, notes, hshow, rfl⟩ := commit_shown_inv h
  -- the output starts on a line of its own, so that its lines are lines of the text
  have hopens := opensLine_concat (w.buffer.text.take (lineEnd w.buffer.text w.buffer.target.last))
  have hwhole := opensLine_outputOf block? chunks
    (w.buffer.text.take (lineEnd w.buffer.text w.buffer.target.last) ++ ['\n'])
  have hout := (opensLine_append.mp hwhole).1
  refine ⟨_, hout, ?_, ?_⟩
  · rw [World.concluded_buffer, hprints, World.opened_buffer, Buffer.openBelow_eq hlast,
      writeBlock_printAll_between]
    simp [Buffer.between, hle, Nat.add_assoc, Nat.add_comm 1]
  · rw [← markedFrom_iff hopens hout]
    exact markedFrom_outputOf_iff (shownOutcome_marked hshow) chunks _

/-- A print of one line and a value: both lines below the input are marked. -/
theorem commit_marks_lines_sample :
    printSample.evaluated.buffer = printSample.opened.buffer.printAll ["1\ta".toList] ∧
    MarkThemselves ["1\ta".toList] ∧
    ∃ w', commit printSample = (.done true, w') ∧
      ∃ out, OpensLine out ∧
        w'.buffer =
          { text := printSample.buffer.text.take
                (lineEnd printSample.buffer.text printSample.buffer.target.last) ++
              '\n' :: (out ++ printSample.buffer.text.drop
                (lineEnd printSample.buffer.text printSample.buffer.target.last))
            cursor := lineEnd printSample.buffer.text printSample.buffer.target.last + 1 +
              out.length } ∧
        ((∀ l ∈ (lines out).dropLast, marker <+: l) ↔ MarkThemselves ["1\ta".toList]) := by
  have hleft : printSample.evaluated.buffer = printedSample := by decide +kernel
  have hprinted : printSample.opened.buffer.printAll ["1\ta".toList] = printedSample := by
    decide +kernel
  have hmark : MarkThemselves ["1\ta".toList] := by
    refine markThemselves_of_single fun c hc => ?_
    obtain rfl := List.mem_singleton.mp hc
    decide
  obtain ⟨w', hcommit⟩ := exists_of_saysYes (x := commit) (w := printSample) (by decide +kernel)
  have hprints := hleft.trans hprinted.symm
  exact ⟨hprints, hmark, w', hcommit, commit_marks_lines_iff hprints hcommit⟩

/-- A session in which two lines are printed at once. -/
def twoLinesSample : World :=
  { World.start {} {} none #[] with buffer := { text := "print('a\\nb')".toList, cursor := 13 } }

/-- The second of two lines that are printed at once is left without the marker. -/
theorem commit_leaves_line_unmarked :
    ∃ w' out, commit twoLinesSample = (.done true, w') ∧
      twoLinesSample.evaluated.buffer = twoLinesSample.opened.buffer.printAll ["a\nb\n".toList] ∧
      w'.buffer.text = "print('a\\nb')".toList ++ '\n' :: out ∧
      "b".toList ∈ (lines out).dropLast ∧ ¬ marker <+: "b".toList := by
  obtain ⟨w', hcommit⟩ := exists_of_saysYes (x := commit) (w := twoLinesSample) (by decide +kernel)
  have htext : (commit twoLinesSample).2.buffer.text =
      "print('a\\nb')".toList ++ '\n' :: "--> a\nb\n".toList := by decide +kernel
  rw [hcommit] at htext
  have hleft : twoLinesSample.evaluated.buffer =
      { text := "print('a\\nb')\n--> a\nb\n".toList, cursor := 22 } := by decide +kernel
  have hprinted : twoLinesSample.opened.buffer.printAll ["a\nb\n".toList] =
      { text := "print('a\\nb')\n--> a\nb\n".toList, cursor := 22 } := by decide +kernel
  exact ⟨w', "--> a\nb\n".toList, hcommit, hleft.trans hprinted.symm, htext, by decide, by decide⟩

end Scratchpad
