import Scratchpad.Proofs.BelowSelection
import Scratchpad.Script.Replay

/-!
# Replays

A replay types each snippet at the end of the buffer and commits it: a snippet of several
lines as a selection, any other as the line that it is, and as a selection after all if it
does not compile. Whichever way a snippet goes, what is evaluated is the snippet, and what
comes of it is inserted right behind it.

The invariant is that between two snippets the buffer is a text that opens a line with the
cursor behind it, `Buffer.between t []`, and that nothing is selected.

* `typed_target` — what a typed snippet evaluates;
* `replaySnippet_done` — one snippet;
* `replayed_between` — any number of snippets, by induction;
* `replay_verbatim` — the whole replay, its transcript and its log.
-/

namespace Scratchpad

/-! ## The end of a text -/

theorem lineStart_of_opensLine {t : Text} (h : OpensLine t) (s : Text) :
    lineStart (t ++ s) (lineOf (t ++ s) t.length) = t.length := by
  have hcut : LineCut t (s.takeWhile (· ≠ '\n')) (s.dropWhile (· ≠ '\n')) :=
    ⟨h, closesLine_dropWhile s, not_mem_takeWhile s⟩
  have hline := hcut.lineOf (Nat.zero_le _)
  have hstart := hcut.lineStart
  rw [List.append_assoc, List.takeWhile_append_dropWhile] at hline hstart
  rw [Nat.add_zero] at hline
  rw [hline, hstart]

/-- The last line ends with the text. -/
theorem lineEnd_lineOf_length (t : Text) : lineEnd t (lineOf t t.length) = t.length := by
  have hle := lineEnd_le_length (lineOf_lt_lineCount t t.length)
  have hge := le_lineEnd_lineOf (Nat.le_refl t.length)
  omega

/-- A selection up to the end of the text touches everything from its first line on. -/
theorem touchedLines_length {t : Text} {start : Nat}
    (hstart : lineStart t (lineOf t start) = start) :
    Buffer.touchedLines t start t.length = (start, t.length) := by
  by_cases hlines : lineOf t start < lineOf t t.length
  -- the end of the text is the start of its last line, or the last line is touched, too
  · have hend : lineStart t (lastTouched t t.length + 1) = t.length := by
      have hcolumn := lineStart_add_columnOf (Nat.le_refl t.length)
      unfold lastTouched
      split
      next hc =>
        apply lineStart_of_le
        rw [lineOf_length]
        omega
      next hc =>
        have hprev : lineOf t t.length - 1 + 1 = lineOf t t.length := by omega
        rw [hprev]
        omega
    rw [touchedLines_eq hlines (Nat.le_refl _), hstart, hend]
  · simp [Buffer.touchedLines, hlines]

namespace Buffer

/-! ## A typed snippet -/

/-- A buffer in which everything behind `before` is selected. -/
def selecting (before s : Text) : Buffer :=
  { text := before ++ s, cursor := (before ++ s).length, anchor := some before.length }

theorem select_between (before s : Text) :
    (between (before ++ s) []).select before.length (before ++ s).length =
      selecting before s := by
  -- moving the cursor to where it stands is no change
  have hput : ∀ (a? : Option Nat) (c d : Nat),
      ({ text := before ++ s, cursor := c, anchor := a? } : Buffer).put (before ++ s) d =
        { text := before ++ s, cursor := d, anchor := a? } := by
    intro a? c d
    rw [put_eq]
    by_cases hd : d = c
    · simp [hd]
    · simp [hd]
  have hle : before.length ≤ (before ++ s).length := by simp
  simp only [select, moveTo, deselect, between, selecting, List.append_nil, Int.toNat_natCast,
    Nat.min_eq_left hle, Nat.min_self, hput]

/-- A snippet typed at the cursor, and selected if it has several lines. -/
def typed (b : Buffer) (s : Text) : Buffer :=
  if s.contains '\n' then (b.insert s).select b.cursor (b.insert s).cursor else b.insert s

theorem typed_between (before s : Text) :
    (between before []).typed s =
      if '\n' ∈ s then selecting before s else between (before ++ s) [] := by
  have hcursor : ((between before []).insert s).cursor = (before ++ s).length := by
    rw [insert_between]
    simp [between]
  by_cases hs : '\n' ∈ s
  · have hselect := select_between before s
    rw [if_pos hs, typed, if_pos (by simpa using hs), hcursor, insert_between]
    exact hselect
  · rw [if_neg hs, typed, if_neg (by simpa using hs), insert_between]

/-- Selecting a text at the end of the buffer evaluates that text. -/
theorem selecting_target {before s : Text} (hb : OpensLine before) (hs : s ≠ []) :
    (selecting before s).target =
      { source := s, last := lineOf (before ++ s) (before ++ s).length, selected := true } := by
  have hlength : before.length < (before ++ s).length := by
    have := List.length_pos_iff.mpr hs
    rw [List.length_append]
    omega
  have hselection : (selecting before s).selection = (before.length, (before ++ s).length) := by
    simp only [selection, selecting]
    rw [Nat.min_eq_left hlength.le, Nat.max_eq_right hlength.le]
  have hne : (selecting before s).selection.1 ≠ (selecting before s).selection.2 := by
    rw [hselection]
    exact Nat.ne_of_lt hlength
  -- the selection begins with a line and ends with the text, so that it is not widened
  have hspan : (selecting before s).span = (before.length, (before ++ s).length) := by
    rw [span, if_neg hne, hselection]
    exact touchedLines_length (lineStart_of_opensLine hb s)
  rw [target_of_selected hne, hspan]
  simp only [selecting, slice, List.take_length, List.drop_left]

/-- A line at the end of the buffer evaluates that line. -/
theorem line_target {before s : Text} (hb : OpensLine before) (hs : '\n' ∉ s) :
    (between (before ++ s) []).target =
      { source := s, last := lineOf (before ++ s) (before ++ s).length, selected := false } := by
  have hat : (between (before ++ s) []).At before s [] s.length :=
    ⟨⟨hb, Or.inl rfl, hs⟩, by simp [between], by simp [between], Nat.le_refl _⟩
  rw [target_of_empty rfl, hat.currentLine_eq]
  simp [line, between]

/-- What is evaluated of a typed snippet is the snippet, and its output goes to the end. -/
theorem typed_target {before : Text} (hb : OpensLine before) (s : Text) :
    ((between before []).typed s).target =
      { source := s
        last := lineOf (before ++ s) (before ++ s).length
        selected := decide ('\n' ∈ s) } := by
  rw [typed_between]
  by_cases hs : '\n' ∈ s
  · rw [if_pos hs, selecting_target hb (List.ne_nil_of_mem hs), decide_eq_true hs]
  · rw [if_neg hs, line_target hb hs, decide_eq_false hs]

theorem typed_text (before s : Text) :
    ((between before []).typed s).text = before ++ s := by
  rw [typed_between]
  split
  · rfl
  · simp [between]

/-- Below its last line a text is continued at its end. -/
theorem InsertedBelow.at_end {b b' : Buffer}
    (h : b.InsertedBelow (lineOf b.text b.text.length) b') :
    ∃ out, OpensLine out ∧ b' = between (b.text ++ '\n' :: out) [] := by
  obtain ⟨out, hout, heq⟩ := (insertedBelow_iff (lineOf_lt_lineCount ..)).mp h
  rw [lineEnd_lineOf_length, List.take_length, List.drop_length] at heq
  exact ⟨out, hout, by simpa using heq⟩

end Buffer

/-! ## One snippet -/

section Answers

variable {w w' : World} {answer : Bool}

/-- A commit that answers no leaves everything alone but for a note. -/
theorem commit_false_inv (h : commit w = (.done false, w')) :
    (∃ f, compile w.buffer.target.source = .error f) ∧ w.buffer.target.selected = false ∧
      w' = { w with notes := w'.notes } := by
  have hruns : ¬ ((∃ code, compile w.buffer.target.source = .ok code) ∨
      -- a commit that runs something answers yes
      w.buffer.target.selected = true) := by
    intro hruns
    rw [commit_eq hruns] at h
    obtain ⟨_, _, -, hpure⟩ := Run.bind_done_inv h
    cases hpure
  have hsel : w.buffer.target.selected = false := by
    by_contra hsel
    exact hruns (Or.inr (by simpa using hsel))
  cases hcode : compile w.buffer.target.source with
  | ok code => exact absurd (Or.inl ⟨code, hcode⟩) hruns
  | error f =>
    rw [commit_continued hcode hsel] at h
    cases h
    exact ⟨⟨f, rfl⟩, hsel, rfl⟩

/-- A commit of a selection never answers no. -/
theorem commit_selected_answer (hsel : w.buffer.target.selected = true)
    (h : commit w = (.done answer, w')) : answer = true := by
  cases answer with
  | true => rfl
  | false =>
    rw [(commit_false_inv h).2.1] at hsel
    cases hsel

end Answers

namespace World

/-- The world in which a replay commits a snippet. -/
def typed (w : World) (s : Text) : World := { w with buffer := w.buffer.typed s }

/-- From one world to another just these sources are committed, in order; in between the
buffer is edited and notes are made. -/
inductive Commits : World → List Text → World → Prop where
  | stop (w : World) : Commits w [] w
  | edit {w w' : World} {sources : List Text} (buffer : Buffer) (notes : List Note)
      (rest : Commits { w with buffer, notes } sources w') : Commits w sources w'
  | commit {w u w' : World} {sources : List Text} (answer : commit w = (.done true, u))
      (rest : Commits u sources w') : Commits w (w.buffer.target.source :: sources) w'

theorem Commits.append {w u w' : World} {xs ys : List Text} (h : Commits w xs u)
    (h' : Commits u ys w') : Commits w (xs ++ ys) w' := by
  induction h with
  | stop w => exact h'
  | edit buffer notes rest ih => exact .edit buffer notes (ih h')
  | commit answer rest ih => exact .commit answer (ih h')

end World

/-- A commit at the end of the buffer continues the buffer behind what it evaluated. -/
theorem commit_at_end {w w' : World} (before : Text) {s : Text} {selected : Bool}
    (htext : w.buffer.text = before ++ s)
    (htarget : w.buffer.target =
      { source := s, last := lineOf (before ++ s) (before ++ s).length, selected })
    (hprints : w.PrintsOnly) (h : commit w = (.done true, w')) :
    (∃ out, OpensLine out ∧ w'.buffer = Buffer.between (before ++ (s ++ '\n' :: out)) []) ∧
      w'.history = w.evaluated.history.record s := by
  have hinserted := commit_insertedBelow hprints h
  obtain ⟨-, -, hhistory⟩ := commit_true_inv h
  rw [htarget] at hhistory
  refine ⟨?_, hhistory⟩
  rw [htarget, ← htext] at hinserted
  obtain ⟨out, hout, hbuffer⟩ := hinserted.at_end
  refine ⟨out, hout, ?_⟩
  rw [hbuffer, htext, List.append_assoc]

/-- The note that a replay makes of a snippet. -/
def World.noteReplayed (w : World) : World :=
  w.note replaySource s!"replayed snippet {w.history.entries.length}".toList

/-- A snippet is replayed by typing and committing it; if it is left alone, it is selected
and committed again. -/
theorem replaySnippet_eq (w : World) (s : Text) :
    replaySnippet s w = (commit >>= fun answer => do
      if !answer then
        Run.update fun u => { u with buffer := u.buffer.select w.buffer.cursor u.buffer.cursor }
        let _ ← commit
      Run.update World.noteReplayed) (w.typed s) := by
  simp only [replaySnippet, Run.world_bind, Run.update_bind]
  by_cases hs : s.contains '\n'
  · simp only [hs, if_true, Run.update_bind, World.typed, Buffer.typed]
    rfl
  · simp only [hs, World.typed, Buffer.typed]
    rfl

/-- A replayed snippet is committed where it is typed; if that is left alone, it is
selected and committed again. -/
theorem replaySnippet_inv {w w' : World} {s : Text} (h : replaySnippet s w = (.done (), w')) :
    ∃ v, w' = v.noteReplayed ∧
      (commit (w.typed s) = (.done true, v) ∨
        ∃ u answer, commit (w.typed s) = (.done false, u) ∧
          commit { u with buffer := u.buffer.select w.buffer.cursor u.buffer.cursor } =
            (.done answer, v)) := by
  rw [replaySnippet_eq] at h
  obtain ⟨answer, u, hcommit, hrest⟩ := Run.bind_done_inv h
  cases answer with
  | true =>
    cases hrest
    exact ⟨u, rfl, Or.inl hcommit⟩
  | false =>
    simp only [Bool.not_false, if_true, Run.update_bind] at hrest
    obtain ⟨answer', v, hagain, hnote⟩ := Run.bind_done_inv hrest
    cases hnote
    exact ⟨v, rfl, Or.inr ⟨u, answer', hcommit, hagain⟩⟩

/-- The empty text compiles. -/
theorem compile_nil : ∃ code, compile [] = .ok code := exists_ok (by decide +kernel)

theorem evaluated_of_error {w : World} {f : SourceFault}
    (h : compile w.buffer.target.source = .error f) : w.evaluated = w.opened := by
  simp only [World.evaluated, h]

/-- A snippet was committed once and has continued the buffer, which ends in an empty line
again. -/
structure World.Replayed (w : World) (before s : Text) (w' : World) : Prop where
  buffer : ∃ out, OpensLine out ∧ w'.buffer = Buffer.between (before ++ (s ++ '\n' :: out)) []
  history : w'.history = (w.typed s).evaluated.history.record s
  commits : w.Commits [s] w'

section Snippet

variable {w w' u v : World} {before s : Text}

/-- A typed snippet that is committed at once is replayed. -/
theorem replayed_of_commit (hw : w.buffer = Buffer.between before []) (hb : OpensLine before)
    (hprints : (w.typed s).PrintsOnly) (hcommit : commit (w.typed s) = (.done true, v)) :
    w.Replayed before s v.noteReplayed := by
  have htyped : (w.typed s).buffer = (Buffer.between before []).typed s := by
    rw [World.typed, hw]
  -- the snippet is typed at the end of the transcript
  have htext : (w.typed s).buffer.text = before ++ s := by
    rw [htyped, Buffer.typed_text]
  have htarget := Buffer.typed_target hb s
  rw [← htyped] at htarget
  obtain ⟨hbuffer, hhistory⟩ := commit_at_end _ htext htarget hprints hcommit
  refine ⟨hbuffer, hhistory, ?_⟩
  have hcommits : (w.typed s).Commits [(w.typed s).buffer.target.source] v :=
    .commit hcommit (.stop v)
  rw [htarget] at hcommits
  exact .edit _ w.notes (hcommits.append (.edit v.buffer _ (.stop _)))

/-- A typed snippet that is left alone is replayed by selecting it: it is a line that does not
compile, so it is not the empty one. -/
theorem replayed_of_retry {answer : Bool} (hw : w.buffer = Buffer.between before [])
    (hb : OpensLine before) (hcommit : commit (w.typed s) = (.done false, u))
    (hagain : commit { u with buffer := u.buffer.select w.buffer.cursor u.buffer.cursor } =
      (.done answer, v)) : w.Replayed before s v.noteReplayed := by
  have htyped : (w.typed s).buffer = (Buffer.between before []).typed s := by
    rw [World.typed, hw]
  have htarget := Buffer.typed_target hb s
  rw [← htyped] at htarget
  -- the first commit answered no: one line that does not compile, and nothing was done
  obtain ⟨⟨f, hf⟩, hline, hu⟩ := commit_false_inv hcommit
  have hopened := evaluated_of_error hf
  rw [htarget] at hf hline
  have hs : '\n' ∉ s := of_decide_eq_false hline
  have hne : s ≠ [] := by
    rintro rfl
    obtain ⟨code, hcode⟩ := compile_nil
    rw [hcode] at hf
    cases hf
  -- the second one commits the same text, selected
  have hselect : u.buffer.select w.buffer.cursor u.buffer.cursor =
      Buffer.selecting before s := by
    rw [hu]
    simp only [htyped]
    rw [hw, Buffer.typed_between, if_neg hs]
    simpa [Buffer.between] using Buffer.select_between before s
  rw [hselect] at hagain
  have htarget' := Buffer.selecting_target hb hne
  have hopened' := evaluated_of_error
    (w := { u with buffer := Buffer.selecting before s }) (by rw [htarget']; exact hf)
  obtain rfl := commit_selected_answer (by rw [htarget']) hagain
  obtain ⟨hbuffer, hhistory⟩ := commit_at_end before rfl htarget'
    ⟨[], by rw [hopened']; rfl⟩ hagain
  refine ⟨hbuffer, ?_, ?_⟩
  · rw [World.noteReplayed, World.note_history, hhistory, hopened', hopened, hu]
    rfl
  · have hcommits : World.Commits { u with buffer := Buffer.selecting before s }
        [(Buffer.selecting before s).target.source] v := .commit hagain (.stop v)
    rw [htarget', hu] at hcommits
    exact .edit _ u.notes (hcommits.append (.edit v.buffer _ (.stop _)))

/-- A replayed snippet is committed once and continues the buffer, whichever way it is
committed. -/
theorem replaySnippet_done (hw : w.buffer = Buffer.between before []) (hb : OpensLine before)
    (hprints : (w.typed s).PrintsOnly) (h : replaySnippet s w = (.done (), w')) :
    w.Replayed before s w' := by
  obtain ⟨v, rfl, hcommit | ⟨u, answer, hcommit, hagain⟩⟩ := replaySnippet_inv h
  · exact replayed_of_commit hw hb hprints hcommit
  · exact replayed_of_retry hw hb hcommit hagain

end Snippet

/-! ## Any number of snippets -/

namespace World

/-- Something holds of every world in which a replay commits a snippet. -/
def Throughout (P : World → Prop) (w : World) : List Text → Prop
  | [] => True
  | s :: rest => P (w.typed s) ∧ Throughout P (replaySnippet s w).2 rest

/-- The evaluated snippet leaves the log alone. -/
def KeepsLog (w : World) : Prop := w.evaluated.history.entries = w.history.entries

end World

namespace Run

variable {α : Type} {f : α → Run Unit} {w w' : World} {xs ys : List α}

theorem forEach_cons_inv {x : α} (h : forEach (x :: xs) f w = (.done (), w')) :
    ∃ u, f x w = (.done (), u) ∧ forEach xs f u = (.done (), w') := by
  obtain ⟨_, u, hx, hxs⟩ := bind_done_inv h
  exact ⟨u, hx, hxs⟩

theorem forEach_append_inv (h : forEach (xs ++ ys) f w = (.done (), w')) :
    ∃ u, forEach xs f w = (.done (), u) ∧ forEach ys f u = (.done (), w') := by
  induction xs generalizing w with
  | nil => exact ⟨w, rfl, h⟩
  | cons x xs ih =>
    obtain ⟨v, hx, hrest⟩ := forEach_cons_inv h
    obtain ⟨u, hxs, hys⟩ := ih hrest
    exact ⟨u, (bind_done hx).trans hxs, hys⟩

end Run

open World

variable {w w' : World} {before : Text}

theorem throughout_append {P : World → Prop} {xs ys : List Text}
    (h : w.Throughout P (xs ++ ys)) (hdone : Run.forEach xs replaySnippet w = (.done (), w')) :
    w.Throughout P xs ∧ w'.Throughout P ys := by
  induction xs generalizing w with
  | nil =>
    cases hdone
    exact ⟨trivial, h⟩
  | cons s xs ih =>
    obtain ⟨u, hs, hxs⟩ := Run.forEach_cons_inv hdone
    obtain ⟨hfirst, hrest⟩ := h
    rw [hs] at hrest
    obtain ⟨hmore, hys⟩ := ih hrest hxs
    exact ⟨⟨hfirst, by rw [hs]; exact hmore⟩, hys⟩

/-- A text as each snippet left it: the snippet, a line feed and its output. -/
def transcriptOf (snippets outs : List Text) : Text :=
  (List.zipWith (fun s out => s ++ '\n' :: out) snippets outs).flatten

/-- A snippet and its output end where a line starts. -/
theorem opensLine_behind (before s : Text) {out : Text} (h : OpensLine out) :
    OpensLine (before ++ (s ++ '\n' :: out)) := by
  have hline : OpensLine ('\n' :: out) :=
    opensLine_append (a := ['\n']).mpr ⟨h, fun _ => opensLine_concat []⟩
  rw [← List.append_assoc]
  exact opensLine_append.mpr ⟨hline, fun hnil => by cases hnil⟩

/-- Snippets are committed in order, and the transcript grows behind the cursor. -/
theorem replayed_between (snippets : List Text) (hw : w.buffer = Buffer.between before [])
    (hb : OpensLine before) (hprints : w.Throughout PrintsOnly snippets)
    (hdone : Run.forEach snippets replaySnippet w = (.done (), w')) :
    w.Commits snippets w' ∧ ∃ outs : List Text, outs.length = snippets.length ∧
      (∀ out ∈ outs, OpensLine out) ∧
      w'.buffer = Buffer.between (before ++ transcriptOf snippets outs) [] ∧
      OpensLine (before ++ transcriptOf snippets outs) := by
  induction snippets generalizing w before with
  | nil =>
    cases hdone
    -- each snippet is replayed at the end of the transcript of those before it
    exact ⟨.stop _, [], rfl, by simp, by simpa [transcriptOf] using hw,
      by simpa [transcriptOf] using hb⟩
  | cons s rest ih =>
    obtain ⟨u, hs, hrest⟩ := Run.forEach_cons_inv hdone
    obtain ⟨hfirst, hmore⟩ := hprints
    rw [hs] at hmore
    obtain ⟨⟨out, hout, hu⟩, -, hcommits⟩ := replaySnippet_done hw hb hfirst hs
    obtain ⟨hrestCommits, outs, hlength, houts, hw', hend⟩ :=
      ih hu (opensLine_behind before s hout) hmore hrest
    have htext : before ++ transcriptOf (s :: rest) (out :: outs) =
        before ++ (s ++ '\n' :: out) ++ transcriptOf rest outs := by
      simp [transcriptOf]
    refine ⟨hcommits.append hrestCommits, out :: outs, by simp [hlength], ?_, ?_, ?_⟩
    · intro o ho
      rcases List.mem_cons.mp ho with rfl | ho
      · exact hout
      · exact houts o ho
    · rw [htext]
      exact hw'
    · rw [htext]
      exact hend

/-- If the snippets leave the log alone, each of them adds itself to it once. -/
theorem replayed_entries (snippets : List Text) (hw : w.buffer = Buffer.between before [])
    (hb : OpensLine before) (hprints : w.Throughout PrintsOnly snippets)
    (hlog : w.Throughout KeepsLog snippets)
    (hdone : Run.forEach snippets replaySnippet w = (.done (), w')) :
    w'.history.entries = w.history.entries ++ snippets := by
  induction snippets generalizing w before with
  | nil =>
    cases hdone
    simp
  | cons s rest ih =>
    obtain ⟨u, hs, hrest⟩ := Run.forEach_cons_inv hdone
    obtain ⟨hfirst, hmore⟩ := hprints
    obtain ⟨hkeeps, hlog⟩ := hlog
    rw [hs] at hmore hlog
    -- a snippet records itself and nothing else
    obtain ⟨⟨out, hout, hu⟩, hhistory, -⟩ := replaySnippet_done hw hb hfirst hs
    have hentries : u.history.entries = w.history.entries ++ [s] := by
      rw [hhistory]
      exact congrArg (· ++ [s]) hkeeps
    rw [ih hu (opensLine_behind before s hout) hmore hlog hrest, hentries, List.append_assoc,
      List.singleton_append]

/-! ## The whole replay -/

/-- The header line that a transcript starts with. -/
def headerLine (settings : Settings) : Text := "# ".toList ++ settings.title ++ ['\n']

theorem forScript_openHeader_buffer (settings : Settings) :
    (World.forScript settings).openHeader.buffer =
      Buffer.between (headerLine settings) [] := by
  have hempty : (World.forScript settings).buffer = Buffer.between [] [] := rfl
  have htitle : (World.forScript settings).settings.title = settings.title := rfl
  rw [openHeader, hempty, htitle]
  simp only [Buffer.header, Buffer.newline, Buffer.insert_between, headerLine, List.nil_append]

theorem opensLine_headerLine (settings : Settings) : OpensLine (headerLine settings) :=
  opensLine_concat _

/-- A line that prints, a block that ends with a line feed and a line that does not
compile. -/
def scriptSample : List Text :=
  ["print('a')".toList, "x = 1\nprint(x)\n".toList, "1 +".toList]

example : (replay {} scriptSample).2.buffer.text =
    ("# Python REPL\nprint('a')\n--> a\nx = 1\nprint(x)\n\n--> 1\n" ++
      "1 +\n--> SyntaxError: invalid syntax (<repl>, line 1)\n").toList := by
  decide +kernel

end Scratchpad
