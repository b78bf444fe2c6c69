import Scratchpad.Proofs.HistoryWalk
import Scratchpad.Proofs.Insertion

/-!
# Committing a recalled entry

The history is kept to be replayed: the entry to which the user walked back should be what
the next commit evaluates. A commit evaluates the cursor's line, and the cursor stands
behind the entry, so it evaluates what follows the last line feed of the entry. That is the
entry itself exactly if the entry is a single line.

* `lastLine_eq_self_iff` — the last line of a text is the whole text;
* `recalled_history`, `recalled_shows` — where walking back from an empty line leads;
* `recalled_target` — what is evaluated there;
* `recall_replays_single_line` — the recalled entry is evaluated again if it is a single
  line, and never otherwise.
-/

namespace Scratchpad

/-- What follows the last line feed of a text. -/
def lastLine (t : Text) : Text := (t.reverse.takeWhile (· ≠ '\n')).reverse

theorem lastLine_append {a l : Text} (ha : OpensLine a) (hl : '\n' ∉ l) :
    lastLine (a ++ l) = l := takeWhile_reverse_line ha hl

theorem not_mem_lastLine (t : Text) : '\n' ∉ lastLine t := by
  simpa [lastLine] using not_mem_takeWhile t.reverse

theorem lastLine_eq_self_iff {t : Text} : lastLine t = t ↔ '\n' ∉ t := by
  constructor
  · intro h
    rw [← h]
    exact not_mem_lastLine t
  · intro h
    exact lastLine_append opensLine_nil h

/-! ## Selections in a walk -/

namespace Buffer

/-- No edit selects anything. -/
theorem put_anchor {b : Buffer} (h : b.anchor = none) (t : Text) (c : Nat) :
    (b.put t c).anchor = none := by
  rw [put_eq]
  split
  · split
    · exact h
    · exact h
  · rfl

theorem clearLine_anchor {b : Buffer} (h : b.anchor = none) : b.clearLine.anchor = none :=
  put_anchor h _ _

theorem backspace_anchor {b : Buffer} (h : b.anchor = none) : b.backspace.anchor = none := by
  unfold backspace
  split
  · exact h
  · exact put_anchor h _ _

theorem removeLines_anchor (n : Nat) {b : Buffer} (h : b.anchor = none) :
    (removeLines n b).anchor = none := by
  induction n generalizing b with
  | zero => exact h
  | succ n ih => exact ih (backspace_anchor (clearLine_anchor h))

/-- Showing a text selects nothing, and showing any but the empty text ends a selection. -/
theorem replaceShown_anchor {b : Buffer} {t : Text} (h : b.anchor = none ∨ t ≠ [])
    (count : Nat) : (b.replaceShown count t).anchor = none := by
  rcases h with hnone | ht
  · exact put_anchor (clearLine_anchor (removeLines_anchor _ hnone)) _ _
  · rw [replaceShown, insert_of_ne_nil _ ht]

/-- The cursor's line behind a shown text is the last line of that text. -/
theorem Shows.currentLine {b : Buffer} {before shown after : Text}
    (h : b.Shows before shown after) : b.currentLine = lastLine shown := by
  obtain ⟨a, l, rfl, ha, hl⟩ := exists_open_line shown
  have hat : b.At (before ++ a) l after l.length := by
    refine ⟨⟨opensLine_append.mpr ⟨ha, fun _ => h.opens⟩, h.closes, hl⟩, ?_, ?_, Nat.le_refl _⟩
    · simp [h.text]
    · simp [h.cursor, Nat.add_assoc]
  rw [hat.currentLine_eq, lastLine_append ha hl]

end Buffer

namespace World

/-! ## Walking back -/

/-- Walks back over a number of entries. -/
def recalled (w : World) (count : Nat) : World := w.browseAll (List.replicate count .older)

theorem recalled_succ (w : World) (n : Nat) : w.recalled (n + 1) = (w.recalled n).historyPrev := by
  rw [recalled, List.replicate_succ', browseAll_append]
  rfl

/-- Without a popup a step back moves by one entry, and stays at the oldest one. -/
theorem historyPrev_history {w : World} (hpopup : w.buffer.popup = none) :
    w.historyPrev.history = { w.history with pos := w.history.pos - 1 } := by
  by_cases h0 : w.history.pos = 0
  · rw [historyPrev_of_oldest hpopup h0, h0, Nat.zero_sub, ← h0]
  · simp [historyPrev, stepPrev, History.prev?, noteStep, note, hpopup, h0]

/-- A step back that moves shows the entry before in place of the lines that the log
counts. -/
theorem historyPrev_buffer {w : World} {e : Text} (hpopup : w.buffer.popup = none)
    (hpos : w.history.pos ≠ 0) (he : w.history.entries[w.history.pos - 1]? = some e) :
    w.historyPrev.buffer = w.buffer.replaceShown w.history.linesToErase e := by
  simp [historyPrev, stepPrev, History.prev?, History.current, noteStep, note, hpopup, hpos, he]

section Walk

variable {w : World} {before after : Text}

/-- A walk from an empty line shows no popup. -/
theorem recalled_popup (hat : w.buffer.At before [] after 0) (hpopup : w.buffer.popup = none)
    (hidle : w.history.pos = w.history.entries.length) (n : Nat) :
    (w.recalled n).buffer.popup = none := by
  rcases browseAll_of_idle hat hpopup hidle (List.replicate n .older) with hsame | hshows
  · rw [recalled, hsame]
    exact hpopup
  · exact hshows.popup

theorem recalled_history (hat : w.buffer.At before [] after 0) (hpopup : w.buffer.popup = none)
    (hidle : w.history.pos = w.history.entries.length) (n : Nat) :
    (w.recalled n).history = { w.history with pos := w.history.entries.length - n } := by
  induction n with
  | zero => rw [Nat.sub_zero, ← hidle]; rfl
  | succ n ih =>
    rw [recalled_succ, historyPrev_history (recalled_popup hat hpopup hidle n), ih]
    simp only [Nat.sub_sub]

/-- Walking back to an entry shows it on the line where the walk began. -/
theorem recalled_shows (hat : w.buffer.At before [] after 0) (hpopup : w.buffer.popup = none)
    (hidle : w.history.pos = w.history.entries.length) {i : Nat} {e : Text}
    (he : w.history.entries[i]? = some e) :
    (w.recalled (w.history.entries.length - i)).buffer.Shows before e after := by
  have hlt : i < w.history.entries.length := (List.getElem?_eq_some_iff.mp he).1
  have hpos := congrArg History.pos
    (recalled_history hat hpopup hidle (w.history.entries.length - i))
  simp only at hpos
  rcases browseAll_of_idle hat hpopup hidle (List.replicate (w.history.entries.length - i) .older)
    with hsame | ⟨-, e', he', hshows⟩
  · -- the walk moved, so it is not where it began
    rw [recalled, hsame, hidle] at hpos
    omega
  · have hi : w.history.entries.length - (w.history.entries.length - i) = i := by omega
    rw [← recalled, hpos, hi, he] at he'
    cases he'
    exact hshows

/-- Nothing is selected at the end of a walk, unless something was before it and only the
empty text was shown. -/
theorem recalled_anchor (hat : w.buffer.At before [] after 0) (hpopup : w.buffer.popup = none)
    (hidle : w.history.pos = w.history.entries.length) {i : Nat} {e : Text}
    (he : w.history.entries[i]? = some e) (hsel : w.buffer.anchor = none ∨ e ≠ []) :
    (w.recalled (w.history.entries.length - i)).buffer.anchor = none := by
  have hlt : i < w.history.entries.length := (List.getElem?_eq_some_iff.mp he).1
  obtain ⟨n, hn⟩ : ∃ n, w.history.entries.length - i = n + 1 := ⟨_, (Nat.succ_pred (by omega)).symm⟩
  -- a step replaces what is shown, which begins no selection
  have hkept : ∀ m, w.buffer.anchor = none → (w.recalled m).buffer.anchor = none := by
    intro m hnone
    induction m with
    | zero => exact hnone
    | succ m ih =>
      have hp := recalled_popup hat hpopup hidle m
      rw [recalled_succ]
      by_cases h0 : (w.recalled m).history.pos = 0
      · rw [historyPrev_of_oldest hp h0]
        exact ih
      · have hbefore : (w.recalled m).history.pos - 1 < (w.recalled m).history.entries.length := by
          rw [recalled_history hat hpopup hidle]
          simp only
          omega
        rw [historyPrev_buffer hp h0 (List.getElem?_eq_getElem hbefore)]
        exact Buffer.replaceShown_anchor (Or.inl ih) _
  -- the last step is the one that shows the entry
  have hpos : (w.recalled n).history.pos = i + 1 := by
    rw [recalled_history hat hpopup hidle]
    simp only
    omega
  have hentry : (w.recalled n).history.entries[(w.recalled n).history.pos - 1]? = some e := by
    rw [hpos, recalled_history hat hpopup hidle]
    exact he
  rw [hn, recalled_succ, historyPrev_buffer (recalled_popup hat hpopup hidle n) (by omega) hentry]
  exact Buffer.replaceShown_anchor (hsel.imp (hkept n) id) _

/-! ## Committing what was recalled -/

/-- What is evaluated behind a recalled entry is its last line. -/
theorem recalled_target (hat : w.buffer.At before [] after 0) (hpopup : w.buffer.popup = none)
    (hidle : w.history.pos = w.history.entries.length) {i : Nat} {e : Text}
    (he : w.history.entries[i]? = some e) (hsel : w.buffer.anchor = none ∨ e ≠ []) :
    (w.recalled (w.history.entries.length - i)).buffer.target.source = lastLine e ∧
      (w.recalled (w.history.entries.length - i)).buffer.target.selected = false := by
  have hanchor := recalled_anchor hat hpopup hidle he hsel
  have hshows := recalled_shows hat hpopup hidle he
  have hempty : (w.recalled (w.history.entries.length - i)).buffer.selection.1 =
      (w.recalled (w.history.entries.length - i)).buffer.selection.2 := by
    simp [Buffer.selection, hanchor]
  rw [Buffer.target_of_empty hempty]
  exact ⟨hshows.currentLine, rfl⟩

end Walk

/-- The next commit evaluates a text again: it answers yes, and the text is what is added
to the log. -/
def Replays (w : World) (e : Text) : Prop :=
  ∃ w', commit w = (.done true, w') ∧ w'.history.entries = w.history.entries ++ [e]

/-- A commit of something that compiles never leaves the line alone. -/
theorem commit_answers_yes {w w' : World} {code : Code} {answer : Bool}
    (hcode : compile w.buffer.target.source = .ok code) (h : commit w = (.done answer, w')) :
    answer = true := by
  rw [commit_eq (Or.inl ⟨code, hcode⟩)] at h
  obtain ⟨_, _, -, hpure⟩ := Run.bind_done_inv h
  cases hpure
  rfl

/-- Walking back from an empty line to an entry that compiles shows the entry. The next
commit then evaluates the last line of the entry. An entry of one line is evaluated again,
if its code comes to an end and leaves the log alone; an entry of several lines is never
evaluated again. -/
theorem recall_replays_single_line (w : World) (before after : Text) (i : Nat) (e : Text)
    (code : Code)
    (hat : w.buffer.At before [] after 0) (hpopup : w.buffer.popup = none)
    (hidle : w.history.pos = w.history.entries.length)
    (he : w.history.entries[i]? = some e) (hcode : compile e = .ok code)
    (hsel : w.buffer.anchor = none ∨ e ≠ []) :
    let r := w.recalled (w.history.entries.length - i)
    r.buffer.Shows before e after ∧ r.history = { w.history with pos := i } ∧
    r.buffer.target.source = lastLine e ∧
    ('\n' ∈ e → ¬ r.Replays e) ∧
    ('\n' ∉ e → (∃ answer w', commit r = (.done answer, w')) →
      r.evaluated.history.entries = r.history.entries → r.Replays e) := by
  intro r
  have hlt : i < w.history.entries.length := (List.getElem?_eq_some_iff.mp he).1
  have hsource : r.buffer.target.source = lastLine e := (recalled_target hat hpopup hidle he hsel).1
  refine ⟨recalled_shows hat hpopup hidle he, ?_, hsource, ?_, ?_⟩
  · have hi : w.history.entries.length - (w.history.entries.length - i) = i := by omega
    rw [recalled_history hat hpopup hidle, hi]
  · rintro hlines ⟨w', hcommit, hentries⟩
    -- the commit would have recorded the entry, but it recorded its last line
    obtain ⟨-, -, hhistory⟩ := commit_true_inv hcommit
    have hlast := congrArg List.getLast? hentries
    rw [hhistory, hsource] at hlast
    have heq : lastLine e = e := by simpa [History.record, History.ofEntries] using hlast
    exact lastLine_eq_self_iff.mp heq hlines
  · rintro hline ⟨answer, w', hcommit⟩ hlog
    -- a single line is its own last line
    have hsame : r.buffer.target.source = e := hsource.trans (lastLine_eq_self_iff.mpr hline)
    obtain rfl := commit_answers_yes (by rw [hsame]; exact hcode) hcommit
    obtain ⟨-, -, hhistory⟩ := commit_true_inv hcommit
    refine ⟨w', hcommit, ?_⟩
    rw [hhistory, hsame]
    simp [History.record, History.ofEntries, hlog]

/-- A session at an empty line, which has evaluated a block of two lines and then a line. -/
def recallSample : World :=
  { World.start {} {} none #[] with
    buffer := { text := "n = 1\nn\n1 + 1\n--> 2\n".toList, cursor := 20 }
    history := .ofEntries ["n = 1\nn".toList, "1 + 1".toList] }

theorem recallSample_at :
    recallSample.buffer.At "n = 1\nn\n1 + 1\n--> 2\n".toList [] [] 0 :=
  ⟨⟨by decide +kernel, by decide +kernel, List.not_mem_nil⟩, by decide +kernel, by decide +kernel,
    Nat.le_refl _⟩

theorem recall_replays_last_line_sample :
    recallSample.history.entries[1]? = some "1 + 1".toList ∧
    (recallSample.recalled 1).buffer.text = "n = 1\nn\n1 + 1\n--> 2\n1 + 1".toList ∧
    (recallSample.recalled 1).Replays "1 + 1".toList := by
  have he : recallSample.history.entries[1]? = some "1 + 1".toList := by decide +kernel
  obtain ⟨code, hcode⟩ := exists_ok (r := compile "1 + 1".toList) (by decide +kernel)
  obtain ⟨w', hcommit⟩ :=
    exists_of_saysYes (x := commit) (w := recallSample.recalled 1) (by decide +kernel)
  have hrecall := recall_replays_single_line recallSample _ _ 1 _ code recallSample_at rfl rfl he
    hcode (Or.inl rfl)
  exact ⟨he, hrecall.1.text, hrecall.2.2.2.2 (by decide +kernel) ⟨true, w', hcommit⟩
    (by decide +kernel)⟩

/-- The block of two lines compiles and is shown again, but only its second line is
evaluated and added to the log. -/
theorem recalled_block_not_replayed :
    (∃ code, compile "n = 1\nn".toList = .ok code) ∧
    recallSample.buffer.currentLine = [] ∧
    recallSample.history.entries[0]? = some "n = 1\nn".toList ∧
    (recallSample.recalled 2).buffer.text = "n = 1\nn\n1 + 1\n--> 2\nn = 1\nn".toList ∧
    ¬ (recallSample.recalled 2).Replays "n = 1\nn".toList ∧
    ∃ w', commit (recallSample.recalled 2) = (.done true, w') ∧
      w'.history.entries = recallSample.history.entries ++ ["n".toList] := by
  obtain ⟨w', hcommit⟩ :=
    exists_of_saysYes (x := commit) (w := recallSample.recalled 2) (by decide +kernel)
  have hentries : (commit (recallSample.recalled 2)).2.history.entries =
      recallSample.history.entries ++ ["n".toList] := by decide +kernel
  rw [hcommit] at hentries
  refine ⟨exists_ok (by decide +kernel), by decide +kernel, by decide +kernel,
    by decide +kernel, ?_, w', hcommit, hentries⟩
  rintro ⟨w'', hcommit', hentries'⟩
  rw [hcommit] at hcommit'
  cases hcommit'
  rw [hentries] at hentries'
  revert hentries'
  decide +kernel

end World

end Scratchpad
