import Scratchpad.Proofs.Edit
import Scratchpad.Session.Transcript

/-!
# Walking through the history

A step through the history erases as many lines as the entry shown has, and inserts
the next entry in their place. The number of lines comes from the log and the text
from the buffer; `Buffer.Shows` is the invariant that keeps the two in step: between
two fixed texts stands exactly the entry, with the cursor behind it.

* `replaceShown_shows` — replacing a shown text shows the new one;
* `showsEntry_browseAll` — once an entry is shown, every walk shows the entry at the
  position of the log;
* `browseAll_shows` — a walk from a line that is being typed: nothing happens until
  a step moves, and from then on the entry stands in place of the line.
-/

namespace Scratchpad

/-- A step through the history. -/
inductive HistoryStep where
  | older
  | newer
deriving DecidableEq, Repr

namespace Buffer

/-- Between two fixed texts the buffer holds `shown`, with the cursor behind it. -/
structure Shows (b : Buffer) (before shown after : Text) : Prop where
  opens : OpensLine before
  closes : ClosesLine after
  text : b.text = before ++ shown ++ after
  cursor : b.cursor = before.length + shown.length
  popup : b.popup = none

/-! ## Erasing what is shown -/

/-- A shown text without a line feed is the line of the cursor. -/
theorem Shows.at {b : Buffer} {before l after : Text} (h : b.Shows before l after)
    (hl : '\n' ∉ l) : b.At before l after l.length :=
  ⟨⟨h.opens, h.closes, hl⟩, h.text, h.cursor, Nat.le_refl _⟩

/-- One round of the loop takes the last line of the shown text and its break. -/
theorem Shows.shorten {b : Buffer} {before t l after : Text}
    (h : b.Shows before (t ++ '\n' :: l) after) (hl : '\n' ∉ l) :
    b.clearLine.backspace.Shows before t after := by
  -- the cursor is at the end of the last line of what is shown
  have hlast : b.At (before ++ t ++ ['\n']) l after l.length := by
    refine ⟨⟨opensLine_concat _, h.closes, hl⟩, ?_, ?_, Nat.le_refl _⟩
    · simp [h.text]
    · simp only [h.cursor, List.length_append, List.length_cons, List.length_nil]
      omega
  have hclear : b.clearLine = b.put (before ++ t ++ '\n' :: after) ((before ++ t).length + 1) := by
    rw [hlast.clearLine_eq]
    simp [Nat.add_assoc]
  have hback : b.clearLine.backspace = b.clearLine.put (before ++ t ++ after) (before ++ t).length :=
    backspace_eq (c := '\n') (by rw [hclear, put_text]) (by rw [hclear, put_cursor])
  refine ⟨h.opens, h.closes, ?_, ?_, ?_⟩
  · rw [hback, put_text]
  · rw [hback, put_cursor, List.length_append]
  · rw [hback]
    apply put_popup
    rw [hclear]
    exact put_popup h.popup _ _

/-- As many rounds as the shown text has line feeds leave one line of it. -/
theorem Shows.removeLines {n : Nat} {b : Buffer} {before shown after : Text}
    (h : b.Shows before shown after) (hn : shown.count '\n' = n) :
    ∃ l, '\n' ∉ l ∧ (removeLines n b).Shows before l after := by
  induction n generalizing b shown with
  | zero => exact ⟨shown, List.count_eq_zero.mp hn, h⟩
  | succ n ih =>
    -- one round takes away the last line and the break before it
    obtain ⟨a, l, rfl, ha, hl⟩ := exists_open_line shown
    have hcount : a.count '\n' = n + 1 := by
      rwa [List.count_append, List.count_eq_zero_of_not_mem hl] at hn
    rcases opensLine_iff.mp ha with rfl | ⟨t, rfl⟩
    · simp at hcount
    · have hround : b.clearLine.backspace.Shows before t after := by
        apply Shows.shorten (l := l) _ hl
        simpa using h
      exact ih hround (by simpa using hcount)

/-- A line that is emptied and filled with a text shows that text. -/
theorem At.shows {b : Buffer} {before line after : Text} {k : Nat}
    (h : b.At before line after k) (hpopup : b.popup = none) (t : Text) :
    (b.clearLine.insert t).Shows before t after := by
  rw [h.clearLine_eq]
  refine ⟨h.cut.opens, h.cut.closes, ?_, ?_, put_popup (put_popup hpopup _ _) _ _⟩
  · simp [Buffer.before, Buffer.after]
  · simp

/-- Replacing the lines of a shown text shows the new text in their place. -/
theorem replaceShown_shows {b : Buffer} {before shown after : Text}
    (h : b.Shows before shown after) (t : Text) :
    (b.replaceShown (shown.count '\n' + 1) t).Shows before t after := by
  obtain ⟨l, hl, hone⟩ := h.removeLines rfl
  exact (hone.at hl).shows hone.popup t

end Buffer

namespace World

/-- Takes a step through the history. -/
def browse (w : World) : HistoryStep → World
  | .older => w.historyPrev
  | .newer => w.historyNext

/-- Takes steps through the history in order. -/
def browseAll (w : World) (steps : List HistoryStep) : World := steps.foldl browse w

/-- The entry at the position of the log stands between two fixed texts. -/
def ShowsEntry (w : World) (entries : List Text) (before after : Text) : Prop :=
  w.history.entries = entries ∧
    ∃ e, entries[w.history.pos]? = some e ∧ w.buffer.Shows before e after

/-! ## One step -/

/-- Without a popup a step at the oldest entry changes nothing. -/
theorem historyPrev_of_oldest {w : World} (hpopup : w.buffer.popup = none)
    (hpos : w.history.pos = 0) : w.historyPrev = w := by
  simp [historyPrev, stepPrev, History.prev?, hpopup, hpos]

/-- Without a popup a step at the newest entry, or behind it, changes nothing. -/
theorem historyNext_of_newest {w : World} (hpopup : w.buffer.popup = none)
    (hpos : w.history.entries.length ≤ w.history.pos + 1) : w.historyNext = w := by
  simp [historyNext, stepNext, History.next?, hpopup, hpos]

/-- What a step can do without a popup: nothing, or move to another entry and show it
in place of the lines that the log counts. -/
theorem browse_cases {w : World} (hpopup : w.buffer.popup = none)
    (hpos : w.history.pos ≤ w.history.entries.length) (s : HistoryStep) :
    w.browse s = w ∨
      ∃ pos e, pos ≠ w.history.pos ∧ w.history.entries[pos]? = some e ∧
        (w.browse s).history = { w.history with pos } ∧
        (w.browse s).buffer = w.buffer.replaceShown w.history.linesToErase e := by
  cases s with
  | older =>
    by_cases h0 : w.history.pos = 0
    · exact Or.inl (historyPrev_of_oldest hpopup h0)
    -- there is an older entry
    · have hlt : w.history.pos - 1 < w.history.entries.length := by omega
      refine Or.inr ⟨w.history.pos - 1, w.history.entries[w.history.pos - 1], by omega,
        List.getElem?_eq_getElem hlt, ?_, ?_⟩ <;>
      simp [browse, historyPrev, stepPrev, History.prev?, History.current, noteStep, note,
        hpopup, h0, hlt]
  | newer =>
    by_cases hend : w.history.entries.length ≤ w.history.pos + 1
    · exact Or.inl (historyNext_of_newest hpopup hend)
    -- there is a newer entry
    · have hlt : w.history.pos + 1 < w.history.entries.length := by omega
      refine Or.inr ⟨w.history.pos + 1, w.history.entries[w.history.pos + 1], by omega,
        List.getElem?_eq_getElem hlt, ?_, ?_⟩ <;>
      simp [browse, historyNext, stepNext, History.next?, History.current, noteStep, note,
        hpopup, hend, hlt]

theorem ShowsEntry.pos_lt {w : World} {entries : List Text} {before after : Text}
    (h : w.ShowsEntry entries before after) : w.history.pos < entries.length := by
  obtain ⟨-, e, he, -⟩ := h
  exact (List.getElem?_eq_some_iff.mp he).1

theorem ShowsEntry.popup {w : World} {entries : List Text} {before after : Text}
    (h : w.ShowsEntry entries before after) : w.buffer.popup = none := by
  obtain ⟨-, e, -, hshows⟩ := h
  exact hshows.popup

/-- A step from a shown entry shows an entry again. -/
theorem showsEntry_browse {w : World} {entries : List Text} {before after : Text}
    (h : w.ShowsEntry entries before after) (s : HistoryStep) :
    (w.browse s).ShowsEntry entries before after := by
  have hlt := h.pos_lt
  obtain ⟨rfl, e, he, hshows⟩ := h
  rcases browse_cases hshows.popup hlt.le s with hsame | ⟨pos, e', -, he', hhist, hbuf⟩
  · rw [hsame]
    exact ⟨rfl, e, he, hshows⟩
  · -- the log counts the lines of the very text that is shown
    have hcount : w.history.linesToErase = e.count '\n' + 1 := by
      simp [History.linesToErase, History.current, he]
    refine ⟨by rw [hhist], e', by rw [hhist]; exact he', ?_⟩
    rw [hbuf, hcount]
    exact Buffer.replaceShown_shows hshows e'

/-- A step from a line that is being typed moves nothing, or shows an entry in place of
the line. -/
theorem browse_of_idle {w : World} {before line after : Text} {k : Nat}
    (hat : w.buffer.At before line after k) (hpopup : w.buffer.popup = none)
    (hidle : w.history.pos = w.history.entries.length) (s : HistoryStep) :
    w.browse s = w ∨ (w.browse s).ShowsEntry w.history.entries before after := by
  rcases browse_cases hpopup hidle.le s with hsame | ⟨pos, e, -, he, hhist, hbuf⟩
  · exact Or.inl hsame
  · -- no entry is shown yet, so the log counts one line
    have hcount : w.history.linesToErase = 1 := by
      simp [History.linesToErase, History.current, hidle]
    refine Or.inr ⟨by rw [hhist], e, by rw [hhist]; exact he, ?_⟩
    rw [hbuf, hcount]
    exact hat.shows hpopup e

/-! ## Walks -/

/-- Every walk from a shown entry ends at a shown entry. -/
theorem showsEntry_browseAll {w : World} {entries : List Text} {before after : Text}
    (h : w.ShowsEntry entries before after) (steps : List HistoryStep) :
    (w.browseAll steps).ShowsEntry entries before after := by
  induction steps generalizing w with
  | nil => exact h
  | cons s steps ih => exact ih (showsEntry_browse h s)

/-- A walk from a line that is being typed has not moved, or shows an entry. -/
theorem browseAll_of_idle {w : World} {before line after : Text} {k : Nat}
    (hat : w.buffer.At before line after k) (hpopup : w.buffer.popup = none)
    (hidle : w.history.pos = w.history.entries.length) (steps : List HistoryStep) :
    w.browseAll steps = w ∨
      (w.browseAll steps).ShowsEntry w.history.entries before after := by
  induction steps with
  | nil => exact Or.inl rfl
  | cons s steps ih =>
    rcases browse_of_idle hat hpopup hidle s with hsame | hshows
    · rw [browseAll, List.foldl_cons, hsame]
      exact ih
    · exact Or.inr (showsEntry_browseAll hshows steps)

theorem browseAll_append (w : World) (xs ys : List HistoryStep) :
    w.browseAll (xs ++ ys) = (w.browseAll xs).browseAll ys := List.foldl_append

/-- Walking replaces exactly what it showed. Once a step has moved, the entry at the
position of the log stands in place of the line that was being typed, with the cursor
behind it; until then the buffer is as it was. A step at either end of the log changes
nothing at all. -/
theorem browseAll_shows (w : World) (before line after : Text) (k : Nat)
    (hat : w.buffer.At before line after k) (hpopup : w.buffer.popup = none)
    (hidle : w.history.pos = w.history.entries.length) (steps : List HistoryStep) :
    (w.browseAll steps).history.entries = w.history.entries ∧
    ((∃ n, (w.browseAll (steps.take n)).history.pos ≠ w.history.pos) →
      ∃ e, w.history.entries[(w.browseAll steps).history.pos]? = some e ∧
        (w.browseAll steps).buffer.text = before ++ e ++ after ∧
        (w.browseAll steps).buffer.cursor = before.length + e.length) ∧
    ((∀ n, (w.browseAll (steps.take n)).history.pos = w.history.pos) →
      (w.browseAll steps).buffer = w.buffer) ∧
    ((w.browseAll steps).history.pos = 0 →
      (w.browseAll steps).browse .older = w.browseAll steps) ∧
    ((w.browseAll steps).history.entries.length ≤ (w.browseAll steps).history.pos + 1 →
      (w.browseAll steps).browse .newer = w.browseAll steps) := by
  have hend := browseAll_of_idle hat hpopup hidle steps
  have hpopup' : (w.browseAll steps).buffer.popup = none := by
    rcases hend with hsame | hshows
    · rw [hsame]
      exact hpopup
    · exact hshows.popup
  refine ⟨?_, ?_, ?_, historyPrev_of_oldest hpopup', historyNext_of_newest hpopup'⟩
  · rcases hend with hsame | hshows
    · rw [hsame]
    · exact hshows.1
  · rintro ⟨n, hmoved⟩
    -- the walk up to the step that moved shows an entry, and so does its rest
    have hshows : (w.browseAll (steps.take n)).ShowsEntry w.history.entries before after := by
      rcases browseAll_of_idle hat hpopup hidle (steps.take n) with hsame | hshows
      · rw [hsame] at hmoved
        exact absurd rfl hmoved
      · exact hshows
    have hrest := showsEntry_browseAll hshows (steps.drop n)
    rw [← browseAll_append, List.take_append_drop] at hrest
    obtain ⟨-, e, he, hb⟩ := hrest
    exact ⟨e, he, hb.text, hb.cursor⟩
  · intro hstill
    rcases hend with hsame | hshows
    · rw [hsame]
    · -- a shown entry lies before the position at which the walk began
      have hpos := hstill steps.length
      rw [List.take_length] at hpos
      have hlt := hshows.pos_lt
      omega

/-- A scratchpad whose history holds an entry of several lines that ends in a line feed,
an empty one and one of two lines, with a line between two others being typed. -/
def walkSample : World :=
  { names := ⟨{}, {}⟩
    buffer := { text := ['p', '\n', 'l', 'i', '\n', 'q'], cursor := 3 }
    history := .ofEntries [['a', '\n', '\n', 'b', '\n'], [], ['x', '\n', 'y']] }

theorem browseAll_shows_sample :
    walkSample.buffer.At ['p', '\n'] ['l', 'i'] ['\n', 'q'] 1 ∧
    walkSample.buffer.popup = none ∧
    walkSample.history.pos = walkSample.history.entries.length ∧
    ∃ e, walkSample.history.entries[0]? = some e ∧
      (walkSample.browseAll [.newer, .older, .older, .newer, .older, .older, .older]).buffer.text =
        ['p', '\n'] ++ e ++ ['\n', 'q'] ∧
      (walkSample.browseAll [.newer, .older, .older, .newer, .older, .older, .older]).buffer.cursor =
        2 + e.length := by
  have hat : walkSample.buffer.At ['p', '\n'] ['l', 'i'] ['\n', 'q'] 1 :=
    ⟨⟨by decide, by decide, by decide⟩, by decide, by decide, by decide⟩
  refine ⟨hat, rfl, rfl, ?_⟩
  exact (browseAll_shows walkSample _ _ _ 1 hat rfl rfl
    [.newer, .older, .older, .newer, .older, .older, .older]).2.1 ⟨2, by decide⟩

end World

end Scratchpad
