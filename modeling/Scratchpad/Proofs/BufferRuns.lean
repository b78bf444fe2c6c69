import Mathlib.Data.List.Induction
import Scratchpad.Buffer.Motion
import Scratchpad.Proofs.Edit

/-!
# Runs of operations on a buffer

Text, cursor, selection and popup of a buffer depend on one another, and every operation
changes some of them. What an operation can do is said once, in `Buffer.apply_cases`: it is
an edit, or it opens the popup, or it moves the highlight of the popup that is open. An edit
keeps a selection only if it keeps the text, and the popup only if it keeps the cursor too.

The invariant is `Buffer.Sound`: cursor and anchor lie in the text, and an open popup shows
what the buffer holds.

* `Buffer.edited_put` — putting a text in place is an edit, and with it every operation that
  only does that;
* `Buffer.sound_apply`, `Buffer.sound_applyAll` — one operation and any number of them keep
  the invariant;
* `Buffer.opened_applyAll` — where the open popup comes from;
* `Buffer.buffer_stays_consistent` — what holds after every run from an empty buffer.
-/

namespace Scratchpad

/-- What can be done to a buffer. -/
inductive BufferOp where
  | insert (t : Text)
  | newline
  | clearLine
  | backspace
  | toLineEnd (line : Int)
  | select (anchor cursor : Int)
  | moveTo (pos : Int)
  | left
  | right
  | home
  | toEnd
  | up
  | down
  | openPopup (typed : Nat) (candidates : List Text)
  | popupNext
  | popupPrev
  | acceptPopup
  | cancelPopup
deriving DecidableEq, Repr

namespace BufferOp

/-- Whether an operation opens a popup. -/
def opens : BufferOp → Bool
  | .openPopup .. => true
  | _ => false

/-- Whether an operation moves the highlight of an open popup. -/
def browses : BufferOp → Bool
  | .popupNext | .popupPrev | .up | .down => true
  | _ => false

end BufferOp

/-! ## The highlight of a popup -/

namespace Popup

variable {p : Popup}

theorem indexBelow_lt (hoffers : p.candidates ≠ [])
    (hindex : ∀ i ∈ p.index, i < p.candidates.length) :
    ∀ i ∈ p.indexBelow, i < p.candidates.length := by
  have hlength := List.length_pos_iff.mpr hoffers
  intro i hi
  unfold indexBelow at hi
  split at hi
  next => cases hi; exact hlength
  next j hj =>
    have hlt := hindex j hj
    split at hi
    · cases hi
    · cases hi
      omega

theorem indexAbove_lt (hoffers : p.candidates ≠ [])
    (hindex : ∀ i ∈ p.index, i < p.candidates.length) :
    ∀ i ∈ p.indexAbove, i < p.candidates.length := by
  have hlength := List.length_pos_iff.mpr hoffers
  intro i hi
  unfold indexAbove at hi
  split at hi
  next => cases hi; omega
  next => cases hi
  next j hj =>
    have hlt := hindex (j + 1) hj
    cases hi
    omega

/-- The popup has a cursor in its text, and what is highlighted is a candidate. -/
structure Fits (p : Popup) : Prop where
  cursor : p.cursor ≤ p.text.length
  index : ∀ i ∈ p.index, i < p.candidates.length

/-- What a popup shows has its cursor in the text. -/
theorem Fits.shown_le (h : p.Fits) : p.shown.2 ≤ p.shown.1.length := by
  unfold shown
  cases p.chosen? with
  | none => exact h.cursor
  | some c =>
    simp only [List.length_append]
    omega

/-- Highlighting changes the index only, if there is anything to highlight. -/
theorem highlight_eq (p : Popup) (index : Option Nat) :
    ∃ index', p.highlight index = { p with index := index' } := by
  unfold highlight
  split
  · exact ⟨p.index, rfl⟩
  · exact ⟨index, rfl⟩

theorem Fits.highlight (h : p.Fits) {index : Option Nat}
    (hindex : p.candidates ≠ [] → ∀ i ∈ index, i < p.candidates.length) :
    (p.highlight index).Fits := by
  unfold Popup.highlight
  split
  next => exact h
  next hoffers => exact ⟨h.cursor, hindex (by simpa using hoffers)⟩

/-- What a popup shows is its text, or its text with a candidate in place of what was typed
before the cursor. -/
theorem Fits.shown_cases (h : p.Fits) :
    (p.index = none ∧ p.shown = (p.text, p.cursor)) ∨
      ∃ i c, p.index = some i ∧ p.candidates[i]? = some c ∧
        p.shown = (p.text.take (p.cursor - p.typed) ++ c ++ p.text.drop p.cursor,
          p.cursor - p.typed + c.length) := by
  cases hindex : p.index with
  | none =>
    left
    exact ⟨rfl, by simp [shown, chosen?, hindex]⟩
  | some i =>
    right
    have hi : i < p.candidates.length := h.index i hindex
    have hcursor := h.cursor
    -- the stem is the text before the cursor without what was typed
    have hstem : p.stem.length = p.cursor - p.typed := by
      rw [stem, List.length_take]
      omega
    refine ⟨i, p.candidates[i], rfl, List.getElem?_eq_getElem hi, ?_⟩
    have hchosen : p.chosen? = some p.candidates[i] := by simp [chosen?, hindex, hi]
    simp only [shown, hchosen, hstem]
    rfl

end Popup

namespace Buffer

/-- Applies an operation. -/
def apply (b : Buffer) : BufferOp → Buffer
  | .insert t => b.insert t
  | .newline => b.newline
  | .clearLine => b.clearLine
  | .backspace => b.backspace
  | .toLineEnd line => b.toLineEnd line
  | .select anchor cursor => b.select anchor cursor
  | .moveTo pos => b.moveTo pos
  | .left => b.left
  | .right => b.right
  | .home => b.home
  | .toEnd => b.toEnd
  | .up => b.up
  | .down => b.down
  | .openPopup typed candidates => b.openPopup typed candidates
  | .popupNext => b.popupNext
  | .popupPrev => b.popupPrev
  | .acceptPopup => b.acceptPopup
  | .cancelPopup => b.cancelPopup

/-- Applies operations in order. -/
def applyAll (b : Buffer) (ops : List BufferOp) : Buffer := ops.foldl apply b

/-- Cursor and anchor lie in the text, and an open popup shows what the buffer holds. -/
structure Sound (b : Buffer) : Prop where
  cursor : b.cursor ≤ b.text.length
  anchor : ∀ a ∈ b.anchor, a ≤ b.text.length
  popup : ∀ p ∈ b.popup, p.Fits ∧ p.shown = (b.text, b.cursor)

/-- What an edit may leave of a buffer: the selection if the text is the same, and the popup
if the cursor is the same too. -/
structure Edited (b b' : Buffer) : Prop where
  cursor : b'.cursor ≤ b'.text.length
  anchor : ∀ a ∈ b'.anchor, a ≤ b'.text.length ∧ b'.text = b.text
  popup : ∀ p ∈ b'.popup, b.popup = some p ∧ b'.text = b.text ∧ b'.cursor = b.cursor

section Steps

variable {b b' : Buffer}

/-! ## Edits -/

theorem Edited.sound (h : b.Sound) (he : b.Edited b') : b'.Sound := by
  refine ⟨he.cursor, fun a ha => (he.anchor a ha).1, ?_⟩
  intro p hp
  obtain ⟨hbefore, htext, hcursor⟩ := he.popup p hp
  rw [htext, hcursor]
  exact h.popup p hbefore

theorem Sound.edited_self (h : b.Sound) : b.Edited b :=
  ⟨h.cursor, fun a ha => ⟨h.anchor a ha, rfl⟩, fun _ hp => ⟨hp, rfl, rfl⟩⟩

/-- Of two edits the first of which keeps the text the whole is an edit. -/
theorem Edited.trans {b'' : Buffer} (h : b.Edited b') (htext : b'.text = b.text)
    (h' : b'.Edited b'') : b.Edited b'' := by
  refine ⟨h'.cursor, ?_, ?_⟩
  · intro a ha
    obtain ⟨hle, hsame⟩ := h'.anchor a ha
    exact ⟨hle, hsame.trans htext⟩
  · intro p hp
    obtain ⟨hbetween, htext', hcursor'⟩ := h'.popup p hp
    obtain ⟨hbefore, -, hcursor⟩ := h.popup p hbetween
    exact ⟨hbefore, htext'.trans htext, hcursor'.trans hcursor⟩

/-- Putting a text in place is an edit, if the cursor lies in it. -/
theorem edited_put (h : b.Sound) {t : Text} {c : Nat} (hc : c ≤ t.length) :
    b.Edited (b.put t c) := by
  by_cases ht : t = b.text
  · by_cases hsame : c = b.cursor
    · rw [ht, hsame, put_self]
      exact h.edited_self
    · rw [put_eq, if_pos ht, if_neg hsame]
      rw [ht] at hc
      exact ⟨hc, fun a ha => ⟨h.anchor a ha, rfl⟩, nofun⟩
  · rw [put_of_ne ht]
    exact ⟨hc, nofun, nofun⟩

theorem edited_moveTo (h : b.Sound) (pos : Int) : b.Edited (b.moveTo pos) :=
  edited_put h (Nat.min_le_right _ _)

@[simp] theorem moveTo_text (b : Buffer) (pos : Int) : (b.moveTo pos).text = b.text := put_text ..

@[simp] theorem moveTo_cursor (b : Buffer) (pos : Int) :
    (b.moveTo pos).cursor = min pos.toNat b.text.length := put_cursor ..

theorem edited_deselect (h : b.Sound) : b.Edited b.deselect :=
  ⟨h.cursor, nofun, fun _ hp => ⟨hp, rfl, rfl⟩⟩

theorem edited_insert (h : b.Sound) (t : Text) : b.Edited (b.insert t) := by
  apply edited_put h
  have hcursor := h.cursor
  simp only [before, after, List.length_append, List.length_take, List.length_drop]
  omega

theorem edited_backspace (h : b.Sound) : b.Edited b.backspace := by
  unfold backspace
  split
  · exact h.edited_self
  · apply edited_put h
    have hcursor := h.cursor
    simp only [List.length_append, List.length_take]
    omega

theorem edited_clearLine (h : b.Sound) : b.Edited b.clearLine := by
  apply edited_put h
  have hcursor := h.cursor
  simp only [List.length_append, List.length_take]
  omega

theorem edited_toLineEnd (h : b.Sound) (line : Int) : b.Edited (b.toLineEnd line) := by
  have hdeselect := edited_deselect h
  exact hdeselect.trans rfl (edited_moveTo (hdeselect.sound h) _)

/-- The anchor is set where the cursor has been moved to. -/
theorem edited_select (h : b.Sound) (anchor cursor : Int) : b.Edited (b.select anchor cursor) := by
  have hdeselect := edited_deselect h
  have hmove := edited_moveTo (hdeselect.sound h) anchor
  have hfirst := hdeselect.trans rfl hmove
  have htext : (b.deselect.moveTo anchor).text = b.text := moveTo_text _ _
  have hanchor : b.Edited { b.deselect.moveTo anchor with
      anchor := some (b.deselect.moveTo anchor).cursor } := by
    refine ⟨hfirst.cursor, ?_, hfirst.popup⟩
    rintro a ⟨⟩
    exact ⟨hfirst.cursor, htext⟩
  exact hanchor.trans htext (edited_moveTo (hanchor.sound h) cursor)

/-- Right after selecting, the selection lies between the two positions, cut to the text. -/
theorem selection_select (b : Buffer) (anchor cursor : Int) :
    (b.select anchor cursor).selection =
      (min (min anchor.toNat b.text.length) (min cursor.toNat b.text.length),
        max (min anchor.toNat b.text.length) (min cursor.toNat b.text.length)) := by
  have hanchor : (b.select anchor cursor).anchor = some (min anchor.toNat b.text.length) := by
    unfold select moveTo
    rw [put_eq, if_pos rfl]
    split <;> simp [deselect]
  have hcursor : (b.select anchor cursor).cursor = min cursor.toNat b.text.length := by
    simp [select, deselect]
  simp only [selection, hanchor, hcursor]

theorem edited_left (h : b.Sound) : b.Edited b.left := by
  unfold left
  split
  · exact h.edited_self
  · exact edited_moveTo h _

theorem edited_right (h : b.Sound) : b.Edited b.right := by
  unfold right
  split
  · exact h.edited_self
  · exact edited_moveTo h _

/-- The column that is kept has no part in the rest. -/
theorem edited_stepTo (h : b.Sound) (line : Nat) : b.Edited (b.stepTo line) := by
  have hmove := edited_moveTo h
    (lineStart b.text line + min b.aim (lineText b.text line).length : Nat)
  exact ⟨hmove.cursor, hmove.anchor, hmove.popup⟩

/-! ## The popup -/

/-- Closing the popup is an edit, whatever was highlighted in it. -/
theorem edited_close (h : b.Sound) {p : Popup} (hp : p ∈ b.popup) {index : Option Nat}
    (hindex : p.candidates ≠ [] → ∀ i ∈ index, i < p.candidates.length) :
    b.Edited { b.highlight p index with popup := none } := by
  have hfits := (h.popup p hp).1.highlight hindex
  have hput := edited_put h hfits.shown_le
  exact ⟨hput.cursor, hput.anchor, nofun⟩

theorem edited_acceptPopup (h : b.Sound) : b.Edited b.acceptPopup := by
  unfold acceptPopup
  split
  next => exact h.edited_self
  next p hp =>
    dsimp only
    split
    · apply edited_close h hp
      rintro hoffers i ⟨⟩
      exact List.length_pos_iff.mpr hoffers
    · exact ⟨h.cursor, fun a ha => ⟨h.anchor a ha, rfl⟩, nofun⟩

theorem edited_cancelPopup (h : b.Sound) : b.Edited b.cancelPopup := by
  unfold cancelPopup
  split
  next => exact h.edited_self
  next p hp => exact edited_close h hp (fun _ => nofun)

/-- The highlight of an open popup moves to a candidate or to none. -/
def Browsed (b b' : Buffer) : Prop :=
  ∃ p ∈ b.popup, ∃ index, (p.highlight index).Fits ∧ b' = b.highlight p index

theorem popupNext_cases (h : b.Sound) : b.Edited b.popupNext ∨ b.Browsed b.popupNext := by
  unfold popupNext
  split
  next => exact .inl h.edited_self
  next p hp =>
    have hfits := (h.popup p hp).1
    exact .inr ⟨p, hp, p.indexBelow,
      hfits.highlight fun hoffers => Popup.indexBelow_lt hoffers hfits.index, rfl⟩

theorem popupPrev_cases (h : b.Sound) : b.Edited b.popupPrev ∨ b.Browsed b.popupPrev := by
  unfold popupPrev
  split
  next => exact .inl h.edited_self
  next p hp =>
    have hfits := (h.popup p hp).1
    exact .inr ⟨p, hp, p.indexAbove,
      hfits.highlight fun hoffers => Popup.indexAbove_lt hoffers hfits.index, rfl⟩

/-- The up and down keys belong to the popup while one is open. -/
theorem up_cases (h : b.Sound) : b.Edited b.up ∨ b.Browsed b.up := by
  unfold up
  split
  · exact popupPrev_cases h
  · split
    · exact .inl h.edited_self
    · exact .inl (edited_stepTo h _)

theorem down_cases (h : b.Sound) : b.Edited b.down ∨ b.Browsed b.down := by
  unfold down
  split
  · exact popupNext_cases h
  · split
    · exact .inl h.edited_self
    · exact .inl (edited_stepTo h _)

/-- A buffer whose highlight moves holds what the popup shows then. -/
theorem Browsed.inv (h : b.Sound) (hb : b.Browsed b') :
    ∃ p ∈ b.popup, ∃ index, { p with index }.Fits ∧ b'.popup = some { p with index } ∧
      { p with index }.shown = (b'.text, b'.cursor) ∧
      ∀ a ∈ b'.anchor, a ≤ b'.text.length ∧ b'.text = b.text := by
  obtain ⟨p, hp, index, hfits, rfl⟩ := hb
  obtain ⟨index', heq⟩ := p.highlight_eq index
  have hput := edited_put h hfits.shown_le
  unfold Buffer.highlight
  rw [heq] at hfits hput ⊢
  exact ⟨p, hp, index', hfits, rfl, by simp, hput.anchor⟩

/-! ## One operation -/

/-- What an operation can do: it edits, it opens the popup, or it moves the highlight. -/
theorem apply_cases (h : b.Sound) (op : BufferOp) :
    (op.opens = false ∧ b.Edited (b.apply op)) ∨
      (∃ typed candidates, op = .openPopup typed candidates ∧
        b.apply op = { b with popup := some ⟨b.text, b.cursor, typed, candidates, none⟩ }) ∨
      (op.opens = false ∧ op.browses = true ∧ b.Browsed (b.apply op)) := by
  cases op with
  -- the steps through the popup edit the buffer where none is open
  | insert t => exact .inl ⟨rfl, edited_insert h t⟩
  | newline => exact .inl ⟨rfl, edited_insert h ['\n']⟩
  | clearLine => exact .inl ⟨rfl, edited_clearLine h⟩
  | backspace => exact .inl ⟨rfl, edited_backspace h⟩
  | toLineEnd line => exact .inl ⟨rfl, edited_toLineEnd h line⟩
  | select anchor cursor => exact .inl ⟨rfl, edited_select h anchor cursor⟩
  | moveTo pos => exact .inl ⟨rfl, edited_moveTo h pos⟩
  | left => exact .inl ⟨rfl, edited_left h⟩
  | right => exact .inl ⟨rfl, edited_right h⟩
  | home => exact .inl ⟨rfl, edited_moveTo h _⟩
  | toEnd => exact .inl ⟨rfl, edited_moveTo h _⟩
  | openPopup typed candidates => exact .inr (.inl ⟨typed, candidates, rfl, rfl⟩)
  | acceptPopup => exact .inl ⟨rfl, edited_acceptPopup h⟩
  | cancelPopup => exact .inl ⟨rfl, edited_cancelPopup h⟩
  | popupNext => exact (popupNext_cases h).imp (⟨rfl, ·⟩) fun hb => .inr ⟨rfl, rfl, hb⟩
  | popupPrev => exact (popupPrev_cases h).imp (⟨rfl, ·⟩) fun hb => .inr ⟨rfl, rfl, hb⟩
  | up => exact (up_cases h).imp (⟨rfl, ·⟩) fun hb => .inr ⟨rfl, rfl, hb⟩
  | down => exact (down_cases h).imp (⟨rfl, ·⟩) fun hb => .inr ⟨rfl, rfl, hb⟩

/-- Every operation keeps the invariant. -/
theorem sound_apply (h : b.Sound) (op : BufferOp) : (b.apply op).Sound := by
  rcases apply_cases h op with ⟨-, hedited⟩ | ⟨typed, candidates, -, hopen⟩ | ⟨-, -, hbrowsed⟩
  -- an edit, a popup that opens, or a step through the popup
  · exact hedited.sound h
  · rw [hopen]
    refine ⟨h.cursor, h.anchor, ?_⟩
    rintro p ⟨⟩
    exact ⟨⟨h.cursor, nofun⟩, rfl⟩
  · obtain ⟨p, -, index, hfits, hpopup, hshown, hanchor⟩ := hbrowsed.inv h
    have hcursor := hfits.shown_le
    rw [hshown] at hcursor
    refine ⟨hcursor, fun a ha => (hanchor a ha).1, ?_⟩
    intro q hq
    rw [hpopup] at hq
    cases hq
    exact ⟨hfits, hshown⟩

/-- Right after an operation that has changed the text nothing is selected. -/
theorem selection_of_text_changed (h : b.Sound) (op : BufferOp)
    (hchanged : (b.apply op).text ≠ b.text) :
    (b.apply op).selection = ((b.apply op).cursor, (b.apply op).cursor) := by
  have hanchor : ∀ a ∈ (b.apply op).anchor, (b.apply op).text = b.text := by
    rcases apply_cases h op with ⟨-, hedited⟩ | ⟨typed, candidates, -, hopen⟩ | ⟨-, -, hbrowsed⟩
    · exact fun a ha => (hedited.anchor a ha).2
    · intro a _
      rw [hopen]
    · obtain ⟨p, -, index, -, -, -, hkept⟩ := hbrowsed.inv h
      exact fun a ha => (hkept a ha).2
  have hnone : (b.apply op).anchor = none :=
    Option.eq_none_iff_forall_ne_some.mpr fun a ha => hchanged (hanchor a ha)
  simp only [selection, hnone]

/-- An operation that changes text or cursor closes the popup, unless it moves the
highlight. -/
theorem popup_of_changed (h : b.Sound) {op : BufferOp} (hop : op.browses = false)
    (hchanged : (b.apply op).text ≠ b.text ∨ (b.apply op).cursor ≠ b.cursor) :
    (b.apply op).popup = none := by
  rcases apply_cases h op with ⟨-, hedited⟩ | ⟨typed, candidates, -, hopen⟩ | ⟨-, hbrowses, -⟩
  · apply Option.eq_none_iff_forall_ne_some.mpr
    intro p hp
    obtain ⟨-, htext, hcursor⟩ := hedited.popup p hp
    rcases hchanged with hchanged | hchanged
    · exact hchanged htext
    · exact hchanged hcursor
  · rw [hopen] at hchanged
    -- a popup opens on the text as it is
    simp at hchanged
  · rw [hop] at hbrowses
    cases hbrowses

/-- The selection is an ordered pair of positions in the text. -/
theorem Sound.selection_ordered (h : b.Sound) :
    b.selection.1 ≤ b.selection.2 ∧ b.selection.2 ≤ b.text.length := by
  have hcursor := h.cursor
  unfold selection
  split
  next => exact ⟨Nat.le_refl _, hcursor⟩
  next a ha =>
    have hanchor := h.anchor a ha
    constructor
    · simp only
      omega
    · simp only
      omega

end Steps

/-! ## Runs -/

theorem applyAll_concat (b : Buffer) (ops : List BufferOp) (op : BufferOp) :
    b.applyAll (ops ++ [op]) = (b.applyAll ops).apply op := by
  simp [applyAll]

theorem sound_empty : Sound {} := ⟨Nat.le_refl _, nofun, nofun⟩

/-- Every run from a sound buffer keeps the invariant. -/
theorem sound_applyAll {b : Buffer} (h : b.Sound) (ops : List BufferOp) :
    (b.applyAll ops).Sound := by
  induction ops generalizing b with
  | nil => exact h
  | cons op ops ih => exact ih (sound_apply h op)

/-- A popup was opened in a run, on what the run had come to by then, and no other one
was opened since. -/
def OpenedIn (b : Buffer) (ops : List BufferOp) (p : Popup) : Prop :=
  ∃ earlier typed candidates later,
    ops = earlier ++ .openPopup typed candidates :: later ∧
    (∀ op ∈ later, op.opens = false) ∧
    p = ⟨(b.applyAll earlier).text, (b.applyAll earlier).cursor, typed, candidates, p.index⟩

/-- Another operation that opens nothing, and another highlight, leave the popup the one
that was opened. -/
theorem OpenedIn.concat {b : Buffer} {ops : List BufferOp} {p : Popup} (h : b.OpenedIn ops p)
    {op : BufferOp} (hop : op.opens = false) (index : Option Nat) :
    b.OpenedIn (ops ++ [op]) { p with index } := by
  obtain ⟨earlier, typed, candidates, later, rfl, hlater, hp⟩ := h
  refine ⟨earlier, typed, candidates, later ++ [op], by simp, ?_, by rw [hp]⟩
  intro other hother
  rcases List.mem_append.mp hother with hother | hother
  · exact hlater other hother
  · rw [List.mem_singleton.mp hother]
    exact hop

/-- The popup that is open after a run was opened in it. -/
theorem opened_applyAll {b : Buffer} (h : b.Sound) (hclosed : b.popup = none)
    (ops : List BufferOp) : ∀ p ∈ (b.applyAll ops).popup, b.OpenedIn ops p := by
  -- the last operation decides, so the run is taken apart from its end
  induction ops using List.reverseRecOn with
  | nil =>
    intro p hp
    rw [show b.applyAll [] = b from rfl, hclosed] at hp
    cases hp
  | append_singleton ops op ih =>
    have hsound := sound_applyAll h ops
    rw [applyAll_concat]
    intro p hp
    rcases apply_cases hsound op with
      ⟨hop, hedited⟩ | ⟨typed, candidates, rfl, hopen⟩ | ⟨hop, -, hbrowsed⟩
    · obtain ⟨hbefore, -, -⟩ := hedited.popup p hp
      exact (ih p hbefore).concat hop p.index
    · rw [hopen] at hp
      cases hp
      exact ⟨ops, typed, candidates, [], rfl, nofun, rfl⟩
    · obtain ⟨q, hq, index, -, hpopup, -, -⟩ := hbrowsed.inv hsound
      rw [hpopup] at hp
      cases hp
      exact (ih q hq).concat hop index

/-- After any run of operations from an empty buffer the cursor lies in the text, and the
selection is an ordered pair of positions in it. An operation that changes the text leaves
nothing selected, and selecting leaves the two positions cut to the text and in order. An
open popup was opened in the run, and the buffer holds what was there then, with the
highlighted candidate, if there is one, in place of what was typed; every other operation
that changes text or cursor closes it. -/
theorem buffer_stays_consistent (ops : List BufferOp) :
    let b := applyAll {} ops
    b.cursor ≤ b.text.length ∧
    (b.selection.1 ≤ b.selection.2 ∧ b.selection.2 ≤ b.text.length) ∧
    (∀ op, (b.apply op).text ≠ b.text →
      (b.apply op).selection = ((b.apply op).cursor, (b.apply op).cursor)) ∧
    (∀ anchor cursor, (b.apply (.select anchor cursor)).selection =
      (min (min anchor.toNat b.text.length) (min cursor.toNat b.text.length),
        max (min anchor.toNat b.text.length) (min cursor.toNat b.text.length))) ∧
    (∀ p, b.popup = some p → ∃ earlier typed candidates later,
      ops = earlier ++ .openPopup typed candidates :: later ∧
      (∀ op ∈ later, op.opens = false) ∧
      let saved := applyAll {} earlier
      p.candidates = candidates ∧
      ((p.index = none ∧ b.text = saved.text ∧ b.cursor = saved.cursor) ∨
        ∃ i c, p.index = some i ∧ candidates[i]? = some c ∧
          b.text = saved.text.take (saved.cursor - typed) ++ c ++
            saved.text.drop saved.cursor ∧
          b.cursor = saved.cursor - typed + c.length)) ∧
    (∀ op, op.browses = false →
      ((b.apply op).text ≠ b.text ∨ (b.apply op).cursor ≠ b.cursor) →
      (b.apply op).popup = none) := by
  intro b
  have hsound : b.Sound := sound_applyAll sound_empty ops
  refine ⟨hsound.cursor, hsound.selection_ordered, selection_of_text_changed hsound,
    selection_select b, ?_, fun op hop => popup_of_changed hsound hop⟩
  intro p hp
  -- the popup was opened by one of the operations, on the text that those before it had left
  obtain ⟨earlier, typed, candidates, later, hops, hlater, hopened⟩ :=
    opened_applyAll sound_empty rfl ops p hp
  obtain ⟨hfits, hshown⟩ := hsound.popup p hp
  refine ⟨earlier, typed, candidates, later, hops, hlater, by rw [hopened], ?_⟩
  rcases hfits.shown_cases with ⟨hindex, hnone⟩ | ⟨i, c, hindex, hc, hsome⟩
  · left
    rw [hnone, hopened] at hshown
    obtain ⟨htext, hcursor⟩ := Prod.mk.inj hshown
    exact ⟨hindex, htext.symm, hcursor.symm⟩
  · right
    rw [hsome, hopened] at hshown
    rw [hopened] at hc
    obtain ⟨htext, hcursor⟩ := Prod.mk.inj hshown
    exact ⟨i, c, hindex, hc, htext.symm, hcursor.symm⟩

/-- With the second of three candidates highlighted in place of two characters that were
typed, the popup is open, and going to the start of the line closes it. -/
theorem buffer_stays_consistent_sample :
    let ops : List BufferOp :=
      [.insert "x = pr".toList, .select 2 0, .moveTo 6,
        .openPopup 2 ["print".toList, "property".toList, "pr".toList], .down, .popupNext]
    let b := applyAll {} ops
    b.text = "x = property".toList ∧ b.popup.isSome = true ∧
      (b.apply .home).cursor ≠ b.cursor ∧ (b.apply .home).popup = none := by
  intro ops b
  have hmoved : (b.apply .home).cursor ≠ b.cursor := by decide +kernel
  refine ⟨by decide +kernel, by decide +kernel, hmoved, ?_⟩
  obtain ⟨-, -, -, -, -, hcloses⟩ := buffer_stays_consistent ops
  exact hcloses .home rfl (.inr hmoved)

end Buffer

end Scratchpad
