import Scratchpad.Buffer.Basic

/-!
# The completion popup

Moving through the popup cycles through "none" and the candidates. The buffer
always shows the text on which the popup was opened, with the typed part
replaced by the highlighted candidate if there is one.
-/

namespace Scratchpad

namespace Popup

/-- The text before the cursor without the typed part. -/
def stem (p : Popup) : Text := p.text.take (p.cursor - p.typed)

/-- The highlighted candidate. -/
def chosen? (p : Popup) : Option Text := p.index.bind (p.candidates[·]?)

/-- The text and cursor that the popup shows. -/
def shown (p : Popup) : Text × Nat :=
  match p.chosen? with
  | none => (p.text, p.cursor)
  | some c => (p.stem ++ c ++ p.text.drop p.cursor, p.stem.length + c.length)

/-- The index after a step down: from none to the first candidate, and from the
last one to none. -/
def indexBelow (p : Popup) : Option Nat :=
  match p.index with
  | none => some 0
  | some i => if i + 1 = p.candidates.length then none else some (i + 1)

/-- The index after a step up: from none to the last candidate, and from the
first one to none. -/
def indexAbove (p : Popup) : Option Nat :=
  match p.index with
  | none => some (p.candidates.length - 1)
  | some 0 => none
  | some (i + 1) => some i

/-- Highlights a candidate; without candidates nothing is highlighted. -/
def highlight (p : Popup) (index : Option Nat) : Popup :=
  if p.candidates.isEmpty then p else { p with index }

end Popup

namespace Buffer

/-- Opens a popup whose candidates replace the `typed` characters before the
cursor. -/
def openPopup (b : Buffer) (typed : Nat) (candidates : List Text) : Buffer :=
  { b with popup := some ⟨b.text, b.cursor, typed, candidates, none⟩ }

/-- Shows the popup with another candidate highlighted. -/
def highlight (b : Buffer) (p : Popup) (index : Option Nat) : Buffer :=
  let p := p.highlight index
  { b.put p.shown.1 p.shown.2 with popup := some p }

/-- Moves the highlight down. -/
def popupNext (b : Buffer) : Buffer :=
  match b.popup with
  | none => b
  | some p => b.highlight p p.indexBelow

/-- Moves the highlight up. -/
def popupPrev (b : Buffer) : Buffer :=
  match b.popup with
  | none => b
  | some p => b.highlight p p.indexAbove

/-- Closes the popup and keeps the highlighted candidate, the first one if none
is highlighted. -/
def acceptPopup (b : Buffer) : Buffer :=
  match b.popup with
  | none => b
  | some p =>
    let b := if p.index.isNone && !p.candidates.isEmpty then b.highlight p (some 0) else b
    { b with popup := none }

/-- Closes the popup and restores what was typed. -/
def cancelPopup (b : Buffer) : Buffer :=
  match b.popup with
  | none => b
  | some p => { b.highlight p none with popup := none }

end Buffer

end Scratchpad
