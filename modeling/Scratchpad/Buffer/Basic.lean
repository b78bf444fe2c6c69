import Scratchpad.Buffer.Document

/-!
# The buffer

A buffer holds a text, a cursor, an optional selection anchor and an optional
completion popup. All changes go through `Buffer.put`, which keeps three rules:

* a change of the text clears the selection and closes the popup;
* a change of the cursor closes the popup;
* either forgets the column that runs of up and down keep.
-/

namespace Scratchpad

/-- A completion popup, with the text and cursor it was opened on. -/
structure Popup where
  /-- The text when the popup was opened. -/
  text : Text
  /-- The cursor when the popup was opened. -/
  cursor : Nat
  /-- Number of characters before the cursor that a candidate replaces. -/
  typed : Nat
  candidates : List Text
  /-- The highlighted candidate. -/
  index : Option Nat := none
deriving DecidableEq, Repr

/-- An editable text with a cursor. -/
structure Buffer where
  text : Text := []
  cursor : Nat := 0
  /-- Where the selection began; its other end is the cursor. -/
  anchor : Option Nat := none
  popup : Option Popup := none
  /-- The column that a run of up and down keys aims for. -/
  column : Option Nat := none
deriving DecidableEq, Repr

namespace Buffer

/-- Puts a new text and cursor in place. -/
def put (b : Buffer) (text : Text) (cursor : Nat) : Buffer :=
  let b : Buffer := if text = b.text then b else { text, cursor := b.cursor }
  if cursor = b.cursor then b else { b with cursor, popup := none, column := none }

/-- Puts the cursor at a position, cut to the text. -/
def moveTo (b : Buffer) (pos : Int) : Buffer :=
  b.put b.text (min pos.toNat b.text.length)

/-- Replaces the whole text; the cursor stays unless it would be past the end. -/
def setText (b : Buffer) (text : Text) : Buffer :=
  let b := if b.cursor > text.length then b.moveTo text.length else b
  b.put text b.cursor

/-! ## Reading -/

/-- The line on which the cursor is. -/
def line (b : Buffer) : Nat := lineOf b.text b.cursor

/-- The column of the cursor. -/
def col (b : Buffer) : Nat := columnOf b.text b.cursor

/-- The text before the cursor. -/
def before (b : Buffer) : Text := b.text.take b.cursor

/-- The text after the cursor. -/
def after (b : Buffer) : Text := b.text.drop b.cursor

/-- The part of the cursor's line before the cursor. -/
def lineBefore (b : Buffer) : Text := (b.before.reverse.takeWhile (· ≠ '\n')).reverse

/-- The part of the cursor's line after the cursor. -/
def lineAfter (b : Buffer) : Text := b.after.takeWhile (· ≠ '\n')

/-- The cursor's line. -/
def currentLine (b : Buffer) : Text := b.lineBefore ++ b.lineAfter

/-- The two ends of the selection in order; both are the cursor if nothing is
selected. -/
def selection (b : Buffer) : Nat × Nat :=
  match b.anchor with
  | none => (b.cursor, b.cursor)
  | some a => (min a b.cursor, max a b.cursor)

/-! ## Editing -/

/-- Inserts a text at the cursor and moves the cursor behind it. -/
def insert (b : Buffer) (t : Text) : Buffer :=
  b.put (b.before ++ t ++ b.after) (b.cursor + t.length)

/-- Breaks the line at the cursor. -/
def newline (b : Buffer) : Buffer := b.insert ['\n']

/-- Deletes the character before the cursor, if there is one. -/
def backspace (b : Buffer) : Buffer :=
  if b.cursor = 0 then b else b.put (b.text.take (b.cursor - 1) ++ b.after) (b.cursor - 1)

/-- Empties the cursor's line and leaves the cursor at its start. -/
def clearLine (b : Buffer) : Buffer :=
  let start := b.cursor - b.lineBefore.length
  b.put (b.text.take start ++ b.text.drop (b.cursor + b.lineAfter.length)) start

/-- Drops the selection. -/
def deselect (b : Buffer) : Buffer := { b with anchor := none }

/-- Drops the selection and goes to the end of a line, the nearest one if there
is no such line. -/
def toLineEnd (b : Buffer) (line : Int) : Buffer :=
  let b := b.deselect
  b.moveTo (lineEnd b.text (min line.toNat (lineCount b.text - 1)))

/-- Selects from an anchor to a cursor position. -/
def select (b : Buffer) (anchor cursor : Int) : Buffer :=
  let b := b.deselect.moveTo anchor
  { b with anchor := some b.cursor }.moveTo cursor

end Buffer

end Scratchpad
