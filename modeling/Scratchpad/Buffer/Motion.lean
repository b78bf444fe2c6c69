import Scratchpad.Buffer.Popup

/-!
# Cursor keys

Left and right stay within the line. Up and down move the popup while one is
shown; otherwise they move by a line and aim for the column in which a run of
them began, and do nothing on the first and on the last line.
-/

namespace Scratchpad.Buffer

/-- One character to the left within the line. -/
def left (b : Buffer) : Buffer :=
  if b.lineBefore.isEmpty then b else b.moveTo (b.cursor - 1 : Nat)

/-- One character to the right within the line. -/
def right (b : Buffer) : Buffer :=
  if b.lineAfter.isEmpty then b else b.moveTo (b.cursor + 1 : Nat)

/-- To the start of the line. -/
def home (b : Buffer) : Buffer := b.moveTo (b.cursor - b.lineBefore.length : Nat)

/-- To the end of the line. -/
def toEnd (b : Buffer) : Buffer := b.moveTo (b.cursor + b.lineAfter.length : Nat)

/-- The column that a vertical step aims for. A kept column 0 counts as none. -/
def aim (b : Buffer) : Nat :=
  match b.column with
  | some (c + 1) => c + 1
  | _ => b.col

/-- A step to another line, which keeps the column aimed for. -/
def stepTo (b : Buffer) (line : Nat) : Buffer :=
  let column := b.aim
  let target := lineStart b.text line + min column (lineText b.text line).length
  { b.moveTo target with column := some column }

/-- The up key. -/
def up (b : Buffer) : Buffer :=
  if b.popup.isSome then b.popupPrev
  else if b.line = 0 then b
  else b.stepTo (b.line - 1)

/-- The down key. -/
def down (b : Buffer) : Buffer :=
  if b.popup.isSome then b.popupNext
  else if b.line + 1 = lineCount b.text then b
  else b.stepTo (b.line + 1)

end Scratchpad.Buffer
