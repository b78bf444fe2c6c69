import Scratchpad.Marking
import Scratchpad.World

/-!
# The transcript

What the session does to the buffer on its own: the header line, printed output,
and the entries of the history that are shown in place of what was typed.
-/

namespace Scratchpad

namespace Buffer

/-- Prints a chunk of output at the cursor. Output that starts a line gets the
marker; a chunk that does not end its line is continued by the next one. -/
def printChunk (b : Buffer) (chunk : Text) : Buffer :=
  let t := if b.col = 0 then marker ++ chunk else chunk
  if t.getLast? = some '\n' then
    let body := t.dropLast
    (if body.isEmpty then b else b.insert body).newline
  else if t.isEmpty then b
  else b.insert t

/-- Ends an output line that is still open. -/
def closeLine (b : Buffer) : Buffer := if b.col > 0 then b.newline else b

/-- Inserts a block of output, if there is one, and ends its line. -/
def insertBlock (b : Buffer) (block? : Option Text) : Buffer :=
  match block? with
  | none => b
  | some t => (b.insert t).newline

/-- Removes the cursor's line and the break before it, a number of times. -/
def removeLines : Nat → Buffer → Buffer
  | 0, b => b
  | n + 1, b => removeLines n b.clearLine.backspace

/-- Replaces the last `count` lines up to the cursor's one by a text. -/
def replaceShown (b : Buffer) (count : Nat) (t : Text) : Buffer :=
  (removeLines (count - 1) b).clearLine.insert t

/-- Writes the header line. -/
def header (b : Buffer) (title : Text) : Buffer := (b.insert ("# ".toList ++ title)).newline

end Buffer

/-- Sources of notes. -/
def historySource : String := "bufrepl.core.history"

namespace World

/-- Writes the header line. -/
def openHeader (w : World) : World := { w with buffer := w.buffer.header w.settings.title }

/-- Notes a step in the history. -/
def noteStep (w : World) (direction : String) : World :=
  w.note historySource
    s!"history {direction}: pos={w.history.pos}/{w.history.entries.length}".toList

/-- Moves to the entry before without showing it. -/
def stepPrev (w : World) : Option Text × World :=
  match w.history.prev? with
  | none => (none, w)
  | some (t, h) => (some t, { w with history := h }.noteStep "prev")

/-- Moves to the entry after without showing it. -/
def stepNext (w : World) : Option Text × World :=
  match w.history.next? with
  | none => (none, w)
  | some (t, h) => (some t, { w with history := h }.noteStep "next")

/-- Shows the entry before, or moves up in the popup. -/
def historyPrev (w : World) : World :=
  if w.buffer.popup.isSome then { w with buffer := w.buffer.popupPrev }
  else
    let count := w.history.linesToErase
    match w.stepPrev with
    | (none, w) => w
    | (some t, w) => { w with buffer := w.buffer.replaceShown count t }

/-- Shows the entry after, or moves down in the popup. -/
def historyNext (w : World) : World :=
  if w.buffer.popup.isSome then { w with buffer := w.buffer.popupNext }
  else
    let count := w.history.linesToErase
    match w.stepNext with
    | (none, w) => w
    | (some t, w) => { w with buffer := w.buffer.replaceShown count t }

end World

end Scratchpad
