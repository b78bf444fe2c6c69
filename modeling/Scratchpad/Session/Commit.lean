import Scratchpad.Completion.Candidates
import Scratchpad.Session.Evaluation
import Scratchpad.Session.Transcript

/-!
# The handlers of a session

`commit` evaluates the cursor's line, or the selected lines, and writes the output
below them. `requestCompletion` opens the popup for the symbol before the cursor.
-/

namespace Scratchpad

/-- What a commit evaluates, and the line below which its output goes. -/
structure Target where
  source : Text
  last : Nat
  /-- The source is a selection. -/
  selected : Bool
deriving DecidableEq, Repr

namespace Buffer

/-- The lines that a selection over several lines touches, as a range of positions; a
line at whose start the selection ends is not touched. -/
def touchedLines (t : Text) (start stop : Nat) : Nat × Nat :=
  let first := lineOf t start
  let last := lineOf t stop
  if first < last then
    (lineStart t first, if columnOf t stop > 0 then lineStart t (last + 1) else stop)
  else (start, stop)

/-- What a commit evaluates. -/
def target (b : Buffer) : Target :=
  let (start, stop) := b.selection
  if start = stop then { source := b.currentLine, last := b.line, selected := false }
  else
    let (start, stop) := touchedLines b.text start stop
    { source := slice b.text start stop, last := lineOf b.text stop, selected := true }

/-- Opens a line for output below a line. -/
def openBelow (b : Buffer) (line : Nat) : Buffer := (b.toLineEnd line).newline

/-- Writes the block of an outcome on a line of its own. -/
def writeBlock (b : Buffer) (block? : Option Text) : Buffer := b.closeLine.insertBlock block?

end Buffer

/-- Source of notes. -/
def sessionSource : String := "bufrepl.core.session"

/-- The outcome that is shown and its block. A value whose text cannot be computed
comes to an error, unless it asks the scratchpad to end. -/
def shownOutcome (o : Outcome) : Run (Outcome × Option Text) := do
  let w ← Run.world
  match w.outcomeBlock w.settings.edge w.settings.indent o with
  | .ok block? => return (o, block?)
  | .error e =>
    if e.isFault then
      let message ← Run.ofExcept (w.describe e)
      return (.error message, some (markLines marker message))
    else .raise e

/-- Evaluates a compiled snippet whose output line is open, and records it. -/
def finishCommit (source : Text) (c : Compiled) : Run Unit := do
  let o ← runCompiled c
  let (o, block?) ← shownOutcome o
  Run.update fun w =>
    { w with buffer := w.buffer.writeBlock block?, history := w.history.record source }.note
      sessionSource
      s!"committed {lineCount source} line(s): {o.kindName}".toList

/-- Evaluates the cursor's line or the selected lines. A line that does not compile is
left alone, and the answer is no. -/
def commit : Run Bool := do
  let t := (← Run.world).buffer.target
  let c := compile t.source
  match c, t.selected with
  | .error _, false =>
    Run.update (·.note sessionSource ("continuation line: ".toList ++ quoted t.source))
    return false
  | c, _ =>
    Run.update fun w => { w with buffer := w.buffer.openBelow t.last }
    finishCommit t.source c
    return true

/-- Opens the popup for the symbol before the cursor, if anything completes it. -/
def requestCompletion : Run Unit := do
  let b := (← Run.world).buffer
  let r := Request.ofText (b.currentLine.take b.col)
  let found ← candidates r
  if !found.isEmpty then
    Run.update fun w =>
      { w with buffer := w.buffer.openPopup r.typed.length (found.map String.toList) }

/-- The enter key: accepts the popup, or commits; a line that is left alone is broken
at the cursor. -/
def pressEnter : Run Unit := do
  if (← Run.world).buffer.popup.isSome then
    Run.update fun w => { w with buffer := w.buffer.acceptPopup }
  else if !(← commit) then
    Run.update fun w => { w with buffer := w.buffer.newline }

end Scratchpad
