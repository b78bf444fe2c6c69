import Scratchpad.Script.Split
import Scratchpad.Session.Start

/-!
# Replaying a script

Each snippet is inserted into a fresh scratchpad and committed: one of several lines
as a selection, any other as the line it is on.
-/

namespace Scratchpad

/-- Source of notes. -/
def replaySource : String := "bufrepl.frontends.cli.file_runner"

/-- Inserts a snippet at the cursor and commits it. -/
def replaySnippet (snippet : Text) : Run Unit := do
  let start := (← Run.world).buffer.cursor
  let change (f : Buffer → Buffer) : Run Unit :=
    Run.update fun w => { w with buffer := f w.buffer }
  change (·.insert snippet)
  if snippet.contains '\n' then change fun b => b.select start b.cursor
  if !(← commit) then
    -- a line that does not compile is committed as a selection, to show why
    change fun b => b.select start b.cursor
    let _ ← commit
  Run.update fun w => w.note replaySource s!"replayed snippet {w.history.entries.length}".toList

/-- The name of the host of a script. -/
def scriptHost : Scope := { names := [("__name__", .ofString "__bufrepl__")] }

/-- A fresh scratchpad for a script. -/
def World.forScript (settings : Settings) : World :=
  World.start settings scriptHost (some ("buffer", Surface.ofBuffer [] [])) #[]

/-- Replays snippets in a fresh scratchpad. -/
def replay (settings : Settings) (snippets : List Text) : Ending Unit × World :=
  Run.forEach snippets replaySnippet (World.forScript settings).openHeader

end Scratchpad
