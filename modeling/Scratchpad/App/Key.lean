import Scratchpad.Buffer.Motion
import Scratchpad.Session.Start

/-!
# Keys of the application

What each key does in the full-screen application.
-/

namespace Scratchpad

/-- A key. -/
inductive Key where
  | character (c : Char)
  | enter
  | complete
  | older
  | newer
  | dismiss
  | quit
  | left
  | right
  | up
  | down
  | backspace
  | home
  | toEnd
deriving DecidableEq, Repr

/-- Changes the buffer. -/
def changeBuffer (f : Buffer → Buffer) : Run Unit :=
  Run.update fun w => { w with buffer := f w.buffer }

/-- What a key does. -/
def Key.press : Key → Run Unit
  | .character c => changeBuffer (·.insert [c])
  | .enter => pressEnter
  | .complete => requestCompletion
  | .older => Run.update World.historyPrev
  | .newer => Run.update World.historyNext
  | .dismiss => changeBuffer Buffer.cancelPopup
  | .quit => Run.update fun w => { w with stopped := true }
  | .left => changeBuffer Buffer.left
  | .right => changeBuffer Buffer.right
  | .up => changeBuffer Buffer.up
  | .down => changeBuffer Buffer.down
  | .backspace => changeBuffer Buffer.backspace
  | .home => changeBuffer Buffer.home
  | .toEnd => changeBuffer Buffer.toEnd

/-- The names of a main program, as the host's names of an application. -/
def mainScope (names : List (String × Value)) : Scope :=
  names.foldl (fun s (n, v) => s.bind n v)
    { names :=
        [("__name__", .ofString "__main__"), ("__doc__", .none), ("__package__", .none),
         ("__loader__", .none), ("__spec__", .none)] }

/-- The application at its start. -/
def World.forApp (settings : Settings) (host : Scope) (cells : Cells) : World :=
  let w := (World.start settings host (some ("buffer", Surface.ofBuffer [] [])) cells).openHeader
  { w with names := w.names.bind "app" (.part .app) }

end Scratchpad
