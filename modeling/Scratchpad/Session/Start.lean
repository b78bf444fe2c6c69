import Scratchpad.Session.Commit
import Scratchpad.Session.Surface

/-!
# Starting a session

The scratchpad at its start: an empty buffer and history, the host's names, and in
the sandbox the session's `print`, the session itself and the editing object.
-/

namespace Scratchpad

/-- The session's `print` as a value. -/
def sessionPrint : Value := .method (.part .session) "_print"

namespace World

/-- A session over the host's names. The editing object is bound under a name. -/
def start (settings : Settings) (host : Scope) (surface : Option (String × Surface))
    (cells : Cells) : World :=
  let names := Namespace.ofBindings host
    [("print", sessionPrint), ("repl", .part .session)]
  let names := match surface with
    | some (n, s) => names.bind n s.object
    | none => names
  { settings, names, surface := surface.map (·.2), cells }

/-- Opens the popup with candidates for the `typed` characters before the cursor. -/
def showPopup (w : World) (typed : Int) (candidates : List Text) : Except Raised World :=
  if typed < 0 && !candidates.isEmpty then .error ⟨"AssertionError", []⟩
  else .ok { w with buffer := w.buffer.openPopup typed.toNat candidates }

end World

end Scratchpad
