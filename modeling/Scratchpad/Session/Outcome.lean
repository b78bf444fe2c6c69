import Scratchpad.Marking
import Scratchpad.Value.Show

/-!
# Outcomes

What a snippet came to, and the block of text that shows it. A mapping is shown entry
by entry, any other value by its plain text; every line of the block starts with the
marker.
-/

namespace Scratchpad

/-- What a snippet came to. -/
inductive Outcome where
  | value (v : Value)
  | noValue
  /-- The snippet is not complete. -/
  | incomplete
  | error (message : Text)

/-- Name of the kind of an outcome. -/
def Outcome.kindName : Outcome → String
  | .value _ => "VALUE"
  | .noValue => "NO_VALUE"
  | .incomplete => "INCOMPLETE"
  | .error _ => "ERROR"

namespace World

/-- The texts of a mapping's entries, in the order of the mapping. -/
def entryPairs (w : World) (entries : List (Value × Value)) : Except Raised (List Entry) :=
  entries.mapM fun (k, v) => do
    let k ← w.str k
    return (k, ← w.str v)

/-- The text of a mapping. -/
def mappingText (w : World) (edge indent : Int) (entries : List (Value × Value)) : Shown := do
  return layoutEntries edge indent (← w.entryPairs entries)

/-- The text of a value as a result. -/
def resultText (w : World) (edge indent : Int) (v : Value) : Shown :=
  match w.mapping? v with
  | some entries => w.mappingText edge indent entries
  | none => w.str v

/-- The block that shows an outcome, if there is anything to show. -/
def outcomeBlock (w : World) (edge indent : Int) (o : Outcome) : Except Raised (Option Text) := do
  match o with
  | .value v => return some (markLines marker (← w.resultText edge indent v))
  | .error message => return some (markLines marker message)
  | .noValue | .incomplete => return none

end World

end Scratchpad
