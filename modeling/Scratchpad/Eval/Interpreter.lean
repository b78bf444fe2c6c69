import Scratchpad.Eval.Callable
import Scratchpad.Eval.Statement
import Scratchpad.Syntax.Compile

/-!
# The interpreter

The rules of all forms of code, tied together. `rules n` can follow `n` levels of
nested code; a run that needs more ends as spent.
-/

namespace Scratchpad

/-- Rules with fuel for the depth of nesting. -/
def rules : Nat → Rules
  | 0 =>
    { expression := fun _ _ => .spend
      block := fun _ _ => .spend
      call := fun _ _ _ => .spend
      next := fun _ => .spend }
  | n + 1 =>
    { expression := fun env e => (rules n).evaluate env e
      block := fun env b => (rules n).runBlock env b
      call := fun f positional named => (rules n).callValue f positional named
      next := fun v => (rules n).nextOf v }

/-- Depth to which code nests. -/
def maxNesting : Nat := 1000000

/-- Binds the built-in names again if their key was deleted. -/
def Namespace.withBuiltins (ns : Namespace) : Namespace :=
  if (ns.own.find? builtinsName).isSome then ns else ns.bind builtinsName .builtinsModule

/-- Runs compiled code at the top level. Statements have no value of their own. -/
def Code.run (c : Code) : Run Value := do
  .update fun w => { w with names := w.names.withBuiltins, depth := 0 }
  let r := rules maxNesting
  match c with
  | .expression e => r.expression {} e
  | .statements b =>
    Run.prepareAnnotations {} b
    let _ ← r.block {} b
    return .none

end Scratchpad
