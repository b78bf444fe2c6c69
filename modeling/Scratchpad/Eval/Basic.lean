import Scratchpad.Value.Show
import Scratchpad.World

/-!
# Running code

A rule for one form of code needs the rules for the code inside it. `Rules` holds
what a rule may call upon, so that each form has a rule of its own and the
interpreter ties them together with fuel for the depth of nesting.
-/

namespace Scratchpad

/-- How a block of statements goes on. -/
inductive Flow where
  | next
  | leaveLoop
  | nextRound
  | giveBack (v : Value)

/-- The rules that a rule may call upon. -/
structure Rules where
  expression : Env → Expr → Run Value
  block : Env → Block → Run Flow
  call : Value → List Value → List (String × Value) → Run Value
  /-- The next item of an iterator. -/
  next : Value → Run (Option Value)

/-- Bound on the rounds of a loop. -/
def maxRounds : Nat := 1000000000

/-- Bound on nested calls. -/
def maxCalls : Nat := 980

namespace Run

/-- Raises a complaint about the type of a value. -/
def typeFault {α : Type} (message : String) : Run α := raise (.typeError message)

/-- Name of the type of a value in complaints. -/
def typeName (v : Value) : Run String := return complaintTypeName (← cells) v

/-- Plain text of a value. -/
def str (v : Value) : Run Text := do ofExcept ((← world).str v)

/-- Written form of a value. -/
def written (v : Value) : Run Text := do ofExcept ((← world).write v)

/-- Counts one more call while a computation runs. -/
def counted {α : Type} (x : Run α) : Run α := do
  if (← world).depth ≥ maxCalls then raise .tooDeep
  update fun w => { w with depth := w.depth + 1 }
  finally_ x (update fun w => { w with depth := w.depth - 1 })

/-- Runs a computation for each item in order. -/
def forEach {α : Type} (xs : List α) (f : α → Run Unit) : Run Unit :=
  match xs with
  | [] => pure ()
  | x :: rest => do
    f x
    forEach rest f

end Run

/-- Whether a value counts as true: all do but zeros, the empty value, empty
collections and an empty history. -/
def truth (w : World) (v : Value) : Bool :=
  match v with
  | .none => false
  | .bool b => b
  | .int n => n != 0
  | .float x => !(x == 0)
  | .str t => !t.isEmpty
  | .bytes bs => !bs.isEmpty
  | .tuple xs => !xs.isEmpty
  | .range a b c => rangeLength a b c != 0
  | .list loc => !(w.cells.items loc).isEmpty
  | .dict loc | .proxy loc | .view _ loc => !(w.cells.entries loc).isEmpty
  | .part .history => !w.history.entries.isEmpty
  | .part .namespace => w.names.own.size != 0
  | _ => true

/-- Number of items of a value that has one. -/
def size? (w : World) (v : Value) : Option Nat :=
  match v with
  | .str t => some t.length
  | .bytes bs => some bs.length
  | .tuple xs => some xs.length
  | .range a b c => some (rangeLength a b c)
  | .list loc => some (w.cells.items loc).length
  | .dict loc | .proxy loc | .view _ loc => some (w.cells.entries loc).length
  | .part .history => some w.history.entries.length
  | .part .namespace => some w.names.own.size
  | _ => none

/-- A value that must be an integer. -/
def Run.integer (v : Value) : Run Int := do
  match v with
  | .int n => return n
  | .bool b => return if b then 1 else 0
  | _ => typeFault s!"'{← typeName v}' object cannot be interpreted as an integer"

end Scratchpad
