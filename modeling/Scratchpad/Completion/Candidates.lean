import Scratchpad.Completion.Request
import Scratchpad.Eval.Interpreter

/-!
# Completion candidates

A path is evaluated like an expression; if that fails there are no candidates. The
candidates behind a path are the attributes of its value, and the string keys of a
mapping; behind a colon only those that can be called. The editing object that the
session knows offers the names it was described with.

To tell what can be called, every attribute is read, one after another. What that runs
may print, change anything, or end the request.
-/

namespace Scratchpad

/-- A name that a value offers, and what it stands for. -/
abbrev Member := String × Value

/-- Adds a member unless its name is there. -/
def addMember (members : List Member) (m : Member) : List Member :=
  if (members.lookup m.1).isSome then members else members ++ [m]

/-- What an attribute stands for. One that raises a fault when it is read stands for
nothing. -/
def memberValue (v : Value) (n : String) : Run Value := do
  match ← Run.attempt ((rules maxNesting).getAttribute v n) with
  | .ok x => return x
  | .error e => if e.isFault then return .none else .raise e

/-- Reads attributes in order. -/
def readMembers (v : Value) : List String → Run (List Member)
  | [] => return []
  | n :: rest => do
    let x ← memberValue v n
    return (n, x) :: (← readMembers v rest)

/-- The keys of a mapping that are texts, with what they are bound to. -/
def keyMembers (w : World) (v : Value) : List Member :=
  ((w.mapping? v).getD []).filterMap fun (k, x) =>
    match k with
    | .str t => some (String.ofList t, x)
    | _ => none

/-- The members of a value. An attribute hides a key of its name. -/
def members (v : Value) : Run (List Member) := do
  let read ← readMembers v (sortNames ((← Run.world).attributeNames v))
  return (keyMembers (← Run.world) v).foldl addMember read

/-- The names that are offered behind an operator. -/
def namesOf (v : Value) (operator : Operator) : Run (List String) := do
  let described := (← Run.world).surface.filter fun s => Run.isSame s.object v
  match described, operator with
  | some s, .method => return s.methods
  | some s, _ => return s.memberNames
  | none, operator =>
    let found ← members v
    if operator = .method then
      let cells ← Run.cells
      return (found.filter fun m => canBeCalled cells m.2).map (·.1)
    else return found.map (·.1)

/-- The names that start with what was typed, in order. -/
def matching (typed : Text) (names : List String) : List String :=
  sortNames (names.filter fun n => typed.isPrefixOf n.toList)

/-- Source of notes. -/
def completionSource : String := "bufrepl.core.completion"

/-- The value of a path. -/
def pathValue (path : Text) : Run Value :=
  match compileExpression path with
  | .error f => .raise (.of f.name (f.message "<string>"))
  | .ok e => (Code.expression e).run

/-- The value of a path, or the message of the fault that keeps it from having one. -/
def resolvePath (path : Text) : Run (Except Text Value) := do
  match ← Run.attempt (pathValue path) with
  | .ok v => return .ok v
  | .error e => if e.isFault then return .error (← Run.str e.value) else .raise e

/-- The names among which a request chooses; none if its path has no value. -/
def requestedNames (r : Request) : Run (Option (List String)) := do
  if r.path.isEmpty then return some (← Run.world).names.visibleNames
  else
    match ← resolvePath r.path with
    | .ok v => return some (← namesOf v r.operator)
    | .error message =>
      let shown := "completion: cannot resolve ".toList ++ quoted r.path
      Run.update (·.note completionSource (shown ++ ": ".toList ++ message))
      return none

/-- The candidates of a request. -/
def candidates (r : Request) : Run (List String) := do
  match ← requestedNames r with
  | none => return []
  | some names =>
    let found := matching r.typed names
    let shown := "completion: path=".toList ++ quoted r.path ++ " op=".toList ++
      quoted r.operator.text ++ " partial=".toList ++ quoted r.typed
    Run.update (·.note completionSource (shown ++ s!" -> {found.length} candidates".toList))
    return found

end Scratchpad
