import Scratchpad.Eval.Item
import Scratchpad.Eval.Attribute
import Scratchpad.Eval.Variable

/-!
# Assignment

Binding a value to a name, an attribute, an item, or item by item to a list of
such targets, one of which may be starred and takes what the others leave.
-/

namespace Scratchpad

/-- Whether a target is starred. -/
def Expr.isStarred : Expr → Bool
  | .starred _ => true
  | _ => false

namespace Rules

/-- Shares items out to targets; a starred one gets a list. -/
def shareOut (targets : List Expr) (items : List Value) : Run (List Value) := do
  let n := targets.length
  let got := items.length
  match targets.findIdx? Expr.isStarred with
  | none =>
    if got > n then .raise (.valueError s!"too many values to unpack (expected {n})")
    else if got < n then
      .raise (.valueError s!"not enough values to unpack (expected {n}, got {got})")
    else return items
  | some before =>
    if got + 1 < n then
      .raise (.valueError s!"not enough values to unpack (expected at least {n - 1}, got {got})")
    else
      let middle := got + 1 - n
      let starred ← Run.newList ((items.drop before).take middle)
      return items.take before ++ starred :: items.drop (before + middle)

mutual

/-- Binds a value to a target. -/
def assign (r : Rules) (env : Env) : Expr → Value → Run Unit
  | .name n, v => Run.bindName env n v
  | .starred e, v => assign r env e v
  | .attribute e n, v => do Run.setAttribute (← r.expression env e) n v
  | .subscript e i, v => do
    let collection ← r.expression env e
    r.setItem collection (← r.expression env i) v
  | .tuple targets, v => do
    let fault (type : String) : Raised := .typeError s!"cannot unpack non-iterable {type} object"
    assignAll r env targets (← shareOut targets (← r.itemsOr fault v))
  | .list targets, v => do
    let fault (type : String) : Raised := .typeError s!"cannot unpack non-iterable {type} object"
    assignAll r env targets (← shareOut targets (← r.itemsOr fault v))
  | _, _ => .raise (.notProvided "such a target")

/-- Binds values to targets in order. -/
def assignAll (r : Rules) (env : Env) : List Expr → List Value → Run Unit
  | e :: targets, v :: vs => do
    assign r env e v
    assignAll r env targets vs
  | _, _ => return ()

end

mutual

/-- Deletes a target. -/
def delete (r : Rules) (env : Env) : Expr → Run Unit
  | .name n => Run.deleteName env n
  | .attribute e n => do Run.deleteAttribute (← r.expression env e) n
  | .subscript e i => do
    let collection ← r.expression env e
    Run.deleteItem collection (← r.expression env i)
  | .tuple targets => deleteAll r env targets
  | .list targets => deleteAll r env targets
  | _ => .raise (.notProvided "such a target")

/-- Deletes targets in order. -/
def deleteAll (r : Rules) (env : Env) : List Expr → Run Unit
  | [] => return ()
  | e :: targets => do
    delete r env e
    deleteAll r env targets

end

/-- An assignment with an operator: the target's parts are computed once. -/
def augment (r : Rules) (env : Env) (target : Expr) (op : BinaryOp) (e : Expr) : Run Unit := do
  match target with
  | .name n =>
    let old ← Run.nameValue env n
    Run.bindName env n (← r.operateInPlace op old (← r.expression env e))
  | .attribute object n =>
    let object ← r.expression env object
    let old ← r.getAttribute object n
    Run.setAttribute object n (← r.operateInPlace op old (← r.expression env e))
  | .subscript collection i =>
    let collection ← r.expression env collection
    let i ← r.expression env i
    let old ← Run.getItem collection i
    r.setItem collection i (← r.operateInPlace op old (← r.expression env e))
  | _ => .raise (.notProvided "such a target")

end Rules

end Scratchpad
