import Scratchpad.Eval.Basic

/-!
# Variables

A name is looked up in the scope of the code, then in the functions around it,
then in the sandbox, the host's names and the built-in ones. A class body is not
seen by the functions in it, and it passes over the host's names itself.
-/

namespace Scratchpad

namespace Run

/-- The frame at a place. -/
def frameAt (loc : Loc) : Run Frame := do
  match (← cells)[loc]? with
  | some (.frame f) => return f
  | _ => return { bindings := [], locals := [], globals := [], parent := none }

/-! ## The top level -/

/-- The value of a name of the top level. -/
def globalValue (n : String) : Run Value := do
  match (← world).names.lookup? n with
  | some v => return v
  | none => raise (.unbound n)

/-- The value of a name of the top level as a class body sees it. -/
def classValue (n : String) : Run Value := do
  match (← world).names.own.find? n with
  | some v => return v
  | none => match builtinValue? n with
    | some v => return v
    | none => raise (.unbound n)

/-- Binds a name of the top level. -/
def bindGlobal (n : String) (v : Value) : Run Unit :=
  update fun w => { w with names := w.names.bind n v }

/-- Deletes a name of the top level. -/
def deleteGlobal (n : String) : Run Unit := do
  match (← world).names.own.find? n with
  | some _ => update fun w => { w with names := w.names.unbind n }
  | none => raise (.unbound n)

/-! ## Scopes -/

/-- Where a name lives. -/
inductive Home where
  | global
  /-- The variable of a scope: its frame, and whether it is the scope of the code
  itself. -/
  | frame (loc : Loc) (own : Bool)

/-- Where a name lives that the scope of the code does not have, with fuel for the
depth of nested scopes. -/
def outerHome (n : String) : Nat → Option Loc → Run Home
  | 0, _ => return .global
  | _, none => return .global
  | k + 1, some loc => do
    let f ← frameAt loc
    if f.isClass then outerHome n k f.parent
    else if f.globals.contains n then return .global
    else if f.locals.contains n then return .frame loc false
    else outerHome n k f.parent

/-- Depth to which scopes nest. -/
def scopeDepth : Nat := 1000

/-- Where a name lives for code in a frame. -/
def home (loc : Loc) (n : String) : Run Home := do
  let f ← frameAt loc
  if f.globals.contains n then return .global
  else if f.locals.contains n then return .frame loc true
  else outerHome n scopeDepth f.parent

/-- The value of a name. -/
def nameValue (env : Env) (n : String) : Run Value := do
  match env.frame with
  | none => globalValue n
  | some loc =>
    let f ← frameAt loc
    if f.isClass && !f.globals.contains n then
      match f.bindings.lookup n with
      | some v => return v
      | none => match ← outerHome n scopeDepth f.parent with
        -- in a class body a name that it has not bound is looked for further out
        | .global => classValue n
        | .frame outer _ => match (← frameAt outer).bindings.lookup n with
          | some v => return v
          | none => raise (.unboundFree n)
    else match ← home loc n with
      | .global => globalValue n
      | .frame at_ own => match (← frameAt at_).bindings.lookup n with
        | some v => return v
        | none => raise (if own then .unboundLocal n else .unboundFree n)

/-- Binds a name. -/
def bindName (env : Env) (n : String) (v : Value) : Run Unit := do
  match env.frame with
  | none => bindGlobal n v
  | some loc =>
    let put (at_ : Loc) : Run Unit := do
      let f ← frameAt at_
      store at_ (.frame { f with bindings := Scratchpad.bindName f.bindings n v })
    let f ← frameAt loc
    if f.isClass && !f.globals.contains n then put loc
    else match ← home loc n with
      | .global => bindGlobal n v
      | .frame at_ _ => put at_

/-- Deletes the binding of a name. -/
def deleteName (env : Env) (n : String) : Run Unit := do
  match env.frame with
  | none => deleteGlobal n
  | some loc =>
    let drop (at_ : Loc) (fault : Raised) : Run Unit := do
      let f ← frameAt at_
      match f.bindings.lookup n with
      | none => raise fault
      | some _ =>
        store at_ (.frame { f with bindings := f.bindings.filter (·.1 != n) })
    let f ← frameAt loc
    if f.isClass && !f.globals.contains n then drop loc (.unbound n)
    else match ← home loc n with
      | .global => deleteGlobal n
      | .frame at_ own => drop at_ (if own then .unboundLocal n else .unboundFree n)

end Run

end Scratchpad
