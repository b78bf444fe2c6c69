import Scratchpad.Eval.Expression

/-!
# Statements

The rule for each form of statement. A statement ends in a `Flow` that says how its
block goes on.
-/

namespace Scratchpad

namespace Run

/-- An exception from what `raise` was given: a class is called without arguments. -/
def exceptionOf (r : Rules) (v : Value) : Run Raised := do
  match v with
  | .exception kind args => return ⟨kind, args⟩
  | .type name =>
    match ← r.call v [] [] with
    | .exception kind args => return ⟨kind, args⟩
    | _ => typeFault s!"exceptions must derive from BaseException, not {name}"
  | _ => typeFault "exceptions must derive from BaseException"

/-- Whether a handler for a class, or for one of several, takes an exception. -/
def handles (e : Raised) : Nat → Value → Run Bool
  | 0, _ => spend
  | n + 1, t => do
    let wrong : Run Bool :=
      typeFault "catching classes that do not inherit from BaseException is not allowed"
    match t with
    | .type name =>
      if (exceptionParents.lookup name).isSome then return derivesFrom e.kind name else wrong
    | .tuple ts =>
      ts.foldlM (fun found t => do return (← handles e n t) || found) false
    | _ => wrong

/-- Imports a module. Only the built-in names can be imported. -/
def importModule (name : String) : Run Value := do
  if name == "builtins" then return .builtinsModule
  else
    let missing := firstPart name
    raise (.of "ModuleNotFoundError" s!"No module named '{missing}'")

end Run

mutual

/-- Whether a statement annotates a variable outside of definitions. -/
def Stmt.annotates : Stmt → Bool
  | .annotate .. => true
  | .branch _ body orelse => blockAnnotates body || blockAnnotates orelse
  | .whileLoop _ body orelse => blockAnnotates body || blockAnnotates orelse
  | .forLoop _ _ _ body orelse => blockAnnotates body || blockAnnotates orelse
  | .attempt body handlers orelse final _ =>
    blockAnnotates body || handlersAnnotate handlers || blockAnnotates orelse ||
      blockAnnotates final
  | .manage _ _ body => blockAnnotates body
  | _ => false

/-- Whether a block annotates a variable. -/
def blockAnnotates : List Located → Bool
  | [] => false
  | .mk _ _ s :: rest => s.annotates || blockAnnotates rest

/-- Whether exception handlers annotate a variable. -/
def handlersAnnotate : List Handler → Bool
  | [] => false
  | .mk _ _ _ body :: rest => blockAnnotates body || handlersAnnotate rest

end

/-- The name under which the annotations of a scope are bound. -/
def annotationsName : String := "__annotations__"

/-- Binds a dictionary for the annotations of a block, if it has any. -/
def Run.prepareAnnotations (env : Env) (b : Block) : Run Unit := do
  if blockAnnotates b then
    let w ← world
    let found := match env.frame with
      | none => (w.names.own.find? annotationsName).isSome ||
        (w.names.host.find? annotationsName).isSome
      | some _ => false
    if !found then bindName env annotationsName (← newDict [])

namespace Rules

/-! ## Loops -/

/-- A `while` loop. -/
def whileLoop (r : Rules) (env : Env) (test : Expr) (body orelse : Block) : Nat → Run Flow
  | 0 => .spend
  | n + 1 => do
    let verdict ← r.expression env test
    if truth (← Run.world) verdict then
      match ← r.block env body with
      | .leaveLoop => return .next
      | .giveBack v => return .giveBack v
      | _ => whileLoop r env test body orelse n
    else r.block env orelse

/-- A `for` loop over an iterator. -/
def forLoop (r : Rules) (env : Env) (target : Expr) (iterator : Value) (body orelse : Block) :
    Nat → Run Flow
  | 0 => .spend
  | n + 1 => do
    match ← r.next iterator with
    | none => r.block env orelse
    | some v =>
      r.assign env target v
      match ← r.block env body with
      | .leaveLoop => return .next
      | .giveBack v => return .giveBack v
      | _ => forLoop r env target iterator body orelse n

/-! ## Exceptions -/

/-- Hands an exception to the first handler that takes it. -/
def runHandlers (r : Rules) (env : Env) (e : Raised) : List Handler → Run Flow
  | [] => .raise e
  | .mk _ type name body :: rest => do
    let inner : Env := { env with handled := some e }
    let taken ← match type with
      | none => pure true
      | some t =>
        let t ← r.expression inner t
        Run.handles e compareDepth t
    if taken then
      match name with
      | none => r.block inner body
      | some n =>
        Run.bindName env n e.value
        -- the name of the exception is deleted behind the handler, however that ends
        .finally_ (r.block inner body) do
          Run.bindName env n .none
          Run.deleteName env n
    else runHandlers r env e rest

/-- A `try` statement. -/
def attempt (r : Rules) (env : Env) (body : Block) (handlers : List Handler)
    (orelse final : Block) : Run Flow := do
  let guarded : Run Flow := do
    match ← Run.attempt (r.block env body) with
    | .ok .next => r.block env orelse
    | .ok flow => return flow
    | .error e => r.runHandlers env e handlers
  if final.isEmpty then guarded
  else
    let outcome ← Run.attempt guarded
    match ← r.block env final with
    | .next => .ofExcept outcome
    | flow => return flow

/-- A `raise` statement. -/
def raiseStatement (r : Rules) (env : Env) (exception cause : Option Expr) : Run Flow := do
  match exception with
  | none => match env.handled with
    | some e => .raise e
    | none => .raise (.of "RuntimeError" "No active exception to reraise")
  | some e =>
    let v ← r.expression env e
    match cause with
    | none => .raise (← Run.exceptionOf r v)
    | some c =>
      let c ← r.expression env c
      -- both are evaluated before either is looked at
      let e ← Run.exceptionOf r v
      match c with
      | .none | .exception .. => .raise e
      | .type name =>
        if (exceptionParents.lookup name).isSome then .raise e
        else .typeFault "exception causes must derive from BaseException"
      | _ => .typeFault "exception causes must derive from BaseException"

/-! ## Definitions -/

/-- Applies decorators, the nearest one first. -/
def decorate (r : Rules) (decorators : List Value) (v : Value) : Run Value :=
  decorators.foldrM (fun d v => r.call d [v] []) v

/-- A definition of a function. -/
def define (r : Rules) (env : Env) (isAsync : Bool) (name : String) (ps : Parameters)
    (returns : Option Expr) (decorators : List Expr) (body : Block) : Run Unit := do
  let decorators ← decorators.mapM (r.expression env)
  let mentions := (blockMentions body).map (·.2)
  let code : Body :=
    if isAsync || mentions.contains .yields then .suspended body else .block body
  let f ← r.makeFunction env name ps returns code mentions
  Run.bindName env name (← r.decorate decorators f)

/-- Names with underscores that a class may bind. Any other one would change what can be
done with its objects. -/
def classSpecials : List String :=
  ["__annotations__", "__call__", "__doc__", "__getattr__", "__init__", "__module__",
   "__qualname__"]

/-- Whether a name is one that the language itself asks a class for. -/
def isSpecialName (n : String) : Bool :=
  n.length > 4 && "__".isPrefixOf n && "__".toList.isSuffixOf n.toList

/-- The attributes of a class whose body bound some names. -/
def classAttributes (body : Block) (bindings : List (String × Value)) :
    Except Raised (List (String × Value)) :=
  match bindings.find? fun b => isSpecialName b.1 && !classSpecials.contains b.1 with
  | some (n, _) => .error (.notProvided s!"a class with {n}")
  | none =>
    let attributes := bindings.filter (·.1 != "__qualname__")
    if (attributes.lookup "__doc__").isSome then .ok attributes
    else .ok (attributes ++ [("__doc__", docOf body)])

/-- A definition of a class: its body runs once, and what it binds are the attributes
of the class. -/
def defineClass (r : Rules) (env : Env) (name : String) (bases : List Argument)
    (decorators : List Expr) (body : Block) : Run Unit := do
  let decorators ← decorators.mapM (r.expression env)
  -- decorators and parents are evaluated first, in the scope around the class
  let parents ← r.positionalArguments env .none false bases
  let options ← r.namedArguments env .none [] bases
  let isObject (v : Value) : Bool := match v with
    | .type "object" => true
    | _ => false
  if !(parents.all isObject && options.isEmpty) then
    .raise (.notProvided "a class with parents")
  else
    let mentions := (blockMentions body).map (·.2)
    let path := env.path ++ name
    let loc ← Run.alloc (.frame {
      bindings := [("__module__", .ofString "builtins"), ("__qualname__", .ofString path)]
      locals := localNames [] mentions
      globals := globalNames mentions
      parent := env.frame
      isClass := true })
    let inner : Env := { env with frame := some loc, path := path ++ "." }
    Run.prepareAnnotations inner body
    let _ ← r.block inner body
    let attributes ← .ofExcept (classAttributes body (← Run.frameAt loc).bindings)
    let c ← Run.alloc (.kind path attributes)
    Run.bindName env name (← r.decorate decorators (.object c))

/-! ## The rule -/

/-- An assignment with an annotation. Only names outside of functions keep their
annotation. -/
def annotate (r : Rules) (env : Env) (target declared : Expr) (value : Option Expr)
    (simple : Bool) : Run Unit := do
  match value with
  | some e =>
    let v ← r.expression env e
    r.assign env target v
  | none => pure ()
  let outside ← match env.frame with
    -- in a function annotations are not evaluated
    | none => pure true
    | some loc => pure (← Run.frameAt loc).isClass
  match target with
  | .name n =>
    if outside then
      let a ← r.expression env declared
      if simple then
        let annotations ← Run.nameValue env annotationsName
        r.setItem annotations (.ofString n) a
  | .attribute e _ =>
    if value.isNone then
      let _ ← r.expression env e
    if outside then
      let _ ← r.expression env declared
  | .subscript e i =>
    if value.isNone then
      let _ ← r.expression env e
      let _ ← r.expression env i
    if outside then
      let _ ← r.expression env declared
  | _ => pure ()

/-- The rule for statements. -/
def execute (r : Rules) (env : Env) (s : Stmt) : Run Flow := do
  match s with
  | .expression e =>
    let _ ← r.expression env e
    return .next
  | .assign targets e =>
    let v ← r.expression env e
    .forEach targets fun t => r.assign env t v
    return .next
  | .augment target op e =>
    r.augment env target op e
    return .next
  | .annotate target declared value simple =>
    r.annotate env target declared value simple
    return .next
  | .delete targets =>
    r.deleteAll env targets
    return .next
  | .pass | .globalNames _ | .nonlocalNames _ => return .next
  | .breakLoop => return .leaveLoop
  | .continueLoop => return .nextRound
  | .giveBack none => return .giveBack .none
  | .giveBack (some e) => return .giveBack (← r.expression env e)
  | .raise exception cause => r.raiseStatement env exception cause
  | .assert test message =>
    let verdict ← r.expression env test
    if truth (← Run.world) verdict then return .next
    else match message with
      | none => .raise ⟨"AssertionError", []⟩
      | some e => .raise ⟨"AssertionError", [← r.expression env e]⟩
  | .importModules names =>
    .forEach names fun a => do Run.bindName env a.bound (← Run.importModule a.name)
    return .next
  | .importFrom level module names =>
    if level > 0 then
      .raise (.of "ImportError" "attempted relative import with no known parent package")
    else
      let m ← Run.importModule (module.getD "")
      .forEach names fun a => do
        match ← Run.attribute? m a.name with
        | some v => Run.bindName env a.bound v
        | none =>
          let source := module.getD ""
          .raise (.of "ImportError"
            s!"cannot import name '{a.name}' from '{source}' (unknown location)")
      return .next
  | .branch test body orelse =>
    let verdict ← r.expression env test
    if truth (← Run.world) verdict then r.block env body else r.block env orelse
  | .whileLoop test body orelse => r.whileLoop env test body orelse maxRounds
  | .forLoop isAsync target source body orelse =>
    if isAsync then .raise (.notProvided "a coroutine")
    else
      let iterator ← Run.iterate (← r.expression env source)
      r.forLoop env target iterator body orelse maxRounds
  | .define isAsync name ps returns decorators body =>
    r.define env isAsync name ps returns (decorators.map (·.2)) body
    return .next
  | .defineClass name bases decorators body =>
    r.defineClass env name bases (decorators.map (·.2)) body
    return .next
  | .attempt body handlers orelse final grouped =>
    if grouped then .raise (.notProvided "a handler of groups")
    else r.attempt env body handlers orelse final
  | .manage _ items _ =>
    match items with
    | (e, _) :: _ =>
      let manager ← r.expression env e
      let type ← Run.typeName manager
      match manager with
      | .object loc =>
        -- of all objects only the text files in memory are managers
        if (membersOfObject (← Run.cells) loc).own.contains "__enter__" then
          .raise (.notProvided "a manager")
        else .raise (.noManager type)
      | _ => .raise (.noManager type)
    | [] => return .next
  | .choose .. => .raise (.notProvided "a choice of patterns")

/-- Statements in order, until one of them leaves the block. -/
def runBlock (r : Rules) (env : Env) : Block → Run Flow
  | [] => return .next
  | .mk _ _ s :: rest => do
    match ← r.execute env s with
    | .next => runBlock r env rest
    | flow => return flow

end Rules

end Scratchpad
