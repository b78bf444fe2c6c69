import Scratchpad.Eval.Attribute
import Scratchpad.Syntax.Names

/-!
# Calls of functions

How arguments fill parameters. Positions fill first, then names; what is left over
goes to the starred parameters, and what is missing comes from the defaults.
-/

namespace Scratchpad

/-- Arguments of a call: those by position and those by name. -/
structure Arguments where
  positional : List Value := []
  named : List (String × Value) := []

/-- Names in a complaint: quoted, with commas, and `and` before the last one. -/
def quotedNames (names : List String) : String :=
  match names.map fun n => s!"'{n}'" with
  | [] => ""
  | [a] => a
  | [a, b] => s!"{a} and {b}"
  | quoted =>
    String.intercalate ", " quoted.dropLast ++ ", and " ++ quoted.getLast?.getD ""

/-- An ending for more than one. -/
def plural (n : Nat) : String := if n = 1 then "" else "s"

namespace Closure

/-- Names of the parameters that positions fill. -/
def positionalNames (f : Closure) : List String :=
  (f.parameters.positionalOnly ++ f.parameters.positional).map Parameter.name

/-- Names of the parameters that only names fill. -/
def keywordNames (f : Closure) : List String := f.parameters.keywordOnly.map Parameter.name

/-- A call has too many positions. `named` holds the parameters that names filled. -/
def tooMany (f : Closure) (given : Nat) (named : List String) : Raised :=
  let names := f.positionalNames
  let required := names.filter fun n => (f.defaults.lookup n).isNone
  let takes :=
    if required.length < names.length then
      s!"from {required.length} to {names.length} positional arguments"
    else s!"{names.length} positional argument{plural names.length}"
  let keywords := (f.keywordNames.filter named.contains).length
  let extra :=
    if keywords = 0 then ""
    else s!" positional argument{plural given} (and {keywords} keyword-only " ++
      s!"argument{plural keywords})"
  let verb := if given = 1 && keywords = 0 then "was" else "were"
  .typeError s!"{f.name}() takes {takes} but {given}{extra} {verb} given"

/-- A call leaves parameters without a value. -/
def missing (f : Closure) (kind : String) (names : List String) : Raised :=
  .typeError <|
    s!"{f.name}() missing {names.length} required {kind} argument{plural names.length}: " ++
    quotedNames names

/-- The parameters that names fill, on top of those that positions filled, and the
names that are left over. -/
def fillNamed (f : Closure) : List (String × Value) → List (String × Value) →
    Except Raised (List (String × Value) × List (String × Value))
  | bound, [] => .ok (bound, [])
  | bound, (n, v) :: rest => do
    let byName := f.parameters.positional.map Parameter.name ++ f.keywordNames
    if byName.contains n then
      if (bound.lookup n).isSome then
        throw (.typeError s!"{f.name}() got multiple values for argument '{n}'")
      fillNamed f (bound ++ [(n, v)]) rest
    else
      match f.parameters.keywords with
      | some _ =>
        let (bound, left) ← fillNamed f bound rest
        return (bound, (n, v) :: left)
      | none =>
        -- the complaint names all positional-only parameters that are given by name
        let only := f.parameters.positionalOnly.map Parameter.name
        let wrong := (((n, v) :: rest).map (·.1)).filter only.contains
        if wrong.isEmpty then
          throw (.typeError s!"{f.name}() got an unexpected keyword argument '{n}'")
        else
          throw (.typeError <|
            s!"{f.name}() got some positional-only arguments passed as keyword arguments: " ++
            "'" ++ String.intercalate ", " wrong ++ "'")

/-- The variables that a call begins with. The starred parameters hold a tuple and
the entries of a dictionary, which is yet to be made. -/
def bindArguments (f : Closure) (args : Arguments) :
    Except Raised (List (String × Value) × Option (String × List (Value × Value))) := do
  let names := f.positionalNames
  let given := args.positional.length
  let (bound, left) ← f.fillNamed (names.zip args.positional) args.named
  -- names are filled in before the number of arguments is looked at
  if given > names.length && f.parameters.rest.isNone then
    throw (f.tooMany given (bound.map (·.1)))
  let lacking (ns : List String) : List String :=
    ns.filter fun n => (bound.lookup n).isNone && (f.defaults.lookup n).isNone
  if !(lacking names).isEmpty then throw (f.missing "positional" (lacking names))
  if !(lacking f.keywordNames).isEmpty then
    throw (f.missing "keyword-only" (lacking f.keywordNames))
  let defaulted := (names ++ f.keywordNames).filterMap fun n =>
    if (bound.lookup n).isSome then none else (f.defaults.lookup n).map (n, ·)
  let rest := f.parameters.rest.toList.map fun p =>
    (p.name, Value.tuple (args.positional.drop names.length))
  let keywords := f.parameters.keywords.map fun p =>
    (p.name, left.map fun (n, v) => (Value.ofString n, v))
  return (bound ++ defaulted ++ rest, keywords)

end Closure

/-- Calls a function. -/
def Rules.callFunction (r : Rules) (f : Closure) (args : Arguments) : Run Value := do
  let (bindings, keywords) ← Run.ofExcept (f.bindArguments args)
  let bindings ← match keywords with
    | none => pure bindings
    | some (n, entries) => pure (bindings ++ [(n, ← Run.newDict entries)])
  let frame ← Run.alloc
    (.frame { bindings, locals := f.locals, globals := f.globals, parent := f.frame })
  let env : Env := { frame := some frame, path := f.name ++ ".<locals>." }
  Run.counted <| match f.body with
    | .expression e => r.expression env e
    | .block b => do
      match ← r.block env b with
      | .giveBack v => return v
      | _ => return .none
    | .suspended _ => .raise (.notProvided "a coroutine")

end Scratchpad
