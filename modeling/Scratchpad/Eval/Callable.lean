import Scratchpad.Eval.CollectionMethod
import Scratchpad.Eval.PartMethod

/-!
# Calls

What can be called: functions, types, built-in functions and methods. A method of a
type takes the value it works on as its first argument.
-/

namespace Scratchpad

namespace Rules

/-- Calls a method of a value. -/
def callOn (r : Rules) (self : Value) (name : String) (args : Arguments) : Run Value := do
  match ← r.callSpecial self name args with
  | some v => return v
  | none =>
    match self with
    | .str t =>
      if name == "format" then r.fillPlaceholders t args
      else if name == "format_map" then
        match args.positional with
        | [.dict loc] =>
          let entries := ((← Run.cells).entries loc).filterMap fun (k, v) =>
            match k with
            | .str n => some (String.ofList n, v)
            | _ => none
          r.fillPlaceholders t { named := entries }
        | _ => .raise (.notProvided "such a call of format_map")
      else r.callText t name args
    | .bytes bs => callBytes bs name args
    | .list loc => r.callList loc name args
    | .dict loc => r.callDict loc name args
    | .proxy loc =>
      match ← readDict "mappingproxy" loc name args with
      | some v => return v
      | none => .raise (.notProvided s!"the method {name}")
    | .tuple xs => callSequence "tuple" xs name args
    | .range a b c => callSequence "range" (rangeItems a b c) name args
    | .int _ | .bool _ | .float _ => callNumber self name args
    | .object loc => callObject loc name args
    | .part .session =>
      if name == "_print" then r.sessionPrint args else Run.callPart .session name args
    | .part p => Run.callPart p name args
    | .exception .. =>
      if name == "with_traceback" then return self
      else .raise (.notProvided s!"the method {name}")
    | _ => .raise (.notProvided s!"the method {name}")

/-- Calls a method of a type, whose value is the first argument. -/
def callUnbound (r : Rules) (type name : String) (args : Arguments) : Run Value := do
  if type == "dict" && name == "fromkeys" then
    r.callDict (← Run.alloc (.dict [])) name args
  else match args.positional with
    | [] => .typeFault s!"unbound method {type}.{name}() needs an argument"
    | self :: rest =>
      let actual := typeNameOf (← Run.cells) self
      if Run.typeDerives actual type then r.callOn self name { args with positional := rest }
      else
        .typeFault <|
          s!"descriptor '{name}' for '{type}' objects doesn't apply to a '{actual}' object"

/-- Makes an object of a class that code defined. -/
def instantiate (r : Rules) (kind : Loc) (positional : List Value)
    (named : List (String × Value)) : Run Value := do
  let cells ← Run.cells
  let object : Value := .object (← Run.alloc (.ofKind kind []))
  match (cells.kindAttributes kind).lookup "__init__" with
  | none =>
    if positional.isEmpty && named.isEmpty then return object
    else .typeFault s!"{cells.kindName kind}() takes no arguments"
  | some f =>
    match ← r.call (f.boundTo object) positional named with
    | .none => return object
    | v => .typeFault s!"__init__() should return None, not '{← Run.typeName v}'"

/-- Calls an object: a class makes an object of its own, and the class of any other object
says what a call does. -/
def callObjectItself (r : Rules) (loc : Loc) (positional : List Value)
    (named : List (String × Value)) : Run Value := do
  let cells ← Run.cells
  match cells[loc]? with
  | some (.kind ..) => r.instantiate loc positional named
  | some (.ofKind kind _) =>
    match (cells.kindAttributes kind).lookup "__call__" with
    | some f => r.call (f.boundTo (.object loc)) positional named
    | none => .raise (.notCallable (cells.kindName kind))
  | _ => .raise (.notCallable (← Run.typeName (.object loc)))

/-- Calls a value. -/
def callValue (r : Rules) (f : Value) (positional : List Value)
    (named : List (String × Value)) : Run Value := do
  let args : Arguments := { positional, named }
  match f with
  | .function loc =>
    match (← Run.cells)[loc]? with
    | some (.function c) => r.callFunction c args
    | _ => .raise (.notCallable "function")
  | .builtin name => r.callBuiltin name args
  | .type name => r.callType name args
  | .method (.type type) name => r.callUnbound type name args
  | .method self name => r.callOn self name args
  | .bound self function => r.call function (self :: positional) named
  | .object loc => r.callObjectItself loc positional named
  | f => .raise (.notCallable (← Run.typeName f))

end Rules

end Scratchpad
