import Scratchpad.Eval.Item
import Scratchpad.Value.Members

/-!
# Attributes

Reading, binding and deleting `object.name`. Names that a type's members list and
that are no data are methods; bags of attributes and functions keep what is bound
on them; the parts of the scratchpad show their state as it is at that moment.
-/

namespace Scratchpad

/-- Binds a name among attributes. -/
def putAttribute (attributes : List (String × Value)) (n : String) (v : Value) :
    List (String × Value) := bindName attributes n v

/-- Attributes that an object itself holds. -/
def heldAttributes (w : World) : Value → List (String × Value)
  | .object loc => match w.cells[loc]? with
    | some (.space xs) | some (.kind _ xs) | some (.ofKind _ xs) => xs
    | some (.guest g) => g.attributes
    | _ => []
  | .function loc => match w.cells[loc]? with
    | some (.function f) => f.attributes
    | _ => []
  | .part p => w.attached p
  | _ => []

/-- Names that the class of an object adds to the members of its kind. -/
def classNames (w : World) : Value → List String
  | .object loc => match w.cells[loc]? with
    | some (.ofKind kind _) => (w.cells.kindAttributes kind).map (·.1)
    | some (.guest g) => g.unreadable
    | _ => []
  | _ => []

/-- Names of the attributes of a value, those that `dir` lists. -/
def World.attributeNames (w : World) (v : Value) : List String :=
  let held := (heldAttributes w v).map (·.1)
  match v with
  | .builtinsModule => builtinNames
  | .part .buffer => objectNames ++ bufferMethods ++ bufferProperties ++ held
  | v => objectNames ++ (membersOf w.cells v).own ++ classNames w v ++ held

/-- Attributes of a value that an exception or a number is made of. -/
def dataAttribute? (v : Value) (n : String) : Option Value :=
  match v, n with
  | .int m, "real" | .int m, "numerator" => some (.int m)
  | .bool b, "real" | .bool b, "numerator" => some (.int (if b then 1 else 0))
  | .int _, "imag" | .bool _, "imag" => some (.int 0)
  | .int _, "denominator" | .bool _, "denominator" => some (.int 1)
  | .float x, "real" => some (.float x)
  | .float _, "imag" => some (.float 0)
  | .range a _ _, "start" => some (.int a)
  | .range _ b _, "stop" => some (.int b)
  | .range _ _ c, "step" => some (.int c)
  | .slice a _ _, "start" => some a
  | .slice _ b _, "stop" => some b
  | .slice _ _ c, "step" => some c
  | .exception _ args, "args" => some (.tuple args)
  | .exception _ _, "__cause__" | .exception _ _, "__context__"
  | .exception _ _, "__traceback__" => some .none
  | .exception _ _, "__suppress_context__" => some (.bool false)
  -- one argument is kept as it is, several as a tuple
  | .exception "SystemExit" args, "code" =>
    some <| match args with
      | [] => .none
      | [a] => a
      | args => .tuple args
  | .exception "StopIteration" args, "value" => some (args.headD .none)
  | .type name, "__name__" | .type name, "__qualname__" => some (.ofString (lastPart name))
  | .type _, "__module__" | .builtin _, "__module__" => some (.ofString "builtins")
  | .builtin name, "__name__" | .builtin name, "__qualname__" => some (.ofString name)
  -- built-in functions are methods of the module they stand in
  | .builtin _, "__self__" => some .builtinsModule
  | .builtin _, "__text_signature__" => some .none
  | .method _ name, "__name__" => some (.ofString name)
  | .method self _, "__self__" | .bound self _, "__self__" => some self
  | .bound _ f, "__func__" => some f
  | _, _ => none

/-- Data attributes of a part of the scratchpad that need no new cell. -/
def partAttribute? (w : World) (p : Part) (n : String) : Option Value :=
  match p, n with
  | .buffer, "text" | .host, "text" => some (.str w.buffer.text)
  | .buffer, "cursor_position" => some (.int w.buffer.cursor)
  | .settings, "max_line_width" | .formatter, "max_line_width" => some (.int w.settings.edge)
  | .settings, "indent_width" | .formatter, "indent_width" => some (.int w.settings.indent)
  | .settings, "title" => some (.str w.settings.title)
  | .history, "pos" => some (.int w.history.pos)
  | .history, "browsing" => some (.bool w.history.browsing)
  | .session, "config" => some (.part .settings)
  | .session, "history" => some (.part .history)
  | .session, "host" => some (.part .host)
  | .session, "namespace" | .evaluator, "namespace" | .completion, "namespace" =>
    some (.part .namespace)
  | .session, "evaluator" => some (.part .evaluator)
  | .session, "formatter" => some (.part .formatter)
  | .session, "completion" => some (.part .completion)
  | .evaluator, "filename" => some (.ofString "<repl>")
  | .host, "buffer" => some (.part .buffer)
  | .app, "is_running" => some (.bool true)
  | .app, "is_done" => some (.bool w.stopped)
  | _, _ => none

/-- What a block says about itself in its first line. -/
def docOf : Block → Value
  | .mk _ _ (.expression (.constant (.str t))) :: _ => .str t
  | _ => .none

namespace Run

/-- What an attribute that a class lacks is reported as. -/
def missingOfClass (name n : String) : Raised :=
  if typeMembers.own.contains n then .notProvided s!"the attribute {n}"
  else .attributeError s!"type object '{name}' has no attribute '{n}'"

/-- What an attribute that a value lacks is reported as. -/
def missingAttribute (v : Value) (n : String) : Run Raised := do
  match v with
  | .type name => return missingOfClass name n
  | .builtinsModule => return .attributeError s!"module 'builtins' has no attribute '{n}'"
  | .method (.part .session) "_print" | .bound .. =>
    return .attributeError s!"'function' object has no attribute '{n}'"
  | .object loc => match (← cells)[loc]? with
    | some (.kind path _) => return missingOfClass (lastPart path) n
    | _ => return .noAttribute (← typeName v) n
  | v => return .noAttribute (← typeName v) n

/-- Attributes of a function that describe it. -/
def functionAttribute? (loc : Loc) (n : String) : Run (Option Value) := do
  match (← cells)[loc]? with
  | some (.function f) =>
    match n with
    | "__name__" => return some (.ofString (lastPart f.name))
    | "__qualname__" => return some (.ofString f.name)
    | "__module__" => return some .none
    | "__closure__" =>
      if f.frame.isNone then return some .none else raise (.notProvided s!"the attribute {n}")
    | "__doc__" => match f.body with
      | .block b | .suspended b => return some (docOf b)
      | .expression _ => return some .none
    | "__defaults__" =>
      let ds := f.defaults.filter fun d => !(f.parameters.keywordOnly.any (·.name == d.1))
      return some (if ds.isEmpty then .none else .tuple (ds.map (·.2)))
    | "__kwdefaults__" =>
      let ds := f.defaults.filter fun d => f.parameters.keywordOnly.any (·.name == d.1)
      if ds.isEmpty then return some .none
      else return some (← newDict (ds.map fun (k, v) => (.ofString k, v)))
    | "__annotations__" =>
      return some (← newDict (f.annotations.map fun (k, v) => (.ofString k, v)))
    | "__dict__" => return some (← newDict (f.attributes.map fun (k, v) => (.ofString k, v)))
    | "__globals__" => return some (.part .namespace)
    | "__builtins__" => return some .builtinsModule
    | _ => return none
  | _ => return none

/-- Attributes of the object in a cell that are no methods. What the object itself holds
is not among them. -/
def objectAttribute? (loc : Loc) (n : String) : Run (Option Value) := do
  match (← cells)[loc]?, n with
  | some (.guest g), n =>
    if g.unreadable.contains n then raise (.of "RuntimeError" n) else return none
  | some (.sink _), "write" | some (.sink _), "getvalue" | some (.sink _), "flush" =>
    return some (.method (.object loc) n)
  | some (.kind path _), "__name__" => return some (.ofString (lastPart path))
  | some (.kind path _), "__qualname__" => return some (.ofString path)
  | some (.ofKind kind _), "__class__" => return some (.object kind)
  | some (.property getter), "fget" => return some getter
  | some (.property _), "fset" | some (.property _), "fdel" => return some .none
  | some (.property _), "__isabstractmethod__" => return some (.bool false)
  | _, _ => return none

/-- Data that every value has. -/
def commonAttribute? (v : Value) (n : String) : Run (Option Value) := do
  match n with
  | "__class__" => return some (.type (typeNameOf (← cells) v))
  | "__doc__" =>
    match v with
    | .exception .. | .part _ | .none | .object _ => return some .none
    -- the wording of built-in documentation is left open
    | _ => return some (.str [])
  | "__dict__" =>
    return some (← newDict ((heldAttributes (← world) v).map fun (k, v) => (.ofString k, v)))
  | "__module__" => return some (.ofString "__main__")
  | "__weakref__" => return some .none
  | "__hash__" => return some .none
  | _ => return none

/-- The attribute of a value, if it has it. The class of an object that code defined is
not asked. -/
def attribute? (v : Value) (n : String) : Run (Option Value) := do
  let w ← world
  match (heldAttributes w v).lookup n with
  | some x => return some x
  | none =>
    let particular ← match v with
      | .builtinsModule => pure (builtinValue? n)
      | .function loc => functionAttribute? loc n
      | .part .history =>
        if n == "entries" then
          pure (some (← newList (w.history.entries.map .str)))
        else pure (partAttribute? w .history n)
      | .part .completion =>
        if n == "surface" then
          if w.surface.isSome then raise (.notProvided "the description of the editing object")
          else pure (some .none)
        else pure (partAttribute? w .completion n)
      | .part p => pure (partAttribute? w p n)
      | .object loc => objectAttribute? loc n
      | .bound _ (.function loc) =>
        match dataAttribute? v n with
        | some x => pure (some x)
        | none => functionAttribute? loc n
      | v => pure (dataAttribute? v n)
    match particular with
    | some x => return some x
    | none =>
      let members := membersOf w.cells v
      if members.own.contains n || objectNames.contains n then
        if members.data.contains n || n == "__class__" then
          match ← commonAttribute? v n with
          | some x => return some x
          | none => raise (.notProvided s!"the attribute {n}")
        else return some (.method v n)
      else
        match v with
        | .part .buffer =>
          if bufferMethods.contains n then return some (.method v n)
          else if bufferProperties.contains n then raise (.notProvided s!"the attribute {n}")
          else return none
        | _ => return none

/-- The attribute of a value, without asking a class that code defined. -/
def plainAttribute (v : Value) (n : String) : Run Value := do
  match ← attribute? v n with
  | some x => return x
  | none => raise (← missingAttribute v n)

end Run

/-! ## Objects of classes that code defined -/

/-- The function that computes an attribute, if its class has it as a computed one. -/
def Cells.getter? (cells : Cells) : Option Value → Option Value
  | some (.object loc) => match cells[loc]? with
    | some (.property getter) => some getter
    | _ => none
  | _ => none

/-- What an object has under the name of an attribute of its class: a function of the class
takes the object as its first argument. -/
def Value.boundTo (member self : Value) : Value :=
  match member with
  | .function loc => .bound self (.function loc)
  | v => v

namespace Rules

/-- The attribute of an object of a class. A computed attribute of the class comes before
what the object holds, any other one behind it. -/
def kindAttribute (r : Rules) (self : Value) (kind : Loc) (held : List (String × Value))
    (n : String) : Run Value := do
  let cells ← Run.cells
  let ofKind? := (cells.kindAttributes kind).lookup n
  match cells.getter? ofKind? with
  | some .none =>
    .raise (.attributeError s!"property '{n}' of '{cells.kindName kind}' object has no getter")
  | some getter => r.call getter [self] []
  | none => match held.lookup n, ofKind? with
    | some x, _ => return x
    | none, some x => return x.boundTo self
    | none, none => Run.plainAttribute self n

/-- The attribute of a value. If it belongs to an object of a class that code defined, code
may run. A class says by `__getattr__` what stands in for a missing attribute. -/
def getAttribute (r : Rules) (v : Value) (n : String) : Run Value := do
  match v with
  | .object loc =>
    let cells ← Run.cells
    match cells[loc]? with
    | some (.ofKind kind held) =>
      match (cells.kindAttributes kind).lookup "__getattr__" with
      | none => r.kindAttribute v kind held n
      | some f =>
        .handle (r.kindAttribute v kind held n) fun e =>
          if derivesFrom e.kind "AttributeError" then r.call f [v, .ofString n] [] else .raise e
    | _ => Run.plainAttribute v n
  | v => Run.plainAttribute v n

end Rules

namespace Run

/-! ## Changing -/

/-- Binds or deletes an attribute that an object holds itself. -/
def changeHeld (v : Value) (change : List (String × Value) → List (String × Value)) :
    Run Bool := do
  let cells ← cells
  match v with
  | .object loc => match cells[loc]? with
    | some (.space xs) =>
      store loc (.space (change xs))
      return true
    | some (.kind name xs) =>
      store loc (.kind name (change xs))
      return true
    | some (.ofKind kind xs) =>
      store loc (.ofKind kind (change xs))
      return true
    | some (.guest g) =>
      store loc (.guest { g with attributes := change g.attributes })
      return true
    | _ => return false
  | .function loc => match cells[loc]? with
    | some (.function f) =>
      store loc (.function { f with attributes := change f.attributes })
      return true
    | _ => return false
  | .part p =>
    update fun w =>
      { w with attached := fun q => if q = p then change (w.attached q) else w.attached q }
    return true
  | _ => return false

/-- Refuses to bind or delete an attribute. -/
def refuseChange (v : Value) (n : String) : Run Unit := do
  let type ← typeName v
  match v with
  | .type name => typeFault s!"cannot set '{n}' attribute of immutable type '{name}'"
  | .part .settings =>
    raise (.of "FrozenInstanceError" s!"cannot assign to field '{n}'")
  | .part _ | .builtinsModule | .exception .. | .object _ =>
    raise (.notProvided s!"a change of the attribute {n}")
  | v =>
    let members := membersOf (← cells) v
    if members.data.contains n then
      raise (.attributeError s!"attribute '{n}' of '{type}' objects is not writable")
    else if members.own.contains n || objectNames.contains n then
      raise (.attributeError s!"'{type}' object attribute '{n}' is read-only")
    else raise (.noAttribute type n)

/-- Whether an attribute of a part is one that snippets cannot bind: all those of the
settings, and those of the other parts that do not come from a snippet. -/
def isFixed (v : Value) (n : String) : Run Bool := do
  match v with
  | .part .settings => return true
  | .part p =>
    let w ← world
    let known := p.members.own ++ objectNames ++
      if p = .buffer then bufferMethods ++ bufferProperties else []
    return known.contains n || (partAttribute? w p n).isSome
  | _ => return false

/-- Refuses a change of an attribute that the class of an object computes. -/
def refuseComputed (v : Value) (n change : String) : Run Unit := do
  match v with
  | .object loc =>
    let cells ← cells
    match cells[loc]? with
    | some (.ofKind kind _) =>
      if (cells.getter? ((cells.kindAttributes kind).lookup n)).isSome then
        raise <| .attributeError
          s!"property '{n}' of '{cells.kindName kind}' object has no {change}"
    | _ => return ()
  | _ => return ()

/-- Binds an attribute. -/
def setAttribute (object : Value) (n : String) (v : Value) : Run Unit := do
  match object, n with
  | .part .buffer, "text" =>
    match v with
    | .str t => update fun w => { w with buffer := w.buffer.setText t }
    | v => typeFault s!"object of type '{← typeName v}' has no len()"
  | .part .buffer, "cursor_position" =>
    match v.number? with
    | some (.int n) => update fun w => { w with buffer := w.buffer.moveTo n }
    | _ => raise ⟨"AssertionError", []⟩
  | .part .history, "pos" =>
    -- nothing is checked there, so that the log may be left at a place that has no entry
    match v with
    | .int (.ofNat n) => update fun w => { w with history := { w.history with pos := n } }
    | _ => raise (.notProvided "such a position in the history")
  | object, n =>
    refuseComputed object n "setter"
    if (← isFixed object n) || !(← changeHeld object (putAttribute · n v)) then
      refuseChange object n

/-- Deletes an attribute. -/
def deleteAttribute (v : Value) (n : String) : Run Unit := do
  refuseComputed v n "deleter"
  match (heldAttributes (← world) v).lookup n with
  | some _ =>
    let _ ← changeHeld v (·.filter (·.1 != n))
  | none =>
    match v with
    | .part .settings => raise (.of "FrozenInstanceError" s!"cannot delete field '{n}'")
    | .object _ | .function _ => raise (← missingAttribute v n)
    | .part _ =>
      if ← isFixed v n then refuseChange v n else raise (.noAttribute (← typeName v) n)
    | _ => refuseChange v n

end Run

end Scratchpad
