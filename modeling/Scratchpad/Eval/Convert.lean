import Scratchpad.Eval.Call
import Scratchpad.Text.Search

/-!
# Types as functions

What a call of a built-in type makes: numbers read from texts, collections of the
items of others, exceptions.
-/

namespace Scratchpad

namespace Run

/-! ## Shapes of arguments -/

/-- The only argument of a built-in function. -/
def onlyArgument (f : String) (args : Arguments) : Run Value := do
  if !args.named.isEmpty then typeFault s!"{f}() takes no keyword arguments"
  else match args.positional with
    | [v] => return v
    | vs => typeFault s!"{f}() takes exactly one argument ({vs.length} given)"

/-- The arguments of a built-in function that takes from `low` to `high` of them. -/
def someArguments (f : String) (low high : Nat) (args : Arguments) : Run (List Value) := do
  let n := args.positional.length
  if !args.named.isEmpty then typeFault s!"{f}() takes no keyword arguments"
  else if low ≤ n && n ≤ high then return args.positional
  else if low = high then typeFault s!"{f} expected {low} argument{plural low}, got {n}"
  else if n < low then typeFault s!"{f} expected at least {low} argument{plural low}, got {n}"
  else typeFault s!"{f} expected at most {high} argument{plural high}, got {n}"

/-- Refuses named arguments that a built-in function does not take. -/
def onlyNames (f : String) (names : List String) (args : Arguments) : Run Unit := do
  match args.named.find? fun (n, _) => !names.contains n with
  | some (n, _) => typeFault s!"'{n}' is an invalid keyword argument for {f}()"
  | none => return ()

/-! ## Numbers -/

/-- The text of a text or of bytes that hold one. -/
def numeral? : Value → Option Text
  | .str t => some t
  | .bytes bs => some (bs.map fun b => Char.ofNat b.toNat)
  | _ => none

/-- An integer read from a text. `shown` is the value in which the text came. -/
def readInt (base : Nat) (shown : Value) (t : Text) : Run Value := do
  match readInteger base (stripBlanks t) with
  | .ok n => return .int n
  | .error (.tooLong digits) => raise (.tooManyDigitsGiven digits)
  | .error .malformed =>
    let text := String.ofList ((← written shown).take 200)
    raise (.valueError s!"invalid literal for int() with base {base}: {text}")

/-- Makes an integer. -/
def makeInt (args : Arguments) : Run Value := do
  onlyNames "int" ["base"] args
  if args.positional.length > 2 then
    typeFault s!"int() takes at most 2 arguments ({args.positional.length} given)"
  else
    match args.positional, args.named.lookup "base" with
    | [], none => return .int 0
    | [], some _ => typeFault "int() missing string argument"
    | [v], none =>
      match v with
      | .int n => return .int n
      | .bool b => return .int (if b then 1 else 0)
      | .float x => return .int (← ofExcept (wholePart x))
      | v => match numeral? v with
        | some t => readInt 10 v t
        | none =>
          let type ← typeName v
          typeFault <| "int() argument must be a string, a bytes-like object " ++
            s!"or a real number, not '{type}'"
    | v :: more, base? =>
      let base ← integer (more.head?.getD (base?.getD (.int 10)))
      if base != 0 && (base < 2 || base > 36) then
        raise (.valueError "int() base must be >= 2 and <= 36, or 0")
      else match numeral? v with
        | some t => readInt base.toNat v t
        | none => typeFault "int() can't convert non-string with explicit base"

/-- Makes a floating-point number. -/
def makeFloat (args : Arguments) : Run Value := do
  match ← someArguments "float" 0 1 args with
  | [] => return .float 0
  | v :: _ =>
    match v.number? with
    | some x => return .float (← ofExcept x.toFloat)
    | none => match numeral? v with
      | some t => match readFloat? (stripBlanks t) with
        | some x => return .float x
        | none =>
          let text := String.ofList (← written v)
          raise (.valueError s!"could not convert string to float: {text}")
      | none =>
        typeFault s!"float() argument must be a string or a real number, not '{← typeName v}'"

/-! ## Others -/

/-- Makes a text. -/
def makeStr (args : Arguments) : Run Value := do
  onlyNames "str" ["object", "encoding", "errors"] args
  match args.positional, args.named with
  | [], [] => return .str []
  | [v], [] | [], [("object", v)] => return .str (← str v)
  | _, _ => raise (.notProvided "decoding of bytes")

/-- Makes a truth value. -/
def makeBool (args : Arguments) : Run Value := do
  match ← someArguments "bool" 0 1 args with
  | [] => return .bool false
  | v :: _ => return .bool (truth (← world) v)

/-- Makes a range. -/
def makeRange (args : Arguments) : Run Value := do
  match ← someArguments "range" 1 3 args with
  | [stop] => return .range 0 (← integer stop) 1
  | start :: stop :: more =>
    let start ← integer start
    let stop ← integer stop
    let step ← match more with
      | [] => pure 1
      | step :: _ => integer step
    if step = 0 then raise (.valueError "range() arg 3 must not be zero")
    else return .range start stop step
  | [] => return .range 0 0 1

/-- The type of a value. -/
def makeType (args : Arguments) : Run Value := do
  match args.positional, args.named with
  | [v], [] =>
    match (← cells).classOf v with
    | .type "SimpleNamespace" => return .type "types.SimpleNamespace"
    | c => return c
  | [_, _, _], _ => raise (.notProvided "a class made by a call")
  | _, _ => typeFault "type() takes 1 or 3 arguments"

/-- Makes a computed attribute. -/
def makeProperty (args : Arguments) : Run Value := do
  match args.positional, args.named with
  | [], [] => return .object (← alloc (.property .none))
  | [getter], [] | [], [("fget", getter)] => return .object (← alloc (.property getter))
  | _, _ => raise (.notProvided "a computed attribute that can be set")

end Run

namespace Rules

/-- The items of an optional argument. -/
def optionalItems (r : Rules) (f : String) (args : Arguments) : Run (List Value) := do
  match ← Run.someArguments f 0 1 args with
  | [] => return []
  | v :: _ => r.items v

/-- The pair that an item of a dictionary's source stands for. -/
def entryOf (r : Rules) (index : Nat) (item : Value) : Run (Value × Value) := do
  let fault (_ : String) : Raised :=
    .typeError s!"cannot convert dictionary update sequence element #{index} to a sequence"
  match ← r.itemsOr fault item with
  | [k, v] => return (← Run.key k, v)
  | xs => .raise <| .valueError <|
    s!"dictionary update sequence element #{index} has length {xs.length}; 2 is required"

/-- Puts the entries of a source over those of a dictionary. -/
def updateEntries (r : Rules) (f : String) (loc : Loc) (args : Arguments) : Run Unit := do
  let put (new : List (Value × Value)) : Run Unit := do
    let cells ← Run.cells
    .store loc (.dict (mergeEntries (cells.entries loc) new))
  match ← Run.someArguments f 0 1 { args with named := [] } with
  | [] => pure ()
  | v :: _ =>
    match Run.entriesOf? (← Run.cells) v with
    | some entries => put entries
    | none =>
      let items ← r.items v
      .forEach items.zipIdx fun (item, i) => do put [← r.entryOf i item]
  put (args.named.map fun (n, v) => (.ofString n, v))

/-- Makes a dictionary. -/
def makeDict (r : Rules) (args : Arguments) : Run Value := do
  let loc ← Run.alloc (.dict [])
  r.updateEntries "dict" loc args
  return .dict loc

/-- Makes an iterator that counts along another one. -/
def makeEnumerate (args : Arguments) : Run Value := do
  let start ← match args.positional, args.named with
    | [_], [] => pure 0
    | [_, n], [] | [_], [("start", n)] => Run.integer n
    | [], _ => .typeFault "enumerate() missing required argument 'iterable' (pos 1)"
    | _, _ =>
      let n := args.positional.length + args.named.length
      .typeFault s!"enumerate() takes at most 2 arguments ({n} given)"
  let source ← Run.iterate (args.positional.headD .none)
  Run.newIterator "enumerate" (.enumerate source start)

/-- Makes an iterator over the items of others side by side. -/
def makeZip (args : Arguments) : Run Value := do
  Run.onlyNames "zip" ["strict"] args
  Run.newIterator "zip" (.zip (← args.positional.mapM Run.iterate))

/-- Makes an iterator over the results of a function. -/
def makeMap (args : Arguments) : Run Value := do
  if !args.named.isEmpty then .typeFault "map() takes no keyword arguments"
  else match args.positional with
    | f :: source :: more =>
      let sources ← (source :: more).mapM Run.iterate
      Run.newIterator "map" (.map f sources)
    | _ => .typeFault "map() must have at least two arguments."

/-- Makes an iterator over the items that a function accepts. -/
def makeFilter (args : Arguments) : Run Value := do
  match ← Run.someArguments "filter" 2 2 args with
  | f :: source :: _ => Run.newIterator "filter" (.filter f (← Run.iterate source))
  | _ => return .none

/-- Makes an iterator over a sequence from its end. -/
def makeReversed (r : Rules) (args : Arguments) : Run Value := do
  match ← Run.someArguments "reversed" 1 1 args with
  | [v] =>
    match v with
    | .list _ => Run.newIterator "list_reverseiterator" (.items (← r.items v).reverse)
    | .range .. => Run.newIterator "range_iterator" (.items (← r.items v).reverse)
    | .str _ | .tuple _ | .bytes _ => Run.newIterator "reversed" (.items (← r.items v).reverse)
    | .dict _ | .proxy _ | .view .. =>
      Run.newIterator "dict_reversekeyiterator" (.items (← r.items v).reverse)
    | v => .typeFault s!"'{← Run.typeName v}' object is not reversible"
  | _ => return .none

/-- Makes a slice. -/
def makeSlice (args : Arguments) : Run Value := do
  match ← Run.someArguments "slice" 1 3 args with
  | [stop] => return .slice .none stop .none
  | [start, stop] => return .slice start stop .none
  | start :: stop :: step :: _ => return .slice start stop step
  | [] => return .none

/-- Makes bytes. -/
def makeBytes (r : Rules) (args : Arguments) : Run Value := do
  match args.positional, args.named with
  | [], [] => return .bytes []
  | [.bytes bs], [] => return .bytes bs
  | [.int n], [] =>
    if n < 0 then .raise (.valueError "negative count")
    else return .bytes (List.replicate n.toNat 0)
  | [.str _], [] => .typeFault "string argument without an encoding"
  | [v], [] =>
    let ns ← (← r.items v).mapM Run.integer
    if ns.all fun n => 0 ≤ n && n < 256 then return .bytes (ns.map fun n => n.toNat.toUInt8)
    else .raise (.valueError "bytes must be in range(0, 256)")
  | _, _ => .raise (.notProvided "encoding of texts")

/-- Calls a type. -/
def callType (r : Rules) (name : String) (args : Arguments) : Run Value := do
  match name with
  | "int" => Run.makeInt args
  | "float" => Run.makeFloat args
  | "str" => Run.makeStr args
  | "bool" => Run.makeBool args
  | "list" => Run.newList (← r.optionalItems "list" args)
  | "tuple" => return .tuple (← r.optionalItems "tuple" args)
  | "dict" => r.makeDict args
  | "range" => Run.makeRange args
  | "type" => Run.makeType args
  | "enumerate" => makeEnumerate args
  | "zip" => makeZip args
  | "map" => makeMap args
  | "filter" => makeFilter args
  | "reversed" => r.makeReversed args
  | "slice" => makeSlice args
  | "bytes" => r.makeBytes args
  | "property" => Run.makeProperty args
  | "set" | "frozenset" =>
    -- the items are asked for all the same, which may run code
    let _ ← r.optionalItems name args
    .raise (.notProvided s!"a call of {name}")
  | "NoneType" => return .none
  | name =>
    if (exceptionParents.lookup name).isSome then
      if args.named.isEmpty then return .exception name args.positional
      else .typeFault s!"{name}() takes no keyword arguments"
    else .raise (.notProvided s!"a call of {name}")

end Rules

end Scratchpad
