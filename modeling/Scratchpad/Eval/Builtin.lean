import Scratchpad.Eval.Convert
import Scratchpad.Eval.Print
import Scratchpad.Value.Sorting

/-!
# Built-in functions

The functions that every snippet can call.
-/

namespace Scratchpad

namespace Run

/-! ## Numbers and characters -/

/-- The size of a number without its sign. -/
def absolute (v : Value) : Run Value := do
  match v.number? with
  | some (.int n) => return .int n.natAbs
  | some (.float x) => return .float x.abs
  | none => typeFault s!"bad operand type for abs(): '{← typeName v}'"

/-- The text of an integer with the mark of a base. -/
def marked (mark : Char) (base : Nat) (v : Value) : Run Value :=
  return .str (markedText mark base (← integer v))

/-- The character with a code. -/
def character (v : Value) : Run Value := do
  let n ← integer v
  if n.natAbs ≥ 0x80000000 then
    raise (.of "OverflowError" "Python int too large to convert to C int")
  else if n < 0 || n ≥ 0x110000 then raise (.valueError "chr() arg not in range(0x110000)")
  else return .str [Char.ofNat n.toNat]

/-- The code of a character. -/
def codeOf (v : Value) : Run Value := do
  let only (n : Nat) (what : String) : Run Value :=
    typeFault s!"ord() expected a character, but {what} of length {n} found"
  match v with
  | .str [c] => return .int c.toNat
  | .bytes [b] => return byteValue b
  | .str t => only t.length "string"
  | .bytes bs => only bs.length "bytes"
  | v => typeFault s!"ord() expected string of length 1, but {← typeName v} found"

/-- Quotient and remainder. -/
def quotientRemainder (a b : Value) : Run Value := do
  match a.number?, b.number? with
  | some x, some y => ofExcept (divMod x y)
  | _, _ => raise (.unsupportedOperands "divmod()" (← typeName a) (← typeName b))

/-- A power, to a modulus if there is one. -/
def power (args : List Value) : Run Value := do
  match args with
  | [a, b, .int m] =>
    match a, b with
    | .int a, .int b =>
      if m = 0 then raise (.valueError "pow() 3rd argument cannot be 0")
      else if b < 0 then raise (.notProvided "a modular inverse")
      else return .int ((powMod m b.toNat.log2 a b.toNat).fmod m)
    | a, b =>
      raise (.typeError <|
        "unsupported operand type(s) for ** or pow(): " ++
        s!"'{← typeName a}', '{← typeName b}', 'int'")
  | a :: b :: _ => operate .pow false a b
  | _ => return .none
where
  /-- A power by repeated squaring; the fuel is the number of bits. -/
  powMod (m : Int) : Nat → Int → Nat → Int
    | 0, a, n => if n = 0 then 1 else a.fmod m
    | k + 1, a, n =>
      let half := powMod m k ((a * a).fmod m) (n / 2)
      if n % 2 = 0 then half else (half * a).fmod m

/-- A number rounded to a count of decimal places, or to a whole number. -/
def rounded (v places : Value) : Run Value := do
  match v.number?, places with
  | some (.int n), .none => return .int n
  | some (.int n), places =>
    let k ← integer places
    return .int (if k < 0 then roundInt (-k).toNat n else n)
  | some (.float x), .none =>
    if x.isNaN || x.isInf then return .int (← ofExcept (wholePart x))
    else return .int (roundFloat x)
  | some (.float x), places =>
    let k ← integer places
    if x.isNaN || x.isInf then return .float x else return .float (roundFloatPlaces k x)
  | none, _ => typeFault s!"type {← typeName v} doesn't define __round__ method"

/-! ## Types -/

/-- Whether a type derives from another. -/
def typeDerives (type ancestor : String) : Bool :=
  type == ancestor || ancestor == "object" || (type == "bool" && ancestor == "int") ||
    (type == "SandboxNamespace" && ancestor == "dict") || derivesFrom type ancestor

/-- Whether a class is or derives from another one or one of several, with fuel for nested
tuples. -/
def derivesFromAny (cells : Cells) (c : Value) : Nat → Value → Option Bool
  | 0, _ => none
  | n + 1, t => match t with
    | .type name => match c with
      | .type type => some (typeDerives type (lastPart name))
      | _ => some (lastPart name == "object")
    | .object loc => match cells[loc]?, c with
      | some (.kind ..), .object kind => some (kind == loc)
      | some (.kind ..), _ => some false
      | _, _ => none
    | .tuple ts =>
      ts.foldl
        (fun found t => match found with
          | some false => derivesFromAny cells c n t
          | r => r)
        (some false)
    | _ => none

/-- The class that a value is, if it is one. -/
def classValue? (cells : Cells) (v : Value) : Option Value :=
  match v with
  | .type name => some (.type (lastPart name))
  | .object loc => match cells[loc]? with
    | some (.kind ..) => some v
    | _ => none
  | _ => none

/-- Ends the program with a code, and closes its input. -/
def quit (args : Arguments) : Run Value := do
  match args.positional, args.named with
  | [], [] => leave .none
  | [code], [] => leave code
  | [], [("code", code)] => leave code
  | vs, [] =>
    typeFault <|
      s!"Quitter.__call__() takes from 1 to 2 positional arguments but {vs.length + 1} were given"
  | _, (n, _) :: _ =>
    typeFault s!"Quitter.__call__() got an unexpected keyword argument '{n}'"
where
  /-- Leaves with a code. -/
  leave (code : Value) : Run Value := do
    update fun w => { w with inputClosed := true }
    raise ⟨"SystemExit", [code]⟩

/-- Reads a line of input, of which there is none. -/
def input (args : Arguments) : Run Value := do
  match ← someArguments "input" 0 1 args with
  | [] => pure ()
  | prompt :: _ => writeOut (← str prompt)
  if (← world).inputClosed then raise (.valueError "I/O operation on closed file")
  else raise (.of "EOFError" "EOF when reading a line")

/-- Characters outside the first 128 in escaped form. -/
def asciiText (v : Value) : Run Value := return .str (Directive.lay.escapeWide (← written v))

/-- Lays a value out by a specification. -/
def formatValue (v : Value) (spec : Text) : Run Text := do
  if spec.isEmpty then str v
  else
    let type ← typeName v
    let field := Field.read type spec
    match v with
    | .str t => ofExcept do (← field).layText t
    | .bool b => ofExcept do (← field).layInt (if b then 1 else 0)
    | .int n => ofExcept do (← field).layInt n
    | .float x => ofExcept do (← field).layFloat x
    | _ => typeFault s!"unsupported format string passed to {type}.__format__"

/-- Names of the attributes of a value, in order. -/
def attributeNames (v : Value) : Run (List String) := return sortNames ((← world).attributeNames v)

end Run

namespace Rules

/-! ## Collections -/

/-- The number of items of a collection. -/
def length (v : Value) : Run Value := do
  match size? (← Run.world) v with
  | some n => return .int n
  | none => .typeFault s!"object of type '{← Run.typeName v}' has no len()"

/-- Whether an iterator yields an item whose truth is `wanted`. -/
def yields (r : Rules) (wanted : Bool) (iterator : Value) : Nat → Run Bool
  | 0 => .spend
  | n + 1 => do
    match ← r.next iterator with
    | none => return false
    | some x =>
      if truth (← Run.world) x == wanted then return true else yields r wanted iterator n

/-- The sum of items, from a start. -/
def sum (r : Rules) (args : Arguments) : Run Value := do
  Run.onlyNames "sum" ["start"] args
  match args.positional, args.named.lookup "start" with
  | [], _ => .typeFault "sum() takes at least 1 positional argument (0 given)"
  | [xs], start? => add (start?.getD (.int 0)) xs
  | [xs, start], none => add start xs
  | vs, _ =>
    .typeFault s!"sum() takes at most 2 arguments ({vs.length + args.named.length} given)"
where
  /-- Adds up. -/
  add (start xs : Value) : Run Value := do
    match start with
    | .str _ => .typeFault "sum() can't sum strings [use ''.join(seq) instead]"
    | .bytes _ => .typeFault "sum() can't sum bytes [use b''.join(seq) instead]"
    | start => (← r.items xs).foldlM (Run.operate .add false) start

/-- The first of the items that no other one surpasses. -/
def extreme (r : Rules) (f : String) (op : OrderOp) (args : Arguments) : Run Value := do
  match args.named.find? fun (n, _) => n != "key" && n != "default" with
  | some (n, _) => .typeFault s!"{f}() got an unexpected keyword argument '{n}'"
  | none =>
    let default := args.named.lookup "default"
    let items ← match args.positional with
      | [] => .typeFault s!"{f} expected at least 1 argument, got 0"
      | [xs] => r.items xs
      | xs =>
        if default.isSome then
          .typeFault s!"Cannot specify a default for {f}() with multiple positional arguments"
        else pure xs
    let keyed (v : Value) : Run (Value × Value) := do
      match (args.named.lookup "key").getD .none with
      | .none => return (v, v)
      | f => return (← r.call f [v] [], v)
    match items with
    | [] => match default with
      | some v => return v
      | none => .raise (.valueError s!"{f}() arg is an empty sequence")
    | x :: rest =>
      -- of equal items the first one stays
      let best ← rest.foldlM
        (fun best x => do
          let next ← keyed x
          return if ← order op next.1 best.1 then next else best)
        (← keyed x)
      return best.2

/-- Sorts values by a key; the keys come first. -/
def sortItems (r : Rules) (items : List Value) (named : List (String × Value)) :
    Run (Sorted (Value × Value)) := do
  let downward := truth (← Run.world) ((named.lookup "reverse").getD (.bool false))
  let keyed ← match (named.lookup "key").getD .none with
    | .none => pure (items.map fun v => (v, v))
    | f => items.mapM fun v => do return (← r.call f [v] [], v)
  return sortByKey (← Run.cells) downward keyed

/-- Raises the complaint of a sort that found no order. -/
def sortFault (s : Sorted (Value × Value)) : Run Unit := do
  match s.fault with
  | none => return ()
  | some (x, y) => .raise (.unordered "<" (← Run.typeName x) (← Run.typeName y))

/-- A sorted list of items. -/
def sorted (r : Rules) (args : Arguments) : Run Value := do
  match args.positional with
  | [xs] =>
    let items ← r.items xs
    match args.named.find? fun (n, _) => n != "key" && n != "reverse" with
    | some (n, _) => .typeFault s!"'{n}' is an invalid keyword argument for sort()"
    | none =>
      let s ← r.sortItems items args.named
      sortFault s
      Run.newList (s.items.map (·.2))
  | vs => .typeFault s!"sorted expected 1 argument, got {vs.length}"

/-- The next item of an iterator, or a default. -/
def nextOr (r : Rules) (args : Arguments) : Run Value := do
  match ← Run.someArguments "next" 1 2 args with
  | it :: default =>
    match ← r.next it with
    | some x => return x
    | none => match default with
      | v :: _ => return v
      | [] => .raise ⟨"StopIteration", []⟩
  | [] => return .none

/-- The value of an attribute that is named by a text, or a default. -/
def attributeOr (r : Rules) (args : Arguments) : Run Value := do
  match ← Run.someArguments "getattr" 2 3 args with
  | v :: .str n :: default =>
    match default with
    | [] => r.getAttribute v (String.ofList n)
    | d :: _ =>
      .handle (r.getAttribute v (String.ofList n)) fun e =>
        if derivesFrom e.kind "AttributeError" then pure d else .raise e
  | _ => .typeFault "attribute name must be string"

/-- Whether a value has an attribute. -/
def hasAttribute (r : Rules) (args : Arguments) : Run Value := do
  match ← Run.someArguments "hasattr" 2 2 args with
  | [v, .str n] =>
    .handle (do
      let _ ← r.getAttribute v (String.ofList n)
      return .bool true) fun e =>
        if derivesFrom e.kind "AttributeError" then pure (.bool false) else .raise e
  | _ => .typeFault "attribute name must be string"

/-- Binds or deletes an attribute that is named by a text. -/
def alterAttribute (f : String) (args : Arguments) : Run Value := do
  let count := if f == "setattr" then 3 else 2
  match ← Run.someArguments f count count args with
  | [v, .str n] =>
    Run.deleteAttribute v (String.ofList n)
    return .none
  | [v, .str n, x] =>
    Run.setAttribute v (String.ofList n) x
    return .none
  | _ => .typeFault "attribute name must be string"

/-- Calls a built-in function. -/
def callBuiltin (r : Rules) (name : String) (args : Arguments) : Run Value := do
  let one : Run Value := Run.onlyArgument name args
  match name with
  | "print" => r.print args
  | "len" => length (← one)
  | "abs" => Run.absolute (← one)
  | "repr" => return .str (← Run.written (← one))
  | "ascii" => Run.asciiText (← one)
  | "chr" => Run.character (← one)
  | "ord" => Run.codeOf (← one)
  | "hex" => Run.marked 'x' 16 (← one)
  | "oct" => Run.marked 'o' 8 (← one)
  | "bin" => Run.marked 'b' 2 (← one)
  | "callable" =>
    let v ← one
    return .bool (canBeCalled (← Run.cells) v)
  | "any" => return .bool (← r.yields true (← Run.iterate (← one)) maxRounds)
  | "all" => return .bool !(← r.yields false (← Run.iterate (← one)) maxRounds)
  | "divmod" =>
    match ← Run.someArguments name 2 2 args with
    | [a, b] => Run.quotientRemainder a b
    | _ => return .none
  | "isinstance" =>
    match ← Run.someArguments name 2 2 args with
    | [v, t] =>
      let cells ← Run.cells
      match Run.derivesFromAny cells (cells.classOf v) compareDepth t with
      | some b => return .bool b
      | none =>
        .typeFault "isinstance() arg 2 must be a type, a tuple of types, or a union"
    | _ => return .none
  | "issubclass" =>
    match ← Run.someArguments name 2 2 args with
    | [v, t] =>
      let cells ← Run.cells
      match Run.classValue? cells v with
      | none => .typeFault "issubclass() arg 1 must be a class"
      | some c => match Run.derivesFromAny cells c compareDepth t with
        | some b => return .bool b
        | none =>
          .typeFault "issubclass() arg 2 must be a class, a tuple of classes, or a union"
    | _ => return .none
  | "round" =>
    match args.positional, args.named with
    | [v], [] => Run.rounded v .none
    | [v, n], [] | [v], [("ndigits", n)] => Run.rounded v n
    | [], [] => .typeFault "round() missing required argument 'number' (pos 1)"
    | _, _ =>
      let n := args.positional.length + args.named.length
      .typeFault s!"round() takes at most 2 arguments ({n} given)"
  | "pow" => Run.power (← Run.someArguments name 2 3 args)
  | "sum" => r.sum args
  | "min" => r.extreme name .lt args
  | "max" => r.extreme name .gt args
  | "sorted" => r.sorted args
  | "iter" =>
    match ← Run.someArguments name 1 2 args with
    | [v] => Run.iterate v
    | _ => .raise (.notProvided "an iterator over calls")
  | "next" => r.nextOr args
  | "input" => Run.input args
  | "exit" | "quit" => Run.quit args
  | "getattr" => r.attributeOr args
  | "hasattr" => r.hasAttribute args
  | "setattr" | "delattr" => alterAttribute name args
  | "format" =>
    match ← Run.someArguments name 1 2 args with
    | [v] => return .str (← Run.formatValue v [])
    | [v, .str spec] => return .str (← Run.formatValue v spec)
    | _ :: v :: _ => .typeFault s!"format() argument 2 must be str, not {← Run.typeName v}"
    | [] => return .none
  | "dir" =>
    match args.positional with
    | [v] => Run.newList ((← Run.attributeNames v).map .ofString)
    | _ => .raise (.notProvided "such a call of dir")
  | "globals" => return .part .namespace
  | "__spec__" => .raise (.notCallable "ModuleSpec")
  | name => .raise (.notProvided s!"a call of {name}")

end Rules

end Scratchpad
