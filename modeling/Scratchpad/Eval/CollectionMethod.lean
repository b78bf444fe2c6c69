import Scratchpad.Eval.Placeholder
import Scratchpad.Eval.TextMethod

/-!
# Methods of collections and other values

What `collection.method(...)` does. Lists and dictionaries change in place.
-/

namespace Scratchpad

namespace Run

/-- The position of an item between bounds. -/
def findItem (xs : List Value) (v : Value) (bounds : List Value) : Run (Option Nat) := do
  let cells ← cells
  let bound (default : Nat) (b? : Option Value) : Run Nat := do
    match b? with
    | none => return default
    | some b =>
      let i ← integer b
      return (if i < 0 then max 0 (i + xs.length) else i).toNat
  let start ← bound 0 bounds.head?
  let stop ← bound xs.length bounds[1]?
  return ((xs.take stop).drop start).findIdx? (isEqual cells · v) |>.map (· + start)

/-- Number of items that equal a value. -/
def countItem (xs : List Value) (v : Value) : Run Value := do
  let cells ← cells
  return .int (xs.countP (isEqual cells · v))

/-- Takes an item out of a list. -/
def popItem (loc : Loc) (args : List Value) : Run Value := do
  let xs := (← cells).items loc
  let i ← match args with
    | [] => pure (-1)
    | v :: _ => integer v
  if xs.isEmpty then raise (.indexError "pop from empty list")
  else match indexIn xs.length i with
    | none => raise (.indexError "pop index out of range")
    | some i =>
      store loc (.list (xs.eraseIdx i))
      return xs[i]?.getD .none

end Run

namespace Rules

/-- Calls a method of a list. -/
def callList (r : Rules) (loc : Loc) (name : String) (args : Arguments) : Run Value := do
  let take (low high : Nat) : Run (List Value) := Run.methodArguments "list" name low high [] args
  let xs := (← Run.cells).items loc
  let put (xs : List Value) : Run Value := do
    .store loc (.list xs)
    return .none
  match name with
  | "append" => put (xs ++ (← take 1 1))
  | "extend" =>
    let more ← r.items ((← take 1 1).headD .none)
    -- asking for the items may change the list, so it is read again behind that
    put ((← Run.cells).items loc ++ more)
  | "insert" =>
    match ← take 2 2 with
    | i :: v :: _ =>
      let i ← Run.integer i
      let i := if i < 0 then max 0 (i + xs.length) else min i xs.length
      put (xs.insertIdx i.toNat v)
    | _ => return .none
  | "pop" => Run.popItem loc (← take 0 1)
  | "remove" =>
    match ← Run.findItem xs ((← take 1 1).headD .none) [] with
    | some i => put (xs.eraseIdx i)
    | none => .raise (.valueError "list.remove(x): x not in list")
  | "clear" =>
    let _ ← take 0 0
    put []
  | "reverse" =>
    let _ ← take 0 0
    put xs.reverse
  | "copy" =>
    let _ ← take 0 0
    Run.newList xs
  | "count" => Run.countItem xs ((← take 1 1).headD .none)
  | "index" =>
    match ← take 1 3 with
    | v :: bounds =>
      match ← Run.findItem xs v bounds with
      | some i => return .int i
      | none => .raise (.valueError s!"{String.ofList (← Run.written v)} is not in list")
    | [] => return .none
  | "sort" =>
    if !args.positional.isEmpty then .typeFault "sort() takes no positional arguments"
    else match args.named.find? fun (n, _) => n != "key" && n != "reverse" with
      | some (n, _) => .typeFault s!"'{n}' is an invalid keyword argument for sort()"
      | none =>
        let s ← r.sortItems xs args.named
        let _ ← put (s.items.map (·.2))
        -- a fault while sorting leaves the items in some order, and none is lost
        sortFault s
        return .none
  | name => .raise (.notProvided s!"the method {name}")

/-- Calls a method of a tuple or of a range. -/
def callSequence (type : String) (xs : List Value) (name : String) (args : Arguments) :
    Run Value := do
  let high := if type == "tuple" then 3 else 1
  match name with
  | "count" =>
    Run.countItem xs ((← Run.methodArguments type name 1 1 [] args).headD .none)
  | "index" =>
    match ← Run.methodArguments type name 1 high [] args with
    | v :: bounds =>
      match ← Run.findItem xs v bounds with
      | some i => return .int i
      | none =>
        if type == "tuple" then .raise (.valueError "tuple.index(x): x not in tuple")
        else .raise (.valueError s!"{String.ofList (← Run.written v)} is not in range")
    | [] => return .none
  | name => .raise (.notProvided s!"the method {name}")

/-- Calls a method that reads a dictionary. -/
def readDict (type : String) (loc : Loc) (name : String) (args : Arguments) :
    Run (Option Value) := do
  let take (low high : Nat) : Run (List Value) := Run.methodArguments type name low high [] args
  let entries := (← Run.cells).entries loc
  let view (kind : ViewKind) : Run (Option Value) := do
    let _ ← take 0 0
    return some (.view kind loc)
  match name with
  | "keys" => view .keys
  | "values" => view .values
  | "items" => view .items
  | "get" =>
    match ← take 1 2 with
    | k :: default =>
      return some ((entryGet? entries (← Run.key k)).getD (default.headD .none))
    | [] => return none
  | "copy" =>
    let _ ← take 0 0
    return some (← Run.newDict entries)
  | _ => return none

/-- Calls a method of a dictionary. -/
def callDict (r : Rules) (loc : Loc) (name : String) (args : Arguments) : Run Value := do
  let take (low high : Nat) : Run (List Value) := Run.methodArguments "dict" name low high [] args
  let entries := (← Run.cells).entries loc
  let put (es : List (Value × Value)) : Run Unit := .store loc (.dict es)
  match ← readDict "dict" loc name args with
  | some v => return v
  | none =>
    match name with
    | "pop" =>
      match ← take 1 2 with
      | k :: default =>
        match entryGet? entries (← Run.key k) with
        | some v =>
          put (entryErase entries k)
          return v
        | none => match default with
          | v :: _ => return v
          | [] => .raise (.keyError k)
      | [] => return .none
    | "popitem" =>
      let _ ← take 0 0
      match entries.getLast? with
      | some (k, v) =>
        put entries.dropLast
        return .tuple [k, v]
      | none => .raise (.keyError (.ofString "popitem(): dictionary is empty"))
    | "setdefault" =>
      match ← take 1 2 with
      | k :: default =>
        match entryGet? entries (← Run.key k) with
        | some v => return v
        | none =>
          let v := default.headD .none
          put (entrySet entries k v)
          return v
      | [] => return .none
    | "clear" =>
      let _ ← take 0 0
      put []
      return .none
    | "update" =>
      r.updateEntries "update" loc args
      return .none
    | "fromkeys" =>
      match ← take 1 2 with
      | ks :: v =>
        let ks ← (← r.items ks).mapM Run.key
        Run.newDict (mergeEntries [] (ks.map fun k => (k, v.headD .none)))
      | [] => return .none
    | name => .raise (.notProvided s!"the method {name}")

/-- Calls a method of bytes. -/
def callBytes (bs : List UInt8) (name : String) (args : Arguments) : Run Value := do
  match name, args.positional, args.named with
  | "hex", [], [] => return .str (bs.flatMap fun b => hexText 2 b.toNat)
  | "decode", [], [] | "decode", [.str ['u', 't', 'f', '-', '8']], [] =>
    match String.fromUTF8? ⟨bs.toArray⟩ with
    | some s => return .str s.toList
    | none => .raise (.notProvided "decoding of such bytes")
  | name, _, _ => .raise (.notProvided s!"the method {name}")

/-- Calls a method of a number. -/
def callNumber (v : Value) (name : String) (args : Arguments) : Run Value := do
  let _ ← Run.methodArguments (typeNameOf (← Run.cells) v) name 0 0 [] args
  match name, v.number? with
  | "bit_length", some (.int n) =>
    return .int (if n = 0 then 0 else (n.natAbs.log2 + 1 : Nat))
  | "bit_count", some (.int n) => return .int ((Nat.toDigits 2 n.natAbs).count '1')
  | "conjugate", some (.int n) | "__int__", some (.int n) | "__index__", some (.int n) =>
    return .int n
  | "conjugate", some (.float x) | "__float__", some (.float x) => return .float x
  | "as_integer_ratio", some (.int n) => return .tuple [.int n, .int 1]
  | "as_integer_ratio", some (.float x) =>
    let _ ← Run.ofExcept (wholePart x)
    -- what is infinite or no number has no ratio
    let (num, den) := floatRatio x
    let g := max 1 (Nat.gcd num.natAbs den)
    return .tuple [.int (num / (g : Int)), .int (den / g : Nat)]
  | "is_integer", some (.float x) =>
    return .bool (!x.isNaN && !x.isInf && x.floor == x)
  | name, _ => .raise (.notProvided s!"the method {name}")

/-- Calls a method that every value of its kind has under a name with underscores. -/
def callSpecial (r : Rules) (self : Value) (name : String) (args : Arguments) :
    Run (Option Value) := do
  match name, args.positional with
  | "__len__", [] => return some (← length self)
  | "__str__", [] => return some (.str (← Run.str self))
  | "__repr__", [] => return some (.str (← Run.written self))
  | "__bool__", [] => return some (.bool (truth (← Run.world) self))
  | "__iter__", [] => return some (← Run.iterate self)
  | "__contains__", [v] => return some (.bool (← r.contains self v))
  | "__getitem__", [i] => return some (← Run.getItem self i)
  | "__setitem__", [i, v] =>
    r.setItem self i v
    return some .none
  | "__delitem__", [i] =>
    Run.deleteItem self i
    return some .none
  | "__eq__", [v] => return some (← r.compare .eq self v)
  | "__ne__", [v] => return some (← r.compare .ne self v)
  | "__lt__", [v] => return some (← r.compare .lt self v)
  | "__le__", [v] => return some (← r.compare .le self v)
  | "__gt__", [v] => return some (← r.compare .gt self v)
  | "__ge__", [v] => return some (← r.compare .ge self v)
  | "__add__", [v] => return some (← Run.operate .add false self v)
  | "__sub__", [v] => return some (← Run.operate .sub false self v)
  | "__mul__", [v] => return some (← Run.operate .mul false self v)
  | "__mod__", [v] => return some (← Run.operate .mod false self v)
  | "__format__", [.str spec] => return some (.str (← Run.formatValue self spec))
  | "__getattribute__", [.str n] => return some (← r.getAttribute self (String.ofList n))
  | "__dir__", [] => return some (← Run.newList ((← Run.attributeNames self).map .ofString))
  | "__call__", _ => return some (← r.call self args.positional args.named)
  | _, _ => return none

/-- Calls a method of an object in a cell. -/
def callObject (loc : Loc) (name : String) (args : Arguments) : Run Value := do
  match (← Run.cells)[loc]?, name with
  | some (.sink _), "write" =>
    Run.writeSink loc ((← Run.methodArguments "_io.StringIO" name 1 1 [] args).headD .none)
  | some (.sink content), "getvalue" =>
    let _ ← Run.methodArguments "_io.StringIO" name 0 0 [] args
    return .str content
  | some (.sink _), "flush" => return .none
  | some (.guest g), name =>
    if g.methods.contains name then return .none
    else .raise (.notProvided s!"the method {name}")
  | _, name => .raise (.notProvided s!"the method {name}")

end Rules

end Scratchpad
