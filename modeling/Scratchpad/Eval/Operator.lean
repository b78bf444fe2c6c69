import Scratchpad.Eval.Iteration
import Scratchpad.Text.Search
import Scratchpad.Value.Template

/-!
# Operators

Operators on values of any type. Numbers have arithmetic; texts, lists and tuples
are joined by `+` and repeated by `*`; `%` fills a template; `|` merges
dictionaries. An assignment with an operator changes a list or a dictionary in
place.
-/

namespace Scratchpad

/-- How an operator is written in a complaint. -/
def BinaryOp.complaintSymbol (op : BinaryOp) (inPlace : Bool) : String :=
  match op, inPlace with
  | .pow, false => "** or pow()"
  | op, false => op.symbol
  | op, true => op.symbol ++ "="

/-- Bound on the length of a repeated sequence. -/
def maxLength : Nat := 0x80000000

/-- Entries of a dictionary with those of another put over them. -/
def mergeEntries (old new : List (Value × Value)) : List (Value × Value) :=
  new.foldl (fun es (k, v) => entrySet es k v) old

namespace Run

/-- The number of times a sequence of some length is repeated. -/
def repeatCount (length : Nat) (v : Value) : Run Nat := do
  let n ← match v with
    | .int n => pure n
    | .bool b => pure (if b then 1 else 0)
    | v => typeFault s!"can't multiply sequence by non-int of type '{← typeName v}'"
  if n.natAbs ≥ 0x8000000000000000 then
    raise (.of "OverflowError" "cannot fit 'int' into an index-sized integer")
  else if n.toNat * length ≥ maxLength then raise ⟨"MemoryError", []⟩
  else return n.toNat

/-- A sequence repeated, if the value is one. -/
def repeated? (v count : Value) : Run (Option Value) := do
  let cells ← cells
  match v with
  | .str t => return some (.str (List.replicate (← repeatCount t.length count) t).flatten)
  | .bytes bs => return some (.bytes (List.replicate (← repeatCount bs.length count) bs).flatten)
  | .tuple xs => return some (.tuple (List.replicate (← repeatCount xs.length count) xs).flatten)
  | .list loc =>
    let xs := cells.items loc
    return some (← newList (List.replicate (← repeatCount xs.length count) xs).flatten)
  | _ => return none

/-- Two sequences joined, if the first is one. -/
def joined? (a b : Value) : Run (Option Value) := do
  let cells ← cells
  let only (type : String) : Run (Option Value) := do
    typeFault s!"can only concatenate {type} (not \"{← typeName b}\") to {type}"
  match a, b with
  | .str s, .str t => return some (.str (s ++ t))
  | .bytes s, .bytes t => return some (.bytes (s ++ t))
  | .tuple xs, .tuple ys => return some (.tuple (xs ++ ys))
  | .list i, .list j => return some (← newList (cells.items i ++ cells.items j))
  | .str _, _ => only "str"
  | .bytes _, _ => typeFault s!"can't concat {← typeName b} to bytes"
  | .tuple _, _ => only "tuple"
  | .list _, _ => only "list"
  | _, _ => return none

/-- The entries of a dictionary or of a view of one. -/
def entriesOf? (cells : Cells) : Value → Option (List (Value × Value))
  | .dict loc | .proxy loc => some (cells.entries loc)
  | _ => none

/-- A binary operator. -/
def operate (op : BinaryOp) (inPlace : Bool) (a b : Value) : Run Value := do
  let unsupported : Run Value := do
    raise (.unsupportedOperands (op.complaintSymbol inPlace) (← typeName a) (← typeName b))
  let orUnsupported (v? : Option Value) : Run Value :=
    match v? with
    | some v => return v
    | none => unsupported
  match numberOperation op a b with
  | some r => ofExcept r
  | none =>
    match op with
    | .add => orUnsupported (← joined? a b)
    | .mul =>
      match ← repeated? a b with
      | some v => return v
      -- a sequence may stand on either side
      | none => orUnsupported (← repeated? b a)
    | .mod =>
      match a with
      | .str t => return .str (← ofExcept (fillTemplate (← world) t b))
      | .bytes _ => raise (.notProvided "formatting of bytes")
      | _ => unsupported
    | .bitOr =>
      let cells ← cells
      match entriesOf? cells a, entriesOf? cells b with
      | some xs, some ys => newDict (mergeEntries xs ys)
      | _, _ => unsupported
    | _ => unsupported

/-- An operator in front of a value. -/
def operateUnary (op : UnaryOp) (v : Value) : Run Value := do
  match op with
  | .not => return .bool !(truth (← world) v)
  | _ => match v.number?.bind (·.unary op) with
    | some r => return r
    | none =>
      let symbol := match op with
        | .negative => "-"
        | .positive => "+"
        | _ => "~"
      typeFault s!"bad operand type for unary {symbol}: '{← typeName v}'"

/-! ## Comparison -/

/-- Whether two values are the same object. -/
def isSame (a b : Value) : Bool := sameObject compareDepth a b

/-- Whether two values are the same object or equal. -/
def isEqual (cells : Cells) (a b : Value) : Bool := isSame a b || cells.equal a b

/-- A key, or a complaint if the value cannot be one. -/
def key (v : Value) : Run Value := do
  match unhashable? (← cells) compareDepth v with
  | some type => raise (.unhashable type)
  | none => return v

end Run

/-- Whether a range has an item. -/
def rangeHas (start stop step : Int) (v : Value) : Bool :=
  let has (n : Int) : Bool :=
    (n - start) % step == 0 &&
      if step > 0 then start ≤ n && n < stop else stop < n && n ≤ start
  match v.number? with
  | some (.int n) => has n
  | some (.float x) =>
    !x.isNaN && !x.isInf && compareIntFloat (truncateFloat x) x == some .eq && has (truncateFloat x)
  | none => false

namespace Rules

/-- Whether a collection has an item. -/
def contains (r : Rules) (collection v : Value) : Run Bool := do
  let w ← Run.world
  match collection with
  | .str t => match v with
    | .str s => return (findText s t).isSome
    | _ =>
      let type ← Run.typeName v
      .typeFault s!"'in <string>' requires string as left operand, not {type}"
  | .bytes bs => match v with
    | .int n =>
      if n < 0 || n > 255 then .raise (.valueError "byte must be in range(0, 256)")
      else return bs.any fun b => (b.toNat : Int) == n
    | .bytes part => return (List.range (bs.length + 1)).any fun i => part.isPrefixOf (bs.drop i)
    | _ => .typeFault s!"a bytes-like object is required, not '{← Run.typeName v}'"
  | .dict loc | .proxy loc | .view .keys loc =>
    return (entryGet? (w.cells.entries loc) (← Run.key v)).isSome
  | .part .namespace => return (w.names.own.get? (← Run.key v)).isSome
  | .range a b c => return rangeHas a b c v
  | collection =>
    let notOne (type : String) : Raised :=
      .typeError s!"argument of type '{type}' is not iterable"
    return (← r.itemsOr notOne collection).any fun x => Run.isEqual w.cells x v

/-- A comparison by order. -/
def order (op : OrderOp) (a b : Value) : Run Bool := do
  let cells ← Run.cells
  match cells.ordered op a b with
  | .ok b => return b
  | .error (x, y) =>
    .raise (.unordered op.symbol (complaintTypeName cells x) (complaintTypeName cells y))

/-- A comparison. -/
def compare (r : Rules) (op : CompareOp) (a b : Value) : Run Value := do
  let cells ← Run.cells
  match op with
  | .eq => return .bool (cells.equal a b)
  | .ne => return .bool !(cells.equal a b)
  | .lt => return .bool (← order .lt a b)
  | .le => return .bool (← order .le a b)
  | .gt => return .bool (← order .gt a b)
  | .ge => return .bool (← order .ge a b)
  | .is => return .bool (Run.isSame a b)
  | .isNot => return .bool !(Run.isSame a b)
  | .mem => return .bool (← r.contains b a)
  | .notMem => return .bool !(← r.contains b a)

/-! ## Assignment with an operator -/

/-- The operator of an assignment such as `+=`. -/
def operateInPlace (r : Rules) (op : BinaryOp) (a b : Value) : Run Value := do
  match op, a with
  | .add, .list loc =>
    -- a list is changed in place, and takes the items of anything that has some
    let more ← r.items b
    let cells ← Run.cells
    .store loc (.list (cells.items loc ++ more))
    return a
  | .mul, .list loc =>
    let xs := (← Run.cells).items loc
    let n ← Run.repeatCount xs.length b
    .store loc (.list (List.replicate n xs).flatten)
    return a
  | .bitOr, .dict loc =>
    let cells ← Run.cells
    match Run.entriesOf? cells b with
    | some new =>
      .store loc (.dict (mergeEntries (cells.entries loc) new))
      return a
    | none => Run.operate op true a b
  | _, _ => Run.operate op true a b

end Rules

end Scratchpad
