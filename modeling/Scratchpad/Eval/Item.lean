import Scratchpad.Eval.Operator

/-!
# Items of collections

Reading, binding and deleting `collection[index]`. A negative index counts from
the end; a slice is cut to the collection and never fails for its bounds.
-/

namespace Scratchpad

/-- The positions that a slice picks from a sequence, as start, step and count,
together with the stop it was cut to. -/
structure Picked where
  start : Int
  stop : Int
  step : Int

namespace Picked

/-- Number of positions. -/
def count (p : Picked) : Nat := rangeLength p.start p.stop p.step

/-- The positions in the order in which they are picked. -/
def positions (p : Picked) : List Nat :=
  (List.range p.count).map fun (i : Nat) => (p.start + (i : Int) * p.step).toNat

/-- The picked items. -/
def of {α : Type} (p : Picked) (xs : List α) : List α :=
  if p.step = 1 then (xs.take (max p.start p.stop).toNat).drop p.start.toNat
  else
    let a := xs.toArray
    p.positions.filterMap (a[·]?)

end Picked

/-- The position of an index that may count from the end. -/
def indexIn (length : Nat) (i : Int) : Option Nat :=
  let j := if i < 0 then i + length else i
  if 0 ≤ j && j < length then some j.toNat else none

/-- A bound of a slice cut to a sequence. -/
def cutBound (length : Nat) (step : Int) (i : Int) : Int :=
  let low : Int := if step < 0 then -1 else 0
  let high : Int := if step < 0 then (length : Int) - 1 else length
  let j := if i < 0 then i + length else i
  max low (min high j)

namespace Run

/-- A bound of a slice, unless it is left out. -/
def sliceBound (v : Value) : Run (Option Int) := do
  match v with
  | .none => return none
  | .int n => return some n
  | .bool b => return some (if b then 1 else 0)
  | _ => typeFault "slice indices must be integers or None or have an __index__ method"

/-- What a slice picks from a sequence of some length. -/
def pick (length : Nat) (start stop step : Value) : Run Picked := do
  let step ← match ← sliceBound step with
    | none => pure 1
    | some 0 => raise (.valueError "slice step cannot be zero")
    | some n => pure n
  let start ← match ← sliceBound start with
    | none => pure (if step < 0 then (length : Int) - 1 else 0)
    | some i => pure (cutBound length step i)
  let stop ← match ← sliceBound stop with
    | none => pure (if step < 0 then -1 else (length : Int))
    | some i => pure (cutBound length step i)
  return ⟨start, stop, step⟩

/-- The item of a sequence at an index, or the items that a slice picks. -/
def itemOrSlice {α β : Type} (xs : List α) (index : Value) (one : α → β) (many : List α → Run β)
    (outside : Raised) (wrongIndex : String → Raised) : Run β := do
  let at_ (i : Int) : Run β :=
    match (indexIn xs.length i).bind (xs[·]?) with
    | some x => return one x
    | none => raise outside
  match index with
  | .int i => at_ i
  | .bool b => at_ (if b then 1 else 0)
  | .slice a b c => many ((← pick xs.length a b c).of xs)
  | v => raise (wrongIndex (← typeName v))

/-- Types whose items have positions, in complaints about deletion. -/
def hasPositions : Value → Bool
  | .str _ | .bytes _ | .tuple _ | .range .. | .proxy _ | .view .. => true
  | _ => false

/-! ## Reading -/

/-- The item of a collection. -/
def getItem (v index : Value) : Run Value := do
  let w ← world
  let wrong (what : String) (type : String) : Raised :=
    .typeError s!"{what} indices must be integers or slices, not {type}"
  match v with
  | .str t =>
    itemOrSlice t index (fun c => .str [c]) (fun cs => return .str cs)
      (.indexError "string index out of range")
      fun type => .typeError s!"string indices must be integers, not '{type}'"
  | .bytes bs =>
    itemOrSlice bs index byteValue (fun bs => return .bytes bs)
      (.indexError "index out of range") (wrong "byte")
  | .tuple xs =>
    itemOrSlice xs index id (fun xs => return .tuple xs)
      (.indexError "tuple index out of range") (wrong "tuple")
  | .list loc =>
    itemOrSlice (w.cells.items loc) index id newList
      (.indexError "list index out of range") (wrong "list")
  | .range a b c =>
    let length := rangeLength a b c
    let item (i : Int) : Run Value :=
      match indexIn length i with
      | some i => return .int (a + i * c)
      | none => raise (.indexError "range object index out of range")
    match index with
    | .int i => item i
    | .bool b => item (if b then 1 else 0)
    | .slice x y z =>
      let p ← pick length x y z
      return .range (a + p.start * c) (a + p.stop * c) (c * p.step)
    | v => raise (wrong "range" (← typeName v))
  | .dict loc | .proxy loc =>
    match entryGet? (w.cells.entries loc) (← key index) with
    | some v => return v
    | none => raise (.keyError index)
  | .part .namespace =>
    -- items of the namespace are found among the host's, too
    match w.names.get? (← key index) with
    | some v => return v
    | none => raise (.keyError index)
  | .type name =>
    if ["list", "tuple", "dict", "type"].contains name then
      raise (.notProvided "a type with parameters")
    else typeFault s!"type '{name}' is not subscriptable"
  | v => raise (.notSubscriptable (← typeName v))

/-! ## Changing -/

/-- Puts items in the place of what a slice picks from a list. -/
def putSlice (loc : Loc) (p : Picked) (items : List Value) : Run Unit := do
  let xs := (← cells).items loc
  if p.step = 1 then
    let stop := (max p.start p.stop).toNat
    store loc (.list (xs.take p.start.toNat ++ items ++ xs.drop stop))
  else if p.count != items.length then
    raise (.valueError <|
      s!"attempt to assign sequence of size {items.length} " ++
      s!"to extended slice of size {p.count}")
  else
    let a := (p.positions.zip items).foldl (fun a (i, x) => a.setIfInBounds i x) xs.toArray
    store loc (.list a.toList)

/-- Deletes what a slice picks from a list. -/
def deleteSlice (loc : Loc) (p : Picked) : Run Unit := do
  let xs := (← cells).items loc
  let gone := p.positions
  store loc (.list ((xs.zipIdx.filter fun (_, i) => !gone.contains i).map (·.1)))

/-- Changes the item of a list at an index. -/
def changeItem (loc : Loc) (index : Value) (change : List Value → Nat → List Value) :
    Run Unit := do
  let xs := (← cells).items loc
  let i ← match index with
    | .int i => pure i
    | .bool b => pure (if b then 1 else 0)
    | v => typeFault s!"list indices must be integers or slices, not {← typeName v}"
  match indexIn xs.length i with
  | some i => store loc (.list (change xs i))
  | none => raise (.indexError "list assignment index out of range")

/-- Binds a key of a dictionary. -/
def putEntry (loc : Loc) (k v : Value) : Run Unit := do
  let k ← key k
  store loc (.dict (entrySet ((← cells).entries loc) k v))

/-- Deletes the item of a collection. -/
def deleteItem (v index : Value) : Run Unit := do
  match v with
  | .list loc =>
    match index with
    | .slice a b c => deleteSlice loc (← pick ((← cells).items loc).length a b c)
    | _ => changeItem loc index fun xs i => xs.eraseIdx i
  | .dict loc =>
    let entries := (← cells).entries loc
    match entryGet? entries (← key index) with
    | some _ => store loc (.dict (entryErase entries index))
    | none => raise (.keyError index)
  | .part .namespace =>
    -- deleted are only those that the sandbox binds itself
    match (← world).names.own.get? (← key index) with
    | some _ =>
      update fun w => { w with names := { w.names with own := w.names.own.erase index } }
    | none => raise (.keyError index)
  | v =>
    let type ← typeName v
    match index with
    | .int _ =>
      if hasPositions v then typeFault s!"'{type}' object doesn't support item deletion"
      else typeFault s!"'{type}' object does not support item deletion"
    | _ => typeFault s!"'{type}' object does not support item deletion"

end Run

/-- Binds the item of a collection. -/
def Rules.setItem (r : Rules) (collection index v : Value) : Run Unit := do
  match collection with
  | .list loc =>
    match index with
    | .slice a b c =>
      let isPlain := match c with
        | .none => true
        | .int n => n == 1
        | _ => false
      let fault : Raised := .typeError <|
        if isPlain then "can only assign an iterable" else "must assign iterable to extended slice"
      let items ← r.itemsOr (fun _ => fault) v
      Run.putSlice loc (← Run.pick ((← Run.cells).items loc).length a b c) items
    | _ => Run.changeItem loc index fun xs i => xs.set i v
  | .dict loc => Run.putEntry loc index v
  | .part .namespace =>
    let k ← Run.key index
    .update fun w => { w with names := { w.names with own := w.names.own.set k v } }
  | c => .typeFault s!"'{← Run.typeName c}' object does not support item assignment"

end Scratchpad
