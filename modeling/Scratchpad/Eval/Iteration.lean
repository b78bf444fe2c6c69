import Scratchpad.Eval.Basic

/-!
# Iteration

What can be iterated over, and the items it yields. A list that grows while it is
iterated over yields the new items too; a dictionary that changes its size stops
the iteration.
-/

namespace Scratchpad

/-- The entries of a dictionary as a view shows them. -/
def ViewKind.show (kind : ViewKind) (entry : Value × Value) : Value :=
  match kind with
  | .keys => entry.1
  | .values => entry.2
  | .items => .tuple [entry.1, entry.2]

/-- What iterators over a view are called. -/
def ViewKind.iteratorName : ViewKind → String
  | .keys => "dict_keyiterator"
  | .values => "dict_valueiterator"
  | .items => "dict_itemiterator"

/-- A byte as a number. -/
def byteValue (b : UInt8) : Value := .int b.toNat

/-- The items of a value that cannot change while they are iterated over. -/
def fixedItems? (w : World) (v : Value) : Option (String × List Value) :=
  match v with
  | .str t => some ("str_iterator", t.map fun c => .str [c])
  | .bytes bs => some ("bytes_iterator", bs.map byteValue)
  | .tuple xs => some ("tuple_iterator", xs)
  | .part .namespace => some ("dict_keyiterator", w.names.own.keys)
  | _ => none

namespace Run

/-- A new iterator. -/
def newIterator (kind : String) (s : Source) : Run Value :=
  return .iterator kind (← alloc (.iterator s))

/-- An iterator over a value, or a complaint. -/
def iterateOr (fault : String → Raised) (v : Value) : Run Value := do
  let w ← world
  let overView (kind : ViewKind) (loc : Loc) : Run Value :=
    newIterator kind.iteratorName (.entriesFrom kind loc 0 (w.cells.entries loc).length)
  match v with
  | .iterator .. => return v
  | .list loc => newIterator "list_iterator" (.listFrom loc 0)
  | .dict loc | .proxy loc => overView .keys loc
  | .view kind loc => overView kind loc
  | .range a b c => newIterator "range_iterator" (.counting a c (rangeLength a b c))
  | v => match fixedItems? w v with
    | some (kind, items) => newIterator kind (.items items)
    | none => raise (fault (complaintTypeName w.cells v))

/-- An iterator over a value. -/
def iterate (v : Value) : Run Value := iterateOr .notIterable v

end Run

namespace Rules

/-- The next items of several iterators, unless one of them has none. -/
def nextOfAll (r : Rules) : List Value → Run (Option (List Value))
  | [] => return some []
  | s :: rest => do
    match ← r.next s with
    | none => return none
    | some x => match ← nextOfAll r rest with
      | none => return none
      | some xs => return some (x :: xs)

/-- The next item that a function accepts. -/
def nextAccepted (r : Rules) (function source : Value) : Nat → Run (Option Value)
  | 0 => .spend
  | n + 1 => do
    match ← r.next source with
    | none => return none
    | some x =>
      let verdict ← match function with
        | .none => pure x
        | f => r.call f [x] []
      if truth (← .world) verdict then return some x else nextAccepted r function source n

/-- The next item of an iterator that is no generator. -/
def nextItem (r : Rules) (v : Value) : Run (Option Value) := do
  match v with
  | .iterator _ loc =>
    let cells ← Run.cells
    let keep (s : Source) : Run Unit := .store loc (.iterator s)
    match cells[loc]? with
    | some (.iterator s) =>
      match s with
      | .items [] => return none
      | .items (x :: rest) =>
        keep (.items rest)
        return some x
      | .listFrom list i =>
        match (cells.items list)[i]? with
        | none =>
          keep (.items [])
          return none
        | some x =>
          keep (.listFrom list (i + 1))
          return some x
      | .entriesFrom kind dict i size =>
        let entries := cells.entries dict
        -- entries that were added or deleted meanwhile would be missed or met twice
        if entries.length != size then
          .raise (.of "RuntimeError" "dictionary changed size during iteration")
        else match entries[i]? with
          | none =>
            keep (.items [])
            return none
          | some e =>
            keep (.entriesFrom kind dict (i + 1) size)
            return some (kind.show e)
      | .counting _ _ 0 => return none
      | .counting n step (left + 1) =>
        keep (.counting (n + step) step left)
        return some (.int n)
      | .zip [] => return none
      | .zip sources => return (← r.nextOfAll sources).map .tuple
      | .enumerate source n =>
        match ← r.next source with
        | none => return none
        | some x =>
          keep (.enumerate source (n + 1))
          return some (.tuple [.int n, x])
      | .map f sources =>
        match ← r.nextOfAll sources with
        | none => return none
        | some xs => return some (← r.call f xs [])
      | .filter f source => r.nextAccepted f source maxRounds
      | .generator _ => return none
      -- no place in the code to go on from
      | .running => .raise (.valueError "generator already executing")
    | _ => return none
  | v => .typeFault s!"'{← Run.typeName v}' object is not an iterator"

/-- What is left of an iterator, last item first, in front of what was taken. -/
def drainOnto (r : Rules) (iterator : Value) : Nat → List Value → Run (List Value)
  | 0, _ => .spend
  | n + 1, taken => do
    match ← r.next iterator with
    | none => return taken
    | some x => drainOnto r iterator n (x :: taken)

/-- All items that are left in an iterator. -/
def drain (r : Rules) (iterator : Value) : Run (List Value) :=
  return (← r.drainOnto iterator maxRounds []).reverse

/-- All items of a value, or a complaint. -/
def itemsOr (r : Rules) (fault : String → Raised) (v : Value) : Run (List Value) := do
  let w ← Run.world
  match v with
  | .list loc => return w.cells.items loc
  | .range a b c => return rangeItems a b c
  | .dict loc | .proxy loc => return (w.cells.entries loc).map (·.1)
  | .view kind loc => return (w.cells.entries loc).map kind.show
  | v => match fixedItems? w v with
    | some (_, items) => return items
    | none => r.drain (← Run.iterateOr fault v)

/-- All items of a value. -/
def items (r : Rules) (v : Value) : Run (List Value) := r.itemsOr .notIterable v

end Rules

end Scratchpad
