import Scratchpad.Value.Compare

/-!
# Sorting

A stable sort that asks only whether a later item is less than an earlier one. If
two items have no order it stops and leaves the items as they stand by then.
-/

namespace Scratchpad

/-- Items after sorting, and the pair without an order that stopped it. -/
structure Sorted (α : Type) where
  items : List α
  fault : Option Unordered := none

namespace Sorted

variable {α : Type}

/-- The place of an item among sorted ones, behind those that are not greater, found
by halving the part from `low` to `high`. -/
def place (lt : α → α → Except Unordered Bool) (sorted : Array α) (x : α) :
    Nat → Nat → Nat → Except Unordered Nat
  | 0, low, _ => .ok low
  | n + 1, low, high =>
    if low ≥ high then .ok low
    else
      let middle := (low + high) / 2
      match sorted[middle]? with
      | none => .ok low
      | some y => do
        if ← lt x y then place lt sorted x n low middle
        else place lt sorted x n (middle + 1) high

/-- Inserts items one by one among sorted ones. -/
def insertAll (lt : α → α → Except Unordered Bool) (sorted : Array α) : List α → Sorted α
  | [] => ⟨sorted.toList, none⟩
  | x :: rest =>
    match place lt sorted x sorted.size 0 sorted.size with
    | .ok i => insertAll lt ((sorted.toList.insertIdx i x).toArray) rest
    | .error pair => ⟨sorted.toList ++ x :: rest, some pair⟩

/-- The items that go on a run: each is less than the one before exactly if
`falling`. -/
def run (lt : α → α → Except Unordered Bool) (falling : Bool) (last : α) :
    List α → Except Unordered (List α × List α)
  | [] => .ok ([], [])
  | x :: rest => do
    if (← lt x last) == falling then
      let (more, rest) ← run lt falling x rest
      return (x :: more, rest)
    else return ([], x :: rest)

/-- Sorts by insertion behind the run at the start. -/
def byInsertion (lt : α → α → Except Unordered Bool) (xs : List α) : Sorted α :=
  match xs with
  | a :: b :: rest =>
    let start : Except Unordered (Array α × List α) := do
      let falling ← lt b a
      let (more, rest) ← run lt falling b rest
      let first := a :: b :: more
      return ((if falling then first.reverse else first).toArray, rest)
    match start with
    | .ok (sorted, rest) => insertAll lt sorted rest
    | .error pair => ⟨xs, some pair⟩
  | xs => ⟨xs, none⟩

end Sorted

/-- Whether all values are numbers with an order. -/
def areNumbers (vs : List Value) : Bool :=
  vs.all fun v => match v.number? with
    | some (.int _) => true
    | some (.float x) => !x.isNaN
    | none => false

/-- Whether all values are texts. -/
def areTexts (vs : List Value) : Bool :=
  vs.all fun
    | .str _ => true
    | _ => false

/-- Sorts items by their keys, upwards or downwards. Items with equal keys keep
their order. -/
def sortByKey (cells : Cells) (downward : Bool) (xs : List (Value × Value)) :
    Sorted (Value × Value) :=
  let turn (xs : List (Value × Value)) : List (Value × Value) := if downward then xs.reverse else xs
  let keys := xs.map (·.1)
  let lt (a b : Value × Value) : Except Unordered Bool := cells.ordered .lt a.1 b.1
  let sorted : Sorted (Value × Value) :=
    if areNumbers keys || areTexts keys then
      ⟨(turn xs).mergeSort fun a b => !(lt b a).toOption.getD false, none⟩
    else Sorted.byInsertion lt (turn xs)
  { sorted with items := turn sorted.items }

end Scratchpad
