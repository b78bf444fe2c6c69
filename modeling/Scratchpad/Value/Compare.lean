import Scratchpad.Decimal.FloatText
import Scratchpad.Value.Kinds

/-!
# Equality and order of values

Numbers compare by their exact value, whatever their type; sequences compare item
by item, dictionaries entry by entry. Keys of dictionaries are equal when they
compare equal, and a value that can change is no key.
-/

namespace Scratchpad

/-! ## Numbers -/

/-- A number as an exact fraction with a positive denominator. -/
def floatRatio (x : Float) : Int × Nat :=
  let (num, den) := (BinaryFraction.ofFloat x).ratio
  (if isNegativeFloat x then -(num : Int) else num, den)

/-- Order of an integer and a floating-point number; none with a NaN. -/
def compareIntFloat (n : Int) (x : Float) : Option Ordering :=
  if x.isNaN then none
  else if x.isInf then some (if isNegativeFloat x then .gt else .lt)
  else
    let (num, den) := floatRatio x
    some (compare (n * den) num)

/-- Order of two floating-point numbers; none with a NaN. -/
def compareFloats (x y : Float) : Option Ordering :=
  if x < y then some .lt else if x == y then some .eq else if y < x then some .gt else none

/-- A number in one of its two forms. -/
inductive Number where
  | int (n : Int)
  | float (x : Float)

/-- A value as a number; truth values are the numbers 0 and 1. -/
def Value.number? : Value → Option Number
  | .bool b => some (.int (if b then 1 else 0))
  | .int n => some (.int n)
  | .float x => some (.float x)
  | _ => Option.none

/-- Order of two numbers; none with a NaN. -/
def Number.compare : Number → Number → Option Ordering
  | .int m, .int n => some (Ord.compare m n)
  | .int m, .float y => compareIntFloat m y
  | .float x, .int n => (compareIntFloat n x).map Ordering.swap
  | .float x, .float y => compareFloats x y

/-! ## Ranges -/

/-- Number of items of a range. -/
def rangeLength (start stop step : Int) : Nat :=
  if step > 0 then
    if start < stop then ((stop - start - 1) / step + 1).toNat else 0
  else if step < 0 then
    if stop < start then ((start - stop - 1) / (-step) + 1).toNat else 0
  else 0

/-- Items of a range. -/
def rangeItems (start stop step : Int) : List Value :=
  (List.range (rangeLength start stop step)).map fun (i : Nat) => .int (start + (i : Int) * step)

/-! ## Equality -/

/-- Equality of lists item by item. -/
def listsEqual (eq : Value → Value → Bool) : List Value → List Value → Bool
  | [], [] => true
  | a :: as, b :: bs => eq a b && listsEqual eq as bs
  | _, _ => false

/-- The bytes of a text's code points, for telling floats apart. -/
def sameFloat (x y : Float) : Bool := x.toBits == y.toBits

/-- Equality of values. The fuel bounds the depth of nested collections. -/
def valuesEqual (cells : Cells) : Nat → Value → Value → Bool
  | 0, _, _ => false
  | n + 1, a, b =>
    let eq := valuesEqual cells n
    let dictsEqual (i j : Loc) : Bool :=
      let xs := cells.entries i
      let ys := cells.entries j
      xs.length == ys.length && xs.all fun (k, v) =>
        -- the order of the entries does not matter
        match ys.find? fun e => eq e.1 k with
        | some (_, w) => eq v w
        | Option.none => false
    match a.number?, b.number? with
    | some x, some y => x.compare y == some .eq
    | _, _ =>
      match a, b with
      | .none, .none => true
      | .ellipsis, .ellipsis => true
      | .notImplemented, .notImplemented => true
      | .str s, .str t => s == t
      | .bytes s, .bytes t => s == t
      | .tuple xs, .tuple ys => listsEqual eq xs ys
      | .range a b c, .range d e f =>
        let m := rangeLength a b c
        m == rangeLength d e f && (m == 0 || (a == d && (m == 1 || c == f)))
      | .slice a b c, .slice d e f => listsEqual eq [a, b, c] [d, e, f]
      | .list i, .list j => i == j || listsEqual eq (cells.items i) (cells.items j)
      | .dict i, .dict j => i == j || dictsEqual i j
      | .proxy i, .proxy j => i == j || dictsEqual i j
      | .proxy i, .dict j => dictsEqual i j
      | .dict i, .proxy j => dictsEqual i j
      -- values have no order and may repeat, so that views of them are never equal
      | .view k i, .view l j =>
        k == l && k != .values && (i == j ||
          ((cells.entries i).length == (cells.entries j).length &&
            (cells.entries i).all fun e => (cells.entries j).any fun f => eq e.1 f.1))
      | .iterator _ i, .iterator _ j => i == j
      | .type m, .type n => m == n
      | .builtin m, .builtin n => m == n
      | .method x m, .method y n => m == n && eq x y
      | .bound x f, .bound y g => eq x y && eq f g
      | .function i, .function j => i == j
      | .exception k xs, .exception l ys => k == l && listsEqual eq xs ys
      | .object i, .object j =>
        i == j || match cells[i]?, cells[j]? with
          | some (.space xs), some (.space ys) =>
            xs.length == ys.length && xs.all fun (k, v) =>
              match ys.lookup k with
              | some w => eq v w
              | Option.none => false
          | _, _ => false
      | .part p, .part q => p == q
      | .builtinsModule, .builtinsModule => true
      | _, _ => false

/-- Depth to which collections are compared. -/
def compareDepth : Nat := 500

/-- Equality of values. -/
def Cells.equal (cells : Cells) (a b : Value) : Bool := valuesEqual cells compareDepth a b

/-- Equality of keys, which do not depend on the store. -/
def sameKey (a b : Value) : Bool := valuesEqual #[] compareDepth a b

/-- Identity, where values without a cell are identical when they look the same. -/
def sameObject : Nat → Value → Value → Bool
  | 0, _, _ => false
  | n + 1, a, b =>
    match a, b with
    | .bool x, .bool y => x == y
    | .int m, .int n => m == n
    | .float x, .float y => sameFloat x y
    | .bool _, _ | _, .bool _ | .int _, _ | _, .int _ | .float _, _ | _, .float _ => false
    | .tuple xs, .tuple ys => listsEqual (sameObject n) xs ys
    | .list i, .list j => i == j
    | .dict i, .dict j => i == j
    | .proxy i, .proxy j => i == j
    | .object i, .object j => i == j
    | .exception k xs, .exception l ys => k == l && listsEqual (sameObject n) xs ys
    | a, b => valuesEqual #[] 2 a b

/-- Name of the type that keeps a value from being a key. -/
def unhashable? (cells : Cells) : Nat → Value → Option String
  | 0, _ => Option.none
  | n + 1, v => match v with
    | .list _ | .dict _ | .proxy _ | .slice .. => some (typeNameOf cells v)
    | .view k _ => if k == .values then Option.none else some (typeNameOf cells v)
    | .tuple xs => xs.findSome? (unhashable? cells n)
    | .object loc => match cells[loc]? with
      | some (.space _) => some "types.SimpleNamespace"
      | _ => Option.none
    | .part .history => some "HistoryLog"
    | .part .namespace => some "SandboxNamespace"
    | _ => Option.none

/-! ## Dictionaries -/

/-- The value of a key. -/
def entryGet? (entries : List (Value × Value)) (key : Value) : Option Value :=
  (entries.find? fun e => sameKey e.1 key).map (·.2)

/-- Binds a key; a key that is there keeps its place and its form. -/
def entrySet : List (Value × Value) → Value → Value → List (Value × Value)
  | [], key, value => [(key, value)]
  | (k, v) :: rest, key, value =>
    if sameKey k key then (k, value) :: rest else (k, v) :: entrySet rest key value

/-- Removes a key. -/
def entryErase (entries : List (Value × Value)) (key : Value) : List (Value × Value) :=
  entries.filter fun e => !sameKey e.1 key

/-! ## Order -/

/-- The four comparisons by order. -/
inductive OrderOp where
  | lt
  | le
  | gt
  | ge
deriving DecidableEq, Repr

/-- How a comparison is written. -/
def OrderOp.symbol : OrderOp → String
  | .lt => "<"
  | .le => "<="
  | .gt => ">"
  | .ge => ">="

/-- Whether a comparison holds in some order. -/
def OrderOp.holds : OrderOp → Ordering → Bool
  | .lt, o => o == .lt
  | .le, o => o != .gt
  | .gt, o => o == .gt
  | .ge, o => o != .lt

/-- Two values that have no order: the pair that does not compare. -/
abbrev Unordered := Value × Value

/-- Order of the first items that differ, or of the lengths. -/
def compareLists (eq : Value → Value → Bool) (cmp : Value → Value → Except Unordered Bool)
    (op : OrderOp) : List Value → List Value → Except Unordered Bool
  | [], [] => .ok (op.holds .eq)
  | [], _ => .ok (op.holds .lt)
  | _, [] => .ok (op.holds .gt)
  | a :: as, b :: bs => if eq a b then compareLists eq cmp op as bs else cmp a b

/-- Order of two lists of numbers. -/
def compareNats : List Nat → List Nat → Ordering
  | [], [] => .eq
  | [], _ => .lt
  | _, [] => .gt
  | a :: as, b :: bs => (compare a b).then (compareNats as bs)

/-- A comparison by order. -/
def orderedBy (cells : Cells) (op : OrderOp) : Nat → Value → Value → Except Unordered Bool
  | 0, a, b => .error (a, b)
  | n + 1, a, b =>
    match a.number?, b.number? with
    | some x, some y => match x.compare y with
      | some o => .ok (op.holds o)
      | Option.none => .ok false
    | _, _ => match a, b with
      | .str s, .str t => .ok (op.holds (compareNats (s.map Char.toNat) (t.map Char.toNat)))
      | .bytes s, .bytes t =>
        .ok (op.holds (compareNats (s.map UInt8.toNat) (t.map UInt8.toNat)))
      | .tuple xs, .tuple ys =>
        compareLists (valuesEqual cells n) (orderedBy cells op n) op xs ys
      | .list i, .list j =>
        compareLists (valuesEqual cells n) (orderedBy cells op n) op
          (cells.items i) (cells.items j)
      | a, b => .error (a, b)

/-- A comparison by order. -/
def Cells.ordered (cells : Cells) (op : OrderOp) (a b : Value) : Except Unordered Bool :=
  orderedBy cells op compareDepth a b

end Scratchpad
