import Scratchpad.Decimal.Nearest
import Scratchpad.Syntax.Tree
import Scratchpad.Value.Compare
import Scratchpad.Value.Complaint

/-!
# Arithmetic

Operators on numbers. Integers have no bounds; division of integers by `/` gives
the nearest floating-point number, and `//` and `%` round down. An integer that
meets a floating-point number is turned into one.
-/

namespace Scratchpad

/-- How a binary operator is written. -/
def BinaryOp.symbol : BinaryOp → String
  | .add => "+"
  | .sub => "-"
  | .mul => "*"
  | .matMul => "@"
  | .div => "/"
  | .floorDiv => "//"
  | .mod => "%"
  | .pow => "**"
  | .shiftLeft => "<<"
  | .shiftRight => ">>"
  | .bitAnd => "&"
  | .bitOr => "|"
  | .bitXor => "^"

/-! ## Bits of integers -/

/-- Bits of `m` that `n` does not have. -/
def bitsWithout (m n : Nat) : Nat := m ^^^ (m &&& n)

/-- Bitwise conjunction in two's complement. -/
def bitAnd : Int → Int → Int
  | .ofNat m, .ofNat n => (m &&& n : Nat)
  | .ofNat m, .negSucc n => bitsWithout m n
  | .negSucc m, .ofNat n => bitsWithout n m
  | .negSucc m, .negSucc n => .negSucc (m ||| n)

/-- Bitwise disjunction in two's complement. -/
def bitOr : Int → Int → Int
  | .ofNat m, .ofNat n => (m ||| n : Nat)
  | .ofNat m, .negSucc n => .negSucc (bitsWithout n m)
  | .negSucc m, .ofNat n => .negSucc (bitsWithout m n)
  | .negSucc m, .negSucc n => .negSucc (m &&& n)

/-- Bitwise exclusive disjunction in two's complement. -/
def bitXor : Int → Int → Int
  | .ofNat m, .ofNat n => (m ^^^ n : Nat)
  | .ofNat m, .negSucc n => .negSucc (m ^^^ n)
  | .negSucc m, .ofNat n => .negSucc (m ^^^ n)
  | .negSucc m, .negSucc n => (m ^^^ n : Nat)

/-! ## Conversions -/

/-- An integer as a floating-point number, if it is not too large. -/
def finiteFloat (n : Int) : Except Raised Float :=
  let x := floatOfInt n
  if x.isInf then .error (.of "OverflowError" "int too large to convert to float") else .ok x

/-- A number as a floating-point number. -/
def Number.toFloat : Number → Except Raised Float
  | .int n => finiteFloat n
  | .float x => .ok x

/-- The whole part of a floating-point number. -/
def wholePart (x : Float) : Except Raised Int :=
  if x.isNaN then .error (.valueError "cannot convert float NaN to integer")
  else if x.isInf then .error (.of "OverflowError" "cannot convert float infinity to integer")
  else .ok (truncateFloat x)

/-! ## Operators -/

/-- A power of floating-point numbers. -/
def powFloat (x y : Float) : Except Raised Value :=
  if x == 0 && y < 0 then .error (.zeroDivision "0.0 cannot be raised to a negative power")
  else if x < 0 && !x.isInf && !y.isInf && !y.isNaN && !(y.floor == y) then
    .error (.notProvided "a complex number")
  else
    let z := x ^ y
    if z.isInf && !x.isInf && !y.isInf then
      .error ⟨"OverflowError", [.int 34, .ofString "Numerical result out of range"]⟩
    else .ok (.float z)

/-- A quotient of integers as a floating-point number. -/
def divideInts (a b : Int) : Except Raised Value :=
  if b = 0 then .error (.zeroDivision "division by zero")
  else
    let x := floatOfRatio a.natAbs b.natAbs
    if x.isInf then
      .error (.of "OverflowError" "integer division result too large for a float")
    else .ok (.float (if (a < 0) != (b < 0) then -x else x))

/-- An operator on two integers. -/
def intOperation (op : BinaryOp) (a b : Int) : Option (Except Raised Value) :=
  match op with
  | .add => some (.ok (.int (a + b)))
  | .sub => some (.ok (.int (a - b)))
  | .mul => some (.ok (.int (a * b)))
  | .div => some (divideInts a b)
  | .floorDiv => some <|
    if b = 0 then .error (.zeroDivision "integer division or modulo by zero")
    else .ok (.int (a.fdiv b))
  | .mod => some <|
    if b = 0 then .error (.zeroDivision "integer modulo by zero") else .ok (.int (a.fmod b))
  | .pow => some <|
    -- a power below one is no integer
    if b ≥ 0 then .ok (.int (integerPower a b.toNat))
    else do powFloat (← finiteFloat a) (← finiteFloat b)
  | .shiftLeft => some <|
    if b < 0 then .error (.valueError "negative shift count")
    else .ok (.int (a * (twoTo b.toNat : Nat)))
  | .shiftRight => some <|
    if b < 0 then .error (.valueError "negative shift count")
    else .ok (.int (a >>> b.toNat))
  | .bitAnd => some (.ok (.int (bitAnd a b)))
  | .bitOr => some (.ok (.int (bitOr a b)))
  | .bitXor => some (.ok (.int (bitXor a b)))
  | .matMul => none

/-- An operator on two floating-point numbers. -/
def floatOperation (op : BinaryOp) (x y : Float) : Option (Except Raised Value) :=
  let unlessZero (message : String) (z : Float) : Option (Except Raised Value) :=
    some (if y == 0 then .error (.zeroDivision message) else .ok (.float z))
  match op with
  | .add => some (.ok (.float (x + y)))
  | .sub => some (.ok (.float (x - y)))
  | .mul => some (.ok (.float (x * y)))
  | .div => unlessZero "float division by zero" (x / y)
  | .floorDiv => unlessZero "float floor division by zero" (floorQuotient x y)
  | .mod => unlessZero "float modulo" (floorRemainder x y)
  | .pow => some (powFloat x y)
  | _ => none

/-- An operator on two numbers, if numbers have it. -/
def Number.operation (op : BinaryOp) : Number → Number → Option (Except Raised Value)
  | .int a, .int b => intOperation op a b
  | a, b =>
    match floatOperation op 1 1 with
    | none => none
    | some _ => some do
      let x ← a.toFloat
      let y ← b.toFloat
      (floatOperation op x y).getD (.ok .notImplemented)

/-- An operator on two values that are numbers. Bitwise operators keep truth
values. -/
def numberOperation (op : BinaryOp) (a b : Value) : Option (Except Raised Value) :=
  match op, a, b with
  | .bitAnd, .bool x, .bool y => some (.ok (.bool (x && y)))
  | .bitOr, .bool x, .bool y => some (.ok (.bool (x || y)))
  | .bitXor, .bool x, .bool y => some (.ok (.bool (x != y)))
  | _, _, _ => do (← a.number?).operation op (← b.number?)

/-- The quotient rounded down and the remainder that goes with it. -/
def divMod (a b : Number) : Except Raised Value := do
  match a, b with
  | .int m, .int n =>
    if n = 0 then throw (.zeroDivision "integer division or modulo by zero")
    return .tuple [.int (m.fdiv n), .int (m.fmod n)]
  | a, b =>
    let x ← a.toFloat
    let y ← b.toFloat
    if y == 0 then throw (.zeroDivision "float divmod()")
    return .tuple [.float (floorQuotient x y), .float (floorRemainder x y)]

/-- An integer rounded to a multiple of `10 ^ places`, a half to the even one. -/
def roundInt (places : Nat) (n : Int) : Int :=
  let m : Int := (roundHalfEven n.natAbs (tenTo places) * tenTo places : Nat)
  if n < 0 then -m else m

/-- An operator in front of a number. -/
def Number.unary (op : UnaryOp) (x : Number) : Option Value :=
  match op, x with
  | .negative, .int n => some (.int (-n))
  | .negative, .float x => some (.float (-x))
  | .positive, .int n => some (.int n)
  | .positive, .float x => some (.float x)
  | .invert, .int n => some (.int (-n - 1))
  | _, _ => none

end Scratchpad
