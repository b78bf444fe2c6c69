import Scratchpad.Decimal.Integer
import Scratchpad.Decimal.Shortest

/-!
# Floating-point numbers as texts

A number is shown with the fewest digits that read back: positional from `1e-4`
up to below `1e16`, with `.0` if it is whole, and otherwise in exponent form with
a sign and at least two digits of exponent.
-/

namespace Scratchpad

/-- The sign bit. -/
def isNegativeFloat (x : Float) : Bool := x.toBits ≥ 0x8000000000000000

/-- Text of an exponent: sign and at least two digits. -/
def exponentText (e : Int) : Text :=
  let digits := Nat.toDigits 10 e.natAbs
  'e' :: (if e < 0 then '-' else '+') :: List.replicate (2 - digits.length) '0' ++ digits

/-- The shortest text that reads back as the number. -/
def floatText (x : Float) : Text :=
  let sign : Text := if isNegativeFloat x then ['-'] else []
  if x.isNaN then "nan".toList
  else if x.isInf then sign ++ "inf".toList
  else if x == 0 then sign ++ "0.0".toList
  else
    let d := (BinaryFraction.ofFloat x).shortest
    let digits := Nat.toDigits 10 d.digits
    -- the decimal point stands behind the first `point` digits
    let point : Int := digits.length + d.exponent
    let body :=
      if -4 < point && point ≤ 16 then
        if point ≤ 0 then "0.".toList ++ List.replicate (-point).toNat '0' ++ digits
        else if digits.length ≤ point.toNat then
          digits ++ List.replicate (point.toNat - digits.length) '0' ++ ".0".toList
        else digits.take point.toNat ++ '.' :: digits.drop point.toNat
      else
        let fraction := digits.drop 1
        digits.take 1 ++ (if fraction.isEmpty then [] else '.' :: fraction) ++
          exponentText (point - 1)
    sign ++ body

/-- Text with a fixed number of decimal places, correctly rounded. -/
def fixedText (places : Nat) (x : Float) : Text :=
  let sign : Text := if isNegativeFloat x then ['-'] else []
  if x.isNaN then "nan".toList
  else if x.isInf then sign ++ "inf".toList
  else
    let (num, den) := (BinaryFraction.ofFloat x).ratio
    let n := roundHalfEven (num * tenTo places) den
    let digits := Nat.toDigits 10 n
    let digits := List.replicate (places + 1 - digits.length) '0' ++ digits
    let whole := digits.take (digits.length - places)
    sign ++ whole ++ if places = 0 then [] else '.' :: digits.drop (digits.length - places)

/-! ## Reading -/

/-- The number nearest to `digits · 10 ^ exponent`. -/
def floatOfDecimal (digits : Nat) (exponent : Int) : Float :=
  if digits = 0 then 0
  else
    let magnitude := (digitCount digits : Int) + exponent
    if magnitude > 310 then 1 / 0
    else if magnitude < -330 then 0
    else Float.ofScientific digits (exponent < 0) exponent.natAbs

/-- The number nearest to an integer. -/
def floatOfInt (n : Int) : Float :=
  let x := floatOfDecimal n.natAbs 0
  if n < 0 then -x else x

/-- The whole number a finite floating-point number is cut off to. -/
def truncateFloat (x : Float) : Int :=
  let (num, den) := (BinaryFraction.ofFloat x).ratio
  if isNegativeFloat x then -((num / den : Nat) : Int) else (num / den : Nat)

/-- The whole number nearest to a finite number, a half to the even neighbour. -/
def roundFloat (x : Float) : Int :=
  let (num, den) := (BinaryFraction.ofFloat x).ratio
  let n := roundHalfEven num den
  if isNegativeFloat x then -(n : Int) else n

/-- A finite number rounded to `places` decimal places, which may be negative. -/
def roundFloatPlaces (places : Int) (x : Float) : Float :=
  if places > 330 then x
  else if places < -330 then if isNegativeFloat x then -0.0 else 0.0
  else
    let (num, den) := (BinaryFraction.ofFloat x).ratio
    let n := roundHalfEven (num * tenTo places.toNat) (den * tenTo (-places).toNat)
    let y := floatOfDecimal n (-places)
    if isNegativeFloat x then -y else y

/-- Takes digits with single underscores between them off a text. -/
def takeDigits : Text → List Nat × Text
  | [] => ([], [])
  | c :: '_' :: d :: rest =>
    match decimalValue? c with
    | none => ([], c :: '_' :: d :: rest)
    | some v =>
      if isDecimal d then
        let (vs, tail) := takeDigits (d :: rest)
        (v :: vs, tail)
      else ([v], '_' :: d :: rest)
  | c :: rest =>
    match decimalValue? c with
    | none => ([], c :: rest)
    | some v =>
      let (vs, tail) := takeDigits rest
      (v :: vs, tail)

/-- Reads the exponent part of a decimal, if there is one. -/
def takeExponent (t : Text) : Option (Int × Text) :=
  match t with
  | e :: rest =>
    if e = 'e' || e = 'E' then
      let (negative, rest) : Bool × Text := match rest with
        | '-' :: more => (true, more)
        | '+' :: more => (false, more)
        | _ => (false, rest)
      let (digits, tail) := takeDigits rest
      if digits.isEmpty then none
      else
        -- more than six digits of exponent change nothing
        let n : Int := (ofDigits 10 digits).min 1000000
        some (if negative then -n else n, tail)
    else some (0, t)
  | [] => some (0, [])

/-- Reads an unsigned decimal that fills the whole text. -/
def readDecimal? (t : Text) : Option Float := do
  let (whole, rest) := takeDigits t
  let (fraction, rest) := match rest with
    | '.' :: more => takeDigits more
    | _ => ([], rest)
  if whole.isEmpty && fraction.isEmpty then none
  else
    let (e, rest) ← takeExponent rest
    if rest.isEmpty then
      some (floatOfDecimal (ofDigits 10 (whole ++ fraction)) (e - fraction.length))
    else none

/-- Reads a floating-point number from a text without blanks around it. -/
def readFloat? (t : Text) : Option Float :=
  let (negative, body) : Bool × Text := match t with
    | '-' :: rest => (true, rest)
    | '+' :: rest => (false, rest)
    | _ => (false, t)
  let lower := String.ofList (body.map Char.toLower)
  let x? :=
    if lower == "inf" || lower == "infinity" then some (1 / 0)
    else if lower == "nan" then some (0 / 0)
    else readDecimal? body
  x?.map fun x => if negative then -x else x

end Scratchpad
