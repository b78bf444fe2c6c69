import Scratchpad.Decimal.FloatText

/-!
# Fixed counts of digits

A number with a given count of significant digits, in exponent form or in the
shorter one of both forms.
-/

namespace Scratchpad

/-- The number with one digit before the decimal point and `places` digits behind
it: the digits as one number, and the exponent. Zero has exponent zero. -/
def scientific (places : Nat) (x : Float) : Nat × Int :=
  let (num, den) := (BinaryFraction.ofFloat x).ratio
  if num = 0 then (0, 0)
  else
    let e := decimalMagnitude num den - (places + 1 : Nat)
    let n := roundHalfEven (num * tenTo (-e).toNat) (den * tenTo e.toNat)
    -- rounding up may give one digit more
    if n = tenTo (places + 1) then (n / 10, e + 1 + places) else (n, e + places)

/-- A text without trailing zeros behind its decimal point, and without the point
if nothing is left behind it. -/
def trimFraction (t : Text) : Text :=
  if t.contains '.' then
    let trimmed := t.reverse.dropWhile (· == '0')
    (if trimmed.head? = some '.' then trimmed.drop 1 else trimmed).reverse
  else t

/-- Digits with the decimal point behind the first one. -/
def pointedText (places : Nat) (digits : Nat) : Text :=
  let t := Nat.toDigits 10 digits
  let t := List.replicate (places + 1 - t.length) '0' ++ t
  t.take 1 ++ if places = 0 then [] else '.' :: t.drop 1

/-- A finite number without its sign in exponent form. -/
def scientificText (places : Nat) (x : Float) : Text :=
  let (digits, exponent) := scientific places x
  pointedText places digits ++ exponentText exponent

/-- A finite number without its sign with `count` significant digits: positional if
its exponent is from -4 to below `limit`. Trailing zeros are kept if asked. -/
def significantText (count : Nat) (limit : Int) (keepZeros : Bool) (x : Float) : Text :=
  let places := count - 1
  let (digits, exponent) := scientific places x
  let trim (t : Text) : Text := if keepZeros then t else trimFraction t
  if -4 ≤ exponent && exponent < limit then
    trim (fixedText ((places : Int) - exponent).toNat x.abs)
  else trim (pointedText places digits) ++ exponentText exponent

end Scratchpad
