import Scratchpad.Decimal.FloatText

/-!
# The number nearest to a fraction

A fraction is rounded to the nearest floating-point number, a tie to the one with
an even mantissa. Remainders of floating-point numbers are exact.
-/

namespace Scratchpad

/-- The floating-point number `mantissa · 2 ^ exponent`, for a mantissa up to
`2 ^ 53` and an exponent from -1074. A number past the format is infinite. -/
def floatOfBinary (mantissa : Nat) (exponent : Int) : Float :=
  if mantissa < twoTo 52 then Float.ofBits mantissa.toUInt64
  else
    -- a mantissa of `2 ^ 53` carries into the exponent by itself
    let bits := (exponent + 1075).toNat * twoTo 52 + (mantissa - twoTo 52)
    if bits ≥ 2047 * twoTo 52 then 1 / 0 else Float.ofBits bits.toUInt64

/-- The floating-point number nearest to `num / den`. -/
def floatOfRatio (num den : Nat) : Float :=
  if num = 0 then 0
  else
    let k : Int := (num.log2 : Int) - den.log2
    -- `num / den` is at least `2 ^ (k - 1)` and below `2 ^ (k + 1)`
    let reaches := den * twoTo k.toNat ≤ num * twoTo (-k).toNat
    let e := max ((if reaches then k else k - 1) - 52) (-1074)
    floatOfBinary (roundHalfEven (num * twoTo (-e).toNat) (den * twoTo e.toNat)) e

/-- A number with the sign of another. -/
def withSignOf (x y : Float) : Float := if isNegativeFloat x == isNegativeFloat y then x else -x

/-- The remainder of a division cut off to a whole number. It has the sign of the
dividend. -/
def remainder (x y : Float) : Float :=
  if x.isNaN || y.isNaN || x.isInf || y == 0 then 0 / 0
  else if y.isInf then x
  else
    let (a, b) := (BinaryFraction.ofFloat x).ratio
    let (c, d) := (BinaryFraction.ofFloat y).ratio
    withSignOf (floatOfRatio (a * d % (c * b)) (b * d)) x

/-- The remainder that has the sign of the divisor. -/
def floorRemainder (x y : Float) : Float :=
  let r := remainder x y
  if r == 0 then withSignOf 0 y
  else if decide (y < 0) != decide (r < 0) then r + y
  else r

/-- The quotient cut down to a whole number. -/
def floorQuotient (x y : Float) : Float :=
  let r := remainder x y
  let q := (x - r) / y
  let q := if !(r == 0) && decide (y < 0) != decide (r < 0) then q - 1 else q
  if q == 0 then withSignOf 0 (x / y)
  else
    let f := q.floor
    if q - f > 0.5 then f + 1 else f

end Scratchpad
