import Scratchpad.Decimal.Power

/-!
# Shortest decimal of a binary fraction

A finite floating-point number is a fraction `mantissa · 2 ^ exponent`, and a
decimal reads back as that number when it lies in the interval of reals that
round to it. `shortest` looks for the coarsest decimal grid with a point in the
interval, and takes the point that is nearest to the number.
-/

namespace Scratchpad

/-- A positive binary fraction `mantissa · 2 ^ exponent`. `narrowBelow` says
that the next smaller number of the format is only half a unit away. -/
structure BinaryFraction where
  mantissa : Nat
  exponent : Int
  narrowBelow : Bool
deriving Repr

/-- A decimal `digits · 10 ^ exponent`. -/
structure DecimalFraction where
  digits : Nat
  exponent : Int
deriving DecidableEq, Repr

/-- The positive binary fraction that a finite nonzero number stands for, without
its sign. -/
def BinaryFraction.ofFloat (x : Float) : BinaryFraction :=
  let bits := x.toBits.toNat
  let biased : Nat := bits / twoTo 52 % 2048
  let low : Nat := bits % twoTo 52
  if biased = 0 then ⟨low, -1074, false⟩
  else ⟨twoTo 52 + low, (biased : Int) - 1075, low = 0 && biased > 1⟩

/-- The fraction as numerator and denominator. -/
def BinaryFraction.ratio (b : BinaryFraction) : Nat × Nat :=
  (b.mantissa * twoTo b.exponent.toNat, twoTo (-b.exponent).toNat)

/-- Number of decimal digits of a natural number; zero has one. -/
def digitCount (n : Nat) : Nat := (Nat.toDigits 10 n).length

/-- The `k` with `10 ^ (k - 1) ≤ num / den < 10 ^ k`, for a positive fraction. -/
def decimalMagnitude (num den : Nat) : Int :=
  if den ≤ num then digitCount (num / den)
  else
    let d : Int := digitCount (den / num)
    if den = num * tenTo (d.toNat - 1) then 2 - d else 1 - d

/-- A natural number without its trailing decimal zeros, and their count. -/
def trimZeros : Nat → Nat → Nat × Nat
  | 0, n => (n, 0)
  | fuel + 1, n =>
    if n ≠ 0 && n % 10 = 0 then
      let (m, count) := trimZeros fuel (n / 10)
      (m, count + 1)
    else (n, 0)

/-- The point with `places` digits, of magnitude `k`, that reads back as `b`:
the nearest one of the two grid points around `b` that lie in its interval, and
the even one if both are equally near. -/
def BinaryFraction.gridPoint? (b : BinaryFraction) (k : Int) (places : Nat) :
    Option DecimalFraction :=
  let (num, den) := b.ratio
  -- all sizes below are in quarters of the unit of `b`
  let unit := twoTo b.exponent.toNat
  let e := k - places
  let up := tenTo (-e).toNat
  let grid := 4 * den * tenTo e.toNat
  let value := 4 * num * up
  let low := (4 * num - if b.narrowBelow then unit else 2 * unit) * up
  let high := (4 * num + 2 * unit) * up
  let inside (p : Nat) : Bool :=
    if b.mantissa % 2 = 0 then low ≤ p && p ≤ high else low < p && p < high
  let c := value / grid
  let below := inside (c * grid)
  let above := inside ((c + 1) * grid)
  let pick : Option Nat :=
    if below && above then
      let down := value - c * grid
      let rise := (c + 1) * grid - value
      if down < rise || (down = rise && c % 2 = 0) then some c else some (c + 1)
    else if below then some c
    else if above then some (c + 1)
    else none
  pick.map fun digits => ⟨digits, e⟩

/-- The decimal with the fewest digits that reads back as `b`, and of those the
one nearest to `b`. Seventeen digits always suffice. -/
def BinaryFraction.shortest (b : BinaryFraction) : DecimalFraction :=
  let (num, den) := b.ratio
  let k := decimalMagnitude num den
  let point := ((List.range 17).findSome? fun i => b.gridPoint? k (i + 1)).getD ⟨0, 0⟩
  let (digits, zeros) := trimZeros 400 point.digits
  ⟨digits, point.exponent + zeros⟩

/-- `num / den` rounded to a whole number, a half to the even neighbour. -/
def roundHalfEven (num den : Nat) : Nat :=
  let q := num / den
  let r := num % den
  if 2 * r < den || (2 * r = den && q % 2 = 0) then q else q + 1

end Scratchpad
