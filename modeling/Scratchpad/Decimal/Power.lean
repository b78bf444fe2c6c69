/-!
# Powers

Powers of two and of ten, and of integers.
-/

namespace Scratchpad

/-- A power of two. -/
abbrev twoTo (n : Nat) : Nat := Nat.pow 2 n

/-- A power of ten. -/
abbrev tenTo (n : Nat) : Nat := Nat.pow 10 n

/-- A power of an integer. -/
def integerPower (a : Int) (n : Nat) : Int :=
  let m := Nat.pow a.natAbs n
  if a < 0 && n % 2 == 1 then -(m : Int) else m

end Scratchpad
