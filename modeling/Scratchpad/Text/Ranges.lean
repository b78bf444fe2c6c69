/-!
# Ranges of code points

A character class is a list of closed ranges of code points. ASCII is decided
before a table is searched, so a table matters only to the other characters.
-/

namespace Scratchpad

/-- A closed range of code points. -/
abbrev CodeRange := Nat × Nat

/-- Membership of a character in one of the ranges. -/
def inRanges (table : List CodeRange) (c : Char) : Bool :=
  table.any fun r => r.1 ≤ c.toNat && c.toNat ≤ r.2

/-- A run of characters `first, first + step, …, last` that a case mapping
moves by `up`, or by minus `down`. -/
structure CaseRun where
  first : Nat
  last : Nat
  step : Nat
  up : Nat
  down : Nat

/-- The code point that the first matching run assigns, or the character's own. -/
def applyRuns (runs : List CaseRun) (c : Char) : Char :=
  match runs.find? fun r =>
      r.first ≤ c.toNat && c.toNat ≤ r.last && (c.toNat - r.first) % r.step == 0 with
  | some r => Char.ofNat (c.toNat + r.up - r.down)
  | none => c

end Scratchpad
