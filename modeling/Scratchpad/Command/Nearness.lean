import Scratchpad.Text.Order

/-!
# Near names

How much two names have in common: twice the length of what matches over the length
of both. What matches is the longest common piece, and what matches on either side of
it. Names that share three fifths are near.
-/

namespace Scratchpad.Command

/-- Length of the common start of two texts. -/
def commonStart : Text → Text → Nat
  | a :: s, b :: t => if a = b then commonStart s t + 1 else 0
  | _, _ => 0

/-- A common piece: where it starts in each text, and its length. -/
structure Piece where
  left : Nat := 0
  right : Nat := 0
  length : Nat := 0

/-- The longest common piece; of several the first one in the left text, and of those
the first one in the right text. -/
def longestPiece (a b : Text) : Piece :=
  (List.range a.length).foldl (fun best i =>
    (List.range b.length).foldl (fun best j =>
      let n := commonStart (a.drop i) (b.drop j)
      if n > best.length then ⟨i, j, n⟩ else best) best) {}

/-- Number of matching characters, with fuel for the number of pieces. -/
def matchCount : Nat → Text → Text → Nat
  | 0, _, _ => 0
  | n + 1, a, b =>
    let p := longestPiece a b
    if p.length = 0 then 0
    else
      p.length + matchCount n (a.take p.left) (b.take p.right) +
        matchCount n (a.drop (p.left + p.length)) (b.drop (p.right + p.length))

/-- What two texts have in common, as a fraction. -/
def likeness (a b : Text) : Nat × Nat :=
  (2 * matchCount (a.length + 1) a b, a.length + b.length)

/-- Whether a fraction is at least three fifths. -/
def isNear (r : Nat × Nat) : Bool := 3 * r.2 ≤ 5 * r.1

/-- Order of names by likeness, the likest first, and then by name, the last first. -/
def nearer (given : Text) (a b : Text) : Bool :=
  let (m, n) := likeness a given
  let (p, q) := likeness b given
  p * n < m * q || (p * n == m * q && textLe b a)

/-- The names near a given one, three at most, in order. -/
def nearNames (names : List String) (given : Text) : List String :=
  let near := (names.map String.toList).filter fun n => isNear (likeness n given)
  let best := (near.mergeSort (nearer given)).take 3
  (best.mergeSort textLe).map String.ofList

end Scratchpad.Command
