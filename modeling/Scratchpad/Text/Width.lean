import Scratchpad.Text.Letter
import Scratchpad.Text.Lines
import Scratchpad.Text.Name

/-!
# Texts of a given width, and their case

Filling a text up to a width, spreading its tabs, and the questions about the
case of a whole text.
-/

namespace Scratchpad

/-! ## Width -/

/-- Characters missing to a width. -/
def shortfall (width : Nat) (t : Text) : Nat := width - t.length

/-- Fills up on the right. -/
def fillRight (fill : Char) (width : Nat) (t : Text) : Text :=
  t ++ List.replicate (shortfall width t) fill

/-- Fills up on the left. -/
def fillLeft (fill : Char) (width : Nat) (t : Text) : Text :=
  List.replicate (shortfall width t) fill ++ t

/-- Fills up on both sides; of an odd filling the larger half stands on the left
when the width is odd. -/
def fillBoth (fill : Char) (width : Nat) (t : Text) : Text :=
  let missing := shortfall width t
  let left := missing / 2 + if missing % 2 = 1 && width % 2 = 1 then 1 else 0
  List.replicate left fill ++ t ++ List.replicate (missing - left) fill

/-- Fills up with zeros behind a sign. -/
def fillZeros (width : Nat) (t : Text) : Text :=
  let zeros := List.replicate (shortfall width t) '0'
  match t with
  | '+' :: rest => '+' :: zeros ++ rest
  | '-' :: rest => '-' :: zeros ++ rest
  | _ => zeros ++ t

/-- Spaces in the place of tabs, up to the next multiple of `step` columns. -/
def expandTabs (step : Nat) (t : Text) : Text :=
  go 0 t
where
  /-- `column` is the column of the next character. -/
  go (column : Nat) : Text → Text
    | [] => []
    | c :: rest =>
      if c = '\t' then
        let gap := if step = 0 then 0 else step - column % step
        List.replicate gap ' ' ++ go (column + gap) rest
      else c :: go (if c = '\n' || c = '\r' then 0 else column + 1) rest

/-! ## Case -/

/-- The first letter a capital and the others small. -/
def capitalText : Text → Text
  | [] => []
  | c :: rest => upperChar c ++ lowerText rest

/-- Capitals small and small letters capitals. -/
def swapText (t : Text) : Text :=
  t.flatMap fun c => if isUpper c then lowerChar c else if isLower c then upperChar c else [c]

/-- Some letter has a case and all of those are capitals. -/
def isUpperText (t : Text) : Bool := t.any isUpper && t.all fun c => !isCased c || isUpper c

/-- Some letter has a case and all of those are small. -/
def isLowerText (t : Text) : Bool := t.any isLower && t.all fun c => !isCased c || isLower c

/-- Every run of letters with a case starts with its only capital. -/
def isTitleText (t : Text) : Bool :=
  t.any isCased && go false t
where
  /-- `inWord` says that a cased letter stands right before. -/
  go (inWord : Bool) : Text → Bool
    | [] => true
    | c :: rest => (!isCased c || isLower c == inWord) && go (isCased c) rest

end Scratchpad
