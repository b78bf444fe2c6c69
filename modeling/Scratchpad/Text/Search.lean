import Scratchpad.Text.Blank
import Scratchpad.Text.Lines

/-!
# Searching in texts

Occurrences of one text in another, and the pieces between them. Occurrences are
taken from the left and do not overlap; an empty text occurs before every
character and at the end.
-/

namespace Scratchpad

/-! ## Occurrences -/

/-- Position of the first occurrence. -/
def findText (needle : Text) : Text → Option Nat
  | [] => if needle.isEmpty then some 0 else none
  | c :: rest =>
    if needle.isPrefixOf (c :: rest) then some 0 else (findText needle rest).map (· + 1)

/-- Position of the last occurrence. -/
def findLastText (needle : Text) (t : Text) : Option Nat :=
  (findText needle.reverse t.reverse).map fun i => t.length - (i + needle.length)

/-- The texts before and after the first occurrence. -/
def cutText (needle : Text) (t : Text) : Option (Text × Text) :=
  (findText needle t).map fun i => (t.take i, t.drop (i + needle.length))

/-- The texts before and after the last occurrence. -/
def cutTextLast (needle : Text) (t : Text) : Option (Text × Text) :=
  (findLastText needle t).map fun i => (t.take i, t.drop (i + needle.length))

/-- Number of occurrences. -/
def countText (needle : Text) (t : Text) : Nat :=
  if needle.isEmpty then t.length + 1 else go 0 t
where
  /-- Counts behind `skip` characters of an occurrence. -/
  go (skip : Nat) : Text → Nat
    | [] => 0
    | c :: rest =>
      if skip > 0 then go (skip - 1) rest
      else if needle.isPrefixOf (c :: rest) then go (needle.length - 1) rest + 1
      else go 0 rest

/-- Puts `new` in the place of the first `limit` occurrences of `old`. -/
def replaceText (old new : Text) (limit : Nat) (t : Text) : Text :=
  if old.isEmpty then spread limit t else go 0 limit t
where
  /-- Puts `new` before every character and at the end. -/
  spread : Nat → Text → Text
    | 0, t => t
    | _ + 1, [] => new
    | n + 1, c :: rest => new ++ c :: spread n rest
  /-- Replaces behind `skip` characters of an occurrence. -/
  go (skip limit : Nat) : Text → Text
    | [] => []
    | c :: rest =>
      if skip > 0 then go (skip - 1) limit rest
      else if limit > 0 && old.isPrefixOf (c :: rest) then
        new ++ go (old.length - 1) (limit - 1) rest
      else c :: go 0 limit rest

/-! ## Pieces -/

/-- The pieces between the first `limit` occurrences of a separator. -/
def splitText (separator : Text) (limit : Nat) (t : Text) : List Text :=
  go 0 limit [] t
where
  /-- `piece` is the current piece, last character first. -/
  go (skip limit : Nat) (piece : Text) : Text → List Text
    | [] => [piece.reverse]
    | c :: rest =>
      if skip > 0 then go (skip - 1) limit piece rest
      else if limit > 0 && separator.isPrefixOf (c :: rest) then
        piece.reverse :: go (separator.length - 1) (limit - 1) [] rest
      else go 0 limit (c :: piece) rest

/-- The pieces between the last `limit` occurrences of a separator. -/
def splitTextLast (separator : Text) (limit : Nat) (t : Text) : List Text :=
  ((splitText separator.reverse limit t.reverse).map List.reverse).reverse

/-- The first `limit` words of a text and what follows them; blanks separate
words. -/
def splitWords : Nat → Text → List Text
  | limit, t =>
    match t.dropWhile isBlank, limit with
    | [], _ => []
    | t, 0 => [(t.reverse.dropWhile isBlank).reverse]
    | t, n + 1 => t.takeWhile (!isBlank ·) :: splitWords n (t.dropWhile (!isBlank ·))

/-- The last `limit` words of a text and what precedes them. -/
def splitWordsLast (limit : Nat) (t : Text) : List Text :=
  ((splitWords limit t.reverse).map List.reverse).reverse

/-- The lines of a listing with the breaks that end them. -/
def wideLinesKept (t : Text) : List Text :=
  go [] t
where
  /-- `line` is the current line, last character first. -/
  go (line : Text) : Text → List Text
    | [] => if line.isEmpty then [] else [line.reverse]
    | '\r' :: '\n' :: rest => (line.reverse ++ ['\r', '\n']) :: go [] rest
    | c :: rest =>
      if isWideBreak c then (c :: line).reverse :: go [] rest else go (c :: line) rest

/-! ## Ends -/

/-- A text without the characters of a class at its start. -/
def stripStart (drops : Char → Bool) (t : Text) : Text := t.dropWhile drops

/-- A text without the characters of a class at its end. -/
def stripEnd (drops : Char → Bool) (t : Text) : Text := (t.reverse.dropWhile drops).reverse

end Scratchpad
