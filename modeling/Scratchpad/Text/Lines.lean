/-!
# Texts and their lines

A text is a list of characters, so that a position in it is a number of
characters. Three notions of a line are in use:

* in the buffer only a line feed ends a line (`lines`);
* in source code a line feed, a carriage return or the pair ends a line
  (`unifyBreaks` turns all of them into line feeds);
* a listing also breaks at the vertical tab, the form feed, the separators
  U+001C to U+001E, U+0085, U+2028 and U+2029 (`wideLines`).
-/

namespace Scratchpad

/-- A text. Positions, columns and lengths count its characters. -/
abbrev Text := List Char

/-! ## Lines of the buffer -/

/-- The pieces of a text between its line feeds; there is always one. -/
def lines : Text → List Text
  | [] => [[]]
  | c :: rest =>
    if c = '\n' then [] :: lines rest
    else match lines rest with
      | [] => [[c]]
      | line :: more => (c :: line) :: more

/-- Lines put back together. -/
def unlines (sep : Text) : List Text → Text
  | [] => []
  | [line] => line
  | line :: more => line ++ sep ++ unlines sep more

theorem lines_ne_nil (t : Text) : lines t ≠ [] := by
  cases t with
  | nil => simp [lines]
  | cons c rest =>
    simp only [lines]
    split
    · simp
    · split <;> simp

/-- Joining the lines with line feeds gives back the text. -/
theorem unlines_lines (t : Text) : unlines ['\n'] (lines t) = t := by
  induction t with
  | nil => rfl
  | cons c rest ih =>
    simp only [lines]
    split
    next h =>
      subst h
      cases hl : lines rest with
      | nil => exact absurd hl (lines_ne_nil rest)
      | cons line more => rw [hl] at ih; simp [unlines, ih]
    next h =>
      cases hl : lines rest with
      | nil => exact absurd hl (lines_ne_nil rest)
      | cons line more =>
        -- the character joins the first line, which may be the only one
        cases more with
        | nil => rw [hl] at ih; rw [← ih]; simp [unlines]
        | cons next more => rw [hl] at ih; rw [← ih]; simp [unlines]

/-! ## Lines of source code -/

/-- Every line break of source code written as a line feed. -/
def unifyBreaks : Text → Text
  | [] => []
  | '\r' :: '\n' :: rest => '\n' :: unifyBreaks rest
  | '\r' :: rest => '\n' :: unifyBreaks rest
  | c :: rest => c :: unifyBreaks rest

/-! ## Lines of a listing -/

/-- A character that ends a line of a listing by itself. -/
def isWideBreak (c : Char) : Bool :=
  c == '\n' || c == '\r' || c == '\x0b' || c == '\x0c' || c == '\x1c' || c == '\x1d' ||
  c == '\x1e' || c.toNat == 0x85 || c.toNat == 0x2028 || c.toNat == 0x2029

/-- The lines of a listing. A break at the very end starts no further line. -/
def wideLines (t : Text) : List Text :=
  go [] t
where
  /-- `line` is the current line, last character first. -/
  go (line : Text) : Text → List Text
    | [] => if line.isEmpty then [] else [line.reverse]
    | '\r' :: '\n' :: rest => line.reverse :: go [] rest
    | c :: rest => if isWideBreak c then line.reverse :: go [] rest else go (c :: line) rest

end Scratchpad
