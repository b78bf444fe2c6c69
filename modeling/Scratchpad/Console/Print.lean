import Scratchpad.Console.Cells
import Scratchpad.Console.ShortCode
import Scratchpad.Text.Width

/-!
# Printing on a console

A text can be printed as it is, save that short codes become pictures, tabs become
spaces and some control characters are left out. Or it can be printed as a listing,
whose lines are cut at the width of the console.
-/

namespace Scratchpad.Console

/-- Control characters that are never printed. -/
def isSilent (c : Char) : Bool :=
  c == '\x07' || c == '\x08' || c == '\x0b' || c == '\x0c' || c == '\r'

/-- A text without the characters that are never printed. -/
def audible (t : Text) : Text := t.filter (!isSilent ·)

/-- Puts a space and what is missing to the next stop in the place of the tabs between
parts of a line; `column` is the column of the first part. -/
def joinAtStops (step column : Nat) : List Text → Text
  | [] => []
  | [last] => last
  | part :: rest =>
    let column := column + cells part + 1
    let gap := (step - column % step) % step
    part ++ ' ' :: List.replicate gap ' ' ++ joinAtStops step (column + gap) rest

/-- Distance of the tab stops of printed text. -/
def printStep : Nat := 8

/-- A line with spaces in the place of its tabs. -/
def stopTabs (line : Text) : Text :=
  joinAtStops printStep 0 (splitText ['\t'] line.length line)

/-- A text as it is printed. -/
def printed (t : Text) : Text :=
  unlines ['\n'] ((lines (audible (withPictures t))).map stopTabs)

/-! ## Listings -/

/-- Distance of the tab stops of a listing. -/
def listStep : Nat := 4

/-- The mark that may stand at the start of a file. -/
def byteOrderMark : Char := Char.ofNat 0xFEFF

/-- A text without the mark at its start. -/
def withoutMark : Text → Text
  | [] => []
  | c :: rest => if c = byteOrderMark then rest else c :: rest

/-- A text without blanks at its end as far as it has more than `width` characters. -/
def trimBeyond (width : Nat) (t : Text) : Text :=
  let blanks := (t.reverse.takeWhile isBlank).length
  t.take (t.length - min blanks (t.length - width))

/-- A line cut at the width. -/
def cutLine (width : Nat) (line : Text) : Text := fit width (trimBeyond width line)

/-- The characters that a listing shows, lines not yet cut. -/
def listed (t : Text) : Text := audible (unifyBreaks (withoutMark (expandTabs listStep t)))

/-- A text as a listing, and an empty line behind it. -/
def listing (width : Nat) (t : Text) : Text :=
  let shown := if t.getLast? = some '\n' then listed t else (listed (t ++ ['\n'])).dropLast
  unlines ['\n'] ((lines shown).map (cutLine width)) ++ ['\n']

end Scratchpad.Console
