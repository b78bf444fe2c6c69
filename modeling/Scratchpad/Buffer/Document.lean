import Scratchpad.Text.Lines

/-!
# Positions, lines and columns

Lines are the pieces between line feeds and are counted from zero. A position
lies on the last line that starts at or before it, so a position on a line feed
still belongs to the line that it ends. Positions past the end of the text lie
on the last line.
-/

namespace Scratchpad

/-- Number of lines of a text. -/
def lineCount (t : Text) : Nat := t.count '\n' + 1

/-- The line on which a position lies. -/
def lineOf (t : Text) (pos : Nat) : Nat := (t.take pos).count '\n'

/-- Start of a line; the end of the text for a line that does not exist. -/
def lineStart : Text → Nat → Nat
  | _, 0 => 0
  | [], _ + 1 => 0
  | c :: rest, line + 1 =>
    1 + if c = '\n' then lineStart rest line else lineStart rest (line + 1)

/-- Column of a position in its line. -/
def columnOf (t : Text) (pos : Nat) : Nat := pos - lineStart t (lineOf t pos)

/-- The text of a line. -/
def lineText (t : Text) (line : Nat) : Text := (lines t)[line]?.getD []

/-- The line feed at the end of a line, or the end of the text. -/
def lineEnd (t : Text) (line : Nat) : Nat :=
  lineStart t line + (lineText t line).length

/-- The piece of a text between two positions. -/
def slice (t : Text) (start stop : Nat) : Text := (t.take stop).drop start

/-! ## Arguments that may be negative

A caller may count lines and positions from the end. -/

/-- The position that an index into a text of `length` characters means, when
negative indices count from the end and all are cut to the text. -/
def clampIndex (length : Nat) (i : Int) : Nat :=
  if i < 0 then (length + i).toNat else min i.toNat length

/-- The piece between two indices. -/
def sliceAt (t : Text) (start stop : Int) : Text :=
  slice t (clampIndex t.length start) (clampIndex t.length stop)

/-- The line of a position; `-1` for a negative position. -/
def lineAt (t : Text) (pos : Int) : Int :=
  if pos < 0 then -1 else lineOf t pos.toNat

/-- The column of a position; a negative position counts from the start of the
last line. -/
def columnAt (t : Text) (pos : Int) : Int :=
  if pos < 0 then pos - lineStart t (lineCount t - 1) else columnOf t pos.toNat

/-- The start of a line; negative lines count from the last one. -/
def startOfLine (t : Text) (line : Int) : Nat :=
  if line < 0 then lineStart t (lineCount t + line).toNat else lineStart t line.toNat

end Scratchpad
