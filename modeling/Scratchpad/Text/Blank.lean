import Scratchpad.Text.Ranges

/-!
# Blanks

The characters that are stripped from both ends of a number, a setting or a
text: the Unicode white space and the four information separators. The zero
width space is not one of them.
-/

namespace Scratchpad

/-- Ranges of the blanks. -/
def blankRanges : List CodeRange :=
  [(0x9, 0xD), (0x1C, 0x20), (0x85, 0x85), (0xA0, 0xA0), (0x1680, 0x1680), (0x2000, 0x200A),
   (0x2028, 0x2029), (0x202F, 0x202F), (0x205F, 0x205F), (0x3000, 0x3000)]

/-- White space in the sense of `strip`. -/
def isBlank (c : Char) : Bool := inRanges blankRanges c

/-- A text without the blanks at its two ends. -/
def stripBlanks (t : List Char) : List Char :=
  ((t.dropWhile isBlank).reverse.dropWhile isBlank).reverse

end Scratchpad
