import Scratchpad.Text.Digit
import Scratchpad.Text.Letter

/-!
# Word characters

A word character is the underscore, a letter, or a character with a numeric
value. A symbol before the cursor is made of them.
-/

namespace Scratchpad

/-- A letter or a character with a numeric value. -/
def isAlphanumeric (c : Char) : Bool := isLetter c || isNumeric c

/-- A character that a symbol may contain. -/
def isWord (c : Char) : Bool := c == '_' || isAlphanumeric c

end Scratchpad
