import Scratchpad.Text.Lines

/-!
# Tokens of source code

A lexeme is a token with its first and last line and the number of brackets that
are open behind it.
-/

namespace Scratchpad

/-- A string literal as it is written: its marks and the text between its quotes. -/
structure StringToken where
  isBytes : Bool := false
  isRaw : Bool := false
  isFormatted : Bool := false
  body : Text
deriving DecidableEq, Repr

/-- A token. -/
inductive Token where
  | name (s : String)
  | keyword (s : String)
  | int (n : Nat)
  /-- A decimal integer with too many digits. -/
  | hugeInt (digits : Nat)
  | float (x : Float)
  | imaginary (x : Float)
  | string (s : StringToken)
  | op (s : String)
  | newline
  | indent
  | dedent
  /-- The end of the text. -/
  | finish
  /-- The place from which on the text has no tokens. -/
  | broken

/-- A token and where it stands. -/
structure Lexeme where
  token : Token
  line : Nat
  lastLine : Nat
  /-- Brackets open behind the token. -/
  depth : Nat

/-- Words that are no names. -/
def keywords : List String :=
  ["False", "None", "True", "and", "as", "assert", "async", "await", "break", "class",
   "continue", "def", "del", "elif", "else", "except", "finally", "for", "from", "global",
   "if", "import", "in", "is", "lambda", "nonlocal", "not", "or", "pass", "raise", "return",
   "try", "while", "with", "yield"]

/-- Operators and delimiters of three and of two characters, longest first. -/
def longOperators : List String :=
  ["**=", "//=", ">>=", "<<=", "...",
   "!=", "%=", "&=", "**", "*=", "+=", "-=", "->", "//", "/=", ":=", "<<", "<=", "<>", "==",
   ">=", ">>", "@=", "^=", "|="]

namespace Token

/-- The token is this operator. -/
def isOp (t : Token) (s : String) : Bool :=
  match t with
  | .op o => o == s
  | _ => false

/-- The token is this keyword. -/
def isKeyword (t : Token) (s : String) : Bool :=
  match t with
  | .keyword k => k == s
  | _ => false

end Token

end Scratchpad
