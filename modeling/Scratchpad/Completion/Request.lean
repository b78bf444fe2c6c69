import Scratchpad.Text.Lines
import Scratchpad.Text.Word

/-!
# Completion requests

The text before the cursor ends in the symbol to complete: a path of names and dots,
an optional operator, and the part of a name that was typed. A request is read at the
first place from which the text is of this form up to its end; a line feed at the
very end does not count.
-/

namespace Scratchpad

/-- What is asked for behind a path. -/
inductive Operator where
  /-- Names of the top level, or attributes of no particular kind. -/
  | absent
  | member
  | method
deriving DecidableEq, Repr

/-- How an operator is written. -/
def Operator.text : Operator → Text
  | .absent => []
  | .member => ['.']
  | .method => [':']

/-- A request for completion. -/
structure Request where
  path : Text
  operator : Operator
  typed : Text
deriving DecidableEq, Repr

namespace Request

/-- A character of a path. -/
def isPathChar (c : Char) : Bool := isWord c || c == '.'

/-- Reads an optional operator and a name that fill the text. -/
def readEnd? (t : Text) : Option (Operator × Text) :=
  match t with
  | '.' :: rest => if rest.all isWord then some (.member, rest) else none
  | ':' :: rest => if rest.all isWord then some (.method, rest) else none
  | rest => if rest.all isWord then some (.absent, rest) else none

/-- Reads a text that is a request as a whole, with the shortest path possible. -/
def readWhole? : Text → Option Request
  | [] => some ⟨[], .absent, []⟩
  | c :: rest =>
    match readEnd? (c :: rest) with
    | some (operator, typed) => some ⟨[], operator, typed⟩
    | none =>
      if isPathChar c then (readWhole? rest).map fun r => { r with path := c :: r.path } else none

/-- Reads the request that starts first. -/
def readFirst : Text → Request
  | [] => ⟨[], .absent, []⟩
  | c :: rest => (readWhole? (c :: rest)).getD (readFirst rest)

/-- The request at the end of a text. -/
def ofText (t : Text) : Request :=
  readFirst (if t.getLast? = some '\n' then t.dropLast else t)

end Request

end Scratchpad
