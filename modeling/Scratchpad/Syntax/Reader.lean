import Scratchpad.Syntax.Lexer

/-!
# Reading lexemes

A reader takes lexemes off the front of a list. It fails with a `Stop`: the
cause, and how far it had looked, because of two ways to read something the one
that looked further explains the failure. The last lexeme of a scan is never
taken off.
-/

namespace Scratchpad

/-- A failure of a reader. -/
structure Stop where
  cause : Cause
  line : Nat
  /-- Line of the last lexeme that was looked at. -/
  seen : Nat
  /-- Number of lexemes from there on. -/
  left : Nat
  /-- Whether that lexeme is the end of what could be cut into lexemes. -/
  atBreak : Bool

/-- The lexemes still to read, and the last line of what was read. -/
structure Cursor where
  rest : List Lexeme
  last : Nat := 0

/-- A reader of lexemes. -/
abbrev Reader (α : Type) := StateT Cursor (Except Stop) α

namespace Reader

/-- The next lexeme. -/
def peek : Reader Lexeme := do
  return (← get).rest.headD ⟨.finish, 0, 0, 0⟩

/-- The next token. -/
def token : Reader Token := return (← peek).token

/-- The token behind the next one. -/
def secondToken : Reader Token := do
  return (((← get).rest.drop 1).headD ⟨.finish, 0, 0, 0⟩).token

/-- Number of lexemes still to read, which bounds every repetition. -/
def left : Reader Nat := return (← get).rest.length

/-- Takes the next lexeme. Line ends and indentation do not count as read text. -/
def advance : Reader Unit :=
  modify fun s =>
    match s.rest with
    | [] | [_] => s
    | x :: rest =>
      match x.token with
      | .newline | .indent | .dedent => { s with rest }
      | _ => { rest, last := x.lastLine }

/-- Fails with a cause that points to a line. -/
def failAt {α : Type} (cause : Cause) (line : Nat) : Reader α := do
  let x ← peek
  let broken := match x.token with
    | .broken => true
    | _ => false
  throw { cause, line, seen := x.line, left := ← left, atBreak := broken }

/-- Fails with a cause at the next lexeme. -/
def fail {α : Type} (cause : Cause) : Reader α := do
  failAt cause (← peek).line

/-- Fails because the next token cannot stand here. -/
def unexpected {α : Type} : Reader α := do
  match ← token with
  | .indent => fail .unexpectedIndent
  | .dedent => fail .unexpectedDedent
  | _ => fail .invalid

/-- Whether the next token is an operator. -/
def nextIsOp (s : String) : Reader Bool := return (← token).isOp s

/-- Whether the next token is a keyword. -/
def nextIsKeyword (s : String) : Reader Bool := return (← token).isKeyword s

/-- Whether the next token ends a line. -/
def nextIsNewline : Reader Bool := do
  match ← token with
  | .newline => return true
  | _ => return false

/-- Takes an operator if it comes next. -/
def acceptOp (s : String) : Reader Bool := do
  if ← nextIsOp s then
    advance
    return true
  else return false

/-- Takes a keyword if it comes next. -/
def acceptKeyword (s : String) : Reader Bool := do
  if ← nextIsKeyword s then
    advance
    return true
  else return false

/-- Takes an operator that must come next. -/
def op (s : String) : Reader Unit := do
  if !(← acceptOp s) then unexpected

/-- Takes a keyword that must come next. -/
def keyword (s : String) : Reader Unit := do
  if !(← acceptKeyword s) then unexpected

/-- Takes a name. -/
def name : Reader String := do
  match ← token with
  | .name s =>
    advance
    return s
  | _ => unexpected

/-- What a reader would yield here, without taking anything. -/
def attempt? {α : Type} (r : Reader α) : Reader (Option (α × Cursor)) := do
  match r (← get) with
  | .ok result => return some result
  | .error _ => return none

/-- The first reader, or the second one if it fails; if both fail, the failure
that looked further counts. -/
def orElse {α : Type} (a b : Reader α) : Reader α := fun s =>
  match a s with
  | .ok result => .ok result
  | .error stop =>
    match b s with
    | .ok result => .ok result
    | .error other => .error (if stop.left < other.left then stop else other)

/-- Repeats a reader until it yields nothing. -/
def repeatUntilNone {α : Type} (step : Reader (Option α)) : Nat → Reader (List α)
  | 0 => return []
  | n + 1 => do
    match ← step with
    | none => return []
    | some a => return a :: (← repeatUntilNone step n)

/-- Repeats a reader as long as it yields something. -/
def many {α : Type} (step : Reader (Option α)) : Reader (List α) := do
  repeatUntilNone step (← left)

/-- Feeds a value through a reader until it yields nothing. -/
def foldUntilNone {α : Type} (step : α → Reader (Option α)) : Nat → α → Reader α
  | 0, a => return a
  | n + 1, a => do
    match ← step a with
    | none => return a
    | some b => foldUntilNone step n b

/-- Feeds a value through a reader as long as it yields something. -/
def fold {α : Type} (step : α → Reader (Option α)) (a : α) : Reader α := do
  foldUntilNone step (← left) a

/-- Items with commas between them, and whether the last comma stands alone.
`more` tells whether another item can start. -/
def commaList {α : Type} (item : Reader α) (more : Reader Bool) : Reader (List α × Bool) := do
  let first ← item
  let rest ← many do
    if (← nextIsOp ",") then
      let after ← (do advance; more : Reader Bool) |> attempt?
      match after with
      | some (true, _) =>
        advance
        return some (← item)
      | _ => return none
    else return none
  let trailing ← acceptOp ","
  return (first :: rest, trailing)

end Reader

end Scratchpad
