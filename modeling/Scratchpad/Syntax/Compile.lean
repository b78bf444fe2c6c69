import Scratchpad.Syntax.Placement
import Scratchpad.Syntax.Statement

/-!
# Source texts

`Source.module` and `Source.expression` parse a text, and `compile` decides what a
snippet is: an expression if it reads as one, else statements. A refusal speaks of
the form of statements.
-/

namespace Scratchpad

/-- A snippet that was compiled. -/
inductive Code where
  | expression (e : Expr)
  | statements (b : Block)

/-- Whether the snippet is an expression. -/
def Code.isExpression : Code → Bool
  | .expression _ => true
  | .statements _ => false

namespace Source

/-- Parses with a reader, unless the text holds a null character. -/
def parseWith {α : Type} (r : Grammar → Nat → Reader α) (t : Text) : Except SourceFault α :=
  if t.contains '\x00' then .error .nullCharacter
  else
    let depth := 2 * t.length + 10
    match readScan (r (grammar depth) depth) (tokenize t) with
    | .ok a => .ok a
    | .error (cause, line) => .error (.at cause line)

/-- Parses a text as statements. The text is taken to end with a line break. -/
def module (t : Text) : Except SourceFault Block :=
  let t := unifyBreaks t
  let t := if t.getLast? = some '\n' then t else t ++ ['\n']
  parseWith (fun g depth => do
    let b ← statementsTo g depth
    match ← Reader.token with
    | .finish => return b
    | _ => Reader.unexpected) t

/-- Parses a text as one expression. -/
def expression (t : Text) : Except SourceFault Expr :=
  parseWith (fun g _ => do
    let e ← expressions g
    endOfText
    return e) (unifyBreaks t)

end Source

/-- Compiles a text as one expression. -/
def compileExpression (t : Text) : Except SourceFault Expr := do
  let e ← Source.expression t
  match ownFault? {} 1 e.mentions with
  | some (cause, line) => .error (.at cause line)
  | none => .ok e

/-- Compiles a text as statements. -/
def compileStatements (t : Text) : Except SourceFault Block := do
  let b ← Source.module t
  match placementFault? b with
  | some (cause, line) => .error (.at cause line)
  | none => .ok b

/-- Compiles a snippet. -/
def compile (t : Text) : Except SourceFault Code :=
  match compileExpression t with
  | .ok e => .ok (.expression e)
  | .error _ => (compileStatements t).map .statements

end Scratchpad
