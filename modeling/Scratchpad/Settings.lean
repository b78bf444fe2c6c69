import Scratchpad.Decimal.Integer
import Scratchpad.Text.Quoted

/-!
# Settings of a scratchpad

The edge column beyond which a mapping is shown one entry per line (0 never
wraps), the indent of those entries, and the title in the first line. Settings
start from the defaults, take what the environment says, and are overridden one
by one by what the caller gives.
-/

namespace Scratchpad

/-- Why settings are refused. -/
inductive SettingsError where
  | negativeEdge (given : Int)
  | negativeIndent (given : Int)
  | notAnInteger (name : String) (given : Text)
deriving DecidableEq, Repr

/-- Wording of a refusal. -/
def SettingsError.message : SettingsError → String
  | .negativeEdge n => s!"max_line_width must be >= 0, got {n}"
  | .negativeIndent n => s!"indent_width must be >= 0, got {n}"
  | .notAnInteger name given =>
    s!"{name} must be an integer, got {String.ofList (quoted given)}"

/-- The settings of one scratchpad. -/
structure Settings where
  /-- Widest mapping shown on one line; 0 for no limit. -/
  edge : Nat := 100
  /-- Indent of the entries of a wrapped mapping. -/
  indent : Nat := 4
  /-- Title in the header line. -/
  title : Text := "Python REPL".toList
deriving DecidableEq, Repr

namespace Settings

/-- Replaces the edge column. -/
def withEdge (s : Settings) (n : Int) : Except SettingsError Settings :=
  if n < 0 then .error (.negativeEdge n) else .ok { s with edge := n.toNat }

/-- Replaces the indent. -/
def withIndent (s : Settings) (n : Int) : Except SettingsError Settings :=
  if n < 0 then .error (.negativeIndent n) else .ok { s with indent := n.toNat }

/-- Settings from three given values; the edge column is checked first. -/
def make (edge indent : Int) (title : Text) : Except SettingsError Settings := do
  ({ title := title : Settings }.withEdge edge) >>= (·.withIndent indent)

/-- Replaces what is given, the edge column first. -/
def override (s : Settings) (edge? indent? : Option Int) : Except SettingsError Settings := do
  let s ← match edge? with
    | some n => s.withEdge n
    | none => pure s
  match indent? with
  | some n => s.withIndent n
  | none => pure s

end Settings

/-! ## The environment -/

/-- Environment variables with their texts. -/
abbrev Environment := List (String × Text)

/-- The variable that sets the edge column. -/
def edgeVariable : String := "BUFREPL_EDGE_COLUMN"

/-- The variable that sets the indent. -/
def indentVariable : String := "BUFREPL_TAB_WIDTH"

/-- Reads an integer variable. Unset and blank mean the same. -/
def Environment.integer? (env : Environment) (name : String) :
    Except SettingsError (Option Int) :=
  let text := stripBlanks ((env.lookup name).getD [])
  if text.isEmpty then .ok none
  else match readInteger 10 text with
    | .ok n => .ok (some n)
    | .error _ => .error (.notAnInteger name text)

/-- The settings that an environment asks for. Each variable is read and checked
before the next one. -/
def Environment.settings (env : Environment) : Except SettingsError Settings := do
  let edge? ← env.integer? edgeVariable
  let s ← Settings.override {} edge? none
  let indent? ← env.integer? indentVariable
  s.override none indent?

end Scratchpad
