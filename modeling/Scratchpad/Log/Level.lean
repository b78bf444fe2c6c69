import Scratchpad.Text.Letter
import Scratchpad.Text.Quoted

/-!
# Log levels

A level is a number, and a record counts if its level reaches the threshold. The
threshold is set by a level's name in any case.
-/

namespace Scratchpad.Log

/-- The levels by name, in the order of their numbers. -/
def levelNames : List (String × Nat) :=
  [("NOTSET", 0), ("DEBUG", 10), ("INFO", 20), ("WARNING", 30), ("WARN", 30), ("ERROR", 40),
   ("CRITICAL", 50), ("FATAL", 50)]

/-- The number of a level; zero for a name that is none. -/
def levelOf (name : String) : Nat := (levelNames.lookup name).getD 0

/-- The name of a level's number. -/
def levelText (n : Nat) : String :=
  ((levelNames.find? (·.2 == n)).map (·.1)).getD s!"Level {n}"

/-- Level of notes. -/
def debug : Nat := levelOf "DEBUG"

/-- Threshold while nothing else is said. -/
def warning : Nat := levelOf "WARNING"

/-- Why a threshold is refused. -/
inductive LevelError where
  /-- No level has this name. -/
  | unknown (name : Text)
  /-- The name stands for a layout of lines. -/
  | layout (format : Text)
deriving DecidableEq, Repr

/-- Wording of a refusal. -/
def LevelError.message : LevelError → Text
  | .unknown name => "module 'logging' has no attribute '".toList ++ name ++ "'".toList
  | .layout format => "Unknown level: ".toList ++ quoted format

/-- The name of a standard layout, which is no level. -/
def layoutName : String := "BASIC_FORMAT"

/-- The standard layout. -/
def basicLayout : Text := "%(levelname)s:%(name)s:%(message)s".toList

/-- Reads a threshold. -/
def readLevel (t : Text) : Except LevelError Nat :=
  let name := upperText t
  match levelNames.lookup (String.ofList name) with
  | some n => .ok n
  | none =>
    if name == layoutName.toList then .error (.layout basicLayout) else .error (.unknown name)

end Scratchpad.Log
