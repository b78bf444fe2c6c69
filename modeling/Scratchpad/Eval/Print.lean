import Scratchpad.Eval.Call
import Scratchpad.Session.Transcript

/-!
# Printing

The built-in `print` writes one piece after another to a file, the standard output
if none is given. The session's own `print` puts the whole line together first and
prints it into the buffer.
-/

namespace Scratchpad

namespace Run

/-- Writes a text to the standard output. -/
def writeOut (t : Text) : Run Unit := update fun w => { w with printed := w.printed ++ t }

/-- Writes a value to a text file in memory; gives the number of characters. -/
def writeSink (loc : Loc) (v : Value) : Run Value := do
  match v, (← cells)[loc]? with
  | .str t, some (.sink content) =>
    store loc (.sink (content ++ t))
    return .int t.length
  | v, _ => typeFault s!"string argument expected, got '{← typeName v}'"

/-- A named argument that is a text, or left out by the empty value. -/
def textOption (named : List (String × Value)) (name : String) (default : Text) : Run Text := do
  match named.lookup name with
  | none | some .none => return default
  | some (.str t) => return t
  | some v => typeFault s!"{name} must be None or a string, not {← typeName v}"

end Run

/-- Writes a text to a file. -/
def Rules.writeTo (r : Rules) (file : Value) (t : Text) : Run Unit := do
  match file with
  | .none => Run.writeOut t
  | file =>
    let write ← r.getAttribute file "write"
    let _ ← r.call write [.str t] []

/-- Writes values with a separator between them. -/
def Rules.writeSeparated (r : Rules) (file : Value) (separator : Text) : List Value → Run Unit
  | [] => return ()
  | [v] => do r.writeTo file (← Run.str v)
  | v :: rest => do
    r.writeTo file (← Run.str v)
    r.writeTo file separator
    writeSeparated r file separator rest

/-- Named arguments that printing takes. -/
def printNames : List String := ["sep", "end", "file", "flush"]

/-- The built-in `print`. -/
def Rules.print (r : Rules) (args : Arguments) : Run Value := do
  match args.named.find? fun (n, _) => !printNames.contains n with
  | some (n, _) => .typeFault s!"'{n}' is an invalid keyword argument for print()"
  | none =>
    let separator ← Run.textOption args.named "sep" [' ']
    let ending ← Run.textOption args.named "end" ['\n']
    let file := (args.named.lookup "file").getD .none
    r.writeSeparated file separator args.positional
    r.writeTo file ending
    match file with
    | .none => return .none
    | file =>
      if truth (← .world) ((args.named.lookup "flush").getD .none) then
        let flush ← r.getAttribute file "flush"
        let _ ← r.call flush [] []
      return .none

/-- The session's `print`. Without a file it prints into the buffer, with a tab
between the values. -/
def Rules.sessionPrint (r : Rules) (args : Arguments) : Run Value := do
  match args.named.find? fun (n, _) => !printNames.contains n with
  | some (n, _) =>
    .typeFault s!"ReplSession._print() got an unexpected keyword argument '{n}'"
  | none =>
    let separator := (args.named.lookup "sep").getD (.str ['\t'])
    let ending := (args.named.lookup "end").getD (.str ['\n'])
    match (args.named.lookup "file").getD .none with
    | .none =>
      match separator with
      | .str s =>
        let line := unlines s (← args.positional.mapM Run.str)
        -- the ending is added before anything is printed, so that a fault prints nothing
        match ← Run.operate .add false (.str line) ending with
        | .str chunk =>
          .update fun w => { w with buffer := w.buffer.printChunk chunk }
          return .none
        | _ => return .none
      | v => .raise (← Run.missingAttribute v "join")
    | file =>
      -- with a file the built-in function prints, with the session's separator
      r.print ⟨args.positional,
        [("sep", separator), ("end", ending), ("file", file),
          ("flush", (args.named.lookup "flush").getD (.bool false))]⟩

end Scratchpad
