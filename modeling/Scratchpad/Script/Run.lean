import Scratchpad.Console.Print
import Scratchpad.Files
import Scratchpad.Script.Replay
import Scratchpad.Text.Utf8

/-!
# Running a file

A file is read, split into snippets and replayed, and its transcript is printed. A file
that is missing or does not parse is reported instead, with exit code 1; anything else
that goes wrong ends the run.
-/

namespace Scratchpad

/-- Why a run was cut short. -/
inductive RunFault where
  | unreadable (e : FileError)
  | undecodable (f : DecodeFault)
  /-- The file holds a null character. -/
  | nullCharacter
  | raised (e : Raised)
  | spent

/-- What a run comes to. -/
structure FileRun where
  /-- The exit code. -/
  code : Except RunFault Nat
  /-- What was printed on the console. -/
  output : Text := []
  /-- The world after the replay. -/
  world : World

/-- How a transcript is printed. -/
structure Printing where
  plain : Bool := false
  width : Nat := 80

/-- The text of a file. -/
def Files.source (files : Files) (path : Text) : Except RunFault Text :=
  match files.read path with
  | .error e => .error (.unreadable e)
  | .ok bytes => match decodeUtf8 bytes with
    | .error f => .error (.undecodable f)
    | .ok t => .ok (unifyBreaks t)

/-- What a transcript is printed as. -/
def Printing.text (p : Printing) (transcript : Text) : Text :=
  if p.plain then Console.printed transcript else Console.listing p.width transcript

/-- A line that reports an error. -/
def errorLine (t : Text) : Text := Console.printed ("Error: ".toList ++ t) ++ ['\n']

/-- The name of files in complaints about their source. -/
def unknownFile : String := "<unknown>"

/-- Replays snippets and prints the transcript. -/
def runSnippets (settings : Settings) (printing : Printing) (snippets : List Text) : FileRun :=
  let (ending, world) := replay settings snippets
  match ending with
  | .done () => { code := .ok 0, output := printing.text world.buffer.text, world }
  | .raised e => { code := .error (.raised e), world }
  | .spent => { code := .error .spent, world }

/-- Runs a file. -/
def runFile (files : Files) (path : Text) (settings : Settings) (printing : Printing) : FileRun :=
  let world := World.forScript settings
  let report (t : Text) : FileRun := { code := .ok 1, output := errorLine t, world }
  match files.source path with
  | .error (.unreadable ⟨.missing, _⟩) => report ("File not found: ".toList ++ path)
  | .error f => { code := .error f, world }
  | .ok source =>
    match splitScript source with
    | .error .nullCharacter => { code := .error .nullCharacter, world }
    | .error f => report (path ++ ": SyntaxError: ".toList ++ (f.message unknownFile).toList)
    | .ok snippets => runSnippets settings printing snippets

end Scratchpad
