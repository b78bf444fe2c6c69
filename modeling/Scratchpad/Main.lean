import Scratchpad.Command.Execution
import Std.Time.DateTime.Timestamp

/-!
# The program

Takes the command line, the environment and the files from the system, carries the
command out, and writes what it printed and logged. An opened scratchpad reads its keys
from standard input, a line feed being the enter key, and shows what each line added.
-/

namespace Scratchpad.Command

/-- Variables that count. -/
def readVariables : List String :=
  [edgeVariable, indentVariable, Log.levelVariable, Log.layoutVariable, Log.pathVariable]

/-- Takes the environment from the system. -/
def readEnvironment : IO Environment := do
  let found ← readVariables.mapM fun n => do return (n, ← IO.getEnv n)
  return found.filterMap fun (n, v) => v.map fun v => (n, v.toList)

/-- The file that a command line wants to read. -/
def wantedFile? (words : List Text) : Option Text :=
  match readInvocation words with
  | .ok (.run file ..) => some file
  | _ => none

/-- Takes a file from the system. A directory is a path with a file below it, and a
path through a file begins with that file. -/
def readFile (path : Text) : IO Files := do
  let p := FilePath.ofText path
  match ← (IO.FS.readBinFile (String.ofList p.text)).toBaseIO with
  | .ok bytes => return [(p.text, bytes.toList)]
  | .error (.inappropriateType _ 20 _) => return [(p.parts.headD [], [])]
  | .error (.inappropriateType ..) => return [(p.text ++ "/.".toList, [])]
  | .error _ => return []

/-- Seconds since the start of 1970. -/
def currentTime : IO Float := do
  let now ← Std.Time.Timestamp.now
  return Float.ofInt now.toNanosecondsSinceUnixEpoch.val / 1e9

/-- Writes what was logged. -/
def writeLog (log : Log.Setup) : IO Unit := do
  for (path, t) in log.files do
    IO.FS.withFile path .append fun h => h.putStr (String.ofList t)
  for (_, t) in log.streams do
    (← IO.getStderr).putStr (String.ofList t)

/-- Reports an error. -/
def report (t : Text) : IO Unit := do
  (← IO.getStderr).putStrLn (String.ofList t)

/-- Presses the keys of a line, and gives what they added to the buffer. -/
def typeLine (line : Text) : Run Text := do
  for c in line do
    if c != '\n' then (Key.character c).press
  let before := (← Run.world).buffer.text.length
  if line.getLast? = some '\n' then Key.enter.press
  return (← Run.world).buffer.text.drop (before + 1)

/-- Reads keys until there are no more or the scratchpad was closed. -/
partial def serve (w : World) : IO World := do
  let line ← (← IO.getStdin).getLine
  if line.isEmpty || w.stopped then return w
  match typeLine line.toList w with
  | (.done added, w) =>
    (← IO.getStdout).putStr (String.ofList added)
    serve w
  | (.raised e, w) =>
    report e.kind.toList
    return w
  | (.spent, w) => return w

/-- Wording of a fault of a run. -/
def faultText (f : RunFault) : Text :=
  match f with
  | .unreadable e => e.message
  | .undecodable f => f.message.toList
  | .nullCharacter => (SourceFault.nullCharacter.message unknownFile).toList
  | .raised e => e.kind.toList
  | .spent => "the run takes too long".toList

/-- Ends a command, and gives its exit code. -/
def conclude (r : Execution) (now : Float) : IO UInt32 := do
  (← IO.getStdout).putStr (String.ofList r.output)
  match r.finish with
  | .waiting w =>
    -- the application is served line by line; what it noted is logged when it ends
    (← IO.getStdout).putStr (String.ofList w.buffer.text)
    let w ← serve w
    writeLog (r.log.emitNotes w now)
    return 0
  | finish =>
    writeLog r.log
    match finish with
    | .exited code => return code.toUInt32
    | .refused e =>
      report ("Error: ".toList ++ e.message.toList)
      return 2
    | .badLevel e =>
      report e.message
      return 1
    | .failed f =>
      report (faultText f)
      return 1
    | _ => return 0

end Scratchpad.Command

open Scratchpad Scratchpad.Command in
/-- Carries out the command line. -/
def main (args : List String) : IO UInt32 := do
  let words := args.map String.toList
  let files ← match wantedFile? words with
    | some path => readFile path
    | none => pure []
  let now ← currentTime
  let around : Surroundings := { env := ← readEnvironment, files, now }
  conclude (around.execute words) now
