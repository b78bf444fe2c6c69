import Scratchpad.App.Key
import Scratchpad.Command.Invocation
import Scratchpad.Log.Setup
import Scratchpad.Script.Run

/-!
# Carrying out a command

The command line is read, then logging is configured, then the settings are taken from
the environment and from the options, and then the command is carried out.
-/

namespace Scratchpad.Command

/-- How a command ends. -/
inductive Finish where
  /-- With an exit code. -/
  | exited (code : Nat)
  /-- Without one. -/
  | returned
  /-- With an application that waits for keys. -/
  | waiting (w : World)
  | refused (e : UsageError)
  | badLevel (e : Log.LevelError)
  | failed (f : RunFault)

/-- What a command comes to. -/
structure Execution where
  finish : Finish
  /-- What was written to standard output. -/
  output : Text := []
  log : Log.Setup

/-- The answer to a question for the version. -/
def versionText : Text := "bufrepl, version 0.1.0\n".toList

/-- The settings of a command. Its options count more than the environment, whose
variables are read all the same. -/
def settingsFor (env : Environment) (edge? indent? : Option Int) : Except UsageError Settings :=
  (env.settings >>= (·.override edge? indent?)).mapError .badSettings

/-- What a command has around it. -/
structure Surroundings where
  env : Environment := []
  files : Files := []
  log : Log.Setup := {}
  /-- The time, in seconds since the start of 1970. -/
  now : Float := 0
  width : Nat := 80

/-- Configures logging and makes the settings, and goes on with both. -/
def Surroundings.prepare (s : Surroundings) (r : Log.Request) (edge? indent? : Option Int)
    (go : Log.Setup → Settings → Execution) : Execution :=
  match s.log.configure s.env r with
  | .error e => { finish := .badLevel e, log := s.log }
  | .ok log => match settingsFor s.env edge? indent? with
    | .error e => { finish := .refused e, log }
    | .ok settings => go log settings

/-- Opens a scratchpad. Its log goes to no stream, which would draw over the buffer. -/
def Surroundings.openPad (s : Surroundings) (edge? indent? : Option Int)
    (logFile? logLevel? : Option Text) : Execution :=
  let request : Log.Request :=
    { level := logLevel?.getD [], path := logFile?.getD [], stream := none }
  s.prepare request edge? indent? fun log settings =>
    { finish := .waiting (World.forApp settings (mainScope []) #[]), log }

/-- Runs a file. -/
def Surroundings.runScript (s : Surroundings) (file : Text) (edge? indent? : Option Int)
    (plain : Bool) (logLevel? : Option Text) : Execution :=
  let request : Log.Request := { level := logLevel?.getD [], stream := some Log.standardStream }
  s.prepare request edge? indent? fun log settings =>
    let r := runFile s.files file settings { plain, width := s.width }
    let finish := match r.code with
      | .ok code => .exited code
      | .error f => .failed f
    { finish, output := r.world.printed ++ r.output, log := log.emitNotes r.world s.now }

/-- Carries out what a command line asks for. -/
def Surroundings.execute (s : Surroundings) (words : List Text) : Execution :=
  match readInvocation words with
  | .error e => { finish := .refused e, log := s.log }
  | .ok .version => { finish := .returned, output := versionText, log := s.log }
  | .ok .help => { finish := .returned, log := s.log }
  | .ok (.open_ edge? indent? logFile? logLevel?) => s.openPad edge? indent? logFile? logLevel?
  | .ok (.run file edge? indent? plain logLevel?) =>
    s.runScript file edge? indent? plain logLevel?

end Scratchpad.Command
