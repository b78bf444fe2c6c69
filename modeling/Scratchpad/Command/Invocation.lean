import Scratchpad.Command.Nearness
import Scratchpad.Settings
import Scratchpad.Text.Search

/-!
# Command lines

What the words of a command line ask for. Options stand anywhere among the words of a
command; two hyphens end them. An option that takes a value takes the next word,
whatever it is, or what follows an equals sign. Values are checked in the order in
which their options first appear, and the last value of an option counts.
-/

namespace Scratchpad.Command

/-- Why a command line is refused. -/
inductive UsageError where
  | noSuchOption (given : Text) (near : List String)
  | noSuchCommand (given : Text) (near : List String)
  | missingCommand
  /-- There are no words at all. -/
  | nothingAsked
  | needsValue (option : String)
  | takesNoValue (option : String)
  | notAnInteger (option : String) (given : Text)
  | missingArgument (name : String)
  | extraWords (words : List Text)
  | badSettings (e : SettingsError)
deriving DecidableEq, Repr

/-- A hint at names that are near. -/
def nearText (near : List String) : String :=
  match near with
  | [] => ""
  | [n] => s!" Did you mean '{n}'?"
  | names =>
    let quotedNames := String.intercalate ", " (names.map fun n => s!"'{n}'")
    s!" (Did you mean one of: {quotedNames}?)"

/-- Wording of a refusal. -/
def UsageError.message : UsageError → String
  | .noSuchOption given near =>
    s!"No such option {String.ofList (quoted given)}." ++ nearText near
  | .noSuchCommand given near =>
    s!"No such command {String.ofList (quoted given)}." ++ nearText near
  | .missingCommand => "Missing command."
  | .nothingAsked => ""
  | .needsValue o => s!"Option '{o}' requires an argument."
  | .takesNoValue o => s!"Option '{o}' does not take a value."
  | .notAnInteger o given =>
    s!"Invalid value for '{o}': {String.ofList (quoted given)} is not a valid integer."
  | .missingArgument n => s!"Missing argument '{n}'."
  | .extraWords words =>
    let plural := if words.length = 1 then "" else "s"
    let shown := String.ofList (unlines [' '] words)
    s!"Got unexpected extra argument{plural} ({shown})"
  | .badSettings e => e.message

/-! ## Options among words -/

/-- An option and whether it takes a value. -/
abbrev OptionSpec := String × Bool

/-- An option that was given; a flag has an empty value. -/
abbrev Given := String × Text

/-- Options and other words, each in order. -/
structure Words where
  options : List Given := []
  others : List Text := []
deriving DecidableEq, Repr

/-- Whether a word is an option. -/
def isOption (w : Text) : Bool := w.head? = some '-' && w.length > 1

/-- What a word that is an option says. -/
inductive Reading where
  | complete (g : Given)
  /-- The next word is the value. -/
  | open_ (option : String)

/-- Reads a word that is an option. Behind a single hyphen only the first letter is
looked at, and there are no options of one letter. -/
def readOption (specs : List OptionSpec) (w : Text) : Except UsageError Reading :=
  let (name, value?) : Text × Option Text := match cutText ['='] w with
    | some (name, value) => (name, some value)
    | none => (w, none)
  match specs.find? (·.1.toList == name), value? with
  | some (o, true), some v => .ok (.complete (o, v))
  | some (o, true), none => .ok (.open_ o)
  | some (o, false), none => .ok (.complete (o, []))
  | some (o, false), some _ => .error (.takesNoValue o)
  | none, _ =>
    if "--".toList.isPrefixOf w then
      .error (.noSuchOption name (nearNames (specs.map (·.1)) name))
    else .error (.noSuchOption (w.take 2) [])

/-- Adds an option in front. -/
def Words.withOption (g : Given) (w : Words) : Words := { w with options := g :: w.options }

/-- Adds another word in front. -/
def Words.withOther (t : Text) (w : Words) : Words := { w with others := t :: w.others }

/-- Sorts out the words. Unless options may be mixed in, they end at the first other
word. -/
def readWords (specs : List OptionSpec) (mixed : Bool) : List Text → Except UsageError Words
  | [] => .ok {}
  | w :: rest =>
    if w = "--".toList then .ok { others := rest }
    else if isOption w then do
      match ← readOption specs w with
      | .complete g => return (← readWords specs mixed rest).withOption g
      | .open_ o =>
        match rest with
        | [] => .error (.needsValue o)
        | v :: rest => return (← readWords specs mixed rest).withOption (o, v)
    else if mixed then return (← readWords specs mixed rest).withOther w
    else .ok { others := w :: rest }

namespace Words

/-- Whether an option was given. -/
def has (w : Words) (o : String) : Bool := w.options.any (·.1 == o)

/-- The last value of an option. -/
def value? (w : Words) (o : String) : Option Text := w.options.reverse.lookup o

/-- The value of an option as an integer. -/
def integer? (w : Words) (o : String) : Except UsageError (Option Int) :=
  match w.value? o with
  | none => .ok none
  | some t => match readInteger 10 (stripBlanks t) with
    | .ok n => .ok (some n)
    | .error _ => .error (.notAnInteger o t)

/-- Checks the values of options, in the order in which the options appear. -/
def check (w : Words) (integers : List String) : Except UsageError Unit :=
  w.options.forM fun (o, _) => do
    if integers.contains o then let _ ← w.integer? o

end Words

/-! ## Commands -/

/-- What a command line asks for. -/
inductive Invocation where
  | version
  | help
  | open_ (edge? indent? : Option Int) (logFile? logLevel? : Option Text)
  | run (file : Text) (edge? indent? : Option Int) (plain : Bool) (logLevel? : Option Text)
deriving DecidableEq, Repr

/-- Shows how to use the program or a command. -/
def helpOption : String := "--help"

/-- Shows the version. -/
def versionOption : String := "--version"

/-- Sets the edge column. -/
def edgeOption : String := "--edge-column"

/-- Sets the indent. -/
def indentOption : String := "--tab-width"

/-- Names the log file. -/
def logFileOption : String := "--log-file"

/-- Sets the threshold of the log. -/
def logLevelOption : String := "--log-level"

/-- Prints the transcript as it is. -/
def plainOption : String := "--plain"

/-- Options in front of the command. -/
def generalOptions : List OptionSpec := [(versionOption, false), (helpOption, false)]

/-- Options of the command that opens a scratchpad. -/
def openOptions : List OptionSpec :=
  [(edgeOption, true), (indentOption, true), (logFileOption, true), (logLevelOption, true),
   (helpOption, false)]

/-- Options of the command that runs a file. -/
def runOptions : List OptionSpec :=
  [(edgeOption, true), (indentOption, true), (plainOption, false), (logLevelOption, true),
   (helpOption, false)]

/-- Options whose values are integers. -/
def integerOptions : List String := [edgeOption, indentOption]

/-- Refuses words that are left. -/
def noMoreWords (words : List Text) : Except UsageError Unit :=
  if words.isEmpty then .ok () else .error (.extraWords words)

/-- Reads the words of the command that opens a scratchpad. -/
def readOpen (words : List Text) : Except UsageError Invocation := do
  let w ← readWords openOptions true words
  if w.has helpOption then return .help
  w.check integerOptions
  noMoreWords w.others
  return .open_ (← w.integer? edgeOption) (← w.integer? indentOption) (w.value? logFileOption)
    (w.value? logLevelOption)

/-- Reads the words of the command that runs a file. -/
def readRun (words : List Text) : Except UsageError Invocation := do
  let w ← readWords runOptions true words
  if w.has helpOption then return .help
  w.check integerOptions
  match w.others with
  | [] => throw (.missingArgument "FILE")
  | file :: more =>
    noMoreWords more
    return .run file (← w.integer? edgeOption) (← w.integer? indentOption) (w.has plainOption)
      (w.value? logLevelOption)

/-- What an option in front of the command asks for, if there is one. -/
def general? (w : Words) : Option Invocation :=
  w.options.head?.map fun (o, _) => if o = versionOption then .version else .help

/-- The commands. -/
def commandNames : List String := ["open", "run"]

/-- A word in the place of a command that is none. One that looks like an option is
read as one first. -/
def unknownCommand (name : Text) (words : List Text) : Except UsageError Invocation := do
  let refused := UsageError.noSuchCommand name (nearNames commandNames name)
  if isOption name then
    let w ← readWords generalOptions false words
    match general? w with
    | some i => return i
    | none => throw refused
  else throw refused

/-- Reads a command and its words. -/
def readCommand (words : List Text) : Except UsageError Invocation :=
  match words with
  | [] => .error .missingCommand
  | name :: rest =>
    if name = "open".toList then readOpen rest
    else if name = "run".toList then readRun rest
    else unknownCommand name words

/-- Reads a command line. -/
def readInvocation (words : List Text) : Except UsageError Invocation := do
  if words.isEmpty then throw .nothingAsked
  let w ← readWords generalOptions false words
  match general? w with
  | some i => return i
  | none => readCommand w.others

end Scratchpad.Command
