import Scratchpad.Eval.Interpreter
import Scratchpad.Session.Outcome

/-!
# Evaluation of snippets

A snippet that does not compile, or that ends with an exception, comes to an error;
only interrupts and the like go on to the caller.
-/

namespace Scratchpad

/-- A snippet after it was compiled. -/
abbrev Compiled := Except SourceFault Code

/-- The name of snippets in complaints about their source. -/
def snippetFile : String := "<repl>"

/-- The description of why a snippet does not compile. -/
def SourceFault.text (f : SourceFault) : Text := (f.describe snippetFile).toList

/-- Source of notes. -/
def evaluatorSource : String := "bufrepl.core.evaluator"

/-- Adds a note of the evaluation. -/
def noteEvaluation (t : Text) : Run Unit := .update (·.note evaluatorSource t)

/-- The outcome of an exception that ended a snippet. -/
def outcomeOfRaised (e : Raised) : Run Outcome := do
  if e.isContained then
    let message ← Run.ofExcept ((← Run.world).describe e)
    noteEvaluation ("runtime error: ".toList ++ message)
    return .error message
  else .raise e

/-- The outcome of a value that a snippet gave. -/
def outcomeOfValue (isExpression : Bool) (v : Value) : Run Outcome := do
  match isExpression, v with
  | true, .none => return .noValue
  | true, v =>
    noteEvaluation s!"evaluated to {typeNameOf (← Run.cells) v}".toList
    return .value v
  | false, _ => return .noValue

/-- Runs a compiled snippet. -/
def runCompiled (c : Compiled) : Run Outcome := do
  match c with
  | .error f =>
    noteEvaluation ("compile error: ".toList ++ f.text)
    return .error f.text
  | .ok code =>
    match ← Run.attempt code.run with
    | .ok v => outcomeOfValue code.isExpression v
    | .error e => outcomeOfRaised e

/-- Compiles and runs a snippet. One that does not compile is incomplete unless it was
selected as a whole. -/
def evaluateSnippet (source : Text) (selected : Bool) : Run Outcome := do
  let c := compile source
  match c, selected with
  | .error _, false =>
    noteEvaluation ("incomplete input: ".toList ++ quoted source)
    return .incomplete
  | c, _ => runCompiled c

end Scratchpad
