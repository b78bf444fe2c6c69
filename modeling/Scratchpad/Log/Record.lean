import Scratchpad.Log.Level
import Scratchpad.Log.Moment
import Scratchpad.Value.JsonText
import Scratchpad.Value.Template

/-!
# Log records

What is known of one event, and its two layouts: a line of text, or a JSON object.
-/

namespace Scratchpad.Log

/-- A record. -/
structure Record where
  logger : String
  level : Nat
  message : Value
  /-- What fills the message; without any, the message is taken as it is. -/
  args : List Value := []
  /-- Seconds since the start of 1970. -/
  created : Float
  /-- Further named values. -/
  extra : List (String × Value) := []
  /-- An exception: the name of its class and its arguments. -/
  exception : Option (String × List Value) := none

/-- How records are laid out. -/
inductive Layout where
  | text
  | json
deriving DecidableEq, Repr

/-- Names that every record has, which are no further values. -/
def standardNames : List String :=
  ["name", "msg", "args", "created", "filename", "funcName", "levelname", "levelno", "lineno",
   "module", "msecs", "pathname", "process", "processName", "relativeCreated", "stack_info",
   "exc_info", "exc_text", "thread", "threadName", "taskName", "message"]

namespace Record

/-- What the message is filled with: a lone mapping by its names, else the arguments
in order. -/
def filling (w : World) (args : List Value) : Value :=
  match args with
  | [v] => match w.mapping? v with
    | some (_ :: _) => v
    | _ => .tuple args
  | args => .tuple args

/-- The message. -/
def text (w : World) (r : Record) : Shown := do
  let message ← w.str r.message
  if r.args.isEmpty then return message else fillTemplate w message (filling w r.args)

/-- The message of an exception. -/
def argumentsText (w : World) (args : List Value) : Shown :=
  match args with
  | [] => .ok []
  | [v] => w.str v
  | args => w.write (.tuple args)

/-- An exception as its class and its message, if it has one. -/
def exceptionText (w : World) (kind : String) (args : List Value) : Text :=
  match argumentsText w args with
  | .ok [] => kind.toList
  | .ok message => kind.toList ++ ": ".toList ++ message
  | .error _ => kind.toList ++ ": <exception str() failed>".toList

/-- The text of the record's exception. -/
def exceptionText? (w : World) (r : Record) : Option Text :=
  r.exception.map fun (kind, args) => exceptionText w kind args

/-- The record as a line of text; its exception goes on a line of its own. -/
def textLine (w : World) (r : Record) : Shown := do
  let dash := " - ".toList
  let line := textStamp r.created ++ dash ++ r.logger.toList ++ dash ++
    (levelText r.level).toList ++ dash ++ (← r.text w)
  match r.exceptionText? w with
  | none => return line
  | some e => return line ++ (if line.getLast? = some '\n' then [] else ['\n']) ++ e

/-- The further values as a field, if there are any. -/
def extraFields (w : World) (r : Record) : Except Raised (List (Text × Text)) := do
  let shown := r.extra.filter fun (n, _) => !standardNames.contains n
  if shown.isEmpty then return []
  let fields ← shown.mapM fun (n, v) => do return (n.toList, ← w.json v)
  return [("extra".toList, jsonObject fields)]

/-- The record as a JSON object. -/
def jsonLine (w : World) (r : Record) : Shown := do
  let field (n : String) (t : Text) : Text × Text := (n.toList, jsonString t)
  let message ← r.text w
  let exception := (r.exceptionText? w).toList.map (field "exception")
  return jsonObject <|
    [field "timestamp" (jsonStamp r.created), field "level" (levelText r.level).toList,
     field "logger" r.logger.toList, field "message" message] ++
    exception ++ (← r.extraFields w)

/-- The record in a layout. -/
def line (w : World) (r : Record) : Layout → Shown
  | .text => r.textLine w
  | .json => r.jsonLine w

end Record

end Scratchpad.Log
