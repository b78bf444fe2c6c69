import Scratchpad.Files
import Scratchpad.Log.Record
import Scratchpad.Settings

/-!
# Where records go

A setup has a threshold, a layout, and the places that records are written to: a
stream and a file. It is configured once; later requests count only if forced. What
a request leaves open is taken from the environment.
-/

namespace Scratchpad.Log

/-- A place that records are written to. -/
inductive Sink where
  | stream (name : String)
  | file (path : String)
deriving DecidableEq, Repr

/-- What a request asks for. -/
structure Request where
  level : Text := []
  layout : Text := []
  path : Text := []
  /-- The name of the stream, or no stream at all. -/
  stream : Option String
  force : Bool := false
deriving DecidableEq, Repr

/-- The state of logging. -/
structure Setup where
  configured : Bool := false
  threshold : Nat := warning
  layout : Layout := .text
  sinks : List Sink := []
  /-- What was written to each stream. -/
  streams : List (String × Text) := []
  /-- What was written to each file. -/
  files : List (String × Text) := []
deriving DecidableEq, Repr

/-- The stream of standard errors. -/
def standardStream : String := "(stderr)"

/-- The variable that sets the threshold. -/
def levelVariable : String := "BUFREPL_LOG_LEVEL"

/-- The variable that sets the layout. -/
def layoutVariable : String := "BUFREPL_LOG_FORMAT"

/-- The variable that names the file. -/
def pathVariable : String := "BUFREPL_LOG_FILE"

/-- A value that was given, unless it is empty. -/
def given? (t : Text) : Option Text := if t.isEmpty then none else some t

namespace Request

/-- The threshold asked for. An empty variable counts. -/
def threshold (env : Environment) (r : Request) : Except LevelError Nat :=
  readLevel ((given? r.level).getD ((env.lookup levelVariable).getD "WARNING".toList))

/-- The layout asked for; anything but JSON is text. -/
def layoutOf (env : Environment) (r : Request) : Layout :=
  let name := (given? r.layout).getD ((env.lookup layoutVariable).getD [])
  if name == "json".toList then .json else .text

/-- The file asked for. -/
def pathOf (env : Environment) (r : Request) : Option Text :=
  given? ((given? r.path).getD ((env.lookup pathVariable).getD []))

/-- The places asked for. -/
def sinks (env : Environment) (r : Request) : List Sink :=
  (r.stream.map Sink.stream).toList ++
    ((r.pathOf env).map fun p => Sink.file (String.ofList (FilePath.ofText p).text)).toList

end Request

/-- Appends to the text kept under a name. -/
def appendTo (name : String) (t : Text) : List (String × Text) → List (String × Text)
  | [] => [(name, t)]
  | (n, old) :: rest => if n = name then (n, old ++ t) :: rest else (n, old) :: appendTo name t rest

namespace Setup

/-- Writes to a place; it exists from then on. -/
def write (s : Setup) (t : Text) : Sink → Setup
  | .stream n => { s with streams := appendTo n t s.streams }
  | .file p => { s with files := appendTo p t s.files }

/-- Configures logging. A threshold that is refused changes nothing. -/
def configure (s : Setup) (env : Environment) (r : Request) : Except LevelError Setup :=
  if s.configured && !r.force then .ok s
  else do
    let threshold ← r.threshold env
    let sinks := r.sinks env
    let s := { s with configured := true, threshold, layout := r.layoutOf env, sinks }
    return sinks.foldl (·.write []) s

/-- The threshold that counts; if none is set, the general one does. -/
def effective (s : Setup) : Nat := if s.threshold = 0 then warning else s.threshold

/-- The root of the names of the scratchpad's own loggers. -/
def root : String := "bufrepl"

/-- Whether a logger is one of the scratchpad's own. -/
def owns (logger : String) : Bool := logger == root || (root ++ ".").isPrefixOf logger

/-- Writes a record to every place, if it counts. A record that cannot be laid out is
dropped. -/
def emit (s : Setup) (w : World) (r : Record) : Setup :=
  if !owns r.logger || r.level < s.effective then s
  else match r.line w s.layout with
    | .error _ => s
    | .ok t => s.sinks.foldl (·.write (t ++ ['\n'])) s

/-- Writes the notes of a world at a time. -/
def emitNotes (s : Setup) (w : World) (now : Float) : Setup :=
  w.notes.foldl
    (fun s n =>
      s.emit w { logger := n.source, level := debug, message := .str n.text, created := now })
    s

end Setup

end Scratchpad.Log
