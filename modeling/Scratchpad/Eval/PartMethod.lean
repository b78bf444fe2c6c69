import Scratchpad.Eval.Print

/-!
# Methods of the scratchpad's parts

What code can do to the buffer, the session, the history and the application. All
of it happens at once, in the middle of the run.
-/

namespace Scratchpad

/-- A method of a part: its parameters besides the part, with their defaults, and what
it does with their values in order. -/
structure PartMethod where
  parameters : List (String × Option Value)
  act : List Value → Run Value

namespace PartMethod

/-- A method that changes the world and gives nothing back. -/
def changing (parameters : List String) (f : List Value → Run Unit) : PartMethod where
  parameters := parameters.map (·, none)
  act vs := do
    f vs
    return .none

/-- A method without parameters that reads the world. -/
def reading (f : World → Value) : PartMethod where
  parameters := []
  act _ := return f (← Run.world)

/-- A method without parameters that changes the world. -/
def moving (f : World → World) : PartMethod := changing [] fun _ => .update f

/-- The method as a function, for filling its parameters. -/
def closure (m : PartMethod) (name : String) : Closure where
  name
  parameters :=
    .mk [] (("self" :: m.parameters.map (·.1)).map fun n => .mk n none none) none [] none
  defaults := m.parameters.filterMap fun (n, d?) => d?.map (n, ·)
  body := .expression (.constant .none)
  locals := []
  globals := []
  frame := none

end PartMethod

namespace Run

/-- A change of the buffer. -/
def updateBuffer (f : Buffer → Buffer) : Run Unit :=
  update fun w => { w with buffer := f w.buffer }

/-- Inserts a value at the cursor, which must be a text. -/
def insertValue (v : Value) : Run Unit := do
  -- the text around the cursor is joined with whatever is inserted
  match ← operate .add false (.str (← world).buffer.before) v with
  | .str _ => match v with
    | .str t => updateBuffer (·.insert t)
    | _ => return ()
  | _ => return ()

/-- A text or nothing, as a value. -/
def optionalText (t? : Option Text) : Value :=
  match t? with
  | none => .none
  | some t => .str t

/-- The method of a part, if code can call it here. -/
def partMethod? (p : Part) (name : String) : Option PartMethod :=
  let insert (parameter : String) : PartMethod :=
    .changing [parameter] fun vs => insertValue (vs.headD .none)
  match p, name with
  | .buffer, "insert_text" => some (insert "data")
  | .host, "insert_text" => some (insert "text")
  | .host, "insert_newline" => some (.changing [] fun _ => updateBuffer Buffer.newline)
  | .host, "delete_current_line" => some (.changing [] fun _ => updateBuffer Buffer.clearLine)
  | .host, "delete_char_before_cursor" =>
    some (.changing [] fun _ => updateBuffer Buffer.backspace)
  | .host, "get_current_line_text" => some (.reading fun w => .str w.buffer.currentLine)
  | .host, "cursor_position" => some (.reading fun w => .int w.buffer.cursor)
  | .host, "get_selection_range" => some <| .reading fun w =>
    .tuple [.int w.buffer.selection.1, .int w.buffer.selection.2]
  | .host, "is_completion_list_active" =>
    some (.reading fun w => .bool w.buffer.popup.isSome)
  | .host, "line_from_position" => some
    { parameters := [("position", none)]
      act := fun vs => do
        let pos ← integer (vs.headD .none)
        return .int (lineAt (← world).buffer.text pos) }
  | .host, "column_from_position" => some
    { parameters := [("position", none)]
      act := fun vs => do
        let pos ← integer (vs.headD .none)
        return .int (columnAt (← world).buffer.text pos) }
  | .host, "position_from_line" => some
    { parameters := [("line", none)]
      act := fun vs => do
        let line ← integer (vs.headD .none)
        return .int (startOfLine (← world).buffer.text line) }
  | .host, "get_text_in_range" => some
    { parameters := [("start", none), ("end", none)]
      act := fun vs => do
        let start ← integer (vs.headD .none)
        let stop ← integer (vs[1]?.getD .none)
        return .str (sliceAt (← world).buffer.text start stop) }
  | .host, "move_cursor_to_line_end" => some <| .changing ["line"] fun vs => do
    let line ← integer (vs.headD .none)
    updateBuffer (·.toLineEnd line)
  | .host, "select" => some <| .changing ["start", "end"] fun vs => do
    let start ← integer (vs.headD .none)
    let stop ← integer (vs[1]?.getD .none)
    updateBuffer (·.select start stop)
  | .history, "current" => some (.reading fun w => .str w.history.current)
  | .history, "lines_to_erase" => some (.reading fun w => .int w.history.linesToErase)
  | .history, "prev" => some
    { parameters := []
      act := fun _ w =>
        let (t?, w) := w.stepPrev
        (.done (optionalText t?), w) }
  | .history, "next" => some
    { parameters := []
      act := fun _ w =>
        let (t?, w) := w.stepNext
        (.done (optionalText t?), w) }
  | .history, "record" => some <| .changing ["snippet"] fun vs => do
    match vs with
    | [.str t] => update fun w => { w with history := w.history.record t }
    | _ => raise (.notProvided "a history entry that is no text")
  | .session, "open" => some (.moving World.openHeader)
  | .session, "history_prev" => some (.moving World.historyPrev)
  | .session, "history_next" => some (.moving World.historyNext)
  | .app, "exit" => some
    { parameters := [("result", some .none), ("exception", some .none),
        ("style", some (.str []))]
      act := fun _ => do
        if (← world).stopped then
          raise (.of "Exception" "Return value already set. Application.exit() failed.")
        else
          update fun w => { w with stopped := true }
          return .none }
  | _, _ => none

/-- Calls a method of a part. -/
def callPart (p : Part) (name : String) (args : Arguments) : Run Value := do
  match partMethod? p name with
  | none => raise (.notProvided s!"the method {name}")
  | some m =>
    let f := m.closure s!"{p.typeName}.{name}"
    let (bindings, _) ←
      ofExcept (f.bindArguments { args with positional := .part p :: args.positional })
    m.act (m.parameters.map fun (n, _) => (bindings.lookup n).getD .none)

end Run

end Scratchpad
