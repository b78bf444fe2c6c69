import Scratchpad.Text.Quoted
import Scratchpad.Value.Complaint
import Scratchpad.World

/-!
# Texts of values

Every value has a written form, in which collections show their items in written
form, and a plain text, which is the written form but for texts, exceptions and a
few others. A list or dictionary that contains itself shows dots in its own place.
-/

namespace Scratchpad

/-- Result of showing a value, which may fail. -/
abbrev Shown := Except Raised Text

/-- Decimal text of an integer, unless it has too many digits. -/
def integerShown (n : Int) : Shown :=
  if exceedsDigits n.natAbs then .error .tooManyDigits else .ok (integerText n)

/-- Texts with commas between them. -/
def commaText (parts : List Text) : Text := unlines ", ".toList parts

/-- How an object without a text of its own is shown. -/
def opaqueText (what : String) : Text := s!"<{what} object>".toList

/-- Written form of a built-in function or object. -/
def builtinText (n : String) : Text :=
  if n == "exit" || n == "quit" then s!"Use {n}() or Ctrl-D (i.e. EOF) to exit".toList
  else if n == "help" then
    "Type help() for interactive help, or help(object) for help about object.".toList
  else if n == "license" then "Type license() to see the full license text".toList
  else s!"<built-in function {n}>".toList

/-- Written form of a value. `seen` holds the collections around it, and the fuel
bounds their nesting. -/
def writeValue (w : World) : Nat → List Loc → Value → Shown
  | 0, _, _ => .error .tooDeep
  | n + 1, seen, v =>
    let write := writeValue w n
    let writeEntries (loc : Loc) : Except Raised (List Text) :=
      (w.cells.entries loc).mapM fun (k, v) => do
        return (← write (loc :: seen) k) ++ ": ".toList ++ (← write (loc :: seen) v)
    let writeDict (loc : Loc) : Shown := do
      if seen.contains loc then return "\x7b...\x7d".toList
      return '\x7b' :: commaText (← writeEntries loc) ++ ['\x7d']
    match v with
    | .none => .ok "None".toList
    | .ellipsis => .ok "Ellipsis".toList
    | .notImplemented => .ok "NotImplemented".toList
    | .bool b => .ok (if b then "True" else "False").toList
    | .int n => integerShown n
    | .float x => .ok (floatText x)
    | .str t => .ok (quoted t)
    | .bytes bs => .ok (quotedBytes bs)
    | .tuple [x] => do return '(' :: (← write seen x) ++ ",)".toList
    | .tuple xs => do return '(' :: commaText (← xs.mapM (write seen)) ++ [')']
    | .range a b c => do
      let ends := [a, b] ++ if c = 1 then [] else [c]
      return "range(".toList ++ commaText (← ends.mapM integerShown) ++ [')']
    | .slice a b c => do
      return "slice(".toList ++ commaText (← [a, b, c].mapM (write seen)) ++ [')']
    | .list loc => do
      if seen.contains loc then return "[...]".toList
      let parts ← (w.cells.items loc).mapM (write (loc :: seen))
      return '[' :: commaText parts ++ [']']
    | .dict loc => writeDict loc
    | .proxy loc => do return "mappingproxy(".toList ++ (← writeDict loc) ++ [')']
    | .view kind loc => do
      let (name, items) : String × List Value := match kind with
        | .keys => ("dict_keys", (w.cells.entries loc).map (·.1))
        | .values => ("dict_values", (w.cells.entries loc).map (·.2))
        | .items => ("dict_items", (w.cells.entries loc).map fun (k, v) => .tuple [k, v])
      return name.toList ++ "([".toList ++ commaText (← items.mapM (write seen)) ++ "])".toList
    | .iterator kind _ => .ok (opaqueText kind)
    | .type name => .ok s!"<class '{name}'>".toList
    | .builtin name => .ok (builtinText name)
    -- the place of an object in memory is left out
    | .method (.type t) name => .ok s!"<method '{name}' of '{t}' objects>".toList
    | .method (.part p) name => .ok s!"<bound method {p.typeName}.{name}>".toList
    | .method self name =>
      .ok s!"<built-in method {name} of {typeNameOf w.cells self} object>".toList
    | .bound self (.function loc) => match w.cells[loc]? with
      | some (.function f) => do
        return s!"<bound method {f.name} of ".toList ++ (← write seen self) ++ ['>']
      | _ => .ok (opaqueText "method")
    | .bound .. => .ok (opaqueText "method")
    | .function loc => match w.cells[loc]? with
      | some (.function f) => .ok s!"<function {f.name}>".toList
      | _ => .ok (opaqueText "function")
    | .exception kind args => do
      return kind.toList ++ '(' :: commaText (← args.mapM (write seen)) ++ [')']
    | .object loc => match w.cells[loc]? with
      | some (.space attributes) => do
        if seen.contains loc then return "namespace(...)".toList
        let parts ← attributes.mapM fun (k, v) => do
          return k.toList ++ '=' :: (← write (loc :: seen) v)
        return "namespace(".toList ++ commaText parts ++ [')']
      | some (.kind name _) => .ok s!"<class '{name}'>".toList
      | some (.guest { written := some t, .. }) => .ok t
      | _ => .ok (opaqueText (w.cells.objectType loc))
    | .part .settings =>
      let widths := s!"ReplConfig(max_line_width={w.settings.edge}, " ++
        s!"indent_width={w.settings.indent}, title="
      .ok (widths.toList ++ quoted w.settings.title ++ [')'])
    | .part .history =>
      let entries := '[' :: commaText (w.history.entries.map quoted) ++ [']']
      .ok ("HistoryLog(entries=".toList ++ entries ++ s!", pos={w.history.pos})".toList)
    | .part p => .ok (opaqueText p.typeName)
    | .builtinsModule => .ok "<module 'builtins' (built-in)>".toList

/-- Depth to which collections are shown. -/
def showDepth : Nat := 330

namespace World

/-- Written form of a value. -/
def write (w : World) (v : Value) : Shown := writeValue w showDepth [] v

/-- Plain text of a value, with fuel for exceptions within exceptions. -/
def textOf (w : World) : Nat → Value → Shown
  | 0, _ => .error .tooDeep
  | n + 1, v => match v with
    | .str t => .ok t
    | .proxy loc => w.write (.dict loc)
    | .exception kind args => match args with
      | [] => .ok []
      -- a missing key is quoted, so that an empty one can be seen
      | [a] => if kind == "KeyError" then w.write a else w.textOf n a
      | args =>
        match derivesFrom kind "OSError", args with
        | true, [code, message] => do
          return "[Errno ".toList ++ (← w.textOf n code) ++ "] ".toList ++
            (← w.textOf n message)
        | _, _ => w.write (.tuple args)
    | .object loc => match w.cells[loc]? with
      | some (.guest { shown := some t, .. }) => t
      | _ => w.write v
    | v => w.write v

/-- Plain text of a value. -/
def str (w : World) (v : Value) : Shown := w.textOf showDepth v

/-- The entries of a value that is a mapping. -/
def mapping? (w : World) : Value → Option (List (Value × Value))
  | .dict loc | .proxy loc => some (w.cells.entries loc)
  | .part .namespace =>
    some (w.names.own.names.map (fun (n, v) => (.ofString n, v)) ++ w.names.own.others)
  | _ => none

/-- An exception as its name and its message, or its name alone if there is no
message. Its message may itself fail to be computed. -/
def describe (w : World) (e : Raised) : Shown := do
  let message ← w.str e.value
  if message.isEmpty then return e.kind.toList
  return e.kind.toList ++ ": ".toList ++ message

end World

end Scratchpad
