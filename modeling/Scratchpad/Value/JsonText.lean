import Scratchpad.Decimal.FloatText
import Scratchpad.Value.Show

/-!
# JSON texts

Values as JSON on one line, in ASCII. Lists and tuples are arrays, dictionaries are
objects in their own order, and a value that JSON does not know is written as its
plain text.
-/

namespace Scratchpad

/-- A unit of sixteen bits as an escape. -/
def unitEscape (n : Nat) : Text := '\\' :: 'u' :: hexText 4 n

/-- How one character is written in a JSON string. One beyond sixteen bits takes two
units. -/
def jsonChar (c : Char) : Text :=
  if c = '"' || c = '\\' then ['\\', c]
  else if c = '\n' then ['\\', 'n']
  else if c = '\r' then ['\\', 'r']
  else if c = '\t' then ['\\', 't']
  else if c = '\x08' then ['\\', 'b']
  else if c = '\x0c' then ['\\', 'f']
  else if 32 ≤ c.toNat && c.toNat < 127 then [c]
  else if c.toNat < 0x10000 then unitEscape c.toNat
  else
    let n := c.toNat - 0x10000
    unitEscape (0xD800 + n / 0x400) ++ unitEscape (0xDC00 + n % 0x400)

/-- A JSON string. -/
def jsonString (t : Text) : Text := '"' :: t.flatMap jsonChar ++ ['"']

/-- A floating-point number. -/
def jsonFloat (x : Float) : Text :=
  if x.isNaN then "NaN".toList
  else if x.isInf then (if isNegativeFloat x then "-Infinity" else "Infinity").toList
  else floatText x

/-- The key of an object, if it can be one. -/
def jsonKey (w : World) (v : Value) : Shown :=
  match v with
  | .str t => .ok t
  | .none => .ok "null".toList
  | .bool b => .ok (if b then "true" else "false").toList
  | .int n => integerShown n
  | .float x => .ok (jsonFloat x)
  | v =>
    .error <| .typeError <|
      s!"keys must be str, int, float, bool or None, not {typeNameOf w.cells v}"

/-- An array of written items. -/
def jsonArray (items : List Text) : Text := '[' :: commaText items ++ [']']

/-- An object of written keys and values. -/
def jsonObject (fields : List (Text × Text)) : Text :=
  '\x7b' :: commaText (fields.map fun (k, v) => jsonString k ++ ": ".toList ++ v) ++ ['\x7d']

/-- A value as JSON, with fuel for the nesting of collections. -/
def jsonValue (w : World) : Nat → Value → Shown
  | 0, _ => .error .tooDeep
  | n + 1, v => match v with
    | .none => .ok "null".toList
    | .bool b => .ok (if b then "true" else "false").toList
    | .int i => integerShown i
    | .float x => .ok (jsonFloat x)
    | .str t => .ok (jsonString t)
    | .tuple xs => return jsonArray (← xs.mapM (jsonValue w n))
    | .list loc => return jsonArray (← (w.cells.items loc).mapM (jsonValue w n))
    | .dict loc => do
      let fields ← (w.cells.entries loc).mapM fun (k, v) => do
        return (← jsonKey w k, ← jsonValue w n v)
      return jsonObject fields
    | v => return jsonString (← w.str v)

/-- A value as JSON. -/
def World.json (w : World) (v : Value) : Shown := jsonValue w showDepth v

end Scratchpad
