import Scratchpad.Eval.Builtin

/-!
# Placeholders

A text with placeholders such as `{}`, `{0}` and `{name.part[key]!r:>5}`, which the
arguments of `format` fill. Doubled braces stand for themselves, and the
specification of a placeholder may hold placeholders.
-/

namespace Scratchpad

/-- A placeholder, or a text between placeholders. -/
inductive Segment where
  | text (t : Text)
  | field (name : Text) (conversion : Option Char) (spec : Text)

/-- The arguments of `format`, and how fields are numbered: by themselves from some
number on, or by their writer. -/
structure Filler where
  positional : Array Value
  named : List (String × Value)
  /-- The next number, if fields are numbered by themselves. -/
  counter : Option Nat := none
  /-- A field was numbered by its writer. -/
  manual : Bool := false

/-- Takes the inside of a placeholder up to its closing brace. -/
def takeBraced : Nat → Text → Option (Text × Text)
  | _, [] => none
  | depth, c :: rest =>
    if c = '\x7d' then
      match depth with
      | 0 => some ([], rest)
      | n + 1 => (takeBraced n rest).map fun (k, t) => (c :: k, t)
    else
      (takeBraced (if c = '\x7b' then depth + 1 else depth) rest).map fun (k, t) => (c :: k, t)

/-- Takes the name of a field, up to a mark that stands in no brackets. -/
def takeFieldName : Bool → Text → Text × Text
  | _, [] => ([], [])
  | inBrackets, c :: rest =>
    if !inBrackets && (c = '!' || c = ':') then ([], c :: rest)
    else
      let (name, rest) :=
        takeFieldName (if c = '[' then true else if c = ']' then false else inBrackets) rest
      (c :: name, rest)

/-- Splits the inside of a placeholder. -/
def readSegment (inside : Text) : Except Raised Segment := do
  let (name, rest) := takeFieldName false inside
  match rest with
  | '!' :: c :: rest =>
    match rest with
    | [] => return .field name (some c) []
    | ':' :: spec => return .field name (some c) spec
    | _ => throw (.valueError "expected ':' after conversion specifier")
  | ['!'] =>
    throw (.valueError "end of string while looking for conversion specifier")
  | ':' :: spec => return .field name none spec
  | _ => return .field name none []

/-- The segments of a text with placeholders, with fuel for its length. -/
def readSegments : Nat → Text → Except Raised (List Segment)
  | 0, _ => .ok []
  | _, [] => .ok []
  | n + 1, c :: rest => do
    let single (brace : Char) : Raised :=
      .valueError s!"Single '{brace}' encountered in format string"
    if c = '\x7b' then
      match rest with
      | '\x7b' :: rest => return .text [c] :: (← readSegments n rest)
      | [] => throw (single c)
      | _ =>
        match takeBraced 0 rest with
        | none => throw (.valueError "expected '\x7d' before end of string")
        | some (inside, rest) => return (← readSegment inside) :: (← readSegments n rest)
    else if c = '\x7d' then
      match rest with
      | '\x7d' :: rest => return .text [c] :: (← readSegments n rest)
      | _ => throw (single c)
    else return .text [c] :: (← readSegments n rest)

namespace Run

/-- A text of digits as a number. -/
def number? (t : Text) : Option Nat :=
  if t.isEmpty || !t.all isDecimal then none
  else some (ofDigits 10 (t.filterMap decimalValue?))

/-- The value that the first part of a field's name stands for. -/
def firstOf (f : Filler) (name : Text) : Run (Value × Filler) := do
  let at_ (i : Nat) : Run Value :=
    match f.positional[i]? with
    | some v => return v
    | none =>
      raise (.indexError s!"Replacement index {i} out of range for positional args tuple")
  let switch (before after : String) : Raised :=
    .valueError s!"cannot switch from {before} to {after}"
  let bySelf := "automatic field numbering"
  let byWriter := "manual field specification"
  match number? name with
  | some i =>
    -- numbered and unnumbered fields cannot be mixed, names can be added to either
    if f.counter.isSome then raise (switch bySelf byWriter)
    else return (← at_ i, { f with manual := true })
  | none =>
    if name.isEmpty then
      if f.manual then raise (switch byWriter bySelf)
      else
        let i := f.counter.getD 0
        return (← at_ i, { f with counter := some (i + 1) })
    else match f.named.lookup (String.ofList name) with
      | some v => return (v, f)
      | none => raise (.keyError (.str name))

/-- A value in the form that a conversion asks for. -/
def converted (conversion : Option Char) (v : Value) : Run Value := do
  match conversion with
  | none => return v
  | some 'r' => return .str (← written v)
  | some 's' => return .str (← str v)
  | some 'a' => asciiText v
  | some c => raise (.valueError s!"Unknown conversion specifier {c}")

end Run

namespace Rules

/-- Follows the attributes and items behind the first part of a field's name. -/
def follow (r : Rules) : Nat → Value → Text → Run Value
  | 0, v, _ => return v
  | _, v, [] => return v
  | n + 1, v, '.' :: rest => do
    let isPart (c : Char) : Bool := c != '.' && c != '['
    let name := rest.takeWhile isPart
    if name.isEmpty then .raise (.valueError "Empty attribute in format string")
    else follow r n (← r.getAttribute v (String.ofList name)) (rest.dropWhile isPart)
  | n + 1, v, '[' :: rest => do
    let key := rest.takeWhile (· != ']')
    match rest.dropWhile (· != ']') with
    | [] => .raise (.valueError "Missing ']' in format string")
    | _ :: rest =>
      if key.isEmpty then .raise (.valueError "Empty attribute in format string")
      else
        -- an index without quotes: digits are a number, and anything else is a key
        let index : Value := match Run.number? key with
          | some i => .int i
          | none => .str key
        follow r n (← Run.getItem v index) rest
  | _, _, _ =>
    .raise (.valueError "Only '.' or '[' may follow ']' in format field specifier")

/-- Fills segments; the fuel bounds the nesting of specifications. -/
def fillSegments (r : Rules) : Nat → Filler → Text → Run (Text × Filler)
  | 0, _, _ => .raise (.valueError "Max string recursion exceeded")
  | n + 1, f, t => do
    let segments ← Run.ofExcept (readSegments (t.length + 1) t)
    segments.foldlM
      (fun (shown, f) segment => do
        match segment with
        | .text t => return (shown ++ t, f)
        | .field name conversion spec =>
          let isFirst (c : Char) : Bool := c != '.' && c != '['
          let (v, f) ← Run.firstOf f (name.takeWhile isFirst)
          let v ← r.follow name.length v (name.dropWhile isFirst)
          let v ← Run.converted conversion v
          let (spec, f) ← if spec.isEmpty then pure ([], f) else fillSegments r n f spec
          return (shown ++ (← Run.formatValue v spec), f))
      ([], f)

/-- A text with its placeholders filled. -/
def fillPlaceholders (r : Rules) (t : Text) (args : Arguments) : Run Value :=
  return .str (← r.fillSegments 2 { positional := args.positional.toArray, named := args.named } t).1

end Rules

end Scratchpad
