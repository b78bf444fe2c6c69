import Scratchpad.Value.Field
import Scratchpad.Value.Show

/-!
# Templates

A template is a text with directives such as `%s` and `%5.2f`, which the values of
a tuple fill in order; a single value fills one directive, and a mapping fills
directives with keys such as `%(name)s`.
-/

namespace Scratchpad

/-- A directive of a template. -/
structure Directive where
  flags : Text := []
  width : Option Int := none
  precision : Option Int := none
  form : Char

namespace Directive

/-- The directive as a field for numbers. -/
def numberField (d : Directive) : Field :=
  let left := d.flags.contains '-' || d.width.any (· < 0)
  { align := if left then some '<' else if d.flags.contains '0' then some '=' else some '>'
    fill := if d.flags.contains '0' && !left then '0' else ' '
    sign := if d.flags.contains '+' then some '+'
      else if d.flags.contains ' ' then some ' ' else none
    alternate := d.flags.contains '#'
    width := (d.width.getD 0).natAbs
    precision := d.precision.map Int.toNat }

/-- The directive applied to a text. -/
def layText (d : Directive) (t : Text) : Text :=
  let t := match d.precision with
    | some n => t.take n.toNat
    | none => t
  let width := (d.width.getD 0).natAbs
  if d.flags.contains '-' || d.width.any (· < 0) then fillRight ' ' width t
  else fillLeft ' ' width t

/-- The directive applied to an integer. -/
def layInt (d : Directive) (n : Int) : Laid := do
  let (base, mark) : Nat × Text := match d.form with
    | 'o' => (8, ['0', 'o'])
    | 'x' => (16, ['0', 'x'])
    | 'X' => (16, ['0', 'X'])
    | _ => (10, [])
  if base = 10 && exceedsDigits n.natAbs then throw .tooManyDigits
  let digits := if base = 10 then integerText n.natAbs else Nat.toDigits base n.natAbs
  let digits := if d.form == 'X' then digits.map Char.toUpper else digits
  let digits := fillLeft '0' ((d.precision.getD 0).toNat) digits
  let f := d.numberField
  return f.layNumber 3 (n < 0) (if f.alternate then mark else []) digits []

/-- The directive applied to a floating-point number. -/
def layFloat (d : Directive) (x : Float) : Laid :=
  { d.numberField with form := some d.form }.layFloat x

/-- The directive applied to a value. `index` is the place of its last character in
the template. -/
def lay (w : World) (d : Directive) (index : Nat) (v : Value) : Laid := do
  let type := complaintTypeName w.cells v
  match d.form with
  | 's' => return d.layText (← w.str v)
  | 'r' => return d.layText (← w.write v)
  | 'a' => return d.layText (escapeWide (← w.write v))
  | 'c' => match v with
    | .str [c] => return d.layText [c]
    | .int n =>
      if n < 0 || n ≥ 0x110000 then
        throw (.of "OverflowError" "%c arg not in range(0x110000)")
      return d.layText [Char.ofNat n.toNat]
    | _ => throw (.typeError "%c requires int or char")
  | 'd' | 'i' | 'u' => match v.number? with
    | some (.int n) => d.layInt n
    | some (.float x) => d.layInt (← wholePart x)
    | none => throw (.typeError s!"%{d.form} format: a real number is required, not {type}")
  | 'o' | 'x' | 'X' => match v.number? with
    | some (.int n) => d.layInt n
    | _ => throw (.typeError s!"%{d.form} format: an integer is required, not {type}")
  | 'e' | 'E' | 'f' | 'F' | 'g' | 'G' => match v.number? with
    | some x => d.layFloat (← x.toFloat)
    | none => throw (.typeError s!"must be real number, not {type}")
  | c =>
    -- the complaint is made of plain characters only
    let shown := if c.toNat > 31 && c.toNat < 128 then c else '?'
    let code := String.ofList (Nat.toDigits 16 c.toNat)
    throw (.valueError s!"unsupported format character '{shown}' (0x{code}) at index {index}")
where
  /-- Characters outside the first 128 in escaped form. -/
  escapeWide (t : Text) : Text :=
    t.flatMap fun c =>
      if c.toNat < 128 then [c]
      else if c.toNat < 0x100 then '\\' :: 'x' :: hexText 2 c.toNat
      else if c.toNat < 0x10000 then '\\' :: 'u' :: hexText 4 c.toNat
      else '\\' :: 'U' :: hexText 8 c.toNat

end Directive

/-! ## Filling in -/

/-- What is left to fill directives with. -/
structure Filling where
  values : List Value
  /-- Values by key. -/
  mapping : Option (List (Value × Value)) := none

namespace Filling

/-- Takes the next value. -/
def next (f : Filling) : Except Raised (Value × Filling) :=
  match f.values with
  | v :: rest => .ok (v, { f with values := rest })
  | [] => .error (.typeError "not enough arguments for format string")

/-- Takes a number that a star stands for, or one that is written out. -/
def nextNumber (f : Filling) (t : Text) : Except Raised (Option Int × Filling × Text) := do
  match t with
  | '*' :: rest =>
    let (v, f) ← f.next
    match v.number? with
    | some (.int n) => return (some n, f, rest)
    | _ => throw (.typeError "* wants int")
  | _ =>
    let (n, rest) := Field.takeNumber t
    return (n.map fun n => (n : Int), f, rest)

end Filling

/-- Takes the key of a directive up to its closing parenthesis. -/
def takeKey : Nat → Text → Option (Text × Text)
  | _, [] => none
  | depth, c :: rest =>
    if c = ')' then
      match depth with
      | 0 => some ([], rest)
      | n + 1 => (takeKey n rest).map fun (k, t) => (c :: k, t)
    else (takeKey (if c = '(' then depth + 1 else depth) rest).map fun (k, t) => (c :: k, t)

/-- Fills one directive; the text starts behind its percent sign. -/
def fillDirective (w : World) (length : Nat) (f : Filling) (t : Text) :
    Except Raised (Text × Filling × Text) := do
  let (f, t) ← match t with
    | '(' :: rest =>
      match f.mapping with
      | none => throw (.typeError "format requires a mapping")
      | some entries =>
        match takeKey 0 rest with
        | none => throw (.valueError "incomplete format key")
        | some (k, rest) =>
          match entryGet? entries (.str k) with
          | none => throw (.keyError (.str k))
          | some v => pure ({ f with values := [v] }, rest)
    | _ => pure (f, t)
  let isFlag (c : Char) : Bool := c == '-' || c == '+' || c == ' ' || c == '#' || c == '0'
  let flags := t.takeWhile isFlag
  let (width, f, t) ← f.nextNumber (t.dropWhile isFlag)
  let (precision, f, t) ← match t with
    | '.' :: rest => do
      let (n, f, t) ← f.nextNumber rest
      pure (some (n.getD 0), f, t)
    | _ => pure (none, f, t)
  let t := match t with
    | 'h' :: rest | 'l' :: rest | 'L' :: rest => rest
    | _ => t
  match t with
  | [] => throw (.valueError "incomplete format")
  | '%' :: rest => return (['%'], f, rest)
  | form :: rest =>
    let (v, f) ← f.next
    let d : Directive := { flags, width, precision, form }
    return (← d.lay w (length - t.length) v, f, rest)

/-- Fills the directives of a text, with fuel for its length. -/
def fillFrom (w : World) (length : Nat) : Nat → Filling → Text → Except Raised (Text × Filling)
  | 0, f, _ => .ok ([], f)
  | _, f, [] => .ok ([], f)
  | n + 1, f, '%' :: rest => do
    let (shown, f, rest) ← fillDirective w length f rest
    let (more, f) ← fillFrom w length n f rest
    return (shown ++ more, f)
  | n + 1, f, c :: rest => do
    let (more, f) ← fillFrom w length n f rest
    return (c :: more, f)

/-- A template filled with values. -/
def fillTemplate (w : World) (template : Text) (v : Value) : Laid := do
  let mapping : Option (List (Value × Value)) := match v with
    | .dict loc | .proxy loc => some (w.cells.entries loc)
    | .list _ | .bytes _ | .range .. => some []
    | _ => none
  let values := match v with
    | .tuple xs => xs
    | v => [v]
  let (t, f) ← fillFrom w template.length (template.length + 1) { values, mapping } template
  if !f.values.isEmpty && mapping.isNone then
    throw (.typeError "not all arguments converted during string formatting")
  return t

end Scratchpad
