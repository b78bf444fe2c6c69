import Scratchpad.Decimal.Significant
import Scratchpad.Text.Width
import Scratchpad.Value.Arithmetic

/-!
# Fields

A field lays a text or a number out by a specification: fill, alignment, sign,
width, grouping of digits, precision and form.
-/

namespace Scratchpad

/-- A specification of a field. -/
structure Field where
  fill : Char := ' '
  /-- One of `<`, `>`, `^` and `=`. -/
  align : Option Char := none
  sign : Option Char := none
  /-- A negative zero loses its sign. -/
  positiveZero : Bool := false
  alternate : Bool := false
  /-- Zeros fill between the sign and the digits. -/
  zeroed : Bool := false
  width : Nat := 0
  grouping : Option Char := none
  precision : Option Nat := none
  form : Option Char := none
deriving Repr

/-- Result of laying something out. -/
abbrev Laid := Except Raised Text

namespace Field

/-! ## Reading a specification -/

/-- A character that says how a field is aligned. -/
def isAlign (c : Char) : Bool := c == '<' || c == '>' || c == '^' || c == '='

/-- Takes an optional character of a class off a text. -/
def takeChar (p : Char → Bool) : Text → Option Char × Text
  | c :: rest => if p c then (some c, rest) else (none, c :: rest)
  | [] => (none, [])

/-- Takes a decimal number off a text. -/
def takeNumber (t : Text) : Option Nat × Text :=
  let digits := t.takeWhile Char.isDigit
  if digits.isEmpty then (none, t)
  else (some (ofDigits 10 (digits.filterMap decimalValue?)), t.dropWhile Char.isDigit)

/-- Reads a specification for a value of some type. -/
def read (type : String) (spec : Text) : Except Raised Field := do
  let (fill, align, t) : Option Char × Option Char × Text := match spec with
    | f :: a :: rest =>
      -- any character may fill, so the second one is looked at first
      if isAlign a then (some f, some a, rest)
      else if isAlign f then (none, some f, a :: rest)
      else (none, none, spec)
    | [f] => if isAlign f then (none, some f, []) else (none, none, spec)
    | [] => (none, none, [])
  let (sign, t) := takeChar (fun c => c == ' ' || c == '+' || c == '-') t
  let (z, t) := takeChar (· == 'z') t
  let (hash, t) := takeChar (· == '#') t
  let (zero, t) := if fill.isNone then takeChar (· == '0') t else (none, t)
  let (width, t) := takeNumber t
  let (comma, t) := takeChar (· == ',') t
  let (underscore, t) := takeChar (· == '_') t
  if comma.isSome && underscore.isSome then throw (.valueError "Cannot specify both ',' and '_'.")
  let (precision, t) ← match t with
    | '.' :: rest =>
      match takeNumber rest with
      | (some n, rest) => pure (some n, rest)
      | (none, _) => throw (.valueError "Format specifier missing precision")
    | _ => pure (none, t)
  match t with
  | _ :: _ :: _ =>
    throw (.valueError <|
      s!"Invalid format specifier '{String.ofList spec}' for object of type '{type}'")
  | _ =>
    return {
      fill := fill.getD (if zero.isSome then '0' else ' ')
      align, sign
      positiveZero := z.isSome
      alternate := hash.isSome
      zeroed := zero.isSome
      width := width.getD 0
      grouping := comma.orElse fun _ => underscore
      precision
      form := t.head? }

/-! ## Laying out -/

/-- Fills a text up to the width. -/
def pad (f : Field) (default : Char) (sign body : Text) : Text :=
  match f.align.getD (if f.zeroed && default == '>' then '=' else default) with
  | '<' => fillRight f.fill f.width (sign ++ body)
  | '^' =>
    let missing := shortfall f.width (sign ++ body)
    List.replicate (missing / 2) f.fill ++ sign ++ body ++
      List.replicate (missing - missing / 2) f.fill
  | '=' => sign ++ fillLeft f.fill (f.width - sign.length) body
  | _ => fillLeft f.fill f.width (sign ++ body)

/-- Separates digits into groups, counted from the right. -/
def groupDigits (separator : Char) (size : Nat) (digits : Text) : Text :=
  (go 0 digits.reverse).reverse
where
  /-- `count` digits of the current group have been placed. -/
  go (count : Nat) : Text → Text
    | [] => []
    | c :: rest =>
      if count = size then separator :: c :: go 1 rest else c :: go (count + 1) rest

/-- Groups digits that zeros may extend up to a width. -/
def groupWide (separator : Char) (size width : Nat) (digits : Text) : Text :=
  -- `n` digits take `n` places and one more for each full group in front
  let wanted := (List.range (width + 1)).find? fun n => n + (n - 1) / size ≥ width
  groupDigits separator size (fillLeft '0' (wanted.getD 0) digits)

/-- The sign that a number shows. -/
def signText (f : Field) (negative : Bool) : Text :=
  if negative then ['-']
  else match f.sign with
    | some '+' => ['+']
    | some ' ' => [' ']
    | _ => []

/-- Lays a number out: sign and mark, whole digits, and the rest. -/
def layNumber (f : Field) (size : Nat) (negative : Bool) (mark whole rest : Text) : Text :=
  let front := f.signText negative ++ mark
  let body := match f.grouping with
    | some s =>
      let inner := f.width - (front.length + rest.length)
      let filled := f.fill == '0' && (f.align == some '=' || (f.align.isNone && f.zeroed))
      groupWide s size (if filled then inner else 0) whole
    | none => whole
  f.pad '>' front (body ++ rest)

/-- Lays a text out. -/
def layText (f : Field) (t : Text) : Laid := do
  let forbid (b : Bool) (message : String) : Except Raised Unit :=
    if b then throw (.valueError message) else return
  if f.form != none && f.form != some 's' then
    let form := f.form.getD ' '
    throw (.valueError s!"Unknown format code '{form}' for object of type 'str'")
  let grouping := f.grouping.getD ','
  forbid f.grouping.isSome s!"Cannot specify '{grouping}' with 's'."
  forbid (f.sign == some ' ') "Space not allowed in string format specifier"
  forbid f.sign.isSome "Sign not allowed in string format specifier"
  forbid f.positiveZero "Negative zero coercion (z) not allowed in string format specifier"
  forbid f.alternate "Alternate form (#) not allowed in string format specifier"
  forbid (f.align == some '=') "'=' alignment not allowed in string format specifier"
  return f.pad '<' [] (match f.precision with
    | some n => t.take n
    | none => t)

/-- Lays a floating-point number out. -/
def layFloat (f : Field) (x : Float) : Laid := do
  let form := f.form.getD ' '
  unless [' ', 'e', 'E', 'f', 'F', 'g', 'G', 'n', '%'].contains form do
    throw (.valueError s!"Unknown format code '{form}' for object of type 'float'")
  let places := f.precision.getD 6
  let y := (if form == '%' then x * 100 else x).abs
  let text : Text :=
    if y.isNaN then "nan".toList
    else if y.isInf then "inf".toList
    else match form with
      | 'e' | 'E' => scientificText places y
      | 'f' | 'F' => fixedText places y
      | '%' => fixedText places y
      | ' ' => match f.precision with
        -- without a form the shortest text is taken, and it always shows that it is no integer
        | none => floatText y
        | some n =>
          let t := significantText (max n 1) (max n 1 - 1 : Nat) f.alternate y
          if t.contains '.' || t.contains 'e' then t else t ++ ".0".toList
      | _ => significantText (max places 1) (max places 1 : Nat) f.alternate y
  let text := if form == 'E' || form == 'F' || form == 'G' then text.map Char.toUpper else text
  let text := if form == '%' then text ++ ['%'] else text
  let isZero := text.all fun c => !c.isDigit || c == '0'
  -- what was rounded to zero may still have a sign
  let negative := isNegativeFloat x && !x.isNaN && !(f.positiveZero && isZero)
  return f.layNumber 3 negative [] (text.takeWhile Char.isDigit) (text.dropWhile Char.isDigit)

/-- Lays an integer out. -/
def layInt (f : Field) (n : Int) : Laid := do
  let form := f.form.getD 'd'
  if ['e', 'E', 'f', 'F', 'g', 'G', '%'].contains form then f.layFloat (← finiteFloat n)
  else
    unless ['d', 'n', 'b', 'o', 'x', 'X', 'c'].contains form do
      throw (.valueError s!"Unknown format code '{form}' for object of type 'int'")
    if f.precision.isSome then
      throw (.valueError "Precision not allowed in integer format specifier")
    if form == 'c' then
      if f.sign.isSome then
        throw (.valueError "Sign not allowed with integer format specifier 'c'")
      if n < 0 || n ≥ 0x110000 then
        throw (.of "OverflowError" "%c arg not in range(0x110000)")
      return f.pad '<' [] [Char.ofNat n.toNat]
    else
      let (base, mark, size) : Nat × Text × Nat := match form with
        | 'b' => (2, ['0', 'b'], 4)
        | 'o' => (8, ['0', 'o'], 4)
        | 'x' => (16, ['0', 'x'], 4)
        | 'X' => (16, ['0', 'X'], 4)
        | _ => (10, [], 3)
      -- other bases than ten have no limit
      if base = 10 && exceedsDigits n.natAbs then throw .tooManyDigits
      if base ≠ 10 && f.grouping == some ',' then
        throw (.valueError s!"Cannot specify ',' with '{form}'.")
      let digits := if base = 10 then integerText n.natAbs else Nat.toDigits base n.natAbs
      let digits := if form == 'X' then digits.map Char.toUpper else digits
      return f.layNumber size (n < 0) (if f.alternate then mark else []) digits []

end Field

end Scratchpad
