import Scratchpad.Decimal.Power
import Scratchpad.Text.Blank
import Scratchpad.Text.Digit
import Scratchpad.Text.Lines

/-!
# Integers as texts

An integer text has an optional sign and digits of one base; a single
underscore may stand between two digits. Decimal digits of any script count.
Texts of more than 4300 digits are refused in both directions unless the base is
a power of two.
-/

namespace Scratchpad

/-- The largest number of decimal digits that is read or written. -/
def maxDigits : Nat := 4300

/-- The value of a digit in a base up to 36. -/
def digitValue? (base : Nat) (c : Char) : Option Nat :=
  let value? :=
    match decimalValue? c with
    | some v => some v
    | none =>
      if 'a' ≤ c && c ≤ 'z' then some (c.toNat - 87)
      else if 'A' ≤ c && c ≤ 'Z' then some (c.toNat - 55)
      else none
  value?.filter (· < base)

/-- Why an integer text is refused. -/
inductive IntegerFault where
  | malformed
  | tooLong (digits : Nat)
deriving DecidableEq, Repr

/-- The digits of a text with single underscores between them. -/
def digitValues? (base : Nat) : Text → Option (List Nat)
  | [] => some []
  | '_' :: rest =>
    match rest with
    | d :: more => do
      let v ← digitValue? base d
      let vs ← digitValues? base more
      some (v :: vs)
    | [] => none
  | d :: rest => do
    let v ← digitValue? base d
    let vs ← digitValues? base rest
    some (v :: vs)

/-- The number that a list of digits stands for. -/
def ofDigits (base : Nat) (digits : List Nat) : Nat :=
  digits.foldl (fun n d => n * base + d) 0

/-- The digits of an unsigned text; the first character must be a digit. -/
def unsignedDigits? (base : Nat) : Text → Option (List Nat)
  | [] => none
  | '_' :: _ => none
  | t => digitValues? base t

/-- The digits behind a base mark such as `0x`; one underscore may follow it. -/
def markedDigits? (base : Nat) : Text → Option (List Nat)
  | '_' :: rest => unsignedDigits? base rest
  | rest => unsignedDigits? base rest

/-- The base that a mark such as `0x` announces, and the rest of the text. -/
def baseMark? : Text → Option (Nat × Text)
  | '0' :: c :: rest =>
    if c = 'x' || c = 'X' then some (16, rest)
    else if c = 'o' || c = 'O' then some (8, rest)
    else if c = 'b' || c = 'B' then some (2, rest)
    else none
  | _ => none

/-- Reads an integer text without blanks around it. Base 0 means the base that
the text itself announces. -/
def readInteger (base : Nat) (t : Text) : Except IntegerFault Int := do
  let (negative, t) : Bool × Text := match t with
    | '-' :: rest => (true, rest)
    | '+' :: rest => (false, rest)
    | _ => (false, t)
  let (base, digits?) : Nat × Option (List Nat) := match baseMark? t with
    | some (marked, rest) =>
      if base = 0 || base = marked then (marked, markedDigits? marked rest)
      else (base, unsignedDigits? base t)
    | none =>
      if base = 0 then
        -- without a mark a leading zero is allowed in zero only
        let digits? := unsignedDigits? 10 t
        let zeroLed := t.head? = some '0'
        (10, digits?.filter fun ds => !zeroLed || ds.all (· == 0))
      else (base, unsignedDigits? base t)
  match digits? with
  | none => throw .malformed
  | some digits =>
    let powerOfTwo := base == 2 || base == 4 || base == 8 || base == 16 || base == 32
    if !powerOfTwo && digits.length > maxDigits then throw (.tooLong digits.length)
    let n := ofDigits base digits
    return if negative then -(n : Int) else n

/-- Decimal text of an integer of any size. -/
def integerText (n : Int) : Text := (toString n).toList

/-- Whether the decimal text of a number has more than `maxDigits` digits. -/
def exceedsDigits (n : Nat) : Bool := n ≥ tenTo maxDigits

/-- Text of a number in a base up to 16, with the mark of the base. -/
def markedText (mark : Char) (base : Nat) (n : Int) : Text :=
  let body := '0' :: mark :: Nat.toDigits base n.natAbs
  if n < 0 then '-' :: body else body

end Scratchpad
