import Scratchpad.Decimal.Integer
import Scratchpad.Syntax.Fault
import Scratchpad.Syntax.Token

/-!
# String literals

What the text between the quotes of a string or bytes literal stands for. A
backslash that starts no known escape stands for itself.
-/

namespace Scratchpad

/-- Letters behind a backslash that stand for one character. -/
def simpleEscape? (c : Char) : Option Char :=
  match c with
  | '\\' => some '\\'
  | '\'' => some '\''
  | '"' => some '"'
  | 'a' => some '\x07'
  | 'b' => some '\x08'
  | 'f' => some '\x0c'
  | 'n' => some '\n'
  | 'r' => some '\r'
  | 't' => some '\t'
  | 'v' => some '\x0b'
  | _ => none

/-- Letters that start an escape by number, with the count of digits and the name
of the escape. -/
def numberEscape? (c : Char) : Option (Nat × String) :=
  match c with
  | 'x' => some (2, "\\xXX")
  | 'u' => some (4, "\\uXXXX")
  | 'U' => some (8, "\\UXXXXXXXX")
  | _ => none

/-- Width of a character in the form in which escapes are counted. -/
def escapedWidth (c : Char) : Nat := if c.toNat < 128 then 1 else 10

/-- Replaces the escapes of a text; `at_` is where the rest begins. -/
def unescapeText (fuel : Nat) (at_ : Nat) (t : Text) : Except Cause Text :=
  match fuel, t with
  | 0, _ => .ok []
  | _ + 1, [] => .ok []
  | fuel + 1, '\\' :: c :: rest => do
    if c = '\n' then unescapeText fuel (at_ + 2) rest
    else if let some d := simpleEscape? c then
      return d :: (← unescapeText fuel (at_ + 2) rest)
    else if '0' ≤ c && c ≤ '7' then
      let digits := ((c :: rest).take 3).takeWhile fun d => '0' ≤ d && d ≤ '7'
      let n := ofDigits 8 (digits.map fun d => d.toNat - 48)
      let tail := (c :: rest).drop digits.length
      return Char.ofNat n :: (← unescapeText fuel (at_ + 1 + digits.length) tail)
    else if let some (width, form) := numberEscape? c then
      let digits := (rest.take width).takeWhile fun d => (digitValue? 16 d).isSome && d.toNat < 128
      let stop := at_ + 1 + digits.length
      if digits.length < width then throw (.badEscape at_ stop s!"truncated {form} escape")
      let n := ofDigits 16 (digits.filterMap (digitValue? 16))
      if n > 0x10FFFF then throw (.badEscape at_ stop "illegal Unicode character")
      -- half of a surrogate pair is no character
      let d := if 0xD800 ≤ n && n < 0xE000 then Char.ofNat 0xFFFD else Char.ofNat n
      return d :: (← unescapeText fuel (stop + 1) (rest.drop width))
    else if c = 'N' then
      match rest with
      | '\x7b' :: more =>
        let name := more.takeWhile (· != '\x7d')
        if name.isEmpty || name.length = more.length then
          throw (.badEscape at_ (at_ + 2 + name.length) "malformed \\N character escape")
        throw (.badEscape at_ (at_ + 3 + name.length) "unknown Unicode character name")
      | _ => throw (.badEscape at_ (at_ + 1) "malformed \\N character escape")
    else
      return '\\' :: c :: (← unescapeText fuel (at_ + 1 + escapedWidth c) rest)
  | fuel + 1, c :: rest => do
    return c :: (← unescapeText fuel (at_ + escapedWidth c) rest)

/-- The text that the body of a string literal stands for. -/
def decodeText (isRaw : Bool) (body : Text) : Except Cause Text :=
  if isRaw then .ok body else unescapeText body.length 0 body

/-- Replaces the escapes of a byte string; `at_` is where the rest begins. -/
def unescapeBytes (fuel : Nat) (at_ : Nat) (t : Text) : Except Cause (List UInt8) :=
  match fuel, t with
  | 0, _ => .ok []
  | _ + 1, [] => .ok []
  | fuel + 1, '\\' :: c :: rest => do
    if c = '\n' then unescapeBytes fuel (at_ + 2) rest
    else if let some d := simpleEscape? c then
      return d.toNat.toUInt8 :: (← unescapeBytes fuel (at_ + 2) rest)
    else if '0' ≤ c && c ≤ '7' then
      let digits := ((c :: rest).take 3).takeWhile fun d => '0' ≤ d && d ≤ '7'
      let n := ofDigits 8 (digits.map fun d => d.toNat - 48)
      let tail := (c :: rest).drop digits.length
      return n.toUInt8 :: (← unescapeBytes fuel (at_ + 1 + digits.length) tail)
    else if c = 'x' then
      let digits := (rest.take 2).takeWhile fun d => (digitValue? 16 d).isSome
      if digits.length < 2 then throw (.badByteEscape at_)
      let n := ofDigits 16 (digits.filterMap (digitValue? 16))
      return n.toUInt8 :: (← unescapeBytes fuel (at_ + 4) (rest.drop 2))
    else
      return 92 :: c.toNat.toUInt8 :: (← unescapeBytes fuel (at_ + 2) rest)
  | fuel + 1, c :: rest => do
    return c.toNat.toUInt8 :: (← unescapeBytes fuel (at_ + 1) rest)

/-- The bytes that the body of a bytes literal stands for. -/
def decodeBytes (isRaw : Bool) (body : Text) : Except Cause (List UInt8) :=
  if body.any (·.toNat ≥ 128) then .error .bytesNotAscii
  else if isRaw then .ok (body.map fun c => c.toNat.toUInt8)
  else unescapeBytes body.length 0 body

end Scratchpad
