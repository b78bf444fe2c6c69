import Scratchpad.Text.Lines
import Scratchpad.Text.Quoted

/-!
# UTF-8

Bytes as text. A sequence that is not well formed is refused, with the bytes from its
start that are at fault.
-/

namespace Scratchpad

/-- Why bytes are not text. -/
inductive DecodeCause where
  /-- The first byte of a character cannot be one. -/
  | badStart
  /-- A later byte of a character cannot be one. -/
  | badContinuation
  /-- The bytes end within a character. -/
  | truncated
deriving DecidableEq, Repr

/-- Bytes that are not text: the first one, where it is, and how many they are. -/
structure DecodeFault where
  cause : DecodeCause
  first : UInt8
  position : Nat
  count : Nat
deriving DecidableEq, Repr

/-- Wording of a cause. -/
def DecodeCause.message : DecodeCause → String
  | .badStart => "invalid start byte"
  | .badContinuation => "invalid continuation byte"
  | .truncated => "unexpected end of data"

/-- Wording of a refusal. -/
def DecodeFault.message (f : DecodeFault) : String :=
  let what :=
    if f.count = 1 then
      s!"byte 0x{String.ofList (hexText 2 f.first.toNat)} in position {f.position}"
    else s!"bytes in position {f.position}-{f.position + f.count - 1}"
  s!"'utf-8' codec can't decode {what}: {f.cause.message}"

/-- The bytes that follow a first byte: how many, and the range of the next one. -/
structure Lead where
  /-- Bits of the code point in the first byte. -/
  bits : Nat
  more : Nat
  low : UInt8 := 0x80
  high : UInt8 := 0xBF

/-- What a first byte beyond ASCII announces. The range of the second byte leaves out
longer forms of short characters, surrogates, and what is beyond Unicode. -/
def leadOf? (b : UInt8) : Option Lead :=
  if 0xC2 ≤ b && b ≤ 0xDF then some { bits := b.toNat - 0xC0, more := 1 }
  else if b = 0xE0 then some { bits := 0, more := 2, low := 0xA0 }
  else if b = 0xED then some { bits := 0xD, more := 2, high := 0x9F }
  else if 0xE1 ≤ b && b ≤ 0xEF then some { bits := b.toNat - 0xE0, more := 2 }
  else if b = 0xF0 then some { bits := 0, more := 3, low := 0x90 }
  else if 0xF1 ≤ b && b ≤ 0xF3 then some { bits := b.toNat - 0xF0, more := 3 }
  else if b = 0xF4 then some { bits := 4, more := 3, high := 0x8F }
  else none

/-- The rest of a character: its code point and how many bytes it took, or the cause
of a fault and how many bytes are well formed. -/
def readTail (bits taken : Nat) : Nat → UInt8 → UInt8 → List UInt8 → Except (DecodeCause × Nat) Nat
  | 0, _, _, _ => .ok bits
  | _ + 1, _, _, [] => .error (.truncated, taken)
  | n + 1, low, high, b :: rest =>
    if low ≤ b && b ≤ high then
      readTail (bits * 64 + (b.toNat - 0x80)) (taken + 1) n 0x80 0xBF rest
    else .error (.badContinuation, taken)

/-- The characters of bytes from a position on. `skip` bytes belong to a character
that was read. -/
def decodeFrom (position skip : Nat) : List UInt8 → Except DecodeFault Text
  | [] => .ok []
  | b :: rest =>
    if skip > 0 then decodeFrom (position + 1) (skip - 1) rest
    else if b < 0x80 then return Char.ofNat b.toNat :: (← decodeFrom (position + 1) 0 rest)
    else match leadOf? b with
      | none => .error ⟨.badStart, b, position, 1⟩
      | some l =>
        match readTail l.bits 1 l.more l.low l.high rest with
        | .error (cause, count) => .error ⟨cause, b, position, count⟩
        | .ok n => return Char.ofNat n :: (← decodeFrom (position + 1) l.more rest)

/-- Bytes as text. -/
def decodeUtf8 (bytes : List UInt8) : Except DecodeFault Text := decodeFrom 0 0 bytes

end Scratchpad
