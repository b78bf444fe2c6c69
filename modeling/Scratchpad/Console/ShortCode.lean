import Scratchpad.Console.PictureTable
import Scratchpad.Decimal.Integer
import Scratchpad.Text.Letter
import Scratchpad.Text.Search

/-!
# Short codes in printed text

A name between colons is printed as the picture that it stands for, in the form that
a suffix of the name asks for. A name that stands for nothing is printed as it is,
colons included. Names hold no blanks, and their case does not count.
-/

namespace Scratchpad.Console

/-- A picture and its names, each with whether further names are made from it. -/
structure Picture where
  text : Text
  names : List (Text × Bool)

/-- The character of a hexadecimal code point. -/
def charOfHex (t : Text) : Char :=
  Char.ofNat (((digitValues? 16 t).map (ofDigits 16)).getD 0)

/-- Reads a name of an entry. -/
def readName (t : Text) : Text × Bool :=
  if t.getLast? = some '+' then (t.dropLast, true) else (t, false)

/-- Reads an entry of the table. -/
def Picture.ofEntry (t : Text) : Picture :=
  let (codes, names) := (cutText ['='] t).getD ([], [])
  { text := (splitText ['-'] codes.length codes).map charOfHex
    names := (splitText [','] names.length names).map readName }

/-- The tones of skin, lightest first. -/
def skinTones : List (String × Char) :=
  [("light", Char.ofNat 0x1F3FB), ("medium-light", Char.ofNat 0x1F3FC),
   ("medium", Char.ofNat 0x1F3FD), ("medium-dark", Char.ofNat 0x1F3FE),
   ("dark", Char.ofNat 0x1F3FF)]

/-- Whether a character is one of the letters that make up flags. -/
def isFlagLetter (c : Char) : Bool := 0x1F1E6 ≤ c.toNat && c.toNat ≤ 0x1F1FF

/-- A picture with a tone behind its first character, whose selector is dropped. -/
def toned (tone : Char) : Text → Text
  | c :: d :: rest => if d.toNat = 0xFE0F then c :: tone :: rest else c :: tone :: d :: rest
  | t => t ++ [tone]

/-- What is made from a name: of a flag the name as a flag, of any other picture the
name with each tone of skin. -/
def Picture.variants (p : Picture) (name : Text) : List (Text × Text) :=
  if p.text.all isFlagLetter then [("flag_for_".toList ++ name, p.text)]
  else skinTones.map fun (t, c) =>
    (name ++ '_' :: t.toList ++ "_skin_tone".toList, toned c p.text)

/-- The text for a name, if the picture goes by it. -/
def Picture.find? (p : Picture) (name : Text) : Option Text :=
  p.names.findSome? fun (n, more) =>
    if n == name then some p.text
    else if more then (p.variants n).lookup name
    else none

/-- The picture of a name. -/
def picture? (name : Text) : Option Text :=
  if name.isEmpty then none
  else pictureTables.findSome? fun table =>
    let t := table.toList
    (splitText [' '] t.length t).findSome? fun entry => (Picture.ofEntry entry).find? name

/-! ## Codes in a text -/

/-- A short code without its first colon, and the text behind it. -/
structure Code where
  name : Text
  /-- What the suffix adds to the picture. -/
  form : Text := []
  /-- The code as it stands, without the first colon. -/
  written : Text
  rest : Text

/-- The suffixes that ask for a form of the picture, with their colons. -/
def formSuffixes : List (Text × Char) :=
  [("-emoji:".toList, Char.ofNat 0xFE0F), ("-text:".toList, Char.ofNat 0xFE0E)]

/-- Reads a code behind its first colon; `name` is what was read, last character
first. -/
def readCode (name : Text) : Text → Option Code
  | [] => none
  | c :: t =>
    match formSuffixes.find? fun (s, _) => s.isPrefixOf (c :: t) with
    | some (s, form) =>
      some { name := name.reverse, form := [form], written := name.reverse ++ s,
             rest := (c :: t).drop s.length }
    | none =>
      if c = ':' then some { name := name.reverse, written := name.reverse ++ [':'], rest := t }
      else if isBlank c then none
      else readCode (c :: name) t

/-- What a code is printed as. -/
def Code.text (k : Code) : Text :=
  match picture? (lowerText k.name) with
  | some p => p ++ k.form
  | none => ':' :: k.written

/-- Puts pictures in the place of their codes. `skip` characters belong to a code that
was printed. -/
def picturesFrom (skip : Nat) : Text → Text
  | [] => []
  | c :: rest =>
    if skip > 0 then picturesFrom (skip - 1) rest
    else if c = ':' then
      match readCode [] rest with
      | some k => k.text ++ picturesFrom k.written.length rest
      | none => c :: picturesFrom 0 rest
    else c :: picturesFrom 0 rest

/-- A text with pictures in the place of their codes. -/
def withPictures (t : Text) : Text := picturesFrom 0 t

end Scratchpad.Console
