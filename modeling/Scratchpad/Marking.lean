import Scratchpad.Text.Order

/-!
# Marked blocks and mapping layouts

Every line of output starts with the result marker, so that it can be told from
input. A mapping is shown as its entries `k = v` in order of their texts, on one
line if that line is short enough and one entry per line otherwise.
-/

namespace Scratchpad

/-- What an output line starts with. -/
def marker : Text := "--> ".toList

/-- Repeats `mark` behind every line break; a carriage return before a line feed
belongs to the break. -/
def markBreaks (mark : Text) : Text → Text
  | [] => []
  | '\r' :: '\n' :: rest => '\r' :: '\n' :: (mark ++ markBreaks mark rest)
  | '\n' :: rest => '\n' :: (mark ++ markBreaks mark rest)
  | c :: rest => c :: markBreaks mark rest

/-- A block with `mark` at the start of every line. -/
def markLines (mark : Text) (t : Text) : Text := mark ++ markBreaks mark t

/-! ## Mappings -/

/-- The texts of a key and its value. -/
abbrev Entry := Text × Text

/-- Order of entries: by the key's text, then by the value's. -/
def Entry.le (a b : Entry) : Bool :=
  !textLe b.1 a.1 || (a.1 == b.1 && textLe a.2 b.2)

/-- An entry as it is shown. -/
def Entry.text (e : Entry) : Text := e.1 ++ " = ".toList ++ e.2

/-- Shown entries in their order. -/
def entryTexts (entries : List Entry) : List Text :=
  (entries.mergeSort Entry.le).map Entry.text

/-- The layout on one line. -/
def inlineLayout (items : List Text) : Text :=
  '{' :: unlines ", ".toList items ++ ['}']

/-- The layout with one entry per line. -/
def wrappedLayout (indent : Nat) (items : List Text) : Text :=
  let pad := List.replicate indent ' '
  ['{', '\n'] ++ pad ++ unlines (",\n".toList ++ pad) items ++ ['\n', '}']

/-- Lays out a mapping. It is wrapped if it has entries, a positive edge column
is given and the single line is longer. -/
def layoutEntries (edge indent : Int) (entries : List Entry) : Text :=
  let items := entryTexts entries
  let single := inlineLayout items
  if !items.isEmpty && edge > 0 && (single.length : Int) > edge then
    wrappedLayout indent.toNat items
  else single

end Scratchpad
