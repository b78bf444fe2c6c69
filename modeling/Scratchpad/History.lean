import Scratchpad.Text.Lines

/-!
# History of committed snippets

Entries are kept in the order of their commits and never removed. A position
tells which entry is shown; the number of entries means that none is. Walking
stops at the first and at the last entry.
-/

namespace Scratchpad

/-- The log of snippets and the position in it. -/
structure History where
  entries : List Text := []
  pos : Nat := 0
deriving DecidableEq, Repr

namespace History

/-- A log that shows none of its entries. -/
def ofEntries (entries : List Text) : History := ⟨entries, entries.length⟩

/-- Whether an entry is shown. -/
def browsing (h : History) : Bool := h.pos < h.entries.length

/-- Appends a snippet and shows none. -/
def record (h : History) (snippet : Text) : History := ofEntries (h.entries ++ [snippet])

/-- The entry shown, or the empty text. -/
def current (h : History) : Text := h.entries[h.pos]?.getD []

/-- Number of buffer lines that the shown entry takes. -/
def linesToErase (h : History) : Nat := h.current.count '\n' + 1

/-- Moves to the entry before. -/
def prev? (h : History) : Option (Text × History) :=
  if h.pos = 0 then none
  else
    let h := { h with pos := h.pos - 1 }
    some (h.current, h)

/-- Moves to the entry after; the position behind the last one is not reached. -/
def next? (h : History) : Option (Text × History) :=
  if h.entries.length ≤ h.pos + 1 then none
  else
    let h := { h with pos := h.pos + 1 }
    some (h.current, h)

end History

end Scratchpad
