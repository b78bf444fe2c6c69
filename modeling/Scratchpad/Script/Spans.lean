/-!
# Line spans

The lines of consecutive statements, merged where two statements share a line.
-/

namespace Scratchpad

/-- A range of lines, counted from one, both ends included. -/
structure Span where
  first : Nat
  last : Nat
deriving DecidableEq, Repr

namespace Span

/-- Extends a span over another one. -/
def extend (a b : Span) : Span := ⟨a.first, max a.last b.last⟩

/-- Adds spans in source order to a span that is still open. A span that begins
on or before the open one's last line joins it. -/
def mergeFrom (open_ : Span) : List Span → List Span
  | [] => [open_]
  | s :: rest =>
    if s.first ≤ open_.last then mergeFrom (open_.extend s) rest
    else open_ :: mergeFrom s rest

/-- Spans in source order, merged where they share a line. -/
def merge : List Span → List Span
  | [] => []
  | s :: rest => mergeFrom s rest

end Span

end Scratchpad
