import Scratchpad.Script.Spans
import Scratchpad.Syntax.Compile

/-!
# Splitting a script

A script is cut into snippets, one per statement of its top level; statements
that share a line stay together. A definition begins at its first decorator. The
text of a snippet is taken from the lines of a listing, while statements count
the lines of source code.
-/

namespace Scratchpad

/-- The lines of a statement, its decorators included. -/
def Located.span (s : Located) : Span :=
  ⟨(s.stmt.decorators.map (·.1)).foldl min s.first, s.last⟩

/-- The lines of a span, joined. -/
def Span.text (all : List Text) (s : Span) : Text :=
  unlines ['\n'] ((all.take s.last).drop (s.first - 1))

/-- The snippets of a parsed script. -/
def snippetsOf (source : Text) (b : Block) : List Text :=
  let all := wideLines source
  (Span.merge (b.map Located.span)).map (Span.text all)

/-- The snippets of a script. -/
def splitScript (source : Text) : Except SourceFault (List Text) :=
  (Source.module source).map (snippetsOf source)

end Scratchpad
