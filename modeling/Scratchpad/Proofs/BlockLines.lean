import Scratchpad.Proofs.Marks

/-!
# Reading a block back

Marking goes through a text break by break, and a carriage return before a line feed belongs
to the break; any other one is an ordinary character. Seen line by line all of this is the
same: each line gets the marker in front, carriage returns stay where they are. Hence the
text can be read back from the block, and marking distributes over line feeds.

* `unmarkLines_markLines` — taking the marker off each line gives the text back;
* `markLines_append` — the parts before and behind a line feed are marked on their own;
* `block_lines_reversible` — the block of an outcome.
-/

namespace Scratchpad

/-- A text without the start of each line that a marker takes. -/
def unmarkLines (t : Text) : Text := unlines ['\n'] ((lines t).map (·.drop marker.length))

/-- Texts with the same lines are the same. -/
theorem lines_injective : Function.Injective lines := by
  intro s t h
  rw [← unlines_lines s, h, unlines_lines]

theorem unmarkLines_markLines (t : Text) : unmarkLines (markLines marker t) = t := by
  have hdrop : ((·.drop marker.length) ∘ (marker ++ ·) : Text → Text) = id :=
    funext fun _ => List.drop_left
  rw [unmarkLines, lines_markLines, List.map_map, hdrop, List.map_id, unlines_lines]

/-- A line feed divides what is marked, also behind a carriage return. -/
theorem markLines_append (a b : Text) :
    markLines marker (a ++ '\n' :: b) = markLines marker a ++ '\n' :: markLines marker b := by
  apply lines_injective
  rw [lines_markLines, lines_append, lines_append, lines_markLines, lines_markLines,
    List.map_append]

/-- The text that an outcome shows, before it is marked. -/
inductive World.Renders (w : World) (edge indent : Int) : Outcome → Text → Prop where
  | value {v : Value} {t : Text} (h : w.resultText edge indent v = .ok t) :
    w.Renders edge indent (.value v) t
  | error (t : Text) : w.Renders edge indent (.error t) t

theorem World.Renders.outcomeBlock {w : World} {edge indent : Int} {o : Outcome} {t : Text}
    (h : w.Renders edge indent o t) :
    w.outcomeBlock edge indent o = .ok (some (markLines marker t)) := by
  cases h with
  | value h =>
    rw [World.outcomeBlock, h]
    rfl
  | error => exact outcomeBlock_error ..

/-- The lines of a block are the lines of what is shown, each behind the marker, and without
the markers they are that text again. Marking goes line by line, so texts that differ are
marked differently, even if they hold markers themselves. -/
theorem block_lines_reversible :
    (∀ (w : World) (edge indent : Int) (o : Outcome) (t : Text), w.Renders edge indent o t →
      ∃ block, w.outcomeBlock edge indent o = .ok (some block) ∧
        lines block = (lines t).map (marker ++ ·) ∧ unmarkLines block = t) ∧
    (∀ a b : Text,
      markLines marker (a ++ '\n' :: b) = markLines marker a ++ '\n' :: markLines marker b) ∧
    Function.Injective (markLines marker) := by
  refine ⟨?_, markLines_append, Function.LeftInverse.injective unmarkLines_markLines⟩
  intro w edge indent o t h
  exact ⟨markLines marker t, h.outcomeBlock, lines_markLines t, unmarkLines_markLines t⟩

/-- A block with all kinds of breaks, the last of them behind a marker of its own. -/
theorem block_lines_reversible_sample :
    { names := ⟨{}, {}⟩ : World }.Renders 0 4 (.value (.ofString "a\r\nb\r\r\nc\rd\n--> "))
      "a\r\nb\r\r\nc\rd\n--> ".toList ∧
    ∃ block, { names := ⟨{}, {}⟩ : World }.outcomeBlock 0 4
        (.value (.ofString "a\r\nb\r\r\nc\rd\n--> ")) = .ok (some block) ∧
      lines block = ["--> a\r".toList, "--> b\r\r".toList, "--> c\rd".toList,
        "--> --> ".toList] ∧
      unmarkLines block = "a\r\nb\r\r\nc\rd\n--> ".toList := by
  have h : { names := ⟨{}, {}⟩ : World }.Renders 0 4
      (.value (.ofString "a\r\nb\r\r\nc\rd\n--> ")) "a\r\nb\r\r\nc\rd\n--> ".toList := .value rfl
  obtain ⟨block, hblock, hlines, hback⟩ := block_lines_reversible.1 _ _ _ _ _ h
  exact ⟨h, block, hblock, hlines.trans (by decide), hback⟩

end Scratchpad
