import Scratchpad.Proofs.CommitSteps
import Scratchpad.Proofs.Edit

/-!
# Output at the cursor

Everything that a commit writes is inserted at the cursor, and what is written depends
on the text before the cursor only in whether that text opens a line. A buffer is
therefore seen as the two texts around its cursor, `Buffer.between before after`, and
every step of the output extends `before`.

* `printAll_between` — any number of prints amounts to one insertion;
* `writeBlock_between` — so does the block of an outcome, and it leaves a line open;
* `openBelow_eq` — the line for the output is opened at the end of a line;
* `sessionPrint_printsOnly` — the session's print without a file is such a print.
-/

namespace Scratchpad

namespace Buffer

/-- A buffer with nothing but two texts and the cursor between them. -/
def between (before after : Text) : Buffer :=
  { text := before ++ after, cursor := before.length }

variable {before after : Text}

theorem before_between : (between before after).before = before := List.take_left

theorem after_between : (between before after).after = after := List.drop_left

/-! ## The start of a line -/

theorem col_eq_zero_iff {b : Buffer} (h : b.cursor ≤ b.text.length) :
    b.col = 0 ↔ OpensLine b.before := by
  obtain ⟨before, line, after, k, hat⟩ := exists_at h
  rw [hat.col_eq, hat.before_eq, opensLine_append]
  constructor
  · rintro rfl
    exact ⟨opensLine_nil, fun _ => hat.cut.opens⟩
  · rintro ⟨hopens, -⟩
    -- a line has no break inside, so that the text before the cursor ends where the line begins
    have hnone : '\n' ∉ line.take k := fun hm => hat.cut.single (List.mem_of_mem_take hm)
    rcases opensLine_iff.mp hopens with hnil | ⟨t, ht⟩
    · have hlen := congrArg List.length hnil
      rw [List.length_take, Nat.min_eq_left hat.within] at hlen
      exact hlen
    · rw [ht] at hnone
      simp at hnone

theorem col_between : (between before after).col = 0 ↔ OpensLine before := by
  rw [col_eq_zero_iff, before_between]
  simp [between]

/-- Between whole lines the cursor is alone on its line. -/
theorem currentLine_between (hb : OpensLine before) (ha : ClosesLine after) :
    (between before after).currentLine = [] := by
  have hat : (between before after).At before [] after 0 :=
    ⟨⟨hb, ha, List.not_mem_nil⟩, by simp [between], rfl, Nat.le_refl _⟩
  exact hat.currentLine_eq

/-! ## Insertions -/

theorem insert_between (t : Text) :
    (between before after).insert t = between (before ++ t) after := by
  by_cases ht : t = []
  · rw [ht, insert_nil, List.append_nil]
  · rw [insert_of_ne_nil _ ht, before_between, after_between]
    simp [between]

theorem newline_between : (between before after).newline = between (before ++ ['\n']) after :=
  insert_between _

/-- What a chunk adds behind a text: the marker stands where a line starts. -/
def printed (before chunk : Text) : Text :=
  if OpensLine before then marker ++ chunk else chunk

/-- Inserting a text and breaking the line, or only inserting it, is one insertion. -/
theorem printChunk_between (chunk : Text) :
    (between before after).printChunk chunk =
      between (before ++ printed before chunk) after := by
  -- nothing is inserted for an empty text, which comes to the same
  have hadd : ∀ t : Text, (if t.isEmpty then between before after
      else (between before after).insert t) = between (before ++ t) after := by
    intro t
    by_cases ht : t = []
    · simp [ht]
    · simp [ht, insert_between]
  have ht : (if (between before after).col = 0 then marker ++ chunk else chunk) =
      printed before chunk := by
    simp only [printed, col_between]
  simp only [printChunk, ht]
  split
  next hlast =>
    -- the last line feed is inserted as a new line
    obtain ⟨body, hbody⟩ := List.getLast?_eq_some_iff.mp hlast
    rw [hadd, newline_between, hbody]
    simp
  next => exact hadd _

/-- Prints chunks in order. -/
def printAll (b : Buffer) (chunks : List Text) : Buffer := chunks.foldl printChunk b

@[simp] theorem printAll_nil (b : Buffer) : b.printAll [] = b := rfl

theorem printAll_cons (b : Buffer) (chunk : Text) (chunks : List Text) :
    b.printAll (chunk :: chunks) = (b.printChunk chunk).printAll chunks := rfl

theorem printAll_append (b : Buffer) (first second : List Text) :
    b.printAll (first ++ second) = (b.printAll first).printAll second := List.foldl_append

/-- Prints only extend the text before the cursor. -/
theorem printAll_between (chunks : List Text) (before after : Text) :
    ∃ out, (between before after).printAll chunks = between (before ++ out) after := by
  induction chunks generalizing before with
  | nil => exact ⟨[], by simp⟩
  | cons chunk chunks ih =>
    obtain ⟨out, hout⟩ := ih (before ++ printed before chunk)
    refine ⟨printed before chunk ++ out, ?_⟩
    rw [printAll_cons, printChunk_between, hout, List.append_assoc]

/-! ## The block of an outcome -/

/-- A line that is still open is ended, and no empty one is made. -/
theorem closeLine_between (before after : Text) :
    ∃ out, (between before after).closeLine = between (before ++ out) after ∧
      OpensLine (before ++ out) := by
  by_cases hopens : OpensLine before
  · refine ⟨[], ?_, by simpa using hopens⟩
    have hcol : (between before after).col = 0 := col_between.mpr hopens
    simp [closeLine, hcol]
  · refine ⟨['\n'], ?_, opensLine_concat before⟩
    have hcol : (between before after).col ≠ 0 := mt col_between.mp hopens
    rw [closeLine, if_pos (Nat.pos_of_ne_zero hcol), newline_between]

theorem insertBlock_between (block? : Option Text) (after : Text) (h : OpensLine before) :
    ∃ out, (between before after).insertBlock block? = between (before ++ out) after ∧
      OpensLine (before ++ out) := by
  cases block? with
  | none => exact ⟨[], by simp [insertBlock], by simpa using h⟩
  | some t =>
    refine ⟨t ++ ['\n'], ?_, ?_⟩
    · simp only [insertBlock]
      rw [insert_between, newline_between, List.append_assoc]
    · rw [← List.append_assoc]
      exact opensLine_concat _

/-- A block ends a line that is still open, and leaves an empty one. -/
theorem writeBlock_between (block? : Option Text) (before after : Text) :
    ∃ out, (between before after).writeBlock block? = between (before ++ out) after ∧
      OpensLine (before ++ out) := by
  obtain ⟨closing, hclose, hopens⟩ := closeLine_between before after
  obtain ⟨out, hblock, hend⟩ := insertBlock_between block? after hopens
  refine ⟨closing ++ out, ?_, ?_⟩
  · rw [writeBlock, hclose, hblock, List.append_assoc]
  · rwa [← List.append_assoc]

/-! ## The line for the output -/

/-- The line for the output is opened at the end of a line. -/
theorem openBelow_eq {b : Buffer} {l : Nat} (hl : l < lineCount b.text) :
    b.openBelow l =
      between (b.text.take (lineEnd b.text l) ++ ['\n']) (b.text.drop (lineEnd b.text l)) := by
  rw [openBelow, toLineEnd_eq b hl, newline, insert_of_ne_nil _ (List.cons_ne_nil _ _)]
  have hle := lineEnd_le_length hl
  simp [between, Buffer.before, Buffer.after, hle]

end Buffer

/-! ## Code that only prints -/

/-- A computation that does nothing to the buffer but print into it. -/
def Run.PrintsOnly {α : Type} (x : Run α) : Prop :=
  ∀ w, ∃ chunks, (x w).2.buffer = w.buffer.printAll chunks

/-- The evaluated snippet does nothing to the buffer but print into it. -/
def World.PrintsOnly (w : World) : Prop :=
  ∃ chunks, w.evaluated.buffer = w.opened.buffer.printAll chunks

namespace Run

variable {α β : Type}

theorem PrintsOnly.of_buffer {x : Run α} (h : ∀ w, (x w).2.buffer = w.buffer) :
    x.PrintsOnly :=
  fun w => ⟨[], h w⟩

/-- Code that prints can be put together. -/
theorem PrintsOnly.bind {x : Run α} {f : α → Run β} (hx : x.PrintsOnly)
    (hf : ∀ a, (f a).PrintsOnly) : (x >>= f).PrintsOnly := by
  intro w
  obtain ⟨first, hfirst⟩ := hx w
  rcases hrun : x w with ⟨a | e | _, w₁⟩
  · obtain ⟨second, hsecond⟩ := hf a w₁
    refine ⟨first ++ second, ?_⟩
    rw [hrun] at hfirst
    rw [bind_done hrun, hsecond, hfirst, Buffer.printAll_append]
  · rw [bind_raised hrun]
    exact ⟨first, by rw [← hfirst, hrun]⟩
  · rw [bind_spent hrun]
    exact ⟨first, by rw [← hfirst, hrun]⟩

theorem str_printsOnly (v : Value) : (str v).PrintsOnly := by
  apply PrintsOnly.of_buffer
  intro w
  simp only [str, world_bind]
  cases w.str v <;> rfl

theorem mapM_printsOnly {f : α → Run β} (hf : ∀ a, (f a).PrintsOnly) (xs : List α) :
    (xs.mapM f).PrintsOnly := by
  suffices hloop : ∀ acc, (List.mapM.loop f xs acc).PrintsOnly from hloop []
  induction xs with
  | nil => exact fun acc => .of_buffer fun _ => rfl
  | cons x xs ih => exact fun acc => (hf x).bind fun b => ih (b :: acc)

/-- Something added to a text is a text as well, or an exception. -/
theorem operate_add_printsOnly (t : Text) (v : Value) :
    (operate .add false (.str t) v).PrintsOnly := by
  apply PrintsOnly.of_buffer
  intro w
  cases v <;> rfl

theorem missingAttribute_printsOnly (v : Value) (n : String) :
    (missingAttribute v n).PrintsOnly := by
  unfold missingAttribute
  split
  case h_5 =>
    -- of all objects only classes have a complaint of their own
    refine PrintsOnly.bind (.of_buffer fun _ => rfl) fun cells => ?_
    split <;> exact .of_buffer fun _ => rfl
  all_goals exact .of_buffer fun _ => rfl

theorem printChunk_printsOnly (chunk : Text) :
    (update fun w => { w with buffer := w.buffer.printChunk chunk }).PrintsOnly :=
  fun _ => ⟨[chunk], rfl⟩

end Run

/-- Without a file the session's print only prints, whatever it is given. -/
theorem sessionPrint_printsOnly (r : Rules) (args : Arguments)
    (hfile : (args.named.lookup "file").getD .none = .none) :
    (r.sessionPrint args).PrintsOnly := by
  have hquiet {α : Type} (e : Raised) : (Run.raise e : Run α).PrintsOnly :=
    .of_buffer fun _ => rfl
  unfold Rules.sessionPrint
  split
  · exact hquiet _
  · simp only [hfile]
    split
    -- the texts of the arguments are joined, and the chunk is printed at once
    · refine (Run.mapM_printsOnly Run.str_printsOnly _).bind fun texts => ?_
      refine (Run.operate_add_printsOnly _ _).bind fun v => ?_
      split
      · exact (Run.printChunk_printsOnly _).bind fun _ => .of_buffer fun _ => rfl
      · exact .of_buffer fun _ => rfl
    · exact (Run.missingAttribute_printsOnly _ _).bind fun e => hquiet e

end Scratchpad
