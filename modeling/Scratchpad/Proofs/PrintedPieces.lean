import Scratchpad.Proofs.Marks

/-!
# Printed pieces

A print that does not end its line is continued by the next one, and the two amount to one
print. So of any number of prints only the pieces count into which the prints that end in a
line feed cut what is printed; a piece may be empty if prints of nothing make it up. During a
commit every piece starts a line and gets the marker once, and only the last piece can leave
a line open, which is then ended in front of the result.

* `Rules.sessionPrint_chunk` — what a call of print prints;
* `Buffer.printChunk_eq` — a print is one insertion, with the marker at column 0;
* `Buffer.printChunk_printChunk` — two prints that amount to one;
* `Buffer.printAll_pieces` — any number of prints, by induction on them;
* `print_chunks_coalesce` — the output of a commit as its pieces.
-/

namespace Scratchpad

/-! ## What a call prints -/

/-- The call of print writes this chunk to the buffer: the texts of its values with the
separator between them, and the end. -/
structure Arguments.Prints (args : Arguments) (w : World) (chunk : Text) : Prop where
  names : args.named.find? (fun (n, _) => !printNames.contains n) = none
  file : (args.named.lookup "file").getD .none = .none
  texts : ∃ separator ending texts,
    (args.named.lookup "sep").getD (.str ['\t']) = .str separator ∧
    (args.named.lookup "end").getD (.str ['\n']) = .str ending ∧
    args.positional.Forall₂ (fun v t => w.str v = .ok t) texts ∧
    chunk = unlines separator texts ++ ending

theorem Run.str_done {v : Value} {t : Text} {w : World} (h : w.str v = .ok t) :
    Run.str v w = (.done t, w) := by
  simp [Run.str, h]

theorem Run.mapM_str_done {vs : List Value} {ts : List Text} {w : World}
    (h : vs.Forall₂ (fun v t => w.str v = .ok t) ts) :
    vs.mapM Run.str w = (.done ts, w) := by
  suffices hloop : ∀ acc, List.mapM.loop Run.str vs acc w = (.done (acc.reverse ++ ts), w) from
    hloop []
  induction h with
  | nil => exact fun acc => by simp [List.mapM.loop]
  | cons hv _ ih =>
    intro acc
    rw [List.mapM.loop, Run.bind_done (Run.str_done hv), ih]
    simp

theorem Rules.sessionPrint_chunk (r : Rules) {w : World} {args : Arguments} {chunk : Text}
    (h : args.Prints w chunk) :
    r.sessionPrint args w =
      (.done .none, { w with buffer := w.buffer.printChunk chunk }) := by
  obtain ⟨hnames, hfile, separator, ending, texts, hseparator, hending, htexts, rfl⟩ := h
  have hadd : Run.operate .add false (.str (unlines separator texts)) (.str ending) w =
      (.done (.str (unlines separator texts ++ ending)), w) := rfl
  unfold Rules.sessionPrint
  simp only [hnames, hfile, hseparator, hending]
  rw [Run.bind_done (Run.mapM_str_done htexts), Run.bind_done hadd]
  rfl

/-! ## One print -/

namespace Buffer

/-- An insertion keeps what stands before and after the cursor. -/
theorem insert_cut (b : Buffer) (t : Text) :
    (b.insert t).before = b.before ++ t ∧ (b.insert t).after = b.after := by
  have hbefore : b.before.length = min b.cursor b.text.length := List.length_take
  have hafter : b.after.length = b.text.length - b.cursor := List.length_drop
  rw [before, after, insert_text, insert_cursor]
  by_cases h : b.cursor ≤ b.text.length
  · have hlength : (b.before ++ t).length = b.cursor + t.length := by
      rw [List.length_append, hbefore, Nat.min_eq_left h]
    rw [← hlength]
    exact ⟨List.take_left, List.drop_left⟩
  · have hnone : b.after = [] := List.length_eq_zero_iff.mp (by omega)
    -- a cursor behind the text has nothing after it
    have hlength : (b.before ++ t).length ≤ b.cursor + t.length := by
      rw [List.length_append]
      omega
    rw [hnone, List.append_nil]
    exact ⟨List.take_of_length_le hlength, List.drop_eq_nil_of_le hlength⟩

/-- Inserting two texts in turn inserts both. -/
theorem insert_insert (b : Buffer) (s t : Text) : (b.insert s).insert t = b.insert (s ++ t) := by
  by_cases hs : s = []
  · rw [hs, insert_nil, List.nil_append]
  · by_cases ht : t = []
    · rw [ht, insert_nil, List.append_nil]
    · obtain ⟨hbefore, hafter⟩ := insert_cut b s
      rw [insert_of_ne_nil (b.insert s) ht, hbefore, hafter,
        insert_of_ne_nil b (List.append_ne_nil_of_left_ne_nil hs t)]
      simp [Nat.add_assoc]

/-- A print is one insertion, and what it inserts is marked at column 0 only. -/
theorem printChunk_eq (b : Buffer) (chunk : Text) :
    b.printChunk chunk = b.insert (if b.col = 0 then marker ++ chunk else chunk) := by
  have hadd : ∀ t : Text, (if t.isEmpty then b else b.insert t) = b.insert t := by
    intro t
    by_cases ht : t = []
    · simp [ht, insert_nil]
    · simp [ht]
  simp only [printChunk]
  generalize (if b.col = 0 then marker ++ chunk else chunk) = t
  split
  next hlast =>
    obtain ⟨body, hbody⟩ := List.getLast?_eq_some_iff.mp hlast
    -- the line feed at the end is inserted by itself, which amounts to one insertion
    rw [hadd, newline, insert_insert, hbody, List.dropLast_concat]
  next => exact hadd t

/-- Behind a text that does not end in a line feed no line starts. -/
theorem col_insert_ne_zero (b : Buffer) {t : Text} (ht : t ≠ []) (hlast : t.getLast? ≠ some '\n') :
    (b.insert t).col ≠ 0 := by
  by_cases h : (b.insert t).cursor ≤ (b.insert t).text.length
  · rw [Ne, col_eq_zero_iff h, (insert_cut b t).1, opensLine_append]
    rintro ⟨hopens, -⟩
    exact hopens.elim ht hlast
  · have hstart := lineStart_le_length (b.insert t).text (b.insert t).line
    simp only [col, columnOf, line] at hstart ⊢
    omega

/-- A print that does not end its line and the next one amount to one print. -/
theorem printChunk_printChunk (b : Buffer) {c d : Text} (hc : c.getLast? ≠ some '\n') :
    (b.printChunk c).printChunk d = b.printChunk (c ++ d) := by
  rw [printChunk_eq b c, printChunk_eq, insert_insert, printChunk_eq b (c ++ d)]
  by_cases hcol : b.col = 0
  -- the first chunk leaves the line open, so that the second one is not marked
  · have hopen : (b.insert (marker ++ c)).col ≠ 0 := by
      refine col_insert_ne_zero b (by simp [marker]) ?_
      rw [List.getLast?_append]
      cases hlast : c.getLast? with
      | none => decide
      | some a => simpa [hlast] using hc
    rw [if_pos hcol, if_pos hcol, if_neg hopen, List.append_assoc]
  · have hopen : (b.insert c).col ≠ 0 := by
      by_cases hnil : c = []
      · rwa [hnil, insert_nil]
      · exact col_insert_ne_zero b hnil hc
    rw [if_neg hcol, if_neg hcol, if_neg hopen]

end Buffer

/-! ## Pieces -/

/-- What chunks cut the printed stream into, behind each one that ends in a line feed. -/
def pieces : List Text → List Text
  | [] => []
  | c :: rest =>
    if c.getLast? = some '\n' then c :: pieces rest
    else match pieces rest with
      | [] => [c]
      | p :: ps => (c ++ p) :: ps

/-- Nothing that is printed is lost in the pieces. -/
theorem flatten_pieces (chunks : List Text) : (pieces chunks).flatten = chunks.flatten := by
  induction chunks with
  | nil => rfl
  | cons c rest ih =>
    rw [pieces]
    split
    · rw [List.flatten_cons, ih, List.flatten_cons]
    · cases hp : pieces rest with
      | nil =>
        rw [hp] at ih
        -- a chunk that leaves its line open goes in front of the next piece, if there is one
        simp [← ih]
      | cons p ps =>
        rw [hp] at ih
        simp [← ih]

/-- Every piece but the last one ends its line. -/
theorem pieces_cons_ne_nil {chunks ps : List Text} {p : Text} (h : pieces chunks = p :: ps)
    (hps : ps ≠ []) : p.getLast? = some '\n' ∧ ∃ rest, pieces rest = ps := by
  induction chunks generalizing p with
  | nil => cases h
  | cons c rest ih =>
    rw [pieces] at h
    split at h
    next hlast =>
      obtain ⟨rfl, rfl⟩ := List.cons.inj h
      -- a chunk is a piece of its own if it ends with a line feed, and else joined to the next one
      exact ⟨hlast, rest, rfl⟩
    next hlast =>
      cases hrest : pieces rest with
      | nil =>
        rw [hrest] at h
        obtain ⟨-, rfl⟩ := List.cons.inj h
        exact absurd rfl hps
      | cons q qs =>
        rw [hrest] at h
        obtain ⟨rfl, rfl⟩ := List.cons.inj h
        obtain ⟨hq, hqs⟩ := ih hrest
        refine ⟨?_, hqs⟩
        rw [List.getLast?_append, hq]
        rfl

namespace Buffer

/-- Printing chunks prints their pieces. -/
theorem printAll_pieces (b : Buffer) (chunks : List Text) :
    b.printAll chunks = b.printAll (pieces chunks) := by
  induction chunks generalizing b with
  | nil => rfl
  | cons c rest ih =>
    rw [pieces, printAll_cons, ih]
    split
    · rw [printAll_cons]
    next hlast =>
      cases hp : pieces rest with
      | nil => rfl
      | cons p ps => rw [printAll_cons, printAll_cons, printChunk_printChunk b hlast]

/-- Pieces that start where a line starts are marked once each. -/
theorem printAll_pieces_between (chunks : List Text) {before : Text} (after : Text)
    (h : OpensLine before) :
    (between before after).printAll (pieces chunks) =
      between (before ++ ((pieces chunks).map (marker ++ ·)).flatten) after := by
  generalize hps : pieces chunks = ps
  induction ps generalizing chunks before with
  | nil => simp
  | cons p ps ih =>
    rw [printAll_cons, printChunk_between, printed, if_pos h, List.map_cons, List.flatten_cons]
    by_cases hne : ps = []
    · simp [hne]
    · -- the next piece starts a line, because this one ends in a line feed
      obtain ⟨hlast, rest, hrest⟩ := pieces_cons_ne_nil hps hne
      have hopens : OpensLine (before ++ (marker ++ p)) := by
        refine opensLine_append.mpr ⟨.inr ?_, fun _ => h⟩
        rw [List.getLast?_append, hlast]
        rfl
      rw [ih rest hopens hrest, List.append_assoc]

end Buffer

/-! ## The output of a commit -/

/-- A run that prints chunks below the evaluated lines leaves their pieces there. -/
theorem World.evaluated_buffer_pieces {w : World} {chunks : List Text}
    (hprints : w.evaluated.buffer = w.opened.buffer.printAll chunks) :
    let stop := lineEnd w.buffer.text w.buffer.target.last
    w.evaluated.buffer =
      Buffer.between (w.buffer.text.take stop ++ ['\n'] ++
        ((pieces chunks).map (marker ++ ·)).flatten) (w.buffer.text.drop stop) := by
  intro stop
  rw [hprints, World.opened_buffer, Buffer.openBelow_eq w.buffer.target_last_lt,
    Buffer.printAll_pieces,
    Buffer.printAll_pieces_between chunks _ (opensLine_concat (w.buffer.text.take stop))]

/-- The prints of a commit come to pieces. Each call of print prints one chunk, which is
inserted at the cursor and marked at column 0 only; a chunk that does not end its line and
the next one amount to one, so that of all that is printed only the cuts behind the chunks
that end their line matter. What a commit writes below its input is the pieces, each behind
one marker, a line feed exactly if they leave the cursor beyond column 0, and the block of
the outcome on lines of its own. -/
theorem print_chunks_coalesce :
    (∀ (r : Rules) (w : World) (args : Arguments) (chunk : Text), args.Prints w chunk →
      r.sessionPrint args w =
        (.done .none, { w with buffer := w.buffer.printChunk chunk })) ∧
    (∀ (b : Buffer) (c : Text),
      b.printChunk c = b.insert (if b.col = 0 then marker ++ c else c)) ∧
    (∀ (b : Buffer) (c d : Text), c.getLast? ≠ some '\n' →
      (b.printChunk c).printChunk d = b.printChunk (c ++ d)) ∧
    (∀ (b : Buffer) (chunks : List Text), b.printAll chunks = b.printAll (pieces chunks) ∧
      (pieces chunks).flatten = chunks.flatten) ∧
    ∀ (w w' : World) (chunks : List Text),
      w.evaluated.buffer = w.opened.buffer.printAll chunks → commit w = (.done true, w') →
      ∃ o o' block? notes,
        shownOutcome o { w.evaluated with notes } =
          (.done (o', block?), { w.evaluated with notes }) ∧
        let stop := lineEnd w.buffer.text w.buffer.target.last
        let closed := ((pieces chunks).map (marker ++ ·)).flatten ++
          (if w.evaluated.buffer.col = 0 then [] else ['\n'])
        let out := closed ++ blockLines block?
        OpensLine closed ∧
        w'.buffer =
          { text := w.buffer.text.take stop ++ '\n' :: (out ++ w.buffer.text.drop stop)
            cursor := stop + 1 + out.length } := by
  refine ⟨fun r w args chunk => r.sessionPrint_chunk, Buffer.printChunk_eq,
    fun b c d => b.printChunk_printChunk,
    fun b chunks => ⟨b.printAll_pieces chunks, flatten_pieces chunks⟩, ?_⟩
  intro w w' chunks hprints h
  have hle := lineEnd_le_length w.buffer.target_last_lt
  have hevaluated := World.evaluated_buffer_pieces hprints
  obtain ⟨o, o', block?, notes, hshow, rfl⟩ := commit_shown_inv h
  refine ⟨o, o', block?, notes, hshow, ?_⟩
  intro stop closed out
  -- the cursor stands behind the pieces, so its column tells whether the last one is closed
  have hcol : w.evaluated.buffer.col = 0 ↔ OpensLine (w.buffer.text.take stop ++ ['\n'] ++
      ((pieces chunks).map (marker ++ ·)).flatten) := by
    rw [hevaluated, Buffer.col_between]
  have hclosed : closed = ((pieces chunks).map (marker ++ ·)).flatten ++
      closing (w.buffer.text.take stop ++ ['\n'] ++
        ((pieces chunks).map (marker ++ ·)).flatten) := by
    simp only [closed, closing, hcol]
  constructor
  · rw [hclosed, closing]
    split
    next hline => simpa using (opensLine_append.mp hline).1
    next => exact opensLine_concat _
  · have hblock := writeBlock_printAll_between block? []
      (w.buffer.text.take stop ++ ['\n'] ++ ((pieces chunks).map (marker ++ ·)).flatten)
      (w.buffer.text.drop stop)
    rw [World.concluded_buffer, hevaluated]
    rw [Buffer.printAll_nil, outputOf] at hblock
    rw [hblock]
    simp [Buffer.between, out, hclosed, stop, hle, Nat.add_assoc, Nat.add_comm 1]

/-- A session in whose line two output lines are printed in three calls. -/
def piecesSample : World :=
  { World.start {} {} none #[] with
    buffer := { text := "print('b', 'c', end='') or print() or print('a', end='')".toList } }

/-- What its run leaves in the buffer: the last line is still open. -/
def piecesLeft : Buffer :=
  { text := "print('b', 'c', end='') or print() or print('a', end='')\n--> b\tc\n--> a".toList
    cursor := 70 }

/-- The first call in the sample. -/
def firstCall : Arguments where
  positional := [.str ['b'], .str ['c']]
  named := [("end", .str [])]

theorem firstCall_prints : firstCall.Prints piecesSample "b\tc".toList :=
  ⟨rfl, rfl, ['\t'], [], [['b'], ['c']], rfl, rfl, .cons rfl (.cons rfl .nil), rfl⟩

/-- Three prints give two marked lines, of which the second one is ended by the commit. -/
theorem print_chunks_coalesce_sample :
    piecesSample.evaluated.buffer =
      piecesSample.opened.buffer.printAll ["b\tc".toList, "\n".toList, "a".toList] ∧
    (rules 1).sessionPrint firstCall piecesSample =
      (.done .none,
        { piecesSample with buffer := piecesSample.buffer.printChunk "b\tc".toList }) ∧
    ∃ w' block?, commit piecesSample = (.done true, w') ∧
      w'.buffer.text =
        piecesSample.buffer.text ++ '\n' :: ("--> b\tc\n--> a\n".toList ++ blockLines block?) := by
  have hleft : piecesSample.evaluated.buffer = piecesLeft := by decide +kernel
  have hprinted : piecesSample.opened.buffer.printAll ["b\tc".toList, "\n".toList, "a".toList] =
      piecesLeft := by decide +kernel
  have hprints := hleft.trans hprinted.symm
  obtain ⟨w', hcommit⟩ := exists_of_saysYes (x := commit) (w := piecesSample) (by decide +kernel)
  obtain ⟨hcall, -, -, -, hcommits⟩ := print_chunks_coalesce
  obtain ⟨-, -, block?, -, -, -, hbuffer⟩ := hcommits piecesSample w' _ hprints hcommit
  refine ⟨hprints, hcall _ _ _ _ firstCall_prints, w', block?, hcommit, ?_⟩
  -- the evaluated line is the last one
  have hstop : lineEnd piecesSample.buffer.text piecesSample.buffer.target.last =
      piecesSample.buffer.text.length := by decide +kernel
  have hopen : piecesSample.evaluated.buffer.col ≠ 0 := by
    rw [hleft]
    decide +kernel
  rw [hbuffer]
  simp only [hstop, if_neg hopen, List.take_length, List.drop_length, List.append_nil]
  rfl

end Scratchpad
