import Scratchpad.Proofs.BackwardScan
import Scratchpad.Proofs.BufferRuns
import Scratchpad.Proofs.HistoryWalk
import Scratchpad.Proofs.MemberNames
import Scratchpad.Proofs.PathTokens
import Scratchpad.Session.Start

/-!
# Completion

Completing a symbol is a transaction on what was typed. The request reads the part of a
name that stands right before the cursor, every candidate continues that part, and what the
popup shows is always computed from the text on which it was opened. So a completion only
ever adds to the text before the cursor, and can be taken back.

The popup is opened once the candidates are found, and to find them attributes are read. A
class may compute these by code of its own. If that code changes the text or moves the cursor,
the popup is opened on what it left, and what was typed is not restored.

* `Request.typed_suffix` — the typed part is the end of what was read;
* `typed_of_mem_candidates` — every candidate continues the typed part;
* `candidates_keep` — without computed attributes the editor is left alone;
* `Buffer.Completing` — what holds of the buffer while the popup is open;
* `completing_browse` — it is kept by each step through the popup;
* `World.Completes` — the popup is a transaction on what was typed;
* `completion_transaction_iff` — it is one just if finding the candidates left the text alone.
-/

namespace Scratchpad

/-! ## The request -/

namespace Request

/-- The path of a request consists of word characters and dots. -/
theorem path_pathText (t : Text) : PathText (ofText t).path :=
  pathText_of_all (List.all_eq_true.mpr (ofText_proper t).1.path)

/-- On one line the typed part is what stands last. -/
theorem typed_suffix {t : Text} (h : '\n' ∉ t) : (ofText t).typed <:+ t := by
  have hlast : t.getLast? ≠ some '\n' := fun hlast => h (List.mem_of_getLast? hlast)
  have hsuffix := (ofText_proper t).2
  rw [trimmed, if_neg hlast] at hsuffix
  exact (List.suffix_append _ _).trans hsuffix

end Request

/-! ## The candidates -/

/-- The matching names are those that continue what was typed. -/
theorem mem_matching {typed : Text} {names : List String} {n : String} :
    n ∈ matching typed names ↔ n ∈ names ∧ typed <+: n.toList := by
  rw [matching, mem_sortNames, List.mem_filter, List.isPrefixOf_iff_prefix]

open Run

theorem SourceFault.isFault (f : SourceFault) : derivesFrom f.name "Exception" = true := by
  unfold SourceFault.name
  split
  · decide
  · split <;> decide

theorem keeps_pathValue {path : Text} (h : PathText path) :
    (pathValue path).Keeps fun _ => True := by
  unfold pathValue
  split
  next f hf => exact .of_raise (.of _ f.isFault)
  next e he => exact keeps_lookup (compileExpression_lookup h he)

theorem keeps_resolvePath {path : Text} (h : PathText path) :
    (resolvePath path).Keeps fun _ => True := by
  refine (keeps_pathValue h).attempt.bind fun ending hending => ?_
  split
  · exact .of_pure trivial
  next e =>
    have he : e.Worded := hending e rfl
    rw [if_pos he.fault]
    exact (Keeps.str he).bind_any fun _ => .of_pure trivial

theorem keeps_note (source : String) (text : Text) :
    (update (·.note source text)).Keeps fun _ => True :=
  .of_update (fun _ => ⟨rfl, rfl⟩) fun _ => rfl

/-- Without computed attributes nothing runs while attributes are read. -/
theorem keeps_readMembers (v : Value) (names : List String) :
    (readMembers v names).Keeps fun _ => True := by
  induction names with
  | nil => exact .of_pure trivial
  | cons n rest ih =>
    have hvalue : (memberValue v n).Keeps fun _ => True := by
      refine (keeps_getAttribute _ v n).attempt.bind fun ending hending => ?_
      split
      · exact .of_pure trivial
      next e =>
        rw [if_pos (hending e rfl).fault]
        exact .of_pure trivial
    exact hvalue.bind_any fun x => ih.bind_any fun read => .of_pure trivial

theorem keeps_namesOf (v : Value) (operator : Operator) :
    (namesOf v operator).Keeps fun _ => True := by
  have hmembers : (members v).Keeps fun _ => True :=
    Keeps.of_world.bind_any fun w => (keeps_readMembers v _).bind_any fun read =>
      Keeps.of_world.bind_any fun u => .of_pure trivial
  refine Keeps.of_world.bind_any fun w => ?_
  dsimp only
  split
  · exact .of_pure trivial
  · exact .of_pure trivial
  -- only other values than the editing object are read
  · refine hmembers.bind_any fun found => ?_
    split
    · exact Keeps.of_cells.bind_any fun cells => .of_pure trivial
    · exact .of_pure trivial

theorem keeps_requestedNames {r : Request} (h : PathText r.path) :
    (requestedNames r).Keeps fun _ => True := by
  unfold requestedNames
  split
  · exact Keeps.of_world.bind_any fun w => .of_pure trivial
  · refine (keeps_resolvePath h).bind_any fun value => ?_
    split
    · exact (keeps_namesOf _ _).bind_any fun names => .of_pure trivial
    · exact (keeps_note _ _).bind_any fun _ => .of_pure trivial

/-- Without computed attributes, finding the candidates leaves the buffer and the log
alone. -/
theorem candidates_keep {r : Request} (h : PathText r.path) :
    (candidates r).Keeps fun _ => True := by
  refine (keeps_requestedNames h).bind_any fun names? => ?_
  split
  · exact .of_pure trivial
  · exact (keeps_note _ _).bind_any fun _ => .of_pure trivial

/-- A candidate continues the typed part, whatever was run to find it. -/
theorem typed_of_mem_candidates {r : Request} {w u : World} {found : List String}
    (h : candidates r w = (.done found, u)) {n : String} (hn : n ∈ found) :
    r.typed <+: n.toList := by
  obtain ⟨names?, w₁, -, h⟩ := bind_done_inv h
  cases names? with
  | none =>
    cases h
    cases hn
  | some names =>
    cases h
    exact (mem_matching.mp hn).2

/-- A request that chooses among names finds those that match, and adds a note. -/
theorem candidates_of_names {r : Request} {w u : World} {names : List String}
    (h : requestedNames r w = (.done (some names), u)) :
    ∃ notes, candidates r w = (.done (matching r.typed names), { u with notes }) := by
  unfold candidates
  rw [bind_done h]
  exact ⟨_, rfl⟩

/-- A request without a path chooses among the listed names and changes nothing but the
notes. -/
theorem candidates_root {r : Request} (hpath : r.path = []) (w : World) :
    ∃ notes, candidates r w =
      (.done (matching r.typed w.names.visibleNames), { w with notes }) := by
  have hnames : requestedNames r w = (.done (some w.names.visibleNames), w) := by
    unfold requestedNames
    rw [hpath]
    rfl
  exact candidates_of_names hnames

/-! ## The popup -/

/-- What a candidate adds to the `typed` characters before the cursor. -/
def extension (typed : Nat) (c? : Option Text) : Text := (c?.map (·.drop typed)).getD []

namespace Popup

/-- The popup was opened at the place between two texts, the first of which ends with what
its candidates continue. -/
structure Stands (p : Popup) (before after typed : Text) : Prop where
  text : p.text = before ++ after
  cursor : p.cursor = before.length
  width : p.typed = typed.length
  ends : typed <:+ before
  offers : p.candidates ≠ []
  continues : ∀ c ∈ p.candidates, typed <+: c
  chosen : ∀ i ∈ p.index, i < p.candidates.length

namespace Stands

variable {p : Popup} {before after typed : Text}

/-- What is shown is what was typed, with the rest of the highlighted candidate. -/
theorem shown_eq (h : p.Stands before after typed) :
    p.shown = (before ++ extension typed.length p.chosen? ++ after,
      (before ++ extension typed.length p.chosen?).length) := by
  have hdrop : p.text.drop p.cursor = after := by rw [h.text, h.cursor, List.drop_left]
  unfold shown
  cases hc : p.chosen? with
  | none => simp [extension, h.text, h.cursor]
  | some c =>
    -- the stem is put before the candidate again, which begins with what was typed
    obtain ⟨stem, hstem⟩ := h.ends
    have hmem : c ∈ p.candidates := by
      obtain ⟨i, -, hi⟩ := Option.bind_eq_some_iff.mp hc
      exact List.mem_of_getElem? hi
    obtain ⟨rest, rfl⟩ := h.continues c hmem
    have hpstem : p.stem = stem := by
      rw [Popup.stem, h.text, h.cursor, h.width, ← hstem, List.length_append,
        Nat.add_sub_cancel, List.append_assoc, List.take_left]
    simp [extension, hdrop, hpstem, ← hstem]

/-- Highlighting keeps everything else. -/
theorem highlight (h : p.Stands before after typed) {index : Option Nat}
    (hindex : ∀ i ∈ index, i < p.candidates.length) :
    (p.highlight index).Stands before after typed ∧
      p.highlight index = { p with index := index } := by
  have heq : p.highlight index = { p with index := index } := by
    rw [Popup.highlight, if_neg (by simpa using h.offers)]
  rw [heq]
  exact ⟨⟨h.text, h.cursor, h.width, h.ends, h.offers, h.continues, hindex⟩, rfl⟩

end Stands

end Popup

namespace Buffer

/-- The buffer shows an open popup. -/
structure Completing (b : Buffer) (p : Popup) (before after typed : Text) : Prop where
  popup : b.popup = some p
  stands : p.Stands before after typed
  text : b.text = before ++ extension typed.length p.chosen? ++ after
  cursor : b.cursor = (before ++ extension typed.length p.chosen?).length

section Completing

variable {b : Buffer} {p : Popup} {before after typed : Text}

/-- A popup opened at the cursor shows the text as it is. -/
theorem completing_openPopup {b : Buffer} {typed : Text} {candidates : List Text}
    (hin : b.cursor ≤ b.text.length) (htyped : typed <:+ b.before) (hoffers : candidates ≠ [])
    (hcontinues : ∀ c ∈ candidates, typed <+: c) :
    (b.openPopup typed.length candidates).Completing
      ⟨b.text, b.cursor, typed.length, candidates, none⟩ b.before b.after typed := by
  have htext : b.text = b.before ++ b.after := (List.take_append_drop _ _).symm
  have hcursor : b.cursor = b.before.length := by
    rw [before, List.length_take, Nat.min_eq_left hin]
  refine ⟨rfl, ⟨htext, hcursor, rfl, htyped, hoffers, hcontinues, by simp⟩, ?_, ?_⟩
  · simpa [openPopup, Popup.chosen?, extension] using htext
  · simpa [openPopup, Popup.chosen?, extension] using hcursor

/-- A popup that was just opened takes back nothing. -/
theorem cancelPopup_openPopup (b : Buffer) (typed : Nat) (candidates : List Text) :
    (b.openPopup typed candidates).cancelPopup.text = b.text ∧
      (b.openPopup typed candidates).cancelPopup.cursor = b.cursor := by
  have hplain : (Popup.mk b.text b.cursor typed candidates none).highlight none =
      ⟨b.text, b.cursor, typed, candidates, none⟩ := by
    unfold Popup.highlight
    split <;> rfl
  simp [openPopup, cancelPopup, Buffer.highlight, hplain, Popup.shown, Popup.chosen?]

theorem Completing.highlight (h : b.Completing p before after typed) (index : Option Nat)
    (hindex : ∀ i ∈ index, i < p.candidates.length) :
    (b.highlight p index).Completing { p with index := index } before after typed := by
  obtain ⟨hstands, heq⟩ := h.stands.highlight hindex
  rw [heq] at hstands
  have hshown := hstands.shown_eq
  unfold Buffer.highlight
  rw [heq]
  exact ⟨rfl, hstands, by simp [hshown], by simp [hshown]⟩

theorem Completing.popupNext (h : b.Completing p before after typed) :
    b.popupNext.Completing { p with index := p.indexBelow } before after typed := by
  simp only [Buffer.popupNext, h.popup]
  exact h.highlight _ (Popup.indexBelow_lt h.stands.offers h.stands.chosen)

theorem Completing.popupPrev (h : b.Completing p before after typed) :
    b.popupPrev.Completing { p with index := p.indexAbove } before after typed := by
  simp only [Buffer.popupPrev, h.popup]
  exact h.highlight _ (Popup.indexAbove_lt h.stands.offers h.stands.chosen)

/-- Taking a completion back gives what was there. -/
theorem Completing.cancelPopup (h : b.Completing p before after typed) :
    b.cancelPopup.popup = none ∧ b.cancelPopup.text = before ++ after ∧
      b.cancelPopup.cursor = before.length := by
  have hnone := h.highlight none (by simp)
  simp only [Buffer.cancelPopup, h.popup]
  refine ⟨trivial, ?_, ?_⟩
  · simpa [Popup.chosen?, extension] using hnone.text
  · simpa [Popup.chosen?, extension] using hnone.cursor

/-- Accepting takes the highlighted candidate, or the first one. -/
theorem Completing.acceptPopup (h : b.Completing p before after typed) :
    b.acceptPopup.popup = none ∧ ∃ c ∈ p.candidates, p.chosen?.or p.candidates.head? = some c ∧
      b.acceptPopup.text = before ++ c.drop typed.length ++ after ∧
      b.acceptPopup.cursor = (before ++ c.drop typed.length).length := by
  obtain ⟨first, others, hoffers⟩ := List.exists_cons_of_ne_nil h.stands.offers
  cases hindex : p.index with
  | none =>
    have hchosen : p.chosen? = none := by simp [Popup.chosen?, hindex]
    -- nothing is highlighted yet, and the first candidate is taken
    have hfirst := h.highlight (some 0) (by rintro _ ⟨⟩; simp [hoffers])
    have haccept : b.acceptPopup = { b.highlight p (some 0) with popup := none } := by
      simp [Buffer.acceptPopup, h.popup, hindex, hoffers]
    rw [haccept]
    refine ⟨rfl, first, by simp [hoffers], by simp [hchosen, hoffers], ?_, ?_⟩
    · simpa [Popup.chosen?, hoffers, extension] using hfirst.text
    · simpa [Popup.chosen?, hoffers, extension] using hfirst.cursor
  | some i =>
    have hi := h.stands.chosen i hindex
    have hchosen : p.chosen? = some p.candidates[i] := by simp [Popup.chosen?, hindex, hi]
    -- the highlighted candidate already stands in the text
    have haccept : b.acceptPopup = { b with popup := none } := by
      simp [Buffer.acceptPopup, h.popup, hindex]
    rw [haccept]
    refine ⟨rfl, p.candidates[i], List.getElem_mem hi, by simp [hchosen], ?_, ?_⟩
    · simpa [hchosen, extension] using h.text
    · simpa [hchosen, extension] using h.cursor

end Completing

end Buffer

/-! ## Steps through the popup -/

namespace World

variable {w : World} {p : Popup} {before after typed : Text}

/-- While the popup is open, steps through the history move its highlight. -/
theorem completing_browse (h : w.buffer.Completing p before after typed) (step : HistoryStep) :
    (w.browse step).history = w.history ∧
      ∃ index, (w.browse step).buffer.Completing { p with index := index } before after typed := by
  cases step with
  | older =>
    have hstep : w.browse .older = { w with buffer := w.buffer.popupPrev } := by
      simp [browse, historyPrev, h.popup]
    rw [hstep]
    exact ⟨rfl, _, h.popupPrev⟩
  | newer =>
    have hstep : w.browse .newer = { w with buffer := w.buffer.popupNext } := by
      simp [browse, historyNext, h.popup]
    rw [hstep]
    exact ⟨rfl, _, h.popupNext⟩

theorem completing_browseAll (h : w.buffer.Completing p before after typed)
    (steps : List HistoryStep) :
    (w.browseAll steps).history = w.history ∧
      ∃ index, (w.browseAll steps).buffer.Completing { p with index := index } before after
        typed := by
  induction steps generalizing w p with
  | nil => exact ⟨rfl, p.index, h⟩
  | cons step steps ih =>
    obtain ⟨hhistory, index, hstep⟩ := completing_browse h step
    obtain ⟨hhistory', index', hsteps⟩ := ih hstep
    exact ⟨hhistory'.trans hhistory, index', hsteps⟩

end World

/-! ## The whole transaction -/

/-- What is read for a request: the line up to the cursor. -/
def World.request (w : World) : Request :=
  Request.ofText (w.buffer.currentLine.take w.buffer.col)

/-- The popup is open for candidates that were found. -/
def World.offering (u : World) (typed : Text) (found : List String) : World :=
  { u with buffer := u.buffer.openPopup typed.length (found.map String.toList) }

/-- In `v` a popup stands that completes what was typed in `w`. It shows the text of `w` with
the rest of the highlighted candidate at the cursor. Taking it back restores text and cursor,
and the enter key only accepts the highlighted candidate, or the first one. -/
structure World.Completes (w v : World) (p : Popup) : Prop where
  popup : v.buffer.popup = some p
  continues : ∀ c ∈ p.candidates, w.request.typed <+: c
  shown : p.chosen? = none ∧ v.buffer.text = w.buffer.before ++ w.buffer.after ∨
    ∃ c, p.chosen? = some c ∧
      v.buffer.text = w.buffer.before ++ c.drop w.request.typed.length ++ w.buffer.after
  cancelled : v.buffer.cancelPopup.popup = none ∧ v.buffer.cancelPopup.text = w.buffer.text ∧
    v.buffer.cancelPopup.cursor = w.buffer.cursor
  accepted : ∃ c ∈ p.candidates, p.chosen?.or p.candidates.head? = some c ∧
    pressEnter v = (.done (), { v with buffer := v.buffer.acceptPopup }) ∧
    v.buffer.acceptPopup.popup = none ∧
    v.buffer.acceptPopup.text =
      w.buffer.before ++ c.drop w.request.typed.length ++ w.buffer.after ∧
    v.buffer.acceptPopup.cursor =
      (w.buffer.before ++ c.drop w.request.typed.length).length

/-- The popup that stands in `w₁` is a transaction on what was typed in `w`: any walk through
it leaves the log alone and completes what was typed. -/
def World.Transacts (w w₁ : World) : Prop :=
  ∀ steps : List HistoryStep, (w₁.browseAll steps).history = w₁.history ∧
    ∃ p, w.Completes (w₁.browseAll steps) p

section Transaction

variable {w u : World} {found : List String}

/-- The typed part stands right before the cursor. -/
theorem typed_suffix_before (hin : w.buffer.cursor ≤ w.buffer.text.length) :
    w.request.typed <:+ w.buffer.before := by
  obtain ⟨before, line, after, k, hat⟩ := Buffer.exists_at hin
  have hread : w.buffer.currentLine.take w.buffer.col = line.take k := by
    rw [hat.currentLine_eq, hat.col_eq]
  -- the request is read from the line up to the cursor
  have hsingle : '\n' ∉ line.take k := fun h => hat.cut.single (List.mem_of_mem_take h)
  have htyped : w.request.typed <:+ line.take k := by
    rw [World.request, hread]
    exact Request.typed_suffix hsingle
  rw [hat.before_eq]
  exact htyped.trans (List.suffix_append before _)

/-- A popup that was opened at the cursor is a transaction on what was typed. -/
theorem transacts_of_completing {w₁ : World} {p : Popup}
    (hin : w.buffer.cursor ≤ w.buffer.text.length)
    (h : w₁.buffer.Completing p w.buffer.before w.buffer.after w.request.typed) :
    w.Transacts w₁ := by
  intro steps
  obtain ⟨hkept, index, hb⟩ := World.completing_browseAll h steps
  obtain ⟨hclosed, htext, hcursor⟩ := hb.cancelPopup
  obtain ⟨haccepted, c, hmem, hc, hctext, hccursor⟩ := hb.acceptPopup
  have hwhole : w.buffer.before ++ w.buffer.after = w.buffer.text := List.take_append_drop _ _
  have hlength : w.buffer.before.length = w.buffer.cursor := by
    rw [Buffer.before, List.length_take, Nat.min_eq_left hin]
  refine ⟨hkept, { p with index := index }, ?_⟩
  refine ⟨hb.popup, hb.stands.continues, ?_,
    ⟨hclosed, htext.trans hwhole, hcursor.trans hlength⟩, c, hmem, hc, ?_, haccepted, hctext,
    hccursor⟩
  · have hshown := hb.text
    cases hchosen : { p with index := index }.chosen? with
    | none =>
      rw [hchosen] at hshown
      exact .inl ⟨rfl, by simpa [extension] using hshown⟩
    | some c =>
      rw [hchosen] at hshown
      exact .inr ⟨c, rfl, by simpa [extension] using hshown⟩
  · simp only [pressEnter, Run.world_bind]
    -- the enter key asks for the popup before it does anything else
    rw [hb.popup]
    rfl

/-- A request with candidates opens the popup in the world in which they were found. -/
theorem requestCompletion_found (h : candidates w.request w = (.done found, u))
    (hfound : found ≠ []) :
    requestCompletion w = (.done (), u.offering w.request.typed found) := by
  have hempty : found.isEmpty = false := by simpa using hfound
  rw [World.request] at h
  unfold requestCompletion
  simp only [world_bind, bind_done h, hempty]
  rfl

/-- If text and cursor are as before, the popup is opened where the name was typed. -/
theorem transacts_of_unchanged (hin : w.buffer.cursor ≤ w.buffer.text.length)
    (h : candidates w.request w = (.done found, u)) (hfound : found ≠ [])
    (htext : u.buffer.text = w.buffer.text) (hcursor : u.buffer.cursor = w.buffer.cursor) :
    w.Transacts (u.offering w.request.typed found) := by
  have hbefore : u.buffer.before = w.buffer.before := by
    rw [Buffer.before, Buffer.before, htext, hcursor]
  have hafter : u.buffer.after = w.buffer.after := by
    rw [Buffer.after, Buffer.after, htext, hcursor]
  have hcontinues : ∀ c ∈ found.map String.toList, w.request.typed <+: c := by
    intro c hc
    obtain ⟨n, hn, rfl⟩ := List.mem_map.mp hc
    exact typed_of_mem_candidates h hn
  have hcompleting := Buffer.completing_openPopup (b := u.buffer)
    (by rw [htext, hcursor]; exact hin) (by rw [hbefore]; exact typed_suffix_before hin)
    (by simpa using hfound) hcontinues
  rw [hbefore, hafter] at hcompleting
  exact transacts_of_completing hin hcompleting

/-- Without objects of classes that code defined, completion never touches what was typed. -/
theorem transacts_of_plain (hplain : w.cells.Plain)
    (hin : w.buffer.cursor ≤ w.buffer.text.length)
    (h : candidates w.request w = (.done found, u)) (hfound : found ≠ []) :
    w.Transacts (u.offering w.request.typed found) ∧ u.history = w.history := by
  have hsame := (candidates_keep (r := w.request) (Request.path_pathText _) w hplain).same
  rw [h] at hsame
  exact ⟨transacts_of_unchanged hin h hfound (by rw [hsame.buffer]) (by rw [hsame.buffer]),
    hsame.history⟩

/-- A popup takes back to the text and the cursor at which it was opened. -/
theorem unchanged_of_transacts {typed : Text} (h : w.Transacts (u.offering typed found)) :
    u.buffer.text = w.buffer.text ∧ u.buffer.cursor = w.buffer.cursor := by
  obtain ⟨-, p, hp⟩ := h []
  obtain ⟨-, htext, hcursor⟩ := hp.cancelled
  obtain ⟨hback, hplace⟩ :=
    Buffer.cancelPopup_openPopup u.buffer typed.length (found.map String.toList)
  exact ⟨hback.symm.trans htext, hplace.symm.trans hcursor⟩

/-- A request that finds candidates opens the popup, and itself adds nothing to the log. The
popup is a transaction on what was typed just if the code that was run to find the candidates
left the text and the cursor as they were. Without objects of classes that code defined no
code is run, and then the log is left as it was, too. -/
theorem completion_transaction_iff (hin : w.buffer.cursor ≤ w.buffer.text.length)
    (h : candidates w.request w = (.done found, u)) (hfound : found ≠ []) :
    w.request.typed <:+ w.buffer.before ∧
    ∃ w₁, requestCompletion w = (.done (), w₁) ∧ w₁.buffer.popup ≠ none ∧
      w₁.history = u.history ∧
      (w.Transacts w₁ ↔
        u.buffer.text = w.buffer.text ∧ u.buffer.cursor = w.buffer.cursor) ∧
      (w.cells.Plain → w.Transacts w₁ ∧ w₁.history = w.history) := by
  refine ⟨typed_suffix_before hin, u.offering w.request.typed found,
    requestCompletion_found h hfound, nofun, rfl, ⟨unchanged_of_transacts, ?_⟩,
    fun hplain => transacts_of_plain hplain hin h hfound⟩
  rintro ⟨htext, hcursor⟩
  exact transacts_of_unchanged hin h hfound htext hcursor

end Transaction

/-- A session in whose line a name of the top level is being typed. -/
def typingSample : World :=
  { World.start {} {} none #[] with buffer := { text := "a\nhas + 1".toList, cursor := 5 } }

theorem completion_transaction_typing :
    ∃ found u w₁, typingSample.buffer.cursor ≤ typingSample.buffer.text.length ∧
      candidates typingSample.request typingSample = (.done found, u) ∧ found ≠ [] ∧
      requestCompletion typingSample = (.done (), w₁) ∧ typingSample.Transacts w₁ := by
  have hin : typingSample.buffer.cursor ≤ typingSample.buffer.text.length := by decide +kernel
  have hread : typingSample.request = ⟨[], .absent, "has".toList⟩ := by decide +kernel
  obtain ⟨notes, hfound⟩ := candidates_root (r := typingSample.request) (by rw [hread])
    typingSample
  -- one name is enough
  have hne : matching typingSample.request.typed typingSample.names.visibleNames ≠ [] := by
    have hmem : "hash" ∈ matching typingSample.request.typed typingSample.names.visibleNames := by
      rw [hread, mem_matching]
      decide +kernel
    exact List.ne_nil_of_mem hmem
  obtain ⟨-, w₁, hrequest, -, -, htransacts, -⟩ := completion_transaction_iff hin hfound hne
  exact ⟨_, _, w₁, hin, hfound, hne, hrequest, htransacts.mpr ⟨rfl, rfl⟩⟩

/-- A session with an object `a` whose class computes the attribute `p` by an expression. The
cursor is at the end of the text. -/
def computingSample (text : Text) (body : Expr) : World :=
  let getter : Closure :=
    { name := "A.<lambda>", parameters := .mk [] [.mk "self" none none] none [] none
      defaults := [], body := .expression body, locals := ["self"], globals := [], frame := none }
  { World.start {} { names := [("a", .object 3)] } none
      #[.function getter, .property (.function 0), .kind "A" [("p", .object 1)], .ofKind 2 []] with
    buffer := { text, cursor := text.length } }

/-- The attribute prints when it is read. -/
def printingSample : World :=
  computingSample "a.p".toList (.call (.name "print") [.positional (.constant (.str ['x']))])

/-- The attributes of the object in the sample, in order. -/
def sampleAttributes : List String :=
  ["__class__", "__delattr__", "__dict__", "__dir__", "__doc__", "__eq__", "__format__", "__ge__",
   "__getattribute__", "__getstate__", "__gt__", "__hash__", "__init__", "__init_subclass__",
   "__le__", "__lt__", "__module__", "__ne__", "__new__", "__reduce__", "__reduce_ex__",
   "__repr__", "__setattr__", "__sizeof__", "__str__", "__subclasshook__", "__weakref__", "p"]

theorem sortNames_sampleAttributes (text : Text) (body : Expr) :
    sortNames ((computingSample text body).attributeNames (.object 3)) = sampleAttributes := by
  have hsame : (computingSample text body).attributeNames (.object 3) =
      printingSample.attributeNames (.object 3) := rfl
  rw [hsame]
  have hof : ∀ n ∈ sampleAttributes, n ∈ printingSample.attributeNames (.object 3) := by
    decide +kernel
  have hin : ∀ n ∈ printingSample.attributeNames (.object 3), n ∈ sampleAttributes := by
    decide +kernel
  exact sortNames_eq_of_pairwise (by decide +kernel) fun n => ⟨hof n, hin n⟩

/-- The attributes of the sample are read in the order in which they are listed. -/
theorem exists_reading_computingSample {text : Text} {body : Expr}
    (h : (readMembers (.object 3) sampleAttributes (computingSample text body)).1.isDone = true) :
    ∃ reading : Reading (computingSample text body) (.object 3),
      readMembers (.object 3) sampleAttributes (computingSample text body) =
        (.done reading.read, reading.after) := by
  rcases hrun : readMembers (.object 3) sampleAttributes (computingSample text body) with
    ⟨read | _ | _, u⟩ <;> rw [hrun] at h
  case raised | spent => cases h
  rw [← sortNames_sampleAttributes text body] at hrun
  exact ⟨⟨read, u, reads_of_readMembers hrun⟩, rfl⟩

/-- What an attribute prints before the popup opens stays in the text when the completion is
taken back. -/
theorem printing_attribute_stays :
    ∃ found u w₁, printingSample.buffer.cursor ≤ printingSample.buffer.text.length ∧
      candidates printingSample.request printingSample = (.done found, u) ∧ found ≠ [] ∧
      requestCompletion printingSample = (.done (), w₁) ∧ ¬ printingSample.Transacts w₁ ∧
      printingSample.buffer.text = "a.p".toList ∧
      w₁.buffer.cancelPopup.text = "a.px\n".toList := by
  obtain ⟨reading, hrun⟩ : ∃ reading : Reading printingSample (.object 3),
      readMembers (.object 3) sampleAttributes printingSample =
        (.done reading.read, reading.after) :=
    exists_reading_computingSample (by decide +kernel)
  -- the names are read in order, and the last of them prints
  have hprinted : (readMembers (.object 3) sampleAttributes printingSample).2.buffer.text =
      "a.px\n".toList := by decide +kernel
  rw [hrun] at hprinted
  have hread : printingSample.request = ⟨"a".toList, .member, "p".toList⟩ := by decide +kernel
  have hresolve : resolvePath "a".toList printingSample =
      (.done (.ok (.object 3)), printingSample) := rfl
  have hnames : requestedNames printingSample.request printingSample =
      (.done (some (reading.names .member)), reading.after) := by
    rw [hread]
    unfold requestedNames
    rw [if_neg (by decide), bind_done hresolve]
    exact bind_done (namesOf_of_reading (by rintro _ ⟨⟩) reading)
  obtain ⟨notes, hfound⟩ := candidates_of_names hnames
  have hmem : "p" ∈ matching printingSample.request.typed (reading.names .member) := by
    rw [hread, mem_matching, Reading.mem_names_iff]
    exact ⟨.inl (by decide +kernel), List.prefix_refl _⟩
  have hne := List.ne_nil_of_mem hmem
  refine ⟨_, _, _, by decide +kernel, hfound, hne, requestCompletion_found hfound hne, ?_, rfl, ?_⟩
  · intro htransacts
    -- a transaction would have left the text alone
    obtain ⟨htext, -⟩ := unchanged_of_transacts htransacts
    have hsame : "a.px\n".toList = "a.p".toList := hprinted.symm.trans htext
    cases hsame
  · exact (Buffer.cancelPopup_openPopup _ _ _).1.trans hprinted

end Scratchpad
