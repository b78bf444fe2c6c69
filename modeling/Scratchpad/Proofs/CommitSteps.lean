import Mathlib.Data.List.Basic
import Scratchpad.Session.Commit

/-!
# The steps of a commit

A commit opens a line, runs the snippet, shows the outcome and records the source. Each
step has its endings described here, one lemma for each ending, so that no later proof
opens the definitions.

* `runCompiled_raised`, `runCompiled_value` — the run of a snippet comes to an outcome;
* `shownOutcome_*` — the outcome comes to a block;
* `commit_eq` — a commit that is not left alone is `finishCommit` in `World.opened`;
* `commit_shown_inv`, `commit_true_inv` — what a commit that answered yes did.
-/

namespace Scratchpad

/-! ## Endings of computations -/

namespace Ending

/-- A computation that is done. -/
def isDone {α : Type} : Ending α → Bool
  | .done _ => true
  | _ => false

theorem eq_done {e : Ending Unit} (h : e.isDone = true) : e = .done () := by
  cases e with
  | done a => rfl
  | raised e => cases h
  | spent => cases h

end Ending

namespace Run

variable {α β : Type} {x : Run α} {f : α → Run β} {w w₁ : World}

theorem bind_done {a : α} (h : x w = (.done a, w₁)) : (x >>= f) w = f a w₁ := by
  show Run.bind x f w = _
  simp [Run.bind, h]

theorem bind_raised {e : Raised} (h : x w = (.raised e, w₁)) :
    (x >>= f) w = (.raised e, w₁) := by
  show Run.bind x f w = _
  simp [Run.bind, h]

theorem bind_spent (h : x w = (.spent, w₁)) : (x >>= f) w = (.spent, w₁) := by
  show Run.bind x f w = _
  simp [Run.bind, h]

/-- A sequence that ends with a value did so step by step. -/
theorem bind_done_inv {b : β} {w₂ : World} (h : (x >>= f) w = (.done b, w₂)) :
    ∃ a w₁, x w = (.done a, w₁) ∧ f a w₁ = (.done b, w₂) := by
  rcases hx : x w with ⟨_ | _ | _, w₁⟩
  · rw [bind_done hx] at h
    -- any other ending of the first part would be the ending of all
    exact ⟨_, w₁, rfl, h⟩
  · rw [bind_raised hx] at h
    simp at h
  · rw [bind_spent hx] at h
    simp at h

@[simp] theorem pure_apply (a : α) (w : World) : (Pure.pure a : Run α) w = (.done a, w) := rfl

@[simp] theorem raise_apply (e : Raised) (w : World) :
    (raise e : Run α) w = (.raised e, w) := rfl

@[simp] theorem world_bind (f : World → Run β) (w : World) : (world >>= f) w = f w w := rfl

@[simp] theorem update_bind (g : World → World) (f : Unit → Run β) (w : World) :
    (update g >>= f) w = f () (g w) := rfl

@[simp] theorem ofExcept_ok (a : α) : (ofExcept (.ok a) : Run α) = Pure.pure a := rfl

@[simp] theorem ofExcept_error (e : Raised) : (ofExcept (.error e) : Run α) = raise e := rfl

@[simp] theorem pure_bind (a : α) (f : α → Run β) (w : World) :
    ((Pure.pure a : Run α) >>= f) w = f a w := rfl

@[simp] theorem raise_bind (e : Raised) (f : α → Run β) (w : World) :
    ((raise e : Run α) >>= f) w = (.raised e, w) := rfl

end Run

/-! ## Running a snippet -/

namespace World

/-- What an exception that meets a handler goes on as: itself if the handler does not take
it, and if it does, the exception that is met in describing it. -/
def GoesOnAs (w : World) (takes : Raised → Bool) (e e' : Raised) : Prop :=
  takes e = false ∧ e' = e ∨ takes e = true ∧ w.describe e = .error e'

end World

section Running

variable {code : Code} {w w₁ : World}

theorem runCompiled_error (f : SourceFault) (w : World) :
    runCompiled (.error f) w =
      (.done (.error f.text), w.note evaluatorSource ("compile error: ".toList ++ f.text)) := rfl

/-- A raised exception is judged in the world that it left. -/
theorem runCompiled_raised {e : Raised} (h : code.run w = (.raised e, w₁)) :
    runCompiled (.ok code) w = outcomeOfRaised e w₁ := by
  have hattempt : Run.attempt code.run w = (.done (.error e), w₁) := by simp [Run.attempt, h]
  simp only [runCompiled]
  rw [Run.bind_done hattempt]

theorem runCompiled_done {v : Value} (h : code.run w = (.done v, w₁)) :
    runCompiled (.ok code) w = outcomeOfValue code.isExpression v w₁ := by
  have hattempt : Run.attempt code.run w = (.done (.ok v), w₁) := by simp [Run.attempt, h]
  simp only [runCompiled]
  rw [Run.bind_done hattempt]

theorem runCompiled_spent (h : code.run w = (.spent, w₁)) :
    runCompiled (.ok code) w = (.spent, w₁) := by
  have hattempt : Run.attempt code.run w = (.spent, w₁) := by simp [Run.attempt, h]
  simp only [runCompiled]
  rw [Run.bind_spent hattempt]

theorem outcomeOfRaised_described {e : Raised} {m : Text} (he : e.isContained = true)
    (hm : w.describe e = .ok m) :
    outcomeOfRaised e w =
      (.done (.error m), w.note evaluatorSource ("runtime error: ".toList ++ m)) := by
  simp [outcomeOfRaised, he, hm, noteEvaluation]

/-- An exception that cannot be described gives way to the one met in describing it. -/
theorem outcomeOfRaised_undescribed {e e' : Raised} (he : e.isContained = true)
    (hm : w.describe e = .error e') : outcomeOfRaised e w = (.raised e', w) := by
  simp [outcomeOfRaised, he, hm]

theorem outcomeOfRaised_escaping {e : Raised} (he : e.isContained = false) :
    outcomeOfRaised e w = (.raised e, w) := by
  simp [outcomeOfRaised, he]

/-- An exception is described, or something gets out of its handler. -/
theorem outcomeOfRaised_cases (e : Raised) (w : World) :
    (∃ m, outcomeOfRaised e w =
      (.done (.error m), w.note evaluatorSource ("runtime error: ".toList ++ m))) ∨
    ∃ e', outcomeOfRaised e w = (.raised e', w) ∧ w.GoesOnAs Raised.isContained e e' := by
  cases he : e.isContained with
  | false => exact Or.inr ⟨e, outcomeOfRaised_escaping he, Or.inl ⟨he, rfl⟩⟩
  | true =>
    cases hm : w.describe e with
    | ok m => exact Or.inl ⟨m, outcomeOfRaised_described he hm⟩
    | error e' => exact Or.inr ⟨e', outcomeOfRaised_undescribed he hm, Or.inr ⟨he, hm⟩⟩

/-- A value comes to an outcome and leaves a note at most. -/
theorem outcomeOfValue_done (isExpression : Bool) (v : Value) (w : World) :
    ∃ o notes, outcomeOfValue isExpression v w = (.done o, { w with notes }) := by
  cases isExpression with
  | false => exact ⟨.noValue, w.notes, by simp [outcomeOfValue]⟩
  | true => cases v <;> exact ⟨_, _, rfl⟩

/-- A snippet that came to an outcome left, but for notes, the world of its run. -/
theorem runCompiled_done_inv {o : Outcome} (h : runCompiled (.ok code) w = (.done o, w₁)) :
    w₁ = { (code.run w).2 with notes := w₁.notes } := by
  rcases hrun : code.run w with ⟨v | e | _, w₂⟩
  -- an outcome is made of a value, or of an exception that is contained and can be described
  · obtain ⟨o', notes, hvalue⟩ := outcomeOfValue_done code.isExpression v w₂
    rw [runCompiled_done hrun, hvalue] at h
    cases h
    rfl
  · rw [runCompiled_raised hrun] at h
    rcases outcomeOfRaised_cases e w₂ with ⟨m, hdescribed⟩ | ⟨e', hout, -⟩
    · rw [hdescribed] at h
      cases h
      rfl
    · rw [hout] at h
      cases h
  · rw [runCompiled_spent hrun] at h
    cases h

end Running

section Showing

variable {o : Outcome} {w : World}

theorem shownOutcome_block {block? : Option Text}
    (h : w.outcomeBlock w.settings.edge w.settings.indent o = .ok block?) :
    shownOutcome o w = (.done (o, block?), w) := by
  simp [shownOutcome, h]

/-- A fault met in showing a value is shown in its place. -/
theorem shownOutcome_described {e : Raised} {m : Text}
    (h : w.outcomeBlock w.settings.edge w.settings.indent o = .error e)
    (he : e.isFault = true) (hm : w.describe e = .ok m) :
    shownOutcome o w = (.done (.error m, some (markLines marker m)), w) := by
  simp [shownOutcome, h, he, hm]

theorem shownOutcome_undescribed {e e' : Raised}
    (h : w.outcomeBlock w.settings.edge w.settings.indent o = .error e)
    (he : e.isFault = true) (hm : w.describe e = .error e') :
    shownOutcome o w = (.raised e', w) := by
  simp [shownOutcome, h, he, hm]

/-- What is no fault is not shown, not even an exit. -/
theorem shownOutcome_escaping {e : Raised}
    (h : w.outcomeBlock w.settings.edge w.settings.indent o = .error e)
    (he : e.isFault = false) : shownOutcome o w = (.raised e, w) := by
  simp [shownOutcome, h, he]

/-- The block that is written is the one of the outcome that is shown, or something gets
out of the handler of a failed display. -/
theorem shownOutcome_cases (o : Outcome) (w : World) :
    (∃ o' block?, shownOutcome o w = (.done (o', block?), w) ∧
      w.outcomeBlock w.settings.edge w.settings.indent o' = .ok block?) ∨
    ∃ e e', w.outcomeBlock w.settings.edge w.settings.indent o = .error e ∧
      shownOutcome o w = (.raised e', w) ∧ w.GoesOnAs Raised.isFault e e' := by
  cases hblock : w.outcomeBlock w.settings.edge w.settings.indent o with
  | ok block? => exact Or.inl ⟨o, block?, shownOutcome_block hblock, hblock⟩
  | error e =>
    cases he : e.isFault with
    | false => exact Or.inr ⟨e, e, rfl, shownOutcome_escaping hblock he, Or.inl ⟨he, rfl⟩⟩
    | true =>
      cases hm : w.describe e with
      -- a described fault is an error outcome, and its block is the one of that outcome
      | ok m => exact Or.inl ⟨.error m, _, shownOutcome_described hblock he hm, rfl⟩
      | error e' =>
        exact Or.inr ⟨e, e', rfl, shownOutcome_undescribed hblock he hm, Or.inr ⟨he, hm⟩⟩

/-- Showing an outcome changes nothing. -/
theorem shownOutcome_world (o : Outcome) (w : World) : (shownOutcome o w).2 = w := by
  rcases shownOutcome_cases o w with ⟨o', block?, hshow, -⟩ | ⟨e, e', -, hout, -⟩
  · rw [hshow]
  · rw [hout]

theorem outcomeBlock_error (w : World) (edge indent : Int) (m : Text) :
    w.outcomeBlock edge indent (.error m) = .ok (some (markLines marker m)) := rfl

end Showing

/-! ## The whole commit -/

theorem exists_ok {ε α : Type} {r : Except ε α} (h : r.isOk = true) : ∃ a, r = .ok a := by
  cases r with
  | ok a => exact ⟨a, rfl⟩
  | error f => cases h

namespace World

/-- The world in which the snippet runs: a line is open below what is evaluated. -/
def opened (w : World) : World :=
  { w with buffer := w.buffer.openBelow w.buffer.target.last }

/-- The world that the snippet leaves: nothing runs if it does not compile. -/
def evaluated (w : World) : World :=
  match compile w.buffer.target.source with
  | .ok code => (code.run w.opened).2
  | .error _ => w.opened

/-- The world with an outcome's block written and a source recorded. -/
def concluded (w : World) (source : Text) (o : Outcome) (block? : Option Text) : World :=
  { w with buffer := w.buffer.writeBlock block?, history := w.history.record source }.note
    sessionSource
    s!"committed {lineCount source} line(s): {o.kindName}".toList

theorem opened_buffer (w : World) :
    w.opened.buffer = w.buffer.openBelow w.buffer.target.last := by
  simp only [opened]

@[simp] theorem note_buffer (w : World) (source : String) (t : Text) :
    (w.note source t).buffer = w.buffer := rfl

@[simp] theorem note_history (w : World) (source : String) (t : Text) :
    (w.note source t).history = w.history := rfl

@[simp] theorem concluded_buffer (w : World) (source : Text) (o : Outcome)
    (block? : Option Text) :
    (w.concluded source o block?).buffer = w.buffer.writeBlock block? := rfl

@[simp] theorem concluded_history (w : World) (source : Text) (o : Outcome)
    (block? : Option Text) :
    (w.concluded source o block?).history = w.history.record source := rfl

end World

section Committing

variable {w w₁ : World}

/-- A line that does not compile is left alone. -/
theorem commit_continued {f : SourceFault} (hcode : compile w.buffer.target.source = .error f)
    (hsel : w.buffer.target.selected = false) :
    commit w = (.done false,
      w.note sessionSource ("continuation line: ".toList ++ quoted w.buffer.target.source)) := by
  simp only [commit, Run.world_bind, hcode, hsel]
  rfl

/-- Everything else is run in the opened world. -/
theorem commit_eq
    (h : (∃ code, compile w.buffer.target.source = .ok code) ∨ w.buffer.target.selected = true) :
    commit w =
      (finishCommit w.buffer.target.source (compile w.buffer.target.source) >>=
        fun _ => Pure.pure true) w.opened := by
  simp only [commit, Run.world_bind]
  cases hcode : compile w.buffer.target.source with
  | ok code =>
    simp only [Run.update_bind]
    rfl
  | error f =>
    -- what does not compile is only evaluated if it was selected
    have hsel : w.buffer.target.selected = true := by
      rcases h with ⟨code, hok⟩ | hsel
      · rw [hcode] at hok
        cases hok
      · exact hsel
    rw [hsel]
    simp only [Run.update_bind]
    rfl

theorem finishCommit_done {source : Text} {c : Compiled} {o o' : Outcome}
    {block? : Option Text} (hrun : runCompiled c w = (.done o, w₁))
    (hshow : shownOutcome o w₁ = (.done (o', block?), w₁)) :
    finishCommit source c w = (.done (), w₁.concluded source o' block?) := by
  simp only [finishCommit]
  rw [Run.bind_done hrun, Run.bind_done hshow]
  rfl

theorem finishCommit_run_raised {source : Text} {c : Compiled} {e : Raised}
    (hrun : runCompiled c w = (.raised e, w₁)) :
    finishCommit source c w = (.raised e, w₁) := by
  simp only [finishCommit]
  rw [Run.bind_raised hrun]

theorem finishCommit_show_raised {source : Text} {c : Compiled} {o : Outcome} {e : Raised}
    (hrun : runCompiled c w = (.done o, w₁)) (hshow : shownOutcome o w₁ = (.raised e, w₁)) :
    finishCommit source c w = (.raised e, w₁) := by
  simp only [finishCommit]
  rw [Run.bind_done hrun, Run.bind_raised hshow]

/-- A commit that answered yes ran the snippet to an outcome, showed the outcome in the
world that the snippet left but for notes, and recorded the source. -/
theorem commit_shown_inv (h : commit w = (.done true, w₁)) :
    ∃ o o' block? notes,
      shownOutcome o { w.evaluated with notes } = (.done (o', block?), { w.evaluated with notes }) ∧
      w₁ = { w.evaluated with notes }.concluded w.buffer.target.source o' block? := by
  have hruns : (∃ code, compile w.buffer.target.source = .ok code) ∨
      w.buffer.target.selected = true := by
    cases hcode : compile w.buffer.target.source with
    | ok code => exact Or.inl ⟨code, rfl⟩
    | error f =>
      right
      by_contra hsel
      rw [commit_continued hcode (by simpa using hsel)] at h
      cases h
  rw [commit_eq hruns] at h
  obtain ⟨_, w₂, hfinish, hpure⟩ := Run.bind_done_inv h
  cases hpure
  obtain ⟨o, w₂, hrun, hrest⟩ := Run.bind_done_inv hfinish
  obtain ⟨⟨o', block?⟩, w₃, hshow, hwrite⟩ := Run.bind_done_inv hrest
  -- showing an outcome leaves the world alone
  have hsame : w₃ = w₂ := by
    rw [← shownOutcome_world o w₂, hshow]
  subst hsame
  cases hwrite
  have hworld : w₃ = { w.evaluated with notes := w₃.notes } := by
    cases hcode : compile w.buffer.target.source with
    | ok code =>
      rw [hcode] at hrun
      have hrun' := runCompiled_done_inv hrun
      simpa only [World.evaluated, hcode] using hrun'
    | error f =>
      rw [hcode, runCompiled_error] at hrun
      cases hrun
      simp only [World.evaluated, hcode, World.note]
  refine ⟨o, o', block?, w₃.notes, ?_, ?_⟩
  · rw [← hworld]
    exact hshow
  · rw [← hworld]
    rfl

/-- A commit that answered yes ran the snippet, wrote a block or none below what the
snippet wrote, and recorded the source. -/
theorem commit_true_inv (h : commit w = (.done true, w₁)) :
    ∃ block?, w₁.buffer = w.evaluated.buffer.writeBlock block? ∧
      w₁.history = w.evaluated.history.record w.buffer.target.source := by
  obtain ⟨o, o', block?, notes, -, rfl⟩ := commit_shown_inv h
  exact ⟨block?, World.concluded_buffer .., World.concluded_history ..⟩

end Committing

end Scratchpad
