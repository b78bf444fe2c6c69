import Scratchpad.Proofs.CommitSteps

/-!
# Which exceptions a commit takes in

An exception can end the run of a snippet, or meet the text of the value that the
snippet gave. Either way a commit should answer yes, write the exception as a marked
block and record the source. It does so exactly if the exception can be described, and
describing it asks the exception for its own text, which is code of the snippet again;
what it raises there leaves the commit. While a value is shown, only faults are taken
in, although a run also takes in exits.

* `reports_of_raised`, `reports_of_unshown` — the exceptions that are taken in;
* `commit_raised_undescribed`, `commit_unshown_*` — the exceptions that leave;
* `commit_contains_iff` — the exact condition.
-/

namespace Scratchpad

variable {w w₁ : World} {code : Code}

/-- The commit takes an exception in: it answers yes, a marked block with the message
stands below what the snippet wrote, and the source is recorded. -/
def World.Reports (w w₁ : World) (message : Text) : Prop :=
  ∃ w₂, commit w = (.done true, w₂) ∧
    w₂.buffer = w₁.buffer.writeBlock (some (markLines marker message)) ∧
    w₂.history = w₁.history.record w.buffer.target.source

/-- A commit that raises reports nothing. -/
theorem not_reports_of_raised {w₂ : World} {e : Raised} (h : commit w = (.raised e, w₂))
    (m : Text) : ¬ w.Reports w₁ m := by
  rintro ⟨w₃, hdone, -⟩
  rw [h] at hdone
  cases hdone

/-- A run that came to an outcome with a block ends in the block and the record. -/
theorem commit_of_shown {o o' : Outcome} {block? : Option Text}
    (hcode : compile w.buffer.target.source = .ok code)
    (hrun : runCompiled (.ok code) w.opened = (.done o, w₁))
    (hshow : shownOutcome o w₁ = (.done (o', block?), w₁)) :
    commit w = (.done true, w₁.concluded w.buffer.target.source o' block?) := by
  rw [commit_eq (Or.inl ⟨code, hcode⟩), hcode]
  rw [Run.bind_done (finishCommit_done hrun hshow)]
  rfl

/-- What leaves the run or the display of a snippet leaves the commit. -/
theorem commit_of_raised {e : Raised} (hcode : compile w.buffer.target.source = .ok code)
    (hfinish : finishCommit w.buffer.target.source (.ok code) w.opened = (.raised e, w₁)) :
    commit w = (.raised e, w₁) := by
  rw [commit_eq (Or.inl ⟨code, hcode⟩), hcode]
  exact Run.bind_raised hfinish

/-! ## Exceptions of the run -/

theorem reports_of_raised {e : Raised} {m : Text}
    (hcode : compile w.buffer.target.source = .ok code)
    (hrun : code.run w.opened = (.raised e, w₁)) (he : e.isContained = true)
    (hm : w₁.describe e = .ok m) : w.Reports w₁ m := by
  have hout := (runCompiled_raised hrun).trans (outcomeOfRaised_described he hm)
  have hcommit := commit_of_shown hcode hout (shownOutcome_block (outcomeBlock_error ..))
  refine ⟨_, hcommit, ?_, ?_⟩
  · rw [World.concluded_buffer, World.note_buffer]
  · rw [World.concluded_history, World.note_history]

theorem commit_raised_undescribed {e e' : Raised}
    (hcode : compile w.buffer.target.source = .ok code)
    (hrun : code.run w.opened = (.raised e, w₁)) (he : e.isContained = true)
    (hm : w₁.describe e = .error e') : commit w = (.raised e', w₁) := by
  have hout := (runCompiled_raised hrun).trans (outcomeOfRaised_undescribed he hm)
  exact commit_of_raised hcode (finishCommit_run_raised hout)

/-! ## Exceptions of the display -/

theorem outcomeBlock_value {v : Value} {e : Raised} {edge indent : Int}
    (h : w.resultText edge indent v = .error e) :
    w.outcomeBlock edge indent (.value v) = .error e := by
  simp [World.outcomeBlock, h, bind, Except.bind]

theorem reports_of_unshown {v : Value} {e : Raised} {m : Text}
    (hcode : compile w.buffer.target.source = .ok code)
    (hrun : runCompiled (.ok code) w.opened = (.done (.value v), w₁))
    (htext : w₁.resultText w₁.settings.edge w₁.settings.indent v = .error e)
    (he : e.isFault = true) (hm : w₁.describe e = .ok m) : w.Reports w₁ m := by
  have hshow := shownOutcome_described (outcomeBlock_value htext) he hm
  refine ⟨_, commit_of_shown hcode hrun hshow, ?_, ?_⟩
  · rw [World.concluded_buffer]
  · rw [World.concluded_history]

theorem commit_unshown_undescribed {v : Value} {e e' : Raised}
    (hcode : compile w.buffer.target.source = .ok code)
    (hrun : runCompiled (.ok code) w.opened = (.done (.value v), w₁))
    (htext : w₁.resultText w₁.settings.edge w₁.settings.indent v = .error e)
    (he : e.isFault = true) (hm : w₁.describe e = .error e') : commit w = (.raised e', w₁) :=
  commit_of_raised hcode
    (finishCommit_show_raised hrun (shownOutcome_undescribed (outcomeBlock_value htext) he hm))

theorem commit_unshown_escaping {v : Value} {e : Raised}
    (hcode : compile w.buffer.target.source = .ok code)
    (hrun : runCompiled (.ok code) w.opened = (.done (.value v), w₁))
    (htext : w₁.resultText w₁.settings.edge w₁.settings.indent v = .error e)
    (he : e.isFault = false) : commit w = (.raised e, w₁) :=
  commit_of_raised hcode
    (finishCommit_show_raised hrun (shownOutcome_escaping (outcomeBlock_value htext) he))

/-! ## The exact condition -/

/-- A snippet that compiles is evaluated the same way whether or not it was selected. -/
theorem evaluateSnippet_eq {source : Text} (hcode : compile source = .ok code)
    (selected : Bool) : evaluateSnippet source selected = runCompiled (.ok code) := by
  simp only [evaluateSnippet, hcode]

/-- Exceptions of the run are taken in exactly if they can be described, exceptions of
the display exactly if they are faults and can be described; the evaluation by itself
comes to an error under the same condition. -/
theorem commit_contains_iff (w : World) (code : Code)
    (hcode : compile w.buffer.target.source = .ok code) :
    (∀ e w₁, code.run w.opened = (.raised e, w₁) → e.isContained = true →
      ((∃ m, w.Reports w₁ m) ↔ ∃ m, w₁.describe e = .ok m) ∧
      ∀ m, w₁.describe e = .ok m → w.Reports w₁ m) ∧
    (∀ v e w₁, runCompiled (.ok code) w.opened = (.done (.value v), w₁) →
      w₁.resultText w₁.settings.edge w₁.settings.indent v = .error e →
      ((∃ m, w.Reports w₁ m) ↔ e.isFault = true ∧ ∃ m, w₁.describe e = .ok m) ∧
      ∀ m, e.isFault = true → w₁.describe e = .ok m → w.Reports w₁ m) ∧
    (∀ selected u e u₁, code.run u = (.raised e, u₁) → e.isContained = true →
      ((∃ m u₂, evaluateSnippet w.buffer.target.source selected u = (.done (.error m), u₂)) ↔
        ∃ m, u₁.describe e = .ok m)) := by
  refine ⟨?_, ?_, ?_⟩
  · intro e w₁ hrun he
    -- the code raised something
    have hin := fun m (hm : w₁.describe e = .ok m) => reports_of_raised hcode hrun he hm
    refine ⟨⟨?_, fun ⟨m, hm⟩ => ⟨m, hin m hm⟩⟩, hin⟩
    rintro ⟨m, hreports⟩
    cases hm : w₁.describe e with
    | ok m' => exact ⟨m', rfl⟩
    | error e' =>
      have hraised := commit_raised_undescribed hcode hrun he hm
      exact absurd hreports (not_reports_of_raised hraised m)
  -- the code has a value whose text fails
  · intro v e w₁ hrun htext
    have hin := fun m (he : e.isFault = true) (hm : w₁.describe e = .ok m) =>
      reports_of_unshown hcode hrun htext he hm
    refine ⟨⟨?_, fun ⟨he, m, hm⟩ => ⟨m, hin m he hm⟩⟩, hin⟩
    rintro ⟨m, hreports⟩
    cases he : e.isFault with
    | false =>
      have hraised := commit_unshown_escaping hcode hrun htext he
      exact absurd hreports (not_reports_of_raised hraised m)
    | true =>
      cases hm : w₁.describe e with
      | ok m' => exact ⟨rfl, m', rfl⟩
      | error e' =>
        have hraised := commit_unshown_undescribed hcode hrun htext he hm
        exact absurd hreports (not_reports_of_raised hraised m)
  · intro selected u e u₁ hrun he
    rw [evaluateSnippet_eq hcode, runCompiled_raised hrun]
    cases hm : u₁.describe e with
    | ok m =>
      rw [outcomeOfRaised_described he hm]
      exact ⟨fun _ => ⟨m, rfl⟩, fun _ => ⟨m, _, rfl⟩⟩
    | error e' =>
      rw [outcomeOfRaised_undescribed he hm]
      simp

/-! ## Samples

Both tests run the line of a scratchpad as far as the exception, so that a sample is
settled by evaluating them. -/

/-- The line compiles, and its run ends with an exception that is no interrupt. -/
def World.raisesInRun (w : World) : Bool :=
  match compile w.buffer.target.source with
  | .ok code => match code.run w.opened with
    | (.raised e, _) => e.isContained
    | _ => false
  | .error _ => false

/-- The line compiles to a value whose text meets an exception that is no interrupt. -/
def World.raisesInDisplay (w : World) : Bool :=
  match compile w.buffer.target.source with
  | .ok code => match runCompiled (.ok code) w.opened with
    | (.done (.value v), w₁) =>
      match w₁.resultText w₁.settings.edge w₁.settings.indent v with
      | .error e => e.isContained
      | .ok _ => false
    | _ => false
  | .error _ => false

theorem exists_of_raisesInRun (h : w.raisesInRun = true) :
    ∃ code e w₁, compile w.buffer.target.source = .ok code ∧
      code.run w.opened = (.raised e, w₁) ∧ e.isContained = true := by
  unfold World.raisesInRun at h
  split at h
  next code hcode =>
    split at h
    next e w₁ hrun => exact ⟨code, e, w₁, hcode, hrun, h⟩
    next => cases h
  next => cases h

theorem exists_of_raisesInDisplay (h : w.raisesInDisplay = true) :
    ∃ code v e w₁, compile w.buffer.target.source = .ok code ∧
      runCompiled (.ok code) w.opened = (.done (.value v), w₁) ∧
      w₁.resultText w₁.settings.edge w₁.settings.indent v = .error e ∧
      e.isContained = true := by
  unfold World.raisesInDisplay at h
  split at h
  next code hcode =>
    split at h
    next v w₁ hrun =>
      split at h
      next e htext => exact ⟨code, v, e, w₁, hcode, hrun, htext, h⟩
      next => cases h
    next => cases h
  next => cases h

/-- A computation ends with an exception. -/
def Run.raises {α : Type} (x : Run α) (w : World) : Bool :=
  match (x w).1 with
  | .raised _ => true
  | _ => false

theorem exists_of_raises {α : Type} {x : Run α} (h : x.raises w = true) :
    ∃ e w₁, x w = (.raised e, w₁) := by
  rcases hx : x w with ⟨_ | e | _, w₁⟩
  · simp [Run.raises, hx] at h
  · exact ⟨e, w₁, rfl⟩
  · simp [Run.raises, hx] at h

/-- A scratchpad with one line. The host calls an object `bad` whose text raises. -/
def failingSample (line : String) (e : Raised) : World :=
  { names := ⟨{}, { names := [("bad", .object 0)] }⟩
    buffer := { text := line.toList }
    cells := #[.failing e] }

/-- A division by zero, and a value whose text divides by zero, are taken in. -/
theorem commit_contains_division :
    (∃ code e w₁, compile (failingSample "1/0" default).buffer.target.source = .ok code ∧
      code.run (failingSample "1/0" default).opened = (.raised e, w₁) ∧
      e.isContained = true ∧
      ((∃ m, (failingSample "1/0" default).Reports w₁ m) ↔ ∃ m, w₁.describe e = .ok m)) ∧
    (∃ code v e w₁,
      compile (failingSample "bad" (.zeroDivision "x")).buffer.target.source = .ok code ∧
      runCompiled (.ok code) (failingSample "bad" (.zeroDivision "x")).opened =
        (.done (.value v), w₁) ∧
      w₁.resultText w₁.settings.edge w₁.settings.indent v = .error e ∧
      ((∃ m, (failingSample "bad" (.zeroDivision "x")).Reports w₁ m) ↔
        e.isFault = true ∧ ∃ m, w₁.describe e = .ok m)) := by
  constructor
  · obtain ⟨code, e, w₁, hcode, hrun, he⟩ :=
      exists_of_raisesInRun (w := failingSample "1/0" default) (by decide +kernel)
    exact ⟨code, e, w₁, hcode, hrun, he,
      ((commit_contains_iff _ code hcode).1 e w₁ hrun he).1⟩
  · obtain ⟨code, v, e, w₁, hcode, hrun, htext, -⟩ :=
      exists_of_raisesInDisplay (w := failingSample "bad" (.zeroDivision "x")) (by decide +kernel)
    exact ⟨code, v, e, w₁, hcode, hrun, htext,
      ((commit_contains_iff _ code hcode).2.1 v e w₁ hrun htext).1⟩

/-- An exception about an object without a text leaves the commit, and so does an exit
met while a value is shown. -/
theorem commit_lets_exceptions_out :
    (∃ code e w₁,
      compile (failingSample "raise ValueError(bad)" (.valueError "x")).buffer.target.source =
        .ok code ∧
      code.run (failingSample "raise ValueError(bad)" (.valueError "x")).opened =
        (.raised e, w₁) ∧
      e.isContained = true ∧
      ∃ e' w₂, commit (failingSample "raise ValueError(bad)" (.valueError "x")) =
        (.raised e', w₂)) ∧
    (∃ code v e w₁,
      compile (failingSample "bad" ⟨"SystemExit", []⟩).buffer.target.source = .ok code ∧
      runCompiled (.ok code) (failingSample "bad" ⟨"SystemExit", []⟩).opened =
        (.done (.value v), w₁) ∧
      w₁.resultText w₁.settings.edge w₁.settings.indent v = .error e ∧
      e.isContained = true ∧
      ∃ e' w₂, commit (failingSample "bad" ⟨"SystemExit", []⟩) = (.raised e', w₂)) := by
  constructor
  · obtain ⟨code, e, w₁, hcode, hrun, he⟩ := exists_of_raisesInRun
      (w := failingSample "raise ValueError(bad)" (.valueError "x")) (by decide +kernel)
    exact ⟨code, e, w₁, hcode, hrun, he, exists_of_raises (by decide +kernel)⟩
  · obtain ⟨code, v, e, w₁, hcode, hrun, htext, he⟩ := exists_of_raisesInDisplay
      (w := failingSample "bad" ⟨"SystemExit", []⟩) (by decide +kernel)
    exact ⟨code, v, e, w₁, hcode, hrun, htext, he, exists_of_raises (by decide +kernel)⟩

end Scratchpad
