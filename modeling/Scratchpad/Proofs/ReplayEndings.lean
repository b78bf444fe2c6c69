import Scratchpad.Proofs.Containment
import Scratchpad.Proofs.Replay
import Scratchpad.Script.Run

/-!
# How replays end

A replay goes through if each commit that it makes comes to an answer, and otherwise ends
as the first one that does not. A commit in turn is cut short by an exception that it does
not take in: one of the run that is an interrupt or the like, one of the display that is no
fault, and one that is met in describing another.

* `fault?_bind` — what cuts a sequence short;
* `commit_raised_iff` — what leaves a commit;
* `fault?_replaySnippet`, `fault?_replayed` — a snippet, and by induction any number of them;
* `replay_goes_through_iff` — the replays that go through.
-/

namespace Scratchpad

/-! ## Cutting short -/

/-- What cuts a computation short. -/
def Ending.fault? {α : Type} : Ending α → Option RunFault
  | .done _ => none
  | .raised e => some (.raised e)
  | .spent => some .spent

theorem Ending.fault?_eq_some_iff {α : Type} {x : Ending α} {fault : RunFault} :
    x.fault? = some fault ↔
      (∃ e, x = .raised e ∧ fault = .raised e) ∨ x = .spent ∧ fault = .spent := by
  cases x <;> simp [Ending.fault?, eq_comm]

namespace Run

variable {α β : Type} {x : Run α} {f : α → Run β} {w w' : World}

theorem exists_of_fault?_eq_none (h : (x w).1.fault? = none) : ∃ a w', x w = (.done a, w') := by
  rcases hx : x w with ⟨a | e | _, w'⟩
  · exact ⟨a, w', rfl⟩
  · rw [hx] at h
    cases h
  · rw [hx] at h
    cases h

theorem bind_raised_inv {e : Raised} (h : (x >>= f) w = (.raised e, w')) :
    x w = (.raised e, w') ∨ ∃ a w₁, x w = (.done a, w₁) ∧ f a w₁ = (.raised e, w') := by
  rcases hx : x w with ⟨a | e' | _, w₁⟩
  · rw [bind_done hx] at h
    exact Or.inr ⟨a, w₁, rfl, h⟩
  · rw [bind_raised hx] at h
    cases h
    exact Or.inl rfl
  · rw [bind_spent hx] at h
    cases h

/-- A sequence is cut short in its first part, or in the second part that follows. -/
theorem fault?_bind {fault : RunFault} :
    ((x >>= f) w).1.fault? = some fault ↔
      (x w).1.fault? = some fault ∨
        ∃ a w', x w = (.done a, w') ∧ (f a w').1.fault? = some fault := by
  rcases hx : x w with ⟨a | e | _, w'⟩
  · rw [bind_done hx]
    -- only a first part that goes through is followed by the second
    refine ⟨fun h => Or.inr ⟨a, w', rfl, h⟩, ?_⟩
    rintro (h | ⟨b, v, heq, h⟩)
    · cases h
    · cases heq
      exact h
  · rw [bind_raised hx]
    refine ⟨Or.inl, ?_⟩
    rintro (h | ⟨b, v, heq, -⟩)
    · exact h
    · cases heq
  · rw [bind_spent hx]
    refine ⟨Or.inl, ?_⟩
    rintro (h | ⟨b, v, heq, -⟩)
    · exact h
    · cases heq

end Run

/-! ## Commits -/

namespace World

/-- The commit comes to an answer. -/
def Settles (w : World) : Prop := ∃ answer w', commit w = (.done answer, w')

/-- The exceptions that leave a commit. While a snippet runs, faults and exits are taken;
while its value is shown, only faults. -/
inductive LetsOut (w : World) (e' : Raised) : Prop where
  | run {code : Code} {e : Raised} {w₁ : World}
      (compiles : compile w.buffer.target.source = .ok code)
      (raised : code.run w.opened = (.raised e, w₁))
      (goesOn : w₁.GoesOnAs Raised.isContained e e')
  | display {code : Code} {v : Value} {e : Raised} {w₁ : World}
      (compiles : compile w.buffer.target.source = .ok code)
      (value : runCompiled (.ok code) w.opened = (.done (.value v), w₁))
      (raised : w₁.resultText w₁.settings.edge w₁.settings.indent v = .error e)
      (goesOn : w₁.GoesOnAs Raised.isFault e e')

end World

section Commits

variable {w w' w₁ : World} {code : Code} {e : Raised}

theorem runCompiled_raised_inv (h : runCompiled (.ok code) w = (.raised e, w')) :
    ∃ e₀, code.run w = (.raised e₀, w') ∧ w'.GoesOnAs Raised.isContained e₀ e := by
  rcases hrun : code.run w with ⟨v | e₀ | _, w₁⟩
  -- a value comes to an outcome; an exception gets out uncontained, or without a description
  · obtain ⟨o, notes, hvalue⟩ := outcomeOfValue_done code.isExpression v w₁
    rw [runCompiled_done hrun, hvalue] at h
    cases h
  · rw [runCompiled_raised hrun] at h
    rcases outcomeOfRaised_cases e₀ w₁ with ⟨m, hdescribed⟩ | ⟨e', hout, hgoesOn⟩
    · rw [hdescribed] at h
      cases h
    · rw [hout] at h
      cases h
      exact ⟨e₀, rfl, hgoesOn⟩
  · rw [runCompiled_spent hrun] at h
    cases h

/-- Only the text of a value can fail. -/
theorem outcomeBlock_error_inv {o : Outcome} {edge indent : Int}
    (h : w.outcomeBlock edge indent o = .error e) :
    ∃ v, o = .value v ∧ w.resultText edge indent v = .error e := by
  cases o with
  | value v =>
    refine ⟨v, rfl, ?_⟩
    cases htext : w.resultText edge indent v with
    | ok t => simp [World.outcomeBlock, htext, bind, Except.bind, pure, Except.pure] at h
    | error e₁ =>
      rw [outcomeBlock_value htext] at h
      cases h
      rfl
  | noValue | incomplete => cases h
  | error m => cases h

/-- Only a value can fail to be shown. -/
theorem shownOutcome_raised_inv {o : Outcome} (h : shownOutcome o w = (.raised e, w')) :
    w' = w ∧ ∃ v e₀, o = .value v ∧
      w.resultText w.settings.edge w.settings.indent v = .error e₀ ∧
      w.GoesOnAs Raised.isFault e₀ e := by
  rcases shownOutcome_cases o w with ⟨o', block?, hshow, -⟩ | ⟨e₀, e', hblock, hout, hgoesOn⟩
  · rw [hshow] at h
    cases h
  · obtain ⟨v, hv, htext⟩ := outcomeBlock_error_inv hblock
    rw [hout] at h
    cases h
    exact ⟨rfl, v, e₀, hv, htext, hgoesOn⟩

/-- A snippet that does not compile is never run, so that nothing can leave its commit. -/
theorem settles_of_error {f : SourceFault} (hcode : compile w.buffer.target.source = .error f) :
    w.Settles := by
  cases hsel : w.buffer.target.selected with
  | false => exact ⟨false, _, commit_continued hcode hsel⟩
  | true =>
    have hfinish : ∃ v, finishCommit w.buffer.target.source (.error f) w.opened = (.done (), v) :=
      ⟨_, finishCommit_done (runCompiled_error f w.opened)
        (shownOutcome_block (outcomeBlock_error ..))⟩
    obtain ⟨v, hfinish⟩ := hfinish
    refine ⟨true, v, ?_⟩
    rw [commit_eq (Or.inr hsel), hcode, Run.bind_done hfinish]
    rfl

theorem commit_raised_inv (h : commit w = (.raised e, w')) : w.LetsOut e := by
  cases hcode : compile w.buffer.target.source with
  | error f =>
    obtain ⟨answer, v, hdone⟩ := settles_of_error hcode
    rw [hdone] at h
    cases h
  | ok code =>
    rw [commit_eq (Or.inl ⟨code, hcode⟩), hcode] at h
    rcases Run.bind_raised_inv h with hfinish | ⟨_, _, -, hpure⟩
    · rcases Run.bind_raised_inv hfinish with hrun | ⟨o, w₁, hrun, hrest⟩
      · obtain ⟨e₀, hraised, hgoesOn⟩ := runCompiled_raised_inv hrun
        exact .run hcode hraised hgoesOn
      · rcases Run.bind_raised_inv hrest with hshow | ⟨_, _, -, hwrite⟩
        · obtain ⟨rfl, v, e₀, rfl, htext, hgoesOn⟩ := shownOutcome_raised_inv hshow
          exact .display hcode hrun htext hgoesOn
        · cases hwrite
    · cases hpure

/-- What leaves a commit is an exception that it does not take in, or one that is met in
describing another. -/
theorem commit_raised_iff : (commit w).1 = .raised e ↔ w.LetsOut e := by
  constructor
  · intro h
    exact commit_raised_inv (Prod.ext h rfl)
  · rintro (⟨hcode, hrun, ⟨he, rfl⟩ | ⟨he, hm⟩⟩ | ⟨hcode, hvalue, htext, ⟨he, rfl⟩ | ⟨he, hm⟩⟩)
    · have hout := (runCompiled_raised hrun).trans (outcomeOfRaised_escaping he)
      rw [commit_of_raised hcode (finishCommit_run_raised hout)]
    · rw [commit_raised_undescribed hcode hrun he hm]
    · rw [commit_unshown_escaping hcode hvalue htext he]
    · rw [commit_unshown_undescribed hcode hvalue htext he hm]

theorem settles_iff : w.Settles ↔ (commit w).1.fault? = none := by
  refine ⟨?_, Run.exists_of_fault?_eq_none⟩
  rintro ⟨answer, w', h⟩
  rw [h]
  rfl

end Commits

/-! ## Replays -/

namespace World

/-- The worlds in which the replay of a snippet commits: with the snippet typed, and with
the snippet selected if that was left alone. -/
inductive CommitsFor (w : World) (s : Text) : World → Prop where
  | typed : CommitsFor w s (w.typed s)
  | selected {u : World} (left : commit (w.typed s) = (.done false, u)) :
      CommitsFor w s { u with buffer := u.buffer.select w.buffer.cursor u.buffer.cursor }

/-- The worlds in which a replay of snippets commits, as far as it gets. -/
inductive ReplayCommits : World → List Text → World → Prop where
  | first {w u : World} {s : Text} {rest : List Text} (commits : w.CommitsFor s u) :
      ReplayCommits w (s :: rest) u
  | later {w v u : World} {s : Text} {rest : List Text} (done : replaySnippet s w = (.done (), v))
      (commits : ReplayCommits v rest u) : ReplayCommits w (s :: rest) u

end World

section Replays

variable {w : World} {fault : RunFault}

/-- The replay of a snippet is cut short just as one of its commits is. -/
theorem fault?_replaySnippet {s : Text} :
    (replaySnippet s w).1.fault? = some fault ↔
      ∃ u, w.CommitsFor s u ∧ (commit u).1.fault? = some fault := by
  rw [replaySnippet_eq, Run.fault?_bind]
  constructor
  · rintro (h | ⟨answer, u, hcommit, h⟩)
    · exact ⟨_, .typed, h⟩
    · cases answer with
      | true => cases h
      | false =>
        -- a snippet that was left alone is committed once more
        refine ⟨_, .selected hcommit, ?_⟩
        simp only [Bool.not_false, if_true, Run.update_bind] at h
        rcases Run.fault?_bind.mp h with h | ⟨_, _, -, hnote⟩
        · exact h
        · cases hnote
  · rintro ⟨u, hu, h⟩
    cases hu with
    | typed => exact Or.inl h
    | selected hleft =>
      refine Or.inr ⟨false, _, hleft, ?_⟩
      simp only [Bool.not_false, if_true, Run.update_bind]
      exact Run.fault?_bind.mpr (Or.inl h)

/-- A replay is cut short just as one of its commits is. -/
theorem fault?_replayed {snippets : List Text} :
    (Run.forEach snippets replaySnippet w).1.fault? = some fault ↔
      ∃ u, w.ReplayCommits snippets u ∧ (commit u).1.fault? = some fault := by
  induction snippets generalizing w with
  | nil =>
    constructor
    · rintro ⟨⟩
    · rintro ⟨u, ⟨⟩, -⟩
  | cons s rest ih =>
    rw [Run.forEach, Run.fault?_bind, fault?_replaySnippet]
    constructor
    · rintro (⟨u, hu, h⟩ | ⟨_, v, hdone, h⟩)
      · exact ⟨u, .first hu, h⟩
      · obtain ⟨u, hu, h⟩ := ih.mp h
        -- those before it have gone through
        exact ⟨u, .later hdone hu, h⟩
    · rintro ⟨u, hu, h⟩
      cases hu with
      | first hu => exact Or.inl ⟨u, hu, h⟩
      | later hdone hu => exact Or.inr ⟨(), _, hdone, ih.mpr ⟨u, hu, h⟩⟩

/-- A replay goes through if all its commits come to an answer. -/
theorem replay_goes_through_iff {snippets : List Text} :
    (Run.forEach snippets replaySnippet w).1.fault? = none ↔
      ∀ u, w.ReplayCommits snippets u → u.Settles := by
  simp only [settles_iff, Option.eq_none_iff_forall_ne_some]
  constructor
  · intro h u hu fault hfault
    exact h fault (fault?_replayed.mpr ⟨u, hu, hfault⟩)
  · intro h fault hfault
    obtain ⟨u, hu, hfault⟩ := fault?_replayed.mp hfault
    exact h u hu fault hfault

end Replays

end Scratchpad
