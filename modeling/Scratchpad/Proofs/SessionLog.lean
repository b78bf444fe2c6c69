import Scratchpad.App.Key
import Scratchpad.Proofs.Completion
import Scratchpad.Proofs.HistoryWalk
import Scratchpad.Proofs.Replay

/-!
# The log of a session

The log holds what was committed and nothing else. Of all that can be done to a session,
only a commit that answers yes adds to the log, and it adds the source that it evaluated.
Everything else moves the position at most. A commit that answers no changes nothing.

The invariant is that the position stays within the log.

* `commit_false_forms` — when a commit answers no, and what it leaves;
* `Action.perform_cases` — what an action can do to the log;
* `Action.perform_log` — one action;
* `performAll_log` — any number of actions, by induction;
* `session_logs_commits` — the log at every point of a session.
-/

namespace Scratchpad

/-! ## What is done to a session -/

/-- What the user does to a session. -/
inductive Action where
  | submit
  | enter
  | complete
  | browse (step : HistoryStep)
  | below
  | above
  | accept
  | dismiss
  /-- Typing, moving the cursor, selecting, or any other change of the buffer. -/
  | edit (f : Buffer → Buffer)

namespace Action

/-- What an action does. -/
def perform : Action → Run Unit
  | .submit => do
    let _ ← commit
  | .enter => pressEnter
  | .complete => requestCompletion
  | .browse step => Run.update (·.browse step)
  | .below => changeBuffer Buffer.popupNext
  | .above => changeBuffer Buffer.popupPrev
  | .accept => changeBuffer Buffer.acceptPopup
  | .dismiss => changeBuffer Buffer.cancelPopup
  | .edit f => changeBuffer f

/-- Whether an action commits; the enter key does so while no popup is open. -/
def commits (a : Action) (w : World) : Bool :=
  match a with
  | .submit => true
  | .enter => w.buffer.popup.isNone
  | _ => false

/-- Whether an action asks for candidates. -/
def completes : Action → Bool
  | .complete => true
  | _ => false

/-- The source that an action commits, if that answers yes. -/
def consumed (a : Action) (w : World) : List Text :=
  if a.commits w && commit.saysYes w then [w.buffer.target.source] else []

end Action

namespace World

/-- The sources of the commits that answer yes, in order. -/
def consumed (w : World) : List Action → List Text
  | [] => []
  | a :: rest => a.consumed w ++ (a.perform w).2.consumed rest

/-- The code that is run to find candidates leaves the log alone. -/
def KeepsLogFinding (w : World) : Prop := (candidates w.request w).2.history = w.history

/-- The code that the actions run leaves the log alone: the source that a commit evaluates, and
the path and the attributes that a request for candidates reads. -/
def KeepsLogIn (w : World) : List Action → Prop
  | [] => True
  | a :: rest => (a.commits w = true → w.KeepsLog) ∧ (a.completes = true → w.KeepsLogFinding) ∧
    (a.perform w).2.KeepsLogIn rest

/-- The position of the log is that of an entry, or behind the last one. -/
def LogStands (w : World) : Prop := w.history.pos ≤ w.history.entries.length

end World

/-! ## Commits -/

theorem compile_error_iff {t : Text} :
    (∃ f, compile t = .error f) ↔
      (∃ f, compileExpression t = .error f) ∧ ∃ f, compileStatements t = .error f := by
  unfold compile
  cases compileExpression t <;> cases compileStatements t <;> simp [Except.map]

theorem target_selected {b : Buffer} (h : b.target.selected = false) :
    b.selection.1 = b.selection.2 := by
  by_contra hne
  rw [Buffer.target_of_selected hne] at h
  cases h

/-- A commit answers no only if nothing is selected and neither form compiles, and then it
leaves everything alone but for a note. -/
theorem commit_false_forms {w w' : World} (h : commit w = (.done false, w')) :
    w.buffer.selection.1 = w.buffer.selection.2 ∧
      (∃ f, compileExpression w.buffer.target.source = .error f) ∧
      (∃ f, compileStatements w.buffer.target.source = .error f) ∧
      w' = { w with notes := w'.notes } := by
  obtain ⟨herror, hselected, hworld⟩ := commit_false_inv h
  obtain ⟨hexpression, hstatements⟩ := compile_error_iff.mp herror
  exact ⟨target_selected hselected, hexpression, hstatements, hworld⟩

/-- A commit that answers yes adds its source and shows no entry. -/
theorem commit_true_history {w w' : World} (hkeeps : w.KeepsLog)
    (h : commit w = (.done true, w')) :
    w'.history = .ofEntries (w.history.entries ++ [w.buffer.target.source]) := by
  obtain ⟨-, -, hhistory⟩ := commit_true_inv h
  rw [hhistory, History.record, hkeeps]

theorem saysYes_of_commit {w w' : World} {answer : Bool} (h : commit w = (.done answer, w')) :
    commit.saysYes w = answer := by
  unfold Run.saysYes
  rw [h]

/-! ## One action -/

/-- A step through the history leaves the entries alone and the position within them. -/
theorem browse_log {w : World} (hstands : w.LogStands) (step : HistoryStep) :
    (w.browse step).history.entries = w.history.entries ∧ (w.browse step).LogStands := by
  by_cases hpopup : w.buffer.popup = none
  · rcases World.browse_cases hpopup hstands step with hsame | ⟨pos, e, -, he, hhistory, -⟩
    · rw [hsame]
      exact ⟨rfl, hstands⟩
    · have hpos : pos < w.history.entries.length := (List.getElem?_eq_some_iff.mp he).1
      constructor
      · rw [hhistory]
      · unfold World.LogStands
        rw [hhistory]
        exact hpos.le
  · -- the popup takes the step
    have hopen : w.buffer.popup.isSome = true := Option.isSome_iff_ne_none.mpr hpopup
    have hhistory : (w.browse step).history = w.history := by
      cases step <;> simp [World.browse, World.historyPrev, World.historyNext, hopen]
    unfold World.LogStands
    rw [hhistory]
    exact ⟨rfl, hstands⟩

/-- A request itself touches the buffer at most, once the candidates are found. -/
theorem requestCompletion_history {w w' : World} (h : requestCompletion w = (.done (), w')) :
    w'.history = (candidates w.request w).2.history := by
  obtain ⟨found, u, hfound, hrest⟩ := Run.bind_done_inv (x := candidates w.request) h
  rw [hfound]
  split at hrest <;>
  · cases hrest
    rfl

/-- Without computed attributes no code is run to find candidates. -/
theorem World.keepsLogFinding_of_plain {w : World} (h : w.cells.Plain) : w.KeepsLogFinding :=
  (candidates_keep (Request.path_pathText _) w h).same.history

/-- The enter key accepts the popup, or commits and breaks a line that is left alone. -/
theorem pressEnter_cases {w w' : World} (h : pressEnter w = (.done (), w')) :
    (w.buffer.popup.isNone = false ∧ w' = { w with buffer := w.buffer.acceptPopup }) ∨
      (w.buffer.popup.isNone = true ∧
        (commit w = (.done true, w') ∨
          ∃ u, commit w = (.done false, u) ∧ w' = { u with buffer := u.buffer.newline })) := by
  simp only [pressEnter, Run.world_bind] at h
  cases hpopup : w.buffer.popup with
  | some p =>
    left
    rw [hpopup] at h
    cases h
    exact ⟨rfl, rfl⟩
  | none =>
    right
    rw [hpopup] at h
    obtain ⟨answer, u, hcommit, hrest⟩ := Run.bind_done_inv h
    refine ⟨rfl, ?_⟩
    cases answer with
    | true =>
      cases hrest
      exact .inl hcommit
    | false =>
      cases hrest
      exact .inr ⟨u, hcommit, rfl⟩

namespace Action

variable {a : Action} {w w' : World}

/-- What an action can do: a commit answers yes, a commit answers no and a line may be
broken, or nothing is committed and the entries stay. -/
theorem perform_cases (hstands : w.LogStands) (hkeeps : a.completes = true → w.KeepsLogFinding)
    (h : a.perform w = (.done (), w')) :
    (a.commits w = true ∧
      (commit w = (.done true, w') ∨
        ∃ u, commit w = (.done false, u) ∧ w' = { u with buffer := w'.buffer })) ∨
      (a.commits w = false ∧ w'.history.entries = w.history.entries ∧ w'.LogStands) := by
  -- a change of the buffer is no change of the log
  have hchange : ∀ f : Buffer → Buffer, changeBuffer f w = (.done (), w') →
      w'.history.entries = w.history.entries ∧ w'.LogStands := by
    intro f hf
    cases hf
    exact ⟨rfl, hstands⟩
  cases a with
  | submit =>
    left
    obtain ⟨answer, _, hcommit, hrest⟩ := Run.bind_done_inv h
    cases hrest
    refine ⟨rfl, ?_⟩
    cases answer with
    | true => exact .inl hcommit
    | false => exact .inr ⟨w', hcommit, rfl⟩
  | enter =>
    rcases pressEnter_cases h with ⟨hpopup, rfl⟩ | ⟨hpopup, hyes | ⟨u, hno, rfl⟩⟩
    · exact .inr ⟨hpopup, rfl, hstands⟩
    · exact .inl ⟨hpopup, .inl hyes⟩
    · exact .inl ⟨hpopup, .inr ⟨u, hno, rfl⟩⟩
  | complete =>
    -- the code that was run is the only part that could record something
    right
    have hhistory : w'.history = w.history := (requestCompletion_history h).trans (hkeeps rfl)
    unfold World.LogStands
    rw [hhistory]
    exact ⟨rfl, rfl, hstands⟩
  | browse step =>
    right
    cases h
    exact ⟨rfl, browse_log hstands step⟩
  | below => exact .inr ⟨rfl, hchange _ h⟩
  | above => exact .inr ⟨rfl, hchange _ h⟩
  | accept => exact .inr ⟨rfl, hchange _ h⟩
  | dismiss => exact .inr ⟨rfl, hchange _ h⟩
  | edit f => exact .inr ⟨rfl, hchange f h⟩

/-- An action adds to the log just the source that it committed. -/
theorem perform_log (hstands : w.LogStands) (hkeeps : a.commits w = true → w.KeepsLog)
    (hfinding : a.completes = true → w.KeepsLogFinding)
    (h : a.perform w = (.done (), w')) :
    w'.history.entries = w.history.entries ++ a.consumed w ∧ w'.LogStands := by
  unfold consumed
  rcases perform_cases hstands hfinding h with
    ⟨hcommits, hyes | ⟨u, hno, hw'⟩⟩ | ⟨hidle, hentries, hstands'⟩
  · have hhistory := commit_true_history (hkeeps hcommits) hyes
    rw [hcommits, saysYes_of_commit hyes]
    unfold World.LogStands
    rw [hhistory]
    exact ⟨rfl, Nat.le_refl _⟩
  · obtain ⟨-, -, -, hu⟩ := commit_false_forms hno
    -- an answer of no left everything alone
    have hhistory : w'.history = w.history := by
      rw [hw', hu]
    rw [hcommits, saysYes_of_commit hno]
    unfold World.LogStands
    rw [hhistory]
    exact ⟨by simp, hstands⟩
  · rw [hidle]
    exact ⟨by simpa using hentries, hstands'⟩

end Action

/-! ## A whole session -/

section Session

variable {w w' : World}

theorem keepsLogIn_append {earlier later : List Action} (hkeeps : w.KeepsLogIn (earlier ++ later))
    (h : Run.forEach earlier Action.perform w = (.done (), w')) :
    w.KeepsLogIn earlier ∧ w'.KeepsLogIn later := by
  induction earlier generalizing w with
  | nil =>
    cases h
    exact ⟨trivial, hkeeps⟩
  | cons a earlier ih =>
    obtain ⟨u, ha, hrest⟩ := Run.forEach_cons_inv h
    obtain ⟨hfirst, hfinding, hmore⟩ := hkeeps
    rw [ha] at hmore
    obtain ⟨hearlier, hlater⟩ := ih hmore hrest
    refine ⟨⟨hfirst, hfinding, ?_⟩, hlater⟩
    rw [ha]
    exact hearlier

/-- Actions add to the log just the sources that they committed, in order. -/
theorem performAll_log {actions : List Action} (hstands : w.LogStands)
    (hkeeps : w.KeepsLogIn actions)
    (h : Run.forEach actions Action.perform w = (.done (), w')) :
    w'.history.entries = w.history.entries ++ w.consumed actions ∧ w'.LogStands := by
  induction actions generalizing w with
  | nil =>
    cases h
    exact ⟨(List.append_nil _).symm, hstands⟩
  | cons a rest ih =>
    obtain ⟨u, ha, hrest⟩ := Run.forEach_cons_inv h
    obtain ⟨hfirst, hfinding, hmore⟩ := hkeeps
    rw [ha] at hmore
    obtain ⟨hentries, hstands'⟩ := Action.perform_log hstands hfirst hfinding ha
    obtain ⟨hall, hend⟩ := ih hstands' hmore hrest
    refine ⟨?_, hend⟩
    rw [hall, hentries, List.append_assoc, World.consumed, ha]

/-- The log of a session holds what was there and the sources of the commits that answered
yes, in order, and its position stays within it. Right after such a commit the position is
behind the last entry. A commit that answers no had no selection and a line of which
neither form compiles, and it changed nothing. -/
theorem session_logs_commits {actions : List Action} (hstands : w.LogStands)
    (hkeeps : w.KeepsLogIn actions)
    (h : Run.forEach actions Action.perform w = (.done (), w')) :
    (∀ earlier, earlier <+: actions → ∃ u,
      Run.forEach earlier Action.perform w = (.done (), u) ∧
      u.history.entries = w.history.entries ++ w.consumed earlier ∧
      u.history.pos ≤ u.history.entries.length) ∧
    ∀ earlier a, earlier ++ [a] <+: actions → ∃ u v,
      Run.forEach earlier Action.perform w = (.done (), u) ∧ a.perform u = (.done (), v) ∧
      (a.commits u = true →
        (commit u = (.done true, v) ∧ a.consumed u = [u.buffer.target.source] ∧
          v.history.pos = v.history.entries.length) ∨
        ∃ x, commit u = (.done false, x) ∧ a.consumed u = [] ∧
          u.buffer.selection.1 = u.buffer.selection.2 ∧
          (∃ f, compileExpression u.buffer.target.source = .error f) ∧
          (∃ f, compileStatements u.buffer.target.source = .error f) ∧
          x = { u with notes := x.notes }) := by
  constructor
  · rintro earlier ⟨later, rfl⟩
    obtain ⟨u, hearlier, -⟩ := Run.forEach_append_inv h
    obtain ⟨hkept, -⟩ := keepsLogIn_append hkeeps hearlier
    exact ⟨u, hearlier, performAll_log hstands hkept hearlier⟩
  -- the action starts where the earlier ones ended
  · rintro earlier a ⟨later, rfl⟩
    rw [List.append_assoc] at h hkeeps
    obtain ⟨u, hearlier, hlater⟩ := Run.forEach_append_inv h
    obtain ⟨v, ha, -⟩ := Run.forEach_cons_inv hlater
    obtain ⟨hkept, hkeepsLater⟩ := keepsLogIn_append hkeeps hearlier
    obtain ⟨-, hstands'⟩ := performAll_log hstands hkept hearlier
    refine ⟨u, v, hearlier, ha, ?_⟩
    intro hcommits
    unfold Action.consumed
    rw [hcommits]
    rcases Action.perform_cases hstands' hkeepsLater.2.1 ha with ⟨-, hyes | ⟨x, hno, -⟩⟩ | ⟨hidle, -⟩
    · left
      have hhistory := commit_true_history (hkeepsLater.1 hcommits) hyes
      rw [saysYes_of_commit hyes, hhistory]
      exact ⟨hyes, rfl, rfl⟩
    · right
      rw [saysYes_of_commit hno]
      exact ⟨x, hno, rfl, commit_false_forms hno⟩
    · rw [hcommits] at hidle
      cases hidle

end Session

/-! ## A sample -/

/-- A name is completed in vain and taken back, an assignment is committed, the head of a block
is only broken, and the assignment is recalled and committed again. -/
def sessionSample : List Action :=
  [.edit (·.insert "no.".toList), .complete, .edit fun _ => {},
    .edit (·.insert "x = 1".toList), .enter, .edit (·.insert "if x:".toList), .enter,
    .browse .older, .submit]

theorem exists_of_isDone {x : Run Unit} {w : World} (h : (x w).1.isDone = true) :
    ∃ w', x w = (.done (), w') :=
  ⟨(x w).2, Prod.ext (Ending.eq_done h) rfl⟩

theorem session_logs_commits_sample :
    (World.start {} {} none #[]).LogStands ∧
    (World.start {} {} none #[]).KeepsLogIn sessionSample ∧
    ∃ w', Run.forEach sessionSample Action.perform (World.start {} {} none #[]) = (.done (), w') ∧
      w'.history.entries = ["x = 1".toList, "x = 1".toList] ∧
      w'.history.pos ≤ w'.history.entries.length := by
  have hstands : (World.start {} {} none #[]).LogStands := Nat.le_refl 0
  have hkeeps : (World.start {} {} none #[]).KeepsLogIn sessionSample := by
    refine ⟨?_, nofun, ?_, fun _ => ?_, ?_, nofun, ?_, nofun, ?_, nofun, ?_, nofun, ?_, nofun,
      ?_, nofun, ?_, nofun, trivial⟩
    case refine_3 => exact World.keepsLogFinding_of_plain nofun
    all_goals
      intro _
      unfold World.KeepsLog
      decide +kernel
  obtain ⟨w, hdone⟩ := exists_of_isDone (x := Run.forEach sessionSample Action.perform)
    (w := World.start {} {} none #[]) (by decide +kernel)
  have hconsumed : (World.start {} {} none #[]).consumed sessionSample =
      ["x = 1".toList, "x = 1".toList] := by decide +kernel
  obtain ⟨hlog, -⟩ := session_logs_commits hstands hkeeps hdone
  obtain ⟨w', hrun, hentries, hpos⟩ := hlog sessionSample (List.prefix_refl _)
  rw [hconsumed, show (World.start {} {} none #[]).history.entries = [] from rfl,
    List.nil_append] at hentries
  exact ⟨hstands, hkeeps, w', hrun, hentries, hpos⟩

end Scratchpad
