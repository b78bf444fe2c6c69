import Scratchpad.Proofs.RootNames

/-!
# Names behind a path

What completion offers behind a path is what evaluation finds on the path's value: the names
that listing its attributes gives, and the keys of a mapping that are names. Behind a colon
only those count under which evaluation finds something that can be called. The editing
object that the session knows is recognised by its identity, and offers what it was described
with. A path that raises a fault has no candidates.

This holds as long as nothing else is raised on the way. The message of the fault is put into
the notes, so that a fault whose text cannot be computed ends the request. And an exception
that is no fault, such as an exit, ends it where it is raised: by the path, or by an attribute
of its value that is read to tell whether it can be called.

* `candidates_of_fault`, `candidates_of_textless` — a path that raises a fault;
* `candidates_of_surface`, `candidates_of_reading` — a path that has a value;
* `path_candidates_decided` — the candidates by how the path and the readings end.
-/

namespace Scratchpad

open Run

section Path

variable {r : Request} {w u : World} (hpath : r.path ≠ [])
include hpath

/-! ## Paths without a value -/

theorem candidates_of_spent (h : pathValue r.path w = (.spent, u)) :
    candidates r w = (.spent, u) := by
  have hattempt : Run.attempt (pathValue r.path) w = (.spent, u) := by
    simp [Run.attempt, h]
  have hresolve : resolvePath r.path w = (.spent, u) := by
    rw [resolvePath, bind_spent hattempt]
  have hnames : requestedNames r w = (.spent, u) := by
    rw [requestedNames, if_neg (by simpa using hpath), bind_spent hresolve]
  rw [candidates, bind_spent hnames]

/-- What resolving a path raises ends the request. -/
theorem candidates_of_unresolved {e : Raised} (h : resolvePath r.path w = (.raised e, u)) :
    candidates r w = (.raised e, u) := by
  have hnames : requestedNames r w = (.raised e, u) := by
    rw [requestedNames, if_neg (by simpa using hpath), bind_raised h]
  rw [candidates, bind_raised hnames]

section Raised

variable {e : Raised} (h : pathValue r.path w = (.raised e, u))
include h

omit hpath in
theorem attempt_of_raised : Run.attempt (pathValue r.path) w = (.done (.error e), u) := by
  simp [Run.attempt, h]

/-- An exception that is no fault is not caught. -/
theorem candidates_of_escape (he : e.isFault = false) : candidates r w = (.raised e, u) := by
  refine candidates_of_unresolved hpath ?_
  rw [resolvePath, bind_done (attempt_of_raised h)]
  simp [he]

/-- There are no candidates behind a path that raises a fault. Its message goes into the
notes. -/
theorem candidates_of_fault (he : e.isFault = true) {message : Text}
    (hmessage : u.str e.value = .ok message) :
    ∃ notes, candidates r w = (.done [], { u with notes }) := by
  have hstr : Run.str e.value u = (.done message, u) := by
    rw [Run.str, world_bind, hmessage]
    rfl
  have hresolve : resolvePath r.path w = (.done (.error message), u) := by
    rw [resolvePath, bind_done (attempt_of_raised h)]
    simp only [he, if_true]
    rw [bind_done hstr]
    rfl
  obtain ⟨notes, hnames⟩ : ∃ notes, requestedNames r w = (.done none, { u with notes }) := by
    rw [requestedNames, if_neg (by simpa using hpath), bind_done hresolve]
    exact ⟨_, rfl⟩
  rw [candidates, bind_done hnames]
  exact ⟨notes, rfl⟩

/-- A fault gives way to the exception that is met in computing its message. -/
theorem candidates_of_textless (he : e.isFault = true) {e' : Raised}
    (hmessage : u.str e.value = .error e') : candidates r w = (.raised e', u) := by
  have hstr : Run.str e.value u = (.raised e', u) := by
    rw [Run.str, world_bind, hmessage]
    rfl
  refine candidates_of_unresolved hpath ?_
  rw [resolvePath, bind_done (attempt_of_raised h)]
  simp only [he, if_true]
  rw [bind_raised hstr]

omit hpath h in
/-- Without objects of classes that code defined, what a path raises is a fault with a text. -/
theorem raised_of_plain {t : Text} (hplain : w.cells.Plain)
    (h : pathValue (Request.ofText t).path w = (.raised e, u)) :
    e.isFault = true ∧ ∃ message, u.str e.value = .ok message := by
  have he : e.Worded := (keeps_pathValue (Request.path_pathText t) w hplain).raised e (by rw [h])
  exact ⟨he.fault, u.str_of_worded he⟩

end Raised

/-! ## Paths with a value -/

section Value

variable {v : Value} (h : pathValue r.path w = (.done v, u))
include h

/-- A path with a value leaves the choice to the names of the value. -/
theorem requestedNames_of_value :
    requestedNames r w = (do return some (← namesOf v r.operator) : Run _) u := by
  have hattempt : Run.attempt (pathValue r.path) w = (.done (.ok v), u) := by
    simp [Run.attempt, h]
  have hresolve : resolvePath r.path w = (.done (.ok v), u) := by
    rw [resolvePath, bind_done hattempt]
    rfl
  rw [requestedNames, if_neg (by simpa using hpath), bind_done hresolve]

/-- The editing object offers what it was described with. -/
theorem candidates_of_surface {s : Surface} (hs : s ∈ u.surface)
    (hsame : isSame s.object v = true) :
    ∃ found notes, candidates r w = (.done found, { u with notes }) ∧
      found.Pairwise (· < ·) ∧ ∀ n, n ∈ found ↔ r.typed <+: n.toList ∧
        if r.operator = .method then n ∈ s.methods else n ∈ s.properties ∨ n ∈ s.constants := by
  have hnames := requestedNames_of_value hpath h
  rw [bind_done (namesOf_of_surface hs hsame)] at hnames
  obtain ⟨notes, hfound⟩ := candidates_of_names hnames
  refine ⟨_, notes, hfound, pairwise_sortNames _, fun n => ?_⟩
  rw [mem_matching, and_comm]
  split
  · rfl
  · rw [Surface.memberNames, List.mem_append]

section Plain

variable (hplain : ∀ s ∈ u.surface, isSame s.object v = false)
include hplain

/-- Another value offers what reading its attributes gives. -/
theorem candidates_of_reading (reading : Reading u v) :
    ∃ notes, candidates r w =
      (.done (matching r.typed (reading.names r.operator)), { reading.after with notes }) := by
  have hnames := requestedNames_of_value hpath h
  rw [bind_done (namesOf_of_reading hplain reading)] at hnames
  exact candidates_of_names hnames

/-- What ends the reading of its attributes ends the request. -/
theorem candidates_of_unread {e : Raised} {u' : World}
    (hread : readMembers v (sortNames (u.attributeNames v)) u = (.raised e, u')) :
    candidates r w = (.raised e, u') := by
  have hnames := requestedNames_of_value hpath h
  rw [bind_raised (namesOf_raised hplain hread)] at hnames
  rw [candidates, bind_raised hnames]

/-- Behind a colon another value has no other candidates than behind a dot. -/
theorem candidates_method_subset (reading : Reading u v) :
    ∃ all notes, candidates { r with operator := .member } w =
        (.done all, { reading.after with notes }) ∧
      matching r.typed (reading.names r.operator) ⊆ all := by
  obtain ⟨notes, hall⟩ :=
    candidates_of_reading (r := { r with operator := .member }) hpath h hplain reading
  refine ⟨_, notes, hall, fun n hn => ?_⟩
  rw [mem_matching, Reading.mem_names_iff] at hn ⊢
  refine ⟨?_, hn.2⟩
  rw [if_neg (by rintro ⟨⟩)]
  by_cases hoperator : r.operator = .method
  · rw [if_pos hoperator] at hn
    exact hn.1.hasName
  · rw [if_neg hoperator] at hn
    exact hn.1

/-- There are candidates only if all attributes can be read. -/
theorem exists_reading_of_candidates {found : List String} {u' : World}
    (hfound : candidates r w = (.done found, u')) : Nonempty (Reading u v) := by
  obtain ⟨names?, w₁, hnames, -⟩ := bind_done_inv hfound
  rw [requestedNames_of_value hpath h] at hnames
  obtain ⟨names, w₂, hnamesOf, -⟩ := bind_done_inv hnames
  rcases hread : readMembers v (sortNames (u.attributeNames v)) u with ⟨read | e | _, w₃⟩
  · exact ⟨⟨read, w₃, reads_of_readMembers hread⟩⟩
  · rw [namesOf_raised hplain hread] at hnamesOf
    cases hnamesOf
  · rw [namesOf_spent hplain hread] at hnamesOf
    cases hnamesOf

end Plain

end Value

end Path

/-- The request with a dot in the place of the operator. -/
theorem ofText_dotted {r : Request} (h : r.Proper) :
    Request.ofText (r.path ++ '.' :: r.typed) = { r with operator := .member } := by
  have htext : r.path ++ '.' :: r.typed = { r with operator := Operator.member }.text := by
    simp [Request.text, Operator.text]
  rw [htext]
  exact Request.ofText_text ⟨h.path, h.typed, by rintro ⟨⟩⟩

/-- Completion behind a path evaluates the path. If that raises a fault there are no
candidates, provided that the text of the fault can be computed; what else is raised leaves
the request. Without objects of classes that code defined, only faults with a text are raised
by a path. The editing object has, once and in order, those of the names that it was
described with that continue what was typed. Any other value has candidates just if all its
attributes can be read with nothing raised but faults. These are then, once and in order, the
names of its attributes and the keys of a mapping that are names, behind a colon only those
under which there is something that can be called; so behind a colon stand no other candidates
than behind a dot. -/
theorem path_candidates_decided {w : World} {t : Text} (hpath : (Request.ofText t).path ≠ []) :
    let r := Request.ofText t
    (∀ u, pathValue r.path w = (.spent, u) → candidates r w = (.spent, u)) ∧
    (∀ e u, pathValue r.path w = (.raised e, u) →
      (e.isFault = false → candidates r w = (.raised e, u)) ∧
      (e.isFault = true →
        (∀ m, u.str e.value = .ok m → ∃ notes, candidates r w = (.done [], { u with notes })) ∧
        ∀ e', u.str e.value = .error e' → candidates r w = (.raised e', u)) ∧
      (w.cells.Plain → ∃ notes, candidates r w = (.done [], { u with notes }))) ∧
    ∀ v u, pathValue r.path w = (.done v, u) →
      (∀ s ∈ u.surface, isSame s.object v = true →
        ∃ found notes, candidates r w = (.done found, { u with notes }) ∧
          found.Pairwise (· < ·) ∧ ∀ n, n ∈ found ↔ r.typed <+: n.toList ∧
            if r.operator = .method then n ∈ s.methods
            else n ∈ s.properties ∨ n ∈ s.constants) ∧
      ((∀ s ∈ u.surface, isSame s.object v = false) →
        ((∃ found u', candidates r w = (.done found, u')) ↔ Nonempty (Reading u v)) ∧
        (∀ reading : Reading u v,
          ∃ found notes, candidates r w = (.done found, { reading.after with notes }) ∧
            found.Pairwise (· < ·) ∧
            (∀ n, n ∈ found ↔ r.typed <+: n.toList ∧
              if r.operator = .method then reading.HasCallable n else reading.HasName n) ∧
            ∃ all notes, candidates (Request.ofText (r.path ++ '.' :: r.typed)) w =
              (.done all, { reading.after with notes }) ∧ found ⊆ all) ∧
        ∀ earlier n later read u₀ e u',
          sortNames (u.attributeNames v) = earlier ++ n :: later → Reads v u earlier read u₀ →
          (rules maxNesting).getAttribute v n u₀ = (.raised e, u') → e.isFault = false →
          candidates r w = (.raised e, u')) := by
  intro r
  refine ⟨fun u => candidates_of_spent hpath, fun e u h => ⟨candidates_of_escape hpath h,
    fun he => ⟨fun m => candidates_of_fault hpath h he,
      fun e' => candidates_of_textless hpath h he⟩, fun hplain => ?_⟩, ?_⟩
  · obtain ⟨he, message, hmessage⟩ := raised_of_plain hplain h
    -- a path without a value
    exact candidates_of_fault hpath h he hmessage
  intro v u h
  -- a path with a value: the editing object, or another one whose attributes are read
  refine ⟨fun s hs => candidates_of_surface hpath h hs, fun hplain => ⟨⟨?_, ?_⟩, ?_, ?_⟩⟩
  · rintro ⟨found, u', hfound⟩
    exact exists_reading_of_candidates hpath h hplain hfound
  · rintro ⟨reading⟩
    obtain ⟨notes, hfound⟩ := candidates_of_reading hpath h hplain reading
    exact ⟨_, _, hfound⟩
  · intro reading
    obtain ⟨notes, hfound⟩ := candidates_of_reading hpath h hplain reading
    refine ⟨_, notes, hfound, pairwise_sortNames _, fun n => ?_, ?_⟩
    · rw [mem_matching, Reading.mem_names_iff, and_comm]
    · rw [ofText_dotted (Request.ofText_proper t).1]
      exact candidates_method_subset hpath h hplain reading
  · intro earlier n later read u₀ e u' hnames hreads hread he
    refine candidates_of_unread hpath h hplain ?_
    rw [hnames]
    exact readMembers_raised hreads hread he

/-- The names under which something was read that can be called. -/
def callableRead : Ending (List Member) × World → List String
  | (.done read, u) => (read.filter fun m => canBeCalled u.cells m.2).map (·.1)
  | _ => []

theorem hasCallable_iff_callableRead {u : World} {v : Value} {reading : Reading u v} {n : String}
    (hn : n ∈ u.attributeNames v) :
    reading.HasCallable n ↔ n ∈ callableRead (.done reading.read, reading.after) := by
  rw [Reading.HasCallable, if_pos hn]
  simp [callableRead]

/-- A session in which the attribute `p` of an object `a` raises a fault. -/
def faultySample : World := computingSample [] (.name "unknown")

/-- An attribute that raises a fault is offered behind a dot, and not behind a colon. -/
theorem path_candidates_faulty :
    (Request.ofText "a:".toList).path ≠ [] ∧ (Request.ofText "a.".toList).path ≠ [] ∧
    (∃ found u, candidates (Request.ofText "a:".toList) faultySample = (.done found, u) ∧
      found.Pairwise (· < ·) ∧ "__dir__" ∈ found ∧ "p" ∉ found) ∧
    ∃ all u, candidates (Request.ofText "a.".toList) faultySample = (.done all, u) ∧
      all.Pairwise (· < ·) ∧ "p" ∈ all := by
  have hcolon : Request.ofText "a:".toList = ⟨"a".toList, .method, []⟩ := by decide +kernel
  have hdot : Request.ofText "a.".toList = ⟨"a".toList, .member, []⟩ := by decide +kernel
  have hpath : (Request.ofText "a:".toList).path ≠ [] := by
    rw [hcolon]
    decide
  have hpath' : (Request.ofText "a.".toList).path ≠ [] := by
    rw [hdot]
    decide
  have hvalue : pathValue "a".toList faultySample = (.done (.object 3), faultySample) := rfl
  obtain ⟨reading, hrun⟩ : ∃ reading : Reading faultySample (.object 3),
      readMembers (.object 3) sampleAttributes faultySample =
        (.done reading.read, reading.after) :=
    exists_reading_computingSample (by decide +kernel)
  -- the reading is evaluated once, over the sorted names; the candidates follow from the theorem
  have hcallable : "__dir__" ∈ callableRead (readMembers (.object 3) sampleAttributes faultySample) ∧
      "p" ∉ callableRead (readMembers (.object 3) sampleAttributes faultySample) := by
    decide +kernel
  rw [hrun] at hcallable
  obtain ⟨-, -, hfound⟩ := path_candidates_decided (w := faultySample) hpath
  obtain ⟨-, -, hall⟩ := path_candidates_decided (w := faultySample) hpath'
  rw [hcolon] at hfound
  rw [hdot] at hall
  obtain ⟨-, hplain⟩ := hfound _ _ hvalue
  obtain ⟨-, hplain'⟩ := hall _ _ hvalue
  obtain ⟨-, hof, -⟩ := hplain (by rintro _ ⟨⟩)
  obtain ⟨-, hof', -⟩ := hplain' (by rintro _ ⟨⟩)
  obtain ⟨found, notes, hcandidates, hsorted, hnames, -⟩ := hof reading
  obtain ⟨all, notes', hcandidates', hsorted', hnames', -⟩ := hof' reading
  have hdir : "__dir__" ∈ faultySample.attributeNames (.object 3) := by decide +kernel
  have hp : "p" ∈ faultySample.attributeNames (.object 3) := by decide +kernel
  refine ⟨hpath, hpath', ⟨found, _, hcolon ▸ hcandidates, hsorted, ?_, ?_⟩, all, _,
    hdot ▸ hcandidates', hsorted', ?_⟩
  · rw [hnames, if_pos rfl, hasCallable_iff_callableRead hdir]
    exact ⟨List.nil_prefix, hcallable.1⟩
  · rw [hnames, if_pos rfl, hasCallable_iff_callableRead hp]
    exact fun h => hcallable.2 h.2
  · rw [hnames', if_neg nofun]
    exact ⟨List.nil_prefix, .inl hp⟩

/-- A session in which the attribute `p` of an object `a` raises a fault whose text cannot be
computed: the key that is missed has too many digits. -/
def textlessSample : World :=
  computingSample [] (.subscript (.dict [])
    (.binary .pow (.constant (.int 10)) (.constant (.int 5000))))

/-- A session in which the attribute `p` of an object `a` exits. -/
def exitingSample : World := computingSample [] (.call (.name "exit") [])

/-- Whether a computation ended with a fault whose text cannot be computed. -/
def raisesTextless : Ending Value × World → Bool
  | (.raised e, u) => e.isFault && !(u.str e.value).toBool
  | _ => false

/-- The class of the exception that a computation ended with. -/
def Ending.kindRaised {α : Type} : Ending α → String
  | .raised e => e.kind
  | _ => ""

/-- A fault without a text leaves the request that met it, and so does an exit from an attribute
that is only read to tell whether it can be called. -/
theorem attributes_end_request :
    (∃ e u e', pathValue "a.p".toList textlessSample = (.raised e, u) ∧ e.isFault = true ∧
      candidates (Request.ofText "a.p.".toList) textlessSample = (.raised e', u)) ∧
    ∃ e u, pathValue "a".toList exitingSample = (.done (.object 3), exitingSample) ∧
      candidates (Request.ofText "a.".toList) exitingSample = (.raised e, u) ∧
      e.kind = "SystemExit" := by
  constructor
  -- the path itself meets the fault
  · have hread : Request.ofText "a.p.".toList = ⟨"a.p".toList, .member, []⟩ := by decide +kernel
    have htextless : raisesTextless (pathValue "a.p".toList textlessSample) = true := by
      decide +kernel
    rw [hread]
    rcases hvalue : pathValue "a.p".toList textlessSample with ⟨_ | e | _, u⟩ <;>
      rw [hvalue] at htextless
    case done | spent => cases htextless
    obtain ⟨hfault, hmessage⟩ := Bool.and_eq_true_iff.mp htextless
    cases hstr : u.str e.value with
    | ok message =>
      rw [hstr] at hmessage
      cases hmessage
    | error e' =>
      exact ⟨e, u, e', rfl, hfault, candidates_of_textless (by decide) hvalue hfault hstr⟩
  · have hread : Request.ofText "a.".toList = ⟨"a".toList, .member, []⟩ := by decide +kernel
    -- the path has a value, and the exit comes from reading its attributes
    have hkind : (readMembers (.object 3) sampleAttributes exitingSample).1.kindRaised =
        "SystemExit" := by decide +kernel
    have hvalue : pathValue "a".toList exitingSample = (.done (.object 3), exitingSample) := rfl
    rw [hread]
    rcases hrun : readMembers (.object 3) sampleAttributes exitingSample with ⟨_ | e | _, u⟩ <;>
      rw [hrun] at hkind
    case done | spent => simp [Ending.kindRaised] at hkind
    rw [← sortNames_sampleAttributes [] (.call (.name "exit") [])] at hrun
    exact ⟨e, u, hvalue, candidates_of_unread (by decide) hvalue (by rintro _ ⟨⟩) hrun, hkind⟩

end Scratchpad
