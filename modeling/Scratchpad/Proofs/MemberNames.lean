import Scratchpad.Completion.Candidates
import Scratchpad.Proofs.CommitSteps
import Scratchpad.Proofs.NameOrder

/-!
# The members of a value

What a value offers is its attributes and, if it is a mapping, the keys that are names. To
tell what can be called, the attributes are read one after another, and each reading happens
in the world that the ones before it left. A fault that an attribute raises stands for
nothing. Any other ending of a reading ends the request.

Members are collected under their names, and a later one under the same name is dropped. So a
name stands for the attribute if there is one, and else for the first entry of its key, which
is the one that evaluation finds.

* `Reads`, `reads_iff` — attributes read in turn;
* `readMembers_raised` — an exception that is no fault;
* `mem_foldl_addMember` — the first member under a name wins;
* `namesOf_of_surface`, `namesOf_of_reading` — the names behind an operator;
* `Reading.mem_names`, `Reading.mem_callable` — which names these are.
-/

namespace Scratchpad

open Run

/-! ## Reading attributes in turn -/

/-- Attributes are read in turn, and nothing but faults is raised. -/
inductive Reads (v : Value) : World → List String → List Member → World → Prop where
  | nil (w : World) : Reads v w [] [] w
  | value {w u u' : World} {n : String} {x : Value} {rest : List String} {read : List Member}
      (head : (rules maxNesting).getAttribute v n w = (.done x, u))
      (tail : Reads v u rest read u') : Reads v w (n :: rest) ((n, x) :: read) u'
  | fault {w u u' : World} {n : String} {e : Raised} {rest : List String} {read : List Member}
      (head : (rules maxNesting).getAttribute v n w = (.raised e, u)) (he : e.isFault = true)
      (tail : Reads v u rest read u') : Reads v w (n :: rest) ((n, .none) :: read) u'

section Reading

variable {v : Value} {w u : World} {n : String} {names : List String} {read : List Member}

/-- What a reading stands for, by its ending. -/
theorem memberValue_done {x : Value}
    (h : (rules maxNesting).getAttribute v n w = (.done x, u)) :
    memberValue v n w = (.done x, u) := by
  have hattempt : Run.attempt ((rules maxNesting).getAttribute v n) w = (.done (.ok x), u) := by
    simp [Run.attempt, h]
  rw [memberValue, bind_done hattempt]
  rfl

theorem memberValue_raised {e : Raised}
    (h : (rules maxNesting).getAttribute v n w = (.raised e, u)) :
    memberValue v n w = if e.isFault then (.done .none, u) else (.raised e, u) := by
  have hattempt :
      Run.attempt ((rules maxNesting).getAttribute v n) w = (.done (.error e), u) := by
    simp [Run.attempt, h]
  rw [memberValue, bind_done hattempt]
  dsimp only
  split <;> rfl

theorem memberValue_spent (h : (rules maxNesting).getAttribute v n w = (.spent, u)) :
    memberValue v n w = (.spent, u) := by
  have hattempt : Run.attempt ((rules maxNesting).getAttribute v n) w = (.spent, u) := by
    simp [Run.attempt, h]
  rw [memberValue, bind_spent hattempt]

/-- The attributes that are read are those of the list. -/
theorem Reads.names_eq (h : Reads v w names read u) : read.map (·.1) = names := by
  induction h with
  | nil => rfl
  | value _ _ ih => rw [List.map_cons, ih]
  | fault _ _ _ ih => rw [List.map_cons, ih]

theorem readMembers_of_reads (h : Reads v w names read u) :
    readMembers v names w = (.done read, u) := by
  induction h with
  | nil => rfl
  | value head _ ih =>
    rw [readMembers, bind_done (memberValue_done head), bind_done ih]
    rfl
  | fault head he _ ih =>
    have hnone := memberValue_raised head
    rw [if_pos he] at hnone
    rw [readMembers, bind_done hnone, bind_done ih]
    rfl

theorem reads_of_readMembers (h : readMembers v names w = (.done read, u)) :
    Reads v w names read u := by
  induction names generalizing w read with
  | nil =>
    cases h
    exact .nil _
  | cons n rest ih =>
    obtain ⟨x, w₁, hx, h⟩ := bind_done_inv h
    obtain ⟨more, w₂, hmore, hpure⟩ := bind_done_inv h
    cases hpure
    have tail := ih hmore
    rcases hread : (rules maxNesting).getAttribute v n w with ⟨y | e | _, w'⟩
    -- a reading that goes on met a value or a fault
    · rw [memberValue_done hread] at hx
      cases hx
      exact .value hread tail
    · rw [memberValue_raised hread] at hx
      split at hx
      next he =>
        cases hx
        exact .fault hread he tail
      next => cases hx
    · rw [memberValue_spent hread] at hx
      cases hx

theorem reads_iff : Reads v w names read u ↔ readMembers v names w = (.done read, u) :=
  ⟨readMembers_of_reads, reads_of_readMembers⟩

/-- An exception that is no fault ends the reading where it is raised. -/
theorem readMembers_raised {w₀ : World} {rest : List String} {e : Raised}
    (h : Reads v w names read w₀)
    (hread : (rules maxNesting).getAttribute v n w₀ = (.raised e, u))
    (he : e.isFault = false) : readMembers v (names ++ n :: rest) w = (.raised e, u) := by
  induction h with
  | nil =>
    have hraised := memberValue_raised hread
    rw [he, if_neg Bool.false_ne_true] at hraised
    rw [List.nil_append, readMembers, bind_raised hraised]
  | value head _ ih =>
    rw [List.cons_append, readMembers, bind_done (memberValue_done head), bind_raised (ih hread)]
  | fault head hfault _ ih =>
    have hnone := memberValue_raised head
    rw [if_pos hfault] at hnone
    rw [List.cons_append, readMembers, bind_done hnone, bind_raised (ih hread)]

end Reading

/-! ## Members under their names -/

/-- The first member under a name wins. -/
theorem mem_foldl_addMember {m : Member} {later earlier : List Member} :
    m ∈ later.foldl addMember earlier ↔
      m ∈ earlier ∨ earlier.lookup m.1 = none ∧ later.lookup m.1 = some m.2 := by
  induction later generalizing earlier with
  | nil => simp
  | cons k later ih =>
    obtain ⟨n, x⟩ := m
    obtain ⟨k, y⟩ := k
    rw [List.foldl_cons, ih, addMember]
    by_cases hname : n = k
    · subst hname
      -- a member of the same name is dropped, if there was one before; other names are kept apart
      cases hlookup : earlier.lookup n with
      | some z => simp [hlookup]
      | none => simp [hlookup, List.lookup_append, eq_comm]
    · have hne : (n == k) = false := beq_false_of_ne hname
      cases earlier.lookup k with
      | some z => simp [List.lookup_cons, hne]
      | none => simp [List.lookup_append, List.lookup_cons, hne, hname]

/-- The value of a mapping under a name. -/
def World.keyed? (w : World) (v : Value) (n : String) : Option Value :=
  entryGet? ((w.mapping? v).getD []) (.ofString n)

theorem sameKey_ofString {k : Value} {n : String} :
    sameKey k (.ofString n) = true ↔ k = .ofString n := by
  unfold sameKey compareDepth
  cases k <;> simp [valuesEqual, Value.ofString, Value.number?]

/-- The first entry of a key is the member. -/
theorem lookup_keyMembers (w : World) (v : Value) (n : String) :
    (keyMembers w v).lookup n = w.keyed? v n := by
  unfold keyMembers World.keyed? entryGet?
  induction (w.mapping? v).getD [] with
  | nil => rfl
  | cons e entries ih =>
    obtain ⟨k, x⟩ := e
    rw [List.find?_cons]
    cases hkey : sameKey k (.ofString n) with
    | true =>
      obtain rfl := sameKey_ofString.mp hkey
      simp [Value.ofString]
    | false =>
      rw [← ih]
      cases k with
      | str t =>
        -- keys that are no texts are skipped on both sides
        have hne : n ≠ String.ofList t := by
          rintro rfl
          have hsame : Value.str t = .ofString (String.ofList t) := by simp [Value.ofString]
          rw [sameKey_ofString.mpr hsame] at hkey
          cases hkey
        simp [List.lookup_cons, beq_false_of_ne hne]
      | _ => rfl

/-! ## Names behind an operator -/

/-- A reading of all attributes of a value, in order, that comes to its end. -/
structure Reading (w : World) (v : Value) where
  read : List Member
  /-- The world that the reading leaves. -/
  after : World
  reads : Reads v w (sortNames (w.attributeNames v)) read after

namespace Reading

variable {w : World} {v : Value} {n : String} (reading : Reading w v)

/-- What was read, and the keys of a mapping. -/
def members : List Member := (keyMembers reading.after v).foldl addMember reading.read

/-- The value has an attribute of this name, or is a mapping with this key. -/
def HasName (n : String) : Prop :=
  n ∈ w.attributeNames v ∨ (reading.after.keyed? v n).isSome

/-- What the value has under this name can be called. An attribute hides a key, and one that
cannot be read does not count. -/
def HasCallable (n : String) : Prop :=
  if n ∈ w.attributeNames v then
    ∃ x, (n, x) ∈ reading.read ∧ canBeCalled reading.after.cells x = true
  else
    ∃ x, reading.after.keyed? v n = some x ∧ canBeCalled reading.after.cells x = true

variable {reading}

theorem HasCallable.hasName (h : reading.HasCallable n) : reading.HasName n := by
  unfold HasCallable at h
  split at h
  next hattribute => exact .inl hattribute
  next =>
    obtain ⟨x, hx, -⟩ := h
    exact .inr (Option.isSome_of_eq_some hx)

variable (reading) in
/-- Every attribute is read. -/
theorem exists_mem_read_iff : (∃ x, (n, x) ∈ reading.read) ↔ n ∈ w.attributeNames v := by
  rw [← mem_sortNames, ← reading.reads.names_eq, List.mem_map]
  constructor
  · rintro ⟨x, hx⟩
    exact ⟨_, hx, rfl⟩
  · rintro ⟨m, hm, rfl⟩
    exact ⟨m.2, hm⟩

theorem lookup_read_eq_none_iff : reading.read.lookup n = none ↔ n ∉ w.attributeNames v := by
  rw [List.lookup_eq_none_iff, ← reading.exists_mem_read_iff]
  constructor
  · rintro hnone ⟨x, hx⟩
    simpa using hnone _ hx
  · rintro hnot ⟨m, x⟩ hmem
    rw [bne_iff_ne]
    rintro rfl
    exact hnot ⟨x, hmem⟩

/-- A key is a member where no attribute hides it. -/
theorem mem_members_iff {x : Value} :
    (n, x) ∈ reading.members ↔ (n, x) ∈ reading.read ∨
      n ∉ w.attributeNames v ∧ reading.after.keyed? v n = some x := by
  rw [members, mem_foldl_addMember, lookup_read_eq_none_iff, lookup_keyMembers]

/-- The members have the names that evaluation finds. -/
theorem mem_names : n ∈ reading.members.map (·.1) ↔ reading.HasName n := by
  rw [List.mem_map]
  constructor
  · rintro ⟨⟨n, x⟩, hmem, rfl⟩
    rcases mem_members_iff.mp hmem with hread | ⟨-, hkey⟩
    · exact .inl (reading.exists_mem_read_iff.mp ⟨x, hread⟩)
    · exact .inr (Option.isSome_of_eq_some hkey)
  · intro hname
    by_cases hn : n ∈ w.attributeNames v
    · obtain ⟨x, hx⟩ := reading.exists_mem_read_iff.mpr hn
      exact ⟨_, mem_members_iff.mpr (.inl hx), rfl⟩
    · obtain ⟨x, hx⟩ := Option.isSome_iff_exists.mp (hname.resolve_left hn)
      exact ⟨_, mem_members_iff.mpr (.inr ⟨hn, hx⟩), rfl⟩

/-- The members that can be called have the names under which evaluation finds something that
can be called. -/
theorem mem_callable :
    n ∈ (reading.members.filter fun m => canBeCalled reading.after.cells m.2).map (·.1) ↔
      reading.HasCallable n := by
  have hmem : n ∈ (reading.members.filter fun m =>
      canBeCalled reading.after.cells m.2).map (·.1) ↔
        ∃ x, (n, x) ∈ reading.members ∧ canBeCalled reading.after.cells x = true := by
    simp [List.mem_map, List.mem_filter]
  rw [hmem, HasCallable]
  by_cases hn : n ∈ w.attributeNames v
  -- an attribute hides the key
  · simp only [mem_members_iff, hn, not_true_eq_false, false_and, or_false, if_true]
  · -- no attribute of this name was read
    have hread : ∀ x, (n, x) ∉ reading.read := fun x hx => hn (reading.exists_mem_read_iff.mp ⟨x, hx⟩)
    simp only [mem_members_iff, hn, hread, not_false_eq_true, true_and, false_or, if_false]

variable (reading) in
/-- The names behind an operator. -/
def names (operator : Operator) : List String :=
  if operator = .method then
    (reading.members.filter fun m => canBeCalled reading.after.cells m.2).map (·.1)
  else reading.members.map (·.1)

theorem mem_names_iff {operator : Operator} :
    n ∈ reading.names operator ↔
      if operator = .method then reading.HasCallable n else reading.HasName n := by
  unfold names
  split
  · exact mem_callable
  · exact mem_names

end Reading

section Names

variable {w : World} {v : Value} {operator : Operator}

theorem members_of_reading (reading : Reading w v) :
    members v w = (.done reading.members, reading.after) := by
  unfold members
  rw [world_bind, bind_done (readMembers_of_reads reading.reads)]
  rfl

theorem surface_filter_of_plain (h : ∀ s ∈ w.surface, isSame s.object v = false) :
    w.surface.filter (fun s => isSame s.object v) = none := by
  rw [Option.filter_eq_none_iff]
  intro s hs
  simp [h s hs]

/-- The names of a value that is not the editing object, if its attributes can be read. -/
theorem namesOf_of_reading (h : ∀ s ∈ w.surface, isSame s.object v = false)
    (reading : Reading w v) :
    namesOf v operator w = (.done (reading.names operator), reading.after) := by
  unfold namesOf Reading.names
  simp only [world_bind, surface_filter_of_plain h]
  rw [bind_done (members_of_reading reading)]
  split <;> rfl

/-- What ends the reading of an attribute ends the request. -/
theorem namesOf_raised (h : ∀ s ∈ w.surface, isSame s.object v = false) {e : Raised}
    {u : World} (hread : readMembers v (sortNames (w.attributeNames v)) w = (.raised e, u)) :
    namesOf v operator w = (.raised e, u) := by
  have hmembers : members v w = (.raised e, u) := by
    unfold members
    rw [world_bind, bind_raised hread]
  unfold namesOf
  simp only [world_bind, surface_filter_of_plain h]
  rw [bind_raised hmembers]

theorem namesOf_spent (h : ∀ s ∈ w.surface, isSame s.object v = false) {u : World}
    (hread : readMembers v (sortNames (w.attributeNames v)) w = (.spent, u)) :
    namesOf v operator w = (.spent, u) := by
  have hmembers : members v w = (.spent, u) := by
    unfold members
    rw [world_bind, bind_spent hread]
  unfold namesOf
  simp only [world_bind, surface_filter_of_plain h]
  rw [bind_spent hmembers]

/-- The names of the editing object. -/
theorem namesOf_of_surface {s : Surface} (hs : s ∈ w.surface)
    (h : isSame s.object v = true) :
    namesOf v operator w =
      (.done (if operator = .method then s.methods else s.memberNames), w) := by
  have hsome : w.surface.filter (fun s => isSame s.object v) = some s := by
    rw [Option.mem_def.mp hs]
    simp [h]
  unfold namesOf
  simp only [world_bind, hsome]
  cases operator <;> rfl

end Names

end Scratchpad
