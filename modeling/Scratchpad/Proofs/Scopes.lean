import Mathlib.Data.List.Basic
import Scratchpad.Proofs.CommitSteps
import Scratchpad.Session.Start

/-!
# Names of the top level in all scopes

A name that no function around the code has as a variable is a name of the top level. At the
top level, in a function, a lambda or a comprehension, however deep, it is looked up in the
sandbox, then among the host's names, then among the built-in ones. Code that stands directly
in a class body passes over the host's names, so there the lookup can come out differently.
Binding and deleting such a name work on the sandbox alone.

* `Cells.Passes`, `Cells.GlobalIn`, `Cells.InClassBody` — which names are meant;
* `globalIn_inner`, `inClassBody_inner` — a scope inside of another one sees the same names;
* `nameValue_global`, `nameValue_classBody` — reading in each kind of scope;
* `callFunction_global`, `comprehension_global`, `defineClass_inClassBody` — the scopes that
  code goes into;
* `rebinds_bind`, `uncovers_unbind` — what binding and deleting do to the lookup;
* `global_names_resolve_iff` — all of it, with the exact condition for a class body;
* `class_body_misses_host` — a class body in which a name of the host is unknown.
-/

namespace Scratchpad

/-! ## Looking a name up -/

namespace Namespace

/-- How looking up a name at the top level ends. -/
def resolve (ns : Namespace) (n : String) : Ending Value :=
  match ns.lookup? n with
  | some v => .done v
  | none => .raised (.unbound n)

/-- The sandbox alone. -/
def withoutHost (ns : Namespace) : Namespace := { ns with host := {} }

section Lookup

variable {ns : Namespace} {n m : String} {v : Value}

theorem resolve_of_own (h : ns.own.find? n = some v) : ns.resolve n = .done v := by
  unfold resolve lookup?
  rw [h]

theorem resolve_of_host (hown : ns.own.find? n = none) (h : ns.host.find? n = some v) :
    ns.resolve n = .done v := by
  unfold resolve lookup?
  rw [hown, h]

theorem resolve_of_builtin (hown : ns.own.find? n = none) (hhost : ns.host.find? n = none)
    (h : builtinValue? n = some v) : ns.resolve n = .done v := by
  unfold resolve lookup?
  rw [hown, hhost, h]

theorem resolve_of_none (hown : ns.own.find? n = none) (hhost : ns.host.find? n = none)
    (h : builtinValue? n = none) : ns.resolve n = .raised (.unbound n) := by
  unfold resolve lookup?
  rw [hown, hhost, h]

/-- Whether the host is asked matters only for a name that the sandbox does not bind, and
only if the host binds it to something else than what is built in. -/
theorem resolve_withoutHost_iff :
    ns.withoutHost.resolve n = ns.resolve n ↔
      (ns.own.find? n).isSome = true ∨ ns.host.find? n = none ∨
        ns.host.find? n = builtinValue? n := by
  have hsame : ns.withoutHost.own.find? n = ns.own.find? n := rfl
  have hnone : ns.withoutHost.host.find? n = none := rfl
  -- the first of the three that has the name decides
  cases hown : ns.own.find? n with
  | some v =>
    rw [hown] at hsame
    rw [resolve_of_own hown, resolve_of_own hsame]
    exact iff_of_true rfl (.inl rfl)
  | none =>
    rw [hown] at hsame
    cases hhost : ns.host.find? n with
    | none =>
      refine iff_of_true ?_ (.inr (.inl rfl))
      cases hbuiltin : builtinValue? n with
      | none => rw [resolve_of_none hown hhost hbuiltin, resolve_of_none hsame hnone hbuiltin]
      | some v =>
        rw [resolve_of_builtin hown hhost hbuiltin, resolve_of_builtin hsame hnone hbuiltin]
    | some v =>
      -- without the host the built-in names are asked instead, and the two must agree
      rw [resolve_of_host hown hhost]
      cases hbuiltin : builtinValue? n with
      | none =>
        rw [resolve_of_none hsame hnone hbuiltin]
        simp
      | some b =>
        rw [resolve_of_builtin hsame hnone hbuiltin]
        constructor
        · intro h
          cases h
          exact .inr (.inr rfl)
        · rintro (h | h | h)
          · cases h
          · cases h
          · cases h
            rfl

end Lookup

end Namespace

/-! ## Binding and deleting -/

theorem lookup_bindName_self (bs : List (String × Value)) (n : String) (v : Value) :
    (bindName bs n v).lookup n = some v := by
  induction bs with
  | nil => simp [bindName]
  | cons b bs ih =>
    obtain ⟨m, w⟩ := b
    unfold bindName
    by_cases h : m = n
    · rw [if_pos h, h, List.lookup_cons_self]
    · rw [if_neg h, List.lookup_cons, beq_false_of_ne (Ne.symm h)]
      exact ih

theorem lookup_bindName_of_ne {n m : String} (hne : m ≠ n) (bs : List (String × Value))
    (v : Value) : (bindName bs n v).lookup m = bs.lookup m := by
  induction bs with
  | nil => simp [bindName, List.lookup_cons, beq_false_of_ne hne]
  | cons b bs ih =>
    obtain ⟨k, w⟩ := b
    unfold bindName
    by_cases h : k = n
    · subst h
      rw [if_pos rfl, List.lookup_cons, List.lookup_cons, beq_false_of_ne hne]
    · rw [if_neg h, List.lookup_cons, List.lookup_cons, ih]

theorem lookup_filter_self (bs : List (String × Value)) (n : String) :
    (bs.filter (·.1 != n)).lookup n = none := by
  rw [List.lookup_eq_none_iff]
  intro p hp
  -- what is left under the name was filtered out
  have hne : p.1 ≠ n := by simpa using (List.mem_filter.mp hp).2
  simpa using hne.symm

theorem lookup_filter_of_ne {n m : String} (hne : m ≠ n) (bs : List (String × Value)) :
    (bs.filter (·.1 != n)).lookup m = bs.lookup m := by
  induction bs with
  | nil => rfl
  | cons b bs ih =>
    obtain ⟨k, w⟩ := b
    by_cases h : k = n
    · subst h
      rw [List.filter_cons_of_neg (by simp), List.lookup_cons, beq_false_of_ne hne]
      exact ih
    · rw [List.filter_cons_of_pos (by simpa using h), List.lookup_cons, List.lookup_cons, ih]

namespace Namespace

/-- `ns'` is `ns` with a name bound in the sandbox and nothing else changed. -/
structure Rebinds (ns' ns : Namespace) (n : String) (v : Value) : Prop where
  host : ns'.host = ns.host
  own : ns'.own.find? n = some v
  resolves : ns'.resolve n = .done v
  others : ∀ m, m ≠ n → ns'.resolve m = ns.resolve m

/-- `ns'` is `ns` with a name deleted in the sandbox, so that the name stands for what the
host or the built-in names have. -/
structure Uncovers (ns' ns : Namespace) (n : String) : Prop where
  host : ns'.host = ns.host
  own : ns'.own.find? n = none
  resolves : ns'.resolve n = ({ own := {}, host := ns.host } : Namespace).resolve n
  others : ∀ m, m ≠ n → ns'.resolve m = ns.resolve m

variable (ns : Namespace) (n : String)

theorem rebinds_bind (v : Value) : (ns.bind n v).Rebinds ns n v := by
  have hown : (ns.bind n v).own.find? n = some v := lookup_bindName_self ns.own.names n v
  refine ⟨rfl, hown, resolve_of_own hown, ?_⟩
  intro m hne
  have hother : (ns.bind n v).own.find? m = ns.own.find? m :=
    lookup_bindName_of_ne hne ns.own.names v
  unfold resolve lookup?
  rw [hother]
  rfl

theorem uncovers_unbind : (ns.unbind n).Uncovers ns n := by
  have hown : (ns.unbind n).own.find? n = none := lookup_filter_self ns.own.names n
  refine ⟨rfl, hown, ?_, ?_⟩
  · unfold resolve lookup?
    rw [hown]
    rfl
  · intro m hne
    have hother : (ns.unbind n).own.find? m = ns.own.find? m :=
      lookup_filter_of_ne hne ns.own.names
    unfold resolve lookup?
    rw [hother]
    rfl

end Namespace

/-! ## Scopes -/

namespace Cells

/-- There is a frame at a place. -/
def HasFrame (cells : Cells) (loc : Loc) (f : Frame) : Prop := cells[loc]? = some (.frame f)

/-- From a frame outward no function has the name as a variable, up to one that declares it
global or to the top level. -/
inductive Passes (cells : Cells) (n : String) : Option Loc → Prop where
  | top : Passes cells n none
  | declared {loc : Loc} {f : Frame} (hframe : cells.HasFrame loc f)
      (hfunction : f.isClass = false) (hglobal : f.globals.contains n = true) :
      Passes cells n (some loc)
  | outward {loc : Loc} {f : Frame} (hframe : cells.HasFrame loc f)
      (hpassed : f.isClass = true ∨ f.locals.contains n = false)
      (outer : Passes cells n f.parent) : Passes cells n (some loc)

/-- The name is one of the top level for code at the top level, in a scope that declares it
global, or in a function, a lambda or a comprehension. -/
inductive GlobalIn (cells : Cells) (env : Env) (n : String) : Prop where
  | top (henv : env.frame = none)
  | declared {loc : Loc} {f : Frame} (henv : env.frame = some loc)
      (hframe : cells.HasFrame loc f) (hglobal : f.globals.contains n = true)
  | inFunction {loc : Loc} {f : Frame} (henv : env.frame = some loc)
      (hframe : cells.HasFrame loc f) (hfunction : f.isClass = false)
      (hlocal : f.locals.contains n = false) (outer : cells.Passes n f.parent)

/-- The code stands directly in a class body, and the name is one of the top level that the
body has not bound. -/
inductive InClassBody (cells : Cells) (env : Env) (n : String) : Prop where
  | mk {loc : Loc} {f : Frame} (henv : env.frame = some loc) (hframe : cells.HasFrame loc f)
      (hclass : f.isClass = true) (hglobal : f.globals.contains n = false)
      (hunbound : f.bindings.lookup n = none) (outer : cells.Passes n f.parent)

variable {cells : Cells} {env : Env} {n : String}

/-! ### Scopes inside of scopes -/

theorem HasFrame.push {loc : Loc} {f : Frame} (h : cells.HasFrame loc f) (c : Cell) :
    HasFrame (cells.push c) loc f := by
  unfold HasFrame at h ⊢
  have hlt : loc < cells.size := by
    obtain ⟨hlt, -⟩ := Array.getElem?_eq_some_iff.mp h
    exact hlt
  rw [Array.getElem?_push_lt hlt, ← h, Array.getElem?_eq_getElem hlt]

/-- A new cell hides no frame. -/
theorem Passes.push {p : Option Loc} (h : cells.Passes n p) (c : Cell) :
    Passes (cells.push c) n p := by
  induction h with
  | top => exact .top
  | declared hframe hfunction hglobal => exact .declared (hframe.push c) hfunction hglobal
  | outward hframe hpassed outer ih => exact .outward (hframe.push c) hpassed ih

/-- A new frame stands behind all other cells. -/
theorem hasFrame_push (cells : Cells) (f : Frame) :
    HasFrame (cells.push (.frame f)) cells.size f :=
  Array.getElem?_push_size

/-- A name that passes the scopes around a function is one of the top level in the frame of
its call, unless the function has it as a variable; and it passes that frame too. -/
theorem globalIn_inner {f : Frame} (hfunction : f.isClass = false)
    (hlocal : f.locals.contains n = false) (outer : cells.Passes n f.parent)
    (henv : env.frame = some cells.size) :
    GlobalIn (cells.push (.frame f)) env n ∧ Passes (cells.push (.frame f)) n env.frame := by
  have hframe := cells.hasFrame_push f
  have houter := outer.push (.frame f)
  constructor
  · exact .inFunction henv hframe hfunction hlocal houter
  · rw [henv]
    exact .outward hframe (.inr hlocal) houter

/-- In the frame of a class body the name is one of the top level as long as the body does
not bind it; and it passes that frame, for functions in the body. -/
theorem inClassBody_inner {f : Frame} (hclass : f.isClass = true)
    (hglobal : f.globals.contains n = false) (hunbound : f.bindings.lookup n = none)
    (outer : cells.Passes n f.parent) (henv : env.frame = some cells.size) :
    InClassBody (cells.push (.frame f)) env n ∧ Passes (cells.push (.frame f)) n env.frame := by
  have hframe := cells.hasFrame_push f
  have houter := outer.push (.frame f)
  constructor
  · exact .mk henv hframe hclass hglobal hunbound houter
  · rw [henv]
    exact .outward hframe (.inl hclass) houter

end Cells

/-! ## Where a name lives -/

namespace Cells

variable {w : World} {env : Env} {n : String}

theorem HasFrame.frameAt {loc : Loc} {f : Frame} (h : w.cells.HasFrame loc f) :
    Run.frameAt loc w = (.done f, w) := by
  have hcells : Run.cells w = (.done w.cells, w) := rfl
  unfold HasFrame at h
  unfold Run.frameAt
  rw [Run.bind_done hcells, h]
  rfl

/-- A name that passes all frames lives at the top level, whatever the fuel. -/
theorem Passes.outerHome {p : Option Loc} (h : w.cells.Passes n p) (k : Nat) :
    Run.outerHome n k p w = (.done .global, w) := by
  -- along the frames outward; a search that runs out of fuel answers with the top level, too
  induction h generalizing k with
  | top => cases k <;> rfl
  | declared hframe hfunction hglobal =>
    cases k with
    | zero => rfl
    | succ k =>
      unfold Run.outerHome
      rw [Run.bind_done hframe.frameAt, hfunction, hglobal]
      rfl
  | outward hframe hpassed outer ih =>
    rename_i loc f
    cases k with
    | zero => rfl
    | succ k =>
      unfold Run.outerHome
      rw [Run.bind_done hframe.frameAt]
      -- a class body is passed whatever it binds
      cases hclass : f.isClass with
      | true => exact ih k
      | false =>
        have hlocal : f.locals.contains n = false := by
          rcases hpassed with htrue | hlocal
          · rw [hclass] at htrue
            cases htrue
          · exact hlocal
        rw [hlocal]
        -- a declaration ends the search, with the same answer
        cases f.globals.contains n with
        | true => rfl
        | false => exact ih k

/-- The scope of the code leaves a name to the top level, by a declaration or because
neither it nor the functions around it have it as a variable. -/
theorem HasFrame.home_global {loc : Loc} {f : Frame} (hframe : w.cells.HasFrame loc f)
    (h : f.globals.contains n = true ∨
      f.locals.contains n = false ∧ w.cells.Passes n f.parent) :
    Run.home loc n w = (.done .global, w) := by
  unfold Run.home
  rw [Run.bind_done hframe.frameAt]
  rcases h with hglobal | ⟨hlocal, outer⟩
  · rw [hglobal]
    rfl
  · rw [hlocal]
    cases f.globals.contains n with
    | true => rfl
    | false => exact outer.outerHome _

/-- Code for which a name is one of the top level is at the top level, or in a scope that
leaves the name to it. -/
theorem GlobalIn.cases_frame (h : w.cells.GlobalIn env n) :
    env.frame = none ∨ ∃ loc f, env.frame = some loc ∧ w.cells.HasFrame loc f ∧
      (f.isClass && !f.globals.contains n) = false ∧ Run.home loc n w = (.done .global, w) := by
  cases h with
  | top henv => exact .inl henv
  | declared henv hframe hglobal =>
    refine .inr ⟨_, _, henv, hframe, ?_, hframe.home_global (.inl hglobal)⟩
    rw [hglobal]
    simp
  | inFunction henv hframe hfunction hlocal outer =>
    refine .inr ⟨_, _, henv, hframe, ?_, hframe.home_global (.inr ⟨hlocal, outer⟩)⟩
    rw [hfunction]
    rfl

end Cells

/-! ## Reading, binding and deleting -/

section Rules

open Cells

variable {w w₁ w₂ : World} {env : Env} {n : String}

theorem globalValue_eq (n : String) (w : World) :
    Run.globalValue n w = (w.names.resolve n, w) := by
  unfold Run.globalValue Namespace.resolve
  rw [Run.world_bind]
  cases w.names.lookup? n <;> rfl

theorem classValue_eq (n : String) (w : World) :
    Run.classValue n w = (w.names.withoutHost.resolve n, w) := by
  unfold Run.classValue Namespace.resolve Namespace.lookup?
  rw [Run.world_bind]
  have hsame : w.names.withoutHost.own.find? n = w.names.own.find? n := rfl
  have hnone : w.names.withoutHost.host.find? n = none := rfl
  rw [hsame, hnone]
  cases w.names.own.find? n with
  | some v => rfl
  | none => cases builtinValue? n <;> rfl

/-- Everywhere but directly in a class body a name of the top level is looked up in the
sandbox, among the host's names and among the built-in ones. -/
theorem nameValue_global (h : w.cells.GlobalIn env n) :
    Run.nameValue env n w = (w.names.resolve n, w) := by
  unfold Run.nameValue
  rcases h.cases_frame with henv | ⟨loc, f, henv, hframe, hclass, hhome⟩
  · rw [henv]
    exact globalValue_eq n w
  · rw [henv]
    simp only
    rw [Run.bind_done hframe.frameAt, hclass]
    simp only [Bool.false_eq_true, if_false]
    rw [Run.bind_done hhome]
    exact globalValue_eq n w

/-- A class body itself passes over the host's names. -/
theorem nameValue_classBody (h : w.cells.InClassBody env n) :
    Run.nameValue env n w = (w.names.withoutHost.resolve n, w) := by
  obtain ⟨henv, hframe, hclass, hglobal, hunbound, outer⟩ := h
  unfold Run.nameValue
  rw [henv]
  simp only
  -- the body declares and binds nothing of this name, so it asks the scopes around it
  rw [Run.bind_done hframe.frameAt, hclass, hglobal, hunbound]
  simp only [Bool.not_false, Bool.and_self, if_true]
  rw [Run.bind_done (outer.outerHome _)]
  exact classValue_eq n w

theorem bindName_global (h : w.cells.GlobalIn env n) (v : Value) :
    Run.bindName env n v w = (.done (), { w with names := w.names.bind n v }) := by
  unfold Run.bindName
  rcases h.cases_frame with henv | ⟨loc, f, henv, hframe, hclass, hhome⟩
  · rw [henv]
    rfl
  · rw [henv]
    simp only
    rw [Run.bind_done hframe.frameAt, hclass]
    simp only [Bool.false_eq_true, if_false]
    rw [Run.bind_done hhome]
    rfl

theorem deleteGlobal_eq (n : String) (w : World) :
    Run.deleteGlobal n w =
      if (w.names.own.find? n).isSome then (.done (), { w with names := w.names.unbind n })
      else (.raised (.unbound n), w) := by
  unfold Run.deleteGlobal
  rw [Run.world_bind]
  cases w.names.own.find? n <;> rfl

theorem deleteName_global (h : w.cells.GlobalIn env n) :
    Run.deleteName env n w =
      if (w.names.own.find? n).isSome then (.done (), { w with names := w.names.unbind n })
      else (.raised (.unbound n), w) := by
  unfold Run.deleteName
  rcases h.cases_frame with henv | ⟨loc, f, henv, hframe, hclass, hhome⟩
  · rw [henv]
    exact deleteGlobal_eq n w
  · rw [henv]
    simp only
    rw [Run.bind_done hframe.frameAt, hclass]
    simp only [Bool.false_eq_true, if_false]
    rw [Run.bind_done hhome]
    exact deleteGlobal_eq n w

variable {r : Rules} {e : Expr} {old v x : Value}

/-- An assignment to a name of the top level binds it in the sandbox. -/
theorem execute_assign_global (he : r.expression env e w = (.done v, w₁))
    (h : w₁.cells.GlobalIn env n) :
    r.execute env (.assign [.name n] e) w =
      (.done .next, { w₁ with names := w₁.names.bind n v }) := by
  unfold Rules.execute
  simp only
  rw [Run.bind_done he]
  -- the only target is the name
  have hassign : Run.forEach [Expr.name n] (fun t => r.assign env t v) w₁ =
      (.done (), { w₁ with names := w₁.names.bind n v }) := by
    unfold Run.forEach
    have hname : r.assign env (.name n) v = Run.bindName env n v := by
      unfold Rules.assign
      rfl
    simp only [hname]
    rw [Run.bind_done (bindName_global h v)]
    rfl
  rw [Run.bind_done hassign]
  rfl

/-- So does an assignment with an operator, which reads the name first. -/
theorem execute_augment_global {op : BinaryOp} (h : w.cells.GlobalIn env n)
    (hold : w.names.resolve n = .done old) (he : r.expression env e w = (.done x, w₁))
    (hoperate : r.operateInPlace op old x w₁ = (.done v, w₂)) (h₂ : w₂.cells.GlobalIn env n) :
    r.execute env (.augment (.name n) op e) w =
      (.done .next, { w₂ with names := w₂.names.bind n v }) := by
  -- the name is read before the operand runs, and bound in the world that the operation left
  have hread : Run.nameValue env n w = (.done old, w) := by rw [nameValue_global h, hold]
  unfold Rules.execute Rules.augment
  simp only
  have haugment : (Run.nameValue env n >>= fun old =>
      r.expression env e >>= fun x => r.operateInPlace op old x >>= fun v =>
        Run.bindName env n v) w = (.done (), { w₂ with names := w₂.names.bind n v }) := by
    rw [Run.bind_done hread, Run.bind_done he, Run.bind_done hoperate]
    exact bindName_global h₂ v
  rw [Run.bind_done haugment]
  rfl

/-- Deleting a name of the top level deletes it in the sandbox, and is refused if the
sandbox does not bind it. -/
theorem execute_delete_global (h : w.cells.GlobalIn env n) :
    r.execute env (.delete [.name n]) w =
      if (w.names.own.find? n).isSome then (.done .next, { w with names := w.names.unbind n })
      else (.raised (.unbound n), w) := by
  have hname : r.deleteAll env [.name n] =
      (Run.deleteName env n >>= fun _ => Pure.pure ()) := by
    unfold Rules.deleteAll Rules.delete Rules.deleteAll
    rfl
  have hdelete := deleteName_global h
  unfold Rules.execute
  simp only
  cases hown : (w.names.own.find? n).isSome with
  | true =>
    rw [hown, if_pos rfl] at hdelete
    have hall : r.deleteAll env [.name n] w =
        (.done (), { w with names := w.names.unbind n }) := by
      rw [hname]
      exact Run.bind_done hdelete
    rw [if_pos rfl, Run.bind_done hall]
    rfl
  | false =>
    rw [hown, if_neg Bool.false_ne_true] at hdelete
    have hall : r.deleteAll env [.name n] w = (.raised (.unbound n), w) := by
      rw [hname]
      exact Run.bind_raised hdelete
    rw [if_neg Bool.false_ne_true, Run.bind_raised hall]

/-! ## Scopes that code goes into -/

/-- A computation that ends with `e` is `x` run in an inner scope for which `P` holds of a
name. Nothing was bound or deleted at the top level before, and the name passes the scope. -/
def World.GoesOn {α : Type} (w : World) (n : String) (P : Cells → Env → String → Prop)
    (e : Ending α) (x : Env → Run α) : Prop :=
  ∃ env' w', w'.names = w.names ∧ P w'.cells env' n ∧ w'.cells.Passes n env'.frame ∧
    e = (x env' w').1

/-! ### Calls of functions -/

/-- What runs behind a computation does not change how that ended. -/
theorem finally_update_ending {α : Type} (x : Run α) (g : World → World) (w : World) :
    (Run.finally_ x (Run.update g) w).1 = (x w).1 := by
  unfold Run.finally_
  rcases x w with ⟨a | e | _, w'⟩ <;> rfl

theorem counted_ending {α : Type} {x : Run α} (hdepth : w.depth < maxCalls) :
    (Run.counted x w).1 = (x { w with depth := w.depth + 1 }).1 := by
  have hless : ¬ w.depth ≥ maxCalls := Nat.not_le_of_lt hdepth
  unfold Run.counted
  rw [Run.world_bind, if_neg hless]
  exact finally_update_ending x _ _

/-- Runs the body of a function in a scope. -/
def Rules.runBody (r : Rules) (env : Env) : Body → Run Value
  | .expression e => r.expression env e
  | .block b => do
    match ← r.block env b with
    | .giveBack v => return v
    | _ => return .none
  | .suspended _ => .raise (.notProvided "a coroutine")

/-- The frame of a call that begins with some variables. -/
def Closure.callFrame (c : Closure) (bindings : List (String × Value)) : Frame :=
  { bindings, locals := c.locals, globals := c.globals, parent := c.frame }

/-- Runs the body of a function in the frame of a call. -/
def Rules.callBody (r : Rules) (c : Closure) (bindings : List (String × Value)) : Run Value := do
  let frame ← Run.alloc (.frame (c.callFrame bindings))
  Run.counted (r.runBody { frame := some frame, path := c.name ++ ".<locals>." } c.body)

theorem callFunction_eq {c : Closure} {args : Arguments} {bindings : List (String × Value)}
    (hargs : c.bindArguments args = .ok (bindings, none)) (w : World) :
    r.callFunction c args w = r.callBody c bindings w := by
  unfold Rules.callFunction Rules.callBody Rules.runBody Closure.callFrame
  rw [hargs, Run.ofExcept_ok, Run.pure_bind]
  cases c.body <;> rfl

theorem callFunction_eq_of_keywords {c : Closure} {args : Arguments}
    {bindings : List (String × Value)} {k : String} {entries : List (Value × Value)}
    (hargs : c.bindArguments args = .ok (bindings, some (k, entries))) (w : World) :
    r.callFunction c args w = r.callBody c (bindings ++ [(k, .dict w.cells.size)])
      { w with cells := w.cells.push (.dict entries) } := by
  unfold Rules.callFunction Rules.callBody Rules.runBody Closure.callFrame
  rw [hargs, Run.ofExcept_ok, Run.pure_bind]
  cases c.body <;> rfl

/-- The body of a function runs in a scope in which a name is one of the top level, unless
the function or one around it has it as a variable; the name also passes that scope, for the
functions defined in it. -/
theorem callBody_global {c : Closure} {w : World} (hlocal : c.locals.contains n = false)
    (outer : w.cells.Passes n c.frame) (hdepth : w.depth < maxCalls)
    (bindings : List (String × Value)) :
    w.GoesOn n GlobalIn (r.callBody c bindings w).1 fun env' => r.runBody env' c.body := by
  -- the frame of the call is made behind all other cells
  let env' : Env := { frame := some w.cells.size, path := c.name ++ ".<locals>." }
  have halloc : Run.alloc (.frame (c.callFrame bindings)) w =
      (.done w.cells.size, { w with cells := w.cells.push (.frame (c.callFrame bindings)) }) := rfl
  have hinner : GlobalIn (w.cells.push (.frame (c.callFrame bindings))) env' n ∧
      Passes (w.cells.push (.frame (c.callFrame bindings))) n env'.frame :=
    globalIn_inner rfl hlocal outer rfl
  refine ⟨env', { w with
    cells := w.cells.push (.frame (c.callFrame bindings)), depth := w.depth + 1 },
    rfl, hinner.1, hinner.2, ?_⟩
  unfold Rules.callBody
  rw [Run.bind_done halloc]
  exact counted_ending hdepth

/-- So does a call, whenever and wherever the function was defined. -/
theorem callFunction_global {c : Closure} {args : Arguments} {w : World}
    {bindings : List (String × Value)} {keywords : Option (String × List (Value × Value))}
    (hargs : c.bindArguments args = .ok (bindings, keywords))
    (hlocal : c.locals.contains n = false) (outer : w.cells.Passes n c.frame)
    (hdepth : w.depth < maxCalls) :
    w.GoesOn n GlobalIn (r.callFunction c args w).1 fun env' => r.runBody env' c.body := by
  cases keywords with
  | none =>
    rw [callFunction_eq hargs]
    exact callBody_global hlocal outer hdepth bindings
  | some keyword =>
    -- further keywords are held in a dictionary, which is made before the frame
    obtain ⟨k, entries⟩ := keyword
    rw [callFunction_eq_of_keywords hargs]
    exact callBody_global (w := { w with cells := w.cells.push (.dict entries) }) hlocal
      (outer.push _) hdepth _

/-! ### Comprehensions and class bodies -/

/-- What a comprehension builds inside of its frame, over a first source. A generator keeps
the frame for the time when its items are asked for. -/
def Rules.comprehensionBody (r : Rules) (env : Env) (kind : Collection) (key : Option Expr)
    (element : Expr) (clauses : List Clause) (first : Value) : Run Value := do
  match kind, key with
  | .dict, some k =>
    let entries ← r.collect env
      (do
        let k ← r.expression env k
        let v ← r.expression env element
        return (← Run.key k, v))
      (some first) clauses
    Run.newDict (mergeEntries [] entries)
  | .list, _ => Run.newList (← r.collect env (r.expression env element) (some first) clauses)
  | .generator, _ =>
    let iterator ← Run.iterate first
    Run.newIterator "generator" (.generator { env, element, clauses, active := [iterator] })
  | _, _ => .raise (.notProvided "a set")

/-- The names that the clauses of a comprehension bind. -/
def clauseNames (clauses : List Clause) : List String :=
  (clauses.flatMap fun (.mk _ target _ _) => boundNames (target.targetMentions true)).eraseDups

/-- Behind its first source a comprehension runs in a scope in which a name is one of the top
level, unless the comprehension or a function around it has it as a variable. -/
theorem comprehension_global {isAsync : Bool} {target source element : Expr}
    {conditions : List Expr} {rest : List Clause} (kind : Collection) (key : Option Expr)
    (hsource : r.expression env source w = (.done v, w₁))
    (hlocal : (clauseNames (.mk isAsync target source conditions :: rest)).contains n = false)
    (outer : w₁.cells.Passes n env.frame) :
    w₁.GoesOn n GlobalIn
      (r.comprehension env kind key element (.mk isAsync target source conditions :: rest) w).1
      fun env' => r.comprehensionBody env' kind key element
        (.mk isAsync target source conditions :: rest) v := by
  let f : Frame :=
    -- only the first source runs outside of the frame, and before the frame is made
    { bindings := [], locals := clauseNames (.mk isAsync target source conditions :: rest)
      globals := [], parent := env.frame }
  let env' : Env := { env with frame := some w₁.cells.size }
  have halloc : Run.alloc (.frame f) w₁ =
      (.done w₁.cells.size, { w₁ with cells := w₁.cells.push (.frame f) }) := rfl
  have hinner : GlobalIn (w₁.cells.push (.frame f)) env' n ∧
      Passes (w₁.cells.push (.frame f)) n env'.frame := globalIn_inner rfl hlocal outer rfl
  refine ⟨env', { w₁ with cells := w₁.cells.push (.frame f) }, rfl, hinner.1, hinner.2, ?_⟩
  unfold Rules.comprehension
  simp only
  rw [Run.bind_done hsource]
  exact congrArg Prod.fst (Run.bind_done halloc)

/-- What runs in the frame of a class, and what is made of it. -/
def Rules.classBody (r : Rules) (env inner : Env) (loc : Loc) (name : String) (body : Block) :
    Run Unit := do
  Run.prepareAnnotations inner body
  let _ ← r.block inner body
  let attributes ← .ofExcept (classAttributes body (← Run.frameAt loc).bindings)
  let c ← Run.alloc (.kind (env.path ++ name) attributes)
  Run.bindName env name (← r.decorate [] (.object c))

/-- The body of a class runs in a scope in which a name of the top level is not looked up
among the host's names, until the body binds it; functions in the body pass over the body. -/
theorem defineClass_inClassBody {name : String} {body : Block}
    (hglobal : (globalNames ((blockMentions body).map (·.2))).contains n = false)
    (hmodule : n ≠ "__module__") (hqualname : n ≠ "__qualname__")
    (outer : w.cells.Passes n env.frame) :
    w.GoesOn n InClassBody (r.defineClass env name [] [] body w).1
      fun env' => r.classBody env env' w.cells.size name body := by
  let f : Frame :=
    { bindings :=
        [("__module__", .ofString "builtins"), ("__qualname__", .ofString (env.path ++ name))]
      locals := localNames [] ((blockMentions body).map (·.2))
      globals := globalNames ((blockMentions body).map (·.2)), parent := env.frame
      isClass := true }
  let env' : Env := { env with frame := some w.cells.size, path := env.path ++ name ++ "." }
  -- a class body begins with two names of its own
  have hunbound : f.bindings.lookup n = none := by
    simp only [f, List.lookup_cons, beq_false_of_ne hmodule, beq_false_of_ne hqualname]
    rfl
  have hinner : InClassBody (w.cells.push (.frame f)) env' n ∧
      Passes (w.cells.push (.frame f)) n env'.frame :=
    inClassBody_inner rfl hglobal hunbound outer rfl
  exact ⟨env', { w with cells := w.cells.push (.frame f) }, rfl, hinner.1, hinner.2, rfl⟩

/-! ## All of it -/

/-- What code does to a name of the top level: it binds the name in the sandbox, deletes it
there, and is refused if the sandbox does not bind it. -/
structure Rules.ChangesSandbox (r : Rules) (w : World) (env : Env) (n : String) : Prop where
  assign : ∀ {e : Expr} {v : Value} {w₁ : World}, r.expression env e w = (.done v, w₁) →
    w₁.cells.GlobalIn env n → ∃ names,
      r.execute env (.assign [.name n] e) w = (.done .next, { w₁ with names }) ∧
      names.Rebinds w₁.names n v
  augment : ∀ {op : BinaryOp} {e : Expr} {old x v : Value} {w₁ w₂ : World},
    w.names.resolve n = .done old → r.expression env e w = (.done x, w₁) →
    r.operateInPlace op old x w₁ = (.done v, w₂) → w₂.cells.GlobalIn env n → ∃ names,
      r.execute env (.augment (.name n) op e) w = (.done .next, { w₂ with names }) ∧
      names.Rebinds w₂.names n v
  delete : (w.names.own.find? n).isSome = true → ∃ names,
    r.execute env (.delete [.name n]) w = (.done .next, { w with names }) ∧
    names.Uncovers w.names n
  refuse : w.names.own.find? n = none →
    r.execute env (.delete [.name n]) w = (.raised (.unbound n), w)

theorem changesSandbox (h : w.cells.GlobalIn env n) : r.ChangesSandbox w env n where
  assign he h₁ := ⟨_, execute_assign_global he h₁, Namespace.rebinds_bind _ n _⟩
  augment hold he hoperate h₂ :=
    ⟨_, execute_augment_global h hold he hoperate h₂, Namespace.rebinds_bind _ n _⟩
  delete hown := by
    have hdelete := execute_delete_global (r := r) h
    rw [hown, if_pos rfl] at hdelete
    exact ⟨_, hdelete, Namespace.uncovers_unbind _ n⟩
  refuse hown := by
    have hdelete := execute_delete_global (r := r) h
    rw [hown] at hdelete
    exact hdelete

/-- Which scopes code goes into from a scope: the bodies of functions, whenever and wherever
they were defined, the insides of comprehensions, and class bodies. -/
structure Rules.EntersScopes (r : Rules) (w : World) (env : Env) (n : String) : Prop where
  function : ∀ {c : Closure} {args : Arguments} {bindings : List (String × Value)}
    {keywords : Option (String × List (Value × Value))},
    c.bindArguments args = .ok (bindings, keywords) → c.locals.contains n = false →
    w.cells.Passes n c.frame → w.depth < maxCalls →
    w.GoesOn n GlobalIn (r.callFunction c args w).1 fun env' => r.runBody env' c.body
  comprehension : ∀ {isAsync : Bool} {target source element : Expr} {conditions : List Expr}
    {rest : List Clause} {kind : Collection} {key : Option Expr} {v : Value} {w₁ : World},
    kind ≠ .set → r.expression env source w = (.done v, w₁) →
    (clauseNames (.mk isAsync target source conditions :: rest)).contains n = false →
    w₁.cells.Passes n env.frame →
    w₁.GoesOn n GlobalIn
      (r.comprehension env kind key element (.mk isAsync target source conditions :: rest) w).1
      fun env' => r.comprehensionBody env' kind key element
        (.mk isAsync target source conditions :: rest) v
  classBody : ∀ {name : String} {body : Block},
    (globalNames ((blockMentions body).map (·.2))).contains n = false →
    n ≠ "__module__" → n ≠ "__qualname__" → w.cells.Passes n env.frame →
    w.GoesOn n InClassBody (r.defineClass env name [] [] body w).1
      fun env' => r.classBody env env' w.cells.size name body

theorem entersScopes (r : Rules) (w : World) (env : Env) (n : String) :
    r.EntersScopes w env n where
  function hargs hlocal outer hdepth := callFunction_global hargs hlocal outer hdepth
  comprehension _ hsource hlocal outer := comprehension_global _ _ hsource hlocal outer
  classBody hglobal hmodule hqualname outer :=
    defineClass_inClassBody hglobal hmodule hqualname outer

/-- Whatever was run before, a name of the top level is looked up in the sandbox, else among
the host's names, else among the built-in ones: at the top level and in functions, lambdas
and comprehensions, however deep and whenever they were defined. Directly in a class body the
lookup comes out like this exactly if the sandbox binds the name or the host has nothing else
for it than what is built in. Assignments and deletions change the sandbox alone. -/
theorem global_names_resolve_iff (k : Nat)
    (h : w.cells.GlobalIn env n ∨ w.cells.InClassBody env n) :
    ((rules (k + 1)).expression env (.name n) w = (w.names.resolve n, w) ↔
      w.cells.GlobalIn env n ∨ (w.names.own.find? n).isSome = true ∨
        w.names.host.find? n = none ∨ w.names.host.find? n = builtinValue? n) ∧
    (w.cells.InClassBody env n →
      (rules (k + 1)).expression env (.name n) w = (w.names.withoutHost.resolve n, w)) ∧
    (w.cells.GlobalIn env n → (rules k).ChangesSandbox w env n) ∧
    (rules k).EntersScopes w env n := by
  have hglobal : w.cells.GlobalIn env n →
      (rules (k + 1)).expression env (.name n) w = (w.names.resolve n, w) := nameValue_global
  have hclass : w.cells.InClassBody env n →
      (rules (k + 1)).expression env (.name n) w = (w.names.withoutHost.resolve n, w) :=
    nameValue_classBody
  -- where the name is global nothing is left to show; a class body asks all but the host
  refine ⟨?_, hclass, changesSandbox, entersScopes _ w env n⟩
  rcases h with hin | hin
  · exact iff_of_true (hglobal hin) (.inl hin)
  · rw [hclass hin]
    constructor
    · intro heq
      exact .inr (Namespace.resolve_withoutHost_iff.mp (congrArg Prod.fst heq))
    · rintro (hin' | hsame)
      · rw [← hclass hin, hglobal hin']
      · rw [Namespace.resolve_withoutHost_iff.mpr hsame]

end Rules

/-- A session over a host with a name, with the frame of a function in the store. -/
def scopeSample : World :=
  World.start {} { names := [("limit", .int 7)] } none
    #[.frame { bindings := [], locals := ["x"], globals := [], parent := none }]

/-- In the function the host's name is found; it can be hidden, and not deleted. -/
theorem global_names_resolve_in_function :
    (scopeSample.cells.GlobalIn { frame := some 0 } "limit" ∨
      scopeSample.cells.InClassBody { frame := some 0 } "limit") ∧
    (rules 2).expression { frame := some 0 } (.name "limit") scopeSample =
      (.done (.int 7), scopeSample) ∧
    (rules 1).execute { frame := some 0 } (.delete [.name "limit"]) scopeSample =
      (.raised (.unbound "limit"), scopeSample) := by
  have hin : scopeSample.cells.GlobalIn { frame := some 0 } "limit" :=
    .inFunction rfl rfl rfl (by decide) .top
  obtain ⟨hread, -, hchanges, -⟩ := global_names_resolve_iff 1 (.inl hin)
  exact ⟨.inl hin, hread.mpr (.inl hin), (hchanges hin).refuse rfl⟩

/-- The message of an error that a snippet came to. -/
def Ending.message : Ending Outcome → Text
  | .done (.error m) => m
  | _ => []

/-- In a class body a name of the host is unknown, which is known everywhere else. -/
theorem class_body_misses_host :
    scopeSample.names.resolve "limit" = .done (.int 7) ∧
    (evaluateSnippet "class A:\n    y = limit\n".toList true scopeSample).1.message =
      "NameError: name 'limit' is not defined".toList := by
  constructor
  · rfl
  · decide +kernel

end Scratchpad
