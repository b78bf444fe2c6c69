import Scratchpad.Proofs.CommitSteps

/-!
# Lookups

An expression that only looks things up leaves the buffer and the log alone, and what it
raises is a fault that says in words what is missing. Such an expression is made of names,
literals and attributes, joined by words. There are two ways in which it could still run code.
An attribute may be computed by the class of an object, so all of this is said of a store
without objects of classes that code defined. And `in` may search an iterator over calls; but
behind it stands an attribute of a literal, and no iterator can be reached from a literal.

* `Cells.Plain` — a store in which no attribute is computed;
* `Raised.Worded` — an exception that reports a fault in words;
* `Run.Keeps` — a computation that leaves buffer and log alone, with what holds of its value;
* `keeps_getAttribute` — attributes are read without side effects;
* `keepLookups_rules` — lookups of any depth, by induction on the fuel;
* `keeps_lookup` — a lookup at the top level.
-/

namespace Scratchpad

/-! ## Computations that leave the editor alone -/

/-- Two worlds with the same buffer and the same log. -/
structure World.SameEditor (w w' : World) : Prop where
  buffer : w'.buffer = w.buffer
  history : w'.history = w.history

namespace World.SameEditor

@[refl] theorem refl (w : World) : w.SameEditor w := ⟨rfl, rfl⟩

theorem trans {u v w : World} (h : u.SameEditor v) (h' : v.SameEditor w) : u.SameEditor w :=
  ⟨h'.buffer.trans h.buffer, h'.history.trans h.history⟩

end World.SameEditor

/-- The cell is no object of a class that code defined. -/
def Cell.IsPlain (c : Cell) : Prop := ∀ kind held, c ≠ .ofKind kind held

/-- No cell is an object of a class that code defined. Such an object may compute its
attributes. -/
def Cells.Plain (cells : Cells) : Prop :=
  ∀ (loc : Loc) kind held, cells[loc]? ≠ some (.ofKind kind held)

theorem Cells.Plain.push {cells : Cells} {c : Cell} (h : cells.Plain) (hc : c.IsPlain) :
    Cells.Plain (cells.push c) := by
  intro loc kind held hloc
  rw [Array.getElem?_push] at hloc
  split at hloc
  · exact hc kind held (Option.some.inj hloc)
  · exact h loc kind held hloc

/-- An exception that reports a fault in words. -/
structure Raised.Worded (e : Raised) : Prop where
  fault : e.isFault = true
  args : ∃ t, e.args = [.str t]

namespace Raised.Worded

theorem of {kind : String} (message : String) (h : derivesFrom kind "Exception" = true) :
    (Raised.of kind message).Worded :=
  ⟨h, _, rfl⟩

theorem typeError (message : String) : (Raised.typeError message).Worded :=
  of message (by decide)

theorem valueError (message : String) : (Raised.valueError message).Worded :=
  of message (by decide)

theorem attributeError (message : String) : (Raised.attributeError message).Worded :=
  of message (by decide)

theorem notProvided (what : String) : (Raised.notProvided what).Worded := of _ (by decide)

theorem unbound (n : String) : (Raised.unbound n).Worded := of _ (by decide)

end Raised.Worded

/-- The text of a worded exception can be computed. -/
theorem World.str_of_worded {e : Raised} (h : e.Worded) (w : World) :
    ∃ t, w.str e.value = .ok t := by
  obtain ⟨t, hargs⟩ := h.args
  unfold Raised.value World.str
  rw [hargs]
  -- the argument is shown as it is, or quoted if it is a key
  by_cases hkey : e.kind == "KeyError"
  · exact ⟨quoted t, by simp only [showDepth, World.textOf, hkey]; rfl⟩
  · exact ⟨t, by simp only [showDepth, World.textOf, hkey]; rfl⟩

namespace Run

/-- The computation leaves buffer and log alone and makes no object that computes its
attributes, its value has a property, and what it raises instead is worded. -/
structure KeepsIn {α : Type} (x : Run α) (P : α → Prop) (w : World) : Prop where
  plain : (x w).2.cells.Plain
  same : w.SameEditor (x w).2
  value : ∀ a, (x w).1 = .done a → P a
  raised : ∀ e, (x w).1 = .raised e → e.Worded

/-- The computation does so in every world with a plain store. -/
def Keeps {α : Type} (x : Run α) (P : α → Prop) : Prop :=
  ∀ w : World, w.cells.Plain → x.KeepsIn P w

namespace Keeps

variable {α β : Type} {P : α → Prop} {Q : β → Prop} {x : Run α} {f : α → Run β}

theorem of_pure {a : α} (h : P a) : (Pure.pure a : Run α).Keeps P :=
  fun w hw => ⟨hw, .refl w, by rintro _ ⟨⟩; exact h, nofun⟩

theorem of_raise {e : Raised} (h : e.Worded) : (raise e : Run α).Keeps P :=
  fun w hw => ⟨hw, .refl w, nofun, by rintro _ ⟨⟩; exact h⟩

theorem of_spend : (spend : Run α).Keeps P := fun w hw => ⟨hw, .refl w, nofun, nofun⟩

theorem of_world : world.Keeps fun w => w.cells.Plain :=
  fun w hw => ⟨hw, .refl w, by rintro _ ⟨⟩; exact hw, nofun⟩

theorem of_cells : cells.Keeps Cells.Plain :=
  fun w hw => ⟨hw, .refl w, by rintro _ ⟨⟩; exact hw, nofun⟩

theorem of_alloc {c : Cell} (hc : c.IsPlain) : (alloc c).Keeps fun _ => True :=
  fun _ hw => ⟨hw.push hc, ⟨rfl, rfl⟩, fun _ _ => trivial, nofun⟩

theorem of_ofExcept {r : Except Raised α} (h : ∀ a, r = .ok a → P a)
    (herror : ∀ e, r = .error e → e.Worded) : (ofExcept r : Run α).Keeps P := by
  cases r with
  | ok a => exact of_pure (h a rfl)
  | error e => exact of_raise (herror e rfl)

theorem of_update {g : World → World} (h : ∀ w : World, w.SameEditor (g w))
    (hcells : ∀ w : World, (g w).cells = w.cells) : (update g).Keeps fun _ => True :=
  fun w hw => ⟨by rw [← hcells] at hw; exact hw, h w, fun _ _ => trivial, nofun⟩

/-- What holds of the value of a first step may be used by the second. -/
theorem bind (hx : x.Keeps P) (hf : ∀ a, P a → (f a).Keeps Q) : (x >>= f).Keeps Q := by
  intro w hw
  obtain ⟨hplain, hsame, hvalue, hraised⟩ := hx w hw
  rcases h : x w with ⟨a | e | _, w₁⟩ <;> rw [h] at hplain hsame
  · -- the second step starts in the world that the first one left
    rw [h] at hvalue
    obtain ⟨hplain', hsame', hvalue', hraised'⟩ := hf a (hvalue a rfl) w₁ hplain
    refine ⟨?_, ?_, ?_, ?_⟩ <;> rw [bind_done h]
    exacts [hplain', hsame.trans hsame', hvalue', hraised']
  · rw [h] at hraised
    -- nothing runs behind what was raised
    refine ⟨?_, ?_, ?_, ?_⟩ <;> rw [bind_raised h]
    exacts [hplain, hsame, nofun, fun e he => hraised e (by cases he; rfl)]
  · refine ⟨?_, ?_, ?_, ?_⟩ <;> rw [bind_spent h]
    exacts [hplain, hsame, nofun, nofun]

theorem str {e : Raised} (h : e.Worded) : (Run.str e.value).Keeps fun _ => True := by
  intro w hw
  obtain ⟨t, ht⟩ := w.str_of_worded h
  have hstr : Run.str e.value w = (.done t, w) := by
    rw [Run.str, world_bind, ht]
    rfl
  exact ⟨by rw [hstr]; exact hw, by rw [hstr], fun _ _ => trivial, by rw [hstr]; nofun⟩

theorem mono {P' : α → Prop} (hx : x.Keeps P) (h : ∀ a, P a → P' a) : x.Keeps P' :=
  fun w hw => ⟨(hx w hw).plain, (hx w hw).same, fun a ha => h a ((hx w hw).value a ha),
    (hx w hw).raised⟩

/-- A step whose value does not matter. -/
theorem bind_any (hx : x.Keeps P) (hf : ∀ a, (f a).Keeps Q) : (x >>= f).Keeps Q :=
  hx.bind fun a _ => hf a

/-- What is caught is worded. -/
theorem attempt (hx : x.Keeps P) :
    (attempt x).Keeps fun ending => ∀ e, ending = .error e → e.Worded := by
  intro w hw
  obtain ⟨hplain, hsame, -, hraised⟩ := hx w hw
  rcases h : x w with ⟨a | e | _, w₁⟩ <;> rw [h] at hplain hsame hraised
  -- catching changes the ending, and not the world that is left
  · have hattempt : Run.attempt x w = (.done (.ok a), w₁) := by simp [Run.attempt, h]
    refine ⟨?_, ?_, ?_, ?_⟩ <;> rw [hattempt]
    exacts [hplain, hsame, by rintro _ ⟨⟩ _ ⟨⟩, by rintro _ ⟨⟩]
  · have hattempt : Run.attempt x w = (.done (.error e), w₁) := by simp [Run.attempt, h]
    refine ⟨?_, ?_, ?_, ?_⟩ <;> rw [hattempt]
    exacts [hplain, hsame, by rintro _ ⟨⟩ _ ⟨⟩; exact hraised e rfl, by rintro _ ⟨⟩]
  · have hattempt : Run.attempt x w = (.spent, w₁) := by simp [Run.attempt, h]
    refine ⟨?_, ?_, ?_, ?_⟩ <;> rw [hattempt]
    exacts [hplain, hsame, by rintro _ ⟨⟩, by rintro _ ⟨⟩]

end Keeps

end Run

/-! ## Attributes -/

/-- Values from which no iterator can be reached. -/
inductive Value.Inert : Value → Prop where
  | none : Inert .none
  | ellipsis : Inert .ellipsis
  | bool (b : Bool) : Inert (.bool b)
  | int (n : Int) : Inert (.int n)
  | float (x : Float) : Inert (.float x)
  | str (t : Text) : Inert (.str t)
  | bytes (bs : List UInt8) : Inert (.bytes bs)
  | type (name : String) : Inert (.type name)
  | dict (loc : Loc) : Inert (.dict loc)
  | method {self : Value} (name : String) (h : Inert self) : Inert (.method self name)

namespace Run

theorem keeps_typeName (v : Value) : (typeName v).Keeps fun _ => True :=
  Keeps.of_cells.bind_any fun _ => .of_pure trivial

theorem keeps_newDict (es : List (Value × Value)) : (newDict es).Keeps Value.Inert :=
  (Keeps.of_alloc (fun _ _ => Cell.noConfusion)).bind_any fun loc => .of_pure (.dict loc)

theorem keeps_newList (vs : List Value) : (newList vs).Keeps fun _ => True :=
  (Keeps.of_alloc (fun _ _ => Cell.noConfusion)).bind_any fun _ => .of_pure trivial

theorem keeps_functionAttribute? (loc : Loc) (n : String) :
    (functionAttribute? loc n).Keeps fun _ => True := by
  unfold functionAttribute?
  refine Keeps.of_cells.bind_any fun cells => ?_
  split
  · split <;> first
      -- of what a function holds only its dictionary is made anew
      | exact .of_pure trivial
      | exact (keeps_newDict _).bind_any fun _ => .of_pure trivial
      | (split <;> exact .of_pure trivial)
      -- the variables of the functions around it cannot be read
      | (split <;> first | exact .of_pure trivial | exact .of_raise (.notProvided _))
      | (dsimp only; split <;> first
          | exact .of_pure trivial
          | exact (keeps_newDict _).bind_any fun _ => .of_pure trivial)
  · exact .of_pure trivial

/-- Data that every value has lead to no iterator. -/
theorem keeps_commonAttribute? (v : Value) (n : String) :
    (commonAttribute? v n).Keeps fun x? => ∀ x ∈ x?, x.Inert := by
  unfold commonAttribute?
  split
  · exact Keeps.of_cells.bind_any fun _ => .of_pure (by rintro _ ⟨⟩; exact .type _)
  · split <;> exact .of_pure (by rintro _ ⟨⟩; constructor)
  · exact Keeps.of_world.bind_any fun _ =>
      (keeps_newDict _).bind fun x hx => .of_pure (by rintro _ ⟨⟩; exact hx)
  · exact .of_pure (by rintro _ ⟨⟩; constructor)
  · exact .of_pure (by rintro _ ⟨⟩; constructor)
  · exact .of_pure (by rintro _ ⟨⟩; constructor)
  · exact .of_pure nofun

theorem missingOfClass_worded (name n : String) : (missingOfClass name n).Worded := by
  unfold missingOfClass
  split
  · exact .notProvided _
  · exact .attributeError _

theorem keeps_missingAttribute (v : Value) (n : String) :
    (missingAttribute v n).Keeps Raised.Worded := by
  unfold missingAttribute
  split
  · exact .of_pure (missingOfClass_worded _ n)
  · exact .of_pure (.attributeError _)
  · exact .of_pure (.attributeError _)
  · exact .of_pure (.attributeError _)
  · -- of all objects only classes have a complaint of their own
    refine Keeps.of_cells.bind_any fun cells => ?_
    split
    · exact .of_pure (missingOfClass_worded _ n)
    · exact (keeps_typeName _).bind_any fun _ => .of_pure (.attributeError _)
  · exact (keeps_typeName v).bind_any fun _ => .of_pure (.attributeError _)

/-- Some attributes of an object that a caller made cannot be read; the others are no code. -/
theorem keeps_objectAttribute? (loc : Loc) (n : String) :
    (objectAttribute? loc n).Keeps fun _ => True := by
  unfold objectAttribute?
  refine Keeps.of_cells.bind_any fun cells => ?_
  split
  · split
    · exact .of_raise (.of _ (by decide))
    · exact .of_pure trivial
  all_goals exact .of_pure trivial

theorem dataAttribute?_inert {v x : Value} {n : String} (hv : v.Inert)
    (h : dataAttribute? v n = some x) : x.Inert := by
  unfold dataAttribute? at h
  split at h <;> cases h <;> first
    | assumption
    | constructor
    | (cases hv; assumption)
    | cases hv

theorem heldAttributes_of_inert {v : Value} (hv : v.Inert) (w : World) :
    heldAttributes w v = [] := by
  cases hv <;> rfl

/-- Reading an attribute leaves the editor alone, and leads from no literal to an
iterator. -/
theorem keeps_attribute? (v : Value) (n : String) :
    (attribute? v n).Keeps fun x? : Option Value => v.Inert → ∀ x ∈ x?, x.Inert := by
  unfold attribute?
  refine Keeps.of_world.bind_any fun w => ?_
  split
  next x hx =>
    refine .of_pure fun hv => ?_
    rw [heldAttributes_of_inert hv] at hx
    cases hx
  next =>
    extract_lets members rest
    -- every kind of value goes on like this with what is particular to it
    have hrest : ∀ x? : Option Value, (v.Inert → ∀ x ∈ x?, x.Inert) →
        (rest x?).Keeps fun x? => v.Inert → ∀ x ∈ x?, x.Inert := by
      intro x? hx?
      simp only [rest]
      -- the members of the type come next: data, or methods that take the value along;
      -- only the buffer has names beside them
      split
      · exact .of_pure hx?
      · split
        · split
          · refine (keeps_commonAttribute? v n).bind fun x? hx => ?_
            split
            · exact .of_pure fun _ => hx
            · exact .of_raise (.notProvided _)
          · exact .of_pure fun hv x hx => by cases hx; exact .method n hv
        · split
          · split
            · exact .of_pure nofun
            · split
              · exact .of_raise (.notProvided _)
              · exact .of_pure nofun
          · exact .of_pure nofun
    have hgo : ∀ x? : Option Value, (v.Inert → ∀ x ∈ x?, x.Inert) →
        (Run.pure x? >>= rest).Keeps fun x? => v.Inert → ∀ x ∈ x?, x.Inert :=
      fun x? hx? => hrest x? hx?
    -- only data of a literal are reached from one: the other kinds are no literals
    split
    · exact hgo _ nofun
    · exact (keeps_functionAttribute? _ n).bind_any fun _ => hrest _ nofun
    · split
      · exact (keeps_newList _).bind_any fun _ => hgo _ nofun
      · exact hgo _ nofun
    · split
      · split
        · exact (Keeps.of_raise (P := fun _ => True) (.notProvided _)).bind_any fun _ =>
            hrest _ nofun
        · exact hgo _ nofun
      · exact hgo _ nofun
    · exact hgo _ nofun
    · exact (keeps_objectAttribute? _ n).bind_any fun _ => hrest _ nofun
    · split
      · exact hgo _ nofun
      · exact (keeps_functionAttribute? _ n).bind_any fun _ => hrest _ nofun
    · exact hgo _ fun hv x hx => dataAttribute?_inert hv hx

theorem keeps_plainAttribute (v : Value) (n : String) :
    (plainAttribute v n).Keeps fun x => v.Inert → x.Inert := by
  unfold plainAttribute
  refine (keeps_attribute? v n).bind fun x? hx => ?_
  split
  · exact .of_pure fun hv => hx hv _ rfl
  · exact (keeps_missingAttribute v n).bind fun _ => .of_raise

end Run

open Run

/-- In a plain store no class is asked, so that no code runs. -/
theorem keeps_getAttribute (r : Rules) (v : Value) (n : String) :
    (r.getAttribute v n).Keeps fun x => v.Inert → x.Inert := by
  unfold Rules.getAttribute
  split
  next loc =>
    refine Keeps.of_cells.bind fun cells hcells => ?_
    split
    next kind held hloc => exact absurd hloc (hcells loc kind held)
    next => exact keeps_plainAttribute _ n
  next => exact keeps_plainAttribute v n

/-! ## Expressions -/

/-- Attributes of a literal. -/
inductive Expr.OfLiteral : Expr → Prop where
  | constant (c : Constant) : OfLiteral (.constant c)
  | member {e : Expr} (n : String) (h : OfLiteral e) : OfLiteral (.attribute e n)

/-- Expressions that only look things up. -/
inductive Expr.Lookup : Expr → Prop where
  | constant (c : Constant) : Lookup (.constant c)
  | name (n : String) : Lookup (.name n)
  | member {e : Expr} (n : String) (h : Lookup e) : Lookup (.attribute e n)
  | not {e : Expr} (h : Lookup e) : Lookup (.unary .not e)
  | and {es : List Expr} (h : ∀ e ∈ es, Lookup e) : Lookup (.and es)
  | or {es : List Expr} (h : ∀ e ∈ es, Lookup e) : Lookup (.or es)
  | compare {first : Expr} {rest : List (CompareOp × Expr)} (h : Lookup first)
      (hrest : ∀ x ∈ rest, Lookup x.2)
      (hin : ∀ x ∈ rest, x.1 = .mem ∨ x.1 = .notMem → x.2.OfLiteral) :
      Lookup (.compare first rest)
  | conditional {test yes no : Expr} (ht : Lookup test) (hy : Lookup yes) (hn : Lookup no) :
      Lookup (.conditional test yes no)
  | await (e : Expr) : Lookup (.await e)

theorem Expr.OfLiteral.lookup {e : Expr} (h : e.OfLiteral) : e.Lookup := by
  induction h with
  | constant c => exact .constant c
  | member n _ ih => exact .member n ih

theorem Constant.value_inert {c : Constant} {v : Value} (h : c.value = .ok v) : v.Inert := by
  cases c <;> cases h <;> constructor

theorem Constant.value_worded {c : Constant} {e : Raised} (h : c.value = .error e) : e.Worded := by
  cases c <;> cases h
  exact .notProvided _

/-- No code runs for the items of a value that leads to no iterator. -/
theorem keeps_itemsOr (r : Rules) {fault : String → Raised} (hfault : ∀ type, (fault type).Worded)
    {v : Value} (h : v.Inert) : (r.itemsOr fault v).Keeps fun _ => True := by
  refine Keeps.of_world.bind_any fun w => ?_
  cases h
  case str | bytes | dict => exact .of_pure trivial
  -- the other ones cannot be iterated over
  all_goals
    exact Keeps.bind (P := fun _ => False)
      (Keeps.of_world.bind_any fun w => Keeps.of_raise (hfault (complaintTypeName w.cells _)))
      fun _ => False.elim

theorem keeps_key (v : Value) : (key v).Keeps fun _ => True := by
  refine Keeps.of_cells.bind_any fun cells => ?_
  split
  · exact .of_raise (.typeError _)
  · exact .of_pure trivial

/-- No code runs while a value that leads to no iterator is searched. -/
theorem keeps_contains (r : Rules) {collection : Value} (h : collection.Inert) (v : Value) :
    (r.contains collection v).Keeps fun _ => True := by
  unfold Rules.contains
  refine Keeps.of_world.bind_any fun w => ?_
  split
  · split
    · exact .of_pure trivial
    · exact (keeps_typeName _).bind_any fun _ => .of_raise (.typeError _)
  · split
    · split
      · exact .of_raise (.valueError _)
      · exact .of_pure trivial
    · exact .of_pure trivial
    · exact (keeps_typeName _).bind_any fun _ => .of_raise (.typeError _)
  · exact (keeps_key v).bind_any fun _ => .of_pure trivial
  · cases h
  · cases h
  · cases h
  -- proxies, views, the namespace and ranges are no literals
  · cases h
  · exact (keeps_itemsOr r (fun _ => .typeError _) h).bind_any fun _ => .of_pure trivial

theorem keeps_order (op : OrderOp) (a b : Value) : (Rules.order op a b).Keeps fun _ => True := by
  refine Keeps.of_cells.bind_any fun cells => ?_
  split
  · exact .of_pure trivial
  · exact .of_raise (.typeError _)

theorem keeps_compare (r : Rules) (op : CompareOp) (a : Value) {b : Value}
    (h : op = .mem ∨ op = .notMem → b.Inert) : (r.compare op a b).Keeps fun _ => True := by
  refine Keeps.of_cells.bind_any fun cells => ?_
  cases op
  case eq | ne | is | isNot => exact .of_pure trivial
  case lt | le | gt | ge => exact (keeps_order _ a b).bind_any fun _ => .of_pure trivial
  case mem => exact (keeps_contains r (h (.inl rfl)) a).bind_any fun _ => .of_pure trivial
  case notMem => exact (keeps_contains r (h (.inr rfl)) a).bind_any fun _ => .of_pure trivial

theorem keeps_globalValue (n : String) : (globalValue n).Keeps fun _ => True := by
  refine Keeps.of_world.bind_any fun w => ?_
  split
  · exact .of_pure trivial
  · exact .of_raise (.unbound n)

/-- What is inside a lookup is left to rules that keep lookups. -/
structure Rules.KeepLookups (r : Rules) : Prop where
  lookup : ∀ e : Expr, e.Lookup → (r.expression {} e).Keeps fun _ => True
  literal : ∀ e : Expr, e.OfLiteral → (r.expression {} e).Keeps Value.Inert

section Evaluation

variable {r : Rules} (hr : r.KeepLookups)
include hr

theorem keeps_connective (decisive : Bool) {es : List Expr} (h : ∀ e ∈ es, e.Lookup) :
    (r.connective {} decisive es).Keeps fun _ => True := by
  induction es with
  | nil => exact .of_pure trivial
  | cons e rest ih =>
    have he := hr.lookup e (h e List.mem_cons_self)
    -- the last operand is the value; any other one may end the evaluation
    cases rest with
    | nil => exact he
    | cons e' rest =>
      refine he.bind_any fun v => Keeps.of_world.bind_any fun w => ?_
      split
      · exact .of_pure trivial
      · exact ih fun e he => h e (List.mem_cons_of_mem _ he)

theorem keeps_comparisons {rest : List (CompareOp × Expr)} (left : Value)
    (h : ∀ x ∈ rest, x.2.Lookup)
    (hin : ∀ x ∈ rest, x.1 = .mem ∨ x.1 = .notMem → x.2.OfLiteral) :
    (r.comparisons {} left rest).Keeps fun _ => True := by
  induction rest generalizing left with
  | nil => exact .of_pure trivial
  | cons x rest ih =>
    obtain ⟨op, e⟩ := x
    -- what is searched is an attribute of a literal; of other operands nothing is needed
    have hright : (r.expression {} e).Keeps fun v => op = .mem ∨ op = .notMem → v.Inert := by
      by_cases hop : op = .mem ∨ op = .notMem
      · exact (hr.literal e (hin _ List.mem_cons_self hop)).mono fun v hv _ => hv
      · exact (hr.lookup e (h _ List.mem_cons_self)).mono fun v _ hop' => absurd hop' hop
    cases rest with
    | nil => exact hright.bind fun v hv => keeps_compare r op left hv
    | cons y rest =>
      refine hright.bind fun v hv => (keeps_compare r op left hv).bind_any fun verdict =>
        Keeps.of_world.bind_any fun w => ?_
      split
      · exact ih v (fun x hx => h x (List.mem_cons_of_mem _ hx))
          (fun x hx => hin x (List.mem_cons_of_mem _ hx))
      · exact .of_pure trivial

theorem keeps_evaluate {e : Expr} (h : e.Lookup) : (r.evaluate {} e).Keeps fun _ => True := by
  cases h with
  | constant c => exact .of_ofExcept (fun _ _ => trivial) fun _ => Constant.value_worded
  | name n => exact keeps_globalValue n
  | member n h =>
    exact (hr.lookup _ h).bind_any fun v => (keeps_getAttribute r v n).mono fun _ _ => trivial
  | not h =>
    exact (hr.lookup _ h).bind_any fun v => Keeps.of_world.bind_any fun w => .of_pure trivial
  | and h => exact keeps_connective hr false h
  | or h => exact keeps_connective hr true h
  | compare h hrest hin => exact (hr.lookup _ h).bind_any fun v => keeps_comparisons hr v hrest hin
  | conditional ht hy hn =>
    refine (hr.lookup _ ht).bind_any fun v => Keeps.of_world.bind_any fun w => ?_
    split
    · exact hr.lookup _ hy
    · exact hr.lookup _ hn
  | await e => exact .of_raise (.notProvided _)

theorem keeps_evaluate_literal {e : Expr} (h : e.OfLiteral) :
    (r.evaluate {} e).Keeps Value.Inert := by
  cases h with
  | constant c => exact .of_ofExcept (fun _ => Constant.value_inert) fun _ => Constant.value_worded
  | member n h =>
    exact (hr.literal _ h).bind fun v hv => (keeps_getAttribute r v n).mono fun x hx => hx hv

end Evaluation

/-- The induction is on the depth to which the rules can follow nested code. -/
theorem keepLookups_rules (n : Nat) : (rules n).KeepLookups := by
  induction n with
  -- without fuel nothing runs
  | zero => exact ⟨fun _ _ => .of_spend, fun _ _ => .of_spend⟩
  | succ n ih => exact ⟨fun _ h => keeps_evaluate ih h, fun _ h => keeps_evaluate_literal ih h⟩

/-- A lookup at the top level leaves the buffer and the log alone, and raises faults only. -/
theorem keeps_lookup {e : Expr} (h : e.Lookup) :
    (Code.run (.expression e)).Keeps fun _ => True := by
  have hstart : (update fun w => { w with names := w.names.withBuiltins, depth := 0 }).Keeps
      fun _ => True := .of_update (fun _ => ⟨rfl, rfl⟩) fun _ => rfl
  exact hstart.bind_any fun _ => (keepLookups_rules maxNesting).lookup e h

end Scratchpad
