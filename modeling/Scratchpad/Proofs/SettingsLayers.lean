import Mathlib.Data.List.TakeWhile
import Scratchpad.Command.Execution

/-!
# The layers of the settings

Each number of the settings has three layers: a default, a variable of the environment, and
an option of the command. An option hides the variable, and the variable hides the default;
`Environment.Layers` says so for both numbers at once.

What a command goes on with is what the layers ask for. But each variable is read and
checked before it is known whether an option hides it, so that an unacceptable text refuses
a command in which nothing depends on it.

* `Settings.override_ok_iff`, `Environment.settings_ok_iff` — one layer over another;
* `settingsFor_ok_iff` — all three layers;
* `settingsFor_congr_edge`, `settingsFor_congr_indent` — two environments that differ in a
  hidden variable;
* `settings_follow_layers_iff` — just when a command follows the layers.
-/

namespace Scratchpad

open Command

/-! ## The rule -/

namespace Environment

/-- A variable is unset, or there is nothing but blanks in it. -/
def Blank (env : Environment) (name : String) : Prop :=
  ∀ t, env.lookup name = some t → ∀ c ∈ t, isBlank c = true

/-- A variable is blank, or an integer that is not negative. -/
def Acceptable (env : Environment) (name : String) : Prop :=
  env.Blank name ∨ ∃ n : Nat, env.integer? name = .ok (some (n : Int))

/-- Which number a field gets: that of its option; without one that of its variable, if the
variable is not blank; and else the default. -/
inductive Sets (env : Environment) (name : String) (default : Nat) (option? : Option Int)
    (n : Nat) : Prop
  | option (given : option? = some (n : Int))
  | variable (free : option? = none) (read : env.integer? name = .ok (some (n : Int)))
  | default (free : option? = none) (blank : env.Blank name) (same : n = default)

/-- The settings that the options, the variables and the defaults ask for. -/
structure Layers (env : Environment) (edge? indent? : Option Int) (s : Settings) : Prop where
  edge : env.Sets edgeVariable 100 edge? s.edge
  indent : env.Sets indentVariable 4 indent? s.indent
  title : s.title = "Python REPL".toList

/-- Two environments that differ in one variable at most. -/
def AgreeBut (name : String) (env env' : Environment) : Prop :=
  ∀ other, other ≠ name → env.lookup other = env'.lookup other

end Environment

/-! ## Reading a variable -/

theorem stripBlanks_eq_nil_iff {t : Text} :
    stripBlanks t = [] ↔ ∀ c ∈ t, isBlank c = true := by
  simp only [stripBlanks, List.reverse_eq_nil_iff, List.dropWhile_eq_nil_iff, List.mem_reverse]
  constructor
  · intro hrest c hc
    rw [← List.takeWhile_append_dropWhile (p := isBlank) (l := t)] at hc
    rcases List.mem_append.mp hc with hfirst | hlast
    · exact List.mem_takeWhile_imp hfirst
    · exact hrest c hlast
  · intro hall c hc
    exact hall c ((List.dropWhile_suffix isBlank).mem hc)

namespace Environment

variable {env env' : Environment} {name : String}

/-- Blank variables count as unset. -/
theorem integer?_eq_none_iff : env.integer? name = .ok none ↔ env.Blank name := by
  have hblank : stripBlanks ((env.lookup name).getD []) = [] ↔ env.Blank name := by
    rw [stripBlanks_eq_nil_iff, Blank]
    cases env.lookup name <;> simp
  rw [← hblank, ← List.isEmpty_iff]
  unfold integer?
  dsimp only
  split
  · simp_all
  · split <;> simp_all

/-- The acceptable variables are those that give no number or one that is not negative. -/
theorem acceptable_iff :
    env.Acceptable name ↔ ∃ n? : Option Nat, env.integer? name = .ok (n?.map Nat.cast) := by
  constructor
  · rintro (hblank | ⟨n, hn⟩)
    · exact ⟨none, integer?_eq_none_iff.mpr hblank⟩
    · exact ⟨some n, hn⟩
  · rintro ⟨n?, hn⟩
    cases n? with
    | none => exact .inl (integer?_eq_none_iff.mp hn)
    | some n => exact .inr ⟨n, hn⟩

/-- A field of an acceptable variable gets what its option says, what the variable says, or
the default, whichever comes first. -/
theorem sets_iff {default : Nat} {option? : Option Int} {value? : Option Nat} {n : Nat}
    (hread : env.integer? name = .ok (value?.map Nat.cast)) :
    env.Sets name default option? n ↔
      ∃ given? : Option Nat, option? = given?.map Nat.cast ∧
        n = given?.getD (value?.getD default) := by
  constructor
  -- the option, else the variable, else the default
  · rintro (hgiven | ⟨hfree, hvariable⟩ | ⟨hfree, hblank, rfl⟩)
    · exact ⟨some n, hgiven, rfl⟩
    · refine ⟨none, hfree, ?_⟩
      rw [hread] at hvariable
      cases value? with
      | none => cases hvariable
      | some m =>
        have hcast : (m : Int) = n := by simpa using hvariable
        show n = m
        omega
    · refine ⟨none, hfree, ?_⟩
      rw [← integer?_eq_none_iff, hread] at hblank
      cases value? <;> simp_all
  · rintro ⟨given?, hgiven, rfl⟩
    cases given? with
    | some n => exact .option hgiven
    | none =>
      cases value? with
      | some n => exact .variable hgiven hread
      | none => exact .default hgiven (integer?_eq_none_iff.mp hread) rfl

/-- Without an option only an acceptable variable sets anything. -/
theorem Sets.acceptable {default n : Nat} (h : env.Sets name default none n) :
    env.Acceptable name := by
  rcases h with hgiven | ⟨-, hread⟩ | ⟨-, hblank, -⟩
  · cases hgiven
  · exact .inr ⟨n, hread⟩
  · exact .inl hblank

theorem AgreeBut.integer? (h : AgreeBut name env env') (other : String) (hother : other ≠ name) :
    env.integer? other = env'.integer? other := by
  unfold Environment.integer?
  rw [h other hother]

end Environment

/-! ## One layer over another -/

theorem except_bind_eq_ok_iff {ε α β : Type} {x : Except ε α} {f : α → Except ε β} {b : β} :
    x >>= f = .ok b ↔ ∃ a, x = .ok a ∧ f a = .ok b := by
  cases x with
  | error e => simp [bind, Except.bind]
  | ok a => simp [bind, Except.bind]

/-- A number is taken just if it is not negative. -/
theorem unless_negative_ok_iff {ε α : Type} {e : ε} {f : Nat → α} {n : Int} {a : α} :
    (if n < 0 then Except.error e else .ok (f n.toNat)) = .ok a ↔
      ∃ m : Nat, n = m ∧ f m = a := by
  split
  next hneg =>
    constructor
    · intro h
      cases h
    · rintro ⟨m, rfl, -⟩
      omega
  next hnat =>
    obtain ⟨m, rfl⟩ := Int.eq_ofNat_of_zero_le (Int.not_lt.mp hnat)
    constructor
    · intro h
      exact ⟨m, rfl, Except.ok.inj h⟩
    · rintro ⟨m', hm, rfl⟩
      rw [Int.ofNat.inj hm]
      rfl

namespace Settings

variable {s s' : Settings} {edge? indent? : Option Int}

theorem withEdge_ok_iff {n : Int} :
    s.withEdge n = .ok s' ↔ ∃ m : Nat, n = m ∧ { s with edge := m } = s' :=
  unless_negative_ok_iff (f := fun m => ({ s with edge := m } : Settings))

theorem withIndent_ok_iff {n : Int} :
    s.withIndent n = .ok s' ↔ ∃ m : Nat, n = m ∧ { s with indent := m } = s' :=
  unless_negative_ok_iff (f := fun m => ({ s with indent := m } : Settings))

/-- Numbers that are not negative take the place of the old ones; any other refuses. -/
theorem override_ok_iff :
    s.override edge? indent? = .ok s' ↔ ∃ a b : Option Nat,
      edge? = a.map Nat.cast ∧ indent? = b.map Nat.cast ∧
      s' = { s with edge := a.getD s.edge, indent := b.getD s.indent } := by
  constructor
  · intro h
    unfold override at h
    -- the edge is set first, and the indent in the settings that come of it
    obtain ⟨a, u, rfl, hu, hrest⟩ : ∃ (a : Option Nat) (u : Settings),
        edge? = a.map Nat.cast ∧ u = { s with edge := a.getD s.edge } ∧
          u.override none indent? = .ok s' := by
      cases edge? with
      | none => exact ⟨none, s, rfl, rfl, h⟩
      | some n =>
        obtain ⟨u, hn, hrest⟩ := except_bind_eq_ok_iff.mp h
        obtain ⟨m, rfl, hm⟩ := withEdge_ok_iff.mp hn
        exact ⟨some m, u, rfl, hm.symm, hrest⟩
    cases indent? with
    | none =>
      cases hrest
      exact ⟨a, none, rfl, rfl, hu⟩
    | some n =>
      obtain ⟨m, rfl, hm⟩ := withIndent_ok_iff.mp hrest
      exact ⟨a, some m, rfl, rfl, by rw [← hm, hu]; rfl⟩
  · rintro ⟨a, b, rfl, rfl, rfl⟩
    cases a <;> cases b <;> rfl

/-- Of two edge columns the last one counts. -/
theorem override_edge_twice (s : Settings) (a : Nat) (n : Int) (value? indent? : Option Int) :
    (({ s with edge := a } : Settings).override none value? >>=
        (·.override (some n) indent?)) =
      (s.override none value? >>= (·.override (some n) indent?)) := by
  cases value? with
  | none => rfl
  | some m =>
    by_cases hm : m < 0 <;> simp only [override, withIndent, hm] <;> rfl

/-- Of two indents the last one counts. -/
theorem override_indent_twice (s : Settings) (edge? : Option Int) (b : Nat) (n : Int) :
    ({ s with indent := b } : Settings).override edge? (some n) =
      s.override edge? (some n) := by
  cases edge? with
  | none => rfl
  | some m =>
    by_cases hm : m < 0 <;> simp only [override, withEdge, hm] <;> rfl

end Settings

namespace Environment

variable {env env' : Environment} {s : Settings}

/-- The environment sets what its variables say, and refuses if one is not acceptable. -/
theorem settings_ok_iff :
    env.settings = .ok s ↔ ∃ a b : Option Nat,
      env.integer? edgeVariable = .ok (a.map Nat.cast) ∧
      env.integer? indentVariable = .ok (b.map Nat.cast) ∧
      s = { edge := a.getD 100, indent := b.getD 4 } := by
  unfold settings
  constructor
  · intro h
    obtain ⟨e?, hedge, h⟩ := except_bind_eq_ok_iff.mp h
    obtain ⟨u, hu, h⟩ := except_bind_eq_ok_iff.mp h
    obtain ⟨i?, hindent, h⟩ := except_bind_eq_ok_iff.mp h
    -- each variable overrides one field, with the other one left out
    obtain ⟨a, b, rfl, hb, rfl⟩ := Settings.override_ok_iff.mp hu
    obtain ⟨c, d, hc, rfl, rfl⟩ := Settings.override_ok_iff.mp h
    cases b with
    | some m => cases hb
    | none =>
      cases c with
      | some m => cases hc
      | none => exact ⟨a, d, hedge, hindent, rfl⟩
  · rintro ⟨a, b, hedge, hindent, rfl⟩
    rw [hedge, hindent]
    cases a <;> cases b <;> rfl

/-- An acceptable edge column is taken before the indent is read. -/
theorem settings_of_edge {a : Option Nat}
    (h : env.integer? edgeVariable = .ok (a.map Nat.cast)) :
    env.settings = env.integer? indentVariable >>=
      fun indent? => ({ edge := a.getD 100 } : Settings).override none indent? := by
  unfold settings
  rw [h]
  cases a <;> rfl

/-- An acceptable indent is put over whatever edge column there is. -/
theorem settings_of_indent {b : Option Nat}
    (h : env.integer? indentVariable = .ok (b.map Nat.cast)) :
    env.settings = env.integer? edgeVariable >>=
      fun edge? => ({} : Settings).override edge? none >>=
        fun s => .ok { s with indent := b.getD s.indent } := by
  unfold settings
  rw [h]
  cases b <;> rfl

end Environment

/-! ## All layers -/

section AllLayers

variable {env env' : Environment} {edge? indent? : Option Int} {s : Settings}

/-- A command goes on with the last number given for each field, if none of the numbers is
refused. -/
theorem settingsFor_ok_iff :
    settingsFor env edge? indent? = .ok s ↔ ∃ a b c d : Option Nat,
      env.integer? edgeVariable = .ok (a.map Nat.cast) ∧
      env.integer? indentVariable = .ok (b.map Nat.cast) ∧
      edge? = c.map Nat.cast ∧ indent? = d.map Nat.cast ∧
      s = { edge := c.getD (a.getD 100), indent := d.getD (b.getD 4) } := by
  have hmap : settingsFor env edge? indent? = .ok s ↔
      env.settings >>= (·.override edge? indent?) = .ok s := by
    unfold settingsFor
    cases env.settings >>= (·.override edge? indent?) <;> simp [Except.mapError]
  rw [hmap, except_bind_eq_ok_iff]
  constructor
  · rintro ⟨u, hu, hs⟩
    obtain ⟨a, b, hedge, hindent, rfl⟩ := Environment.settings_ok_iff.mp hu
    obtain ⟨c, d, hc, hd, rfl⟩ := Settings.override_ok_iff.mp hs
    exact ⟨a, b, c, d, hedge, hindent, hc, hd, rfl⟩
  · rintro ⟨a, b, c, d, hedge, hindent, hc, hd, rfl⟩
    exact ⟨_, Environment.settings_ok_iff.mpr ⟨a, b, hedge, hindent, rfl⟩,
      Settings.override_ok_iff.mpr ⟨c, d, hc, hd, rfl⟩⟩

/-- Settings are refused in one way only. -/
theorem settingsFor_error_iff :
    (∃ e, settingsFor env edge? indent? = .error (.badSettings e)) ↔
      ∀ s, settingsFor env edge? indent? ≠ .ok s := by
  unfold settingsFor
  cases env.settings >>= (·.override edge? indent?) <;> simp [Except.mapError]

/-- A command follows the layers if both variables are acceptable. -/
theorem settingsFor_ok_iff_layers :
    settingsFor env edge? indent? = .ok s ↔
      env.Layers edge? indent? s ∧ env.Acceptable edgeVariable ∧
        env.Acceptable indentVariable := by
  rw [settingsFor_ok_iff, Environment.acceptable_iff, Environment.acceptable_iff]
  constructor
  · rintro ⟨a, b, c, d, hedge, hindent, hc, hd, rfl⟩
    exact ⟨⟨(Environment.sets_iff hedge).mpr ⟨c, hc, rfl⟩,
      (Environment.sets_iff hindent).mpr ⟨d, hd, rfl⟩, rfl⟩, ⟨a, hedge⟩, b, hindent⟩
  · rintro ⟨⟨hsetsEdge, hsetsIndent, htitle⟩, ⟨a, hedge⟩, b, hindent⟩
    obtain ⟨c, hc, hcs⟩ := (Environment.sets_iff hedge).mp hsetsEdge
    obtain ⟨d, hd, hds⟩ := (Environment.sets_iff hindent).mp hsetsIndent
    refine ⟨a, b, c, d, hedge, hindent, hc, hd, ?_⟩
    obtain ⟨edge, indent, title⟩ := s
    simp only at hcs hds htitle
    rw [hcs, hds, htitle]

/-- Two environments that differ in the edge column only, with acceptable texts, come to the
same if an option hides it. -/
theorem settingsFor_congr_edge (h : Environment.AgreeBut edgeVariable env env')
    (hhidden : edge?.isSome = true) (hfirst : env.Acceptable edgeVariable)
    (hsecond : env'.Acceptable edgeVariable) :
    settingsFor env edge? indent? = settingsFor env' edge? indent? := by
  obtain ⟨n, rfl⟩ := Option.isSome_iff_exists.mp hhidden
  obtain ⟨a, ha⟩ := Environment.acceptable_iff.mp hfirst
  obtain ⟨a', ha'⟩ := Environment.acceptable_iff.mp hsecond
  have hindent := h.integer? indentVariable (by decide)
  unfold settingsFor
  rw [Environment.settings_of_edge ha, Environment.settings_of_edge ha', hindent]
  cases env'.integer? indentVariable with
  | error e => rfl
  | ok value? =>
    have hany := fun a => Settings.override_edge_twice {} a n value? indent?
    exact congrArg (Except.mapError UsageError.badSettings) ((hany _).trans (hany _).symm)

/-- Two environments that differ in the indent only, with acceptable texts, come to the same
if an option hides it. -/
theorem settingsFor_congr_indent (h : Environment.AgreeBut indentVariable env env')
    (hhidden : indent?.isSome = true) (hfirst : env.Acceptable indentVariable)
    (hsecond : env'.Acceptable indentVariable) :
    settingsFor env edge? indent? = settingsFor env' edge? indent? := by
  obtain ⟨n, rfl⟩ := Option.isSome_iff_exists.mp hhidden
  obtain ⟨b, hb⟩ := Environment.acceptable_iff.mp hfirst
  obtain ⟨b', hb'⟩ := Environment.acceptable_iff.mp hsecond
  have hedge := h.integer? edgeVariable (by decide)
  unfold settingsFor
  rw [Environment.settings_of_indent hb, Environment.settings_of_indent hb', hedge]
  cases env'.integer? edgeVariable with
  | error e => rfl
  | ok value? =>
    cases hu : ({} : Settings).override value? none with
    | error e => simp only [hu, bind, Except.bind]
    | ok u =>
      have hany := fun b => Settings.override_indent_twice u edge? b n
      simp only [hu, bind, Except.bind, hany]

theorem exists_natural_iff {n? : Option Int} :
    (∃ m? : Option Nat, n? = m?.map Nat.cast) ↔ ∀ n < 0, n? ≠ some n := by
  constructor
  · rintro ⟨m?, rfl⟩ n hneg hn
    cases m? with
    | none => cases hn
    | some m =>
      cases hn
      omega
  · intro h
    cases n? with
    | none => exact ⟨none, rfl⟩
    | some n =>
      rcases Int.lt_or_le n 0 with hneg | hnat
      · exact absurd rfl (h n hneg)
      · obtain ⟨m, rfl⟩ := Int.eq_ofNat_of_zero_le hnat
        exact ⟨some m, rfl⟩

/-- There are settings for a command just if all four numbers are acceptable. -/
theorem exists_settingsFor_iff :
    (∃ s, settingsFor env edge? indent? = .ok s) ↔
      env.Acceptable edgeVariable ∧ env.Acceptable indentVariable ∧
        (∀ n < 0, edge? ≠ some n) ∧ ∀ n < 0, indent? ≠ some n := by
  simp only [settingsFor_ok_iff, Environment.acceptable_iff, ← exists_natural_iff]
  constructor
  · rintro ⟨s, a, b, c, d, ha, hb, hc, hd, -⟩
    exact ⟨⟨a, ha⟩, ⟨b, hb⟩, ⟨c, hc⟩, d, hd⟩
  · rintro ⟨⟨a, ha⟩, ⟨b, hb⟩, ⟨c, hc⟩, d, hd⟩
    exact ⟨_, a, b, c, d, ha, hb, hc, hd, rfl⟩

/-- What the layers ask for comes from acceptable variables, apart from hidden ones. -/
theorem Environment.Layers.acceptable (h : env.Layers edge? indent? s)
    (hedge : edge?.isSome = true → env.Acceptable edgeVariable)
    (hindent : indent?.isSome = true → env.Acceptable indentVariable) :
    env.Acceptable edgeVariable ∧ env.Acceptable indentVariable := by
  obtain ⟨hsetsEdge, hsetsIndent, -⟩ := h
  constructor
  · cases edge? with
    | none => exact hsetsEdge.acceptable
    | some n => exact hedge rfl
  · cases indent? with
    | none => exact hsetsIndent.acceptable
    | some n => exact hindent rfl

/-- A command goes on with the settings of the layers if both variables are acceptable, and
is refused just if a variable or an option is not. So it follows the layers just if no
hidden variable is unacceptable, or the layers themselves have nothing to go on with; and
between two acceptable texts a hidden variable makes no difference. -/
theorem settings_follow_layers_iff (env : Environment) (edge? indent? : Option Int) :
    (∀ s, settingsFor env edge? indent? = .ok s ↔
      env.Layers edge? indent? s ∧ env.Acceptable edgeVariable ∧
        env.Acceptable indentVariable) ∧
    ((∃ e, settingsFor env edge? indent? = .error (.badSettings e)) ↔
      ¬ env.Acceptable edgeVariable ∨ ¬ env.Acceptable indentVariable ∨
        (∃ n < 0, edge? = some n) ∨ ∃ n < 0, indent? = some n) ∧
    ((∀ s, settingsFor env edge? indent? = .ok s ↔ env.Layers edge? indent? s) ↔
      ((∃ s, env.Layers edge? indent? s) →
        (edge?.isSome = true → env.Acceptable edgeVariable) ∧
        (indent?.isSome = true → env.Acceptable indentVariable))) ∧
    (∀ env', Environment.AgreeBut edgeVariable env env' → edge?.isSome = true →
      env.Acceptable edgeVariable → env'.Acceptable edgeVariable →
      settingsFor env edge? indent? = settingsFor env' edge? indent?) ∧
    (∀ env', Environment.AgreeBut indentVariable env env' → indent?.isSome = true →
      env.Acceptable indentVariable → env'.Acceptable indentVariable →
      settingsFor env edge? indent? = settingsFor env' edge? indent?) ∧
    ∀ (around : Surroundings) request log go, around.env = env →
      around.log.configure env request = .ok log →
      (∀ s, settingsFor env edge? indent? = .ok s →
        around.prepare request edge? indent? go = go log s) ∧
      ∀ e, settingsFor env edge? indent? = .error e →
        around.prepare request edge? indent? go = { finish := .refused e, log } := by
  refine ⟨fun s => settingsFor_ok_iff_layers, ?_, ?_, ?_, ?_, ?_⟩
  · rw [settingsFor_error_iff, ← not_exists, exists_settingsFor_iff]
    simp only [not_and_or, not_forall, not_not, exists_prop]
  · constructor
    · rintro hfollows ⟨s, hlayers⟩
      obtain ⟨-, hedge, hindent⟩ := settingsFor_ok_iff_layers.mp ((hfollows s).mpr hlayers)
      exact ⟨fun _ => hedge, fun _ => hindent⟩
    · intro hhidden s
      rw [settingsFor_ok_iff_layers]
      constructor
      · exact And.left
      · intro hlayers
        -- a variable behind an option is read all the same, and has to be acceptable
        obtain ⟨hedge, hindent⟩ := hhidden ⟨s, hlayers⟩
        exact ⟨hlayers, hlayers.acceptable hedge hindent⟩
  · intro env' hagree hgiven hfirst hsecond
    exact settingsFor_congr_edge hagree hgiven hfirst hsecond
  · intro env' hagree hgiven hfirst hsecond
    exact settingsFor_congr_indent hagree hgiven hfirst hsecond
  · rintro around request log go rfl hlog
    constructor
    · intro s hs
      simp only [Surroundings.prepare, hlog, hs]
    · intro e he
      simp only [Surroundings.prepare, hlog, he]

/-- An option hides the edge column of the environment, which sets the indent. -/
theorem settings_follow_layers_sample :
    let env : Environment :=
      [(edgeVariable, "60".toList), (indentVariable, " 2 ".toList)]
    env.Acceptable edgeVariable ∧ env.Acceptable indentVariable ∧
      env.Layers (some 40) none { edge := 40, indent := 2 } ∧
      settingsFor env (some 40) none = .ok { edge := 40, indent := 2 } := by
  intro env
  have hedge : env.Acceptable edgeVariable := .inr ⟨60, by decide +kernel⟩
  have hindent : env.Acceptable indentVariable := .inr ⟨2, by decide +kernel⟩
  have hlayers : env.Layers (some 40) none { edge := 40, indent := 2 } :=
    ⟨.option rfl, .variable rfl (by decide +kernel), rfl⟩
  exact ⟨hedge, hindent, hlayers,
    ((settings_follow_layers_iff env (some 40) none).1 _).mpr ⟨hlayers, hedge, hindent⟩⟩

/-- What a command is refused for. -/
def Command.Execution.refusal? (r : Execution) : Option UsageError :=
  match r.finish with
  | .refused e => some e
  | _ => none

/-- A variable that is no integer refuses a command whose option hides it, and without the
variable the command goes on. -/
theorem hidden_variable_refuses :
    let env : Environment := [(edgeVariable, "wide".toList)]
    let words := ["run", "t.py", "--plain", "--edge-column", "40"].map String.toList
    let files : Files := [("t.py".toList, [49, 10])]
    readInvocation words = .ok (.run "t.py".toList (some 40) none true none) ∧
      env.Layers (some 40) none { edge := 40 } ∧
      settingsFor [] (some 40) none = .ok { edge := 40 } ∧
      ({ env, files : Surroundings }.execute words).refusal? =
        some (.badSettings (.notAnInteger edgeVariable "wide".toList)) := by
  refine ⟨by decide +kernel, ⟨.option rfl, .default rfl ?_ rfl, rfl⟩, by decide +kernel,
    by decide +kernel⟩
  intro t ht
  cases ht

end AllLayers

end Scratchpad
