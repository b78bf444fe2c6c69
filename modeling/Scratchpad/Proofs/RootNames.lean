import Mathlib.Data.List.Basic
import Scratchpad.Proofs.Completion
import Scratchpad.Proofs.Scopes

/-!
# Names of the top level

What completion offers at the top level is what evaluation finds there. The two go
different ways: completion lists the names of the sandbox, of the host and the built-in
ones, and sorts what continues the typed part; evaluation asks the three for one name in
turn. Keys that are no names are met by neither.

* `isSome_builtinValue?_iff` — the names that are listed as built in are those with a value;
* `Namespace.mem_visibleNames` — the listed names are those that resolve;
* `run_name` — evaluating a name at the top level asks the three in turn;
* `root_candidates_resolve` — completion and evaluation agree.
-/

namespace Scratchpad

/-! ## The two views of a scope -/

theorem isSome_ite_some {α : Type} {c : Bool} {v : α} {x : Option α} :
    (if c = true then some v else x).isSome = (c || x.isSome) := by
  cases c <;> rfl

theorem isSome_builtinValue?_iff {n : String} :
    (builtinValue? n).isSome = true ↔ n ∈ builtinNames := by
  have hof : ∀ {names : List String}, (∀ m ∈ names, m ∈ builtinNames) →
      names.contains n = true → n ∈ builtinNames :=
    fun hnames h => hnames n (List.contains_iff_mem.mp h)
  simp only [builtinValue?, isSome_ite_some, Option.isSome_none, Bool.or_false]
  constructor
  · intro h
    simp only [Bool.or_eq_true, beq_iff_eq] at h
    rcases h with rfl | rfl | rfl | rfl | rfl | rfl | rfl | rfl | rfl | rfl | halias |
      (htype | hexception) | hplain
    -- the names with a value of their own
    any_goals decide
    · exact hof (by decide) halias
    · exact hof (by decide +kernel) htype
    · exact List.contains_iff_mem.mp (Bool.and_eq_true_iff.mp hexception).1
    · exact List.contains_iff_mem.mp hplain
  · intro h
    rw [List.contains_iff_mem.mpr h]
    simp only [Bool.or_true]

theorem Scope.isSome_find?_iff {s : Scope} {n : String} :
    (s.find? n).isSome = true ↔ n ∈ s.names.map (·.1) := by
  unfold Scope.find?
  rw [List.lookup_isSome_iff, List.mem_map]
  constructor
  · rintro ⟨p, hp, heq⟩
    exact ⟨p, hp, (eq_of_beq heq).symm⟩
  · rintro ⟨p, hp, rfl⟩
    exact ⟨p, hp, beq_self_eq_true _⟩

namespace Namespace

theorem isSome_lookup? {ns : Namespace} {n : String} :
    (ns.lookup? n).isSome =
      ((ns.own.find? n).isSome || (ns.host.find? n).isSome || (builtinValue? n).isSome) := by
  unfold lookup?
  cases ns.own.find? n with
  | some v => rfl
  | none => cases ns.host.find? n <;> rfl

/-- The names that are listed are those that resolve. -/
theorem mem_visibleNames {ns : Namespace} {n : String} :
    n ∈ ns.visibleNames ↔ (ns.lookup? n).isSome = true := by
  rw [isSome_lookup?, Bool.or_eq_true, Bool.or_eq_true, Scope.isSome_find?_iff,
    Scope.isSome_find?_iff, isSome_builtinValue?_iff, visibleNames, List.mem_append,
    List.mem_append]

end Namespace

/-! ## Completion and evaluation -/

/-- Evaluating a name at the top level looks it up. -/
theorem run_name {w : World} (hbuiltins : w.names.own.find? builtinsName = some .builtinsModule)
    (n : String) : (Code.run (.expression (.name n)) w).1 = w.names.resolve n := by
  have hkept : w.names.withBuiltins = w.names := by
    unfold Namespace.withBuiltins
    rw [hbuiltins]
    rfl
  obtain ⟨k, hk⟩ : ∃ k, maxNesting = k + 1 := ⟨999999, rfl⟩
  unfold Code.run
  rw [Run.update_bind, hkept, hk]
  exact congrArg Prod.fst (globalValue_eq n { w with depth := 0 })

/-- The world with other bindings under keys that are no names. -/
def World.withOthers (w : World) (own host : List (Value × Value)) : World :=
  { w with names :=
      { own := { w.names.own with others := own }, host := { w.names.host with others := host } } }

/-- Completion at the top level offers, once and in order, just the names that continue what
was typed and that evaluation finds in the sandbox, else among the host's names, else built
in. Keys that are no names do not matter. -/
theorem root_candidates_resolve {w : World} {t : Text}
    (hbuiltins : w.names.own.find? builtinsName = some .builtinsModule)
    (hpath : (Request.ofText t).path = []) :
    ∃ found notes, candidates (Request.ofText t) w = (.done found, { w with notes }) ∧
      found.Pairwise (· < ·) ∧
      (∀ n : String,
        (n ∈ found ↔ (Request.ofText t).typed <+: n.toList ∧ (w.names.lookup? n).isSome = true) ∧
        (Code.run (.expression (.name n)) w).1 = w.names.resolve n) ∧
      ∀ own host, (candidates (Request.ofText t) (w.withOthers own host)).1 = .done found := by
  obtain ⟨notes, hfound⟩ := candidates_root hpath w
  refine ⟨_, notes, hfound, pairwise_sortNames _, ?_, ?_⟩
  · intro n
    refine ⟨?_, run_name hbuiltins n⟩
    rw [mem_matching, Namespace.mem_visibleNames]
    exact and_comm
  · intro own host
    obtain ⟨notes', hfound'⟩ := candidates_root hpath (w.withOthers own host)
    rw [hfound']
    rfl

/-- A session over a host with a name, a name that is built in too and a number as a key. -/
def hostSample : World :=
  World.start {} { names := [("high", .int 7), ("hash", .int 8)], others := [(.int 1, .int 2)] }
    none #[]

theorem root_candidates_resolve_sample :
    hostSample.names.own.find? builtinsName = some .builtinsModule ∧
    (Request.ofText "x = h".toList).path = [] ∧
    ∃ found notes, candidates (Request.ofText "x = h".toList) hostSample =
        (.done found, { hostSample with notes }) ∧
      found.Pairwise (· < ·) ∧ "high" ∈ found ∧ "hash" ∈ found ∧ "help" ∈ found ∧
      "print" ∉ found ∧ (Code.run (.expression (.name "high")) hostSample).1 = .done (.int 7) := by
  have hbuiltins : hostSample.names.own.find? builtinsName = some .builtinsModule := rfl
  have hpath : (Request.ofText "x = h".toList).path = [] := by decide
  obtain ⟨found, notes, hfound, hsorted, hnames, -⟩ := root_candidates_resolve hbuiltins hpath
  refine ⟨hbuiltins, hpath, found, notes, hfound, hsorted, ?_, ?_, ?_, ?_, ?_⟩
  · exact (hnames "high").1.mpr ⟨by decide, by decide +kernel⟩
  · exact (hnames "hash").1.mpr ⟨by decide, by decide +kernel⟩
  · exact (hnames "help").1.mpr ⟨by decide, by decide +kernel⟩
  · exact fun hmem => absurd ((hnames "print").1.mp hmem).1 (by decide)
  · exact (hnames "high").2

end Scratchpad
