import Mathlib.Data.List.Sort
import Scratchpad.Namespace
import Scratchpad.Proofs.TextOrder

/-!
# Names in order

Sorting a list of names leaves each name once, strictly in order. There is only one such list
of the same names, so that a sorted list can be recognised without sorting.

* `mem_sortNames` — sorting keeps the names;
* `pairwise_sortNames` — they are strictly in order;
* `sortNames_eq_of_pairwise` — the one list of these names that is.
-/

namespace Scratchpad

@[simp] theorem mem_dedup {n : String} {names : List String} :
    n ∈ sortNames.dedup names ↔ n ∈ names := by
  fun_induction sortNames.dedup names with
  | case1 b rest ih => simp [ih]
  | case2 a b rest hne ih => rw [List.mem_cons, ih, List.mem_cons (a := n) (b := a)]
  | case3 => rfl

@[simp] theorem mem_sortNames {n : String} {names : List String} :
    n ∈ sortNames names ↔ n ∈ names := by
  rw [sortNames, mem_dedup, List.mem_mergeSort]

theorem lt_of_nameLe {a b : String} (h : nameLe a b = true) (hne : a ≠ b) : a < b :=
  lt_of_textLe h fun heq => hne (String.toList_inj.mp heq)

/-- Without the repetitions, names in order are strictly in order. -/
theorem pairwise_dedup {names : List String}
    (h : names.Pairwise fun a b => nameLe a b = true) :
    (sortNames.dedup names).Pairwise (· < ·) := by
  fun_induction sortNames.dedup names with
  | case1 b rest ih => exact ih h.of_cons
  | case2 a b rest hne ih =>
    have hall := List.pairwise_cons.mp h
    have hab : a < b := lt_of_nameLe (hall.1 b List.mem_cons_self) hne
    refine List.pairwise_cons.mpr ⟨?_, ih hall.2⟩
    intro c hc
    refine lt_of_nameLe (hall.1 c (mem_dedup.mp hc)) ?_
    rintro rfl
    -- between two places of one name stands nothing else
    rcases List.mem_cons.mp (mem_dedup.mp hc) with rfl | hmem
    · exact hne rfl
    · have hba : nameLe b a = true := (List.pairwise_cons.mp hall.2).1 a hmem
      exact hne (String.toList_inj.mp (textLe_antisymm (hall.1 b List.mem_cons_self) hba))
  | case3 names hshort =>
    rcases names with _ | ⟨a, _ | ⟨b, rest⟩⟩
    · exact List.Pairwise.nil
    · exact List.pairwise_singleton _ a
    · exact absurd rfl (hshort a b rest)

theorem pairwise_sortNames (names : List String) : (sortNames names).Pairwise (· < ·) := by
  have htrans : ∀ a b c : String, nameLe a b = true → nameLe b c = true → nameLe a c = true :=
    fun _ _ _ => textLe_trans
  have htotal : ∀ a b : String, (nameLe a b || nameLe b a) = true :=
    fun a b => textLe_total a.toList b.toList
  exact pairwise_dedup (List.pairwise_mergeSort htrans htotal names)

/-- Sorting gives the one list of the names that is strictly in order. -/
theorem sortNames_eq_of_pairwise {names sorted : List String} (h : sorted.Pairwise (· < ·))
    (hmem : ∀ n, n ∈ sorted ↔ n ∈ names) : sortNames names = sorted :=
  (pairwise_sortNames names).eq_of_mem_iff h fun n => by rw [mem_sortNames, hmem]

end Scratchpad
