import Mathlib.Data.List.Perm.Basic
import Mathlib.Data.Prod.Lex
import Scratchpad.Proofs.CommitSteps
import Scratchpad.Proofs.TextOrder

/-!
# The layout of a mapping

A mapping is shown by the texts of its entries, sorted. Sorting goes by the text of the key
and then by the text of the value. This is a total order on what is shown, although
different keys can have the same text, so the result does not depend on the order in which
the mapping holds its entries, and it shows each of them once. Both layouts show the same
sequence, on one line or on lines of their own.

* `Entry.le_iff` — the order of entries is the one of pairs of texts;
* `mergeSort_eq_of_perm` — sorting forgets the order of the mapping;
* `inlineLayout_eq`, `wrappedLayout_eq` — the two layouts of a sequence;
* `mapping_text_sorted` — the text of a mapping in any order, at any width and indent.
-/

namespace Scratchpad

/-! ## The order of entries -/

/-- Entries are ordered by the texts of their keys, and under one text by those of their
values. -/
theorem Entry.le_iff {a b : Entry} : a.le b = true ↔ toLex a ≤ toLex b := by
  simp only [Entry.le, Prod.Lex.toLex_le_toLex, Bool.or_eq_true, Bool.and_eq_true, beq_iff_eq,
    Bool.not_eq_true', ← Bool.not_eq_true, textLe_iff, not_le]

theorem pairwise_mergeSort_entries (entries : List Entry) :
    (entries.mergeSort Entry.le).Pairwise fun a b => toLex a ≤ toLex b := by
  have htrans : ∀ a b c : Entry, a.le b = true → b.le c = true → a.le c = true := by
    simp only [Entry.le_iff]
    exact fun _ _ _ => le_trans
  have htotal : ∀ a b : Entry, (a.le b || b.le a) = true := by
    simp only [Bool.or_eq_true, Entry.le_iff]
    exact fun a b => le_total (toLex a) (toLex b)
  exact (List.pairwise_mergeSort htrans htotal entries).imp Entry.le_iff.mp

/-- What is sorted does not tell in which order it was given: entries that are not in a
fixed order show the same texts. -/
theorem mergeSort_eq_of_perm {entries entries' : List Entry} (h : entries'.Perm entries) :
    entries'.mergeSort Entry.le = entries.mergeSort Entry.le := by
  have hperm : (entries'.mergeSort Entry.le).Perm (entries.mergeSort Entry.le) :=
    (List.mergeSort_perm entries' _).trans (h.trans (List.mergeSort_perm entries _).symm)
  refine hperm.eq_of_pairwise (fun a b _ _ hab hba => ?_) (pairwise_mergeSort_entries entries')
    (pairwise_mergeSort_entries entries)
  exact toLex.injective (le_antisymm hab hba)

/-! ## The two layouts -/

theorem unlines_eq_intercalate (sep : Text) (items : List Text) :
    unlines sep items = sep.intercalate items := by
  induction items with
  | nil => rfl
  | cons item rest ih =>
    cases rest with
    | nil => simp [unlines]
    | cons next rest => simp [unlines, ih]

theorem inlineLayout_eq (items : List Text) :
    inlineLayout items = '{' :: (", ".toList.intercalate items ++ ['}']) := by
  rw [inlineLayout, unlines_eq_intercalate]
  rfl

/-- A pad behind each separator and in front of the first item stands in front of each
item. -/
theorem pad_intercalate (sep pad : Text) (item : Text) (rest : List Text) :
    pad ++ (sep ++ pad).intercalate (item :: rest) =
      sep.intercalate ((item :: rest).map (pad ++ ·)) := by
  induction rest generalizing item with
  | nil => simp
  | cons next rest ih =>
    rw [List.intercalate_cons_cons, List.map_cons, List.map_cons, List.intercalate_cons_cons,
      ← List.map_cons, ← ih]
    simp

theorem wrappedLayout_eq (indent : Nat) {items : List Text} (h : items ≠ []) :
    wrappedLayout indent items =
      ['{', '\n'] ++
        (",\n".toList.intercalate (items.map (List.replicate indent ' ' ++ ·)) ++
          ['\n', '}']) := by
  obtain ⟨item, rest, rfl⟩ := List.exists_cons_of_ne_nil h
  rw [← pad_intercalate, wrappedLayout, unlines_eq_intercalate]
  simp only [List.append_assoc]

/-! ## The entries of a mapping -/

/-- An entry of a mapping shows as a pair of texts. -/
def World.HasTexts (w : World) (p : Value × Value) (e : Entry) : Prop :=
  w.str p.1 = .ok e.1 ∧ w.str p.2 = .ok e.2

variable {w : World} {entries : List (Value × Value)}

/-- The entries of a mapping are read one by one. -/
theorem World.entryPairs_of_hasTexts {texts : List Entry}
    (h : List.Forall₂ w.HasTexts entries texts) : w.entryPairs entries = .ok texts := by
  unfold World.entryPairs
  induction h with
  | nil => rfl
  | @cons p e entries texts hp _ ih =>
    -- key and value have their texts, and so have the later entries
    obtain ⟨hkey, hvalue⟩ := hp
    rw [List.mapM_cons, ih]
    simp [hkey, hvalue, bind, Except.bind, pure, Except.pure]

theorem World.exists_texts
    (h : ∀ p ∈ entries, (w.str p.1).isOk = true ∧ (w.str p.2).isOk = true) :
    ∃ texts, List.Forall₂ w.HasTexts entries texts := by
  induction entries with
  | nil => exact ⟨[], .nil⟩
  | cons p entries ih =>
    obtain ⟨hkey, hvalue⟩ := h p List.mem_cons_self
    obtain ⟨key, hkey⟩ := exists_ok hkey
    obtain ⟨value, hvalue⟩ := exists_ok hvalue
    obtain ⟨texts, htexts⟩ := ih fun q hq => h q (List.mem_cons_of_mem p hq)
    exact ⟨(key, value) :: texts, .cons ⟨hkey, hvalue⟩ htexts⟩

/-- The text of a mapping is laid out from its entries in their order. -/
theorem World.mappingText_of_hasTexts {texts : List Entry}
    (h : List.Forall₂ w.HasTexts entries texts) (edge indent : Int) :
    w.mappingText edge indent entries = .ok (layoutEntries edge indent texts) := by
  rw [World.mappingText, World.entryPairs_of_hasTexts h]
  rfl

/-- A mapping whose keys and values have texts is shown, in whatever order it holds its
entries, as one sequence of entries `k = v`: one for each item, in the order of the texts of
key and value. The sequence stands on one line unless there is an edge that the line goes
beyond; then each entry stands on a line of its own behind the indent. -/
theorem mapping_text_sorted
    (hshown : ∀ p ∈ entries, (w.str p.1).isOk = true ∧ (w.str p.2).isOk = true) :
    ∃ texts sorted : List Entry, List.Forall₂ w.HasTexts entries texts ∧ sorted.Perm texts ∧
      (sorted.Pairwise fun a b => toLex a ≤ toLex b) ∧
      ∀ edge indent : Int, ∀ reordered : List (Value × Value), reordered.Perm entries →
        let items := sorted.map fun e => e.1 ++ " = ".toList ++ e.2
        let single := '{' :: (", ".toList.intercalate items ++ ['}'])
        let pad := List.replicate indent.toNat ' '
        w.mappingText edge indent reordered =
          .ok (if entries ≠ [] ∧ 0 < edge ∧ edge < single.length then
              ['{', '\n'] ++ (",\n".toList.intercalate (items.map (pad ++ ·)) ++ ['\n', '}'])
            else single) := by
  obtain ⟨texts, htexts⟩ := World.exists_texts hshown
  refine ⟨texts, texts.mergeSort Entry.le, htexts, List.mergeSort_perm texts _,
    pairwise_mergeSort_entries texts, ?_⟩
  intro edge indent reordered hperm items single pad
  -- reordered entries have the same texts in another order, and sorting forgets the order
  obtain ⟨texts', htexts', hperm'⟩ := List.perm_comp_forall₂ hperm htexts
  have hitems : entryTexts texts' = items := by
    rw [entryTexts, mergeSort_eq_of_perm hperm']
    rfl
  have hempty : items = [] ↔ entries = [] := by
    rw [← List.length_eq_zero_iff, ← List.length_eq_zero_iff, htexts.length_eq]
    simp [items]
  have hcondition : (!items.isEmpty && edge > 0 && (single.length : Int) > edge) = true ↔
      entries ≠ [] ∧ 0 < edge ∧ edge < single.length := by
    simp only [Bool.and_eq_true, Bool.not_eq_true', List.isEmpty_eq_false_iff, ne_eq, hempty,
      decide_eq_true_eq, gt_iff_lt, and_assoc]
  rw [World.mappingText_of_hasTexts htexts', layoutEntries, hitems, inlineLayout_eq]
  refine congrArg Except.ok ?_
  -- only here edge and indent matter
  by_cases hwrap : entries ≠ [] ∧ 0 < edge ∧ edge < single.length
  · rw [if_pos hwrap, ← wrappedLayout_eq _ (mt hempty.mp hwrap.1)]
    exact if_pos (hcondition.mpr hwrap)
  · rw [if_neg hwrap]
    exact if_neg (mt hcondition.mp hwrap)

/-- A world without names. -/
def emptySample : World := { names := ⟨{}, {}⟩ }

/-- A mapping with two keys of one text. -/
def collidingSample : List (Value × Value) :=
  [(.ofString "b", .int 0), (.int 1, .ofString "y"), (.ofString "1", .ofString "x")]

theorem mapping_text_sorted_sample :
    (∀ p ∈ collidingSample,
      (emptySample.str p.1).isOk = true ∧ (emptySample.str p.2).isOk = true) ∧
    emptySample.mappingText 10 2 collidingSample.reverse =
      emptySample.mappingText 10 2 collidingSample := by
  have hshown : ∀ p ∈ collidingSample,
      (emptySample.str p.1).isOk = true ∧ (emptySample.str p.2).isOk = true := by
    decide +kernel
  obtain ⟨texts, sorted, -, -, -, htext⟩ := mapping_text_sorted hshown
  exact ⟨hshown, (htext 10 2 _ (List.reverse_perm _)).trans (htext 10 2 _ (.refl _)).symm⟩

end Scratchpad
