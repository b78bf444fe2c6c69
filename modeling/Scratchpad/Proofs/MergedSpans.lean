import Mathlib.Data.List.Chain
import Mathlib.Data.List.Pairwise
import Mathlib.Order.Bounds.Defs
import Scratchpad.Proofs.CommitSteps
import Scratchpad.Script.Split

/-!
# Merged spans

Statements of a script come in order, and one may begin on the line on which the one before
ends. Spans that share a line this way are merged, since a snippet consists of whole lines.

What a list of merged spans is to the spans of the statements is said in `Span.Merges`,
without the loop that builds it: the merged spans stand apart, each span lies in one of them,
they hold no further line, and between two lines where no statement goes on none of them goes
on either.

* `Span.merges_single`, `Span.Merges.join`, `Span.Merges.close` — what a step of the loop
  does to the open span;
* `Span.merges_mergeFrom`, `Span.merges_merge` — the whole loop;
* `Span.Merges.together_iff` — which statements come into one snippet;
* `merged_spans_hold_statements` — all of this for the statements of a script.
-/

namespace Scratchpad

namespace Span

/-- The lines of a span. -/
instance : Membership Nat Span := ⟨fun s line => s.first ≤ line ∧ line ≤ s.last⟩

instance (line : Nat) (s : Span) : Decidable (line ∈ s) := inferInstanceAs (Decidable (_ ∧ _))

/-- The lines of a span all belong to another one. -/
def Within (a b : Span) : Prop := b.first ≤ a.first ∧ a.last ≤ b.last

/-- A span ends on a line before the first one of another. -/
def Before (a b : Span) : Prop := a.last < b.first

/-- Of two spans one ends before the other begins. -/
def Apart (a b : Span) : Prop := a.Before b ∨ b.Before a

instance : Std.Symm Apart := ⟨fun _ _ => Or.symm⟩

/-- Two spans share a line. -/
def Meets (a b : Span) : Prop := ∃ line, line ∈ a ∧ line ∈ b

/-- A span ends on or before the first line of another, which has a line in it. -/
def Leads (a b : Span) : Prop := a.last ≤ b.first ∧ b.first ≤ b.last

instance : Trans Leads Leads Leads where
  trans hab hbc := ⟨(hab.1.trans hab.2).trans hbc.1, hbc.2⟩

/-- Spans with lines in them, each of which starts on or behind the last line of the one
before. -/
structure InSourceOrder (spans : List Span) : Prop where
  proper : ∀ s ∈ spans, s.first ≤ s.last
  ordered : spans.IsChain fun a b => a.last ≤ b.first

instance (spans : List Span) : Decidable (InSourceOrder spans) :=
  decidable_of_iff
    ((∀ s ∈ spans, s.first ≤ s.last) ∧ spans.IsChain fun a b => a.last ≤ b.first)
    ⟨fun ⟨hproper, hordered⟩ => ⟨hproper, hordered⟩,
      fun ⟨hproper, hordered⟩ => ⟨hproper, hordered⟩⟩

/-- What merging makes of spans. -/
structure Merges (spans merged : List Span) : Prop where
  proper : ∀ m ∈ merged, m.first ≤ m.last
  apart : merged.Pairwise Before
  holds : ∀ s ∈ spans, ∃ m ∈ merged, s.Within m
  covered : ∀ m ∈ merged, ∀ line ∈ m, ∃ s ∈ spans, line ∈ s
  /-- Behind a line that ends every span it belongs to no merged span goes on. -/
  ended : ∀ line, (∀ s ∈ spans, s.last ≤ line ∨ line < s.first) →
    ∀ m ∈ merged, m.last ≤ line ∨ line < m.first

variable {a b o s : Span} {line : Nat} {rest spans merged : List Span}

theorem mem_iff : line ∈ s ↔ s.first ≤ line ∧ line ≤ s.last := Iff.rfl

theorem Within.refl (a : Span) : a.Within a := ⟨Nat.le_refl _, Nat.le_refl _⟩

theorem Within.trans {c : Span} (h : a.Within b) (h' : b.Within c) : a.Within c :=
  ⟨h'.1.trans h.1, h.2.trans h'.2⟩

theorem Within.mem (h : a.Within b) (hline : line ∈ a) : line ∈ b :=
  ⟨h.1.trans hline.1, hline.2.trans h.2⟩

/-! ## Extending -/

@[simp] theorem extend_first (a b : Span) : (a.extend b).first = a.first := rfl

@[simp] theorem extend_last (a b : Span) : (a.extend b).last = max a.last b.last := rfl

theorem within_extend_left (a b : Span) : a.Within (a.extend b) :=
  ⟨Nat.le_refl _, Nat.le_max_left _ _⟩

theorem within_extend_right (h : a.first ≤ b.first) : b.Within (a.extend b) :=
  ⟨h, Nat.le_max_right _ _⟩

/-- Of two spans that leave no line out between them the extension has no further line. -/
theorem mem_of_mem_extend (h : b.first ≤ a.last) (hline : line ∈ a.extend b) :
    line ∈ a ∨ line ∈ b := by
  rw [mem_iff, extend_first, extend_last] at hline
  rcases Nat.lt_or_ge a.last line with hbehind | hle
  · right
    exact ⟨by omega, by omega⟩
  · left
    exact ⟨hline.1, hle⟩

/-! ## Spans in source order -/

namespace InSourceOrder

theorem tail (h : InSourceOrder (s :: rest)) : InSourceOrder rest :=
  ⟨fun t ht => h.proper t (List.mem_cons_of_mem s ht), h.ordered.tail⟩

/-- A span that starts where the open one ends may be added to it. -/
theorem extend (h : InSourceOrder (o :: s :: rest)) : InSourceOrder (o.extend s :: rest) := by
  have ho := h.proper o (by simp)
  have hs := h.proper s (by simp)
  obtain ⟨hos, hrest⟩ := List.isChain_cons_cons.mp h.ordered
  obtain ⟨hnext, hrest⟩ := List.isChain_cons.mp hrest
  constructor
  · intro t ht
    rcases List.mem_cons.mp ht with rfl | ht
    · exact ho.trans (Nat.le_max_left _ _)
    · exact h.proper t (by simp [ht])
  · refine List.isChain_cons.mpr ⟨?_, hrest⟩
    intro t ht
    have hst := hnext t ht
    -- the next span begins where neither of the two joined ones is past
    rw [extend_last]
    omega

/-- What holds of neighbours holds of any two spans, as every span has a line in it. -/
theorem pairwise (h : InSourceOrder spans) : spans.Pairwise fun a b => a.last ≤ b.first := by
  have hchain : spans.IsChain Leads :=
    h.ordered.imp_of_mem_imp fun a b _ hb hab => ⟨hab, h.proper b hb⟩
  exact hchain.pairwise.imp And.left

/-- No span starts before an earlier one, and none ends before it. -/
theorem getElem_le (h : InSourceOrder spans) {i j : Nat} (hij : i ≤ j) (hj : j < spans.length) :
    spans[i].first ≤ spans[j].first ∧ spans[i].last ≤ spans[j].last := by
  rcases Nat.eq_or_lt_of_le hij with rfl | hlt
  · exact ⟨Nat.le_refl _, Nat.le_refl _⟩
  · have hi := h.proper spans[i] (List.getElem_mem _)
    have hj' := h.proper spans[j] (List.getElem_mem _)
    have hbetween := List.pairwise_iff_getElem.mp h.pairwise i j (by omega) hj hlt
    constructor <;> omega

/-- If a span shares no line with the next one, its last line ends every span it belongs to. -/
theorem ended_at (h : InSourceOrder spans) {k : Nat} (hk : k + 1 < spans.length)
    (hgap : spans[k].last < spans[k + 1].first) :
    ∀ s ∈ spans, s.last ≤ spans[k].last ∨ spans[k].last < s.first := by
  intro s hs
  obtain ⟨n, hn, rfl⟩ := List.getElem_of_mem hs
  rcases Nat.lt_or_ge k n with hlt | hge
  · right
    exact hgap.trans_le (h.getElem_le (i := k + 1) hlt hn).1
  · left
    exact (h.getElem_le hge (by omega)).2

end InSourceOrder

/-! ## The loop -/

theorem merges_single (h : o.first ≤ o.last) : Merges [o] [o] := by
  constructor
  · simpa using h
  · exact List.pairwise_singleton _ _
  · simpa using Within.refl o
  · simp
  · simp

/-- A span that starts on the last line of the open one joins it. -/
theorem Merges.join (horder : InSourceOrder (o :: s :: rest)) (hjoins : s.first ≤ o.last)
    (h : Merges (o.extend s :: rest) merged) : Merges (o :: s :: rest) merged := by
  have ho := horder.proper o (by simp)
  have hos := (List.isChain_cons_cons.mp horder.ordered).1
  constructor
  · exact h.proper
  · exact h.apart
  · -- both lie in the span they make
    obtain ⟨m, hm, hwithin⟩ := h.holds (o.extend s) (by simp)
    intro t ht
    rcases List.mem_cons.mp ht with rfl | ht
    · exact ⟨m, hm, (within_extend_left t s).trans hwithin⟩
    · rcases List.mem_cons.mp ht with rfl | ht
      · exact ⟨m, hm, (within_extend_right (ho.trans hos)).trans hwithin⟩
      · exact h.holds t (by simp [ht])
  · intro m hm line hline
    obtain ⟨t, ht, hmem⟩ := h.covered m hm line hline
    rcases List.mem_cons.mp ht with rfl | ht
    · rcases mem_of_mem_extend hjoins hmem with hmem | hmem
      · exact ⟨o, by simp, hmem⟩
      · exact ⟨s, by simp, hmem⟩
    · exact ⟨t, by simp [ht], hmem⟩
  · -- a line that ends the one ends the other, as they share a line
    intro line hends
    apply h.ended line
    intro t ht
    rcases List.mem_cons.mp ht with rfl | ht
    · have hends_o := hends o (by simp)
      have hends_s := hends s (by simp)
      rw [extend_first, extend_last]
      omega
    · exact hends t (by simp [ht])

/-- A span that starts behind the last line of the open one closes it. -/
theorem Merges.close (horder : InSourceOrder (o :: s :: rest)) (hcloses : o.last < s.first)
    (h : Merges (s :: rest) merged) : Merges (o :: s :: rest) (o :: merged) := by
  have ho := horder.proper o (by simp)
  constructor
  · intro m hm
    rcases List.mem_cons.mp hm with rfl | hm
    · exact ho
    · exact h.proper m hm
  · refine List.pairwise_cons.mpr ⟨?_, h.apart⟩
    intro m hm
    -- the first line of a later one belongs to a statement from `s` on
    obtain ⟨t, ht, hmem⟩ := h.covered m hm m.first ⟨Nat.le_refl _, h.proper m hm⟩
    have hst : s.first ≤ t.first := by
      rcases List.mem_cons.mp ht with rfl | ht
      · exact Nat.le_refl _
      · have hs := horder.proper s (by simp)
        exact hs.trans (List.rel_of_pairwise_cons horder.tail.pairwise ht)
    calc o.last < s.first := hcloses
      _ ≤ t.first := hst
      _ ≤ m.first := hmem.1
  · intro t ht
    rcases List.mem_cons.mp ht with rfl | ht
    · exact ⟨t, by simp, Within.refl t⟩
    · obtain ⟨m, hm, hwithin⟩ := h.holds t ht
      exact ⟨m, by simp [hm], hwithin⟩
  · intro m hm line hline
    rcases List.mem_cons.mp hm with rfl | hm
    · exact ⟨m, by simp, hline⟩
    · obtain ⟨t, ht, hmem⟩ := h.covered m hm line hline
      exact ⟨t, List.mem_cons_of_mem o ht, hmem⟩
  · intro line hends m hm
    rcases List.mem_cons.mp hm with rfl | hm
    · exact hends m (by simp)
    · exact h.ended line (fun t ht => hends t (List.mem_cons_of_mem o ht)) m hm

theorem merges_mergeFrom (h : InSourceOrder (o :: rest)) :
    Merges (o :: rest) (mergeFrom o rest) := by
  fun_induction mergeFrom o rest with
  | case1 o => exact merges_single (h.proper o (by simp))
  | case2 o s rest hjoins ih => exact (ih h.extend).join h hjoins
  | case3 o s rest hapart ih => exact (ih h.tail).close h (Nat.lt_of_not_le hapart)

/-- Spans in source order are merged. -/
theorem merges_merge (h : InSourceOrder spans) : Merges spans (merge spans) := by
  cases spans with
  | nil => exact ⟨nofun, .nil, nofun, nofun, nofun⟩
  | cons s rest => exact merges_mergeFrom h

/-! ## Which spans are merged -/

namespace Merges

/-- A line belongs to one merged span at most. -/
theorem eq_of_mem (h : Merges spans merged) (ha : a ∈ merged) (hb : b ∈ merged)
    (hline : line ∈ a) (hline' : line ∈ b) : a = b := by
  by_contra hne
  have hapart : merged.Pairwise Apart := h.apart.imp Or.inl
  have hbeside := hapart.forall ha hb hne
  rw [mem_iff] at hline hline'
  unfold Apart Before at hbeside
  omega

theorem existsUnique_within (h : Merges spans merged) (hs : s ∈ spans)
    (hproper : s.first ≤ s.last) : ∃! m, m ∈ merged ∧ s.Within m := by
  obtain ⟨m, hm, hwithin⟩ := h.holds s hs
  have hfirst : s.first ∈ s := ⟨Nat.le_refl _, hproper⟩
  refine ⟨m, ⟨hm, hwithin⟩, ?_⟩
  rintro m' ⟨hm', hwithin'⟩
  exact h.eq_of_mem hm' hm (hwithin'.mem hfirst) (hwithin.mem hfirst)

section Together

variable {i j : Nat}

/-- Spans that share their lines one after another come into one. -/
theorem together_of_meets (h : Merges spans merged) (hij : i ≤ j) (hj : j < spans.length)
    (hmeets : ∀ k (hk : k < j), i ≤ k → spans[k].Meets spans[k + 1]) :
    ∃ m ∈ merged, spans[i].Within m ∧ spans[j].Within m := by
  induction j, hij using Nat.le_induction with
  | base =>
    obtain ⟨m, hm, hwithin⟩ := h.holds spans[i] (List.getElem_mem _)
    exact ⟨m, hm, hwithin, hwithin⟩
  | succ j hij ih =>
    obtain ⟨m, hm, hi, hwithin⟩ := ih (by omega) fun k hk => hmeets k (by omega)
    obtain ⟨m', hm', hwithin'⟩ := h.holds spans[j + 1] (List.getElem_mem _)
    obtain ⟨line, hline, hline'⟩ := hmeets j (by omega) hij
    -- spans that share a line are in one merged span, since merged spans are apart
    have heq : m = m' := h.eq_of_mem hm hm' (hwithin.mem hline) (hwithin'.mem hline')
    rw [← heq] at hwithin'
    exact ⟨m, hm, hi, hwithin'⟩

/-- Neighbours among spans that come into one share a line. Otherwise the last line of the
earlier one would end every span it belongs to, and the merged span as well. -/
theorem meets_of_together (h : Merges spans merged) (horder : InSourceOrder spans)
    (hj : j < spans.length) {m : Span} (hm : m ∈ merged) {k : Nat} (hk : k < j) (hik : i ≤ k)
    (hi : spans[i].Within m) (hj' : spans[j].Within m) : spans[k].Meets spans[k + 1] := by
  have hproper : ∀ n (hn : n < spans.length), spans[n].first ≤ spans[n].last :=
    fun n hn => horder.proper _ (List.getElem_mem _)
  have hle : spans[k].last ≤ spans[k + 1].first :=
    List.pairwise_iff_getElem.mp horder.pairwise k (k + 1) (by omega) (by omega) (by omega)
  have hshared : spans[k].last = spans[k + 1].first := by
    by_contra hne
    have hends := horder.ended_at (by omega) (Nat.lt_of_le_of_ne hle hne)
    have hstart := (horder.getElem_le (i := i) hik (by omega)).2
    have hstop := (horder.getElem_le (i := k + 1) hk hj).1
    have hi_proper := hproper i (by omega)
    have hj_proper := hproper j hj
    obtain ⟨hi, -⟩ := hi
    obtain ⟨-, hj'⟩ := hj'
    rcases h.ended _ hends m hm with hended | hended
    · -- the merged span would end before the later statement
      omega
    · -- or begin behind the earlier one
      omega
  exact ⟨spans[k].last, ⟨hproper k (by omega), Nat.le_refl _⟩,
    by rw [hshared]; exact ⟨Nat.le_refl _, hproper (k + 1) (by omega)⟩⟩

/-- Two spans come into one exactly if all neighbours from the one to the other share a
line. -/
theorem together_iff (h : Merges spans merged) (horder : InSourceOrder spans) (hij : i ≤ j)
    (hj : j < spans.length) :
    (∃ m ∈ merged, spans[i].Within m ∧ spans[j].Within m) ↔
      ∀ k (hk : k < j), i ≤ k → spans[k].Meets spans[k + 1] := by
  constructor
  · rintro ⟨m, hm, hi, hj'⟩ k hk hik
    exact h.meets_of_together horder hj hm hk hik hi hj'
  · exact h.together_of_meets hij hj

end Together

end Merges

end Span

/-! ## The statements of a script -/

/-- A statement starts on the least of its own first line and those of its decorators. -/
theorem Located.isLeast_span_first (s : Located) :
    IsLeast {line | line = s.first ∨ ∃ d ∈ s.stmt.decorators, d.1 = line} s.span.first := by
  have hmin : (s.first :: s.stmt.decorators.map (·.1)).min? = some s.span.first :=
    List.min?_cons'
  obtain ⟨hmem, hle⟩ := List.min?_eq_some_iff.mp hmin
  constructor
  · rcases List.mem_cons.mp hmem with hown | hdecorator
    · exact Or.inl hown
    · exact Or.inr (List.mem_map.mp hdecorator)
  · rintro line (rfl | ⟨d, hd, rfl⟩)
    · exact hle s.first (by simp)
    · exact hle d.1 (List.mem_cons_of_mem _ (List.mem_map_of_mem hd))

/-- The snippets of a script are the texts of the merged spans of its statements, each span
from the least line of the statement and its decorators to its last line. The merged spans
are in order and apart, each statement lies in exactly one of them, they hold no line that
belongs to no statement, and two statements come into one exactly if all neighbours from the
one to the other share a line. -/
theorem merged_spans_hold_statements {b : Block} (h : Span.InSourceOrder (b.map Located.span)) :
    let spans := b.map Located.span
    let merged := Span.merge spans
    (∀ source, snippetsOf source b = merged.map (Span.text (wideLines source))) ∧
    (∀ s ∈ b, s.span.last = s.last ∧
      IsLeast {line | line = s.first ∨ ∃ d ∈ s.stmt.decorators, d.1 = line} s.span.first) ∧
    ((∀ m ∈ merged, m.first ≤ m.last) ∧ merged.Pairwise Span.Before) ∧
    (∀ s ∈ spans, ∃! m, m ∈ merged ∧ s.Within m) ∧
    (∀ m ∈ merged, ∀ line ∈ m, ∃ s ∈ spans, line ∈ s) ∧
    (∀ i j (_ : i ≤ j) (_ : j < spans.length),
      (∃ m ∈ merged, spans[i].Within m ∧ spans[j].Within m) ↔
        ∀ k (_ : k < j), i ≤ k → spans[k].Meets spans[k + 1]) := by
  intro spans merged
  have hmerges : Span.Merges spans merged := Span.merges_merge h
  refine ⟨fun _ => rfl, fun s _ => ⟨rfl, s.isLeast_span_first⟩,
    ⟨hmerges.proper, hmerges.apart⟩, ?_, hmerges.covered, ?_⟩
  · intro s hs
    exact hmerges.existsUnique_within hs (h.proper s hs)
  · intro i j hij hj
    exact hmerges.together_iff h hij hj

/-- A script with a chain of three statements, each of which begins on the line on which the
one before ends, a decorated definition, and two statements on one line. -/
private def chainedScript : Text :=
  "a = 1; b = \"\"\"x\ny\"\"\"; c = [\n2]\n@f\n@g\ndef h(): pass\nd = 4; e = 5\n".toList

private def chainedSpans : List Span := [⟨1, 1⟩, ⟨1, 2⟩, ⟨2, 3⟩, ⟨4, 6⟩, ⟨7, 7⟩, ⟨7, 7⟩]

/-- The first and the third statement come into one snippet, though they share no line; the
definition on the line below does not. -/
theorem merged_spans_hold_statements_sample :
    ∃ b, Source.module chainedScript = .ok b ∧ b.map Located.span = chainedSpans ∧
      Span.InSourceOrder (b.map Located.span) ∧
      (∃ m ∈ Span.merge chainedSpans, Span.Within ⟨1, 1⟩ m ∧ Span.Within ⟨2, 3⟩ m) ∧
      ¬ ∃ m ∈ Span.merge chainedSpans, Span.Within ⟨2, 3⟩ m ∧ Span.Within ⟨4, 6⟩ m := by
  obtain ⟨b, hb⟩ := exists_ok (r := Source.module chainedScript) (by decide +kernel)
  have hspans : b.map Located.span = chainedSpans := by
    have hall : (Source.module chainedScript).map (·.map Located.span) = .ok chainedSpans := by
      decide +kernel
    rw [hb] at hall
    exact Except.ok.inj hall
  have horder : Span.InSourceOrder (b.map Located.span) := by
    rw [hspans]
    decide
  obtain ⟨-, -, -, -, -, htogether⟩ := merged_spans_hold_statements horder
  simp only [hspans] at htogether
  refine ⟨b, hb, hspans, horder, ?_, ?_⟩
  · have hfirst : Span.Meets ⟨1, 1⟩ ⟨1, 2⟩ := ⟨1, by decide, by decide⟩
    have hsecond : Span.Meets ⟨1, 2⟩ ⟨2, 3⟩ := ⟨2, by decide, by decide⟩
    -- the first two meet on line 1, the next two on line 2
    apply (htogether 0 2 (by decide) (by decide)).mpr
    intro k hk _
    obtain rfl | rfl : k = 0 ∨ k = 1 := by omega
    · exact hfirst
    · exact hsecond
  · intro hone
    -- the last two have no line in common
    obtain ⟨line, hline, hline'⟩ := (htogether 2 3 (by decide) (by decide)).mp hone 2 (by decide)
      (by decide)
    have hle : line ≤ 3 := hline.2
    have hge : 4 ≤ line := hline'.1
    omega

end Scratchpad
