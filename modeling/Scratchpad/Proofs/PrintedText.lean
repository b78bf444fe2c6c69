import Scratchpad.Proofs.Line
import Scratchpad.Proofs.Pictures
import Scratchpad.Proofs.SourceLines

/-!
# Texts that are printed as they are

Printing changes three things in a text: short codes become pictures, tabs become spaces,
and some control characters are left out. So it leaves a text alone exactly if the text
has nothing of the three. The converse needs care, since one change could undo another:
what rules that out is that the text is printed as it is up to where the first code with a
picture stands, and goes on differently from there.

* `mem_withStops`, `prefix_withStops` — what the tab stops do to a text;
* `printed_eq_self_iff` — the texts that are printed as they are.
-/

namespace Scratchpad

/-! ## Lines -/

theorem unlines_append (sep : Text) {xs ys : List Text} (hx : xs ≠ []) (hy : ys ≠ []) :
    unlines sep (xs ++ ys) = unlines sep xs ++ (sep ++ unlines sep ys) := by
  obtain ⟨y, ys, rfl⟩ := List.exists_cons_of_ne_nil hy
  induction xs with
  | nil => exact absurd rfl hx
  | cons x xs ih =>
    cases xs with
    | nil => simp [unlines]
    | cons x' xs => simpa [unlines] using ih (List.cons_ne_nil x' xs)

theorem mem_unlines {sep : Text} {ls : List Text} {c : Char} (h : c ∈ unlines sep ls) :
    c ∈ sep ∨ ∃ l ∈ ls, c ∈ l := by
  induction ls with
  | nil => cases h
  | cons l rest ih =>
    by_cases hrest : rest = []
    · subst hrest
      exact Or.inr ⟨l, List.mem_cons_self, h⟩
    · have happend := unlines_append sep (List.cons_ne_nil l []) hrest
      rw [List.singleton_append] at happend
      rw [happend, List.mem_append, List.mem_append] at h
      rcases h with h | h | h
      · exact Or.inr ⟨l, List.mem_cons_self, h⟩
      · exact Or.inl h
      · refine (ih h).imp_right ?_
        rintro ⟨l', hl', hc⟩
        exact ⟨l', List.mem_cons_of_mem l hl', hc⟩

namespace Console

/-! ## Tab stops in a line -/

theorem joinAtStops_cons (step column : Nat) (part : Text) {rest : List Text} (h : rest ≠ []) :
    ∃ blanks column', (∀ c ∈ blanks, c = ' ') ∧
      joinAtStops step column (part :: rest) =
        part ++ (blanks ++ joinAtStops step column' rest) := by
  obtain ⟨next, rest, rfl⟩ := List.exists_cons_of_ne_nil h
  let column' := column + cells part + 1
  let gap := (step - column' % step) % step
  refine ⟨' ' :: List.replicate gap ' ', column' + gap, ?_, ?_⟩
  · intro c hc
    rcases List.mem_cons.mp hc with rfl | hc
    · rfl
    · exact List.eq_of_mem_replicate hc
  · simp [joinAtStops, column', gap]

theorem mem_joinAtStops {step column : Nat} {parts : List Text} {c : Char}
    (h : c ∈ joinAtStops step column parts) : c = ' ' ∨ ∃ part ∈ parts, c ∈ part := by
  induction parts generalizing column with
  | nil => cases h
  | cons part rest ih =>
    by_cases hrest : rest = []
    · subst hrest
      exact Or.inr ⟨part, List.mem_cons_self, h⟩
    -- only blanks are put between the parts
    · obtain ⟨blanks, column', hblanks, heq⟩ := joinAtStops_cons step column part hrest
      rw [heq, List.mem_append, List.mem_append] at h
      rcases h with h | h | h
      · exact Or.inr ⟨part, List.mem_cons_self, h⟩
      · exact Or.inl (hblanks c h)
      · refine (ih h).imp_right ?_
        rintro ⟨p, hp, hc⟩
        exact ⟨p, List.mem_cons_of_mem part hp, hc⟩

theorem mem_splitOn {s c : Char} {t piece : Text} (hp : piece ∈ t.splitOn s) (hc : c ∈ piece) :
    c ∈ t ∧ c ≠ s := by
  induction t generalizing piece with
  | nil =>
    rw [List.splitOn_nil, List.mem_singleton] at hp
    rw [hp] at hc
    cases hc
  | cons d rest ih =>
    by_cases hd : d = s
    · subst hd
      -- the separator stands in no piece; any other character stands in the first one
      rw [splitOn_cons_self] at hp
      rcases List.mem_cons.mp hp with rfl | hp
      · cases hc
      · exact (ih hp hc).imp_left (List.mem_cons_of_mem d)
    · obtain ⟨first, more, hsplit⟩ := exists_splitOn_cons s rest
      rw [splitOn_cons_ne hd hsplit] at hp
      rw [hsplit] at ih
      rcases List.mem_cons.mp hp with rfl | hp
      · rcases List.mem_cons.mp hc with rfl | hc
        · exact ⟨List.mem_cons_self, hd⟩
        · exact (ih List.mem_cons_self hc).imp_left (List.mem_cons_of_mem d)
      · exact (ih (List.mem_cons_of_mem first hp) hc).imp_left (List.mem_cons_of_mem d)

theorem stopTabs_eq (line : Text) :
    stopTabs line = joinAtStops printStep 0 (line.splitOn '\t') := by
  rw [stopTabs, splitText_eq_splitOn]

theorem mem_stopTabs {line : Text} {c : Char} (h : c ∈ stopTabs line) :
    c = ' ' ∨ c ∈ line ∧ c ≠ '\t' := by
  rw [stopTabs_eq] at h
  refine (mem_joinAtStops h).imp_right ?_
  rintro ⟨piece, hp, hc⟩
  exact mem_splitOn hp hc

/-- A line without tabs is left alone. -/
theorem stopTabs_eq_self {line : Text} (h : '\t' ∉ line) : stopTabs line = line := by
  rw [stopTabs_eq, List.splitOn_eq_singleton h]
  rfl

/-- The start of a line up to its first tab is left alone. -/
theorem prefix_stopTabs {u : Text} (h : '\t' ∉ u) (rest : Text) : u <+: stopTabs (u ++ rest) := by
  -- a text without a tab is the start of the first part
  have hfirst : ∃ first more, (u ++ rest).splitOn '\t' = (u ++ first) :: more := by
    induction u with
    | nil => exact exists_splitOn_cons '\t' rest
    | cons c u ih =>
      obtain ⟨hc, hu⟩ : ¬ '\t' = c ∧ '\t' ∉ u := by simpa using h
      obtain ⟨first, more, hsplit⟩ := ih hu
      exact ⟨first, more, splitOn_cons_ne (Ne.symm hc) hsplit⟩
  obtain ⟨first, more, hsplit⟩ := hfirst
  rw [stopTabs_eq, hsplit]
  by_cases hmore : more = []
  · subst hmore
    exact ⟨first, rfl⟩
  · obtain ⟨blanks, column, -, heq⟩ := joinAtStops_cons printStep 0 (u ++ first) hmore
    rw [heq, List.append_assoc]
    exact List.prefix_append u _

/-! ## Tab stops in a text -/

/-- A text with spaces in the place of its tabs, line by line. -/
def withStops (t : Text) : Text := unlines ['\n'] ((lines t).map stopTabs)

theorem printed_eq_withStops (t : Text) : printed t = withStops (audible (withPictures t)) := rfl

theorem mem_withStops {t : Text} {c : Char} (h : c ∈ withStops t) :
    c = '\n' ∨ c = ' ' ∨ c ∈ t ∧ c ≠ '\t' := by
  rcases mem_unlines h with h | ⟨line, hline, hc⟩
  · exact Or.inl (List.mem_singleton.mp h)
  · right
    obtain ⟨l, hl, rfl⟩ := List.mem_map.mp hline
    exact (mem_stopTabs hc).imp_right (And.imp_left (mem_of_mem_lines hl))

/-- A text without tabs is left alone. -/
theorem withStops_eq_self {t : Text} (h : '\t' ∉ t) : withStops t = t := by
  have hlines : (lines t).map stopTabs = (lines t).map id :=
    List.map_congr_left fun l hl => stopTabs_eq_self fun hc => h (mem_of_mem_lines hl hc)
  rw [withStops, hlines, List.map_id, unlines_lines]

theorem withStops_append (a b : Text) :
    withStops (a ++ '\n' :: b) = withStops a ++ '\n' :: withStops b := by
  have ha : (lines a).map stopTabs ≠ [] := by simp [lines_ne_nil]
  have hb : (lines b).map stopTabs ≠ [] := by simp [lines_ne_nil]
  rw [withStops, lines_append, List.map_append, unlines_append _ ha hb]
  rfl

theorem withStops_of_single {l : Text} (h : '\n' ∉ l) : withStops l = stopTabs l := by
  rw [withStops, lines_of_single h]
  rfl

theorem prefix_withStops_line {l : Text} (hline : '\n' ∉ l) (h : '\t' ∉ l) (rest : Text) :
    l <+: withStops (l ++ rest) := by
  by_cases hrest : '\n' ∈ rest
  · obtain ⟨x, y, rfl, hx⟩ := List.eq_append_cons_of_mem hrest
    have hsingle : '\n' ∉ l ++ x := by simp [hline, hx]
    rw [← List.append_assoc, withStops_append, withStops_of_single hsingle]
    exact (prefix_stopTabs h x).trans (List.prefix_append _ _)
  · rw [withStops_of_single (by simp [hline, hrest])]
    exact prefix_stopTabs h rest

/-- The start of a text up to its first tab is left alone. -/
theorem prefix_withStops {u : Text} (h : '\t' ∉ u) (rest : Text) :
    u <+: withStops (u ++ rest) := by
  obtain ⟨before, l, rfl, hbefore, hline⟩ := exists_open_line u
  obtain ⟨htabs, htab⟩ : '\t' ∉ before ∧ '\t' ∉ l := by simpa using h
  have hl := prefix_withStops_line hline htab rest
  rcases opensLine_iff.mp hbefore with rfl | ⟨a, rfl⟩
  · exact hl
  · obtain ⟨more, hmore⟩ := hl
    have ha : withStops a = a := withStops_eq_self fun hc => htabs (by simp [hc])
    refine ⟨more, ?_⟩
    rw [show a ++ ['\n'] ++ l ++ rest = a ++ '\n' :: (l ++ rest) by simp, withStops_append, ha,
      ← hmore]
    simp

/-! ## Whole texts -/

/-- A text in which there is nothing to replace: no tabs, no characters that are left out,
and no short code with a picture. -/
structure PrintsItself (t : Text) : Prop where
  tabs : '\t' ∉ t
  silent : ∀ c ∈ t, isSilent c = false
  codes : ∀ k ∈ codes t, k.Unknown

theorem audible_eq_self {t : Text} (h : ∀ c ∈ t, isSilent c = false) : audible t = t := by
  refine List.filter_eq_self.mpr fun c hc => ?_
  simp [h c hc]

theorem PrintsItself.printed_eq {t : Text} (h : PrintsItself t) : printed t = t := by
  rw [printed_eq_withStops, withPictures_eq_self h.codes, audible_eq_self h.silent,
    withStops_eq_self h.tabs]

/-- No tab and no character that is left out gets through. -/
theorem mem_printed {t : Text} {c : Char} (h : c ∈ printed t) : c ≠ '\t' ∧ isSilent c = false := by
  rcases mem_withStops h with rfl | rfl | ⟨hc, htab⟩
  · exact ⟨by decide, by decide⟩
  · exact ⟨by decide, by decide⟩
  · have haudible := (List.mem_filter.mp hc).2
    exact ⟨htab, by simpa using haudible⟩

/-- A start without tabs and silent characters is printed as it is. -/
theorem prefix_withStops_audible {u : Text} (htab : '\t' ∉ u)
    (hsilent : ∀ c ∈ u, isSilent c = false) (rest : Text) :
    u <+: withStops (audible (u ++ rest)) := by
  have happend : audible (u ++ rest) = u ++ audible rest := by
    rw [← audible_eq_self hsilent]
    simp [audible]
  rw [happend]
  exact prefix_withStops htab (audible rest)

/-- Exactly the texts in which there is nothing to replace are printed as they are. -/
theorem printed_eq_self_iff (t : Text) : printed t = t ↔ PrintsItself t := by
  refine ⟨fun h => ?_, PrintsItself.printed_eq⟩
  have hmem : ∀ c ∈ t, c ≠ '\t' ∧ isSilent c = false := by
    intro c hc
    rw [← h] at hc
    exact mem_printed hc
  refine ⟨fun hc => (hmem '\t' hc).1 rfl, fun c hc => (hmem c hc).2, fun k hk => ?_⟩
  by_contra hpicture
  -- up to the picture the text is printed as it is, and a picture is no colon
  obtain ⟨u, v, c, s, ht, hpictures, hcolon, htab, hsilent⟩ := exists_lead_of_picture hk hpicture
  have hu : ∀ d ∈ u, d ≠ '\t' ∧ isSilent d = false := fun d hd => hmem d (by simp [ht, hd])
  have hprefix : u ++ [c] <+: t := by
    rw [← h, printed_eq_withStops, hpictures, show u ++ c :: s = u ++ [c] ++ s by simp]
    refine prefix_withStops_audible ?_ ?_ s
    · simpa [Ne.symm htab] using fun hc => (hu '\t' hc).1 rfl
    · intro d hd
      rcases List.mem_append.mp hd with hd | hd
      · exact (hu d hd).2
      · rwa [List.mem_singleton.mp hd]
  obtain ⟨rest, hrest⟩ := hprefix
  rw [ht, List.append_assoc] at hrest
  have heq := List.append_cancel_left hrest
  exact hcolon (List.cons.inj heq).1

end Console

end Scratchpad
