import Scratchpad.Proofs.CommitSteps
import Scratchpad.Script.Split

/-!
# Snippets and source lines

A script is cut by line numbers that count the lines of source code, out of the lines of a
listing. The two have the same lines exactly if nothing but a line feed, a carriage return or
the pair breaks a line of the listing. A form feed in a string already shifts what follows,
and then a statement is torn. Two other scripts are cut within a statement although their
lines agree.

* `wideLines_go` — a listing without further breaks, by induction on the text;
* `wideLines_eq_iff` — when the lines of the listing are those of the source;
* `splitScript_cuts_statements` — scripts whose snippets do not parse.
-/

namespace Scratchpad

/-- A character that ends a line of a listing, but no line of source code. -/
def isListingBreak (c : Char) : Bool := isWideBreak c && c != '\n' && c != '\r'

/-- Lines without an empty one at the end. -/
def dropLastEmpty (ls : List Text) : List Text :=
  if ls.getLast? = some [] then ls.dropLast else ls

/-- The lines of a source text. A break at the very end starts no further line. -/
def sourceLines (t : Text) : List Text := dropLastEmpty (lines (unifyBreaks t))

theorem dropLastEmpty_cons (l : Text) {ls : List Text} (h : ls ≠ []) :
    dropLastEmpty (l :: ls) = l :: dropLastEmpty ls := by
  rw [dropLastEmpty, dropLastEmpty, List.getLast?_cons_of_ne_nil h]
  split
  · exact List.dropLast_cons_of_ne_nil h
  · rfl

/-! ## Without further breaks -/

theorem isWideBreak_iff {c : Char} (h : ¬ isListingBreak c) :
    isWideBreak c ↔ c = '\n' ∨ c = '\r' := by
  constructor
  · intro hwide
    by_contra hne
    simp only [not_or] at hne
    exact h (by simp [isListingBreak, hwide, hne])
  · rintro (rfl | rfl) <;> rfl

theorem lines_cons {c : Char} (hc : c ≠ '\n') {t l : Text} {more : List Text}
    (h : lines t = l :: more) : lines (c :: t) = (c :: l) :: more := by
  simp [lines, hc, h]

theorem unifyBreaks_cons {c : Char} (hc : c ≠ '\r') (rest : Text) :
    unifyBreaks (c :: rest) = c :: unifyBreaks rest := by
  rw [unifyBreaks]
  · exact fun _ h => absurd h hc
  · exact hc

/-- A carriage return is a line feed, unless it is half of a pair. -/
theorem unifyBreaks_return {rest : Text} (h : ∀ more, rest ≠ '\n' :: more) :
    unifyBreaks ('\r' :: rest) = '\n' :: unifyBreaks rest := by
  rw [unifyBreaks]
  exact fun more hm => h more hm

/-- The listing goes on with the lines of the source; `line` is the start of the first one,
last character first. -/
theorem wideLines_go {t : Text} (h : ∀ c ∈ t, ¬ isListingBreak c) (line : Text) :
    ∃ l more, lines (unifyBreaks t) = l :: more ∧
      wideLines.go line t = dropLastEmpty ((line.reverse ++ l) :: more) := by
  fun_induction wideLines.go line t with
  | case1 line hline =>
    refine ⟨[], [], rfl, ?_⟩
    rw [List.isEmpty_iff.1 hline]
    rfl
  | case2 line hline =>
    refine ⟨[], [], rfl, ?_⟩
    have hne : line ≠ [] := by simpa using hline
    simp [dropLastEmpty, hne]
  | case3 line rest ih =>
    obtain ⟨l, more, hl, hgo⟩ := ih fun c hc => h c (by simp [hc])
    refine ⟨[], l :: more, by simp [unifyBreaks, lines, hl], ?_⟩
    rw [hgo, List.append_nil, dropLastEmpty_cons _ (List.cons_ne_nil l more)]
    rfl
  | case4 line c rest hpair hwide ih =>
    obtain ⟨l, more, hl, hgo⟩ := ih fun c hc => h c (by simp [hc])
    have hbreak : unifyBreaks (c :: rest) = '\n' :: unifyBreaks rest := by
      obtain rfl | rfl := (isWideBreak_iff (h c (by simp))).1 hwide
      · exact unifyBreaks_cons (by decide) rest
      · exact unifyBreaks_return fun more => hpair more rfl
    refine ⟨[], l :: more, by simp [hbreak, lines, hl], ?_⟩
    rw [hgo, List.append_nil, dropLastEmpty_cons _ (List.cons_ne_nil l more)]
    rfl
  | case5 line c rest _ hwide ih =>
    obtain ⟨l, more, hl, hgo⟩ := ih fun c hc => h c (by simp [hc])
    have hc : c ≠ '\n' ∧ c ≠ '\r' := by
      constructor <;> (rintro rfl; exact hwide rfl)
    -- the character joins the current line on both sides
    refine ⟨c :: l, more, ?_, ?_⟩
    · rw [unifyBreaks_cons hc.2, lines_cons hc.1 hl]
    · rw [hgo, List.reverse_cons, List.append_assoc]
      rfl

theorem wideLines_eq {t : Text} (h : ∀ c ∈ t, ¬ isListingBreak c) :
    wideLines t = sourceLines t := by
  obtain ⟨l, more, hl, hgo⟩ := wideLines_go h []
  rw [wideLines, sourceLines, hl, hgo]
  rfl

/-! ## With further breaks -/

/-- No break stands within a line of a listing. -/
theorem wideLines_go_breaks {line t : Text} (h : ∀ c ∈ line, ¬ isWideBreak c) :
    ∀ l ∈ wideLines.go line t, ∀ c ∈ l, ¬ isWideBreak c := by
  -- only characters that break nothing join the current line
  fun_induction wideLines.go line t with
  | case1 => simp
  | case2 line => simpa using h
  | case3 line rest ih =>
    rintro l (_ | ⟨_, hl⟩)
    · simpa using h
    · exact ih (by simp) l hl
  | case4 line c rest _ _ ih =>
    rintro l (_ | ⟨_, hl⟩)
    · simpa using h
    · exact ih (by simp) l hl
  | case5 line c rest _ hwide ih =>
    refine ih fun d hd => ?_
    obtain rfl | hd := List.mem_cons.1 hd
    · exact hwide
    · exact h d hd

theorem mem_unifyBreaks {c : Char} {t : Text} (hc : c ∈ t) (hr : c ≠ '\r') :
    c ∈ unifyBreaks t := by
  fun_induction unifyBreaks t <;> grind

theorem mem_of_mem_unifyBreaks {c : Char} {t : Text} (hc : c ∈ unifyBreaks t) (hn : c ≠ '\n') :
    c ∈ t := by
  fun_induction unifyBreaks t <;> grind

theorem exists_mem_lines {c : Char} {t : Text} (hc : c ∈ t) (hn : c ≠ '\n') :
    ∃ l ∈ lines t, c ∈ l := by
  induction t with
  | nil => cases hc
  | cons d rest ih =>
    obtain ⟨l, more, hl⟩ := List.exists_cons_of_ne_nil (lines_ne_nil rest)
    by_cases hd : d = '\n'
    · subst hd
      -- the line feed itself is in no line, so the character stands behind it
      have hrest := (List.mem_cons.1 hc).resolve_left hn
      obtain ⟨m, hm, hcm⟩ := ih hrest
      exact ⟨m, by simp [lines, hm], hcm⟩
    · rw [lines_cons hd hl]
      obtain rfl | hrest := List.mem_cons.1 hc
      · exact ⟨c :: l, by simp, by simp⟩
      · obtain ⟨m, hm, hcm⟩ := ih hrest
        rw [hl] at hm
        obtain rfl | hm := List.mem_cons.1 hm
        · exact ⟨d :: m, by simp, by simp [hcm]⟩
        · exact ⟨m, by simp [hm], hcm⟩

theorem mem_of_mem_lines {t l : Text} {c : Char} (hl : l ∈ lines t) (hc : c ∈ l) : c ∈ t := by
  induction t generalizing l with
  | nil =>
    rw [lines, List.mem_singleton] at hl
    rwa [hl] at hc
  | cons d rest ih =>
    by_cases hd : d = '\n'
    · subst hd
      rw [lines, if_pos rfl] at hl
      rcases List.mem_cons.mp hl with rfl | hl
      · cases hc
      · exact List.mem_cons_of_mem _ (ih hl hc)
    · obtain ⟨first, more, hlines⟩ := List.exists_cons_of_ne_nil (lines_ne_nil rest)
      -- the first line is that of the rest with one character more
      rw [lines_cons hd hlines] at hl
      rw [hlines] at ih
      rcases List.mem_cons.mp hl with rfl | hl
      · rcases List.mem_cons.mp hc with rfl | hc
        · exact List.mem_cons_self
        · exact List.mem_cons_of_mem d (ih List.mem_cons_self hc)
      · exact List.mem_cons_of_mem d (ih (List.mem_cons_of_mem first hl) hc)

theorem mem_dropLastEmpty {ls : List Text} {l : Text} (h : l ∈ ls) (hne : l ≠ []) :
    l ∈ dropLastEmpty ls := by
  rw [dropLastEmpty]
  split
  next hlast =>
    obtain ⟨front, rfl⟩ := List.getLast?_eq_some_iff.1 hlast
    simpa [hne] using h
  next => exact h

/-- A listing shows the lines of the source exactly if the source holds no further break. -/
theorem wideLines_eq_iff (t : Text) :
    wideLines t = sourceLines t ↔ ∀ c ∈ t, ¬ isListingBreak c := by
  refine ⟨fun h c hc hbreak => ?_, wideLines_eq⟩
  simp only [isListingBreak, Bool.and_eq_true, bne_iff_ne] at hbreak
  obtain ⟨⟨hwide, hn⟩, hr⟩ := hbreak
  -- the break stands within some line of the source
  obtain ⟨l, hl, hcl⟩ := exists_mem_lines (mem_unifyBreaks hc hr) hn
  have hmem : l ∈ wideLines t := h ▸ mem_dropLastEmpty hl (List.ne_nil_of_mem hcl)
  exact wideLines_go_breaks (by simp) l hmem c hcl hwide

/-! ## Snippets -/

/-- Three scripts that are cut within a statement: a form feed in a string shifts the lines, so
that one string is torn and the last statement is lost; a semicolon followed by a continued line
leaves the continuation open; a decorator in parentheses begins below its own first line. -/
theorem splitScript_cuts_statements :
    ((Source.module "x = '\x0c'\ny = 2\n".toList).isOk = true ∧
      splitScript "x = '\x0c'\ny = 2\n".toList = .ok ["x = '".toList, "'".toList] ∧
      (Source.module "x = '".toList).isOk = false ∧ (Source.module "'".toList).isOk = false) ∧
    ((Source.module "a = 1; \\\nb = 2\n".toList).isOk = true ∧
      splitScript "a = 1; \\\nb = 2\n".toList = .ok ["a = 1; \\".toList, "b = 2".toList] ∧
      (Source.module "a = 1; \\".toList).isOk = false) ∧
    ((Source.module "@(\n f\n)\ndef g(): pass\n".toList).isOk = true ∧
      splitScript "@(\n f\n)\ndef g(): pass\n".toList = .ok [" f\n)\ndef g(): pass".toList] ∧
      (Source.module " f\n)\ndef g(): pass".toList).isOk = false) := by
  decide +kernel

end Scratchpad
