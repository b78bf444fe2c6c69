import Mathlib.Data.List.DropRight
import Scratchpad.Completion.Request

/-!
# Requests read backwards

A request is read at the first place from which the text is one up to its end, and there
with the shortest path possible. Read backwards, no place has to be tried: the path
characters at the end of the text are cut at their last dot, or else stand behind a colon,
or else are all that was typed.

The two agree because the shortest path leaves no choice. A text spells at most one proper
request, one whose path is empty if it has no operator (`readWhole?_eq_some_iff`). Such a
request holds no characters but those of paths and at most one colon, with only word
characters behind it, so it cannot begin before what the backward scan finds.

* `Request.Proper` — requests with the shortest path possible;
* `Request.readFirst_behind` — what stands before a request and cannot be part of one;
* `Request.exists_scanBack` — what the backward scan finds;
* `Request.ofText_eq_scanBack` — that is what is read forwards.
-/

namespace Scratchpad.Request

/-- The text from which a request is read: a line feed at its very end is left out. -/
def trimmed (t : Text) : Text := if t.getLast? = some '\n' then t.dropLast else t

/-- Reads the request at the end of a text from the end. -/
def scanBack (t : Text) : Request :=
  let run := t.rtakeWhile isPathChar
  let front := t.rdropWhile isPathChar
  if '.' ∈ run then ⟨(run.rdropWhile (· != '.')).dropLast, .member, run.rtakeWhile (· != '.')⟩
  else if front.getLast? = some ':' then ⟨front.dropLast.rtakeWhile isPathChar, .method, run⟩
  else ⟨[], .absent, run⟩

/-- A request as it is written. -/
def text (r : Request) : Text := r.path ++ r.operator.text ++ r.typed

/-- A request with the shortest path possible: what could be typed is not in the path. -/
structure Proper (r : Request) : Prop where
  path : ∀ c ∈ r.path, isPathChar c
  typed : ∀ c ∈ r.typed, isWord c
  bare : r.operator = .absent → r.path = []

/-! ## Characters -/

theorem not_isWord_dot : ¬ isWord '.' := by decide +kernel

theorem not_isWord_colon : ¬ isWord ':' := by decide +kernel

theorem isPathChar_of_isWord {c : Char} (h : isWord c) : isPathChar c := by
  simp [isPathChar, h]

theorem isWord_of_isPathChar {c : Char} (h : isPathChar c) (hdot : c ≠ '.') : isWord c := by
  simpa [isPathChar, hdot] using h

/-! ## Reading a whole text -/

/-- The operator in front of a name is read as such. -/
theorem readEnd?_text (operator : Operator) {typed : Text} (h : ∀ c ∈ typed, isWord c) :
    readEnd? (operator.text ++ typed) = some (operator, typed) := by
  have hall : typed.all isWord = true := List.all_eq_true.mpr h
  cases operator with
  | member | method => simp [Operator.text, readEnd?, hall]
  | absent =>
    cases typed with
    | nil => rfl
    | cons c rest =>
      have hc := h c List.mem_cons_self
      have hdot : c ≠ '.' := fun heq => not_isWord_dot (heq ▸ hc)
      have hcolon : c ≠ ':' := fun heq => not_isWord_colon (heq ▸ hc)
      simp [Operator.text, readEnd?, hdot, hcolon, hall]

theorem readEnd?_inv {t typed : Text} {operator : Operator}
    (h : readEnd? t = some (operator, typed)) :
    t = operator.text ++ typed ∧ ∀ c ∈ typed, isWord c := by
  unfold readEnd? at h
  split at h <;> split at h
  case isTrue hall | isTrue hall | isTrue hall =>
    cases h
    exact ⟨rfl, List.all_eq_true.mp hall⟩
  all_goals cases h

/-- Behind its first character an end holds word characters only. -/
theorem readEnd?_eq_none {c : Char} {t : Text} (ht : ∃ d ∈ t, ¬ isWord d) :
    readEnd? (c :: t) = none := by
  cases hread : readEnd? (c :: t) with
  | none => rfl
  | some found =>
    obtain ⟨d, hd, hword⟩ := ht
    obtain ⟨heq, hall⟩ := readEnd?_inv hread
    -- behind the operator, if it was read at all, words alone follow
    cases hop : found.1 <;> rw [hop] at heq
    case absent =>
      have htyped : c :: t = found.2 := heq
      exact absurd (hall d (htyped ▸ List.mem_cons_of_mem c hd)) hword
    case member | method =>
      obtain ⟨-, rfl⟩ := List.cons.inj heq
      exact absurd (hall d hd) hword

/-- A proper request is read back from its text. -/
theorem readWhole?_text {r : Request} (h : r.Proper) : readWhole? r.text = some r := by
  obtain ⟨path, operator, typed⟩ := r
  -- on the path: as long as the operator is to come, a text that is read whole does not end here
  induction path with
  | nil =>
    have hend := readEnd?_text operator h.typed
    cases ht : operator.text ++ typed with
    | nil =>
      obtain ⟨hop, rfl⟩ := List.append_eq_nil_iff.mp ht
      cases operator with
      | absent => rfl
      | member | method => cases hop
    | cons c rest =>
      rw [ht] at hend
      simp [text, ht, readWhole?, hend]
  | cons c path ih =>
    have hc : isPathChar c := h.path c List.mem_cons_self
    have hrest : readWhole? (text ⟨path, operator, typed⟩) = some ⟨path, operator, typed⟩ :=
      ih ⟨fun d hd => h.path d (List.mem_cons_of_mem c hd), h.typed,
        fun hop => absurd (h.bare hop) (List.cons_ne_nil c path)⟩
    -- a path without an operator is no path, so that an operator is still to come
    have hoperator : ∃ d ∈ text ⟨path, operator, typed⟩, ¬ isWord d := by
      cases operator with
      | absent => exact absurd (h.bare rfl) (List.cons_ne_nil c path)
      | member => exact ⟨'.', by simp [text, Operator.text], not_isWord_dot⟩
      | method => exact ⟨':', by simp [text, Operator.text], not_isWord_colon⟩
    have hnone := readEnd?_eq_none (c := c) hoperator
    have hcons : text ⟨c :: path, operator, typed⟩ = c :: text ⟨path, operator, typed⟩ := rfl
    rw [hcons, readWhole?, hnone, hrest]
    exact if_pos hc

theorem readWhole?_inv {t : Text} {r : Request} (h : readWhole? t = some r) :
    r.Proper ∧ r.text = t := by
  induction t generalizing r with
  | nil =>
    cases h
    exact ⟨⟨nofun, nofun, fun _ => rfl⟩, rfl⟩
  | cons c rest ih =>
    rw [readWhole?] at h
    split at h
    next operator typed hend =>
      cases h
      obtain ⟨heq, hword⟩ := readEnd?_inv hend
      exact ⟨⟨nofun, hword, fun _ => rfl⟩, heq.symm⟩
    next hend =>
      split at h
      next hc =>
        obtain ⟨r, hr, rfl⟩ := Option.map_eq_some_iff.mp h
        obtain ⟨hproper, rfl⟩ := ih hr
        refine ⟨⟨List.forall_mem_cons.mpr ⟨hc, hproper.path⟩, hproper.typed, fun hop => ?_⟩, rfl⟩
        -- without an operator all of this would have been read as the end
        have htext : r.text = r.typed := by simp [text, show r.operator = .absent from hop,
          hproper.bare hop, Operator.text]
        rw [htext] at hend
        by_cases hdot : c = '.'
        · have hread := readEnd?_text .member hproper.typed
          rw [hdot] at hend
          exact absurd (hend.symm.trans hread) (by simp)
        · have hword := isWord_of_isPathChar hc hdot
          have hread := readEnd?_text .absent (List.forall_mem_cons.mpr ⟨hword, hproper.typed⟩)
          exact absurd (hend.symm.trans hread) (by simp)
      next => cases h

/-- A text spells at most one proper request, and that is read. -/
theorem readWhole?_eq_some_iff {t : Text} {r : Request} :
    readWhole? t = some r ↔ r.Proper ∧ r.text = t := by
  constructor
  · exact readWhole?_inv
  · rintro ⟨h, rfl⟩
    exact readWhole?_text h

/-! ## What stands before a request -/

/-- Behind a character that is in no path, a request goes on only if that is its colon. -/
theorem Proper.of_text_eq {r : Request} (h : r.Proper) {b u : Text} {d : Char}
    (hd : ¬ isPathChar d) (heq : r.text = b ++ d :: u) : d = ':' ∧ ∀ c ∈ u, isWord c := by
  obtain ⟨path, operator, typed⟩ := r
  have hpath : d ∉ path := fun hmem => hd (h.path d hmem)
  have htyped : d ∉ typed := fun hmem => hd (isPathChar_of_isWord (h.typed d hmem))
  -- only the operator itself can be such a character
  cases operator with
  | absent =>
    have hmem : d ∈ path ++ typed := by
      rw [show path ++ typed = b ++ d :: u by simpa [text, Operator.text] using heq]
      simp
    exact absurd hmem (by simp [hpath, htyped])
  | member =>
    have hsplit : path ++ '.' :: typed = b ++ d :: u := by
      simpa [text, Operator.text] using heq
    obtain ⟨-, rfl, -⟩ := (List.append_cons_inj_of_notMem hpath htyped).mp hsplit
    exact absurd rfl hd
  | method =>
    have hsplit : path ++ ':' :: typed = b ++ d :: u := by
      simpa [text, Operator.text] using heq
    obtain ⟨-, rfl, rfl⟩ := (List.append_cons_inj_of_notMem hpath htyped).mp hsplit
    exact ⟨rfl, h.typed⟩

/-- No request begins at `d` or before it and goes on with this one. -/
def Blocks (d : Char) (r : Request) : Prop :=
  ¬ isPathChar d ∧ (d = ':' → ∃ c ∈ r.text, ¬ isWord c)

theorem readFirst_text {r : Request} (h : r.Proper) : readFirst r.text = r := by
  have hread := readWhole?_eq_some_iff.mpr ⟨h, rfl⟩
  cases ht : r.text with
  | nil =>
    rw [ht] at hread
    exact Option.some.inj hread
  | cons c rest =>
    rw [ht] at hread
    rw [readFirst, hread]
    rfl

theorem readWhole?_blocked {r : Request} {d : Char} (hd : Blocks d r) (b : Text) :
    readWhole? (b ++ d :: r.text) = none := by
  cases hread : readWhole? (b ++ d :: r.text) with
  | none => rfl
  | some r' =>
    obtain ⟨hproper, heq⟩ := readWhole?_eq_some_iff.mp hread
    obtain ⟨hcolon, hword⟩ := hproper.of_text_eq hd.1 heq
    obtain ⟨c, hc, hnot⟩ := hd.2 hcolon
    exact absurd (hword c hc) hnot

/-- The induction is on the places that are tried in vain. -/
theorem readFirst_behind {r : Request} (h : r.Proper) {d : Char} (hd : Blocks d r) (b : Text) :
    readFirst (b ++ d :: r.text) = r := by
  induction b with
  | nil =>
    have hnone : readWhole? (d :: r.text) = none := readWhole?_blocked hd []
    rw [List.nil_append, readFirst, hnone]
    exact readFirst_text h
  | cons c b ih =>
    have hnone : readWhole? (c :: (b ++ d :: r.text)) = none := readWhole?_blocked hd (c :: b)
    rw [List.cons_append, readFirst, hnone]
    exact ih

/-! ## The backward scan -/

/-- What is left when an end is cut off is nothing, or ends where the cut had to stop. -/
theorem rdropWhile_cases (p : Char → Bool) (t : Text) :
    t.rdropWhile p = [] ∨ ∃ b d, t.rdropWhile p = b ++ [d] ∧ ¬ p d := by
  by_cases h : t.rdropWhile p = []
  · exact .inl h
  · exact .inr ⟨_, _, (List.dropLast_append_getLast h).symm, List.rdropWhile_last_not p t h⟩

theorem rtakeWhile_dot {t : Text} (h : '.' ∈ t) :
    (t.rdropWhile (· != '.')).dropLast ++ '.' :: t.rtakeWhile (· != '.') = t := by
  have hcut := List.rdropWhile_append_rtakeWhile (p := (· != '.')) (l := t)
  rcases rdropWhile_cases (· != '.') t with hnil | ⟨b, d, hd, hdot⟩
  · have hnone := List.rdropWhile_eq_nil_iff.mp hnil '.' h
    exact absurd hnone (by decide)
  · obtain rfl : d = '.' := by simpa using hdot
    rw [hd] at hcut ⊢
    simpa using hcut

/-- What the scan finds is a proper request at the end of the text, and what stands before
that cannot be part of a request. -/
theorem exists_scanBack (t : Text) :
    ∃ front, t = front ++ (scanBack t).text ∧ (scanBack t).Proper ∧
      (front = [] ∨ ∃ b d, front = b ++ [d] ∧ Blocks d (scanBack t)) := by
  have hcut := List.rdropWhile_append_rtakeWhile (p := isPathChar) (l := t)
  have hrun : ∀ c ∈ t.rtakeWhile isPathChar, isPathChar c := fun c => List.mem_rtakeWhile_imp
  have hfront := rdropWhile_cases isPathChar t
  unfold scanBack
  generalize t.rdropWhile isPathChar = front at hcut hfront ⊢
  generalize t.rtakeWhile isPathChar = run at hcut hrun ⊢
  have hword : '.' ∉ run → ∀ c ∈ run, isWord c := fun hdot c hc =>
    isWord_of_isPathChar (hrun c hc) fun heq => hdot (heq ▸ hc)
  dsimp only
  split
  next hdot =>
    -- the last dot is the operator
    have hlast := rtakeWhile_dot hdot
    refine ⟨front, ?_, ⟨fun c hc => hrun c ?_, fun c hc => ?_, nofun⟩, ?_⟩
    · simpa [text, Operator.text, hlast] using hcut.symm
    · rw [← hlast]
      exact List.mem_append_left _ hc
    · have hmem : c ∈ run := (List.rtakeWhile_suffix _ _).subset hc
      have hne : c ≠ '.' := by simpa using List.mem_rtakeWhile_imp hc
      exact isWord_of_isPathChar (hrun c hmem) hne
    · refine hfront.imp_right fun ⟨b, d, hb, hd⟩ => ⟨b, d, hb, hd, fun _ => ⟨'.', ?_, not_isWord_dot⟩⟩
      simp [text, Operator.text]
  next hdot =>
    split
    next hcolon =>
      -- the colon is the operator
      obtain ⟨g, rfl⟩ := List.getLast?_eq_some_iff.mp hcolon
      rw [List.dropLast_concat]
      have hpath := List.rdropWhile_append_rtakeWhile (p := isPathChar) (l := g)
      refine ⟨g.rdropWhile isPathChar, ?_, ⟨fun c => List.mem_rtakeWhile_imp, hword hdot, nofun⟩, ?_⟩
      · rw [← hcut, text, Operator.text, ← List.append_assoc, ← List.append_assoc, hpath]
      · refine (rdropWhile_cases isPathChar g).imp_right fun ⟨b, d, hb, hd⟩ =>
          ⟨b, d, hb, hd, fun _ => ⟨':', ?_, not_isWord_colon⟩⟩
        simp [text, Operator.text]
    next hcolon =>
      refine ⟨front, ?_, ⟨nofun, hword hdot, fun _ => rfl⟩, ?_⟩
      · simpa [text, Operator.text] using hcut.symm
      · refine hfront.imp_right fun ⟨b, d, hb, hd⟩ => ⟨b, d, hb, hd, fun heq => ?_⟩
        rw [hb, heq] at hcolon
        exact absurd List.getLast?_concat hcolon

/-- The first place from which a request can be read is where the scan ends. -/
theorem readFirst_eq_scanBack (t : Text) : readFirst t = scanBack t := by
  obtain ⟨front, htext, hproper, hfront⟩ := exists_scanBack t
  have hfirst : readFirst (front ++ (scanBack t).text) = scanBack t := by
    rcases hfront with rfl | ⟨b, d, rfl, hblocks⟩
    · exact readFirst_text hproper
    · rw [List.append_assoc]
      exact readFirst_behind hproper hblocks b
  rwa [← htext] at hfirst

/-- A request is proper and stands last in the text it is read from. -/
theorem ofText_proper (t : Text) : (ofText t).Proper ∧ (ofText t).text <:+ trimmed t := by
  obtain ⟨front, htext, hproper, -⟩ := exists_scanBack (trimmed t)
  have hread : ofText t = scanBack (trimmed t) := readFirst_eq_scanBack (trimmed t)
  rw [hread]
  exact ⟨hproper, front, htext.symm⟩

/-- A proper request is read from what it looks like. -/
theorem ofText_text {r : Request} (h : r.Proper) : ofText r.text = r := by
  have hchars : ∀ c ∈ r.text, c ≠ '\n' := by
    simp only [text, List.mem_append]
    rintro c ((hc | hc) | hc) rfl
    · exact absurd (h.path _ hc) (by decide +kernel)
    · cases hop : r.operator <;> simp [Operator.text, hop] at hc
    · exact absurd (h.typed _ hc) (by decide +kernel)
  have hlast : r.text.getLast? ≠ some '\n' := fun hlast =>
    hchars _ (List.mem_of_getLast? hlast) rfl
  rw [ofText, if_neg hlast, readFirst_text h]

/-- Reading a request forwards, from the first place at which one starts, gives what the
scan finds from the end. Written out, it is what stands last, and what was typed of a name
consists of word characters. -/
theorem ofText_eq_scanBack (t : Text) :
    ofText t = scanBack (trimmed t) ∧
      (ofText t).path ++ (ofText t).operator.text ++ (ofText t).typed <:+ trimmed t ∧
      ∀ c ∈ (ofText t).typed, isWord c := by
  obtain ⟨hproper, hsuffix⟩ := ofText_proper t
  exact ⟨readFirst_eq_scanBack (trimmed t), hsuffix, hproper.typed⟩

example : scanBack "f(a..b:c".toList = ⟨"a..b".toList, .method, "c".toList⟩ := by decide +kernel

end Scratchpad.Request
