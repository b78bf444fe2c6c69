import Mathlib.Data.List.TakeDrop
import Scratchpad.Completion.Request
import Scratchpad.Proofs.PathSyntax

/-!
# The lexemes of a path

Cutting a text of word characters and dots gives bare lexemes. Each token takes at least
one character, a word takes all word characters there are, and what does not start with a
word character starts with a mark: a dot, an ellipsis or a number without whole digits.

* `numberToken_leaves` — a number is a mark and takes at least a character;
* `nextToken_path` — one token;
* `bare_scanFrom` — the rest of a text, by induction on the fuel;
* `bare_tokenize` — the lexemes of a path are bare;
* `compileExpression_lookup` — a path that compiles is a lookup.
-/

namespace Scratchpad

/-! ## Characters of a path -/

theorem isWordPart_of_isWord {c : Char} (h : isWord c) : isWordPart c := by
  by_cases hc : c.toNat < 128
  · have hall : ∀ n : Fin 128, isWord (Char.ofNat n) → isWordPart (Char.ofNat n) := by
      decide +kernel
    have := hall ⟨c.toNat, hc⟩
    rw [Char.ofNat_toNat] at this
    exact this h
  · simp only [isWordPart, Bool.or_eq_true, decide_eq_true_eq]
    omega

/-- A text of word characters and dots. -/
def PathText (t : Text) : Prop := ∀ c ∈ t, c = '.' ∨ isWordPart c

theorem pathText_of_all {t : Text} (h : t.all Request.isPathChar) : PathText t := by
  intro c hc
  have := List.all_eq_true.mp h c hc
  simp only [Request.isPathChar, Bool.or_eq_true, beq_iff_eq] at this
  exact this.symm.imp_right isWordPart_of_isWord

theorem PathText.suffix {t tail : Text} (h : PathText t) (htail : tail <:+ t) : PathText tail :=
  fun c hc => h c (htail.subset hc)

/-- Blanks, breaks, quotes and brackets are not in a path. -/
theorem PathText.not_mem {t : Text} (h : PathText t) {c : Char} (hdot : c ≠ '.')
    (hword : isWordPart c = false) : c ∉ t := by
  intro hc
  rcases h c hc with hc | hc
  · exact hdot hc
  · rw [hword] at hc
    cases hc

theorem PathText.ne_cons {t : Text} (h : PathText t) {c : Char} (hdot : c ≠ '.')
    (hword : isWordPart c = false) (rest : Text) : t ≠ c :: rest := by
  rintro rfl
  exact h.not_mem hdot hword List.mem_cons_self

theorem unifyBreaks_of_not_mem {t : Text} (h : '\r' ∉ t) : unifyBreaks t = t := by
  induction t with
  | nil => rfl
  | cons c rest ih =>
    simp only [List.mem_cons, not_or] at h
    rw [unifyBreaks, ih h.2]
    · rintro _ rfl
      exact absurd rfl h.1
    · rintro rfl
      exact absurd rfl h.1

/-! ## Numbers -/

/-- A result that has a property, in front of an end of the text. -/
def Leaves {α : Type} (r : Except Cause (α × Text)) (t : Text) (P : α → Prop) : Prop :=
  ∀ a tail, r = .ok (a, tail) → P a ∧ tail <:+ t

namespace Leaves

variable {α β : Type} {r : Except Cause (α × Text)} {t : Text} {P : α → Prop} {Q : β → Prop}

theorem of_ok {a : α} {tail : Text} (ha : P a) (htail : tail <:+ t) :
    Leaves (.ok (a, tail)) t P := by
  rintro _ _ ⟨⟩
  exact ⟨ha, htail⟩

theorem of_error (cause : Cause) : Leaves (.error cause) t P := nofun

theorem bind {f : α × Text → Except Cause (β × Text)} (hr : Leaves r t P)
    (hf : ∀ a tail, P a → tail <:+ t → Leaves (f (a, tail)) t Q) : Leaves (r >>= f) t Q := by
  intro b tail h
  cases hr' : r with
  | error cause => rw [hr'] at h; cases h
  | ok p =>
    rw [hr'] at h
    obtain ⟨ha, htail⟩ := hr p.1 p.2 hr'
    exact hf p.1 p.2 ha htail b tail h

end Leaves

theorem Leaves.of_suffix {α : Type} {r : Except Cause (α × Text)} {t u : Text} {P : α → Prop}
    (h : Leaves r u P) (hu : u <:+ t) : Leaves r t P :=
  fun a tail hr => ⟨(h a tail hr).1, (h a tail hr).2.trans hu⟩

theorem digitRun_leaves (ok : Char → Bool) (base : String) (t : Text) :
    Leaves (digitRun ok base t) t fun _ => True := by
  fun_induction digitRun ok base t with
  | case1 c rest hc ih =>
    exact (ih.of_suffix (List.suffix_append ['_', c] rest)).bind fun _ _ _ htail =>
      .of_ok trivial htail
  | case2 => exact .of_error _
  | case3 => exact .of_error _
  | case4 c rest _ _ hc ih =>
    exact (ih.of_suffix (List.suffix_cons c rest)).bind fun _ _ _ htail => .of_ok trivial htail
  | case5 => exact .of_ok trivial List.suffix_rfl
  | case6 => exact .of_ok trivial List.suffix_rfl

theorem endNumber_leaves (base : String) {token : Token} (h : token.isMark) (t : Text) :
    Leaves (endNumber base token t) t fun token => token.isMark := by
  unfold endNumber
  split
  · split
    · exact .of_error _
    · exact .of_ok h List.suffix_rfl
  · exact .of_ok h List.suffix_rfl

theorem markedNumber_leaves (base : Nat) (name : String) (t : Text) :
    Leaves (markedNumber base name t) t fun token => token.isMark := by
  unfold markedNumber
  extract_lets ok body rest
  have hbody : body <:+ t := by
    -- an underscore may stand behind the mark of the base
    simp only [body]
    split
    · exact List.suffix_cons _ _
    · exact List.suffix_rfl
  have hrest : Leaves (rest ()) t fun token => token.isMark := by
    refine ((digitRun_leaves ok name body).of_suffix hbody).bind fun ds tail _ htail => ?_
    dsimp only
    split
    · split
      · exact .of_error _
      · exact (endNumber_leaves name rfl _).of_suffix htail
    · exact (endNumber_leaves name rfl _).of_suffix htail
  clear_value rest body
  split
  · split
    · split <;> exact .of_error _
    · exact hrest
  · exact .of_error _

theorem exponentRun_leaves (t : Text) : Leaves (exponentRun t) t fun _ => True := by
  have hrun : ∀ (sign : Int) (u : Text), u <:+ t →
      -- with a sign or without one, digits have to follow; else nothing is read
      Leaves (exponentRun.run sign u) t fun _ => True := fun sign u hu =>
    ((digitRun_leaves Char.isDigit "decimal" u).of_suffix hu).bind fun _ _ _ htail =>
      .of_ok trivial htail
  unfold exponentRun
  split
  · split
    · split
      · split
        · exact hrun _ _ ⟨[_, '+'], rfl⟩
        · exact .of_ok trivial List.suffix_rfl
      · split
        · exact hrun _ _ ⟨[_, '-'], rfl⟩
        · exact .of_ok trivial List.suffix_rfl
      · split
        · exact hrun _ _ (List.suffix_cons _ _)
        · exact .of_ok trivial List.suffix_rfl
      · exact .of_ok trivial List.suffix_rfl
    · exact .of_ok trivial List.suffix_rfl
  · exact .of_ok trivial List.suffix_rfl

/-- A dot in front of a fraction is taken. -/
theorem decimalTail_leaves (whole : Text) {t u : Text} (hdot : ∀ rest, t = '.' :: rest → rest <:+ u)
    (hother : (∀ rest, t ≠ '.' :: rest) → t <:+ u) :
    Leaves (decimalTail whole t) u fun token => token.isMark := by
  unfold decimalTail
  extract_lets rest
  -- whatever was read of a fraction, an exponent and the end of the number follow
  have hrest : ∀ (fraction : Text) (v : Text) (dotted : Bool), v <:+ u →
      Leaves (rest (fraction, v, dotted)) u fun token => token.isMark := by
    intro fraction v dotted hv
    refine ((exponentRun_leaves v).of_suffix hv).bind fun exponent? tail _ htail => ?_
    have hend : ∀ {base : String} {token : Token}, token.isMark →
        Leaves (endNumber base token tail) u fun token => token.isMark :=
      fun h => (endNumber_leaves _ h tail).of_suffix htail
    dsimp -zeta only
    extract_lets digits x go
    have hgo : Leaves (go ()) u fun token => token.isMark := by
      simp only [go]
      split
      · exact hend rfl
      · split
        · exact .of_error _
        · split <;> exact hend rfl
    clear_value go
    split
    · split
      · exact (endNumber_leaves _ rfl _).of_suffix ((List.suffix_cons _ _).trans htail)
      · exact hgo
    · exact hgo
  split
  next rest' =>
    have hu := hdot rest' rfl
    split
    · split
      · exact ((digitRun_leaves _ _ _).of_suffix hu).bind fun ds tail _ htail =>
          hrest ds tail true htail
      · exact hrest [] _ true hu
    · exact hrest [] [] true hu
  next h => exact hrest [] t false (hother h)

/-- A number takes its first character. -/
theorem numberToken_leaves {c : Char} (rest : Text) (hc : c = '.' ∨ c.isDigit) :
    Leaves (numberToken (c :: rest)) rest fun token => token.isMark := by
  -- a number begins with a point or a digit, and that first character is always read
  have hdecimal : Leaves (numberToken.decimal (c :: rest)) rest fun token => token.isMark := by
    unfold numberToken.decimal
    split
    next hu =>
      cases hu
      exact decimalTail_leaves [] (by rintro _ ⟨⟩; exact List.suffix_rfl) fun h =>
        absurd rfl (h rest)
    next h =>
      have hdigit : c.isDigit := hc.resolve_left fun hdot => h rest (by rw [hdot])
      have hrun : Leaves (digitRun Char.isDigit "decimal" (c :: rest)) rest fun _ => True := by
        rw [digitRun]
        · rw [if_pos hdigit]
          exact (digitRun_leaves _ _ rest).bind fun _ _ _ htail => .of_ok trivial htail
        · rintro d u rfl
          cases hdigit
        · rintro rfl
          cases hdigit
      refine hrun.bind fun whole tail _ htail => decimalTail_leaves whole ?_ fun _ => htail
      rintro u rfl
      exact (List.suffix_cons _ _).trans htail
  unfold numberToken
  split
  next d more heq =>
    cases heq
    have hmarked : ∀ (base : Nat) (name : String),
        Leaves (markedNumber base name more) (d :: more) fun token => token.isMark :=
      fun base name => (markedNumber_leaves base name more).of_suffix (List.suffix_cons d more)
    split
    · exact hmarked _ _
    · split
      · exact hmarked _ _
      · split
        · exact hmarked _ _
        · exact hdecimal
  · exact hdecimal

/-! ## One token -/

theorem wordToken_isWord {w : Text} {token : Token} (h : wordToken w = .ok token) :
    token.isWord := by
  unfold wordToken at h
  split at h
  · cases h
    split <;> rfl
  · split at h <;> cases h
    rfl

/-- The operators that start with a dot. -/
theorem operatorText_dot (rest : Text) :
    operatorText ('.' :: rest) = "...".toList ∨ operatorText ('.' :: rest) = ".".toList := by
  -- of the operators in the table only one begins with a point
  have hdots : ∀ o ∈ longOperators, o.toList.head? = some '.' → o = "..." := by decide +kernel
  unfold operatorText
  split
  next o ho =>
    have hpre : o.toList <+: '.' :: rest := by simpa using List.find?_some ho
    have hmem := List.mem_of_find?_eq_some ho
    have hne : o.toList ≠ [] := by
      have : ∀ o ∈ longOperators, o.toList ≠ [] := by decide +kernel
      exact this o hmem
    have hhead : o.toList.head? = some '.' := by
      cases hl : o.toList with
      | nil => exact absurd hl hne
      | cons d l =>
        rw [hl] at hpre
        rw [(List.cons_prefix_cons.mp hpre).1]
        rfl
    exact .inl (by rw [hdots o hmem hhead])
  next => exact .inr rfl

theorem isWordPart_of_isWordStart {c : Char} (h : isWordStart c) : isWordPart c := by
  simp only [isWordStart, isWordPart, Char.isAlphanum, Bool.or_eq_true] at h ⊢
  tauto

section NextToken

variable {s : Scanner} {c : Char} {rest tail : Text} {token : Token}
  {brackets : List (Char × Nat)}

/-- A word takes all word characters there are. No quote follows it, so it does not mark a
string. -/
theorem nextToken_word (hs : s.rest = c :: rest) (hpath : PathText s.rest)
    (hstart : isWordStart c) (h : nextToken s c = .ok (token, tail, brackets)) :
    tail <:+ rest ∧ brackets = s.brackets ∧ token.isWord ∧
      ∀ d ∈ tail.head?, ¬ isWordPart d := by
  have hc := isWordPart_of_isWordStart hstart
  unfold nextToken at h
  rw [if_pos hstart, hs, List.span_eq_takeWhile_dropWhile, List.dropWhile_cons_of_pos hc] at h
  dsimp -zeta only at h
  extract_lets go at h
  -- unless a quote follows, the characters of the word are one token
  have hgo : go () = .ok (token, tail, brackets) → tail <:+ rest ∧ brackets = s.brackets ∧
      token.isWord ∧ ∀ d ∈ tail.head?, ¬ isWordPart d := by
    intro h
    simp only [go] at h
    cases hw : wordToken ((c :: rest).takeWhile isWordPart) with
    | error cause => rw [hw] at h; cases h
    | ok w =>
      rw [hw] at h
      cases h
      refine ⟨List.dropWhile_suffix _, rfl, wordToken_isWord hw, fun d hd => ?_⟩
      have := List.head?_dropWhile_not isWordPart rest
      rw [Option.mem_def.mp hd] at this
      simpa using this
  split at h
  next q _ _ hq _ =>
    -- and no quote stands in the text of a path
    have hmem : q ∈ s.rest := by
      rw [hs]
      have : q ∈ rest.dropWhile isWordPart := by rw [hq]; exact List.mem_cons_self
      exact List.mem_cons_of_mem c ((List.dropWhile_suffix _).subset this)
    rw [if_neg] at h
    · exact hgo h
    · simp only [Bool.or_eq_true, decide_eq_true_eq]
      rintro (rfl | rfl)
      · exact hpath.not_mem (by decide) (by decide) hmem
      · exact hpath.not_mem (by decide) (by decide) hmem
  next => exact hgo h

/-- A number is a mark. -/
theorem nextToken_number (hs : s.rest = c :: rest) (hstart : ¬ isWordStart c)
    (hnumber : c.isDigit || (c = '.' && (s.rest.drop 1).head?.any Char.isDigit))
    (h : nextToken s c = .ok (token, tail, brackets)) :
    tail <:+ rest ∧ brackets = s.brackets ∧ token.isMark := by
  have hc : c = '.' ∨ c.isDigit := by
    -- a number begins with a digit, or with a point and a digit behind it
    simp only [Bool.or_eq_true, Bool.and_eq_true, decide_eq_true_eq] at hnumber
    tauto
  unfold nextToken at h
  rw [if_neg hstart, if_pos hnumber, hs] at h
  cases hn : numberToken (c :: rest) with
  | error cause => rw [hn] at h; cases h
  | ok p =>
    rw [hn] at h
    cases h
    obtain ⟨hmark, htail⟩ := numberToken_leaves rest hc _ _ hn
    exact ⟨htail, rfl, hmark⟩

/-- A dot that begins no number is an operator, and closes no bracket. -/
theorem nextToken_dot (hs : s.rest = '.' :: rest)
    (hnumber : ¬ ('.'.isDigit || ('.' = '.' && (s.rest.drop 1).head?.any Char.isDigit)))
    (h : nextToken s '.' = .ok (token, tail, brackets)) :
    tail <:+ rest ∧ brackets = s.brackets ∧ token.isMark := by
  unfold nextToken at h
  rw [if_neg (by decide), if_neg hnumber, hs, if_neg (by decide), if_neg (by decide)] at h
  rcases operatorText_dot rest with ho | ho
  -- three points are one operator, and a single one closes no bracket
  · rw [ho] at h
    cases h
    exact ⟨List.drop_suffix 2 rest, rfl, rfl⟩
  · rw [ho] at h
    have htrack : trackBracket s '.' = .ok s.brackets := by simp [trackBracket]
    simp only [htrack] at h
    cases h
    exact ⟨List.suffix_rfl, rfl, rfl⟩

/-- The next token of a path takes at least a character. A word takes all word characters
there are, and without one at the start there is a mark. -/
theorem nextToken_path (hs : s.rest = c :: rest) (hpath : PathText s.rest)
    (h : nextToken s c = .ok (token, tail, brackets)) :
    tail <:+ rest ∧ brackets = s.brackets ∧
      (token.isMark ∨ isWordPart c ∧ token.isWord ∧ ∀ d ∈ tail.head?, ¬ isWordPart d) := by
  by_cases hstart : isWordStart c
  · obtain ⟨htail, hbrackets, hword⟩ := nextToken_word hs hpath hstart h
    exact ⟨htail, hbrackets, .inr ⟨isWordPart_of_isWordStart hstart, hword⟩⟩
  by_cases hnumber : c.isDigit || (c = '.' && (s.rest.drop 1).head?.any Char.isDigit)
  · obtain ⟨htail, hbrackets, hmark⟩ := nextToken_number hs hstart hnumber h
    exact ⟨htail, hbrackets, .inl hmark⟩
  · -- neither a word nor a number: a dot
    have hc : c = '.' := by
      refine (hpath c (by rw [hs]; exact List.mem_cons_self)).resolve_right fun hword => ?_
      simp only [isWordPart, isWordStart, Char.isAlphanum, Bool.or_eq_true] at *
      tauto
    subst hc
    obtain ⟨htail, hbrackets, hmark⟩ := nextToken_dot hs hnumber h
    exact ⟨htail, hbrackets, .inl hmark⟩

end NextToken

/-! ## The whole path -/

/-- The rest of a path is cut into bare lexemes if the fuel is enough for its characters.
The induction is on the fuel. -/
theorem bare_scanFrom (last : Nat) {fuel : Nat} {s : Scanner}
    (hfuel : s.rest.length < fuel) (hpath : PathText s.rest) (hbrackets : s.brackets = [])
    (hstart : s.lineStart = false) :
    Bare (scanFrom last fuel s).1 ∧
      ((∀ d ∈ s.rest.head?, ¬ isWordPart d) → (firstToken (scanFrom last fuel s).1).isMark) ∧
      (scanFrom last fuel s).1 ≠ [] := by
  induction fuel generalizing s with
  | zero => omega
  | succ fuel ih =>
    -- on the fuel, which the rest of the text never exhausts
    rw [scanFrom]
    simp only [hstart, Bool.false_eq_true, if_false]
    split
    next hrest =>
      rw [hbrackets]
      exact ⟨.mark rfl .nil, fun _ => rfl, nofun⟩
    next c rest hrest =>
      -- no blank, comment, line break or backslash stands in a path, so that a token is read
      have hne : ∀ d : Char, d ≠ '.' → isWordPart d = false → c ≠ d := by
        rintro d hdot hword rfl
        exact hpath.ne_cons hdot hword rest hrest
      have hblank : ¬ (c = ' ' || c = '\t' || c = '\x0c') := by
        simp only [Bool.or_eq_true, decide_eq_true_eq]
        rintro ((h | h) | h) <;> exact hne _ (by decide) (by decide) h
      rw [if_neg hblank, if_neg (hne '#' (by decide) (by decide)),
        if_neg (hne '\n' (by decide) (by decide)), if_neg (hne '\\' (by decide) (by decide))]
      split
      next => exact ⟨.mark rfl .nil, fun _ => rfl, nofun⟩
      next token tail brackets htoken =>
        obtain ⟨htail, hsame, hkind⟩ := nextToken_path hrest hpath htoken
        rw [hsame, hbrackets]
        have hlength : tail.length < fuel := by
          have := htail.length_le
          rw [hrest, List.length_cons] at hfuel
          omega
        have hpath' : PathText tail := by
          refine hpath.suffix ?_
          rw [hrest]
          exact htail.trans (List.suffix_cons c rest)
        generalize s.line + _ = line
        obtain ⟨hbare, hmark, hne⟩ :=
          ih (s := ⟨tail, line, s.indents, [], false⟩) hlength hpath' rfl rfl
        generalize scanFrom last fuel _ = more at hbare hmark hne
        dsimp only
        refine ⟨?_, fun hhead => ?_, nofun⟩
        · rcases hkind with hkind | ⟨-, hword, htail⟩
          -- no two words stand side by side: what follows a word begins with a mark
          · exact .mark hkind hbare
          · obtain ⟨l, e⟩ := more
            cases l with
            | nil => exact absurd rfl hne
            | cons y more => exact .word hword (hmark htail) hbare.tail
        · rcases hkind with hkind | ⟨hword, -, -⟩
          · exact hkind
          · exact absurd hword (hhead c (by rw [hrest]; rfl))

/-- A path starts at the margin. -/
theorem margin_path {t : Text} (h : PathText t) : margin {} t = .ok ({}, t) := by
  unfold margin
  split
  · exact absurd rfl (h.ne_cons (by decide) (by decide) _)
  · exact absurd rfl (h.ne_cons (by decide) (by decide) _)
  · exact absurd rfl (h.ne_cons (by decide) (by decide) _)
  · exact absurd rfl (h.ne_cons (by decide) (by decide) _)
  · exact absurd rfl (h.ne_cons (by decide) (by decide) _)
  · rfl

/-- The lexemes of a path are bare. -/
theorem bare_tokenize {t : Text} (h : PathText t) : Bare (tokenize t).lexemes := by
  have hfuel : t.length < 2 * t.length + 3 := by omega
  obtain ⟨hbare, -, -⟩ :=
    bare_scanFrom (sourceLineCount t) (s := ⟨t, 1, [], [], false⟩) hfuel h rfl rfl
  show Bare (scanFrom (sourceLineCount t) (2 * t.length + 3 + 1) { rest := t }).1
  rw [scanFrom]
  simp only [if_true, margin_path h]
  split
  · exact absurd List.mem_cons_self (h.not_mem (by decide) (by decide))
  · exact absurd List.mem_cons_self (h.not_mem (by decide) (by decide))
  · rw [if_neg (by decide)]
    exact hbare

/-- A path that compiles is a lookup. -/
theorem compileExpression_lookup {t : Text} {e : Expr} (ht : PathText t)
    (h : compileExpression t = .ok e) : e.Lookup := by
  unfold compileExpression at h
  cases he : Source.expression t with
  | error f => rw [he] at h; cases h
  | ok e' =>
    rw [he] at h
    have hlookup := expression_lookup (e := e') (t := t) ?_ he
    · simp only [bind, Except.bind] at h
      split at h
      · cases h
      · cases h
        exact hlookup
    · rw [unifyBreaks_of_not_mem (ht.not_mem (by decide) (by decide))]
      -- a path has no carriage return to unify
      exact bare_tokenize ht

end Scratchpad
