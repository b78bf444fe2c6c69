import Scratchpad.Proofs.Lookup

/-!
# The syntax of paths

A path is a text of word characters and dots. Its tokens are words, numbers, dots and
ellipses, and no two words stand side by side. What parses from such tokens is a lookup:
there is no bracket for a call, and no operator but the words `not`, `and`, `or`, `in`,
`is`, `if`, `else` and `await`. Behind a word stands no name, so that the right side of
`in` is an attribute of a literal.

* `Bare` — the lexemes of a path, a property of every rest of them;
* `bitwiseRule_operand` — what stands between two comparison words;
* `grammar_looksUp` — expressions of any depth, by induction on the depth;
* `expression_lookup` — what is read from the lexemes of a path is a lookup.
-/

namespace Scratchpad

/-! ## Lexemes -/

namespace Token

/-- The token is a name or a keyword. -/
def isWord : Token → Bool
  | .name _ | .keyword _ => true
  | _ => false

/-- The tokens of a path that are no words. -/
def isMark : Token → Bool
  | .int _ | .hugeInt _ | .float _ | .imaginary _ | .newline | .finish | .broken => true
  | .op o => o == "." || o == "..."
  | _ => false

theorem not_isMark {t : Token} (h : t.isWord) : ¬ t.isMark := by
  cases t <;> cases h <;> exact nofun

end Token

/-- Lexemes of a path: none but words and marks, and each word in front of a mark. -/
inductive Bare : List Lexeme → Prop where
  | nil : Bare []
  | mark {x : Lexeme} {rest : List Lexeme} (hx : x.token.isMark) (h : Bare rest) :
      Bare (x :: rest)
  | word {x y : Lexeme} {rest : List Lexeme} (hx : x.token.isWord) (hy : y.token.isMark)
      (h : Bare rest) : Bare (x :: y :: rest)

/-- The next token. -/
def firstToken (l : List Lexeme) : Token := (l.headD ⟨.finish, 0, 0, 0⟩).token

namespace Bare

variable {l : List Lexeme} {x : Lexeme}

theorem tail (h : Bare (x :: l)) : Bare l := by
  cases h with
  | mark _ h => exact h
  | word _ hy h => exact .mark hy h

theorem isMark_next (h : Bare (x :: l)) (hx : x.token.isWord) : (firstToken l).isMark := by
  cases h with
  | mark hx' _ => exact absurd hx' (Token.not_isMark hx)
  | word _ hy _ => exact hy

theorem isMark_second (h : Bare l) (hword : (firstToken l).isWord) :
    (firstToken (l.drop 1)).isMark := by
  cases l with
  | nil => cases hword
  | cons x l => exact h.isMark_next hword

/-- The next token of a path. -/
theorem next (h : Bare l) : (firstToken l).isWord ∨ (firstToken l).isMark := by
  cases h with
  | nil => exact .inr rfl
  | mark hx _ => exact .inr hx
  | word hx _ _ => exact .inl hx

end Bare

namespace Reader

/-! ## Steps of readers -/

variable {α β : Type} {x : Reader α} {f : α → Reader β} {s s' : Cursor}

/-- A sequence that succeeds does so step by step. -/
theorem bind_ok_inv {b : β} (h : (x >>= f) s = .ok (b, s')) :
    ∃ a s₁, x s = .ok (a, s₁) ∧ f a s₁ = .ok (b, s') := by
  change (x s >>= fun p => f p.1 p.2) = _ at h
  cases hx : x s with
  | error e => rw [hx] at h; cases h
  | ok p => rw [hx] at h; exact ⟨p.1, p.2, rfl, h⟩

theorem map_ok_inv {f : α → β} {b : β} (h : (f <$> x) s = .ok (b, s')) :
    ∃ a, x s = .ok (a, s') ∧ b = f a := by
  change (x s >>= fun p => pure (f p.1, p.2)) = _ at h
  cases hx : x s with
  | error e => rw [hx] at h; cases h
  | ok p => rw [hx] at h; cases h; exact ⟨p.1, rfl, rfl⟩

theorem token_bind (f : Token → Reader β) (s : Cursor) :
    (token >>= f) s = f (firstToken s.rest) s := rfl

theorem secondToken_bind (f : Token → Reader β) (s : Cursor) :
    (secondToken >>= f) s = f (firstToken (s.rest.drop 1)) s := rfl

/-- An attempt takes nothing. -/
theorem attempt?_inv {a? : Option (α × Cursor)} (h : attempt? x s = .ok (a?, s')) : s' = s := by
  obtain ⟨u, _, hget, h⟩ := bind_ok_inv h
  cases hget
  cases hx : x s <;> rw [hx] at h <;> cases h <;> rfl

theorem failAt_ne_ok {cause : Cause} {line : Nat} {p : α × Cursor} :
    (failAt cause line : Reader α) s ≠ .ok p := nofun

theorem fail_ne_ok {cause : Cause} {p : α × Cursor} : (fail cause : Reader α) s ≠ .ok p := nofun

theorem unexpected_ne_ok {p : α × Cursor} : (unexpected : Reader α) s ≠ .ok p := by
  rw [unexpected, token_bind]
  cases firstToken s.rest <;> exact fail_ne_ok

theorem nextIsOp_bind (o : String) (f : Bool → Reader β) (s : Cursor) :
    (nextIsOp o >>= f) s = f ((firstToken s.rest).isOp o) s := rfl

theorem nextIsKeyword_bind (k : String) (f : Bool → Reader β) (s : Cursor) :
    (nextIsKeyword k >>= f) s = f ((firstToken s.rest).isKeyword k) s := rfl

/-- What is left behind the next lexeme. -/
theorem advance_inv (h : advance s = .ok ((), s')) :
    s'.rest = s.rest ∧ s.rest.length ≤ 1 ∨ ∃ x, s.rest = x :: s'.rest ∧ s'.rest ≠ [] := by
  change Except.ok ((), _) = Except.ok ((), s') at h
  injection h with h
  injection h with _ h
  subst h
  rcases hs : s.rest with _ | ⟨x, _ | ⟨y, rest⟩⟩
  · simp [hs]
  · simp [hs]
  · right
    refine ⟨x, ?_⟩
    cases x with | mk t => cases t <;> simp [hs]

/-! ## Reading bare lexemes -/

theorem bare_advance (hs : Bare s.rest) (h : advance s = .ok ((), s')) : Bare s'.rest := by
  rcases advance_inv h with ⟨hsame, -⟩ | ⟨x, hx, -⟩
  · rwa [hsame]
  · rw [hx] at hs
    exact hs.tail

/-- Behind a word stands a mark. -/
theorem isMark_advance (hs : Bare s.rest) (hword : (firstToken s.rest).isWord)
    (h : advance s = .ok ((), s')) : (firstToken s'.rest).isMark := by
  rcases advance_inv h with ⟨hsame, hlength⟩ | ⟨x, hx, -⟩
  · -- a word is not the last lexeme
    rw [hsame]
    generalize s.rest = l at hs hword hlength
    cases hs with
    | nil => cases hword
    | mark hx _ => exact hx
    | word => simp at hlength
  · rw [hx] at hs hword
    exact hs.isMark_next hword

theorem isOp_of_bare {l : List Lexeme} {o : String} (hl : Bare l) (hdot : o ≠ ".")
    (hellipsis : o ≠ "...") : (firstToken l).isOp o = false := by
  rcases hl.next with hword | hmark
  · cases ht : firstToken l <;> rw [ht] at hword <;> first | rfl | cases hword
  · cases ht : firstToken l <;> rw [ht] at hmark <;> try rfl
    simp only [Token.isMark, Bool.or_eq_true, beq_iff_eq] at hmark
    rcases hmark with rfl | rfl
    · simp [Token.isOp, Ne.symm hdot]
    · simp [Token.isOp, Ne.symm hellipsis]

/-- No operator but a dot and an ellipsis comes next. -/
theorem nextIsOp_bare (hs : Bare s.rest) {o : String} (hdot : o ≠ ".") (hellipsis : o ≠ "...")
    (f : Bool → Reader β) : (nextIsOp o >>= f) s = f false s := by
  rw [nextIsOp_bind, isOp_of_bare hs hdot hellipsis]

theorem acceptOp_bare (hs : Bare s.rest) {o : String} (hdot : o ≠ ".") (hellipsis : o ≠ "...")
    (f : Bool → Reader β) : (acceptOp o >>= f) s = f false s := by
  have haccept : acceptOp o s = .ok (false, s) := by
    rw [acceptOp, nextIsOp_bare hs hdot hellipsis]
    rfl
  change (acceptOp o s >>= fun p => f p.1 p.2) = _
  rw [haccept]
  rfl

theorem acceptOp_inv (hs : Bare s.rest) {o : String} {b : Bool}
    (h : acceptOp o s = .ok (b, s')) : Bare s'.rest := by
  rw [acceptOp, nextIsOp_bind] at h
  split at h
  · obtain ⟨_, s₁, hadvance, hpure⟩ := bind_ok_inv h
    cases hpure
    exact bare_advance hs hadvance
  · cases h
    exact hs

/-- A keyword is a word, so that a mark comes behind it. -/
theorem acceptKeyword_inv (hs : Bare s.rest) {k : String} {b : Bool}
    (h : acceptKeyword k s = .ok (b, s')) :
    Bare s'.rest ∧ (b = true → (firstToken s.rest).isWord ∧ (firstToken s'.rest).isMark) ∧
      (b = false → s' = s) := by
  rw [acceptKeyword, nextIsKeyword_bind] at h
  split at h
  next hk =>
    obtain ⟨_, s₁, hadvance, hpure⟩ := bind_ok_inv h
    cases hpure
    have hword : (firstToken s.rest).isWord := by
      -- keywords are words, and behind a word stands a mark
      cases ht : firstToken s.rest <;> rw [ht] at hk <;> first | rfl | cases hk
    exact ⟨bare_advance hs hadvance, fun _ => ⟨hword, isMark_advance hs hword hadvance⟩, nofun⟩
  next =>
    cases h
    exact ⟨hs, nofun, fun _ => rfl⟩

theorem name_inv (hs : Bare s.rest) {n : String} (h : name s = .ok (n, s')) :
    (firstToken s.rest).isWord ∧ Bare s'.rest := by
  rw [name, token_bind] at h
  cases ht : firstToken s.rest <;> rw [ht] at h
  case name =>
    obtain ⟨_, s₁, hadvance, hpure⟩ := bind_ok_inv h
    cases hpure
    exact ⟨rfl, bare_advance hs hadvance⟩
  all_goals exact absurd h unexpected_ne_ok

/-! ## Readers of lookups -/

/-- From the lexemes of a path the reader yields only values with a property, and it leaves
the lexemes of a path. -/
def Yields (r : Reader α) (P : α → Prop) : Prop :=
  ∀ s a s', Bare s.rest → r s = .ok (a, s') → Bare s'.rest ∧ P a

theorem repeatUntilNone_yields {P : α → Prop} {step : Reader (Option α)}
    (hstep : step.Yields fun a? => ∀ a ∈ a?, P a) (n : Nat) :
    (repeatUntilNone step n).Yields fun as => ∀ a ∈ as, P a := by
  induction n with
  | zero =>
    intro s as s' hs h
    cases h
    exact ⟨hs, nofun⟩
  | succ n ih =>
    intro s as s' hs h
    obtain ⟨a?, s₁, hfirst, h⟩ := bind_ok_inv h
    obtain ⟨hs₁, ha?⟩ := hstep _ _ _ hs hfirst
    cases a? with
    | none =>
      cases h
      exact ⟨hs₁, nofun⟩
    | some a =>
      -- the step that reads nothing ends the repetition, any other one is followed by the rest
      obtain ⟨as', s₂, hrest, hpure⟩ := bind_ok_inv h
      cases hpure
      obtain ⟨hs₂, has'⟩ := ih _ _ _ hs₁ hrest
      refine ⟨hs₂, ?_⟩
      rintro b (_ | ⟨_, hb⟩)
      · exact ha? _ rfl
      · exact has' b hb

theorem many_yields {P : α → Prop} {step : Reader (Option α)}
    (hstep : step.Yields fun a? => ∀ a ∈ a?, P a) :
    (many step).Yields fun as => ∀ a ∈ as, P a :=
  fun s => repeatUntilNone_yields hstep s.rest.length s

theorem foldUntilNone_yields {P : α → Prop} {step : α → Reader (Option α)}
    (hstep : ∀ a, P a → (step a).Yields fun b? => ∀ b ∈ b?, P b) (n : Nat) {a : α} (ha : P a) :
    (foldUntilNone step n a).Yields P := by
  induction n generalizing a with
  | zero =>
    intro s b s' hs h
    cases h
    exact ⟨hs, ha⟩
  | succ n ih =>
    intro s b s' hs h
    obtain ⟨b?, s₁, hfirst, h⟩ := bind_ok_inv h
    obtain ⟨hs₁, hb?⟩ := hstep a ha _ _ _ hs hfirst
    cases b? with
    | none =>
      cases h
      exact ⟨hs₁, ha⟩
    | some c => exact ih (hb? c rfl) _ _ _ hs₁ h

theorem fold_yields {P : α → Prop} {step : α → Reader (Option α)}
    (hstep : ∀ a, P a → (step a).Yields fun b? => ∀ b ∈ b?, P b) {a : α} (ha : P a) :
    (fold step a).Yields P :=
  fun s => foldUntilNone_yields hstep s.rest.length ha s

/-- A reader of lookups that yields attributes of a literal where no word comes next. -/
def Operand (r : Reader Expr) : Prop :=
  ∀ s e s', Bare s.rest → r s = .ok (e, s') →
    Bare s'.rest ∧ e.Lookup ∧ ((firstToken s.rest).isMark → e.OfLiteral)

theorem Operand.yields {r : Reader Expr} (hr : r.Operand) : r.Yields Expr.Lookup :=
  fun s e s' hs h => ⟨(hr s e s' hs h).1, (hr s e s' hs h).2.1⟩

theorem advance_pure_inv {a b : α} (hs : Bare s.rest)
    (h : (advance >>= fun _ => pure a) s = .ok (b, s')) : Bare s'.rest ∧ b = a := by
  obtain ⟨_, s₁, hadvance, hpure⟩ := bind_ok_inv h
  cases hpure
  exact ⟨bare_advance hs hadvance, rfl⟩

end Reader

open Reader

theorem atom_operand (g : Grammar) : (atom g).Operand := by
  intro s e s' hs h
  have hliteral : ∀ c : Constant, (advance >>= fun _ => pure (Expr.constant c)) s = .ok (e, s') →
      Bare s'.rest ∧ e.Lookup ∧ ((firstToken s.rest).isMark → e.OfLiteral) := by
    intro c hc
    obtain ⟨hs', rfl⟩ := advance_pure_inv hs hc
    exact ⟨hs', .constant c, fun _ => .constant c⟩
  rw [atom, token_bind] at h
  have hnext := hs.next
  cases ht : firstToken s.rest <;> rw [ht] at h hnext hliteral
  case name n =>
    obtain ⟨hs', rfl⟩ := advance_pure_inv hs h
    exact ⟨hs', .name n, nofun⟩
  case keyword k =>
    simp only at h
    split at h
    · exact hliteral _ h
    · split at h
      · exact hliteral _ h
      · split at h
        · exact hliteral _ h
        · exact absurd h unexpected_ne_ok
  case int | float | imaginary => exact hliteral _ h
  case hugeInt => exact absurd h fail_ne_ok
  case op o =>
    simp only at h
    split at h
    · exact hliteral _ h
    · -- no bracket comes next, so there is no display
      rw [displayWith, acceptOp_bare hs (by decide) (by decide), if_neg (by decide),
        acceptOp_bare hs (by decide) (by decide), if_neg (by decide),
        acceptOp_bare hs (by decide) (by decide), if_neg (by decide)] at h
      exact absurd h unexpected_ne_ok
  case string => simp [Token.isWord, Token.isMark] at hnext
  all_goals exact absurd h unexpected_ne_ok

theorem primaryRule_operand (g : Grammar) : (primaryRule g).Operand := by
  intro s e s' hs h
  obtain ⟨a, s₁, hatom, hfold⟩ := bind_ok_inv h
  obtain ⟨hs₁, ha⟩ := atom_operand g s a s₁ hs hatom
  refine fold_yields (P := fun e => e.Lookup ∧ ((firstToken s.rest).isMark → e.OfLiteral)) ?_ ha
    s₁ e s' hs₁ hfold
  rintro a ⟨hlookup, hliteral⟩ u b? u' hu h
  obtain ⟨dot, u₁, hdot, h⟩ := bind_ok_inv h
  have hu₁ := acceptOp_inv hu hdot
  cases dot with
  | true =>
    obtain ⟨n, u₂, hname, hpure⟩ := bind_ok_inv h
    cases hpure
    refine ⟨(name_inv hu₁ hname).2, ?_⟩
    rintro _ ⟨⟩
    exact ⟨.member n hlookup, fun hmark => .member n (hliteral hmark)⟩
  | false =>
    -- neither a call nor an item, since no bracket comes next
    simp only [Bool.false_eq_true, if_false] at h
    rw [acceptOp_bare hu₁ (by decide) (by decide), if_neg (by decide),
      acceptOp_bare hu₁ (by decide) (by decide), if_neg (by decide)] at h
    cases h
    exact ⟨hu₁, nofun⟩

/-- Readers for inner expressions that yield lookups from the lexemes of a path. -/
structure Grammar.LooksUp (g : Grammar) : Prop where
  expression : g.expression.Yields Expr.Lookup
  inversion : g.inversion.Yields Expr.Lookup
  primary : g.primary.Yields Expr.Lookup

section Rules

variable {g : Grammar} (hg : g.LooksUp)
include hg

theorem power_operand : (power g).Operand := by
  intro s e s' hs hrun
  obtain ⟨await, s₁, hawait, h⟩ := bind_ok_inv hrun
  obtain ⟨hs₁, hword, hsame⟩ := acceptKeyword_inv hs hawait
  have hbase : ∀ (base : Expr) (u : Cursor), Bare u.rest →
      (acceptOp "**" >>= fun two => if two then
          g.factor >>= fun e => pure (Expr.binary .pow base e) else pure base) u = .ok (e, s') →
      Bare s'.rest ∧ e = base := by
    intro base u hu h
    rw [acceptOp_bare hu (by decide) (by decide), if_neg (by decide)] at h
    cases h
    exact ⟨hu, rfl⟩
  cases await with
  | true =>
    -- what is awaited does not matter: it is not evaluated
    simp only [if_true] at h
    obtain ⟨base, u, hawaited, h⟩ := bind_ok_inv h
    obtain ⟨a, hprimary, rfl⟩ := map_ok_inv hawaited
    obtain ⟨hs', rfl⟩ := hbase _ u (hg.primary _ _ _ hs₁ hprimary).1 h
    exact ⟨hs', .await a, fun hmark => absurd hmark (Token.not_isMark (hword rfl).1)⟩
  | false =>
    simp only [Bool.false_eq_true, if_false] at h
    obtain ⟨base, u, hprimary, h⟩ := bind_ok_inv h
    rw [hsame rfl] at hprimary
    obtain ⟨hu, hlookup, hliteral⟩ := primaryRule_operand g _ _ _ hs hprimary
    obtain ⟨hs', rfl⟩ := hbase base u hu h
    exact ⟨hs', hlookup, hliteral⟩

theorem factorRule_operand : (factorRule g).Operand := by
  intro s e s' hs hrun
  rw [factorRule, acceptOp_bare hs (by decide) (by decide), if_neg (by decide),
    acceptOp_bare hs (by decide) (by decide), if_neg (by decide),
    acceptOp_bare hs (by decide) (by decide), if_neg (by decide)] at hrun
  exact power_operand hg s e s' hs hrun

end Rules

/-- No operator of a table comes next. -/
theorem leftAssociative_operand {ops : List (String × BinaryOp)} {operand : Reader Expr}
    (hdot : ops.lookup "." = none) (hellipsis : ops.lookup "..." = none)
    (hoperand : operand.Operand) : (leftAssociative ops operand).Operand := by
  intro s e s' hs hrun
  obtain ⟨first, s₁, hfirst, hfold⟩ := bind_ok_inv hrun
  obtain ⟨hs₁, hlookup⟩ := hoperand _ _ _ hs hfirst
  -- behind an operand a bare text has no operator, so that the fold stops at once
  refine fold_yields (P := fun e => e.Lookup ∧ ((firstToken s.rest).isMark → e.OfLiteral)) ?_
    hlookup s₁ e s' hs₁ hfold
  intro a _ u b? u' hu h
  rw [token_bind] at h
  have hnext := hu.next
  cases ht : firstToken u.rest <;> rw [ht] at h hnext
  case op o =>
    have ho : ops.lookup o = none := by
      simp only [Token.isWord, Token.isMark, Bool.false_eq_true, Bool.or_eq_true, beq_iff_eq,
        false_or] at hnext
      rcases hnext with rfl | rfl
      · exact hdot
      · exact hellipsis
    simp only [ho] at h
    cases h
    exact ⟨hu, nofun⟩
  all_goals
    cases h
    exact ⟨hu, nofun⟩

theorem bitwiseRule_operand {g : Grammar} (hg : g.LooksUp) : (bitwiseRule g).Operand :=
  leftAssociative_operand rfl rfl <| leftAssociative_operand rfl rfl <|
    leftAssociative_operand rfl rfl <| leftAssociative_operand rfl rfl <|
      leftAssociative_operand rfl rfl <| leftAssociative_operand rfl rfl <|
        factorRule_operand hg

/-! ## Words between operands -/

/-- Behind a comparison word stands a mark. -/
theorem compareOp?_inv {s s' : Cursor} {op? : Option CompareOp} (hs : Bare s.rest)
    (h : compareOp? s = .ok (op?, s')) :
    Bare s'.rest ∧ (op?.isSome → (firstToken s'.rest).isMark) := by
  have hnext := hs.next
  have hsecond := hs.isMark_second
  have hadvance := fun (u : Cursor) (hword : (firstToken s.rest).isWord)
    (hu : advance s = .ok ((), u)) => And.intro (bare_advance hs hu) (isMark_advance hs hword hu)
  rw [compareOp?, token_bind, secondToken_bind] at h
  generalize firstToken s.rest = t at *
  generalize firstToken (s.rest.drop 1) = t' at *
  split at h
  next o =>
    -- only a dot or an ellipsis, which compare nothing
    have ho : o = "." ∨ o = "..." := by simpa [Token.isWord, Token.isMark] using hnext
    rcases ho with rfl | rfl <;>
    · cases h
      exact ⟨hs, nofun⟩
  next =>
    obtain ⟨_, u, hu, hpure⟩ := bind_ok_inv h
    cases hpure
    obtain ⟨hu', hmark⟩ := hadvance _ rfl hu
    exact ⟨hu', fun _ => hmark⟩
  -- `not in` would be two words side by side
  next => exact absurd (hsecond rfl) (Token.not_isMark rfl)
  next =>
    obtain ⟨_, u, hu, h⟩ := bind_ok_inv h
    obtain ⟨hu', hmark⟩ := hadvance u rfl hu
    have hnot : t'.isKeyword "not" = false := by
      cases t' <;> first | rfl | exact absurd (hsecond rfl) (Token.not_isMark rfl)
    rw [hnot, if_neg Bool.false_ne_true] at h
    cases h
    exact ⟨hu', fun _ => hmark⟩
  next =>
    cases h
    exact ⟨hs, nofun⟩

theorem comparison_yields {g : Grammar} (hg : g.LooksUp) :
    (comparison g).Yields Expr.Lookup := by
  intro s e s' hs hrun
  obtain ⟨first, s₁, hfirst, h⟩ := bind_ok_inv hrun
  obtain ⟨hs₁, hlookup, -⟩ := bitwiseRule_operand hg _ _ _ hs hfirst
  obtain ⟨rest, s₂, hrest, hpure⟩ := bind_ok_inv h
  -- what stands behind a comparison begins with a mark, and therefore is of a literal
  have hmany := many_yields (P := fun x : CompareOp × Expr => x.2.Lookup ∧ x.2.OfLiteral)
    (fun u x? u' hu h => ?_) _ _ _ hs₁ hrest
  · obtain ⟨hs₂, hoperands⟩ := hmany
    cases hpure
    refine ⟨hs₂, ?_⟩
    split
    · exact hlookup
    · exact .compare hlookup (fun x hx => (hoperands x hx).1) fun x hx _ => (hoperands x hx).2
  · obtain ⟨op?, u₁, hop, h⟩ := bind_ok_inv h
    obtain ⟨hu₁, hmark⟩ := compareOp?_inv hu hop
    cases op? with
    | none =>
      cases h
      exact ⟨hu₁, nofun⟩
    | some op =>
      obtain ⟨right, u₂, hright, hpure⟩ := bind_ok_inv h
      cases hpure
      obtain ⟨hu₂, hright, hliteral⟩ := bitwiseRule_operand hg _ _ _ hu₁ hright
      refine ⟨hu₂, ?_⟩
      rintro _ ⟨⟩
      exact ⟨hright, hliteral (hmark rfl)⟩

theorem inversionRule_yields {g : Grammar} (hg : g.LooksUp) :
    (inversionRule g).Yields Expr.Lookup := by
  intro s e s' hs hrun
  obtain ⟨found, s₁, hnot, h⟩ := bind_ok_inv hrun
  obtain ⟨hs₁, -, hsame⟩ := acceptKeyword_inv hs hnot
  cases found with
  | true =>
    obtain ⟨a, s₂, hinner, hpure⟩ := bind_ok_inv h
    cases hpure
    obtain ⟨hs₂, ha⟩ := hg.inversion _ _ _ hs₁ hinner
    exact ⟨hs₂, .not ha⟩
  | false => exact comparison_yields hg _ _ _ hs₁ h

theorem joined_yields {word : String} {build : List Expr → Expr} {operand : Reader Expr}
    (hbuild : ∀ es : List Expr, (∀ e ∈ es, e.Lookup) → (build es).Lookup)
    (hoperand : operand.Yields Expr.Lookup) :
    (joined word build operand).Yields Expr.Lookup := by
  intro s e s' hs hrun
  obtain ⟨first, s₁, hfirst, h⟩ := bind_ok_inv hrun
  obtain ⟨hs₁, hlookup⟩ := hoperand _ _ _ hs hfirst
  obtain ⟨rest, s₂, hrest, hpure⟩ := bind_ok_inv h
  have hmany := many_yields (P := Expr.Lookup) (fun u x? u' hu h => ?_) _ _ _ hs₁ hrest
  · obtain ⟨hs₂, hoperands⟩ := hmany
    cases hpure
    refine ⟨hs₂, ?_⟩
    split
    · exact hlookup
    · exact hbuild _ (List.forall_mem_cons.mpr ⟨hlookup, hoperands⟩)
  · obtain ⟨found, u₁, hword, h⟩ := bind_ok_inv h
    -- another operand follows only behind the word
    obtain ⟨hu₁, -, -⟩ := acceptKeyword_inv hu hword
    cases found with
    | false =>
      cases h
      exact ⟨hu₁, nofun⟩
    | true =>
      obtain ⟨a, u₂, hright, hpure⟩ := bind_ok_inv h
      cases hpure
      obtain ⟨hu₂, ha⟩ := hoperand _ _ _ hu₁ hright
      refine ⟨hu₂, ?_⟩
      rintro _ ⟨⟩
      exact ha

theorem disjunctionRule_yields {g : Grammar} (hg : g.LooksUp) :
    (disjunctionRule g).Yields Expr.Lookup :=
  joined_yields (fun _ => .or) (joined_yields (fun _ => .and) (inversionRule_yields hg))

/-! ## Expressions -/

/-- A parameter starts with a name or an operator. -/
theorem nextParameter_ne_ok {g : Grammar} {s : Cursor} {p : ParameterList × Cursor}
    (hs : Bare s.rest) (hmark : (firstToken s.rest).isMark) :
    nextParameter g false ":" {} s ≠ .ok p := by
  intro h
  obtain ⟨x, u, hpeek, h⟩ := bind_ok_inv h
  cases hpeek
  change (acceptOp "**" >>= _) s = _ at h
  rw [acceptOp_bare hs (by decide) (by decide), if_neg (by decide),
    nextIsOp_bare hs (by decide) (by decide), if_neg (by decide),
    nextIsOp_bare hs (by decide) (by decide), if_neg (by decide)] at h
  obtain ⟨_, _, hparameter, -⟩ := bind_ok_inv h
  obtain ⟨n, _, hname, -⟩ := bind_ok_inv hparameter
  exact Token.not_isMark (name_inv hs hname).1 hmark

/-- A function has a name or an operator behind its keyword. -/
theorem lambdaRule_ne_ok {g : Grammar} {s : Cursor} {p : Expr × Cursor} (hs : Bare s.rest) :
    lambdaRule g s ≠ .ok p := by
  intro h
  obtain ⟨_, s₁, hkeyword, h⟩ := bind_ok_inv h
  obtain ⟨found, u, hfound, hkeyword⟩ := bind_ok_inv hkeyword
  obtain ⟨hu, hword, -⟩ := acceptKeyword_inv hs hfound
  cases found with
  | false => exact unexpected_ne_ok hkeyword
  | true =>
    cases hkeyword
    -- behind the keyword stands a mark, with which no parameter begins
    obtain ⟨ps, s₂, hparameters, -⟩ := bind_ok_inv h
    rw [parameters, nextIsOp_bare hu (by decide) (by decide), if_neg (by decide)] at hparameters
    obtain ⟨first, s₃, hfirst, -⟩ := bind_ok_inv hparameters
    exact nextParameter_ne_ok hu (hword rfl).2 hfirst

/-- A hint is a failure, and otherwise nothing is read. -/
theorem hintMissing_inv {g : Grammar} {start s s' : Cursor}
    (h : hintMissing g start s = .ok ((), s')) : s' = s := by
  obtain ⟨here, u, hget, h⟩ := bind_ok_inv h
  cases hget
  rw [token_bind] at h
  extract_lets excluded rest at h
  have hrest : rest () s = .ok ((), s') → s' = s := by
    intro h
    -- a hint only looks ahead: it fails, or leaves the place as it was
    simp only [rest] at h
    split at h
    · cases h
      rfl
    · obtain ⟨result?, u, hattempt, h⟩ := bind_ok_inv h
      obtain rfl := attempt?_inv hattempt
      split at h
      · split at h
        · obtain ⟨_, _, -, hfail⟩ := bind_ok_inv h
          exact absurd hfail failAt_ne_ok
        · cases h
          rfl
      · cases h
        rfl
  generalize (start.rest.headD _).token = t at h
  generalize (s.rest.length + 1 == start.rest.length) = alone at h
  split at h
  · cases h
    rfl
  · split at h
    · split at h
      · obtain ⟨result?, u, hattempt, h⟩ := bind_ok_inv h
        obtain rfl := attempt?_inv hattempt
        split at h
        · obtain ⟨_, _, hfail, -⟩ := bind_ok_inv h
          exact absurd hfail failAt_ne_ok
        · cases h
          rfl
      · exact hrest h
    · exact hrest h

theorem expressionRule_yields {g : Grammar} (hg : g.LooksUp) :
    (expressionRule g).Yields Expr.Lookup := by
  intro s e s' hs hrun
  rw [expressionRule, nextIsKeyword_bind] at hrun
  split at hrun
  · exact absurd hrun (lambdaRule_ne_ok hs)
  · obtain ⟨start, s₁, hget, h⟩ := bind_ok_inv hrun
    cases hget
    -- the first operand may be all there is, or be followed by a condition
    obtain ⟨yes, s₂, hyes, h⟩ := bind_ok_inv h
    obtain ⟨hs₂, hlookup⟩ := disjunctionRule_yields hg _ _ _ hs hyes
    obtain ⟨found, s₃, hif, h⟩ := bind_ok_inv h
    obtain ⟨hs₃, -, hsame⟩ := acceptKeyword_inv hs₂ hif
    cases found with
    | false =>
      obtain ⟨_, s₄, hhint, hpure⟩ := bind_ok_inv h
      obtain rfl := hintMissing_inv hhint
      cases hpure
      exact ⟨hs₃, hlookup⟩
    | true =>
      obtain ⟨test, s₄, htest, h⟩ := bind_ok_inv h
      obtain ⟨hs₄, htest⟩ := disjunctionRule_yields hg _ _ _ hs₃ htest
      obtain ⟨found, s₅, helse, h⟩ := bind_ok_inv h
      obtain ⟨hs₅, -, -⟩ := acceptKeyword_inv hs₄ helse
      cases found with
      | true =>
        obtain ⟨no, s₆, hno, hpure⟩ := bind_ok_inv h
        cases hpure
        obtain ⟨hs₆, hno⟩ := hg.expression _ _ _ hs₅ hno
        exact ⟨hs₆, .conditional htest hlookup hno⟩
      | false =>
        simp only [Bool.false_eq_true, if_false] at h
        -- without the other branch the condition is a fault
        rw [nextIsOp_bare hs₅ (by decide) (by decide), if_neg (by decide)] at h
        obtain ⟨_, _, hfail, -⟩ := bind_ok_inv h
        exact absurd hfail failAt_ne_ok

/-- Without commas there is one expression. -/
theorem expressions_yields {g : Grammar} (hg : g.LooksUp) :
    (expressions g).Yields Expr.Lookup := by
  intro s e s' hs hrun
  obtain ⟨items, s₁, hitems, hpure⟩ := bind_ok_inv hrun
  cases hpure
  obtain ⟨first, s₂, hfirst, h⟩ := bind_ok_inv hitems
  obtain ⟨hs₂, hlookup⟩ := hg.expression _ _ _ hs hfirst
  obtain ⟨rest, s₃, hrest, h⟩ := bind_ok_inv h
  -- there is no comma, and so there are no further items
  have hmany := many_yields (P := fun _ : Expr => False) (fun u x? u' hu h => ?_) _ _ _ hs₂ hrest
  · obtain ⟨hs₃, hnone⟩ := hmany
    obtain rfl := List.eq_nil_iff_forall_not_mem.mpr hnone
    rw [acceptOp_bare hs₃ (by decide) (by decide)] at h
    cases h
    exact ⟨hs₃, hlookup⟩
  · rw [nextIsOp_bare hu (by decide) (by decide), if_neg (by decide)] at h
    cases h
    exact ⟨hu, nofun⟩

/-- The induction is on the depth to which the readers follow nested expressions. -/
theorem grammar_looksUp (n : Nat) : (grammar n).LooksUp := by
  induction n with
  | zero =>
    have hnone : (unexpected : Reader Expr).Yields Expr.Lookup :=
      fun _ _ _ _ h => absurd h unexpected_ne_ok
    exact ⟨hnone, hnone, hnone⟩
  | succ n ih =>
    exact ⟨expressionRule_yields ih, inversionRule_yields ih,
      (primaryRule_operand (grammar n)).yields⟩

theorem readScan_inv {α : Type} {r : Reader α} {scan : Scan} {a : α}
    (h : readScan r scan = .ok a) : ∃ s', r { rest := scan.lexemes } = .ok (a, s') := by
  unfold readScan at h
  split at h
  next a' s' hr =>
    cases h
    exact ⟨s', hr⟩
  next stop hr =>
    extract_lets own at h
    repeat' split at h
    all_goals cases h

/-- What parses as an expression from the lexemes of a path is a lookup. -/
theorem expression_lookup {t : Text} {e : Expr} (ht : Bare (tokenize (unifyBreaks t)).lexemes)
    (h : Source.expression t = .ok e) : e.Lookup := by
  unfold Source.expression Source.parseWith at h
  split at h
  · cases h
  · extract_lets depth at h
    split at h
    next a hread =>
      cases h
      obtain ⟨s', hrun⟩ := readScan_inv hread
      obtain ⟨a, s₁, ha, hrest⟩ := bind_ok_inv hrun
      obtain ⟨_, s₂, -, hpure⟩ := bind_ok_inv hrest
      cases hpure
      exact (expressions_yields (grammar_looksUp depth) _ _ _ ht ha).2
    next => cases h

end Scratchpad
