import Mathlib.Data.List.Basic
import Scratchpad.History

/-!
# Calls on the history log

A log is called in any order: a snippet is recorded, or the entry before or after is asked
for. A call that asks for an entry moves to it and answers it, or finds none and changes
nothing. However the calls came, walking from where they led goes through the entries one
by one: none is skipped, none comes twice, and at either end the walk stands still.

The invariant is that the position lies within the log or right behind it.

* `stands_call`, `stands_callAll` — one call and any number of calls keep the invariant;
* `callAll_older`, `callAll_newer` — walks to either end and beyond it;
* `call_older_newer`, `call_newer_older` — a step and the step back;
* `answered_callAll` — the entry shown is the one answered last;
* `log_walks_in_order` — all of this at every point of every run of calls.
-/

namespace Scratchpad

/-- A call on the log. -/
inductive LogCall where
  | record (snippet : Text)
  | older
  | newer
deriving DecidableEq, Repr

/-- The snippet that a call records. -/
def LogCall.recorded? : LogCall → Option Text
  | .record s => some s
  | _ => none

namespace History

/-- What a step answers, and the log after it. -/
def stepped (h : History) : Option (Text × History) → Option Text × History
  | none => (none, h)
  | some (t, h') => (some t, h')

/-- What a call answers, and the log after it. A record answers nothing. -/
def call (h : History) : LogCall → Option Text × History
  | .record s => (none, h.record s)
  | .older => h.stepped h.prev?
  | .newer => h.stepped h.next?

/-- The answers to calls in order, and the log after them. -/
def callAll (h : History) : List LogCall → List (Option Text) × History
  | [] => ([], h)
  | c :: calls =>
    let rest := (h.call c).2.callAll calls
    ((h.call c).1 :: rest.1, rest.2)

/-- The position is that of an entry, or behind the last one. -/
def Stands (h : History) : Prop := h.pos ≤ h.entries.length

@[simp] theorem callAll_nil (h : History) : h.callAll [] = ([], h) := rfl

@[simp] theorem callAll_cons (h : History) (c : LogCall) (calls : List LogCall) :
    h.callAll (c :: calls) =
      ((h.call c).1 :: ((h.call c).2.callAll calls).1, ((h.call c).2.callAll calls).2) := rfl

/-! ## One call -/

theorem current_eq {h : History} (hlt : h.pos < h.entries.length) :
    h.current = h.entries[h.pos] := by
  simp [current, hlt]

theorem browsing_iff {h : History} : h.browsing = true ↔ h.pos < h.entries.length := by
  simp [browsing]

/-- At the oldest entry there is none before. -/
theorem call_older_zero {h : History} (hpos : h.pos = 0) : h.call .older = (none, h) := by
  simp [call, prev?, stepped, hpos]

/-- Behind another entry a step goes to that entry. -/
theorem call_older_succ {h : History} (hs : h.Stands) {n : Nat} (hpos : h.pos = n + 1) :
    ∃ hn : n < h.entries.length,
      h.call .older = (some h.entries[n], { h with pos := n }) := by
  have hn : n < h.entries.length := by
    unfold Stands at hs
    omega
  refine ⟨hn, ?_⟩
  simp [call, prev?, stepped, current, hpos, hn]

/-- At the newest entry, and behind it, there is none after. -/
theorem call_newer_end {h : History} (hpos : h.entries.length ≤ h.pos + 1) :
    h.call .newer = (none, h) := by
  simp [call, next?, stepped, hpos]

/-- In front of another entry a step goes to that entry. -/
theorem call_newer_lt {h : History} (hpos : h.pos + 1 < h.entries.length) :
    h.call .newer = (some h.entries[h.pos + 1], { h with pos := h.pos + 1 }) := by
  have hnot : ¬ h.entries.length ≤ h.pos + 1 := by omega
  simp [call, next?, stepped, current, hnot, hpos]

/-- What a call can do: a snippet is recorded and none is shown, an entry next to the
position is shown and answered, or nothing happens. -/
theorem call_cases {h : History} (hs : h.Stands) (c : LogCall) :
    (∃ s, c = .record s ∧ h.call c = (none, ofEntries (h.entries ++ [s]))) ∨
    (∃ n, ∃ hn : n < h.entries.length, (n + 1 = h.pos ∨ n = h.pos + 1) ∧
      c.recorded? = none ∧ h.call c = (some h.entries[n], { h with pos := n })) ∨
    (c.recorded? = none ∧ h.call c = (none, h)) := by
  cases c with
  -- a step answers with the entry it comes to, or stays at an end
  | record s => exact .inl ⟨s, rfl, rfl⟩
  | older =>
    right
    cases hpos : h.pos with
    | zero => exact .inr ⟨rfl, call_older_zero hpos⟩
    | succ n =>
      obtain ⟨hn, hcall⟩ := call_older_succ hs hpos
      exact .inl ⟨n, hn, .inl rfl, rfl, hcall⟩
  | newer =>
    right
    rcases Nat.lt_or_ge (h.pos + 1) h.entries.length with hpos | hpos
    · exact .inl ⟨_, hpos, .inr rfl, rfl, call_newer_lt hpos⟩
    · exact .inr ⟨rfl, call_newer_end hpos⟩

/-- A call keeps the position in place and adds to the entries just what it records. -/
theorem stands_call {h : History} (hs : h.Stands) (c : LogCall) :
    (h.call c).2.Stands ∧ (h.call c).2.entries = h.entries ++ c.recorded?.toList := by
  rcases call_cases hs c with ⟨s, rfl, hcall⟩ | ⟨n, hn, -, hrecorded, hcall⟩ | ⟨hrecorded, hcall⟩
  · rw [hcall]
    exact ⟨Nat.le_refl _, rfl⟩
  · rw [hcall, hrecorded]
    exact ⟨Nat.le_of_lt hn, by simp⟩
  · rw [hcall, hrecorded]
    exact ⟨hs, by simp⟩

/-! ## Steps back and forth -/

/-- A step to an older entry and one back lead to where they began, and what the second
answers was shown before. -/
theorem call_older_newer {h h₁ h₂ : History} {a b : Text} (hs : h.Stands)
    (hfirst : h.call .older = (some a, h₁)) (hsecond : h₁.call .newer = (some b, h₂)) :
    h₂ = h ∧ h.browsing = true ∧ b = h.current := by
  obtain ⟨entries, pos⟩ := h
  cases pos with
  | zero =>
    rw [call_older_zero rfl] at hfirst
    cases hfirst
  | succ n =>
    obtain ⟨hn, hcall⟩ := call_older_succ hs rfl
    rw [hcall] at hfirst
    cases hfirst
    -- from behind the last entry no step leads back, so there is an entry at the old position
    rcases Nat.lt_or_ge (n + 1) entries.length with hlt | hge
    · rw [call_newer_lt hlt] at hsecond
      cases hsecond
      exact ⟨rfl, browsing_iff.mpr hlt, (current_eq (h := ⟨entries, n + 1⟩) hlt).symm⟩
    · rw [call_newer_end hge] at hsecond
      cases hsecond

/-- A step to a newer entry and one back lead to where they began. -/
theorem call_newer_older {h h₁ h₂ : History} {a b : Text}
    (hfirst : h.call .newer = (some a, h₁)) (hsecond : h₁.call .older = (some b, h₂)) :
    h₂ = h ∧ h.browsing = true ∧ b = h.current := by
  rcases Nat.lt_or_ge (h.pos + 1) h.entries.length with hpos | hpos
  · rw [call_newer_lt hpos] at hfirst
    cases hfirst
    obtain ⟨hn, hcall⟩ := call_older_succ (h := { h with pos := h.pos + 1 })
      (Nat.le_of_lt hpos) rfl
    rw [hcall] at hsecond
    cases hsecond
    exact ⟨rfl, browsing_iff.mpr hn, (current_eq hn).symm⟩
  · rw [call_newer_end hpos] at hfirst
    cases hfirst

/-! ## Walks -/

/-- A call that changes nothing can be made again and again. -/
theorem callAll_fixed {h : History} {c : LogCall} (hc : h.call c = (none, h)) (k : Nat) :
    h.callAll (List.replicate k c) = (List.replicate k none, h) := by
  induction k with
  | zero => rfl
  | succ k ih => rw [List.replicate_succ, callAll_cons, hc, ih, List.replicate_succ]

/-- A walk to the oldest entry answers the entries before the position, the nearest one
first; steps beyond it answer nothing. -/
theorem callAll_older {h : History} (hs : h.Stands) (k : Nat) :
    h.callAll (List.replicate (h.pos + k) .older) =
      ((h.entries.take h.pos).reverse.map some ++ List.replicate k none, { h with pos := 0 }) := by
  -- on the position: each step answers with the entry before it, until none is left
  obtain ⟨entries, pos⟩ := h
  induction pos with
  | zero =>
    rw [Nat.zero_add, callAll_fixed (call_older_zero rfl)]
    simp
  | succ n ih =>
    obtain ⟨hn, hcall⟩ := call_older_succ hs rfl
    have hrest := ih (Nat.le_of_lt hn)
    have hcount : n + 1 + k = (n + k) + 1 := by omega
    have htake : entries.take (n + 1) = entries.take n ++ [entries[n]] :=
      (List.take_append_getElem hn).symm
    simp only at hcall hrest ⊢
    rw [hcount, List.replicate_succ, callAll_cons, hcall, hrest, htake, List.reverse_concat]
    rfl

/-- A walk to the newest entry answers the entries behind the one shown, the nearest one
first; steps beyond it answer nothing. -/
theorem callAll_newer {h : History} (hlt : h.pos < h.entries.length) (k : Nat) :
    h.callAll (List.replicate (h.entries.length - 1 - h.pos + k) .newer) =
      ((h.entries.drop (h.pos + 1)).map some ++ List.replicate k none,
        { h with pos := h.entries.length - 1 }) := by
  obtain ⟨entries, pos⟩ := h
  simp only at hlt ⊢
  -- the induction is on the number of entries that are left to walk through
  induction hm : entries.length - 1 - pos generalizing pos with
  | zero =>
    have hlast : pos = entries.length - 1 := by omega
    rw [Nat.zero_add, callAll_fixed (call_newer_end (by simp only; omega)),
      List.drop_of_length_le (by omega), ← hlast]
    rfl
  | succ m ih =>
    have hpos : pos + 1 < entries.length := by omega
    have hrest := ih (pos + 1) hpos (by omega)
    have hcall := call_newer_lt (h := ⟨entries, pos⟩) hpos
    have hcount : m + 1 + k = (m + k) + 1 := by omega
    simp only at hcall
    rw [hcount, List.replicate_succ, callAll_cons, hcall, hrest,
      List.drop_eq_getElem_cons hpos]
    rfl

/-! ## Runs of calls -/

/-- Any number of calls keep the position in place and add just what they record. -/
theorem stands_callAll {h : History} (hs : h.Stands) (calls : List LogCall) :
    (h.callAll calls).2.Stands ∧
      (h.callAll calls).2.entries = h.entries ++ calls.filterMap LogCall.recorded? := by
  induction calls generalizing h with
  | nil => exact ⟨hs, by simp⟩
  | cons c calls ih =>
    obtain ⟨hstands, hentries⟩ := stands_call hs c
    obtain ⟨hend, hall⟩ := ih hstands
    refine ⟨hend, ?_⟩
    rw [callAll_cons, hall, hentries, List.append_assoc]
    cases hc : c.recorded? <;> simp [hc]

/-- The entry that was answered last. -/
def lastAnswer (answers : List (Option Text)) : Option Text := (answers.filterMap id).getLast?

theorem lastAnswer_cons (a : Option Text) (answers : List (Option Text)) :
    lastAnswer (a :: answers) = (lastAnswer answers).or a := by
  cases a <;> simp [lastAnswer, List.getLast?_cons]

/-- Whatever is shown was answered: if it is so before some calls, with `last` answered in
front of them, then it is so behind them. -/
theorem answered_callAll {h : History} (hs : h.Stands) {last : Option Text}
    (hlast : h.browsing = true → last = some h.current) (calls : List LogCall) :
    (h.callAll calls).2.browsing = true →
      (lastAnswer (h.callAll calls).1).or last = some (h.callAll calls).2.current := by
  induction calls generalizing h last with
  | nil => simpa [lastAnswer] using hlast
  | cons c calls ih =>
    have hstands := (stands_call hs c).1
    -- after the call the entry shown is its answer, or the one that was shown before it
    have hnext : (h.call c).2.browsing = true →
        (h.call c).1.or last = some (h.call c).2.current := by
      intro hbrowsing
      rcases call_cases hs c with ⟨s, rfl, hcall⟩ | ⟨n, hn, -, -, hcall⟩ | ⟨-, hcall⟩
      · rw [hcall] at hbrowsing
        simp [browsing, ofEntries] at hbrowsing
      · rw [hcall]
        simp [current, hn]
      · rw [hcall] at hbrowsing ⊢
        simpa using hlast hbrowsing
    intro hbrowsing
    have hrest := ih hstands hnext hbrowsing
    rw [callAll_cons, lastAnswer_cons, Option.or_assoc]
    exact hrest

/-- However a log was called, its entries are the first ones and those recorded since, and
from there a walk to older entries answers all entries before the position and a walk to
newer ones all entries behind the one shown, each in order, and then nothing. A step and
the step back cancel out, a record is what the next step back answers, and the entry shown
is the one answered last. -/
theorem log_walks_in_order (entries : List Text) (calls : List LogCall) :
    let h := ((ofEntries entries).callAll calls).2
    h.entries = entries ++ calls.filterMap LogCall.recorded? ∧ h.pos ≤ h.entries.length ∧
    (∀ k, h.callAll (List.replicate (h.pos + k) .older) =
      ((h.entries.take h.pos).reverse.map some ++ List.replicate k none,
        { h with pos := 0 })) ∧
    (h.browsing = true → ∀ k,
      h.callAll (List.replicate (h.entries.length - 1 - h.pos + k) .newer) =
        ((h.entries.drop (h.pos + 1)).map some ++ List.replicate k none,
          { h with pos := h.entries.length - 1 })) ∧
    (∀ first second a b h₁ h₂,
      (first, second) = (.older, .newer) ∨ (first, second) = (.newer, .older) →
      h.call first = (some a, h₁) → h₁.call second = (some b, h₂) →
      h₂ = h ∧ h.browsing = true ∧ b = h.current) ∧
    (∀ s, (h.record s).browsing = false ∧
      (h.record s).call .older = (some s, ⟨h.entries ++ [s], h.entries.length⟩)) ∧
    (h.browsing = true →
      lastAnswer ((ofEntries entries).callAll calls).1 = some h.current) ∧
    (h.browsing = false → h.current = []) := by
  intro h
  have hstart : (ofEntries entries).Stands := Nat.le_refl _
  obtain ⟨hstands, hentries⟩ := stands_callAll hstart calls
  refine ⟨hentries, hstands, callAll_older hstands, ?_, ?_, ?_, ?_, ?_⟩
  · intro hbrowsing
    exact callAll_newer (browsing_iff.mp hbrowsing)
  -- a step and the step back
  · rintro first second a b h₁ h₂ (hsteps | hsteps) hfirst hsecond
    · cases hsteps
      exact call_older_newer hstands hfirst hsecond
    · cases hsteps
      exact call_newer_older hfirst hsecond
  · intro s
    constructor
    · simp [record, ofEntries, browsing]
    · obtain ⟨hn, hcall⟩ := call_older_succ (h := h.record s) (n := h.entries.length)
        (Nat.le_refl _) (by simp [record, ofEntries])
      rw [hcall]
      simp [record, ofEntries]
  · intro hbrowsing
    -- a new log does not browse, so that its missing answer needs no entry
    have hnone : (ofEntries entries).browsing = true → none = some (ofEntries entries).current := by
      simp [browsing, ofEntries]
    simpa using answered_callAll hstart hnone calls hbrowsing
  · intro hidle
    have hend : h.entries.length ≤ h.pos := by simpa [browsing] using hidle
    simp [current, hend]

/-- From the oldest entry of three, the newest one after a record, the walk goes through
the other two and then stands still. -/
theorem log_walks_in_order_sample :
    let h := ((ofEntries [['a'], ['b']]).callAll [.record ['c'], .older, .older, .older]).2
    h.browsing = true ∧
      h.callAll [.newer, .newer, .newer] = ([some ['b'], some ['c'], none], { h with pos := 2 }) := by
  intro h
  have hbrowsing : h.browsing = true := by decide
  obtain ⟨-, -, -, hnewer, -⟩ := log_walks_in_order [['a'], ['b']]
    [.record ['c'], .older, .older, .older]
  exact ⟨hbrowsing, hnewer hbrowsing 1⟩

end History

end Scratchpad
