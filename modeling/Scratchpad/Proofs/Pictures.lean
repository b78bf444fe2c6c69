import Mathlib.Data.List.Basic
import Scratchpad.Console.Print

/-!
# Texts that pictures leave alone

Printing puts pictures in the place of short codes. A text stays as it is exactly if none
of the codes found in it has a picture. One direction is plain: a code without a picture
is printed as it was written. For the other, a picture must not begin like the code that
it replaces. This is a property of the table: no entry begins with a colon, nor with a
character that printing would take out again.

* `splitText_eq_splitOn` — pieces between single characters;
* `entriesBegin_pictureTables` — how the entries of the table begin;
* `picture?_leads` — how a picture begins;
* `withPictures_eq_self`, `exists_lead_of_picture` — what becomes of a text.
-/

namespace Scratchpad

/-! ## Pieces between single characters -/

/-- The pieces of a text; there is a first one. -/
theorem exists_splitOn_cons (s : Char) (t : Text) :
    ∃ piece more, t.splitOn s = piece :: more :=
  List.exists_cons_of_ne_nil (List.splitOn_ne_nil s t)

theorem splitOn_cons_self (s : Char) (t : Text) : (s :: t).splitOn s = [] :: t.splitOn s := by
  simp [List.splitOn_cons_eq_if_modifyHead]

theorem splitOn_cons_ne {s c : Char} (hc : c ≠ s) {t piece : Text} {more : List Text}
    (h : t.splitOn s = piece :: more) : (c :: t).splitOn s = (c :: piece) :: more := by
  simp [List.splitOn_cons_eq_if_modifyHead, hc, h]

theorem splitText_go_eq {s : Char} {t piece : Text} {more : List Text}
    (h : t.splitOn s = piece :: more) {limit : Nat} (hlimit : t.length ≤ limit) (read : Text) :
    splitText.go [s] 0 limit read t = (read.reverse ++ piece) :: more := by
  -- on the text; `read` holds what was read of the current piece, last character first
  induction t generalizing limit read piece more with
  | nil =>
    rw [List.splitOn_nil] at h
    cases h
    simp [splitText.go]
  | cons c rest ih =>
    obtain ⟨next, others, hrest⟩ := exists_splitOn_cons s rest
    rw [List.length_cons] at hlimit
    by_cases hc : c = s
    · subst hc
      rw [splitOn_cons_self] at h
      cases h
      have hgo := ih hrest (Nat.le_sub_one_of_lt hlimit) []
      simp [splitText.go, show 0 < limit by omega, hgo, hrest]
    · rw [splitOn_cons_ne hc hrest] at h
      cases h
      have hgo := ih hrest (Nat.le_of_succ_le hlimit) (c :: read)
      simp [splitText.go, Ne.symm hc, hgo]

/-- A text is cut at every occurrence of a character. -/
theorem splitText_eq_splitOn (s : Char) (t : Text) :
    splitText [s] t.length t = t.splitOn s := by
  obtain ⟨piece, more, h⟩ := exists_splitOn_cons s t
  rw [splitText, splitText_go_eq h (Nat.le_refl _), h]
  rfl

namespace Console

/-! ## How an entry begins -/

/-- A character that can stand where a picture begins: it is printed, and not as
spaces, and it does not begin a code. -/
def Leads (c : Char) : Prop := c ≠ ':' ∧ c ≠ '\t' ∧ isSilent c = false

/-- An entry begins with a code point of two digits or more that is no colon's. -/
def beginsEntry : Text → Bool
  | c :: d :: _ =>
    match digitValue? 16 c, digitValue? 16 d with
    | some v, some v' => 0 < v && v * 16 + v' != ':'.toNat
    | _, _ => false
  | _ => false

/-- Something that begins an entry stands behind every space. -/
def entriesBegin : Text → Bool
  | [] => true
  | c :: rest => (c != ' ' || beginsEntry rest) && entriesBegin rest

theorem beginsEntry_inv {t : Text} (h : beginsEntry t = true) :
    ∃ c d rest v v', t = c :: d :: rest ∧ digitValue? 16 c = some v ∧
      digitValue? 16 d = some v' ∧ 0 < v ∧ v * 16 + v' ≠ ':'.toNat := by
  unfold beginsEntry at h
  split at h
  next c d rest =>
    split at h
    next v v' hc hd =>
      simp only [Bool.and_eq_true, decide_eq_true_eq, bne_iff_ne] at h
      exact ⟨c, d, rest, v, v', rfl, hc, hd, h⟩
    next => cases h
  next => cases h

/-- Separators are no digits, so an entry is cut behind its first two characters. -/
theorem beginsEntry_piece {s : Char} (hs : digitValue? 16 s = none) {t piece : Text}
    {more : List Text} (h : beginsEntry t = true) (hsplit : t.splitOn s = piece :: more) :
    beginsEntry piece = true := by
  obtain ⟨c, d, rest, v, v', rfl, hc, hd, hv⟩ := beginsEntry_inv h
  have hcs : c ≠ s := by
    rintro rfl
    rw [hs] at hc
    -- the two digits are not separated, so both are in the first piece
    cases hc
  have hds : d ≠ s := by
    rintro rfl
    rw [hs] at hd
    cases hd
  obtain ⟨first, others, hfirst⟩ := exists_splitOn_cons s rest
  rw [splitOn_cons_ne hcs (splitOn_cons_ne hds hfirst)] at hsplit
  cases hsplit
  simpa [beginsEntry, hc, hd] using hv

theorem beginsEntry_of_mem_tail {t piece e : Text} {more : List Text}
    (h : entriesBegin t = true) (hsplit : t.splitOn ' ' = piece :: more) (he : e ∈ more) :
    beginsEntry e = true := by
  induction t generalizing piece more with
  | nil =>
    rw [List.splitOn_nil] at hsplit
    cases hsplit
    cases he
  | cons c rest ih =>
    obtain ⟨hc, hrest⟩ : (c = ' ' → beginsEntry rest = true) ∧ entriesBegin rest = true := by
      simpa [entriesBegin, or_iff_not_imp_left] using h
    obtain ⟨next, others, hnext⟩ := exists_splitOn_cons ' ' rest
    by_cases hblank : c = ' '
    -- a blank begins the next entry, and any other character belongs to the current one
    · rw [hblank, splitOn_cons_self, hnext] at hsplit
      cases hsplit
      rcases List.mem_cons.mp he with rfl | he
      · exact beginsEntry_piece (by decide +kernel) (hc hblank) hnext
      · exact ih hrest hnext he
    · rw [splitOn_cons_ne hblank hnext] at hsplit
      cases hsplit
      exact ih hrest hnext he

/-- The entries of a line begin as they should. -/
theorem beginsEntry_of_mem_splitOn {t e : Text} (h : entriesBegin (' ' :: t) = true)
    (he : e ∈ t.splitOn ' ') : beginsEntry e = true :=
  beginsEntry_of_mem_tail h (splitOn_cons_self ' ' t) he

/-! ## How a picture begins -/

theorem le_foldl_digits (base : Nat) (digits : List Nat) {n : Nat} (hbase : 0 < base) :
    n ≤ digits.foldl (fun n d => n * base + d) n := by
  induction digits generalizing n with
  | nil => exact Nat.le_refl n
  | cons d rest ih =>
    calc n ≤ n * base := Nat.le_mul_of_pos_right n hbase
      _ ≤ n * base + d := Nat.le_add_right ..
      _ ≤ _ := ih

/-- A character code that a hexadecimal number with these first digits can stand for. -/
theorem ofDigits_begins {v v' : Nat} (more : List Nat) (hv : 0 < v)
    (hcolon : v * 16 + v' ≠ ':'.toNat) :
    16 ≤ ofDigits 16 (v :: v' :: more) ∧ ofDigits 16 (v :: v' :: more) ≠ ':'.toNat := by
  have hcode : ':'.toNat = 58 := rfl
  rw [hcode] at hcolon ⊢
  cases more with
  | nil =>
    simp only [ofDigits, List.foldl_cons, List.foldl_nil]
    omega
  | cons d rest =>
    have hle := le_foldl_digits 16 rest (n := ((0 * 16 + v) * 16 + v') * 16 + d) (by decide)
    simp only [ofDigits, List.foldl_cons]
    omega

theorem leads_ofNat {n : Nat} (h : n = 0 ∨ 16 ≤ n ∧ n ≠ ':'.toNat) : Leads (Char.ofNat n) := by
  -- a number that is no character stands for the null character
  have hcode : (Char.ofNat n).toNat = n ∨ (Char.ofNat n).toNat = 0 := by
    by_cases hn : n.isValidChar
    · left
      rw [Char.ofNat, dif_pos hn]
      rfl
    · right
      rw [Char.ofNat, dif_neg hn]
      rfl
  have hne : ∀ c : Char, c.toNat ≠ 0 → (c.toNat < 16 ∨ c.toNat = ':'.toNat) →
      Char.ofNat n ≠ c := by
    rintro c hpos hc rfl
    omega
  refine ⟨hne ':' (by decide) (by decide), hne '\t' (by decide) (by decide), ?_⟩
  simp only [isSilent, Bool.or_eq_false_iff, beq_eq_false_iff_ne]
  refine ⟨⟨⟨⟨?_, ?_⟩, ?_⟩, ?_⟩, ?_⟩ <;> exact hne _ (by decide) (by decide)

theorem digitValues?_begins {c d : Char} {v v' : Nat} (rest : Text)
    (hc : digitValue? 16 c = some v) (hd : digitValue? 16 d = some v') {digits : List Nat}
    (h : digitValues? 16 (c :: d :: rest) = some digits) : ∃ more, digits = v :: v' :: more := by
  have hunder : digitValue? 16 '_' = none := by decide +kernel
  -- the underscores that are passed over are no digits
  have hcu : c ≠ '_' := by
    rintro rfl
    rw [hunder] at hc
    cases hc
  have hdu : d ≠ '_' := by
    rintro rfl
    rw [hunder] at hd
    cases hd
  simp only [digitValues?, hc, hd, Option.bind_eq_bind, Option.bind_some] at h
  cases hrest : digitValues? 16 rest with
  | none => simp [hrest] at h
  | some more => exact ⟨more, by simpa [hrest] using h.symm⟩

/-- A code point that begins an entry is that of a character a picture can begin with. -/
theorem leads_charOfHex {t : Text} (h : beginsEntry t = true ∨ t = []) : Leads (charOfHex t) := by
  rcases h with h | rfl
  · obtain ⟨c, d, rest, v, v', rfl, hc, hd, hpos, hcolon⟩ := beginsEntry_inv h
    refine leads_ofNat ?_
    cases hdigits : digitValues? 16 (c :: d :: rest) with
    | none => exact Or.inl rfl
    | some digits =>
      obtain ⟨more, rfl⟩ := digitValues?_begins rest hc hd hdigits
      exact Or.inr (ofDigits_begins more hpos hcolon)
  · exact leads_ofNat (Or.inl rfl)

theorem findText_cons_ne {s c : Char} (hc : c ≠ s) (t : Text) :
    findText [s] (c :: t) = (findText [s] t).map (· + 1) := by
  simp [findText, Ne.symm hc]

/-- The code points of an entry begin as the entry does, or there are none. -/
theorem beginsEntry_codes {e : Text} (h : beginsEntry e = true) :
    beginsEntry ((cutText ['='] e).getD ([], [])).1 = true ∨
      ((cutText ['='] e).getD ([], [])).1 = [] := by
  obtain ⟨c, d, rest, v, v', rfl, hc, hd, hv⟩ := beginsEntry_inv h
  have hequals : digitValue? 16 '=' = none := by decide +kernel
  -- two digits come first, and the sign is no digit
  have hce : c ≠ '=' := by
    rintro rfl
    rw [hequals] at hc
    cases hc
  have hde : d ≠ '=' := by
    rintro rfl
    rw [hequals] at hd
    cases hd
  rw [cutText, findText_cons_ne hce, findText_cons_ne hde]
  cases findText ['='] rest with
  | none => exact Or.inr rfl
  | some i =>
    left
    simpa [beginsEntry, hc, hd] using hv

theorem ofEntry_leads {e : Text} (h : beginsEntry e = true) :
    ∃ c rest, (Picture.ofEntry e).text = c :: rest ∧ Leads c := by
  have htext : (Picture.ofEntry e).text =
      ((((cutText ['='] e).getD ([], [])).1).splitOn '-').map charOfHex := by
    rw [← splitText_eq_splitOn]
    rfl
  have hcodes := beginsEntry_codes h
  rw [htext]
  generalize ((cutText ['='] e).getD ([], [])).1 = codes at hcodes
  obtain ⟨piece, more, hsplit⟩ := exists_splitOn_cons '-' codes
  rw [hsplit]
  refine ⟨_, _, rfl, leads_charOfHex ?_⟩
  rcases hcodes with hcodes | rfl
  -- an entry without codes has the null character for its picture
  · exact Or.inl (beginsEntry_piece (by decide +kernel) hcodes hsplit)
  · rw [List.splitOn_nil] at hsplit
    cases hsplit
    exact Or.inr rfl

theorem toned_head (tone c : Char) (rest : Text) : ∃ more, toned tone (c :: rest) = c :: more := by
  cases rest with
  | nil => exact ⟨_, rfl⟩
  | cons d rest =>
    rw [toned]
    split <;> exact ⟨_, rfl⟩

/-- Whatever name a picture goes by, it begins the same way. -/
theorem find?_head {p : Picture} {c : Char} {rest name t : Text} (hp : p.text = c :: rest)
    (h : p.find? name = some t) : ∃ more, t = c :: more := by
  obtain ⟨⟨n, further⟩, -, hn⟩ := List.exists_of_findSome?_eq_some h
  simp only at hn
  split at hn
  next =>
    cases hn
    exact ⟨rest, hp⟩
  next =>
    split at hn
    next =>
      -- a variant only adds to the picture behind its first character
      obtain ⟨front, behind, heq, -⟩ := List.lookup_eq_some_iff.mp hn
      have hmem : (name, t) ∈ p.variants n := by simp [heq]
      rw [Picture.variants] at hmem
      split at hmem
      next =>
        rw [List.mem_singleton] at hmem
        cases hmem
        exact ⟨rest, hp⟩
      next =>
        obtain ⟨⟨_, tone⟩, -, hvariant⟩ := List.mem_map.mp hmem
        cases hvariant
        rw [hp]
        exact toned_head tone c rest
    next => cases hn

/-! ## The table -/

/-- All entries of some lines of the table begin as they should. -/
def EntriesBegin (table : List String) : Prop :=
  ∀ line ∈ table, entriesBegin (' ' :: line.toList) = true

theorem entriesBegin_nil : EntriesBegin [] := nofun

theorem entriesBegin_cons {line : Text} {more : List String}
    (h : entriesBegin (' ' :: line) = true) (hmore : EntriesBegin more) :
    EntriesBegin (String.ofList line :: more) := by
  intro l hl
  rcases List.mem_cons.mp hl with rfl | hl
  · rwa [String.toList_ofList]
  · exact hmore l hl

theorem entriesBegin_append {xs ys : List String} (hx : EntriesBegin xs) (hy : EntriesBegin ys) :
    EntriesBegin (xs ++ ys) :=
  fun l hl => (List.mem_append.mp hl).elim (hx l) (hy l)

theorem entriesBegin_pictureTables : EntriesBegin pictureTables := by
  unfold pictureTables picturesA picturesB picturesC picturesD picturesE picturesF picturesG
  refine entriesBegin_append (entriesBegin_append (entriesBegin_append (entriesBegin_append
    (entriesBegin_append (entriesBegin_append ?_ ?_) ?_) ?_) ?_) ?_) ?_
  all_goals
    -- the kernel is slow to compute the characters of a literal, so that each line is
    -- taken by itself and unified with a text
    repeat (with_reducible refine entriesBegin_cons (by decide +kernel) ?_)
    exact entriesBegin_nil

/-- A picture begins with a character that is printed and is no colon. -/
theorem picture?_leads {name p : Text} (h : picture? name = some p) :
    ∃ c rest, p = c :: rest ∧ Leads c := by
  unfold picture? at h
  split at h
  next => cases h
  next =>
    obtain ⟨line, hline, hentries⟩ := List.exists_of_findSome?_eq_some h
    obtain ⟨entry, hentry, hfind⟩ := List.exists_of_findSome?_eq_some hentries
    rw [splitText_eq_splitOn] at hentry
    have hbegins := beginsEntry_of_mem_splitOn (entriesBegin_pictureTables line hline) hentry
    obtain ⟨c, rest, htext, hc⟩ := ofEntry_leads hbegins
    obtain ⟨more, rfl⟩ := find?_head htext hfind
    exact ⟨c, more, rfl, hc⟩

/-! ## Codes in a text -/

/-- The short codes that are found in a text, from the left; those with a picture as well as
those without. `skip` characters belong to a code that was found. -/
def codesFrom (skip : Nat) : Text → List Code
  | [] => []
  | c :: rest =>
    if skip > 0 then codesFrom (skip - 1) rest
    else if c = ':' then
      match readCode [] rest with
      | some k => k :: codesFrom k.written.length rest
      | none => codesFrom 0 rest
    else codesFrom 0 rest

/-- The short codes of a text. -/
def codes (t : Text) : List Code := codesFrom 0 t

/-- A short code that stands for nothing. -/
def Code.Unknown (k : Code) : Prop := picture? (lowerText k.name) = none

/-! The scan that finds the codes and the one that replaces them take the same steps. -/

section Scan

variable {c : Char} {rest : Text} {k : Code} {skip : Nat}

theorem scan_skip (c : Char) (rest : Text) (skip : Nat) :
    codesFrom (skip + 1) (c :: rest) = codesFrom skip rest ∧
      picturesFrom (skip + 1) (c :: rest) = picturesFrom skip rest :=
  ⟨rfl, rfl⟩

theorem scan_code (h : readCode [] rest = some k) :
    codesFrom 0 (':' :: rest) = k :: codesFrom k.written.length rest ∧
      picturesFrom 0 (':' :: rest) = k.text ++ picturesFrom k.written.length rest := by
  simp [codesFrom, picturesFrom, h]

theorem scan_other (h : c = ':' → readCode [] rest = none) :
    codesFrom 0 (c :: rest) = codesFrom 0 rest ∧
      picturesFrom 0 (c :: rest) = c :: picturesFrom 0 rest := by
  by_cases hc : c = ':'
  · simp [codesFrom, picturesFrom, hc, h hc]
  · simp [codesFrom, picturesFrom, hc]

/-- At every character a code begins or none does. -/
theorem scan_cases (c : Char) (rest : Text) :
    (∃ k, c = ':' ∧ readCode [] rest = some k) ∨ (c = ':' → readCode [] rest = none) := by
  cases h : readCode [] rest with
  | none => exact Or.inr fun _ => rfl
  | some k =>
    by_cases hc : c = ':'
    · exact Or.inl ⟨k, hc, rfl⟩
    · exact Or.inr fun h => absurd h hc

end Scan

/-- A code is read off the text that it stands in. -/
theorem written_readCode {name t : Text} {k : Code} (h : readCode name t = some k) :
    ∃ w, k.written = name.reverse ++ w ∧ w <+: t := by
  induction t generalizing name with
  | nil => cases h
  | cons c rest ih =>
    rw [readCode] at h
    split at h
    -- a code ends with one of its forms, or with a colon, or its name goes on
    next s form hfind =>
      cases h
      have hprefix := List.find?_some hfind
      exact ⟨s, rfl, List.isPrefixOf_iff_prefix.mp hprefix⟩
    next =>
      split at h
      next hc =>
        cases h
        exact ⟨[':'], rfl, by simp [hc]⟩
      next =>
        split at h
        next => cases h
        next =>
          obtain ⟨w, hwritten, hw⟩ := ih h
          exact ⟨c :: w, by simp [hwritten], by simpa using hw⟩

theorem exists_behind_code {t : Text} {k : Code} (h : readCode [] t = some k) :
    ∃ behind, t = k.written ++ behind := by
  obtain ⟨w, hwritten, behind, hw⟩ := written_readCode h
  exact ⟨behind, by rw [← hw, hwritten]; rfl⟩

/-- A code that stands for nothing is printed as it was written. -/
theorem Code.Unknown.text {k : Code} (h : k.Unknown) : k.text = ':' :: k.written := by
  rw [Code.text, show picture? (lowerText k.name) = none from h]

theorem picturesFrom_eq_drop {skip : Nat} {t : Text} (h : ∀ k ∈ codesFrom skip t, k.Unknown) :
    picturesFrom skip t = t.drop skip := by
  induction t generalizing skip with
  | nil => simp [picturesFrom]
  | cons c rest ih =>
    cases skip with
    | succ skip =>
      -- characters of a code that was read are skipped, and then either a code begins or none
      obtain ⟨hcodes, hpictures⟩ := scan_skip c rest skip
      rw [hcodes] at h
      rw [hpictures, ih h, List.drop_succ_cons]
    | zero =>
      rcases scan_cases c rest with ⟨k, rfl, hk⟩ | hnone
      · obtain ⟨hcodes, hpictures⟩ := scan_code hk
        rw [hcodes] at h
        obtain ⟨hunknown, hlater⟩ := List.forall_mem_cons.mp h
        obtain ⟨behind, rfl⟩ := exists_behind_code hk
        rw [hpictures, ih hlater, hunknown.text]
        simp
      · obtain ⟨hcodes, hpictures⟩ := scan_other hnone
        rw [hcodes] at h
        rw [hpictures, ih h]
        rfl

/-- A text without a code that stands for something is left alone. -/
theorem withPictures_eq_self {t : Text} (h : ∀ k ∈ codes t, k.Unknown) : withPictures t = t :=
  picturesFrom_eq_drop h

theorem exists_lead {skip : Nat} {t : Text} {k : Code} (hk : k ∈ codesFrom skip t)
    (hpicture : ¬ k.Unknown) :
    ∃ u v c s, t.drop skip = u ++ ':' :: v ∧ picturesFrom skip t = u ++ c :: s ∧ Leads c := by
  induction t generalizing skip with
  | nil => cases hk
  | cons d rest ih =>
    cases skip with
    | succ skip =>
      obtain ⟨hcodes, hpictures⟩ := scan_skip d rest skip
      rw [hcodes] at hk
      rw [hpictures, List.drop_succ_cons]
      exact ih hk
    | zero =>
      rcases scan_cases d rest with ⟨first, rfl, hfirst⟩ | hnone
      · obtain ⟨hcodes, hpictures⟩ := scan_code hfirst
        rw [hcodes] at hk
        rw [hpictures]
        cases hp : picture? (lowerText first.name) with
        | some p =>
          obtain ⟨c, more, rfl, hc⟩ := picture?_leads hp
          exact ⟨[], rest, c, more ++ first.form ++ picturesFrom first.written.length rest, rfl,
            by simp [Code.text, hp], hc⟩
        | none =>
          -- the code is printed as it is, and the one with a picture comes behind it
          have hunknown : first.Unknown := hp
          have hlater : k ∈ codesFrom first.written.length rest := by
            rcases List.mem_cons.mp hk with rfl | hk
            · exact absurd hunknown hpicture
            · exact hk
          obtain ⟨u, v, c, s, hdrop, hrest, hc⟩ := ih hlater
          obtain ⟨behind, rfl⟩ := exists_behind_code hfirst
          rw [List.drop_left] at hdrop
          exact ⟨':' :: first.written ++ u, v, c, s, by simp [hdrop],
            by simp [hrest, hunknown.text], hc⟩
      · obtain ⟨hcodes, hpictures⟩ := scan_other hnone
        rw [hcodes] at hk
        obtain ⟨u, v, c, s, hdrop, hrest, hc⟩ := ih hk
        rw [List.drop_zero] at hdrop
        exact ⟨d :: u, v, c, s, by simp [hdrop], by simp [hpictures, hrest], hc⟩

/-- Where the first code with a picture stood, the printed text goes on differently. -/
theorem exists_lead_of_picture {t : Text} {k : Code} (hk : k ∈ codes t) (hpicture : ¬ k.Unknown) :
    ∃ u v c s, t = u ++ ':' :: v ∧ withPictures t = u ++ c :: s ∧ Leads c :=
  exists_lead hk hpicture

end Console

end Scratchpad
