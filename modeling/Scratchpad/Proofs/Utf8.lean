import Mathlib.Data.List.Basic
import Scratchpad.Text.Utf8

/-!
# Decoding is the inverse of encoding

The decoder of UTF-8 takes a character off the front of the bytes, by its first byte and as
many later ones as that announces. It accepts just the bytes that encode some text, and
gives that text. First bytes fall into three ranges by the number of later ones; within a
range one computation goes from bytes to code points and back.

* `leadOf?_two`, `leadOf?_three`, `leadOf?_four`, `leadOf?_inv` — the first bytes;
* `readTail_succ_iff` — the later bytes, one by one;
* `encode_of_read`, `read_of_char` — one character, both ways;
* `decodeUtf8_eq_ok_iff` — whole texts, by induction on the bytes and on the text.
-/

namespace Scratchpad

/-- The bytes of a text. -/
def encodedText (t : Text) : List UInt8 := t.flatMap String.utf8EncodeChar

/-! ## First bytes -/

section Leads

variable {b : UInt8}

/-- The ranges of first bytes, as numbers. -/
theorem leadOf?_eq (b : UInt8) : leadOf? b =
    if 0xC2 ≤ b.toNat ∧ b.toNat ≤ 0xDF then some { bits := b.toNat - 0xC0, more := 1 }
    else if b.toNat = 0xE0 then some { bits := 0, more := 2, low := 0xA0 }
    else if b.toNat = 0xED then some { bits := 0xD, more := 2, high := 0x9F }
    else if 0xE1 ≤ b.toNat ∧ b.toNat ≤ 0xEF then some { bits := b.toNat - 0xE0, more := 2 }
    else if b.toNat = 0xF0 then some { bits := 0, more := 3, low := 0x90 }
    else if 0xF1 ≤ b.toNat ∧ b.toNat ≤ 0xF3 then some { bits := b.toNat - 0xF0, more := 3 }
    else if b.toNat = 0xF4 then some { bits := 4, more := 3, high := 0x8F }
    else none := by
  simp only [leadOf?, Bool.and_eq_true, decide_eq_true_eq, UInt8.le_iff_toNat_le,
    ← UInt8.toNat_inj]
  rfl

theorem leadOf?_two (h : 0xC2 ≤ b.toNat ∧ b.toNat ≤ 0xDF) :
    leadOf? b = some { bits := b.toNat - 0xC0, more := 1 } := by
  rw [leadOf?_eq, if_pos h]

/-- The range of the second of three bytes leaves out what takes fewer bytes, and the
surrogates. -/
theorem leadOf?_three (h : 0xE0 ≤ b.toNat ∧ b.toNat ≤ 0xEF) :
    leadOf? b = some
      { bits := b.toNat - 0xE0
        more := 2
        low := if b.toNat = 0xE0 then 0xA0 else 0x80
        high := if b.toNat = 0xED then 0x9F else 0xBF } := by
  rw [leadOf?_eq, if_neg (by omega)]
  by_cases hlow : b.toNat = 0xE0
  · simp [hlow]
  · by_cases hhigh : b.toNat = 0xED
    · simp [hhigh]
    · rw [if_neg hlow, if_neg hhigh, if_pos (by omega), if_neg hlow, if_neg hhigh]

/-- The range of the second of four bytes leaves out what takes fewer bytes, and what is
beyond Unicode. -/
theorem leadOf?_four (h : 0xF0 ≤ b.toNat ∧ b.toNat ≤ 0xF4) :
    leadOf? b = some
      { bits := b.toNat - 0xF0
        more := 3
        low := if b.toNat = 0xF0 then 0x90 else 0x80
        high := if b.toNat = 0xF4 then 0x8F else 0xBF } := by
  rw [leadOf?_eq, if_neg (by omega), if_neg (by omega), if_neg (by omega), if_neg (by omega)]
  by_cases hlow : b.toNat = 0xF0
  · simp [hlow]
  · by_cases hhigh : b.toNat = 0xF4
    · simp [hhigh]
    · rw [if_neg hlow, if_pos (by omega), if_neg hlow, if_neg hhigh]

/-- There are no other first bytes beyond ASCII. -/
theorem leadOf?_inv {l : Lead} (h : leadOf? b = some l) :
    (0xC2 ≤ b.toNat ∧ b.toNat ≤ 0xDF) ∨ (0xE0 ≤ b.toNat ∧ b.toNat ≤ 0xEF) ∨
      (0xF0 ≤ b.toNat ∧ b.toNat ≤ 0xF4) := by
  by_contra hnone
  rw [leadOf?_eq, if_neg (by omega), if_neg (by omega), if_neg (by omega), if_neg (by omega),
    if_neg (by omega), if_neg (by omega), if_neg (by omega)] at h
  cases h

end Leads

/-! ## Later bytes -/

/-- A later byte is in the range that the byte before leaves, and adds six bits. -/
theorem readTail_succ_iff {bits taken n v : Nat} {low high : UInt8} {bytes : List UInt8} :
    readTail bits taken (n + 1) low high bytes = .ok v ↔
      ∃ b rest, bytes = b :: rest ∧ low.toNat ≤ b.toNat ∧ b.toNat ≤ high.toNat ∧
        readTail (bits * 64 + (b.toNat - 0x80)) (taken + 1) n 0x80 0xBF rest = .ok v := by
  cases bytes with
  | nil => simp [readTail]
  | cons b rest =>
    simp only [readTail, Bool.and_eq_true, decide_eq_true_eq, UInt8.le_iff_toNat_le]
    by_cases h : low.toNat ≤ b.toNat ∧ b.toNat ≤ high.toNat
    · simp [h]
    · rw [if_neg h]
      simp only [reduceCtorEq, List.cons.injEq, false_iff]
      rintro ⟨b', rest', ⟨rfl, rfl⟩, hlow, hhigh, -⟩
      exact h ⟨hlow, hhigh⟩

theorem readTail_zero_iff {bits taken v : Nat} {low high : UInt8} {bytes : List UInt8} :
    readTail bits taken 0 low high bytes = .ok v ↔ bits = v := by
  simp [readTail]

/-! ## One character -/

/-- The bytes of a character, from its code point. -/
theorem utf8EncodeChar_ofNat {v : Nat} (hv : v.isValidChar) :
    String.utf8EncodeChar (Char.ofNat v) =
      if v ≤ 127 then [UInt8.ofNat v]
      else if v ≤ 2047 then [UInt8.ofNat (v / 64 % 32 + 192), UInt8.ofNat (v % 64 + 128)]
      else if v ≤ 65535 then
        [UInt8.ofNat (v / 4096 % 16 + 224), UInt8.ofNat (v / 64 % 64 + 128),
          UInt8.ofNat (v % 64 + 128)]
      else
        [UInt8.ofNat (v / 262144 % 8 + 240), UInt8.ofNat (v / 4096 % 64 + 128),
          UInt8.ofNat (v / 64 % 64 + 128), UInt8.ofNat (v % 64 + 128)] := by
  have hval : (Char.ofNat v).val.toNat = v := by
    rw [Char.ofNat, dif_pos hv]
    rfl
  rw [String.utf8EncodeChar, hval]

theorem byte_ofNat_eq {n : Nat} {b : UInt8} (h : n = b.toNat) : UInt8.ofNat n = b := by
  rw [h, UInt8.ofNat_toNat]

/-- What is read behind a first byte is a character, and its bytes are those read. -/
theorem encode_of_read {b : UInt8} {l : Lead} {bytes : List UInt8} {v : Nat}
    (hl : leadOf? b = some l) (hr : readTail l.bits 1 l.more l.low l.high bytes = .ok v) :
    ∃ tail rest, bytes = tail ++ rest ∧ tail.length = l.more ∧
      String.utf8EncodeChar (Char.ofNat v) = b :: tail := by
  rcases leadOf?_inv hl with h | h | h
  -- by the number of bytes: the bits that the bytes carry are those of the character
  · obtain rfl := Option.some.inj ((leadOf?_two h).symm.trans hl)
    simp only [readTail_succ_iff, readTail_zero_iff, UInt8.reduceToNat] at hr
    obtain ⟨b₁, rest, rfl, hlow, hhigh, rfl⟩ := hr
    refine ⟨[b₁], rest, rfl, rfl, ?_⟩
    rw [utf8EncodeChar_ofNat (by unfold Nat.isValidChar; omega), if_neg (by omega),
      if_pos (by omega), byte_ofNat_eq (b := b) (by omega), byte_ofNat_eq (b := b₁) (by omega)]
  · obtain rfl := Option.some.inj ((leadOf?_three h).symm.trans hl)
    simp only [readTail_succ_iff, readTail_zero_iff, UInt8.reduceToNat,
      apply_ite UInt8.toNat] at hr
    obtain ⟨b₁, -, rfl, hlow, hhigh, b₂, rest, rfl, hlow', hhigh', rfl⟩ := hr
    -- the bounds of the second byte keep out what is shorter and what is no character
    have hfrom : 0x80 ≤ b₁.toNat ∧ (b.toNat = 0xE0 → 0xA0 ≤ b₁.toNat) := by
      split at hlow <;> omega
    have hto : b₁.toNat ≤ 0xBF ∧ (b.toNat = 0xED → b₁.toNat ≤ 0x9F) := by
      split at hhigh <;> omega
    clear hlow hhigh
    refine ⟨[b₁, b₂], rest, rfl, rfl, ?_⟩
    rw [utf8EncodeChar_ofNat (by unfold Nat.isValidChar; omega), if_neg (by omega),
      if_neg (by omega), if_pos (by omega), byte_ofNat_eq (b := b) (by omega),
      byte_ofNat_eq (b := b₁) (by omega), byte_ofNat_eq (b := b₂) (by omega)]
  · obtain rfl := Option.some.inj ((leadOf?_four h).symm.trans hl)
    simp only [readTail_succ_iff, readTail_zero_iff, UInt8.reduceToNat,
      apply_ite UInt8.toNat] at hr
    obtain ⟨b₁, -, rfl, hlow, hhigh, b₂, -, rfl, hlow', hhigh', b₃, rest, rfl, hlow'', hhigh'',
      rfl⟩ := hr
    have hfrom : 0x80 ≤ b₁.toNat ∧ (b.toNat = 0xF0 → 0x90 ≤ b₁.toNat) := by
      split at hlow <;> omega
    have hto : b₁.toNat ≤ 0xBF ∧ (b.toNat = 0xF4 → b₁.toNat ≤ 0x8F) := by
      split at hhigh <;> omega
    clear hlow hhigh
    refine ⟨[b₁, b₂, b₃], rest, rfl, rfl, ?_⟩
    rw [utf8EncodeChar_ofNat (by unfold Nat.isValidChar; omega), if_neg (by omega),
      if_neg (by omega), if_neg (by omega), byte_ofNat_eq (b := b) (by omega),
      byte_ofNat_eq (b := b₁) (by omega), byte_ofNat_eq (b := b₂) (by omega),
      byte_ofNat_eq (b := b₃) (by omega)]

theorem exists_byte {n : Nat} (h : n < 256) : ∃ b : UInt8, UInt8.ofNat n = b ∧ b.toNat = n :=
  ⟨UInt8.ofNat n, rfl, UInt8.toNat_ofNat_of_lt' h⟩

/-- The bytes of a character beyond ASCII are read as its code point. -/
theorem read_of_char {c : Char} (hc : 0x80 ≤ c.toNat) :
    ∃ l b tail, String.utf8EncodeChar c = b :: tail ∧ 0x80 ≤ b.toNat ∧ leadOf? b = some l ∧
      tail.length = l.more ∧
      ∀ rest, readTail l.bits 1 l.more l.low l.high (tail ++ rest) = .ok c.toNat := by
  have hvalid : c.toNat.isValidChar := c.valid
  have hbytes := utf8EncodeChar_ofNat hvalid
  rw [Char.ofNat_toNat, if_neg (by omega)] at hbytes
  unfold Nat.isValidChar at hvalid
  generalize c.toNat = v at hc hvalid hbytes ⊢
  -- the number of bytes that the character takes decides which lead byte it has
  by_cases htwo : v ≤ 2047
  · obtain ⟨b, hb, hnb⟩ := exists_byte (n := v / 64 % 32 + 192) (by omega)
    obtain ⟨b₁, hb₁, hnb₁⟩ := exists_byte (n := v % 64 + 128) (by omega)
    rw [if_pos htwo, hb, hb₁] at hbytes
    refine ⟨_, b, [b₁], hbytes, by omega, leadOf?_two (by omega), rfl, fun rest => ?_⟩
    simp only [readTail_succ_iff, readTail_zero_iff, UInt8.reduceToNat]
    exact ⟨b₁, rest, rfl, by omega, by omega, by omega⟩
  · by_cases hthree : v ≤ 65535
    · obtain ⟨b, hb, hnb⟩ := exists_byte (n := v / 4096 % 16 + 224) (by omega)
      obtain ⟨b₁, hb₁, hnb₁⟩ := exists_byte (n := v / 64 % 64 + 128) (by omega)
      obtain ⟨b₂, hb₂, hnb₂⟩ := exists_byte (n := v % 64 + 128) (by omega)
      rw [if_neg htwo, if_pos hthree, hb, hb₁, hb₂] at hbytes
      refine ⟨_, b, [b₁, b₂], hbytes, by omega, leadOf?_three (by omega), rfl, fun rest => ?_⟩
      simp only [readTail_succ_iff, readTail_zero_iff, UInt8.reduceToNat,
        apply_ite UInt8.toNat]
      refine ⟨b₁, b₂ :: rest, rfl, ?_, ?_, b₂, rest, rfl, by omega, by omega, by omega⟩
      · split <;> omega
      · split <;> omega
    · obtain ⟨b, hb, hnb⟩ := exists_byte (n := v / 262144 % 8 + 240) (by omega)
      obtain ⟨b₁, hb₁, hnb₁⟩ := exists_byte (n := v / 4096 % 64 + 128) (by omega)
      obtain ⟨b₂, hb₂, hnb₂⟩ := exists_byte (n := v / 64 % 64 + 128) (by omega)
      obtain ⟨b₃, hb₃, hnb₃⟩ := exists_byte (n := v % 64 + 128) (by omega)
      rw [if_neg htwo, if_neg hthree, hb, hb₁, hb₂, hb₃] at hbytes
      refine ⟨_, b, [b₁, b₂, b₃], hbytes, by omega, leadOf?_four (by omega), rfl,
        fun rest => ?_⟩
      simp only [readTail_succ_iff, readTail_zero_iff, UInt8.reduceToNat,
        apply_ite UInt8.toNat]
      refine ⟨b₁, b₂ :: b₃ :: rest, rfl, ?_, ?_, b₂, b₃ :: rest, rfl, by omega, by omega, b₃,
        rest, rfl, by omega, by omega, by omega⟩
      · split <;> omega
      · split <;> omega

/-! ## Whole texts -/

/-- Bytes that belong to a character that was read are passed over. -/
theorem decodeFrom_skip (position skip : Nat) (bytes : List UInt8) :
    decodeFrom position skip bytes = decodeFrom (position + skip) 0 (bytes.drop skip) := by
  induction bytes generalizing position skip with
  | nil => simp [decodeFrom]
  | cons b rest ih =>
    cases skip with
    | zero => rfl
    | succ n =>
      rw [decodeFrom, if_pos (Nat.succ_pos n), Nat.add_sub_cancel, ih, List.drop_succ_cons]
      congr 1
      omega

/-- An ASCII character is a byte by itself. -/
theorem decodeFrom_ascii {b : UInt8} (h : b.toNat < 0x80) (position : Nat)
    (rest : List UInt8) : decodeFrom position 0 (b :: rest) =
      (decodeFrom (position + 1) 0 rest).map (Char.ofNat b.toNat :: ·) := by
  rw [decodeFrom, if_neg (Nat.lt_irrefl 0), if_pos (UInt8.lt_iff_toNat_lt.mpr h)]
  cases decodeFrom (position + 1) 0 rest <;> rfl

/-- The bytes of a character give the character. -/
theorem decodeFrom_char (c : Char) (position : Nat) (rest : List UInt8) :
    ∃ position', decodeFrom position 0 (String.utf8EncodeChar c ++ rest) =
      (decodeFrom position' 0 rest).map (c :: ·) := by
  by_cases hc : c.toNat < 0x80
  -- a single byte stands for itself, and any other character for what is read behind its lead
  · have hbytes := utf8EncodeChar_ofNat (v := c.toNat) c.valid
    rw [Char.ofNat_toNat, if_pos (by omega)] at hbytes
    obtain ⟨b, hb, hnb⟩ := exists_byte (n := c.toNat) (by omega)
    refine ⟨position + 1, ?_⟩
    rw [hbytes, hb, List.singleton_append, decodeFrom_ascii (by omega), hnb, Char.ofNat_toNat]
  · obtain ⟨l, b, tail, hbytes, hb, hl, hcount, hread⟩ := read_of_char (c := c) (by omega)
    refine ⟨position + 1 + l.more, ?_⟩
    have hascii : ¬ b < 0x80 := fun h => by
      have := UInt8.lt_iff_toNat_lt.mp h
      simp only [UInt8.reduceToNat] at this
      omega
    rw [hbytes, List.cons_append, decodeFrom, if_neg (Nat.lt_irrefl 0), if_neg hascii, hl]
    simp only [hread, Char.ofNat_toNat]
    rw [decodeFrom_skip, ← hcount, List.drop_left]
    cases decodeFrom (position + 1 + tail.length) 0 rest <;> rfl

theorem decodeFrom_encodedText (t : Text) (position : Nat) :
    decodeFrom position 0 (encodedText t) = .ok t := by
  induction t generalizing position with
  | nil => rfl
  | cons c t ih =>
    obtain ⟨position', hchar⟩ := decodeFrom_char c position (encodedText t)
    rw [encodedText, List.flatMap_cons]
    rw [encodedText] at hchar
    rw [hchar, ← encodedText, ih]
    rfl

/-- A text that was put together from a character and what follows. -/
theorem decoded_cons_inv {c : Char} {r : Except DecodeFault Text} {t : Text}
    (h : (do return c :: (← r) : Except DecodeFault Text) = .ok t) :
    ∃ u, r = .ok u ∧ t = c :: u := by
  cases r with
  | error f => cases h
  | ok u =>
    cases h
    exact ⟨u, rfl, rfl⟩

/-- What is decoded is encoded by the bytes that were not passed over. -/
theorem drop_eq_encodedText {position skip : Nat} {bytes : List UInt8} {t : Text}
    (h : decodeFrom position skip bytes = .ok t) : bytes.drop skip = encodedText t := by
  -- the bytes of a character that was read are skipped one by one
  fun_induction decodeFrom position skip bytes generalizing t with
  | case1 =>
    cases h
    simp [encodedText]
  | case2 position skip b rest hskip ih =>
    obtain ⟨n, rfl⟩ := Nat.exists_eq_add_of_lt hskip
    simpa using ih h
  | case3 position skip b rest hskip hascii ih =>
    obtain ⟨u, hu, rfl⟩ := decoded_cons_inv h
    obtain rfl : skip = 0 := by omega
    have hb : b.toNat < 0x80 := UInt8.lt_iff_toNat_lt.mp hascii
    have hvalid : b.toNat.isValidChar := .inl (by omega)
    rw [List.drop_zero, encodedText, List.flatMap_cons, ← encodedText, ← ih hu,
      utf8EncodeChar_ofNat hvalid, if_pos (by omega), byte_ofNat_eq rfl]
    rfl
  | case4 => cases h
  | case5 => simp at h
  | case6 position skip b rest hskip hascii l hl v hread ih =>
    obtain ⟨u, hu, rfl⟩ := decoded_cons_inv h
    obtain rfl : skip = 0 := by omega
    obtain ⟨tail, more, rfl, hcount, hbytes⟩ := encode_of_read hl hread
    have hmore := ih hu
    rw [← hcount, List.drop_left] at hmore
    rw [List.drop_zero, encodedText, List.flatMap_cons, ← encodedText, ← hmore, hbytes,
      List.cons_append]

/-- The decoder accepts just the bytes that encode a text, and gives that text. -/
theorem decodeUtf8_eq_ok_iff {bytes : List UInt8} {t : Text} :
    decodeUtf8 bytes = .ok t ↔ bytes = encodedText t := by
  constructor
  · exact drop_eq_encodedText
  · rintro rfl
    exact decodeFrom_encodedText t 0

theorem encodedText_injective {t u : Text} (h : encodedText t = encodedText u) : t = u := by
  have hdecode := decodeUtf8_eq_ok_iff.mpr h
  rw [decodeUtf8_eq_ok_iff.mpr rfl] at hdecode
  exact Except.ok.inj hdecode

/-- The decoder refuses just the bytes that encode no text. -/
theorem decodeUtf8_error_iff {bytes : List UInt8} :
    (∃ f, decodeUtf8 bytes = .error f) ↔ ∀ t, bytes ≠ encodedText t := by
  constructor
  · rintro ⟨f, hf⟩ t ht
    rw [decodeUtf8_eq_ok_iff.mpr ht] at hf
    cases hf
  · intro h
    cases hdecode : decodeUtf8 bytes with
    | error f => exact ⟨f, rfl⟩
    | ok t => exact absurd (decodeUtf8_eq_ok_iff.mp hdecode) (h t)

end Scratchpad
