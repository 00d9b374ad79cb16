/-
  Stylesheet.Proofs.Utf8
  ──────────────────────
  **UTF-8 IS READ BACK.**

  What is written as bytes is read back as the same characters.  A character
  takes one byte, or a lead byte and up to three more of six bits each.  The
  lead byte narrows the range of the second one; that a character keeps to
  that range is what rules out overlong forms, surrogates and numbers past
  the last character.

  Main statements:
    * `decodeFrom_lead`, `decodeFrom_more`, `decodeFrom_last` — one byte;
    * `decodeFrom_utf8EncodeChar` — one character;
    * `decode_encode` — a text.
-/
import Stylesheet.Text.Utf8

namespace Stylesheet.Text.Utf8

/-! ## §1. One byte. -/

section Bytes

variable {offset start bits : Nat} {byte : UInt8} {rest : List UInt8}

/-- A byte that is a character. -/
theorem decodeFrom_single (h : lead? byte.toNat = some (bits, [])) :
    decodeFrom offset none (byte :: rest)
      = (Char.ofNat bits :: ·) <$> decodeFrom (offset + 1) none rest := by
  rw [decodeFrom, h]

/-- A lead byte. -/
theorem decodeFrom_lead {next : Nat × Nat} {more : Pending}
    (h : lead? byte.toNat = some (bits, next :: more)) :
    decodeFrom offset none (byte :: rest)
      = decodeFrom (offset + 1) (some ⟨offset, bits, next :: more⟩) rest := by
  rw [decodeFrom, h]

/-- A continuation byte with others to follow. -/
theorem decodeFrom_more {low high : Nat} {next : Nat × Nat} {more : Pending}
    (hlow : low ≤ byte.toNat) (hhigh : byte.toNat ≤ high) :
    decodeFrom offset (some ⟨start, bits, (low, high) :: next :: more⟩) (byte :: rest)
      = decodeFrom (offset + 1) (some ⟨start, bits * 64 + (byte.toNat - 0x80), next :: more⟩)
          rest := by
  rw [decodeFrom, if_pos ⟨hlow, hhigh⟩]
  rfl

/-- The last byte of a sequence. -/
theorem decodeFrom_last {low high : Nat} (hlow : low ≤ byte.toNat) (hhigh : byte.toNat ≤ high) :
    decodeFrom offset (some ⟨start, bits, [(low, high)]⟩) (byte :: rest)
      = (Char.ofNat (bits * 64 + (byte.toNat - 0x80)) :: ·)
          <$> decodeFrom (offset + 1) none rest := by
  rw [decodeFrom, if_pos ⟨hlow, hhigh⟩]
  rfl

end Bytes

/-! ## §2. Lead bytes. -/

theorem lead?_one {v : Nat} (h : v ≤ 0x7f) : lead? v = some (v, []) := by
  unfold lead?
  rw [if_pos (by omega)]

theorem lead?_two {v : Nat} (hlow : 0x7f < v) (hhigh : v ≤ 0x7ff) :
    lead? (v / 64 + 0xc0) = some (v / 64, [(0x80, 0xbf)]) := by
  unfold lead?
  rw [if_neg (by omega), if_neg (by omega), if_pos (by omega), Nat.add_sub_cancel]

/-- The second byte of three is in the range that the first calls for. -/
theorem lead?_three {v : Nat} (hlow : 0x7ff < v) (hhigh : v ≤ 0xffff)
    (hvalid : v < 0xd800 ∨ 0xdfff < v) :
    ∃ low high, lead? (v / 4096 + 0xe0) = some (v / 4096, [(low, high), (0x80, 0xbf)])
      ∧ low ≤ v / 64 % 64 + 0x80 ∧ v / 64 % 64 + 0x80 ≤ high := by
  unfold lead?
  rw [if_neg (by omega), if_neg (by omega), if_neg (by omega)]
  by_cases first : v / 4096 = 0
  · refine ⟨0xa0, 0xbf, ?_, by omega, by omega⟩
    rw [first]
    rfl
  · rw [if_neg (by omega)]
    by_cases surrogates : v / 4096 = 0xd
    · refine ⟨0x80, 0x9f, ?_, by omega, by omega⟩
      rw [surrogates]
      rfl
    · refine ⟨0x80, 0xbf, ?_, by omega, by omega⟩
      rw [if_neg (by omega), if_pos (by omega), Nat.add_sub_cancel]

/-- The second byte of four is in the range that the first calls for. -/
theorem lead?_four {v : Nat} (hlow : 0xffff < v) (hhigh : v < 0x110000) :
    ∃ low high, lead? (v / 262144 + 0xf0)
        = some (v / 262144, [(low, high), (0x80, 0xbf), (0x80, 0xbf)])
      ∧ low ≤ v / 4096 % 64 + 0x80 ∧ v / 4096 % 64 + 0x80 ≤ high := by
  unfold lead?
  rw [if_neg (by omega), if_neg (by omega), if_neg (by omega), if_neg (by omega),
    if_neg (by omega), if_neg (by omega)]
  by_cases first : v / 262144 = 0
  · refine ⟨0x90, 0xbf, ?_, by omega, by omega⟩
    rw [first]
    rfl
  · rw [if_neg (by omega)]
    by_cases last : v / 262144 = 4
    · refine ⟨0x80, 0x8f, ?_, by omega, by omega⟩
      rw [last]
      rfl
    · refine ⟨0x80, 0xbf, ?_, by omega, by omega⟩
      rw [if_pos (by omega), Nat.add_sub_cancel]

/-! ## §3. Sequences of two and more bytes. -/

theorem toNat_ofNat_of_lt {n : Nat} (h : n < 256) : (UInt8.ofNat n).toNat = n := by
  rw [UInt8.toNat_ofNat', Nat.mod_eq_of_lt h]

/-- The byte of the last six bits of a number. -/
def lastSix (n : Nat) : UInt8 :=
  UInt8.ofNat (n % 64 + 0x80)

theorem toNat_lastSix (n : Nat) : (lastSix n).toNat = n % 64 + 0x80 :=
  toNat_ofNat_of_lt (by omega)

theorem lastSix_range (n : Nat) : 0x80 ≤ (lastSix n).toNat ∧ (lastSix n).toNat ≤ 0xbf := by
  rw [toNat_lastSix]
  omega

section Sequences

variable (offset : Nat) (rest : List UInt8) {v : Nat}

theorem decodeFrom_two (hlow : 0x7f < v) (hhigh : v ≤ 0x7ff) :
    decodeFrom offset none (UInt8.ofNat (v / 64 + 0xc0) :: lastSix v :: rest)
      = (Char.ofNat v :: ·) <$> decodeFrom (offset + 2) none rest := by
  have lead : (UInt8.ofNat (v / 64 + 0xc0)).toNat = v / 64 + 0xc0 :=
    toNat_ofNat_of_lt (by omega)
  have bits : v / 64 * 64 + (v % 64 + 0x80 - 0x80) = v := by omega
  rw [decodeFrom_lead (by rw [lead]; exact lead?_two hlow hhigh),
    decodeFrom_last (lastSix_range v).1 (lastSix_range v).2, toNat_lastSix, bits]

theorem decodeFrom_three (hlow : 0x7ff < v) (hhigh : v ≤ 0xffff)
    (hvalid : v < 0xd800 ∨ 0xdfff < v) :
    decodeFrom offset none (UInt8.ofNat (v / 4096 + 0xe0) :: lastSix (v / 64) :: lastSix v :: rest)
      = (Char.ofNat v :: ·) <$> decodeFrom (offset + 3) none rest := by
  have lead : (UInt8.ofNat (v / 4096 + 0xe0)).toNat = v / 4096 + 0xe0 :=
    toNat_ofNat_of_lt (by omega)
  obtain ⟨low, high, hlead, hl, hh⟩ := lead?_three hlow hhigh hvalid
  have bits : (v / 4096 * 64 + (v / 64 % 64 + 0x80 - 0x80)) * 64 + (v % 64 + 0x80 - 0x80) = v := by
    omega
  rw [← toNat_lastSix] at hl hh
  rw [decodeFrom_lead (by rw [lead]; exact hlead), decodeFrom_more hl hh,
    decodeFrom_last (lastSix_range v).1 (lastSix_range v).2, toNat_lastSix, toNat_lastSix, bits]

theorem decodeFrom_four (hlow : 0xffff < v) (hhigh : v < 0x110000) :
    decodeFrom offset none
        (UInt8.ofNat (v / 262144 + 0xf0) :: lastSix (v / 4096) :: lastSix (v / 64) :: lastSix v
          :: rest)
      = (Char.ofNat v :: ·) <$> decodeFrom (offset + 4) none rest := by
  have lead : (UInt8.ofNat (v / 262144 + 0xf0)).toNat = v / 262144 + 0xf0 :=
    toNat_ofNat_of_lt (by omega)
  obtain ⟨low, high, hlead, hl, hh⟩ := lead?_four hlow hhigh
  have bits : ((v / 262144 * 64 + (v / 4096 % 64 + 0x80 - 0x80)) * 64
      + (v / 64 % 64 + 0x80 - 0x80)) * 64 + (v % 64 + 0x80 - 0x80) = v := by
    omega
  rw [← toNat_lastSix] at hl hh
  rw [decodeFrom_lead (by rw [lead]; exact hlead), decodeFrom_more hl hh,
    decodeFrom_more (lastSix_range (v / 64)).1 (lastSix_range (v / 64)).2,
    decodeFrom_last (lastSix_range v).1 (lastSix_range v).2, toNat_lastSix, toNat_lastSix,
    toNat_lastSix, bits]

end Sequences

/-! ## §4. Characters and texts. -/

/-- A character is no surrogate and not past the last character. -/
theorem toNat_valid (c : Char) : c.toNat < 0xd800 ∨ 0xdfff < c.toNat ∧ c.toNat < 0x110000 :=
  c.valid

/-- **A character is read back.** -/
theorem decodeFrom_utf8EncodeChar (offset : Nat) (c : Char) (rest : List UInt8) :
    ∃ offset', decodeFrom offset none (String.utf8EncodeChar c ++ rest)
      = (c :: ·) <$> decodeFrom offset' none rest := by
  have same : Char.ofNat c.toNat = c := Char.ofNat_toNat c
  have valid := toNat_valid c
  have bytes : String.utf8EncodeChar c =
      if c.toNat ≤ 0x7f then [UInt8.ofNat c.toNat]
      else if c.toNat ≤ 0x7ff then [UInt8.ofNat (c.toNat / 64 % 0x20 + 0xc0), lastSix c.toNat]
      else if c.toNat ≤ 0xffff then
        [UInt8.ofNat (c.toNat / 4096 % 0x10 + 0xe0), lastSix (c.toNat / 64), lastSix c.toNat]
      else
        [UInt8.ofNat (c.toNat / 262144 % 0x08 + 0xf0), lastSix (c.toNat / 4096),
          lastSix (c.toNat / 64), lastSix c.toNat] := rfl
  rw [bytes]
  split
  · next h =>
      refine ⟨offset + 1, ?_⟩
      have lead : (UInt8.ofNat c.toNat).toNat = c.toNat := toNat_ofNat_of_lt (by omega)
      rw [List.cons_append, List.nil_append,
        decodeFrom_single (by rw [lead]; exact lead?_one h), same]
  · split
    · next h =>
        refine ⟨offset + 2, ?_⟩
        rw [Nat.mod_eq_of_lt (by omega)]
        exact (decodeFrom_two offset rest (by omega) h).trans (by rw [same])
    · split
      · next h =>
          refine ⟨offset + 3, ?_⟩
          rw [Nat.mod_eq_of_lt (by omega)]
          exact (decodeFrom_three offset rest (by omega) h (by omega)).trans (by rw [same])
      · next h =>
          refine ⟨offset + 4, ?_⟩
          rw [Nat.mod_eq_of_lt (by omega)]
          exact (decodeFrom_four offset rest (by omega) (by omega)).trans (by rw [same])

/-- **A text is read back.** -/
theorem decode_encode (s : List Char) : decode (encode s) = .ok s := by
  have from_any : ∀ offset, decodeFrom offset none (encode s) = .ok s := by
    induction s with
    | nil => intro offset; rfl
    | cons c rest ih =>
        intro offset
        obtain ⟨offset', step⟩ := decodeFrom_utf8EncodeChar offset c (encode rest)
        show decodeFrom offset none (String.utf8EncodeChar c ++ encode rest) = _
        rw [step, ih offset']
        rfl
  exact from_any 0

end Stylesheet.Text.Utf8
