/-
  Stylesheet.Text.Utf8
  ────────────────────
  **UTF-8, WITH THE PLACE AND KIND OF A MISTAKE.**

  Bytes are read one by one.  A lead byte says how many continuation bytes
  follow and narrows the range of the first of them, so that overlong
  forms, surrogates and numbers past the last character are refused at
  their second byte.  A mistake is reported at the lead byte of the
  sequence that it spoils.
-/

namespace Stylesheet.Text.Utf8

/-! ## §1. Mistakes. -/

/-- What is wrong with a sequence of bytes. -/
inductive Mistake where
  /-- A byte that begins no sequence. -/
  | startByte
  /-- A byte that does not continue the sequence begun before it. -/
  | continuationByte
  /-- The bytes end within a sequence. -/
  | endOfData
  deriving Repr, DecidableEq

/-- The wording of a mistake. -/
def Mistake.message : Mistake → String
  | .startByte => "invalid start byte"
  | .continuationByte => "invalid continuation byte"
  | .endOfData => "unexpected end of data"

/-- A mistake and the offset of the sequence that it spoils. -/
structure DecodeError where
  /-- The offset of the first byte of the sequence. -/
  offset : Nat
  /-- What is wrong. -/
  mistake : Mistake
  deriving Repr, DecidableEq

/-! ## §2. Reading. -/

/-- The continuation bytes that a sequence still needs: their ranges. -/
abbrev Pending := List (Nat × Nat)

/-- The high bits that a lead byte contributes and the continuation bytes
that it calls for. -/
def lead? (byte : Nat) : Option (Nat × Pending) :=
  let any := (0x80, 0xbf)
  if byte < 0x80 then some (byte, [])
  else if byte < 0xc2 then none
  else if byte < 0xe0 then some (byte - 0xc0, [any])
  else if byte = 0xe0 then some (0, [(0xa0, 0xbf), any])
  else if byte = 0xed then some (0xd, [(0x80, 0x9f), any])
  else if byte < 0xf0 then some (byte - 0xe0, [any, any])
  else if byte = 0xf0 then some (0, [(0x90, 0xbf), any, any])
  else if byte < 0xf4 then some (byte - 0xf0, [any, any, any])
  else if byte = 0xf4 then some (4, [(0x80, 0x8f), any, any])
  else none

/-- A sequence that is under way. -/
structure Sequence where
  /-- The offset of its lead byte. -/
  start : Nat
  /-- The bits collected so far. -/
  bits : Nat
  /-- The continuation bytes still to come. -/
  pending : Pending

/-- Read the bytes from an offset on, behind an unfinished sequence or
between two sequences. -/
def decodeFrom (offset : Nat) : Option Sequence → List UInt8 → Except DecodeError (List Char)
  | none, [] => .ok []
  | some sequence, [] => .error ⟨sequence.start, .endOfData⟩
  | none, byte :: rest =>
      match lead? byte.toNat with
      | none => .error ⟨offset, .startByte⟩
      | some (bits, []) => (Char.ofNat bits :: ·) <$> decodeFrom (offset + 1) none rest
      | some (bits, pending) => decodeFrom (offset + 1) (some ⟨offset, bits, pending⟩) rest
  | some ⟨start, bits, pending⟩, byte :: rest =>
      match pending with
      | [] => .error ⟨start, .continuationByte⟩
      | (low, high) :: more =>
          if low ≤ byte.toNat ∧ byte.toNat ≤ high then
            let bits := bits * 64 + (byte.toNat - 0x80)
            if more.isEmpty then (Char.ofNat bits :: ·) <$> decodeFrom (offset + 1) none rest
            else decodeFrom (offset + 1) (some ⟨start, bits, more⟩) rest
          else .error ⟨start, .continuationByte⟩

/-- The text that bytes stand for. -/
def decode (bytes : List UInt8) : Except DecodeError (List Char) :=
  decodeFrom 0 none bytes

/-! ## §3. Writing. -/

/-- The bytes of a text. -/
def encode (s : List Char) : List UInt8 :=
  s.flatMap String.utf8EncodeChar

end Stylesheet.Text.Utf8
