import SesEmailAdapter.Lib.TextCodec

/-! # Texts of bytes that need not be UTF-8

Bytes are read as UTF-8, with a replacement character for every sequence that is broken off or can
begin no character. -/

namespace SesEmailAdapter.Lib.Utf8Text
open Lib.TextCodec

/-- A character that has been begun: the bytes it still needs, the range of the next one, and the
bits that are there. -/
structure Pending where
  needed : Nat
  low : Nat
  high : Nat
  bits : Nat
deriving DecidableEq, Repr

/-- What a first byte gives, and what it begins. -/
def start (b : Nat) : List Char × Option Pending :=
  if b < 0x80 then ([Char.ofNat b], none)
  else if 0xC2 ≤ b ∧ b ≤ 0xDF then ([], some ⟨1, 0x80, 0xBF, b - 0xC0⟩)
  else if b = 0xE0 then ([], some ⟨2, 0xA0, 0xBF, 0⟩)
  else if b = 0xED then ([], some ⟨2, 0x80, 0x9F, 0xD⟩)
  else if 0xE1 ≤ b ∧ b ≤ 0xEF then ([], some ⟨2, 0x80, 0xBF, b - 0xE0⟩)
  else if b = 0xF0 then ([], some ⟨3, 0x90, 0xBF, 0⟩)
  else if b = 0xF4 then ([], some ⟨3, 0x80, 0x8F, 4⟩)
  else if 0xF1 ≤ b ∧ b ≤ 0xF3 then ([], some ⟨3, 0x80, 0xBF, b - 0xF0⟩)
  else (['\uFFFD'], none)

def decodeFrom : Option Pending → List UInt8 → List Char
  | none, [] => []
  | some _, [] => ['\uFFFD']
  | none, b :: rest => (start b.toNat).1 ++ decodeFrom (start b.toNat).2 rest
  | some p, b :: rest =>
    if p.low ≤ b.toNat ∧ b.toNat ≤ p.high then
      let bits := p.bits * 64 + b.toNat % 64
      if p.needed = 1 then Char.ofNat bits :: decodeFrom none rest
      else decodeFrom (some ⟨p.needed - 1, 0x80, 0xBF, bits⟩) rest
    else '\uFFFD' :: ((start b.toNat).1 ++ decodeFrom (start b.toNat).2 rest)

/-- `toString("utf-8")` -/
def decodeUtf8 (bytes : List UInt8) : String :=
  match ofUtf8Bytes bytes with
  | some text => text
  | none => String.ofList (decodeFrom none bytes)

@[simp] theorem decodeUtf8_utf8Bytes (s : String) : decodeUtf8 (utf8Bytes s) = s := by
  rw [decodeUtf8, ofUtf8Bytes_utf8Bytes]

end SesEmailAdapter.Lib.Utf8Text
