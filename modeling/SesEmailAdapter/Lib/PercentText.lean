import SesEmailAdapter.Lib.TextCodec

/-! # Percent-encoded texts

A text is written as the bytes of its UTF-8 form, a few safe characters as they are and every
other byte as two hexadecimal digits behind a percent sign. -/

namespace SesEmailAdapter.Lib.PercentText
open Lib.TextCodec

def upperDigit (n : Nat) : Char := if n < 10 then Char.ofNat (48 + n) else Char.ofNat (55 + n)

def upperValue (c : Char) : Nat := if c.toNat < 58 then c.toNat - 48 else c.toNat - 55

def escapeByte (b : UInt8) : List Char :=
  ['%', upperDigit (b.toNat / 16), upperDigit (b.toNat % 16)]

/-- The characters that are written as they are. -/
def isUnreserved (c : Char) : Bool :=
  ['-', '_', '.', '!', '~', '*', '\'', '(', ')'].contains c || (0x30 ≤ c.toNat && c.toNat ≤ 0x39) ||
    (0x41 ≤ c.toNat && c.toNat ≤ 0x5A) || (0x61 ≤ c.toNat && c.toNat ≤ 0x7A)

def encodeChar (c : Char) : List Char :=
  if isUnreserved c then [c] else (String.utf8EncodeChar c).flatMap escapeByte

def encode (text : List Char) : List Char := text.flatMap encodeChar

/-- The bytes that a percent-encoded text stands for. -/
def decodeBytes : List Char → List UInt8
  | '%' :: hi :: lo :: rest =>
    UInt8.ofNat (upperValue hi * 16 + upperValue lo) :: decodeBytes rest
  | c :: rest => UInt8.ofNat c.toNat :: decodeBytes rest
  | [] => []

def decode (text : List Char) : Option String := ofUtf8Bytes (decodeBytes text)

theorem upperValue_upperDigit : ∀ n < 16, upperValue (upperDigit n) = n := by decide

theorem upperDigit_bounds :
    ∀ n < 16, 0x20 ≤ (upperDigit n).toNat ∧ (upperDigit n).toNat < 0x7F := by
  decide

theorem decodeBytes_escapeByte (b : UInt8) (rest : List Char) :
    decodeBytes (escapeByte b ++ rest) = b :: decodeBytes rest := by
  have hb : b.toNat < 256 := b.toNat_lt
  have hhigh := upperValue_upperDigit (b.toNat / 16) (by omega)
  have hlow := upperValue_upperDigit (b.toNat % 16) (by omega)
  have hsum : b.toNat / 16 * 16 + b.toNat % 16 = b.toNat := by omega
  simp [escapeByte, decodeBytes, hhigh, hlow, hsum]

theorem decodeBytes_flatMap_escapeByte (bytes : List UInt8) (rest : List Char) :
    decodeBytes (bytes.flatMap escapeByte ++ rest) = bytes ++ decodeBytes rest := by
  induction bytes with
  | nil => rfl
  | cons b bytes ih =>
    rw [List.flatMap_cons, List.append_assoc, decodeBytes_escapeByte, ih, List.cons_append]

theorem isUnreserved_bounds {c : Char} (h : isUnreserved c = true) :
    0x20 ≤ c.toNat ∧ c.toNat < 0x7F ∧ c ≠ '%' := by
  have hmark : ∀ d ∈ ['-', '_', '.', '!', '~', '*', '\'', '(', ')'],
      0x20 ≤ d.toNat ∧ d.toNat < 0x7F ∧ d ≠ '%' := by simp
  have hpercent : '%'.toNat = 0x25 := rfl
  simp only [isUnreserved, Bool.or_eq_true, Bool.and_eq_true, decide_eq_true_eq] at h
  rcases h with ((h | h) | h) | h
  · exact hmark c (List.contains_iff_mem.mp h)
  · exact ⟨by omega, by omega, fun hc => by rw [hc] at h; omega⟩
  · exact ⟨by omega, by omega, fun hc => by rw [hc] at h; omega⟩
  · exact ⟨by omega, by omega, fun hc => by rw [hc] at h; omega⟩

theorem utf8EncodeChar_of_lt {c : Char} (h : c.toNat < 0x80) :
    String.utf8EncodeChar c = [UInt8.ofNat c.toNat] := by
  have hsize : c.utf8Size = 1 := Char.utf8Size_eq_one_iff.mpr (UInt32.le_iff_toNat_le.mpr (by
    change c.toNat ≤ 127
    omega))
  rw [String.utf8EncodeChar_eq_singleton hsize]
  rfl

theorem decodeBytes_encodeChar (c : Char) (rest : List Char) :
    decodeBytes (encodeChar c ++ rest) = String.utf8EncodeChar c ++ decodeBytes rest := by
  unfold encodeChar
  split
  · next hsafe =>
    obtain ⟨-, hlt, hne⟩ := isUnreserved_bounds hsafe
    rw [utf8EncodeChar_of_lt (by omega)]
    simp only [List.cons_append, List.nil_append]
    rw [decodeBytes]
    exact fun _ _ _ hc _ => hne hc
  · exact decodeBytes_flatMap_escapeByte _ _

theorem utf8Bytes_ofList (text : List Char) :
    utf8Bytes (String.ofList text) = text.flatMap String.utf8EncodeChar := by
  simp [utf8Bytes, List.utf8Encode]

theorem decodeBytes_encode (text : List Char) :
    decodeBytes (encode text) = utf8Bytes (String.ofList text) := by
  rw [utf8Bytes_ofList]
  induction text with
  | nil => rfl
  | cons c text ih =>
    rw [encode, List.flatMap_cons, decodeBytes_encodeChar, List.flatMap_cons, ← encode, ih]

/-- An encoded text is decoded to itself. -/
theorem decode_encode (text : List Char) : decode (encode text) = some (String.ofList text) := by
  rw [decode, decodeBytes_encode, ofUtf8Bytes_utf8Bytes]

/-! ## Texts with escapes

`decodeURIComponent` takes any text: what is no escape stands for itself. -/

def componentBytes : List Char → Option (List UInt8)
  | [] => some []
  | '%' :: hi :: lo :: rest => do
    let high ← hexValue hi
    let low ← hexValue lo
    return UInt8.ofNat (high * 16 + low) :: (← componentBytes rest)
  | c :: rest =>
    if c = '%' then none else (componentBytes rest).map (String.utf8EncodeChar c ++ ·)

/-- A malformed escape, or one of bytes that are no UTF-8, throws. -/
def decodeURIComponent (text : String) : Option String :=
  (componentBytes text.toList).bind ofUtf8Bytes

theorem componentBytes_plain {text : List Char} (h : '%' ∉ text) :
    componentBytes text = some (text.flatMap String.utf8EncodeChar) := by
  induction text with
  | nil => rfl
  | cons c text ih =>
    rw [List.mem_cons, not_or] at h
    rw [componentBytes, if_neg (Ne.symm h.1), ih h.2]
    · rfl
    · exact fun _ _ _ hc _ => h.1 hc.symm

theorem decodeURIComponent_plain {text : String} (h : '%' ∉ text.toList) :
    decodeURIComponent text = some text := by
  rw [decodeURIComponent, componentBytes_plain h, Option.bind_some, ← utf8Bytes_ofList,
    ofUtf8Bytes_utf8Bytes, String.ofList_toList]

theorem escapeByte_printable (b : UInt8) :
    ∀ c ∈ escapeByte b, 0x20 ≤ c.toNat ∧ c.toNat < 0x7F := by
  have hb : b.toNat < 256 := b.toNat_lt
  have hhigh := upperDigit_bounds (b.toNat / 16) (by omega)
  have hlow := upperDigit_bounds (b.toNat % 16) (by omega)
  simp only [escapeByte, List.forall_mem_cons, List.not_mem_nil, false_implies, implies_true,
    and_true]
  exact ⟨by decide, hhigh, hlow⟩

/-- An encoded text is printable ASCII. -/
theorem encode_printable (text : List Char) :
    ∀ c ∈ encode text, 0x20 ≤ c.toNat ∧ c.toNat < 0x7F := by
  intro c hc
  obtain ⟨d, -, hd⟩ := List.mem_flatMap.mp hc
  unfold encodeChar at hd
  split at hd
  · next hsafe =>
    obtain rfl := List.mem_singleton.mp hd
    obtain ⟨hlow, hhigh, -⟩ := isUnreserved_bounds hsafe
    exact ⟨hlow, hhigh⟩
  · obtain ⟨b, -, hb⟩ := List.mem_flatMap.mp hd
    exact escapeByte_printable b c hb

end SesEmailAdapter.Lib.PercentText
