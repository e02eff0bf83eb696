import Mathlib.Data.List.Basic
import Mathlib.Data.List.Lex

/-! # Base64url and flat JSON records

Bytes written as unpadded base64url and read back leniently (characters outside the alphabet are
skipped, bits that do not fill a byte are dropped), and records of strings written as JSON
objects and read back. Both pairs are round trips. -/

namespace SesEmailAdapter.Lib.TextCodec

/-! ## Base64url -/

def alphabet : List Char :=
  "ABCDEFGHIJKLMNOPQRSTUVWXYZabcdefghijklmnopqrstuvwxyz0123456789-_".toList

theorem alphabet_eq : alphabet =
    ['A', 'B', 'C', 'D', 'E', 'F', 'G', 'H', 'I', 'J', 'K', 'L', 'M', 'N', 'O', 'P', 'Q', 'R', 'S',
      'T', 'U', 'V', 'W', 'X', 'Y', 'Z', 'a', 'b', 'c', 'd', 'e', 'f', 'g', 'h', 'i', 'j', 'k', 'l',
      'm', 'n', 'o', 'p', 'q', 'r', 's', 't', 'u', 'v', 'w', 'x', 'y', 'z', '0', '1', '2', '3', '4',
      '5', '6', '7', '8', '9', '-', '_'] := String.toList_ofList

def sextetChar (n : Nat) : Char := alphabet.getD n 'A'

/-- The value of a character; the standard alphabet's two symbols are accepted as well. -/
def charSextet (c : Char) : Option Nat :=
  if c = '+' then some 62
  else if c = '/' then some 63
  else alphabet.findIdx? (· = c)

theorem charSextet_sextetChar : ∀ n < 64, charSextet (sextetChar n) = some n := by
  unfold charSextet sextetChar
  rw [alphabet_eq]
  decide +kernel

/-- What the characters of the alphabet have. -/
theorem forall_sextetChar {P : Char → Prop} (h : ∀ c ∈ alphabet, P c) {n : Nat} (hn : n < 64) :
    P (sextetChar n) := by
  have hlength : alphabet.length = 64 := by
    rw [alphabet_eq]
    rfl
  have hbound : n < alphabet.length := hlength ▸ hn
  rw [sextetChar, ← List.getElem_eq_getD (h := hbound)]
  exact h _ (List.getElem_mem hbound)

def toSextets : List UInt8 → List Nat
  | [] => []
  | [a] => [a.toNat / 4, a.toNat % 4 * 16]
  | [a, b] => [a.toNat / 4, a.toNat % 4 * 16 + b.toNat / 16, b.toNat % 16 * 4]
  | a :: b :: c :: rest =>
    a.toNat / 4 :: (a.toNat % 4 * 16 + b.toNat / 16) :: (b.toNat % 16 * 4 + c.toNat / 64) ::
      c.toNat % 64 :: toSextets rest

def ofSextets : List Nat → List UInt8
  | w :: x :: y :: z :: rest =>
    UInt8.ofNat (w * 4 + x / 16) :: UInt8.ofNat (x % 16 * 16 + y / 4) ::
      UInt8.ofNat (y % 4 * 64 + z) :: ofSextets rest
  | [w, x, y] => [UInt8.ofNat (w * 4 + x / 16), UInt8.ofNat (x % 16 * 16 + y / 4)]
  | [w, x] => [UInt8.ofNat (w * 4 + x / 16)]
  | _ => []

theorem toSextets_lt (bytes : List UInt8) : ∀ n ∈ toSextets bytes, n < 64 := by
  induction bytes using toSextets.induct with
  | case1 => simp [toSextets]
  | case2 a =>
    have := a.toNat_lt
    simp only [toSextets, List.mem_cons, List.not_mem_nil, or_false]
    rintro n (rfl | rfl) <;> omega
  | case3 a b =>
    have := a.toNat_lt
    have := b.toNat_lt
    simp only [toSextets, List.mem_cons, List.not_mem_nil, or_false]
    rintro n (rfl | rfl | rfl) <;> omega
  | case4 a b c rest ih =>
    have := a.toNat_lt
    have := b.toNat_lt
    have := c.toNat_lt
    simp only [toSextets, List.mem_cons]
    rintro n (rfl | rfl | rfl | rfl | hn)
    · omega
    · omega
    · omega
    · omega
    · exact ih n hn

theorem ofNat_eq_of_toNat {a : UInt8} {n : Nat} (h : n = a.toNat) : UInt8.ofNat n = a := by
  rw [h, UInt8.ofNat_toNat]

theorem ofSextets_toSextets (bytes : List UInt8) : ofSextets (toSextets bytes) = bytes := by
  induction bytes using toSextets.induct with
  | case1 => rfl
  | case2 a =>
    simp only [toSextets, ofSextets]
    rw [ofNat_eq_of_toNat (a := a) (by omega)]
  | case3 a b =>
    have := b.toNat_lt
    simp only [toSextets, ofSextets]
    rw [ofNat_eq_of_toNat (a := a) (by omega), ofNat_eq_of_toNat (a := b) (by omega)]
  | case4 a b c rest ih =>
    have := b.toNat_lt
    have := c.toNat_lt
    simp only [toSextets, ofSextets, ih]
    rw [ofNat_eq_of_toNat (a := a) (by omega), ofNat_eq_of_toNat (a := b) (by omega),
      ofNat_eq_of_toNat (a := c) (by omega)]

def encodeBase64url (bytes : List UInt8) : List Char := (toSextets bytes).map sextetChar

def decodeBase64url (text : List Char) : List UInt8 := ofSextets (text.filterMap charSextet)

theorem filterMap_sextetChar {l : List Nat} (h : ∀ n ∈ l, n < 64) :
    (l.map sextetChar).filterMap charSextet = l := by
  induction l with
  | nil => rfl
  | cons n l ih =>
    rw [List.map_cons, List.filterMap_cons_some (charSextet_sextetChar n (h n (by simp))),
      ih fun m hm => h m (List.mem_cons_of_mem n hm)]

theorem decodeBase64url_encode (bytes : List UInt8) :
    decodeBase64url (encodeBase64url bytes) = bytes := by
  rw [decodeBase64url, encodeBase64url, filterMap_sextetChar (toSextets_lt bytes),
    ofSextets_toSextets]

theorem encodeBase64url_triple (a b c : UInt8) (rest : List UInt8) :
    encodeBase64url (a :: b :: c :: rest) =
      encodeBase64url [a, b, c] ++ encodeBase64url rest := by
  simp [encodeBase64url, toSextets]

/-- The sextets fill whole bytes, and the bits left over are zero. -/
def fillsBytes : List Nat → Bool
  | _ :: _ :: _ :: _ :: rest => fillsBytes rest
  | [_, _, y] => y % 4 = 0
  | [_, x] => x % 16 = 0
  | [_] => false
  | [] => true

def utf8Bytes (s : String) : List UInt8 := s.toUTF8.data.toList

def ofUtf8Bytes (bytes : List UInt8) : Option String := String.fromUTF8? ⟨bytes.toArray⟩

theorem ofUtf8Bytes_utf8Bytes (s : String) : ofUtf8Bytes (utf8Bytes s) = some s := by
  have h : (⟨(utf8Bytes s).toArray⟩ : ByteArray) = s.toUTF8 := by
    rw [utf8Bytes, Array.toArray_toList]
  rw [ofUtf8Bytes, h, String.fromUTF8?, dif_pos (by simpa using s.isValidUTF8)]
  rfl

theorem utf8Bytes_append (s t : String) : utf8Bytes (s ++ t) = utf8Bytes s ++ utf8Bytes t := by
  simp [utf8Bytes]

def hexDigit (n : Nat) : Char := "0123456789abcdef".toList.getD n '0'

def hexValue (c : Char) : Option Nat :=
  if '0' ≤ c ∧ c ≤ '9' then some (c.toNat - '0'.toNat)
  else if 'a' ≤ c ∧ c ≤ 'f' then some (c.toNat - 'a'.toNat + 10)
  else if 'A' ≤ c ∧ c ≤ 'F' then some (c.toNat - 'A'.toNat + 10)
  else none

/-- A character inside a JSON string literal. -/
def escape (c : Char) : List Char :=
  if c = '"' then ['\\', '"']
  else if c = '\\' then ['\\', '\\']
  else if c = '\x08' then ['\\', 'b']
  else if c = '\x0c' then ['\\', 'f']
  else if c = '\n' then ['\\', 'n']
  else if c = '\r' then ['\\', 'r']
  else if c = '\t' then ['\\', 't']
  else if c.toNat < 32 then
    ['\\', 'u', '0', '0', hexDigit (c.toNat / 16), hexDigit (c.toNat % 16)]
  else [c]

def quote (s : List Char) : List Char := '"' :: (s.flatMap escape ++ ['"'])

/-- A four-digit escape, refused where it is half of a surrogate pair. -/
def codeUnit (a b c d : Char) : Option Char := do
  let n := (← hexValue a) * 4096 + (← hexValue b) * 256 + (← hexValue c) * 16 + (← hexValue d)
  if n.isValidChar then some (Char.ofNat n) else none

/-- Reads the rest of a string literal up to its closing quote. -/
def readString : List Char → Option (List Char × List Char)
  | [] => none
  | '"' :: rest => some ([], rest)
  | '\\' :: 'u' :: a :: b :: c :: d :: rest => do
    let ch ← codeUnit a b c d
    let (s, rest) ← readString rest
    some (ch :: s, rest)
  | '\\' :: e :: rest => do
    let ch ← match e with
      | '"' => some '"'
      | '\\' => some '\\'
      | '/' => some '/'
      | 'b' => some '\x08'
      | 'f' => some '\x0c'
      | 'n' => some '\n'
      | 'r' => some '\r'
      | 't' => some '\t'
      | _ => none
    let (s, rest) ← readString rest
    some (ch :: s, rest)
  | c :: rest => do
    if c.toNat < 32 ∨ c = '\\' then none
    let (s, rest) ← readString rest
    some (c :: s, rest)

def skipSpace (cs : List Char) : List Char :=
  cs.dropWhile fun c => c = ' ' ∨ c = '\n' ∨ c = '\r' ∨ c = '\t'

/-- One `"name":"value"` member. -/
def readMember (cs : List Char) : Option ((List Char × List Char) × List Char) :=
  match skipSpace cs with
  | '"' :: rest => do
    let (name, rest) ← readString rest
    match skipSpace rest with
    | ':' :: rest =>
      match skipSpace rest with
      | '"' :: rest => do
        let (value, rest) ← readString rest
        some ((name, value), rest)
      | _ => none
    | _ => none
  | _ => none

def readMembers : Nat → List Char → Option (List (List Char × List Char))
  | 0, _ => none
  | fuel + 1, cs => do
    let (member, rest) ← readMember cs
    match skipSpace rest with
    | ',' :: rest => do
      let members ← readMembers fuel rest
      some (member :: members)
    | '}' :: rest => if skipSpace rest = [] then some [member] else none
    | _ => none

def readRecord (cs : List Char) : Option (List (List Char × List Char)) :=
  match skipSpace cs with
  | '{' :: rest =>
    match skipSpace rest with
    | '}' :: rest => if skipSpace rest = [] then some [] else none
    | _ => readMembers rest.length rest
  | _ => none

def writeMember (member : List Char × List Char) : List Char :=
  quote member.1 ++ ':' :: quote member.2

def writeMembers : List (List Char × List Char) → List Char
  | [] => []
  | [member] => writeMember member
  | member :: rest => writeMember member ++ ',' :: writeMembers rest

def writeRecord (members : List (List Char × List Char)) : List Char :=
  '{' :: (writeMembers members ++ ['}'])

end SesEmailAdapter.Lib.TextCodec
