import Mathlib.Data.Char
import Mathlib.Data.List.Infix
import SesEmailAdapter.Lib.FixedDigits
import SesEmailAdapter.Processor.IngestService

/-! # Identifiers

An id is its start, the base 58 text of a UUID, and three check characters of the text's SHA-256.
Ids with one start are in the order of their UUIDs. The check does not cover the start: an id is
only told apart from ids that begin differently. -/

namespace SesEmailAdapter.Processor.Identifiers
open Lib.FixedDigits

/-! ## The codec -/

def BASE58_ALPHABET : List Char :=
  "123456789ABCDEFGHJKLMNPQRSTUVWXYZabcdefghijkmnopqrstuvwxyz".toList

theorem BASE58_ALPHABET_eq : BASE58_ALPHABET =
    ['1', '2', '3', '4', '5', '6', '7', '8', '9', 'A', 'B', 'C', 'D', 'E', 'F', 'G', 'H', 'J', 'K',
      'L', 'M', 'N', 'P', 'Q', 'R', 'S', 'T', 'U', 'V', 'W', 'X', 'Y', 'Z', 'a', 'b', 'c', 'd', 'e',
      'f', 'g', 'h', 'i', 'j', 'k', 'm', 'n', 'o', 'p', 'q', 'r', 's', 't', 'u', 'v', 'w', 'x', 'y',
      'z'] := String.toList_ofList

def base58Digit (n : Nat) : Char := BASE58_ALPHABET.getD n '1'

/-- The translator: a UUID as a number, in 22 digits. -/
def fromUUID (uuid : Nat) : String := String.ofList (encode 58 22 base58Digit uuid)

/-- `sha256` gives the digest in hexadecimal digits. -/
def checkCharsFor (sha256 : String → String) (encoded : String) : String :=
  String.ofList (((sha256 encoded).toList.filter fun c => c ∈ BASE58_ALPHABET).take 3)

def generateId (sha256 : String → String) (start : String) (uuid : Nat) : String :=
  start ++ fromUUID uuid ++ checkCharsFor sha256 (fromUUID uuid)

/-- `slice(0, -n)` -/
def sliceBefore (n : Nat) (text : List Char) : List Char := text.take (text.length - n)

/-- `slice(-n)` -/
def sliceLast (n : Nat) (text : List Char) : List Char := text.drop (text.length - n)

def deriveThreadIdFromSignalId (sha256 : String → String) (signalId : String) : String :=
  let encoded := String.ofList (sliceBefore 3 (signalId.toList.drop "sgn-".length))
  "thr-" ++ encoded ++ checkCharsFor sha256 encoded

def validateId (sha256 : String → String) (id start : String) : Bool :=
  if ¬ start.toList <+: id.toList then false
  else
    let body := id.toList.drop start.length
    if body.length ≤ 3 then false
    else
      let encoded := String.ofList (sliceBefore 3 body)
      String.ofList (sliceLast 3 body) = checkCharsFor sha256 encoded

/-- A digest of hexadecimal digits of which three are not zero. -/
def FullDigest (digest : String) : Prop :=
  (∀ c ∈ digest.toList, c ∈ "0123456789abcdef".toList) ∧
    3 ≤ (digest.toList.filter (· ≠ '0')).length

/-- What the ids are relied on for. -/
structure IdentifierCodec (sha256 : String → String) : Prop where
  ordered : ∀ start m n, m < 2 ^ 128 → n < 2 ^ 128 →
    (generateId sha256 start m < generateId sha256 start n ↔ m < n)
  accepted : ∀ start n, FullDigest (sha256 (fromUUID n)) →
    validateId sha256 (generateId sha256 start n) start = true
  rejected : ∀ start other n, ¬ start.toList <+: other.toList → ¬ other.toList <+: start.toList →
    validateId sha256 (generateId sha256 start n) other = false
  derived : ∀ signalId, validateId sha256 signalId "sgn-" = true →
    validateId sha256 (deriveThreadIdFromSignalId sha256 signalId) "thr-" = true
  injective : ∀ signalId signalId', validateId sha256 signalId "sgn-" = true →
    validateId sha256 signalId' "sgn-" = true →
    deriveThreadIdFromSignalId sha256 signalId = deriveThreadIdFromSignalId sha256 signalId' →
    signalId = signalId'

variable {sha256 : String → String}

/-! ## Texts of an id -/

theorem sliceBefore_append {text rest : List Char} {n : Nat} (h : rest.length = n) :
    sliceBefore n (text ++ rest) = text := by
  simp [sliceBefore, ← h]

theorem sliceLast_append {text rest : List Char} {n : Nat} (h : rest.length = n) :
    sliceLast n (text ++ rest) = rest := by
  simp [sliceLast, ← h]

theorem slices (n : Nat) (text : List Char) : sliceBefore n text ++ sliceLast n text = text :=
  List.take_append_drop _ _

/-- An id of some start, some text and its check. -/
def idOf (sha256 : String → String) (start encoded : String) : String :=
  start ++ encoded ++ checkCharsFor sha256 encoded

theorem idOf_toList (start encoded : String) : (idOf sha256 start encoded).toList =
    start.toList ++ (encoded.toList ++ (checkCharsFor sha256 encoded).toList) := by
  simp [idOf]

/-- **Valid ids** are a text with its check behind the start, the check being complete. -/
theorem validateId_iff {id start : String} : validateId sha256 id start = true ↔
    ∃ encoded, id = idOf sha256 start encoded ∧ encoded ≠ "" ∧
      (checkCharsFor sha256 encoded).toList.length = 3 := by
  unfold validateId
  constructor
  · intro h
    split at h
    · cases h
    · next hstart =>
      rw [not_not] at hstart
      obtain ⟨body, hbody⟩ := hstart
      have hdrop : id.toList.drop start.length = body := by
        rw [← hbody, ← String.length_toList, List.drop_left]
      dsimp only at h
      rw [hdrop] at h
      split at h
      · cases h
      · next hlength =>
        have hcheck := of_decide_eq_true h
        refine ⟨String.ofList (sliceBefore 3 body), ?_, ?_, ?_⟩
        · rw [← String.toList_inj, idOf_toList, ← hcheck, ← hbody]
          simp [slices]
        · intro hempty
          have hnil := congrArg String.toList hempty
          simp only [String.toList_ofList, sliceBefore] at hnil
          have htake := congrArg List.length hnil
          simp at htake
          omega
        · rw [← hcheck, String.toList_ofList, sliceLast, List.length_drop]
          omega
  · intro h
    obtain ⟨encoded, rfl, hne, hlength⟩ := h
    have hstart : start.toList <+: (idOf sha256 start encoded).toList := by
      rw [idOf_toList]
      exact List.prefix_append _ _
    have hdrop : (idOf sha256 start encoded).toList.drop start.length =
        encoded.toList ++ (checkCharsFor sha256 encoded).toList := by
      rw [idOf_toList, ← String.length_toList, List.drop_left]
    have hpos : 0 < encoded.toList.length := by
      refine List.length_pos_iff.mpr fun hnil => hne ?_
      rw [← String.toList_inj, hnil]
      rfl
    have hlong : ¬ (encoded.toList ++ (checkCharsFor sha256 encoded).toList).length ≤ 3 := by
      rw [List.length_append]
      omega
    rw [if_neg (not_not.mpr hstart)]
    dsimp only
    rw [hdrop, if_neg hlong, sliceBefore_append hlength, sliceLast_append hlength]
    simp

theorem derive_idOf {encoded : String}
    (hlength : (checkCharsFor sha256 encoded).toList.length = 3) :
    deriveThreadIdFromSignalId sha256 (idOf sha256 "sgn-" encoded) =
      idOf sha256 "thr-" encoded := by
  have hdrop : (idOf sha256 "sgn-" encoded).toList.drop "sgn-".length =
      encoded.toList ++ (checkCharsFor sha256 encoded).toList := by
    rw [idOf_toList, ← String.length_toList, List.drop_left]
  rw [deriveThreadIdFromSignalId, hdrop, sliceBefore_append hlength, String.ofList_toList]
  rfl

/-- The text of an id that begins with a given start is all that it depends on. -/
theorem idOf_inj {start encoded encoded' : String}
    (hlength : (checkCharsFor sha256 encoded).toList.length = 3)
    (hlength' : (checkCharsFor sha256 encoded').toList.length = 3)
    (h : idOf sha256 start encoded = idOf sha256 start encoded') : encoded = encoded' := by
  have htext := congrArg String.toList h
  rw [idOf_toList, idOf_toList, List.append_cancel_left_eq] at htext
  have hbefore := congrArg (sliceBefore 3) htext
  rwa [sliceBefore_append hlength, sliceBefore_append hlength', String.toList_inj] at hbefore

/-! ## Order -/

theorem base58_sorted : Sorted 58 base58Digit := by
  have hpairs : ((List.range 58).all fun j => (List.range j).all fun i =>
      decide (base58Digit i < base58Digit j)) = true := by
    unfold base58Digit
    rw [BASE58_ALPHABET_eq]
    decide +kernel
  intro i j hij hj
  have hrow := List.all_eq_true.mp hpairs j (List.mem_range.mpr hj)
  exact of_decide_eq_true (List.all_eq_true.mp hrow i (List.mem_range.mpr hij))

/-- A UUID fits into 22 digits. -/
theorem uuid_fits {n : Nat} (h : n < 2 ^ 128) : n < 58 ^ 22 := by
  have hwidth : 2 ^ 128 ≤ 58 ^ 22 := by decide +kernel
  exact Nat.lt_of_lt_of_le h hwidth

theorem generateId_lt_iff (start : String) {m n : Nat} (hm : m < 2 ^ 128) (hn : n < 2 ^ 128) :
    generateId sha256 start m < generateId sha256 start n ↔ m < n := by
  have htext (k : Nat) : (generateId sha256 start k).toList = start.toList ++
      (encode 58 22 base58Digit k ++ (checkCharsFor sha256 (fromUUID k)).toList) := by
    simp [generateId, fromUUID]
  rw [String.lt_iff_toList_lt, htext, htext]
  exact encode_lt_iff base58_sorted (uuid_fits hm) (uuid_fits hn) start.toList
    fun k => (checkCharsFor sha256 (fromUUID k)).toList

/-! ## Checks -/

/-- The digits that the check is taken from are those other than zero. -/
theorem hexDigits_base58 : ∀ c ∈ "0123456789abcdef".toList, c ≠ '0' → c ∈ BASE58_ALPHABET := by
  have hall : ("0123456789abcdef".toList.all fun c =>
      decide (c ≠ '0' → c ∈ BASE58_ALPHABET)) = true := by
    rw [BASE58_ALPHABET_eq]
    decide
  intro c hc
  exact of_decide_eq_true (List.all_eq_true.mp hall c hc)

theorem length_check {encoded : String} (h : FullDigest (sha256 encoded)) :
    (checkCharsFor sha256 encoded).toList.length = 3 := by
  obtain ⟨hhex, hthree⟩ := h
  have hsub : ((sha256 encoded).toList.filter (· ≠ '0')).length ≤
      ((sha256 encoded).toList.filter fun c => c ∈ BASE58_ALPHABET).length := by
    rw [← List.countP_eq_length_filter, ← List.countP_eq_length_filter]
    refine List.countP_mono_left fun c hc hne => ?_
    exact decide_eq_true (hexDigits_base58 c (hhex c hc) (of_decide_eq_true hne))
  rw [checkCharsFor, String.toList_ofList, List.length_take]
  omega

theorem fromUUID_ne_empty (n : Nat) : fromUUID n ≠ "" := by
  intro hempty
  have hlength := congrArg (fun text => text.toList.length) hempty
  simp [fromUUID] at hlength

/-- **Identifiers** are ordered like their UUIDs, are told apart from ids that begin differently,
and give the ids of threads. -/
theorem identifierCodec (sha256 : String → String) : IdentifierCodec sha256 where
  ordered start _ _ hm hn := generateId_lt_iff start hm hn
  accepted start n hdigest :=
    validateId_iff.mpr ⟨fromUUID n, rfl, fromUUID_ne_empty n, length_check hdigest⟩
  rejected start other n hstart hother := by
    refine (Bool.not_eq_true _).mp fun hvalid => ?_
    obtain ⟨encoded, hid, -⟩ := validateId_iff.mp hvalid
    have htext : (generateId sha256 start n).toList = start.toList ++
        ((fromUUID n).toList ++ (checkCharsFor sha256 (fromUUID n)).toList) := by
      simp [generateId]
    rw [hid, idOf_toList] at htext
    rcases List.prefix_or_prefix_of_prefix ⟨_, rfl⟩ ⟨_, htext⟩ with hfirst | hsecond
    · exact hstart hfirst
    · exact hother hsecond
  derived signalId hvalid := by
    obtain ⟨encoded, rfl, hne, hlength⟩ := validateId_iff.mp hvalid
    rw [derive_idOf hlength]
    exact validateId_iff.mpr ⟨encoded, rfl, hne, hlength⟩
  injective signalId signalId' hvalid hvalid' hsame := by
    obtain ⟨encoded, rfl, -, hlength⟩ := validateId_iff.mp hvalid
    obtain ⟨encoded', rfl, -, hlength'⟩ := validateId_iff.mp hvalid'
    rw [derive_idOf hlength, derive_idOf hlength'] at hsame
    rw [idOf_inj hlength hlength' hsame]

/-! ## Two digests that begin alike -/

def aUUID : Nat := 2116042293406948380536639548560295493

/-- The SHA-256 of two texts. -/
def someDigests (text : String) : String :=
  if text = "1CQHsBBu5Hs5qxaXdxLZpx" then
    "b4b4e548634574495cca303c53f43b702330031cc38d3ff94a568f94ce0e7710"
  else if text = "sgn-1CQHsBBu5Hs5qxaXdxLZpx" then
    "b4ba75c877d2ed3bf0241efa2c51c95d54d0757d4e16e85ededd3f21056dfab3"
  else ""

theorem fromUUID_aUUID : fromUUID aUUID = "1CQHsBBu5Hs5qxaXdxLZpx" := by
  unfold fromUUID base58Digit
  rw [BASE58_ALPHABET_eq]
  decide +kernel

/-- Both digests begin with the same check. -/
theorem check_someDigests : checkCharsFor someDigests "1CQHsBBu5Hs5qxaXdxLZpx" = "b4b" ∧
    checkCharsFor someDigests "sgn-1CQHsBBu5Hs5qxaXdxLZpx" = "b4b" := by
  have hfirst : someDigests "1CQHsBBu5Hs5qxaXdxLZpx" =
      "b4b4e548634574495cca303c53f43b702330031cc38d3ff94a568f94ce0e7710" := if_pos rfl
  have hne : "sgn-1CQHsBBu5Hs5qxaXdxLZpx" ≠ "1CQHsBBu5Hs5qxaXdxLZpx" := by decide
  have hsecond : someDigests "sgn-1CQHsBBu5Hs5qxaXdxLZpx" =
      "b4ba75c877d2ed3bf0241efa2c51c95d54d0757d4e16e85ededd3f21056dfab3" :=
    (if_neg hne).trans (if_pos rfl)
  have hdigits : "b4b4e548634574495cca303c53f43b702330031cc38d3ff94a568f94ce0e7710".toList = _ :=
    String.toList_ofList
  have hdigits' : "b4ba75c877d2ed3bf0241efa2c51c95d54d0757d4e16e85ededd3f21056dfab3".toList = _ :=
    String.toList_ofList
  constructor
  · rw [checkCharsFor, BASE58_ALPHABET_eq, hfirst, hdigits]
    rfl
  · rw [checkCharsFor, BASE58_ALPHABET_eq, hsecond, hdigits']
    rfl

/-- A digest without other digits than zero leaves no check. -/
def zeroDigest : String := String.ofList (List.replicate 64 '0')

theorem check_zeroDigest (encoded : String) :
    checkCharsFor (fun _ => zeroDigest) encoded = "" := by
  have htext : zeroDigest.toList = List.replicate 64 '0' := String.toList_ofList
  have hzero : '0' ∉ BASE58_ALPHABET := by
    rw [BASE58_ALPHABET_eq]
    decide
  have hnone : (zeroDigest.toList.filter fun c => c ∈ BASE58_ALPHABET) = [] := by
    refine List.filter_eq_nil_iff.mpr fun c hc hmem => ?_
    rw [htext] at hc
    obtain rfl := List.eq_of_mem_replicate hc
    exact hzero (of_decide_eq_true hmem)
  unfold checkCharsFor
  rw [hnone]
  rfl

/-- A signal id is valid with no start at all, and would not be valid with a check that is too
short. -/
theorem aUUID_valid :
    generateId someDigests "sgn-" aUUID = "sgn-1CQHsBBu5Hs5qxaXdxLZpxb4b" ∧
      validateId someDigests (generateId someDigests "sgn-" aUUID) "" = true ∧
      validateId (fun _ => zeroDigest) (generateId (fun _ => zeroDigest) "sgn-" aUUID) "sgn-" =
        false := by
  obtain ⟨hfirst, hsecond⟩ := check_someDigests
  refine ⟨?_, ?_, ?_⟩
  · rw [generateId, fromUUID_aUUID, hfirst]
    decide
  · have hlength := congrArg (fun text => text.toList.length) hsecond
    refine validateId_iff.mpr ⟨"sgn-1CQHsBBu5Hs5qxaXdxLZpx", ?_, by decide, hlength⟩
    rw [generateId, fromUUID_aUUID, hfirst, idOf, hsecond]
    decide
  · refine (Bool.not_eq_true _).mp fun hvalid => ?_
    obtain ⟨encoded, -, -, hlength⟩ := validateId_iff.mp hvalid
    rw [check_zeroDigest] at hlength
    cases hlength

end SesEmailAdapter.Processor.Identifiers
