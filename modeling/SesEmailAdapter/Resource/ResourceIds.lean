import SesEmailAdapter.Lib.Utf8Text

/-! # Texts of resource ids

A resource id is a prefix and the base64url of a thread id and a sort key with a colon between
them. It is read leniently: characters outside the alphabet are skipped, bits that fill no byte are
dropped and bytes that are no UTF-8 are replaced, so an accepted text need not be an id. -/

namespace SesEmailAdapter.Resource.ResourceIds
open Lib.TextCodec Lib.Utf8Text

def compoundPrefix : List Char := ['r', 'e', 's', '-', 'c', 'm', 'p', '-']

def singlePrefix : List Char := ['r', 'e', 's', '-']

def encodeResourceId (threadId sk : String) (compound : Bool) : List Char :=
  let idPrefix := if compound then compoundPrefix else singlePrefix
  idPrefix ++ encodeBase64url (utf8Bytes (threadId ++ ":" ++ sk))

structure Decoded where
  threadId : String
  sk : String
  compound : Bool
deriving DecidableEq, Repr

def decodeResourceId (resourceId : List Char) : Option Decoded :=
  let compound := compoundPrefix.isPrefixOf resourceId
  let idPrefix :=
    if compound then some compoundPrefix
    else if singlePrefix.isPrefixOf resourceId then some singlePrefix
    else none
  match idPrefix with
  | none => none
  | some idPrefix =>
    let decoded := (decodeUtf8 (decodeBase64url (resourceId.drop idPrefix.length))).toList
    if ':' ∈ decoded then
      some ⟨String.ofList (decoded.takeWhile (· ≠ ':')),
        String.ofList ((decoded.dropWhile (· ≠ ':')).drop 1), compound⟩
    else none

/-- Nothing in the payload is skipped, dropped or replaced when it is read. -/
def Canonical (payload : List Char) : Prop :=
  (∀ c ∈ payload, c ∈ alphabet) ∧ fillsBytes (payload.filterMap charSextet) = true ∧
    (ofUtf8Bytes (decodeBase64url payload)).isSome = true

/-! ## Splitting at the colon -/

theorem takeWhile_colon {front : List Char} (h : ':' ∉ front) (rest : List Char) :
    (front ++ ':' :: rest).takeWhile (· ≠ ':') = front ∧
      ((front ++ ':' :: rest).dropWhile (· ≠ ':')).drop 1 = rest := by
  have hkeep : ∀ c ∈ front, decide (c ≠ ':') = true := by
    intro c hc
    apply decide_eq_true
    rintro rfl
    exact h hc
  rw [List.takeWhile_append_of_pos hkeep, List.dropWhile_append_of_pos hkeep]
  simp

/-- The prefix of thread ids. -/
def threadPrefix : List Char := ['t', 'h', 'r', '-']

/-- The payload of an id of a single row does not read as the end of the compound prefix. -/
theorem not_compound {threadId : String} (h : threadPrefix <+: threadId.toList) (sk : String) :
    compoundPrefix.isPrefixOf (encodeResourceId threadId sk false) = false := by
  obtain ⟨rest, hrest⟩ := h
  have htext : threadId = "thr" ++ String.ofList ('-' :: rest) := by
    rw [← String.toList_inj, ← hrest, String.toList_append]
    simp [threadPrefix]
  have hbytes : utf8Bytes "thr" = [116, 104, 114] := by decide +kernel
  have hfirst : encodeBase64url [116, 104, 114] = ['d', 'G', 'h', 'y'] := by decide +kernel
  have hpayload : ∃ more, encodeBase64url (utf8Bytes (threadId ++ ":" ++ sk)) =
      ['d', 'G', 'h', 'y'] ++ more := by
    rw [htext, utf8Bytes_append, utf8Bytes_append, utf8Bytes_append, hbytes]
    simp only [List.append_assoc, List.cons_append, List.nil_append]
    rw [encodeBase64url_triple, hfirst]
    exact ⟨_, rfl⟩
  obtain ⟨more, hmore⟩ := hpayload
  unfold encodeResourceId
  rw [hmore]
  rfl

theorem decode_compound {payload : List Char} :
    compoundPrefix.isPrefixOf (compoundPrefix ++ payload) = true :=
  List.isPrefixOf_iff_prefix.mpr (List.prefix_append _ _)

theorem decodeResourceId_eq {idPrefix payload : List Char} {text : String} {compound : Bool}
    (hstart : idPrefix = if compound then compoundPrefix else singlePrefix)
    (hcompound : compoundPrefix.isPrefixOf (idPrefix ++ payload) = compound)
    (htext : decodeUtf8 (decodeBase64url payload) = text) :
    decodeResourceId (idPrefix ++ payload) =
      if ':' ∈ text.toList then
        some ⟨String.ofList (text.toList.takeWhile (· ≠ ':')),
          String.ofList ((text.toList.dropWhile (· ≠ ':')).drop 1), compound⟩
      else none := by
  unfold decodeResourceId
  dsimp only
  rw [hcompound]
  cases compound with
  | true =>
    obtain rfl : idPrefix = compoundPrefix := hstart
    simp [htext]
  | false =>
    obtain rfl : idPrefix = singlePrefix := hstart
    have hsingle : singlePrefix.isPrefixOf (singlePrefix ++ payload) = true :=
      List.isPrefixOf_iff_prefix.mpr (List.prefix_append _ _)
    simp [htext, hsingle]

theorem decode_encode {threadId : String} (hthread : threadPrefix <+: threadId.toList)
    (hcolon : ':' ∉ threadId.toList) (sk : String) (compound : Bool) :
    decodeResourceId (encodeResourceId threadId sk compound) =
      some ⟨threadId, sk, compound⟩ := by
  have hcompound :
      compoundPrefix.isPrefixOf (encodeResourceId threadId sk compound) = compound := by
    cases compound with
    | true => exact decode_compound
    | false => exact not_compound hthread sk
  have htext : (threadId ++ ":" ++ sk).toList = threadId.toList ++ ':' :: sk.toList := by simp
  obtain ⟨hfront, hrest⟩ := takeWhile_colon hcolon sk.toList
  unfold encodeResourceId at hcompound ⊢
  rw [decodeResourceId_eq rfl hcompound
    (by rw [decodeBase64url_encode, decodeUtf8_utf8Bytes]), htext, if_pos (by simp), hfront, hrest,
    String.ofList_toList, String.ofList_toList]

/-! ## Writing an accepted id again -/

end SesEmailAdapter.Resource.ResourceIds
