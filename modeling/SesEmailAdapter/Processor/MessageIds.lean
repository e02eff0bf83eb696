import SesEmailAdapter.Database.ReplyLookup
import SesEmailAdapter.Processor.BounceDeliveries
import SesEmailAdapter.Processor.IncomingEmail

/-! # Message ids

A mail is stored under its Message-ID, and a reply to it is placed by the id that its In-Reply-To
header names. The two headers are read by different functions, which agree on ids in brackets: only
the stored key takes a text without brackets as an id. -/

namespace SesEmailAdapter.Processor.MessageIds
open SesEmailAdapter.Types Email.Address
open Database.SignalsTable
open Database.ThreadDatabase Database.ReplyLookup
open Processor.IngestService Processor.InboundMessage
open Processor.IncomingEmail
open Processor.BounceDeliveries (extractReferencedOutboundMsgId)
open Resource.ResourceDatabase (truthy)

/-! ## Ids in brackets -/

/-- Characters between an opening bracket and the next closing one. -/
def Bracketed (text : List Char) : Prop :=
  ∃ front inner rest, text = front ++ '<' :: (inner ++ '>' :: rest) ∧ inner ≠ [] ∧ '>' ∉ inner

variable {text : List Char} {raw : String}

theorem Bracketed.cons (c : Char) (h : Bracketed text) : Bracketed (c :: text) := by
  obtain ⟨front, inner, rest, rfl, hinner⟩ := h
  exact ⟨c :: front, inner, rest, rfl, hinner⟩

/-- What the run up to the closing bracket leaves. -/
theorem bracketed_of_takeWhile {rest : List Char} (hne : rest.takeWhile (· ≠ '>') ≠ [])
    (hlt : (rest.takeWhile (· ≠ '>')).length < rest.length) : Bracketed ('<' :: rest) := by
  obtain ⟨c, after, hafter⟩ : ∃ c after, rest.dropWhile (· ≠ '>') = c :: after := by
    refine List.exists_cons_of_ne_nil fun hnil => ?_
    have hsplit := @List.takeWhile_append_dropWhile _ (fun c : Char => decide (c ≠ '>')) rest
    rw [hnil, List.append_nil] at hsplit
    rw [hsplit] at hlt
    exact absurd hlt (lt_irrefl _)
  have hclose : c = '>' := by
    have hhead := List.head?_dropWhile_not (fun c : Char => decide (c ≠ '>')) rest
    rw [hafter] at hhead
    simpa using hhead
  refine ⟨[], rest.takeWhile (· ≠ '>'), after, ?_, hne, fun hmem => ?_⟩
  · subst hclose
    rw [← hafter, List.takeWhile_append_dropWhile]
    rfl
  · simpa using List.mem_takeWhile_imp hmem

theorem bracketed_of_firstBracketed {inner : List Char} (h : firstBracketed text = some inner) :
    Bracketed text ∧ inner ≠ [] := by
  induction text using firstBracketed.induct with
  | case1 => cases h
  | case2 rest inner' hinner =>
    rw [firstBracketed, if_pos hinner] at h
    obtain rfl := Option.some.inj h
    exact ⟨bracketed_of_takeWhile hinner.1 hinner.2, hinner.1⟩
  | case3 rest inner' hinner ih =>
    rw [firstBracketed, if_neg hinner] at h
    exact ⟨(ih h).1.cons _, (ih h).2⟩
  | case4 c rest hc ih =>
    rw [firstBracketed] at h
    · exact ⟨(ih h).1.cons _, (ih h).2⟩
    · exact hc

theorem firstBracketed_of_bracketed (h : Bracketed text) :
    ∃ inner, firstBracketed text = some inner := by
  induction text using firstBracketed.induct with
  | case1 =>
    obtain ⟨front, inner, rest, heq, -⟩ := h
    simp at heq
  | case2 rest inner hinner =>
    rw [firstBracketed, if_pos hinner]
    exact ⟨_, rfl⟩
  | case3 rest inner hinner ih =>
    rw [firstBracketed, if_neg hinner]
    refine ih ?_
    obtain ⟨front, found, after, heq, hne, hclose⟩ := h
    cases front with
    | nil =>
      obtain rfl := (List.cons.inj heq).2
      have htake : (found ++ '>' :: after).takeWhile (· ≠ '>') = found := by
        have hopen : ∀ c ∈ found, decide (c ≠ '>') = true := by
          intro c hc
          exact decide_eq_true (ne_of_mem_of_not_mem hc hclose)
        rw [List.takeWhile_append_of_pos hopen]
        simp
      have hsame : inner = found := htake
      refine absurd ⟨?_, ?_⟩ hinner
      · rw [hsame]
        exact hne
      · rw [hsame]
        simp
    | cons c front =>
      obtain rfl := (List.cons.inj heq).2
      exact ⟨front, found, after, rfl, hne, hclose⟩
  | case4 c rest hc ih =>
    rw [firstBracketed]
    · refine ih ?_
      obtain ⟨front, found, after, heq, hfound⟩ := h
      cases front with
      | nil => exact absurd (List.cons.inj heq).1 hc
      | cons d front =>
        obtain rfl := (List.cons.inj heq).2
        exact ⟨front, found, after, rfl, hfound⟩
    · exact hc

theorem firstBracketed_eq_none (h : ¬ Bracketed text) : firstBracketed text = none := by
  cases hfirst : firstBracketed text with
  | none => rfl
  | some inner => exact absurd (bracketed_of_firstBracketed hfirst).1 h

/-! ## The two keys -/

/-- An id in brackets is the same id for both readers. -/
theorem extract_of_bracketed (h : Bracketed raw.toList) :
    ∃ id, extractMsgId raw = some id ∧ extractFirstInReplyTo raw = some id := by
  obtain ⟨inner, hinner⟩ := firstBracketed_of_bracketed h
  refine ⟨String.ofList inner, ?_, ?_⟩
  · rw [extractMsgId, hinner]
  · rw [extractFirstInReplyTo, hinner]
    rfl

/-- Without brackets the whole text is the id, for one reader. -/
theorem extract_of_unbracketed (h : ¬ Bracketed raw.toList) :
    extractMsgId raw = truthy (some (String.ofList (trim raw.toList))) ∧
      extractFirstInReplyTo raw = none := by
  have hnone := firstBracketed_eq_none h
  exact ⟨by rw [extractMsgId, hnone], by rw [extractFirstInReplyTo, hnone]; rfl⟩

theorem extractMsgId_empty : extractMsgId "" = none := by decide

/-- A bounce reads its In-Reply-To header as the Message-ID was read, and before its references. -/
theorem extractReferenced_echo {headers : Fields} {id : String}
    (hecho : headers.get "in-reply-to" = some raw) (hid : extractMsgId raw = some id) :
    extractReferencedOutboundMsgId headers = some id := by
  have hne : raw ≠ "" := by
    intro hempty
    rw [hempty, extractMsgId_empty] at hid
    cases hid
  have htruthy : truthy (some raw) = some raw := by simp [truthy, Option.filter, hne]
  simp [extractReferencedOutboundMsgId, hecho, htruthy, hid]

/-! ## Replies -/

/-- Tier 1.5 of the thread matching, with its key. -/
def matchKey (accountId key : String) : IngestProg (Option Thread) := do
  let signalResult ← db (findSignalByEmailMessageId key)
  fetchThread accountId (truthy (signalResult.toOption.join.bind Signal.threadId))

/-- The reply is looked up under the key of the mail, and a mail under this key is found. -/
def FoundByReply (accountId : String) (mail reply : ParsedMime) : Prop :=
  ∀ key, messageKey accountId mail = some key →
    matchInReplyTo accountId reply = matchKey accountId key ∧
      ∀ s : Store, (∃ signal, signal ∈ signalsUnder s key) →
        ∃ found ∈ signalsUnder s key,
          ((findSignalByEmailMessageId key).eval service s).1 = .ok (some found)

/-- What a reply that echoes the Message-ID of a mail leads to. -/
structure KeysAgree (raw : String) : Prop where
  inReplyTo : extractFirstInReplyTo raw = extractMsgId raw
  bounce : ∀ headers id, headers.get "in-reply-to" = some raw → extractMsgId raw = some id →
    extractReferencedOutboundMsgId headers = some id
  found : ∀ accountId mail reply, mail.headers.get "message-id" = some raw →
    reply.headers.get "in-reply-to" = some raw → FoundByReply accountId mail reply

/-- A signal that is stored under a key is found, or an older one that is. -/
theorem exists_found {s : Store} {key : String} (h : ∃ signal, signal ∈ signalsUnder s key) :
    ∃ found ∈ signalsUnder s key,
      ((findSignalByEmailMessageId key).eval service s).1 = .ok (some found) := by
  rw [eval_findSignalByEmailMessageId]
  cases holdest : oldest (signalsUnder s key) with
  | none =>
    obtain ⟨signal, hsignal⟩ := h
    rw [oldest_eq_none holdest] at hsignal
    cases hsignal
  | some found => exact ⟨found, (oldest_eq_some holdest).1, rfl⟩

theorem keysAgree_of_inReplyTo (h : extractFirstInReplyTo raw = extractMsgId raw) :
    KeysAgree raw where
  inReplyTo := h
  bounce := fun _ _ hecho hid => extractReferenced_echo hecho hid
  found := by
    intro accountId mail reply hmail hreply key hkey
    refine ⟨?_, fun _ => exists_found⟩
    obtain ⟨id, hid, rfl⟩ := Option.map_eq_some_iff.mp hkey
    rw [hmail, truthy] at hid
    obtain ⟨raw', hraw, hid⟩ := Option.bind_eq_some_iff.mp hid
    obtain rfl := Option.some.inj (Option.filter_eq_some_iff.mp hraw).1
    simp only [matchInReplyTo, hreply, Option.bind_some, h, hid]
    rfl

theorem keysAgree_iff (raw : String) :
    KeysAgree raw ↔ Bracketed raw.toList ∨ trim raw.toList = [] := by
  by_cases hbracketed : Bracketed raw.toList
  · obtain ⟨id, hid, hreply⟩ := extract_of_bracketed hbracketed
    simp [hbracketed, keysAgree_of_inReplyTo (hreply.trans hid.symm)]
  · obtain ⟨hid, hreply⟩ := extract_of_unbracketed hbracketed
    simp only [hbracketed, false_or]
    constructor
    · intro hagree
      have hnone := hagree.inReplyTo
      rw [hreply, hid] at hnone
      simpa [truthy, Option.filter] using hnone
    · intro hblank
      refine keysAgree_of_inReplyTo ?_
      rw [hreply, hid, hblank]
      rfl

/-- **A reply is looked up under the key of the mail that it answers** where the Message-ID stands
in brackets, or says nothing. A text without brackets is a key that only bounces are looked up
under. -/
theorem reply_keys (raw : String) :
    (Bracketed raw.toList ∨ trim raw.toList = [] → KeysAgree raw) ∧
      (¬ Bracketed raw.toList →
        extractMsgId raw = truthy (some (String.ofList (trim raw.toList))) ∧
        extractFirstInReplyTo raw = none ∧
        ∀ headers id, headers.get "in-reply-to" = some raw → extractMsgId raw = some id →
          extractReferencedOutboundMsgId headers = some id) := by
  refine ⟨(keysAgree_iff raw).mpr, fun hbracketed => ?_⟩
  obtain ⟨hid, hreply⟩ := extract_of_unbracketed hbracketed
  exact ⟨hid, hreply, fun _ _ hecho hid => extractReferenced_echo hecho hid⟩

theorem angled_agrees : KeysAgree "<abc@example.com>" :=
  (reply_keys "<abc@example.com>").1 (.inl ⟨[], "abc@example.com".toList, [], by decide⟩)

/-- A mail without brackets around its id is not found by its key. -/
theorem bare_differs : ¬ KeysAgree "abc@example.com" := by
  intro hagree
  have hsame := hagree.inReplyTo
  rw [show extractFirstInReplyTo "abc@example.com" = none by decide,
    show extractMsgId "abc@example.com" = some "abc@example.com" by decide] at hsame
  cases hsame

end SesEmailAdapter.Processor.MessageIds
