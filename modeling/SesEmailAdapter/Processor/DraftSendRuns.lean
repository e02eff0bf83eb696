import SesEmailAdapter.Api.ThreadsApi
import SesEmailAdapter.Lib.Pool

/-! # Runs of draft sends

Any number of deliveries of queued messages, send requests and patches, interleaved call by call.
A mail goes out twice only when a delivery finds the draft pending while another one is between
its read and its status write, and an undone send goes out only when the undo is written in that
interval. -/

namespace SesEmailAdapter.Processor.DraftSendRuns
open Lib
open SesEmailAdapter.Types Database Database.Shared
open Database.ThreadDatabase
open Processor.DraftSendWorker Api.ThreadsApi

/-- The table key of a draft. -/
abbrev DraftKey := String × String

/-! ## Histories -/

/-- How far a delivery has come: before its read, past its guard, with the answer of the reply
sender (or a failure before it), and after its status write. -/
inductive Progress
  | started (stale : String → Bool)
  | guarded (key : DraftKey)
  | answered (key : DraftKey) (handed ok : Bool)
  | closed (key : DraftKey) (handed written : Bool)

inductive Phase
  | delivery (payload : DraftSendPayload) (progress : Progress)
  | discarded
  | sending (sendInitiatedAt : String)
  | requested (key : DraftKey) (sendInitiatedAt : String)
  | patching (stale : String → Bool) (accountId signalId : String) (toDraft : Bool)
  | editing
  | edited
  | reverting (key : DraftKey) (sendInitiatedAt : Option String)
  | reverted (key : DraftKey) (sendInitiatedAt : Option String)

def mailKey (mail : DraftMail) : DraftKey := (mail.accountId, mail.draft.signalLookupId)

/-- What a delivery does after its read: nothing more, or it has passed its guard. -/
def afterRead (stale : String → Bool) (payload : DraftSendPayload)
    (answer : Except DbError (List Signal)) : Phase :=
  match answer with
  | .error _ => .discarded
  | .ok items => match pendingDraft payload (signalIn stale payload.signalId items) with
    | none => .discarded
    | some (signal, _) =>
      .delivery payload (.guarded (payload.accountId, signal.signalLookupId))

variable {payload : DraftSendPayload}

theorem afterRead_discarded {stale : String → Bool} {items : List Signal}
    (h : pendingDraft payload (signalIn stale payload.signalId items) = none) :
    afterRead stale payload (.ok items) = .discarded := by
  simp only [afterRead, h]

theorem afterRead_guarded {stale : String → Bool}
    {items : List Signal} {signal : Signal} {data : OutboundEmailSignalData}
    (h : pendingDraft payload (signalIn stale payload.signalId items) = some (signal, data)) :
    afterRead stale payload (.ok items) =
      .delivery payload (.guarded (payload.accountId, signal.signalLookupId)) := by
  simp only [afterRead, h]

def afterPatchRead (stale : String → Bool) (accountId signalId : String) (toDraft : Bool)
    (answer : Except DbError (List Signal)) : Phase :=
  match answer with
  | .error _ => .discarded
  | .ok items => match signalIn stale signalId items with
    | none => .discarded
    | some signal =>
      if signal.status = .pendingSend ∧ toDraft then
        .reverting (accountId, signal.signalLookupId) (sendInitiatedAtOf signal)
      else if signal.status = .draft then .editing
      else .discarded

def monitor : Monitor Cmd Cmd.Answer Turn Phase where
  allow
    | .delivery payload (.started _), .db (.querySignals accountId partition) =>
      accountId = payload.accountId ∧ partition = partitionOf payload.threadId
    | .delivery _ (.guarded _), .db (.querySignals ..) => True
    | .delivery _ (.guarded _), .validateRecipientMx _ => True
    | .delivery _ (.guarded _), .getContent _ => True
    | .delivery payload (.guarded key), .sendReply mail =>
      mailKey mail = key ∧ mail.data.sendInitiatedAt = some payload.sendInitiatedAt
    | .delivery _ (.answered key _ ok), .db (.updateSendStatus accountId lookupId update) =>
      (accountId, lookupId) = key ∧ update.status = if ok then .sent else .draft
    | .sending _, .db (.getThread ..) => True
    | .sending _, .db (.querySignals ..) => True
    | .sending _, .dispatch .. => True
    | .sending sendInitiatedAt, .db (.updateSendStatus _ _ update) =>
      update = pendingUpdate sendInitiatedAt
    | .patching _ accountId _ _, .db (.querySignals accountId' _) => accountId' = accountId
    | .editing, .db (.updateSignal ..) => True
    | .reverting key _, .db (.updateSendStatus accountId lookupId update) =>
      (accountId, lookupId) = key ∧ update = revertUpdate
    | _, _ => False
  next
    | .delivery payload (.started stale), .db (.querySignals ..), _, answer =>
      afterRead stale payload answer
    | .delivery payload (.guarded key), .validateRecipientMx _, _, .error _ =>
      .delivery payload (.answered key false false)
    | .delivery payload (.guarded key), .getContent _, _, .error _ =>
      .delivery payload (.answered key false false)
    | .delivery payload (.guarded key), .sendReply _, turn, .ok _ =>
      .delivery payload (.answered key turn.hands true)
    | .delivery payload (.guarded key), .sendReply _, turn, .error _ =>
      .delivery payload (.answered key turn.hands false)
    | .delivery payload (.answered key handed _), .db (.updateSendStatus ..), turn, _ =>
      .delivery payload (.closed key handed (turn.fate ≠ .refused))
    | .sending sendInitiatedAt, .db (.updateSendStatus accountId lookupId _), _, _ =>
      .requested (accountId, lookupId) sendInitiatedAt
    | .patching stale accountId signalId toDraft, .db (.querySignals ..), _, answer =>
      afterPatchRead stale accountId signalId toDraft answer
    | .reverting key sendInitiatedAt, .db (.updateSendStatus ..), _, .ok _ =>
      .reverted key sendInitiatedAt
    | .reverting _ _, .db (.updateSendStatus ..), _, .error _ => .discarded
    | .editing, .db (.updateSignal ..), _, _ => .edited
    | q, _, _, _ => q

/-- A patch in this history state has written what it was asked to. -/
def Phase.Patched : Phase → Prop
  | .edited => True
  | .reverted .. => True
  | _ => False

/-! ## The programs follow their histories -/

theorem resolveInReplyTo_obeys (stale : String → Bool) (payload : DraftSendPayload)
    (key : DraftKey) (data : OutboundEmailSignalData) :
    (resolveInReplyTo stale payload.accountId payload.threadId data).Obeys monitor
      (fun q _ => q = .delivery payload (.guarded key)) (.delivery payload (.guarded key)) := by
  unfold resolveInReplyTo
  split
  · rfl
  · rw [db_getSignalById_bind, Prog.obeys_call]
    refine ⟨trivial, fun turn answer => ?_⟩
    rcases answer with error | items
    · rfl
    · simp only [Except.map]
      split
      · rfl
      · rfl
      · split <;> rfl

theorem resolveAttachments_obeys (payload : DraftSendPayload) (key : DraftKey)
    (attachments : List Attachment) :
    (resolveAttachments attachments).Obeys monitor
      (fun q result => result = .ok () → q = .delivery payload (.guarded key))
      (.delivery payload (.guarded key)) := by
  induction attachments with
  | nil => exact fun _ => rfl
  | cons att attachments ih =>
    refine ⟨trivial, fun turn answer => ?_⟩
    rcases answer with reason | ⟨⟩
    · intro h
      cases h
    · exact ih

/-- A status write that reports its outcome is the last call of a delivery. -/
theorem writeStatus_obeys {signal : Signal} {handed ok : Bool}
    {update : SignalsTable.SendStatusUpdate}
    (hstatus : update.status = if ok then .sent else .draft) :
    (writeStatus payload.accountId signal.signalLookupId update).Obeys monitor (fun _ _ => True)
      (.delivery payload (.answered (payload.accountId, signal.signalLookupId) handed ok)) := by
  refine ⟨⟨rfl, hstatus⟩, fun turn answer => ?_⟩
  rcases answer with error | ⟨⟩ <;> trivial

theorem sendDraft_obeys (stale : String → Bool) (payload : DraftSendPayload) (signal : Signal)
    (data : OutboundEmailSignalData) (hdata : data.sendInitiatedAt = some payload.sendInitiatedAt) :
    (sendDraft stale payload signal data).Obeys monitor (fun _ _ => True)
      (.delivery payload (.guarded (payload.accountId, signal.signalLookupId))) := by
  unfold sendDraft
  simp only [perform, Prog.perform, Prog.call_bind, Prog.ret_bind, Prog.obeys_call]
  refine ⟨trivial, fun turn answer => ?_⟩
  rcases answer with invalidDomains | ⟨⟩
  · exact writeStatus_obeys rfl
  · refine Prog.obeys_bind.mpr ((resolveInReplyTo_obeys stale payload _ data).mono ?_)
    rintro _ inReplyTo rfl
    refine Prog.obeys_bind.mpr ((resolveAttachments_obeys payload _ data.attachments).mono ?_)
    intro q attachments hq
    rcases attachments with reason | ⟨⟩
    · trivial
    · obtain rfl := hq rfl
      refine ⟨⟨rfl, hdata⟩, fun turn answer => ?_⟩
      rcases answer with error | receipt
      · dsimp only
        split
        · exact writeStatus_obeys rfl
        · trivial
      · exact writeStatus_obeys rfl

theorem process_obeys (stale : String → Bool) (payload : DraftSendPayload) :
    (process stale payload).Obeys monitor (fun _ _ => True)
      (.delivery payload (.started stale)) := by
  unfold process
  rw [db_getSignalById_bind, Prog.obeys_call]
  refine ⟨⟨rfl, rfl⟩, fun turn answer => ?_⟩
  rcases answer with error | items
  · trivial
  · simp only [Except.map]
    cases hdraft : pendingDraft payload (signalIn stale payload.signalId items) with
    | none => trivial
    | some draft =>
      obtain ⟨signal, data⟩ := draft
      have hsend := sendDraft_obeys stale payload signal data
        (pendingDraft_eq_some hdraft).2.2.2
      rw [← afterRead_guarded hdraft] at hsend
      exact hsend

theorem patchSignal_obeys (stale : String → Bool) (accountId threadId signalId : String)
    (body : UpdateSignalRequest) :
    (patchSignal stale accountId threadId signalId body).Obeys monitor
      (fun q result => result = .ok () → q.Patched)
      (.patching stale accountId signalId body.toDraft) := by
  unfold patchSignal
  rw [db_getSignalById_bind, Prog.obeys_call]
  refine ⟨rfl, fun turn answer => ?_⟩
  rcases answer with error | items
  · exact nofun
  · change Prog.Obeys monitor _ (afterPatchRead stale accountId signalId body.toDraft (.ok items)) _
    simp only [Except.map, afterPatchRead]
    cases hfound : signalIn stale signalId items with
    | none => exact nofun
    | some signal =>
      cases hstatus : signal.status with
      | draft =>
        simp only [hstatus, reduceCtorEq, false_and, if_false, if_true]
        exact ⟨trivial, fun turn answer _ => trivial⟩
      | pendingSend =>
        cases htoDraft : body.toDraft with
        | false => simp [hstatus]
        | true =>
          simp only [hstatus, and_self, if_true, not_true_eq_false, if_false]
          refine ⟨⟨rfl, rfl⟩, fun turn answer => ?_⟩
          rcases answer with error | ⟨⟩
          · exact nofun
          · exact fun _ => trivial
      | _ => simp [hstatus]

theorem sendSignal_obeys (stale : String → Bool) (isValidEmail : String → Bool)
    (accountId threadId signalId sendInitiatedAt : String) :
    (sendSignal stale isValidEmail accountId threadId signalId sendInitiatedAt).Obeys monitor
      (fun _ _ => True) (.sending sendInitiatedAt) := by
  unfold sendSignal
  rw [db_getThread_bind, Prog.obeys_call]
  refine ⟨trivial, fun turn answer => ?_⟩
  rcases answer with error | _ | thread
  · trivial
  · trivial
  · dsimp only
    rw [db_getSignalById_bind, Prog.obeys_call]
    refine ⟨trivial, fun turn answer => ?_⟩
    rcases answer with error | items
    · trivial
    · simp only [Except.map]
      split
      · trivial
      · trivial
      · split
        · trivial
        · refine ⟨trivial, fun turn answer => ?_⟩
          rcases answer with error | ⟨⟩
          · trivial
          · exact ⟨rfl, fun turn answer => trivial⟩

/-! ## The tasks of a run -/

inductive Reply
  | delivered (result : Except DeliveryError Unit)
  | requested (result : Except ApiError Unit)
  | patched (result : Except ApiError Unit)

/-- The programs that may start in a run, and the history states they start in. -/
inductive Starts : SendProg Reply → Phase → Prop
  | delivery (stale : String → Bool) (payload : DraftSendPayload) :
      Starts (process stale payload >>= fun result => .ret (.delivered result))
        (.delivery payload (.started stale))
  | send (stale isValidEmail : String → Bool)
      (accountId threadId signalId sendInitiatedAt : String) :
      Starts (sendSignal stale isValidEmail accountId threadId signalId sendInitiatedAt >>=
        fun result => .ret (.requested result)) (.sending sendInitiatedAt)
  | patch (stale : String → Bool) (accountId threadId signalId : String)
      (body : UpdateSignalRequest) :
      Starts (patchSignal stale accountId threadId signalId body >>=
        fun result => .ret (.patched result)) (.patching stale accountId signalId body.toDraft)

def Returns (q : Phase) (reply : Reply) : Prop := reply = .patched (.ok ()) → q.Patched

theorem Starts.obeys {prog : SendProg Reply} {q : Phase} (h : Starts prog q) :
    prog.Obeys monitor Returns q := by
  cases h with
  | delivery stale payload =>
    exact Prog.obeys_bind.mpr ((process_obeys stale payload).mono fun _ _ _ => nofun)
  | send stale isValidEmail accountId threadId signalId sendInitiatedAt =>
    exact Prog.obeys_bind.mpr ((sendSignal_obeys stale isValidEmail accountId threadId signalId
      sendInitiatedAt).mono fun _ _ _ => nofun)
  | patch stale accountId threadId signalId body =>
    refine Prog.obeys_bind.mpr
      ((patchSignal_obeys stale accountId threadId signalId body).mono fun q result h => ?_)
    intro hreply
    exact h (Reply.patched.inj hreply)

end SesEmailAdapter.Processor.DraftSendRuns
