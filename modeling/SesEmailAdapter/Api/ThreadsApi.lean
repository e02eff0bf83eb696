import SesEmailAdapter.Processor.DraftSendWorker

/-! # The requests on a draft

Sending a draft queues a message for the worker and marks the draft as pending; patching a
pending draft back undoes the send. -/

namespace SesEmailAdapter.Api.ThreadsApi
open SesEmailAdapter.Types Database Database.Shared
open Database.ThreadDatabase
open Email.Address
open Processor.DraftSendWorker

structure ApiError where
  status : Nat
  message : String
  code : Option String
deriving DecidableEq, Repr

def internalError : ApiError := ⟨500, "Internal Server Error", none⟩

/-! ## Sending -/

def computeUndoWindowSeconds (textBody : Option String) : Nat :=
  let words := ((textBody.getD "").toList.splitOnP isSpace).filter (· ≠ [])
  if words.length < 50 then 10
  else if words.length < 200 then 60
  else if words.length < 500 then 180
  else 300

def pendingUpdate (sendInitiatedAt : String) : SignalsTable.SendStatusUpdate where
  status := .pendingSend
  sendInitiatedAt := some (some sendInitiatedAt)
  sesMessageId := none
  sendFailureReason := none
  gsi3pk := none
  threadId := none

/-- The checks of a send request, by what it read: the draft, or the refusal. -/
def sendableDraft (isValidEmail : String → Bool) (thread : Thread) (signal : Signal) :
    Except ApiError (Signal × OutboundEmailSignalData) :=
  match signal.data with
  -- an inbound email never has the status of a draft
  | .inboundEmail _ => .error
      (if signal.threadId ≠ some thread.id then
        ⟨400, "Signal does not belong to this thread", some "SIGNAL_THREAD_MISMATCH"⟩
      else ⟨400, "Only draft signals can be sent", some "SIGNAL_NOT_DRAFT"⟩)
  | .outboundEmail data =>
    if signal.threadId ≠ some thread.id then
      .error ⟨400, "Signal does not belong to this thread", some "SIGNAL_THREAD_MISMATCH"⟩
    else if signal.status ≠ .draft then
      .error ⟨400, "Only draft signals can be sent", some "SIGNAL_NOT_DRAFT"⟩
    else if ¬ isValidEmail data.sender.address ∨
        ¬ data.toAddresses.all fun r => isValidEmail r.address then
      .error ⟨400, "Invalid recipient or sender address", some "INVALID_EMAIL"⟩
    else if data.sender.address ≠ thread.recipientAddress then
      .error ⟨422, "From address does not match thread alias", none⟩
    else .ok (signal, data)
  | _ => .error ⟨400, "Only email signals can be sent", some "SIGNAL_NOT_DRAFT"⟩

/-- Queues the message first and marks the draft as pending after that. -/
def sendSignal (stale : String → Bool) (isValidEmail : String → Bool)
    (accountId threadId signalId sendInitiatedAt : String) : SendProg (Except ApiError Unit) := do
  let threadResult : Except DbError (Option Thread) ← db (getThread accountId threadId)
  match threadResult with
  | .error _ => return .error internalError
  | .ok none => return .error ⟨404, "Thread not found", some "THREAD_NOT_FOUND"⟩
  | .ok (some thread) => do
    let signalResult : Except DbError (Option Signal) ←
      db (getSignalById stale accountId signalId threadId)
    match signalResult with
    | .error _ => return .error internalError
    | .ok none => return .error ⟨404, "Signal not found", some "SIGNAL_NOT_FOUND"⟩
    | .ok (some signal) => match sendableDraft isValidEmail thread signal with
      | .error error => return .error error
      | .ok (signal, data) => do
        let sqsResult : Except DbError Unit ← perform (.dispatch
          ⟨signal.id, accountId, threadId, sendInitiatedAt⟩
          (computeUndoWindowSeconds data.textBody))
        match sqsResult with
        | .error _ => return .error internalError
        | .ok () => do
          let updateResult : Except DbError Unit ← db
            (updateSignalSendStatus accountId signal.signalLookupId (pendingUpdate sendInitiatedAt))
          return updateResult.mapError fun _ => internalError

/-! ## Patching -/

/-- The body of a patch; its `status` can only be `draft`. -/
structure UpdateSignalRequest where
  toDraft : Bool
  subject : Option String
  body : Option String
  sender : Option EmailAddress
  toAddresses : Option (List EmailAddress)
deriving DecidableEq, Repr

def revertUpdate : SignalsTable.SendStatusUpdate where
  status := .draft
  sendInitiatedAt := some none
  sesMessageId := none
  sendFailureReason := none
  gsi3pk := none
  threadId := none

def UpdateSignalRequest.signalUpdate (body : UpdateSignalRequest) : SignalsTable.SignalUpdate where
  subject := body.subject
  textBody := body.body
  sender := body.sender
  toAddresses := body.toAddresses
  cc := none
  bcc := none

def patchSignal (stale : String → Bool) (accountId threadId signalId : String)
    (body : UpdateSignalRequest) : SendProg (Except ApiError Unit) := do
  let signalResult : Except DbError (Option Signal) ←
    db (getSignalById stale accountId signalId threadId)
  match signalResult with
  | .error _ => return .error internalError
  | .ok none => return .error ⟨404, "Signal not found", some "SIGNAL_NOT_FOUND"⟩
  | .ok (some signal) => match signal.status with
    | .sent => return .error ⟨400, "Signal already sent", some "SIGNAL_ALREADY_SENT"⟩
    | .pendingSend =>
      if ¬ body.toDraft then
        return .error ⟨400, "Pending signals can only be reverted to draft",
          some "INVALID_STATUS_TRANSITION"⟩
      else do
        let updateResult : Except DbError Unit ←
          db (updateSignalSendStatus accountId signal.signalLookupId revertUpdate)
        return updateResult.mapError fun _ => internalError
    | .draft => do
      let updateResult : Except DbError Unit ←
        db (updateSignal accountId signal.signalLookupId body.signalUpdate)
      return updateResult.mapError fun _ => internalError
    | _ => return .error ⟨400, "Only draft or pending signals can be updated",
        some "SIGNAL_NOT_EDITABLE"⟩

end SesEmailAdapter.Api.ThreadsApi
