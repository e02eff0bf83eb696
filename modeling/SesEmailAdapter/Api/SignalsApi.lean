import SesEmailAdapter.Api.ThreadsApi
import SesEmailAdapter.Processor.Reprocess

/-! # The signals API

The approval of a signal from the quarantine. The sender is allowed unless the account has decided
about it already, the mail is replayed with its status forced, and the other mails of a sender that
was just allowed are replayed after it. -/

namespace SesEmailAdapter.Api.SignalsApi
open SesEmailAdapter.Types Database.Shared
open Database.SignalsTable (SignalPartition)
open Database.ThreadDatabase Database.AccountDatabase
open Processor.IngestService Processor.InboundMessage
open Processor.Reprocess
open Api.ThreadsApi (ApiError internalError)

abbrev Handler (α : Type) := ExceptT ApiError IngestProg α

variable {α : Type}

def signalNotFound : ApiError := ⟨404, "Signal not found", some "SIGNAL_NOT_FOUND"⟩

def notQuarantined : ApiError :=
  ⟨422, "Only quarantined signals can have their status updated", some "SIGNAL_NOT_REVIEWABLE"⟩

def notInbound : ApiError :=
  ⟨400, "Only inbound email signals can be reviewed from quarantine", some "SIGNAL_NOT_REVIEWABLE"⟩

def threadConflict : ApiError :=
  ⟨409, "The thread for this signal conflicts with an existing conversation",
    some "THREAD_ID_COLLISION"⟩

/-- A call whose failure is logged and answered as an internal error. -/
def required (p : IngestProg (Except DbError α)) : Handler α :=
  ExceptT.mk ((Except.mapError fun _ => internalError) <$> p)

/-! ## The signal -/

/-- The signal of an id, quarantined or blocked. -/
def loadSignal (env : Env) (accountId signalId : String) : Handler (Option Signal) := do
  let quarantined ← required (db (getSignalById env.stale accountId signalId "QUARANTINED"))
  match quarantined with
  | some signal => return some signal
  | none => required (db (getSignalById env.stale accountId signalId "BLOCKED"))

/-- The checks on the signal, or its payload. -/
def reviewable : Option Signal → Except ApiError (Signal × InboundEmailSignalData)
  | none => .error signalNotFound
  | some signal =>
    if signal.status ≠ .quarantineVisible ∧ signal.status ≠ .quarantineHidden then
      .error notQuarantined
    else match signal.data with
      | .inboundEmail data => .ok (signal, data)
      | _ => .error notInbound

/-! ## The sender -/

/-- The sender of a mail, as senders are recorded. -/
def senderOf (env : Env) (data : InboundEmailSignalData) : String :=
  getETLD1 env data.sender.address

/-- What governs the mail of a sender: its own record, or the policy on unknown senders. -/
structure EffectiveSenderPolicy where
  policy : SenderPolicy ⊕ UnknownSenderPolicy
  hasExplicitSenderRecord : Bool
deriving DecidableEq, Repr

/-- A record counts only where the alias exists. -/
def resolveEffectiveSenderPolicy (aliasConfig : Option Alias) (explicitSender : Option AliasSender)
    (account : Option Account) : EffectiveSenderPolicy :=
  match if aliasConfig.isSome then explicitSender else none with
  | some effectiveSender => ⟨.inl effectiveSender.policy, true⟩
  | none => ⟨.inr (resolveUnknownSenderPolicy aliasConfig account), false⟩

/-- An approval decides about a sender that the account has not decided about. -/
def approvesSender (effective : EffectiveSenderPolicy) : Bool :=
  ¬ effective.hasExplicitSenderRecord ∧ effective.policy ≠ .inl .allow ∧
    effective.policy ≠ .inr .allowAll

/-- Returns whether the sender has been allowed. -/
def approveSender (env : Env) (accountId : String) (data : InboundEmailSignalData) :
    Handler Bool := do
  let aliasConfig ← required (accounts (getAlias accountId data.recipientAddress))
  let sender ← required (accounts (getSender accountId data.recipientAddress (senderOf env data)))
  let account ← required (ask (.getAccount accountId))
  if approvesSender (resolveEffectiveSenderPolicy aliasConfig sender account) then do
    let now : String ← ask .now
    required (accounts (saveSender accountId data.recipientAddress (senderOf env data) .allow now))
    return true
  else return false

/-! ## The other mails of the sender -/

/-- A mail that shares the decision: visible in the quarantine, of the same alias and sender. -/
def isSibling (env : Env) (signal : Signal) (data : InboundEmailSignalData) (s : Signal) : Bool :=
  match s.data with
  | .inboundEmail sData =>
    s.signalLookupId ≠ signal.signalLookupId ∧ s.status = .quarantineVisible ∧
      sData.recipientAddress = data.recipientAddress ∧ senderOf env sData = senderOf env data
  | _ => false

/-- A failure to list them is logged. -/
def collectSiblings (env : Env) (accountId : String) (signal : Signal)
    (data : InboundEmailSignalData) : IngestProg (List Signal) := do
  let listResult ← db (listPreThreadSignals accountId .quarantined 100)
  return (listResult.toOption.getD []).filter (isSibling env signal data)

/-- One after the other; a failure is logged. -/
def reprocessSiblings (env : Env) (accountId : String) : List Signal → IngestProg Unit
  | [] => return ()
  | sibling :: siblings => do
    let _ ← (reprocessSignal env accountId sibling.signalLookupId ⟨true, false⟩).run
    reprocessSiblings env accountId siblings

def cascade (env : Env) (accountId : String) (signal : Signal) (data : InboundEmailSignalData)
    (senderApproved : Bool) : IngestProg Unit :=
  if senderApproved then do
    let siblings ← collectSiblings env accountId signal data
    reprocessSiblings env accountId siblings
  else return ()

/-! ## The approval -/

structure ApprovalResponse where
  thread : Thread
  signal : Signal
deriving DecidableEq, Repr

/-- The replay of the signal itself, which no rule may keep off the threads. -/
def activate (env : Env) (accountId : String) (signal : Signal) : Handler (Signal × String) := do
  let primaryResult ←
    ((reprocessSignal env accountId signal.signalLookupId ⟨true, true⟩).run :
      IngestProg (Except ReprocessError Signal))
  match primaryResult with
  | .error (.threadIdCollision _) => throw threadConflict
  | .error _ => throw internalError
  | .ok activatedSignal =>
    let threadId := activatedSignal.threadId.getD ""
    if threadId = "" then throw internalError else return (activatedSignal, threadId)

def approveReviewable (env : Env) (accountId : String) (signal : Signal)
    (data : InboundEmailSignalData) : Handler ApprovalResponse := do
  let senderApproved ← approveSender env accountId data
  let (activatedSignal, threadId) ← activate env accountId signal
  cascade env accountId signal data senderApproved
  let thread ← required (db (getThread accountId threadId))
  match thread with
  | none => throw internalError
  | some thread => return ⟨thread, activatedSignal⟩

/-- `POST /accounts/:accountId/signals/:id/quarantineResponse` with the status `active`. -/
def quarantineResponse (env : Env) (accountId signalId : String) : Handler ApprovalResponse := do
  let signal ← loadSignal env accountId signalId
  match reviewable signal with
  | .error error => throw error
  | .ok (signal, data) => approveReviewable env accountId signal data

end SesEmailAdapter.Api.SignalsApi
