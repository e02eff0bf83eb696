import SesEmailAdapter.Database.ThreadDatabase
import SesEmailAdapter.Notifier.ReplySender

/-! # DraftSendWorker

The worker behind the draft-send queue and the API requests on a draft, as programs over the
signals table, the reply sender and the queue. -/

namespace SesEmailAdapter.Processor.DraftSendWorker
open Lib
open SesEmailAdapter.Types Database Database.Shared
open Database.ThreadDatabase
open Notifier.ReplySender

/-! ## Calls -/

structure DraftSendPayload where
  signalId : String
  accountId : String
  threadId : String
  sendInitiatedAt : String
deriving DecidableEq, Repr

/-- A draft on its way to the reply sender. -/
structure DraftMail where
  accountId : String
  draft : Signal
  data : OutboundEmailSignalData
  threadId : String
  inReplyTo : Option String
  hopCount : Option Nat
deriving DecidableEq, Repr

structure SendReceipt where
  messageId : String
  outboundMsgId : Option String
deriving DecidableEq, Repr

inductive Cmd
  | db (c : SignalsTable.Cmd)
  | validateRecipientMx (recipients : List EmailAddress)
  | getContent (s3Key : String)
  | sendReply (mail : DraftMail)
  | dispatch (payload : DraftSendPayload) (delaySeconds : Nat)

/-- `validateRecipientMx` reports the domains without a mail exchanger; `getContent` can throw. -/
@[reducible] def Cmd.Answer : Cmd → Type
  | .db c => c.Answer
  | .validateRecipientMx _ => Except (List String) Unit
  | .getContent _ => Except String Unit
  | .sendReply _ => Except ReplySendError SendReceipt
  | .dispatch .. => Except DbError Unit

/-- What becomes of a call. The reply sender may have handed the mail to a provider or not,
whatever it reports. -/
inductive Turn
  | request (fate : Fate)
  | invalidDomains (domains : List String)
  | missing (reason : String)
  | mail (handed : Bool) (answer : Except ReplySendError SendReceipt)

/-- The table, and the mails handed to a provider, newest first. -/
structure World where
  table : SignalsTable.Store
  handed : List DraftMail

def Turn.fate : Turn → Fate
  | .request fate => fate
  | _ => .done

/-- The mail goes to a provider in this turn. -/
def Turn.hands : Turn → Bool
  | .mail handed _ => handed
  | _ => true

def settle : (c : Cmd) → World → Turn → c.Answer × World
  | .db c, w, turn =>
    let (answer, table) := SignalsTable.settle c w.table turn.fate
    (answer, { w with table := table })
  | .validateRecipientMx _, w, .invalidDomains domains => (.error domains, w)
  | .validateRecipientMx _, w, _ => (.ok (), w)
  | .getContent _, w, .missing reason => (.error reason, w)
  | .getContent _, w, _ => (.ok (), w)
  | .sendReply mail, w, turn =>
    (match turn with
      | .mail _ answer => answer
      | _ => .ok ⟨"", none⟩,
    if turn.hands then { w with handed := mail :: w.handed } else w)
  | .dispatch .., w, .request .refused => (.error SignalsTable.requestFailed, w)
  | .dispatch .., w, .request .lost => (.error SignalsTable.requestFailed, w)
  | .dispatch .., w, _ => (.ok (), w)

theorem settle_db (c : SignalsTable.Cmd) (w : World) (turn : Turn) :
    settle (.db c) w turn = ((SignalsTable.settle c w.table turn.fate).1,
      { w with table := (SignalsTable.settle c w.table turn.fate).2 }) := rfl

def service : Service Cmd Cmd.Answer World Turn := ⟨settle, .request .done⟩

abbrev SendProg (α : Type) := Prog Cmd Cmd.Answer α

def db {α : Type} (p : SignalsTable.DbProg α) : SendProg α := p.embed .db fun _ r => r

@[simp] def perform (c : Cmd) : SendProg c.Answer := Prog.perform c

@[simp] theorem db_getSignalById_bind {α : Type} (stale : String → Bool)
    (accountId signalId threadId : String) (f : Except DbError (Option Signal) → SendProg α) :
    (db (getSignalById stale accountId signalId threadId) >>= f) =
      .call (.db (.querySignals accountId (partitionOf threadId)))
        fun answer => f (answer.map (signalIn stale signalId)) := rfl

@[simp] theorem db_getThread_bind {α : Type} (accountId id : String)
    (f : Except DbError (Option Thread) → SendProg α) :
    (db (getThread accountId id) >>= f) = .call (.db (.getThread accountId id)) f := rfl

/-- A run that does not return `ok` is retried by the queue. -/
inductive DeliveryError
  | db (error : DbError)
  | send (error : ReplySendError)
  | thrown (reason : String)
deriving DecidableEq, Repr

/-- `PERMANENT_SEND_ERRORS` -/
def isPermanent : ReplySendError → Bool
  | .permanentSes _ => true
  | .providerSendRejected _ => true
  | .providerSendScopeMissing => true
  | .fromAddressUnsendable _ => true
  | .invalidArgument _ => true
  | .loopGuardTripped _ => true
  | .transientSes _ => false
  | .providerSendFailed _ => false
  | .providerTokenExpired => false
  | .db _ => false

def describeSendFailure : ReplySendError → String
  | .providerSendScopeMissing => "Your connected mailbox has not granted permission to send email. " ++
      "Reconnect the mailbox to allow sending."
  | .providerSendRejected cause =>
    "The mail provider rejected this message: " ++ String.ofList (cause.toList.take 256)
  | .fromAddressUnsendable reason =>
    "This address cannot send email right now: " ++ String.ofList (reason.toList.take 256)
  | .permanentSes errorName => "Rejected by the mail service: " ++ errorName
  | _ => "The message could not be sent."

def buildSignalGsi3pk (accountId msgId : String) : String :=
  String.ofList (("ACCT#" ++ accountId ++ "#MSGID#" ++ msgId).toList.take 1024)

def parkUpdate (threadId reason : String) : SignalsTable.SendStatusUpdate where
  status := .draft
  sendInitiatedAt := some none
  sesMessageId := none
  sendFailureReason := some reason
  gsi3pk := none
  threadId := some threadId

def sentUpdate (accountId threadId : String) (receipt : SendReceipt) :
    SignalsTable.SendStatusUpdate where
  status := .sent
  sendInitiatedAt := none
  sesMessageId := some receipt.messageId
  sendFailureReason := none
  gsi3pk := match receipt.outboundMsgId.getD "" with
    | "" => none
    | outboundMsgId => some (buildSignalGsi3pk accountId outboundMsgId)
  threadId := some threadId

/-- Reports a failed status write as the run's error. -/
def writeStatus (accountId signalLookupId : String) (update : SignalsTable.SendStatusUpdate) :
    SendProg (Except DeliveryError Unit) := do
  let updateResult : Except DbError Unit ←
    db (updateSignalSendStatus accountId signalLookupId update)
  return updateResult.mapError .db

def parkDraft (accountId : String) (signal : Signal) (threadId reason : String) :
    SendProg (Except DeliveryError Unit) :=
  writeStatus accountId signal.signalLookupId (parkUpdate threadId reason)

/-- The Message-ID header of the email a draft answers, when it is still there. -/
def resolveInReplyTo (stale : String → Bool) (accountId threadId : String)
    (data : OutboundEmailSignalData) : SendProg (Option String) :=
  match data.linkedSignalId.getD "" with
  | "" => return none
  | linkedSignalId => do
    let linkedResult : Except DbError (Option Signal) ←
      db (getSignalById stale accountId linkedSignalId threadId)
    match linkedResult with
    | .error _ => return none
    | .ok none => return none
    | .ok (some linked) => match linked.data with
      | .inboundEmail data => return (data.headers.get "message-id").filter (· ≠ "")
      | .outboundEmail data => return (data.headers.get "message-id").filter (· ≠ "")
      | _ => return none

/-- The contents of the attachments, unless one of the reads throws. -/
def resolveAttachments : List Attachment → SendProg (Except String Unit)
  | [] => return .ok ()
  | att :: attachments => do
    let content : Except String Unit ← perform (.getContent att.s3Key)
    match content with
    | .error reason => return .error reason
    | .ok () => resolveAttachments attachments

/-- The draft a queued message still stands for: an outbound email, pending, and initiated at the
time the message carries. -/
def pendingDraft (payload : DraftSendPayload) (signal : Option Signal) :
    Option (Signal × OutboundEmailSignalData) :=
  match signal with
  | none => none
  | some signal => match signal.data with
    | .outboundEmail data =>
      if signal.status ≠ .pendingSend then none
      else if data.sendInitiatedAt ≠ some payload.sendInitiatedAt then none
      else some (signal, data)
    | _ => none

theorem pendingDraft_eq_some {payload : DraftSendPayload} {found : Option Signal} {signal : Signal}
    {data : OutboundEmailSignalData} (h : pendingDraft payload found = some (signal, data)) :
    found = some signal ∧ signal.data = .outboundEmail data ∧ signal.status = .pendingSend ∧
      data.sendInitiatedAt = some payload.sendInitiatedAt := by
  unfold pendingDraft at h
  split at h
  · cases h
  · next signal' =>
    split at h
    · next data' hdata =>
      split at h
      · cases h
      · split at h
        · cases h
        · next hstatus hinitiated =>
          cases h
          exact ⟨rfl, hdata, not_not.mp hstatus, not_not.mp hinitiated⟩
    · cases h

def sendDraft (stale : String → Bool) (payload : DraftSendPayload) (signal : Signal)
    (data : OutboundEmailSignalData) : SendProg (Except DeliveryError Unit) := do
  let mxResult : Except (List String) Unit ←
    perform (.validateRecipientMx (data.toAddresses ++ data.cc ++ data.bcc))
  match mxResult with
  | .error invalidDomains =>
    parkDraft payload.accountId signal payload.threadId
      ("Recipient domain does not accept mail: " ++ String.intercalate ", " invalidDomains)
  | .ok () => do
    let inReplyTo ← resolveInReplyTo stale payload.accountId payload.threadId data
    let attachments ← resolveAttachments data.attachments
    match attachments with
    | .error reason => return .error (.thrown reason)
    | .ok () => do
      let sendResult : Except ReplySendError SendReceipt ← perform (.sendReply {
        accountId := payload.accountId
        draft := signal
        data := data
        threadId := payload.threadId
        inReplyTo := inReplyTo
        hopCount := parseHopCount data.headers })
      match sendResult with
      | .error error =>
        if isPermanent error then
          parkDraft payload.accountId signal payload.threadId (describeSendFailure error)
        else return .error (.send error)
      | .ok receipt =>
        writeStatus payload.accountId signal.signalLookupId
          (sentUpdate payload.accountId payload.threadId receipt)

def process (stale : String → Bool) (payload : DraftSendPayload) :
    SendProg (Except DeliveryError Unit) := do
  let signalResult : Except DbError (Option Signal) ←
    db (getSignalById stale payload.accountId payload.signalId payload.threadId)
  match signalResult with
  | .error error => return .error (.db error)
  | .ok signal => match pendingDraft payload signal with
    | none => return .ok ()
    | some (signal, data) => sendDraft stale payload signal data

end SesEmailAdapter.Processor.DraftSendWorker
