import SesEmailAdapter.Processor.IncomingEmail

/-! # Reprocessing

A stored email run through the whole ingest once more, under its own id and with the checks of a
first delivery forced. Its source thread, when it has one, is tidied up before and after. -/

namespace SesEmailAdapter.Processor.Reprocess
open Lib
open SesEmailAdapter.Types Database Database.Shared
open Database.ThreadDatabase
open Processor.IngestService Processor.InboundMessage
open Processor.IncomingEmail

inductive ReprocessError
  | processor (message : String)
  | notFound (kind id : String)
  | threadIdCollision (threadId : String)
deriving DecidableEq, Repr

structure ReprocessOptions where
  skipNotify : Bool
  skipAllMatchedRuleStatusActions : Bool
deriving DecidableEq, Repr

abbrev ReplayProg (α : Type) := ExceptT ReprocessError IngestProg α

def processorError {α : Type} (error : DbError) : ReplayProg α := throw (.processor error.message)

/-! ## The source thread -/

def EPOCH : String := "1970-01-01T00:00:00.000Z"

/-- A mail that the account composes is received when it is created. -/
def recencyOf (signal : Signal) : String :=
  match signal.data with
  | .inboundEmail data => data.receivedAt
  | _ => signal.createdAt

def latestRecency (items : List Signal) : String :=
  let latest := items.foldl (fun max s => if max < recencyOf s then recencyOf s else max) ""
  if latest = "" then EPOCH else latest

def noFields : SignalsTable.UpdateThreadFields :=
  ⟨none, none, none, none, none, none, none, none, none, none⟩

/-- Sets the recency of a thread to that of its remaining signals; a failure is logged. -/
def repairThreadRecency (accountId threadId : String) : IngestProg Unit := do
  let threadResult ← db (getThread accountId threadId)
  match threadResult.toOption.join with
  | none => return ()
  | some thread => do
    let signalsResult ← db (listSignals accountId threadId 50)
    match signalsResult with
    | .error _ => return ()
    | .ok items =>
      let newLastSignalAt := latestRecency items
      if newLastSignalAt = thread.lastSignalAt then return ()
      else do
        let now : String ← ask .now
        let _ ← db (updateThread accountId threadId thread.status newLastSignalAt now noFields)

def repairSource (accountId : String) : Option String → IngestProg Unit
  | none => return ()
  | some threadId => repairThreadRecency accountId threadId

/-- A thread that the replay will leave empty is no match for later mail, and expires. -/
def releaseSource (accountId : String) (existing : Signal) : Option String → IngestProg Unit
  | none => return ()
  | some threadId => do
    let otherSignalsResult ← db (listSignals accountId threadId 2)
    match otherSignalsResult with
    | .error _ => return ()
    | .ok items =>
      if items.any fun s => s.id ≠ existing.id then return ()
      else do
        attempt (.deleteEmbeddingsForThread accountId threadId)
        attempt (.setThreadTtlFallback accountId threadId)

/-! ## The replay -/

/-- The message of a stored mail, with the verdicts taken as given. -/
def replayMessage (existing : Signal) (data : InboundEmailSignalData)
    (hasSource : ¬ isOwnLookupId existing.signalLookupId) : InboundSignalMessage where
  s3Key := data.s3Key
  compositeMailMessageId := existing.signalLookupId
  idempotencyKey := existing.id
  timestamp := data.receivedAt
  primaryRecipient := data.recipientAddress
  dkimVerdict := .pass
  dmarcVerdict := .pass
  hasSource := hasSource

def replayOptions (opts : ReprocessOptions) (existing : Signal) : ProcessInboundOptions where
  force := true
  unsafeSkipDmarc := true
  forceSignalId := some existing.id
  skipNotify := opts.skipNotify
  skipAllMatchedRuleStatusActions := opts.skipAllMatchedRuleStatusActions

/-- `JSON.stringify` of the error, which has no message of its own. -/
def noAccountMessage (recipientAddress compositeMailMessageId expectedAccountId : String) : String :=
  String.ofList (TextCodec.writeRecord
    [("kind".toList, "no_account_for_recipient".toList),
      ("recipientAddress".toList, recipientAddress.toList),
      ("compositeMailMessageId".toList, compositeMailMessageId.toList),
      ("expectedAccountId".toList, expectedAccountId.toList)])

def replayError (accountId : String) : IngestError → ReprocessError
  | .threadIdCollision threadId => .threadIdCollision threadId
  | .db error => .processor error.message
  | .noAccount recipientAddress compositeMailMessageId =>
    .processor (noAccountMessage recipientAddress compositeMailMessageId accountId)

/-- The signal as the replay has left it, read by its primary key. -/
def refetch (env : Env) (accountId signalLookupId : String) (sourceThreadId : Option String) :
    ReplayProg Signal := do
  let freshResult ← (db (getSignalByMessageId env.stale accountId signalLookupId) :
    IngestProg (Except DbError (Option Signal)))
  match freshResult with
  | .error error => processorError error
  | .ok none => throw (.processor "Signal not found after reprocess")
  | .ok (some fresh) => do
    repairSource accountId sourceThreadId
    return fresh

def replay (env : Env) (accountId : String) (existing : Signal) (msg : InboundSignalMessage)
    (opts : ReprocessOptions) : ReplayProg Signal := do
  releaseSource accountId existing existing.threadId
  let result ← (processInbound env msg 1 (replayOptions opts existing) :
    IngestProg (Except IngestError Unit))
  match result with
  | .error error => do
    repairSource accountId existing.threadId
    throw (replayError accountId error)
  | .ok () => refetch env accountId existing.signalLookupId existing.threadId

instance (lookupId : String) : Decidable (isOwnLookupId lookupId) :=
  inferInstanceAs (Decidable (_ ∨ _))

/-- An email signal that has no inbound payload is a draft; a draft was never put in S3. A mail
never has a lookup id of the system's own. -/
def reprocessExisting (env : Env) (accountId : String) (existing : Signal)
    (opts : ReprocessOptions) : ReplayProg Signal :=
  match existing.data with
  | .inboundEmail data =>
    if data.s3Key = "" then throw (.processor "Signal has no s3Key — cannot reprocess")
    else if h : isOwnLookupId existing.signalLookupId then
      throw (.processor "Signal has no source")
    else replay env accountId existing (replayMessage existing data h) opts
  | .outboundEmail _ => throw (.processor "Signal has no s3Key — cannot reprocess")
  | _ => throw (.processor "Only email signals can be reprocessed")

def reprocessSignal (env : Env) (accountId signalLookupId : String) (opts : ReprocessOptions) :
    ReplayProg Signal := do
  let existingResult ← (db (getSignalByMessageId env.stale accountId signalLookupId) :
    IngestProg (Except DbError (Option Signal)))
  match existingResult with
  | .error error => processorError error
  | .ok none => throw (.notFound "signal" signalLookupId)
  | .ok (some existing) => reprocessExisting env accountId existing opts

end SesEmailAdapter.Processor.Reprocess
