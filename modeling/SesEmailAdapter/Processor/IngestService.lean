import SesEmailAdapter.Database.AccountDatabase
import SesEmailAdapter.Database.ThreadDatabase
import SesEmailAdapter.Processor.RuleOutcome
import SesEmailAdapter.Resource.ResourceDatabase

/-! # What the ingest of an email calls

The tables, the queue of side effects, and the services outside the repository. A service
answers whatever it likes at each tick of the run: the environment holds all its answers. -/

namespace SesEmailAdapter.Processor.IngestService
open Lib
open SesEmailAdapter.Types Database Database.Shared
open Processor.RuleOutcome Resource.ResourceDatabase

/-! ## Data of the services -/

inductive Verdict
  | pass | fail | gray | processingFailed | disabled
deriving DecidableEq, Repr

inductive BillingPlan
  | free | paid | internal
deriving DecidableEq, Repr

structure Account where
  id : String
  retentionDuration : Option String
  /-- `filtering.defaultUnknownSenderPolicy` -/
  defaultUnknownSenderPolicy : Option UnknownSenderPolicy
  billingPlan : Option BillingPlan
  timezone : Option String
  ambiguousDateFormat : Option String
deriving DecidableEq, Repr

structure Label where
  name : String
  applyInstruction : String
deriving DecidableEq, Repr

structure ParsedMime where
  sender : EmailAddress
  toAddresses : List EmailAddress
  subject : String
  attachments : List Attachment
  headers : Fields
  replyTo : Option EmailAddress
  textBody : Option String
  htmlBody : Option String
deriving DecidableEq, Repr

structure ExtractedAsset where
  type : String
  label : String
  rawValue : String
  s3Key : Option String
deriving DecidableEq, Repr

structure SanitizedEmail where
  parsed : ParsedMime
  bounce : Option Fields
  assets : List ExtractedAsset
  links : List String
deriving DecidableEq, Repr

structure ClassificationInput where
  parsed : ParsedMime
  receivedAt : String
  labels : List Label
  extractedLinks : List String
  accountId : String
  accountTimezone : String
  ambiguousDateFormat : String
deriving DecidableEq, Repr

/-- `actions` are the URLs the classifier extracted. -/
structure ClassificationOutput where
  workflow : Workflow
  workflowData : WorkflowData
  summary : String
  labels : List String
  actions : List String
deriving DecidableEq, Repr

structure Embedding where
  modelId : String
  vector : List Int
deriving DecidableEq, Repr

structure RuleContext where
  signal : Signal
  thread : Thread
  isMatchedThread : Bool
deriving DecidableEq, Repr

structure ExtractedEvent where
  data : CalendarEventData
  rawIcsContent : String
deriving DecidableEq, Repr

structure CalendarExtraction where
  validEvents : List ExtractedEvent
  /-- The reasons of the attachments that were rejected. -/
  invalidAttachments : List String
deriving DecidableEq, Repr

structure SideEffectPayload where
  signal : Signal
  thread : Thread
  skipNotify : Bool
deriving DecidableEq, Repr

/-! ## Calls -/

inductive External
  | now
  | newId
  | getAccount (accountId : String)
  | listLabels (accountId : String)
  | listEnabledRules (accountId : String)
  | sanitize (s3Key accountId : String)
  | handleInboundBounce (bounce : Fields) (accountId : String)
  | classify (input : ClassificationInput)
  | embed (senderDomain subject : String) (classification : ClassificationOutput)
  | embedSecondary (senderDomain subject : String) (classification : ClassificationOutput)
  | findMatch (accountId recipientAddress : String) (embedding : List Int)
  | evaluate (rule : Rule) (context : RuleContext)
  | extractCalendar (attachments : List Attachment)
deriving DecidableEq, Repr

/-- A service that can throw answers with an error as well. `findMatch` names a thread. -/
@[reducible] def External.Answer : External → Type
  | .now => String
  | .newId => String
  | .getAccount _ => Except DbError (Option Account)
  | .listLabels _ => Except DbError (List Label)
  | .listEnabledRules _ => Except DbError (List Rule)
  | .sanitize .. => Except DbError SanitizedEmail
  | .handleInboundBounce .. => Except DbError Unit
  | .classify _ => Except DbError ClassificationOutput
  | .embed .. => Except DbError Embedding
  | .embedSecondary .. => List (Except DbError Embedding)
  | .findMatch .. => Except DbError (Option String)
  | .evaluate .. => RuleEvalResult
  | .extractCalendar _ => Except DbError (Option CalendarExtraction)

/-- Calls whose outcome changes nothing here: their failures are logged. -/
inductive Effort
  | incrementStatMetric (accountId metric idempotencyKey : String)
  | updateGlobalReputation (senderETLD1 : String) (status : SignalStatus)
  | notifySignal (signal : Signal)
  | applyPlanRetention (s3Key : String) (billingPlan : BillingPlan)
  | scheduleReminders (calendarSignal : Signal)
  | deleteEmbeddingsForThread (accountId threadId : String)
  | setThreadTtlFallback (accountId threadId : String)
deriving DecidableEq, Repr

inductive Cmd
  | db (c : SignalsTable.Cmd)
  | accounts (c : AccountsTable.Cmd)
  | ask (e : External)
  | attempt (e : Effort)
  | saveResource (params : SaveResourceParams) (now : String)
  | saveIcsContent (s3Key content : String)
  | upsertEmbeddings (signal : Signal) (thread : Thread)
  | sendMessage (payload : SideEffectPayload)
deriving DecidableEq, Repr

@[reducible] def Cmd.Answer : Cmd → Type
  | .db c => c.Answer
  | .accounts c => c.Answer
  | .ask e => e.Answer
  | .attempt _ => Unit
  | .saveResource .. => Except DbError Unit
  | .saveIcsContent .. => Except DbError Unit
  | .upsertEmbeddings .. => Except DbError Unit
  | .sendMessage _ => Except DbError Unit

/-! ## Their meaning -/

/-- What lies outside the repository: the answers of the services by tick, and the functions of
its libraries. -/
structure Env where
  answer : Nat → (e : External) → e.Answer
  mailDomain : String
  /-- The three check characters of an id, from its SHA-256. -/
  checkCharsFor : String → String
  /-- The registrable domain of a host, by the public suffix list. -/
  getDomain : String → Option String
  isUrl : String → Bool
  /-- The timestamp lies more than `PENDING_SEND_STALE_HOURS` back. -/
  stale : String → Bool

/-- `dispatched` are the side-effect messages queued, newest first. -/
structure World where
  table : SignalsTable.Store
  accounts : AccountsTable.Store
  resources : ResourceTable
  dispatched : List SideEffectPayload
  tick : Nat

/-- A request that returns nothing, with its effect on the world. -/
def settleEffect (effect : World → World) (w : World) : Fate → Except DbError Unit × World
  | .done => (.ok (), effect w)
  | .refused => (.error SignalsTable.requestFailed, w)
  | .lost => (.error SignalsTable.requestFailed, effect w)

def settle (env : Env) : (c : Cmd) → World → Fate → c.Answer × World
  | .db c, w, fate =>
    ((SignalsTable.settle c w.table fate).1,
      { w with table := (SignalsTable.settle c w.table fate).2 })
  | .accounts c, w, fate =>
    ((AccountsTable.settle c w.accounts fate).1,
      { w with accounts := (AccountsTable.settle c w.accounts fate).2 })
  | .ask e, w, _ => (env.answer w.tick e, { w with tick := w.tick + 1 })
  | .attempt _, w, _ => ((), w)
  | .saveResource params now, w, fate =>
    settleEffect (fun w => { w with resources := saveResourceItem w.resources params now }) w fate
  | .saveIcsContent .., w, fate => settleEffect id w fate
  | .upsertEmbeddings .., w, fate => settleEffect id w fate
  | .sendMessage payload, w, fate =>
    settleEffect (fun w => { w with dispatched := payload :: w.dispatched }) w fate

def service (env : Env) : Service Cmd Cmd.Answer World Fate := ⟨settle env, .done⟩

/-- The durable steps of the ingest: its writes, the upserts and the dispatch. -/
def Cmd.isDurable : Cmd → Bool
  | .db (.getSignal ..) => false
  | .db (.querySignals ..) => false
  | .db (.querySignalsByGsi3 _) => false
  | .db (.getThread ..) => false
  | .db (.queryThreadsByGroupingKey ..) => false
  | .db _ => true
  | .accounts (.putAlias _) => true
  | .accounts (.putSender _) => true
  | .saveResource .. => true
  | .saveIcsContent .. => true
  | .upsertEmbeddings .. => true
  | .sendMessage _ => true
  | _ => false

abbrev IngestProg (α : Type) := Prog Cmd Cmd.Answer α

def db {α : Type} (p : SignalsTable.DbProg α) : IngestProg α := p.embed .db fun _ r => r

def accounts {α : Type} (p : AccountsTable.DbProg α) : IngestProg α :=
  p.embed .accounts fun _ r => r

@[simp] def ask (e : External) : IngestProg e.Answer := Prog.perform (Cmd.ask e)

@[simp] def attempt (e : Effort) : IngestProg Unit := Prog.perform (Cmd.attempt e)

def generateId (id : String) : IngestProg String := do
  let encoded : String ← ask .newId
  return id ++ encoded

/-- The id of the thread a signal starts; only the start of the id differs. -/
def deriveThreadIdFromSignalId (env : Env) (signalId : String) : String :=
  let encoded := String.ofList ((signalId.toList.drop 4).dropLast.dropLast.dropLast)
  "thr-" ++ encoded ++ env.checkCharsFor encoded

def getETLD1 (env : Env) (emailOrDomain : String) : String :=
  let domain := String.ofList (Email.Address.afterLastAt emailOrDomain.toList)
  (env.getDomain domain).getD domain

end SesEmailAdapter.Processor.IngestService
