import SesEmailAdapter.Forwarding.Targets
import SesEmailAdapter.Processor.IngestService

/-! # What the sending paths call

The tables, the mail service and the queue of drafts, and the services outside the repository,
which answer whatever they like at each tick of a run. -/

namespace SesEmailAdapter.Processor.OutboundService
open Lib
open SesEmailAdapter.Types Database Database.Shared
open Email.Service
open Forwarding
open Forwarding.Targets (DigestFrequency)
open Notifier.ReplySender
open Processor.DraftSendWorker (DraftSendPayload SendReceipt Turn)

/-! ## Data of the services -/

structure TemplateFunction where
  name : String
  code : String
deriving DecidableEq, Repr

structure EmailTemplate where
  id : String
  name : String
  subject : String
  body : String
  functions : List TemplateFunction
deriving DecidableEq, Repr

/-- What a function of a template came to. -/
inductive FunctionResult
  | failed (errorType message : String)
  | text (value : String)
  | nothing
  | nonString (typeName : String)
deriving DecidableEq, Repr

/-- A reply on its way to the reply sender. -/
structure ReplyMail where
  opts : ReplyOptions
  inReplyTo : Option String
  autoSubmitted : Bool

/-! ## Calls -/

inductive External
  | now
  | newId
  | listDomains (accountId : String)
  | getDomainByName (accountId domain : String)
  | listUsers (accountId : String)
  | getUserEmail (userId : String)
  | listActiveThreads (accountId : String) (limit : Nat)
  | countVisibleQuarantine (accountId : String)
  /-- The time is less than four weeks back. -/
  | isRecent (createdAt : String)
  | shouldDispatchDigest (frequency : DigestFrequency)
  | getTemplate (accountId templateId : String)
  | templateFunction (accountId code : String) (signal : Signal) (thread : Thread)
  | getOriginalEmail (s3Key createdAt : String)
deriving DecidableEq, Repr

@[reducible] def External.Answer : External → Type
  | .now => String
  | .newId => String
  | .listDomains _ => Except DbError (List Domain)
  | .getDomainByName .. => Except DbError (Option Domain)
  | .listUsers _ => Except DbError (List String)
  | .getUserEmail _ => Except DbError (Option String)
  | .listActiveThreads .. => Except DbError (List Thread)
  | .countVisibleQuarantine _ => Except DbError Nat
  | .isRecent _ => Bool
  | .shouldDispatchDigest _ => Bool
  | .getTemplate .. => Except DbError (Option EmailTemplate)
  | .templateFunction .. => FunctionResult
  | .getOriginalEmail .. => Except DbError Unit

/-- Calls whose outcome changes nothing here: their failures are logged. -/
inductive Effort
  | notifySignal (accountId : String) (thread : Thread) (signal : Signal)
  | annotateTemplateError (accountId templateId functionName errorMessage : String)
deriving DecidableEq, Repr

/-- A `send` names the account that it is made for, which need not be its tenant. -/
inductive Cmd
  | db (c : SignalsTable.Cmd)
  | accounts (c : AccountsTable.Cmd)
  | targets (c : Targets.Cmd)
  | ask (e : External)
  | attempt (e : Effort)
  | send (accountId : String) (opts : SendOptions)
  | postWebhook (url : String) (signal : Signal)
  | sendReply (mail : ReplyMail)
  | dispatchWorkflow (signal : Signal) (thread : Thread)
  | dispatchDraft (payload : DraftSendPayload) (delaySeconds : Nat)

@[reducible] def Cmd.Answer : Cmd → Type
  | .db c => c.Answer
  | .accounts c => c.Answer
  | .targets c => c.Answer
  | .ask e => e.Answer
  | .attempt _ => Unit
  | .send .. => Except ReplySendError SendReceipt
  | .postWebhook .. => Except DbError Unit
  | .sendReply _ => Except ReplySendError SendReceipt
  | .dispatchWorkflow .. => Except DbError Unit
  | .dispatchDraft .. => Except DbError Unit

/-! ## Their meaning -/

structure Env where
  answer : Nat → (e : External) → e.Answer
  mailService : EmailService
  /-- The registrable domain of a host, by the public suffix list. -/
  getDomain : String → Option String

/-- `sent` and `replies` are the mails handed to a provider and `drafts` the drafts queued, newest
first. -/
structure World where
  table : SignalsTable.Store
  accounts : AccountsTable.Store
  targets : Targets.Store
  sent : List (String × SendOptions)
  replies : List ReplyMail
  drafts : List DraftSendPayload
  tick : Nat

def requestAnswer : Turn → Except DbError Unit
  | .request .refused => .error SignalsTable.requestFailed
  | .request .lost => .error SignalsTable.requestFailed
  | _ => .ok ()

def mailAnswer : Turn → Except ReplySendError SendReceipt
  | .mail _ answer => answer
  | _ => .ok ⟨"", none⟩

def settle (env : Env) : (c : Cmd) → World → Turn → c.Answer × World
  | .db c, w, turn =>
    ((SignalsTable.settle c w.table turn.fate).1,
      { w with table := (SignalsTable.settle c w.table turn.fate).2 })
  | .accounts c, w, turn =>
    ((AccountsTable.settle c w.accounts turn.fate).1,
      { w with accounts := (AccountsTable.settle c w.accounts turn.fate).2 })
  | .targets c, w, turn =>
    ((Targets.service.settle c w.targets turn.fate).1,
      { w with targets := (Targets.service.settle c w.targets turn.fate).2 })
  | .ask e, w, _ => (env.answer w.tick e, { w with tick := w.tick + 1 })
  | .attempt _, w, _ => ((), w)
  | .send accountId opts, w, turn => match env.mailService.send opts with
    | .error error => (.error (.invalidArgument error), w)
    | .ok _ =>
      (mailAnswer turn, if turn.hands then { w with sent := (accountId, opts) :: w.sent } else w)
  | .postWebhook .., w, turn => (requestAnswer turn, w)
  | .sendReply mail, w, turn =>
    let hopCount := mail.opts.hopCount.getD 0 + 1
    if hopCount > maxHopCount then (.error (.loopGuardTripped hopCount), w)
    else (mailAnswer turn, if turn.hands then { w with replies := mail :: w.replies } else w)
  | .dispatchWorkflow .., w, turn => (requestAnswer turn, w)
  | .dispatchDraft payload _, w, turn =>
    (requestAnswer turn,
      if turn.fate = .refused then w else { w with drafts := payload :: w.drafts })

def service (env : Env) : Service Cmd Cmd.Answer World Turn := ⟨settle env, .request .done⟩

abbrev OutboundProg (α : Type) := Prog Cmd Cmd.Answer α

def db {α : Type} (p : SignalsTable.DbProg α) : OutboundProg α := p.embed .db fun _ r => r

def accounts {α : Type} (p : AccountsTable.DbProg α) : OutboundProg α :=
  p.embed .accounts fun _ r => r

def targets {α : Type} (p : Targets.TargetProg α) : OutboundProg α := p.embed .targets fun _ r => r

@[simp] def ask (e : External) : OutboundProg e.Answer := Prog.perform (Cmd.ask e)

@[simp] def attempt (e : Effort) : OutboundProg Unit := Prog.perform (Cmd.attempt e)

def generateId (id : String) : OutboundProg String := do
  let encoded : String ← ask .newId
  return id ++ encoded

def getETLD1 (env : Env) (emailOrDomain : String) : String :=
  let domain := String.ofList (Email.Address.afterLastAt emailOrDomain.toList)
  (env.getDomain domain).getD domain

end SesEmailAdapter.Processor.OutboundService
