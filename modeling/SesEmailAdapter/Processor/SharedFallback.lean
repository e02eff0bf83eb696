import SesEmailAdapter.Processor.IngestThreads

/-! # Messages of one process

A process handles one message after the other. The classifier answers a response that was cut off
with one object of the process, and the pipeline writes the workflow of the health check into the
object it was given, so a message of the system account can change the class of later ones. -/

namespace SesEmailAdapter.Processor.SharedFallback
open Lib
open SesEmailAdapter.Types Database.Shared
open Processor.IngestService Processor.InboundMessage
open Processor.IncomingEmail
open Processor.IngestRedelivery Processor.IngestThreads

/-! ## Runs that agree -/

section Agree
variable {C S F α : Type} {A : C → Type}

/-- Two runs of one program from related states make the same calls and have the same result. -/
theorem run_agree {sv : Service C A S F} {R : S → S → Prop}
    (hsettle : ∀ c s s' f, R s s' → (sv.settle c s f).1 = (sv.settle c s' f).1 ∧
      R (sv.settle c s f).2 (sv.settle c s' f).2)
    (p : Prog C A α) (fs : Faults F) {s s' : S} (h : R s s') :
    (p.run sv fs s).result = (p.run sv fs s').result ∧
      R (p.run sv fs s).store (p.run sv fs s').store ∧
        (p.run sv fs s).trace = (p.run sv fs s').trace := by
  induction p generalizing fs s s' with
  | ret a =>
    match fs with
    | none :: fs => exact ⟨rfl, h, rfl⟩
    | [] => exact ⟨rfl, h, rfl⟩
    | some t :: fs => exact ⟨rfl, h, rfl⟩
  | call c k ih =>
    match fs with
    | none :: fs => exact ⟨rfl, h, rfl⟩
    | [] =>
      obtain ⟨hanswer, hnext⟩ := hsettle c s s' sv.usual h
      obtain ⟨hresult, hstore, htrace⟩ := ih _ [] hnext
      simp only [Prog.run, hanswer]
      exact ⟨hresult, hstore, congrArg _ htrace⟩
    | some t :: fs =>
      obtain ⟨hanswer, hnext⟩ := hsettle c s s' t h
      obtain ⟨hresult, hstore, htrace⟩ := ih _ fs hnext
      simp only [Prog.run, hanswer]
      exact ⟨hresult, hstore, congrArg _ htrace⟩

end Agree

/-! ## The process -/

/-- What `classify` makes of the model's response. -/
inductive ModelResponse
  | failed (error : DbError)
  /-- The model ran out of output tokens. -/
  | truncated
  | parsed (output : ClassificationOutput)

/-- The object that `UNSPECIFIED_FALLBACK` names, as the process loads it. -/
def UNSPECIFIED_FALLBACK : ClassificationOutput := unclassified

/-- A running process: `fallback` is the present content of the shared object, and `inHand` the
account of the delivery that was given the object. -/
structure Host where
  world : World
  fallback : ClassificationOutput
  inHand : Option String

/-- The object in hand after the override for the system account. -/
def Host.overridden (host : Host) : ClassificationOutput :=
  match host.inHand with
  | some accountId => withSystemWorkflow accountId host.fallback
  | none => host.fallback

/-- The services as a delivery meets them. The override is written once the primary embedding is
there. -/
def settle (env : Env) (respond : Nat → ClassificationInput → ModelResponse) :
    (c : Cmd) → Host → Fate → c.Answer × Host
  | .ask (.classify input), host, _ =>
    let world := { host.world with tick := host.world.tick + 1 }
    match respond host.world.tick input with
    | .failed error => (.error error, ⟨world, host.fallback, none⟩)
    | .truncated => (.ok host.fallback, ⟨world, host.fallback, some input.accountId⟩)
    | .parsed output => (.ok output, ⟨world, host.fallback, none⟩)
  | .ask (.embed senderDomain subject classification), host, fate =>
    let settled := IngestService.settle env (.ask (.embed senderDomain subject classification))
      host.world fate
    match settled.1 with
    | .ok embedding => (.ok embedding, ⟨settled.2, host.overridden, host.inHand⟩)
    | .error error => (.error error, { host with world := settled.2 })
  | c, host, fate =>
    ((IngestService.settle env c host.world fate).1,
      { host with world := (IngestService.settle env c host.world fate).2 })

/-- A message with the services, the responses of the model and the faults that it meets. -/
structure Handling where
  env : Env
  respond : Nat → ClassificationInput → ModelResponse
  msg : InboundSignalMessage
  receiveCount : Nat
  opts : ProcessInboundOptions
  faults : Faults Fate

def Handling.run (mail : Handling) (host : Host) :
    Outcome Host Cmd Fate (Except IngestError Unit) :=
  (processInbound mail.env mail.msg mail.receiveCount mail.opts).run
    ⟨settle mail.env mail.respond, .done⟩ mail.faults { host with inHand := none }

/-- The process with nothing of earlier messages. -/
def Host.fresh (host : Host) : Host := { host with fallback := UNSPECIFIED_FALLBACK }

/-- A crash ends the process. -/
def handle (host : Host) (mail : Handling) : Host :=
  if (mail.run host).result.isSome then (mail.run host).store else (mail.run host).store.fresh

/-- The message is processed as by a fresh process: with the same result, the same stored state and
dispatched actions, and the same calls. -/
structure AsFresh (host : Host) (mail : Handling) : Prop where
  result : (mail.run host).result = (mail.run host.fresh).result
  world : (mail.run host).store.world = (mail.run host.fresh).store.world
  trace : (mail.run host).trace = (mail.run host.fresh).trace

/-- Where the model's response to the message can be cut off, the shared object is as it was
loaded. -/
def ObjectIntact (host : Host) (mail : Handling) : Prop :=
  (∃ tick input, mail.respond tick input = .truncated) → host.fallback = UNSPECIFIED_FALLBACK

/-! ## Independence -/

variable {host : Host} {mail : Handling}

/-- Two processes that differ in the object only, which is not in hand. -/
structure Agree (a b : Host) : Prop where
  world : a.world = b.world
  left : a.inHand = none
  right : b.inHand = none

theorem settle_agree (hwhole : ∀ tick input, mail.respond tick input ≠ .truncated) (c : Cmd)
    (a b : Host) (fate : Fate) (h : Agree a b) :
    (settle mail.env mail.respond c a fate).1 = (settle mail.env mail.respond c b fate).1 ∧
      Agree (settle mail.env mail.respond c a fate).2
        (settle mail.env mail.respond c b fate).2 := by
  obtain ⟨world, fallback, inHand⟩ := a
  obtain ⟨world', fallback', inHand'⟩ := b
  obtain ⟨rfl, rfl, rfl⟩ := h
  cases c with
  | ask e =>
    cases e with
    | classify input =>
      simp only [settle]
      cases hresponse : mail.respond world.tick input with
      | failed error => exact ⟨rfl, rfl, rfl, rfl⟩
      | truncated => exact absurd hresponse (hwhole _ _)
      | parsed output => exact ⟨rfl, rfl, rfl, rfl⟩
    | embed senderDomain subject classification =>
      simp only [settle]
      split
      · exact ⟨rfl, rfl, rfl, rfl⟩
      · exact ⟨rfl, rfl, rfl, rfl⟩
    | _ => exact ⟨rfl, rfl, rfl, rfl⟩
  | _ => exact ⟨rfl, rfl, rfl, rfl⟩

theorem asFresh_of_whole (hwhole : ∀ tick input, mail.respond tick input ≠ .truncated) :
    AsFresh host mail := by
  have hstart : Agree { host with inHand := none } { host.fresh with inHand := none } :=
    ⟨rfl, rfl, rfl⟩
  let services : Service Cmd Cmd.Answer Host Fate := ⟨settle mail.env mail.respond, .done⟩
  have hsettle : ∀ c a b fate, Agree a b →
      (services.settle c a fate).1 = (services.settle c b fate).1 ∧
        Agree (services.settle c a fate).2 (services.settle c b fate).2 := settle_agree hwhole
  obtain ⟨hresult, hstore, htrace⟩ := run_agree hsettle
    (processInbound mail.env mail.msg mail.receiveCount mail.opts) mail.faults hstart
  exact ⟨hresult, hstore.world, htrace⟩

theorem asFresh_of_intact (h : ObjectIntact host mail) : AsFresh host mail := by
  by_cases htruncated : ∃ tick input, mail.respond tick input = .truncated
  · have hsame : host.fresh = host := by rw [Host.fresh, ← h htruncated]
    constructor <;> rw [hsame]
  · push Not at htruncated
    exact asFresh_of_whole htruncated

/-- **Where the shared object is intact for every message that may be answered with it, each
message of a process is handled as by a fresh one.** -/
theorem handled_independently {mails : List Handling}
    (h : EachFits handle ObjectIntact host mails) : EachFits handle AsFresh host mails :=
  eachFits_of_invariant (P := fun _ => True)
    (fun _ _ _ hintact => ⟨trivial, asFresh_of_intact hintact⟩) trivial h

/-! ## A health check before a greeting -/

def healthAlias : Alias :=
  { recipientAlias with
    accountId := Database.AccountDatabase.SYSTEM_ACCOUNT_ID, aliasAddress := "health@example.com" }

def healthMail : InboundSignalMessage :=
  { greetingMail with
    compositeMailMessageId := "ses-0", primaryRecipient := "health@example.com"
    hasSource := by unfold isOwnLookupId; decide }

def startHost : Host where
  world := { aliasWorld with
    accounts := ⟨aliasWorld.accounts.aliases.put healthAlias, .empty, .empty⟩ }
  fallback := UNSPECIFIED_FALLBACK
  inHand := none

def healthCheck : Handling := ⟨greetingEnv, fun _ _ => .truncated, healthMail, 1, noOptions, []⟩

def cutOffGreeting : Handling :=
  ⟨greetingEnv, fun _ _ => .truncated, greetingMail, 1, noOptions, []⟩

def wholeGreeting : Handling :=
  ⟨greetingEnv, fun _ _ => .parsed unclassified, greetingMail, 1, noOptions, []⟩

def workflowsOf (host : Host) : List Workflow := host.world.table.threads.rows.map Thread.workflow

/-- The greeting after the health check starts a thread of health checks. -/
theorem greeting_not_independent :
    ¬ EachFits handle AsFresh startHost [healthCheck, cutOffGreeting] := by
  rintro ⟨-, hsecond, -⟩
  have hworkflows : workflowsOf (cutOffGreeting.run (handle startHost healthCheck)).store =
      workflowsOf (cutOffGreeting.run (handle startHost healthCheck).fresh).store :=
    congrArg (fun world : World => world.table.threads.rows.map Thread.workflow) hsecond.world
  revert hworkflows
  decide +kernel

theorem wholeGreeting_independent :
    EachFits handle ObjectIntact startHost [healthCheck, wholeGreeting] ∧
      EachFits handle AsFresh startHost [healthCheck, wholeGreeting] := by
  have hwhole (host : Host) : ObjectIntact host wholeGreeting := by
    rintro ⟨tick, input, hresponse⟩
    cases hresponse
  have hintact : EachFits handle ObjectIntact startHost [healthCheck, wholeGreeting] :=
    ⟨fun _ => rfl, hwhole _, trivial⟩
  exact ⟨hintact, handled_independently hintact⟩

end SesEmailAdapter.Processor.SharedFallback
