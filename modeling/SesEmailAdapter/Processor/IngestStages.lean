import SesEmailAdapter.Processor.IncomingEmail

/-! # The stages of a delivery

How far a delivery of an inbound message has come, seen from its calls alone. A delivery that
finds no signal of its message makes the thread first and then the signal; one that finds a
signal only resumes. -/

namespace SesEmailAdapter.Processor.IngestStages
open Lib
open SesEmailAdapter.Types Database.Shared
open Database.ThreadDatabase Database.AccountDatabase
open Processor.IngestService Processor.InboundMessage
open Processor.IncomingEmail Processor.RuleOutcome

/-! ## Stages -/

/-- `seen` are the threads read so far. An orphaned thread was created, but its signal was not
saved. A stored signal is of a new thread when this delivery created the thread; `sent` tells that
the side effects were dispatched. -/
inductive Stage
  | resolving
  | unaliased
  | resolved (accountId : String)
  | fresh (accountId : String) (seen : List String)
  | created (accountId threadId : String)
  | orphaned (accountId threadId : String)
  | stored (signal : Signal) (isNew sent : Bool)
  | resuming (accountId : String) (existing : Signal) (sent : Bool)

def afterOwner (owner : Option Domain) : Stage :=
  match activeOwner owner with
  | none => .unaliased
  | some resolved => .resolved resolved.accountId

def afterAliases (env : Env) (recipientAddress : String) (item : Option Alias) : Stage :=
  match item with
  | some item => .resolved item.accountId
  | none => match systemDomainOwner env.mailDomain (domainOf recipientAddress) with
    | none => .unaliased
    | some owner => afterOwner (some owner)

/-- A health check of the system is resolved without a call. -/
def start (env : Env) (msg : InboundSignalMessage) : Stage :=
  match systemAlias env.mailDomain msg.primaryRecipient with
  | none => .resolving
  | some item => .resolved item.accountId

/-- The signal of the message, not one that the system makes beside it. -/
def IsSignalOf (msg : InboundSignalMessage) (accountId : String) (signal : Signal) : Prop :=
  signal.accountId = accountId ∧ signal.signalLookupId = msg.compositeMailMessageId

/-- A signal in memory has the matched rules of the stored one, up to the action that calendar
processing adds. -/
def SameRules (stored signal : Signal) : Prop :=
  signal.matchedRules = stored.matchedRules ∨
    (hasForwardCalendarInvite stored.matchedRules = false ∧
      signal.matchedRules = stored.matchedRules ++ [calendarForwardRule])

def FreshCall (msg : InboundSignalMessage) (accountId : String) (seen : List String) : Cmd → Prop
  | .ask _ => True
  | .attempt _ => True
  | .accounts (.getSender ..) => True
  | .accounts (.putAlias item) =>
    item.accountId = accountId ∧ item.aliasAddress = msg.primaryRecipient
  | .accounts (.putSender _) => True
  | .db (.queryThreadsByGroupingKey account _) => account = accountId
  | .db (.querySignalsByGsi3 _) => True
  | .db (.getThread account _) => account = accountId
  | .db (.putNewThread thread) => thread.accountId = accountId
  | .db (.updateThread account id _ _ _ _) => account = accountId ∧ id ∈ seen
  | .db (.putSignal signal) => isOwnLookupId signal.signalLookupId ∨
      (IsSignalOf msg accountId signal ∧ ∀ id, signal.threadId = some id → id ∈ seen)
  | _ => False

def StoredCall (stored : Signal) : Cmd → Prop
  | .ask _ => True
  | .attempt _ => True
  | .db (.getSignal ..) => True
  | .db (.putSignal signal) => isOwnLookupId signal.signalLookupId
  | .db (.putCalendarEvent signal _) => isOwnLookupId signal.signalLookupId
  | .saveResource .. => True
  | .saveIcsContent .. => True
  | .upsertEmbeddings .. => True
  | .sendMessage payload => SameRules stored payload.signal
  | _ => False

def ResumeCall (accountId : String) (existing : Signal) : Cmd → Prop
  | .ask _ => True
  | .attempt _ => True
  | .db (.getThread account _) => account = accountId
  | .upsertEmbeddings .. => True
  | .sendMessage payload => payload.signal = existing
  | _ => False

/-- The answer of a write reports it, or the write took place without a report. -/
def written (fate : Fate) (answer : Except DbError Unit) : Bool :=
  fate ≠ .refused || answer.toBool

def afterLookup (env : Env) (accountId : String) : Option Signal → Stage
  | none => .fresh accountId []
  | some item => .resuming accountId (readSignal env.stale item) false

def monitor (env : Env) (msg : InboundSignalMessage) : Monitor Cmd Cmd.Answer Fate Stage where
  allow
    | .resolving, .accounts (.queryAliases address) => address = msg.primaryRecipient
    | .unaliased, .accounts (.queryDomains domain) => domain = domainOf msg.primaryRecipient
    | .resolved accountId, .db (.getSignal account lookupId) =>
      account = accountId ∧ lookupId = msg.compositeMailMessageId
    | .fresh accountId seen, c => FreshCall msg accountId seen c
    | .created accountId threadId, .db (.putSignal signal) =>
      IsSignalOf msg accountId signal ∧ signal.threadId = some threadId
    | .stored signal _ _, c => StoredCall signal c
    | .resuming accountId existing _, c => ResumeCall accountId existing c
    | _, _ => False
  next
    | .resolving, .accounts (.queryAliases _), _, .ok items =>
      afterAliases env msg.primaryRecipient items.head?
    | .unaliased, .accounts (.queryDomains _), _, .ok items => afterOwner (oldestRegistration items)
    | .resolved accountId, .db (.getSignal ..), _, .ok item => afterLookup env accountId item
    | .fresh accountId seen, .db (.queryThreadsByGroupingKey ..), _, .ok threads =>
      .fresh accountId (threads.map Thread.id ++ seen)
    | .fresh accountId seen, .db (.getThread _ id), _, .ok (some thread) =>
      .fresh accountId (id :: thread.id :: seen)
    | .fresh accountId _, .db (.putNewThread thread), _, .ok () => .created accountId thread.id
    | .fresh accountId seen, .db (.putSignal signal), fate, answer =>
      if signal.signalLookupId = msg.compositeMailMessageId ∧ written fate answer then
        .stored signal false false
      else .fresh accountId seen
    | .created accountId threadId, .db (.putSignal signal), fate, answer =>
      if written fate answer then .stored signal true false else .orphaned accountId threadId
    | .stored signal isNew _, .sendMessage _, _, .ok () => .stored signal isNew true
    | .resuming accountId existing _, .sendMessage _, _, .ok () =>
      .resuming accountId existing true
    | q, _, _, _ => q

variable {env : Env} {msg : InboundSignalMessage} {receiveCount : Nat}
  {opts : ProcessInboundOptions} {accountId : String} {seen : List String}

/-! ## How a delivery ends -/

/-- Where a delivery can be done. A retry that resumes is done only after it has dispatched the
side effects of a signal with a thread. -/
def Stage.MayEnd (receiveCount : Nat) : Stage → Prop
  | .resolving => False
  | .unaliased => False
  | .resolved _ => False
  | .orphaned .. => False
  | .resuming _ existing sent => receiveCount > 1 → existing.threadId.getD "" ≠ "" ∧ sent = true
  | _ => True

/-- A delivery that has just created its thread goes on to save the signal. -/
def Stage.Settled : Stage → Prop
  | .created .. => False
  | _ => True

def Stopped (receiveCount : Nat) (q : Stage) (stop : Stop) : Prop :=
  q.Settled ∧ (stop = .finished → q.MayEnd receiveCount)

/-- A delivery at the convergence point has stored its signal. -/
def Converging (q : Stage) (converged : Converged) : Prop :=
  ∃ signal isNew, q = .stored signal isNew false ∧ SameRules signal converged.signal

theorem stopped_failed {q : Stage} {error : IngestError} (h : q.Settled) :
    Stopped receiveCount q (.failed error) :=
  ⟨h, nofun⟩

@[simp] theorem stopped_fresh {stop : Stop} : Stopped receiveCount (.fresh accountId seen) stop :=
  ⟨trivial, fun _ => trivial⟩

@[simp] theorem stopped_stored {signal : Signal} {isNew sent : Bool} {stop : Stop} :
    Stopped receiveCount (.stored signal isNew sent) stop :=
  ⟨trivial, fun _ => trivial⟩

theorem sameRules_refl (signal : Signal) : SameRules signal signal := .inl rfl

/-! ## Calls that leave the stage -/

/-- Calls of a fresh delivery that concern neither its thread nor its signal. -/
def Quiet (msg : InboundSignalMessage) (accountId : String) : Cmd → Prop
  | .ask _ => True
  | .attempt _ => True
  | .accounts (.getSender ..) => True
  | .accounts (.putAlias item) =>
    item.accountId = accountId ∧ item.aliasAddress = msg.primaryRecipient
  | .accounts (.putSender _) => True
  | .db (.querySignalsByGsi3 _) => True
  | .db (.putSignal signal) => isOwnLookupId signal.signalLookupId
  | _ => False

theorem Quiet.idle {c : Cmd} (h : Quiet msg accountId c) :
    (monitor env msg).Idle (.fresh accountId seen) c := by
  rcases c with c | _ | _ | _ | _ | _ | _ | _
  cases c
  case db.putSignal signal =>
    have hne : signal.signalLookupId ≠ msg.compositeMailMessageId := fun heq =>
      msg.hasSource (heq ▸ h)
    exact ⟨.inl h, fun f r => if_neg fun hw => hne hw.1⟩
  case db.querySignalsByGsi3 => exact ⟨trivial, fun _ _ => rfl⟩
  case ask => exact ⟨trivial, fun _ _ => rfl⟩
  case attempt => exact ⟨trivial, fun _ _ => rfl⟩
  case accounts c =>
    cases c
    case getSender => exact ⟨trivial, fun _ _ => rfl⟩
    case putAlias => exact ⟨h, fun _ _ => rfl⟩
    case putSender => exact ⟨trivial, fun _ _ => rfl⟩
    all_goals exact h.elim
  all_goals exact h.elim

end SesEmailAdapter.Processor.IngestStages
