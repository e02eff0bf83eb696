import SesEmailAdapter.Lib.Runs
import SesEmailAdapter.Notifier.BounceSuppression
import SesEmailAdapter.Processor.InboundMessage

/-! # Deliveries of a bounce

A notification of a bounce, from the provider's feedback or as a mail that reports a delivery
status, counts its recipients, leaves a signal and puts a wholly bounced draft back. Nothing records
that it was seen, so a second delivery does all of it again, also over what the user has made of the
draft in the meantime. -/

namespace SesEmailAdapter.Processor.BounceDeliveries
open Lib
open SesEmailAdapter.Types Email.Address
open Database Database.Shared Database.SignalsTable
open Database.ProcessingDatabase Database.ThreadDatabase
open Notifier.BounceSuppression
open Processor.InboundMessage
open Resource.ResourceDatabase (truthy)

/-! ## Requests -/

structure BouncedRecipient where
  address : String
  /-- `bounceType` -/
  permanent : Bool
  reason : Option String
deriving DecidableEq, Repr

structure DeliverabilitySignal where
  id : String
  signalLookupId : String
  threadId : Option String
  accountId : String
  createdAt : String
  linkedSignalId : String
  bouncedRecipients : List BouncedRecipient
  subject : String
deriving DecidableEq, Repr

structure ForwardingRule where
  id : String
  accountId : String
  forwardsTo : List String
  enabled : Bool
deriving DecidableEq, Repr

/-- What has become of the draft, in order. -/
inductive DraftEvent
  | reverted
  /-- The user has edited the draft, or has sent it anew. -/
  | acted
deriving DecidableEq, Repr

structure Store where
  signals : SignalsTable.Store
  suppressions : SuppressionTable
  rules : List ForwardingRule
  deliverability : List DeliverabilitySignal
  draftLog : List DraftEvent

inductive Cmd
  | signals (c : SignalsTable.Cmd)
  | suppressAddress (entry : SuppressedAddress)
  | disableRulesForwardingTo (accountId toAddress : String)
  /-- A signal under an id of its own. -/
  | saveSignal (signal : DeliverabilitySignal)

@[reducible] def Cmd.Answer : Cmd → Type
  | .signals c => c.Answer
  | .suppressAddress _ => Except DbError Nat
  | .disableRulesForwardingTo .. => Except DbError (List String)
  | .saveSignal _ => Except DbError Unit

abbrev BounceProg (α : Type) := Prog Cmd Cmd.Answer α

def request (c : Cmd) : BounceProg c.Answer := Prog.perform c

def onSignals {α : Type} (p : DbProg α) : BounceProg α := p.embed .signals fun _ answer => answer

/-! ## The bounce handler -/

structure LinkedSend where
  linkedSignalId : String
  signalLookupId : String
  threadId : Option String
deriving DecidableEq, Repr

structure HandleBounceParams where
  accountId : String
  bouncedRecipients : List BouncedRecipient
  isPermanent : Bool
  sesMessageId : Option String
  suppressionReason : SuppressionReason
  linkedSend : Option LinkedSend
  revertToDraft : Bool
  disableForwardingRules : Bool

def HandleBounceParams.entry (params : HandleBounceParams) (clock : Clock)
    (recipient : BouncedRecipient) : SuppressedAddress :=
  buildBounceSuppressionEntry clock recipient.address params.isPermanent params.suppressionReason
    params.sesMessageId (params.linkedSend.map LinkedSend.linkedSignalId)

def suppressAll (params : HandleBounceParams) (clock : Clock) :
    List BouncedRecipient → BounceProg (Except DbError Unit)
  | [] => return .ok ()
  | recipient :: rest => do
    let suppressResult : Except DbError Nat ←
      request (.suppressAddress (params.entry clock recipient))
    match suppressResult with
    | .error error => return .error error
    | .ok _ => suppressAll params clock rest

/-- A failure is logged, and the next address is taken. -/
def disableAll (accountId : String) : List BouncedRecipient → BounceProg Unit
  | [] => return ()
  | recipient :: rest => do
    let _ ← request (.disableRulesForwardingTo accountId recipient.address)
    disableAll accountId rest

def deliverabilitySignal (params : HandleBounceParams) (link : LinkedSend) (id createdAt : String) :
    DeliverabilitySignal where
  id := id
  signalLookupId := id
  threadId := truthy link.threadId
  accountId := params.accountId
  createdAt := createdAt
  linkedSignalId := link.linkedSignalId
  bouncedRecipients := params.bouncedRecipients
  subject := "Delivery failure: " ++ params.bouncedRecipients.length.repr ++ " recipient(s) bounced"

def bouncedUpdate : SendStatusUpdate where
  status := .draft
  sendInitiatedAt := some none
  sesMessageId := none
  sendFailureReason := some "all_recipients_bounced"
  gsi3pk := none
  threadId := none

/-- The signal for the user. A draft that cannot be put back is logged. -/
def surface (params : HandleBounceParams) (link : LinkedSend) (id createdAt : String) :
    BounceProg (Except DbError Unit) := do
  let deliverabilityResult : Except DbError Unit ←
    request (.saveSignal (deliverabilitySignal params link id createdAt))
  match deliverabilityResult with
  | .error error => return .error error
  | .ok () =>
    if params.revertToDraft then
      let _ ← request
        (.signals (.updateSendStatus params.accountId link.signalLookupId bouncedUpdate))
      return .ok ()
    else return .ok ()

def handleBounce (params : HandleBounceParams) (clock : Clock) (id : String) :
    BounceProg (Except DbError Unit) := do
  let suppressed ← suppressAll params clock params.bouncedRecipients
  match suppressed with
  | .error error => return .error error
  | .ok () => do
    if params.disableForwardingRules && params.isPermanent then
      disableAll params.accountId params.bouncedRecipients
    match params.linkedSend with
    | none => return .ok ()
    | some link => surface params link id clock.iso

/-! ## The provider's feedback -/

def TAG_TYPE : String := "X-Numaeel-Type"

def TAG_ACCOUNT_ID : String := "X-Numaeel-AccountId"

def TAG_SIGNAL_ID : String := "X-Numaeel-SignalId"

def TAG_THREAD_ID : String := "X-Numaeel-ThreadId"

/-- A bounce, with the address and status of every recipient and the tags of the mail. -/
structure SesFeedback where
  bounceType : String
  bouncedRecipients : List (String × Option String)
  messageId : String
  tags : Fields

def SesFeedback.isPermanent (feedback : SesFeedback) : Bool := feedback.bounceType = "Permanent"

def SesFeedback.recipients (feedback : SesFeedback) : List BouncedRecipient :=
  feedback.bouncedRecipients.map fun r => ⟨r.1, feedback.isPermanent, truthy r.2⟩

def SesFeedback.accountId (feedback : SesFeedback) : Option String :=
  feedback.tags.get TAG_ACCOUNT_ID <|> feedback.tags.get "accountId"

/-- The account, signal and thread of the send, where all three are tagged. -/
def SesFeedback.sendTags (feedback : SesFeedback) : Option (String × String × String) :=
  match truthy feedback.accountId, truthy (feedback.tags.get TAG_SIGNAL_ID),
    truthy (feedback.tags.get TAG_THREAD_ID) with
  | some accountId, some signalId, some threadId => some (accountId, signalId, threadId)
  | _, _, _ => none

/-- A mail that a user has composed. -/
def outbound (signal : Signal) : Option OutboundEmailSignalData :=
  match signal.data with
  | .outboundEmail data => some data
  | _ => none

/-- Every recipient of the mail has bounced for good. -/
def SesFeedback.wholly (feedback : SesFeedback) (data : OutboundEmailSignalData) : Bool :=
  feedback.isPermanent && data.toAddresses ≠ [] && data.toAddresses.all fun addr =>
    feedback.recipients.any fun b =>
      toLowerCase b.address.toList = toLowerCase addr.address.toList && b.permanent

def SesFeedback.params (feedback : SesFeedback) (sentSignal : Option Signal) :
    HandleBounceParams :=
  let userSend := sentSignal.bind fun signal => (outbound signal).map fun data => (signal, data)
  { accountId := (feedback.accountId <|> userSend.map fun send => send.1.accountId).getD ""
    bouncedRecipients := feedback.recipients
    isPermanent := feedback.isPermanent
    sesMessageId := some feedback.messageId
    suppressionReason := if feedback.isPermanent then .hardBounce else .softBounce
    linkedSend := userSend.map fun send =>
      ⟨send.1.id, send.1.signalLookupId,
        truthy (feedback.tags.get TAG_THREAD_ID) <|> truthy send.1.threadId⟩
    revertToDraft := userSend.any fun send => feedback.wholly send.2
    disableForwardingRules :=
      feedback.accountId.isSome && feedback.tags.get TAG_TYPE = some "forward" }

def processFeedback (stale : String → Bool) (feedback : SesFeedback) (clock : Clock) (id : String) :
    BounceProg (Except DbError Unit) :=
  match feedback.sendTags with
  | none => handleBounce (feedback.params none) clock id
  | some (accountId, signalId, threadId) => do
    let sentSignalResult ← onSignals (getSignalById stale accountId signalId threadId)
    match sentSignalResult with
    | .error error => return .error error
    | .ok sentSignal => handleBounce (feedback.params sentSignal) clock id

/-! ## Bounces that arrive as mail -/

/-- The matches of `/<([^>]+)>/g`; the first characters of the text are part of the last one. -/
def bracketed : Nat → List Char → List (List Char)
  | _, [] => []
  | skipped + 1, _ :: text => bracketed skipped text
  | 0, c :: text =>
    let inner := text.takeWhile (· ≠ '>')
    if c = '<' ∧ inner ≠ [] ∧ inner.length < text.length then
      inner :: bracketed (inner.length + 1) text
    else bracketed 0 text

def extractReferencedOutboundMsgId (headers : Fields) : Option String :=
  let inReplyTo := (truthy (headers.get "in-reply-to")).bind extractMsgId
  let references := (truthy (headers.get "references")).bind fun references =>
    (bracketed 0 references.toList).getLast?.map String.ofList
  inReplyTo <|> references

structure InboundBounce where
  info : BounceInfo
  headers : Fields
  accountId : String

def InboundBounce.recipients (bounce : InboundBounce) : List BouncedRecipient :=
  let failedAddress := truthy (bounce.info.originalRecipient <|> bounce.info.finalRecipient)
  failedAddress.toList.map fun address =>
    ⟨address, isPermanentBounce bounce.info, truthy bounce.info.status⟩

/-- The mail that the bounce is about, if it is one that a user has composed. -/
def InboundBounce.params (bounce : InboundBounce) (matched : Option Signal) :
    HandleBounceParams where
  accountId := bounce.accountId
  bouncedRecipients := bounce.recipients
  isPermanent := isPermanentBounce bounce.info
  sesMessageId := none
  suppressionReason := .externalBounce
  linkedSend := matched.bind fun signal => (outbound signal).map fun _ =>
    ⟨signal.id, signal.signalLookupId, truthy signal.threadId⟩
  revertToDraft := false
  disableForwardingRules := false

def handleInboundBounce (bounce : InboundBounce) (clock : Clock) (id : String) :
    BounceProg (Except DbError Unit) :=
  match extractReferencedOutboundMsgId bounce.headers with
  | none => handleBounce (bounce.params none) clock id
  | some referencedMsgId => do
    let matchResult ← onSignals
      (findSignalByEmailMessageId (buildSignalGsi3pk bounce.accountId referencedMsgId))
    match matchResult with
    | .error error => return .error error
    | .ok matched => handleBounce (bounce.params matched) clock id

/-! ## The notification -/

inductive Notification
  | feedback (feedback : SesFeedback)
  | inbound (bounce : InboundBounce)

def Notification.deliver (stale : String → Bool) (clock : Clock) (id : String) :
    Notification → BounceProg (Except DbError Unit)
  | .feedback bounce => processFeedback stale bounce clock id
  | .inbound bounce => handleInboundBounce bounce clock id

def Notification.recipients : Notification → List BouncedRecipient
  | .feedback bounce => bounce.recipients
  | .inbound bounce => bounce.recipients

/-- What a delivery handles that reads this table. -/
def Notification.paramsAt (stale : String → Bool) (s : SignalsTable.Store) :
    Notification → HandleBounceParams
  | .feedback bounce =>
    match bounce.sendTags with
    | none => bounce.params none
    | some (accountId, signalId, threadId) =>
      bounce.params (signalIn stale signalId (s.signalsIn accountId (partitionOf threadId)))
  | .inbound bounce =>
    match extractReferencedOutboundMsgId bounce.headers with
    | none => bounce.params none
    | some referencedMsgId =>
      let gsi3pk := buildSignalGsi3pk bounce.accountId referencedMsgId
      let items := (s.signals.rows.filter fun item => item.signal.gsi3pk = some gsi3pk).map
        SignalItem.signal
      bounce.params (items.mergeSort fun a b => decide (a.createdAt ≤ b.createdAt)).head?

/-! ## Runs -/

/-- A row of the signals table, by account and lookup id. -/
abbrev DraftKey := String × String

/-- A change by the user, or by the worker that sends for the user. -/
inductive Act
  | edit (update : SignalUpdate)
  | setStatus (update : SendStatusUpdate)
  | delete

def Editable (draft : DraftKey) (s : Store) : Prop :=
  ∃ item, s.signals.signals.get draft = some item ∧
    (item.signal.status = .draft ∨ item.signal.status = .pendingSend)

instance (draft : DraftKey) (s : Store) : Decidable (Editable draft s) :=
  match h : s.signals.signals.get draft with
  | none => isFalse (by rintro ⟨item, hget, -⟩; cases h.symm.trans hget)
  | some item =>
    decidable_of_iff (item.signal.status = .draft ∨ item.signal.status = .pendingSend) (by
      constructor
      · intro hstatus
        exact ⟨item, h, hstatus⟩
      · rintro ⟨other, hget, hstatus⟩
        obtain rfl := Option.some.inj (h.symm.trans hget)
        exact hstatus)

def Act.onSignals (draft : DraftKey) (s : SignalsTable.Store) : Act → SignalsTable.Store
  | .edit update => s.updateItem draft update.apply
  | .setStatus update => s.updateItem draft update.apply
  | .delete => { s with signals := s.signals.erase draft }

/-- A sent mail is not changed. -/
def act (draft : DraftKey) (s : Store) (a : Act) : Store :=
  if Editable draft s then
    { s with signals := a.onSignals draft s.signals, draftLog := s.draftLog ++ [.acted] }
  else s

def exec (draft : DraftKey) : (c : Cmd) → Store → c.Answer × Store
  | .signals (.updateSendStatus accountId signalLookupId update), s =>
    let result := SignalsTable.exec (.updateSendStatus accountId signalLookupId update) s.signals
    let log := if (accountId, signalLookupId) = draft then [DraftEvent.reverted] else []
    (result.1, { s with signals := result.2, draftLog := s.draftLog ++ log })
  | .signals c, s =>
    ((SignalsTable.exec c s.signals).1, { s with signals := (SignalsTable.exec c s.signals).2 })
  | .suppressAddress entry, s =>
    (.ok (suppressAddress entry s.suppressions).1,
      { s with suppressions := (suppressAddress entry s.suppressions).2 })
  | .disableRulesForwardingTo accountId toAddress, s =>
    let affected (rule : ForwardingRule) : Bool :=
      rule.accountId = accountId && rule.forwardsTo.contains toAddress
    (.ok ((s.rules.filter affected).map ForwardingRule.id),
      { s with rules := s.rules.map fun rule =>
        if affected rule then { rule with enabled := false } else rule })
  | .saveSignal signal, s => (.ok (), { s with deliverability := s.deliverability ++ [signal] })

def failure : (c : Cmd) → c.Answer
  | .signals c => SignalsTable.failure c
  | .suppressAddress _ => .error requestFailed
  | .disableRulesForwardingTo .. => .error requestFailed
  | .saveSignal _ => .error requestFailed

/-- What becomes of a request, and what the user does before the next one. -/
structure Turn where
  fate : Fate
  acts : List Act

def service (draft : DraftKey) : Service Cmd Cmd.Answer Store Turn where
  settle c s turn :=
    let settled := settleRequest (exec draft) failure c s turn.fate
    (settled.1, turn.acts.foldl (act draft) settled.2)
  usual := ⟨.done, []⟩

/-- A delivery, with its time, the id it would give a signal and the turns of its requests. -/
structure Delivery where
  stale : String → Bool
  clock : Clock
  id : String
  faults : Faults Turn

inductive Event
  | deliver (delivery : Delivery)
  | act (a : Act)

/-- The store, and whether the first delivery that returned ok found the mail of a user. -/
structure State where
  store : Store
  accepted : Option Bool

variable (n : Notification) (draft : DraftKey)

def outcome (delivery : Delivery) (s : Store) :
    Outcome Store Cmd Turn (Except DbError Unit) :=
  (n.deliver delivery.stale delivery.clock delivery.id).run (service draft) delivery.faults s

/-- The delivery resolves the notification to a mail that a user has composed. -/
def linkedAt (delivery : Delivery) (s : Store) : Bool :=
  (n.paramsAt delivery.stale s.signals).linkedSend.isSome

def step (s : State) : Event → State
  | .deliver delivery =>
    let out := outcome n draft delivery s.store
    { store := out.store
      accepted := s.accepted <|> match out.result with
        | some (.ok ()) => some (linkedAt n delivery s.store)
        | _ => none }
  | .act a => { s with store := act draft s.store a }

/-- Nothing has become of the draft yet. -/
def begin (store : Store) : State := ⟨{ store with draftLog := [] }, none⟩

/-! ## Once -/

def countOf (t : SuppressionTable) (address : String) : Nat :=
  ((t.get address).map SuppressionRow.bounceCount).getD 0

/-- The draft is put back once at most, and not over anything the user has made of it. -/
structure RevertedOnce (log : List DraftEvent) : Prop where
  atMostOnce : log.count .reverted ≤ 1
  notOver : ∀ before after, log = before ++ .reverted :: after → .acted ∉ before

/-- Once a delivery has returned ok, the store is as after that one. -/
structure Once (start : Store) (s : State) : Prop where
  counts : s.accepted.isSome → ∀ address, countOf s.store.suppressions address =
    countOf start.suppressions address + (n.recipients.map BouncedRecipient.address).count address
  signals : ∀ linked, s.accepted = some linked →
    s.store.deliverability.length = start.deliverability.length + linked.toNat
  draft : RevertedOnce s.store.draftLog

def Cmd.IsWrite : Cmd → Prop
  | .signals (.updateSendStatus ..) => True
  | .signals _ => False
  | _ => True

/-- No earlier delivery has written anything or has returned ok. -/
structure Fresh (start : Store) (s : State) : Prop where
  suppressions : s.store.suppressions = start.suppressions
  deliverability : s.store.deliverability = start.deliverability
  draftLog : .reverted ∉ s.store.draftLog
  accepted : s.accepted = none

/-- The user has done nothing to the draft and cannot, as it is sent. -/
def Sent (s : Store) : Prop := s.draftLog = [] ∧ ¬ Editable draft s

/-- Every write of the delivery is refused, and if it returns ok, it is not the first to do so. -/
def Idle (delivery : Delivery) (s : State) : Prop :=
  (∀ c turn, (c, turn) ∈ (outcome n draft delivery s.store).trace → c.IsWrite →
    turn.fate = .refused) ∧
    (s.accepted = none → (outcome n draft delivery s.store).result ≠ some (.ok ()))

/-- The delivery puts the mail back that it finds. -/
def Reverts (delivery : Delivery) (s : Store) : Prop :=
  (n.paramsAt delivery.stale s.signals).revertToDraft = true

/-- A delivery is the first, over a mail that is sent if it puts it back, or comes to nothing. -/
def Fits (start : Store) (s : State) : Event → Prop
  | .deliver delivery =>
    (Fresh start s ∧ (Reverts n delivery s.store → Sent draft s.store)) ∨ Idle n draft delivery s
  | .act _ => True

/-! ## What stays -/

section Frame
variable {n draft} {s s' s'' : Store}

/-- Nothing is written for the notification. -/
structure Quiet (s s' : Store) : Prop where
  suppressions : s'.suppressions = s.suppressions
  deliverability : s'.deliverability = s.deliverability
  draftLog : ∃ acts, s'.draftLog = s.draftLog ++ acts ∧ .reverted ∉ acts

theorem Quiet.refl (s : Store) : Quiet s s := ⟨rfl, rfl, [], by simp, by simp⟩

/-- A log that has grown twice without the draft being put back. -/
theorem acts_trans {log log' log'' : List DraftEvent}
    (h : ∃ acts, log' = log ++ acts ∧ .reverted ∉ acts)
    (h' : ∃ acts, log'' = log' ++ acts ∧ .reverted ∉ acts) :
    ∃ acts, log'' = log ++ acts ∧ .reverted ∉ acts := by
  obtain ⟨acts, rfl, hnone⟩ := h
  obtain ⟨acts', rfl, hnone'⟩ := h'
  exact ⟨acts ++ acts', List.append_assoc _ _ _, by simp [hnone, hnone']⟩

theorem Quiet.trans (h : Quiet s s') (h' : Quiet s' s'') : Quiet s s'' where
  suppressions := h'.suppressions.trans h.suppressions
  deliverability := h'.deliverability.trans h.deliverability
  draftLog := acts_trans h.draftLog h'.draftLog

theorem quiet_act (a : Act) : Quiet s (act draft s a) := by
  rw [act]
  split
  · exact ⟨rfl, rfl, [.acted], rfl, by simp⟩
  · exact .refl s

theorem quiet_acts (acts : List Act) : Quiet s (acts.foldl (act draft) s) := by
  induction acts generalizing s with
  | nil => exact .refl s
  | cons a acts ih => exact (quiet_act a).trans ih

/-- A sent mail stays as it is, whatever the user tries. -/
theorem sent_acts (h : Sent draft s) (acts : List Act) : Sent draft (acts.foldl (act draft) s) := by
  induction acts generalizing s with
  | nil => exact h
  | cons a acts ih =>
    refine ih ?_
    rw [act, if_neg h.2]
    exact h

theorem quiet_exec {c : Cmd} (hread : ¬ c.IsWrite) : Quiet s (exec draft c s).2 := by
  cases c with
  | signals c =>
    cases c with
    | updateSendStatus accountId signalLookupId update => exact absurd trivial hread
    | _ => exact ⟨rfl, rfl, [], by simp [exec], by simp⟩
  | _ => exact absurd trivial hread

/-- A refused write writes nothing. -/
theorem quiet_settle {c : Cmd} {turn : Turn} (h : c.IsWrite → turn.fate = .refused) :
    Quiet s ((service draft).settle c s turn).2 := by
  refine Quiet.trans ?_ (quiet_acts turn.acts)
  by_cases hwrite : c.IsWrite
  · rw [h hwrite]
    exact .refl s
  · obtain hsame | hexec := settleRequest_store (exec draft) failure c s turn.fate
    · rw [hsame]
      exact .refl s
    · rw [hexec]
      exact quiet_exec hwrite

theorem quiet_run {α : Type} (p : BounceProg α) (fs : Faults Turn)
    (h : ∀ c turn, (c, turn) ∈ (p.run (service draft) fs s).trace → c.IsWrite →
      turn.fate = .refused) : Quiet s (p.run (service draft) fs s).store := by
  induction p generalizing fs s with
  | ret a =>
    rw [Prog.run_ret_store]
    exact .refl s
  | call c k ih =>
    match fs with
    | none :: fs =>
      rw [Prog.run_crash]
      exact .refl s
    | [] =>
      have hhead := h c (service draft).usual List.mem_cons_self
      exact (quiet_settle hhead).trans (ih _ [] fun c turn ht => h c turn (.tail _ ht))
    | some t :: fs =>
      have hhead := h c t List.mem_cons_self
      exact (quiet_settle hhead).trans (ih _ fs fun c turn ht => h c turn (.tail _ ht))

end Frame

/-! ## One delivery -/

section Delivery
variable {n draft} {s s' s'' : Store} {params : HandleBounceParams} {clock : Clock}

/-- The draft is not put back, and stays a sent mail if it is one. -/
structure Calm (draft : DraftKey) (s s' : Store) : Prop where
  draftLog : ∃ acts, s'.draftLog = s.draftLog ++ acts ∧ .reverted ∉ acts
  sent : Sent draft s → Sent draft s'

theorem Calm.refl (s : Store) : Calm draft s s := ⟨⟨[], by simp, by simp⟩, fun h => h⟩

theorem Calm.trans (h : Calm draft s s') (h' : Calm draft s' s'') : Calm draft s s'' where
  draftLog := acts_trans h.draftLog h'.draftLog
  sent hs := h'.sent (h.sent hs)

theorem calm_acts (acts : List Act) : Calm draft s (acts.foldl (act draft) s) :=
  ⟨(quiet_acts acts).draftLog, fun h => sent_acts h acts⟩

/-- A request that leaves the mails alone. -/
theorem calm_settle {c : Cmd} {turn : Turn}
    (hlog : (exec draft c s).2.draftLog = s.draftLog)
    (hsignals : (exec draft c s).2.signals = s.signals) :
    Calm draft s ((service draft).settle c s turn).2 := by
  refine Calm.trans ?_ (calm_acts turn.acts)
  obtain hsame | hexec := settleRequest_store (exec draft) failure c s turn.fate
  · rw [hsame]
    exact .refl s
  · rw [hexec]
    refine ⟨⟨[], by simp [hlog], by simp⟩, fun h => ?_⟩
    rw [Sent, Editable, hlog, hsignals]
    exact h

theorem countOf_suppressAddress (entry : SuppressedAddress) (t : SuppressionTable)
    (address : String) : countOf (suppressAddress entry t).2 address =
      countOf t address + if entry.address = address then 1 else 0 := by
  have hget : (suppressAddress entry t).2.get address = if address = entry.address then
      some (updatedRow entry (t.get entry.address)) else t.get address := KeyedTable.get_put ..
  rw [countOf, hget]
  by_cases h : address = entry.address
  · subst h
    simp [countOf, updatedRow]
  · simp [countOf, h, Ne.symm h]

/-- Turns of every kind. -/
abbrev anyTurn : Option Turn → Prop := fun _ => True

def addresses (recipients : List BouncedRecipient) : List String :=
  recipients.map BouncedRecipient.address

theorem settle_suppress (draft : DraftKey) (entry : SuppressedAddress) (s : Store) (turn : Turn) :
    Calm draft s ((service draft).settle (.suppressAddress entry) s turn).2 ∧
      ((service draft).settle (.suppressAddress entry) s turn).2.deliverability =
        s.deliverability ∧
      ∀ count, ((service draft).settle (.suppressAddress entry) s turn).1 = .ok count →
        ∀ address, countOf ((service draft).settle (.suppressAddress entry) s turn).2.suppressions
          address = countOf s.suppressions address + if entry.address = address then 1 else 0 := by
  obtain ⟨fate, acts⟩ := turn
  refine ⟨calm_settle rfl rfl, ?_, ?_⟩
  · refine (quiet_acts acts).deliverability.trans ?_
    cases fate <;> rfl
  · intro count hanswer address
    refine (congrArg (countOf · address) (quiet_acts acts).suppressions).trans ?_
    cases fate with
    | done => exact countOf_suppressAddress entry s.suppressions address
    | refused => cases hanswer
    | lost => cases hanswer

theorem leads_suppressAll (recipients : List BouncedRecipient) (s : Store) :
    (suppressAll params clock recipients).Leads (service draft) anyTurn
      (fun r s' => Calm draft s s' ∧ s'.deliverability = s.deliverability ∧
        (r = some (.ok ()) → ∀ address, countOf s'.suppressions address =
          countOf s.suppressions address + (addresses recipients).count address)) s := by
  induction recipients generalizing s with
  | nil => exact ⟨⟨.refl s, rfl, by simp [addresses]⟩, fun _ => ⟨.refl s, rfl, by simp⟩⟩
  | cons recipient rest ih =>
    refine ⟨fun _ => ⟨.refl s, rfl, by simp⟩, fun turn _ => ?_⟩
    obtain ⟨hcalm, hdeliverability, hcount⟩ :=
      settle_suppress draft (params.entry clock recipient) s turn
    generalize (service draft).settle (.suppressAddress (params.entry clock recipient)) s turn =
      settled at hcalm hdeliverability hcount ⊢
    obtain ⟨answer, next⟩ := settled
    cases answer with
    | error error =>
      exact ⟨⟨hcalm, hdeliverability, by simp⟩, fun _ => ⟨hcalm, hdeliverability, by simp⟩⟩
    | ok count =>
      refine (ih next).mono fun r s' h => ?_
      refine ⟨hcalm.trans h.1, h.2.1.trans hdeliverability, fun hr address => ?_⟩
      have haddress : (params.entry clock recipient).address = recipient.address := rfl
      rw [h.2.2 hr address, hcount count rfl address, haddress]
      simp only [addresses, List.map_cons, List.count_cons, beq_iff_eq]
      omega

theorem leads_disableAll (accountId : String) (recipients : List BouncedRecipient) (s : Store) :
    (disableAll accountId recipients).Leads (service draft) anyTurn
      (fun _ s' => Calm draft s s' ∧ s'.deliverability = s.deliverability ∧
        s'.suppressions = s.suppressions) s := by
  induction recipients generalizing s with
  | nil => exact ⟨⟨.refl s, rfl, rfl⟩, fun _ => ⟨.refl s, rfl, rfl⟩⟩
  | cons recipient rest ih =>
    refine ⟨fun _ => ⟨.refl s, rfl, rfl⟩, fun turn _ => ?_⟩
    have hcalm : Calm draft s ((service draft).settle
        (.disableRulesForwardingTo accountId recipient.address) s turn).2 := calm_settle rfl rfl
    refine (ih _).mono fun r s' h => ⟨hcalm.trans h.1, h.2.1.trans ?_, h.2.2.trans ?_⟩
    · refine (quiet_acts turn.acts).deliverability.trans ?_
      cases turn.fate <;> rfl
    · refine (quiet_acts turn.acts).suppressions.trans ?_
      cases turn.fate <;> rfl

/-- What a delivery comes to from the store that it finds. -/
structure Handled (draft : DraftKey) (params : HandleBounceParams) (s : Store)
    (r : Option (Except DbError Unit)) (s' : Store) : Prop where
  counts : r = some (.ok ()) → ∀ address, countOf s'.suppressions address =
    countOf s.suppressions address + (addresses params.bouncedRecipients).count address
  signals : r = some (.ok ()) →
    s'.deliverability.length = s.deliverability.length + params.linkedSend.isSome.toNat
  draft : (params.revertToDraft = true → Sent draft s) → .reverted ∉ s.draftLog →
    RevertedOnce s'.draftLog

theorem revertedOnce_of_absent {log : List DraftEvent} (h : .reverted ∉ log) :
    RevertedOnce log where
  atMostOnce := by rw [List.count_eq_zero.mpr h]; omega
  notOver := by
    rintro before after rfl
    simp at h

/-- Acts after what is there change nothing. -/
theorem RevertedOnce.append {log acts : List DraftEvent} (h : RevertedOnce log)
    (hacts : .reverted ∉ acts) : RevertedOnce (log ++ acts) where
  atMostOnce := by
    rw [List.count_append, List.count_eq_zero.mpr hacts]
    exact h.atMostOnce
  notOver := by
    intro before after heq
    obtain ⟨rest, -, hrest⟩ | ⟨rest, rfl, hrest⟩ := List.append_eq_append_iff.mp heq
    · exact absurd (by simp [hrest]) hacts
    · obtain ⟨-, hrest⟩ | ⟨rest', rfl, -⟩ := List.cons_eq_append_iff.mp hrest
      · exact absurd (by simp [hrest]) hacts
      · exact h.notOver before rest' rfl

theorem Calm.revertedOnce (h : Calm draft s s') (hnone : .reverted ∉ s.draftLog) :
    RevertedOnce s'.draftLog := by
  obtain ⟨acts, hacts, hnot⟩ := h.draftLog
  rw [hacts]
  exact (revertedOnce_of_absent hnone).append hnot

variable {r : Option (Except DbError Unit)}

/-- A delivery that is cut short before it puts the draft back. -/
theorem handled_cut (hr : r ≠ some (.ok ()))
    (h : Calm draft s s') : Handled draft params s r s' :=
  ⟨fun hok => absurd hok hr, fun hok => absurd hok hr, fun _ hnone => h.revertedOnce hnone⟩

theorem revertedOnce_reverted : RevertedOnce [.reverted] where
  atMostOnce := by simp
  notOver := by
    intro before after heq
    obtain ⟨rfl, -⟩ | ⟨rest, -, hrest⟩ := List.cons_eq_append_iff.mp heq
    · simp
    · simp at hrest

/-- The request that puts a draft back. -/
def revertRequest (params : HandleBounceParams) (link : LinkedSend) : Cmd :=
  .signals (.updateSendStatus params.accountId link.signalLookupId bouncedUpdate)

theorem settle_revert (draft : DraftKey) (params : HandleBounceParams) (link : LinkedSend)
    (s : Store) (turn : Turn) :
    ((service draft).settle (revertRequest params link) s turn).2.suppressions = s.suppressions ∧
      ((service draft).settle (revertRequest params link) s turn).2.deliverability =
        s.deliverability := by
  obtain ⟨fate, acts⟩ := turn
  constructor
  · refine (quiet_acts acts).suppressions.trans ?_
    cases fate <;> rfl
  · refine (quiet_acts acts).deliverability.trans ?_
    cases fate <;> rfl

/-- A mail that is still as it was sent is put back. -/
theorem settle_revert_sent (params : HandleBounceParams) (link : LinkedSend) (turn : Turn)
    (h : Sent draft s) :
    RevertedOnce ((service draft).settle (revertRequest params link) s turn).2.draftLog := by
  obtain ⟨fate, acts⟩ := turn
  have hrefused : RevertedOnce s.draftLog := by
    rw [h.1]
    exact revertedOnce_of_absent (by simp)
  have hdone : RevertedOnce (exec draft (revertRequest params link) s).2.draftLog := by
    show RevertedOnce (s.draftLog ++ _)
    rw [h.1]
    split
    · exact revertedOnce_reverted
    · exact revertedOnce_of_absent (by simp)
  have hafter : RevertedOnce
      (settleRequest (exec draft) failure (revertRequest params link) s fate).2.draftLog := by
    cases fate with
    | done => exact hdone
    | refused => exact hrefused
    | lost => exact hdone
  have hquiet : Quiet (settleRequest (exec draft) failure (revertRequest params link) s fate).2
      (acts.foldl (act draft) _) := quiet_acts acts
  obtain ⟨log, hlog, hnot⟩ := hquiet.draftLog
  show RevertedOnce (acts.foldl (act draft) _).draftLog
  rw [hlog]
  exact hafter.append hnot

theorem settle_save (draft : DraftKey) (signal : DeliverabilitySignal) (s : Store) (turn : Turn) :
    Calm draft s ((service draft).settle (.saveSignal signal) s turn).2 ∧
      ((service draft).settle (.saveSignal signal) s turn).2.suppressions = s.suppressions ∧
      (((service draft).settle (.saveSignal signal) s turn).1 = .ok () →
        ((service draft).settle (.saveSignal signal) s turn).2.deliverability.length =
          s.deliverability.length + 1) := by
  obtain ⟨fate, acts⟩ := turn
  refine ⟨calm_settle rfl rfl, ?_, ?_⟩
  · refine (quiet_acts acts).suppressions.trans ?_
    cases fate <;> rfl
  · intro hanswer
    refine (congrArg List.length (quiet_acts acts).deliverability).trans ?_
    cases fate with
    | done => simp [settleRequest, exec]
    | refused => cases hanswer
    | lost => cases hanswer

/-- The counts are as they are to be when the signal is due. -/
theorem leads_surface {link : LinkedSend} {id createdAt : String}
    (hlink : params.linkedSend = some link) (hcalm : Calm draft s s')
    (hdeliverability : s'.deliverability = s.deliverability)
    (hcounts : ∀ address, countOf s'.suppressions address =
      countOf s.suppressions address + (addresses params.bouncedRecipients).count address) :
    (surface params link id createdAt).Leads (service draft) anyTurn (Handled draft params s)
      s' := by
  refine ⟨fun _ => handled_cut (by simp) hcalm, fun turn _ => ?_⟩
  obtain ⟨hnext, hsuppressions, hsaved⟩ :=
    settle_save draft (deliverabilitySignal params link id createdAt) s' turn
  generalize (service draft).settle
    (.saveSignal (deliverabilitySignal params link id createdAt)) s' turn = settled
    at hnext hsuppressions hsaved ⊢
  obtain ⟨answer, next⟩ := settled
  have hthere := hcalm.trans hnext
  cases answer with
  | error error =>
    exact ⟨handled_cut (by simp) hthere, fun _ => handled_cut (by simp) hthere⟩
  | ok saved =>
    have hsignals : next.deliverability.length =
        s.deliverability.length + params.linkedSend.isSome.toNat := by
      rw [hsaved rfl, hdeliverability, hlink]
      rfl
    have hcounted (address : String) : countOf next.suppressions address =
        countOf s.suppressions address + (addresses params.bouncedRecipients).count address := by
      rw [show next.suppressions = s'.suppressions from hsuppressions]
      exact hcounts address
    by_cases hrevert : params.revertToDraft = true
    · show (if params.revertToDraft = true then _ else _ :
        BounceProg (Except DbError Unit)).Leads _ _ _ _
      rw [if_pos hrevert]
      refine ⟨fun _ => handled_cut (by simp) hthere, fun turn _ => ?_⟩
      obtain ⟨hsame, hsame'⟩ := settle_revert draft params link next turn
      have hdraft (hsent : params.revertToDraft = true → Sent draft s) :=
        settle_revert_sent params link turn (hthere.sent (hsent hrevert))
      refine ⟨⟨fun _ address => ?_, fun _ => ?_, fun hsent _ => hdraft hsent⟩,
        fun _ => ⟨by simp, by simp, fun hsent _ => hdraft hsent⟩⟩
      · rw [← hcounted address]
        exact congrArg (countOf · address) hsame
      · rw [← hsignals]
        exact congrArg List.length hsame'
    · show (if params.revertToDraft = true then _ else _ :
        BounceProg (Except DbError Unit)).Leads _ _ _ _
      rw [if_neg hrevert]
      refine ⟨⟨fun _ => hcounted, fun _ => hsignals, fun _ hnone => hthere.revertedOnce hnone⟩,
        fun _ => ?_⟩
      exact handled_cut (by simp) hthere

theorem leads_handleBounce (params : HandleBounceParams) (clock : Clock) (id : String)
    (s : Store) : (handleBounce params clock id).Leads (service draft) anyTurn
      (Handled draft params s) s := by
  refine Prog.Leads.bind ((leads_suppressAll params.bouncedRecipients s).mono fun r s' h => ?_)
  obtain ⟨hcalm, hdeliverability, hcounts⟩ := h
  match r with
  | none => exact handled_cut (by simp) hcalm
  | some (.error error) =>
    exact ⟨handled_cut (by simp) hcalm, fun _ => handled_cut (by simp) hcalm⟩
  | some (.ok ()) =>
    have hrest (s' : Store) (hcalm : Calm draft s s')
        (hdeliverability : s'.deliverability = s.deliverability)
        (hcounts : ∀ address, countOf s'.suppressions address = countOf s.suppressions address +
          (addresses params.bouncedRecipients).count address) :
        (match params.linkedSend with
          | none => (return .ok ())
          | some link => surface params link id clock.iso :
          BounceProg (Except DbError Unit)).Leads (service draft) anyTurn
            (Handled draft params s) s' := by
      cases hlink : params.linkedSend with
      | none =>
        have hsignals : s'.deliverability.length =
            s.deliverability.length + params.linkedSend.isSome.toNat := by
          simp [hdeliverability, hlink]
        exact ⟨⟨fun _ => hcounts, fun _ => hsignals, fun _ hnone => hcalm.revertedOnce hnone⟩,
          fun _ => handled_cut (by simp) hcalm⟩
      | some link => exact leads_surface hlink hcalm hdeliverability hcounts
    have hcounts := hcounts rfl
    show Prog.Leads _ _ _ (if _ then _ else _) s'
    split
    · refine Prog.Leads.bind ((leads_disableAll params.accountId params.bouncedRecipients s').mono
        fun r next h => ?_)
      obtain ⟨hnext, hsame, hsame'⟩ := h
      have hthere := hcalm.trans hnext
      cases r with
      | none => exact handled_cut (by simp) hthere
      | some u =>
        refine hrest next hthere (hsame.trans hdeliverability) fun address => ?_
        rw [hsame']
        exact hcounts address
    · exact hrest s' hcalm hdeliverability hcounts

/-- Handling goes on from a store in which nothing is written yet. -/
theorem Handled.from_quiet
    (h : Handled draft params s' r s'') (hcalm : Calm draft s s') (hquiet : Quiet s s') :
    Handled draft params s r s'' where
  counts := by
    rw [← hquiet.suppressions]
    exact h.counts
  signals := by
    rw [← hquiet.deliverability]
    exact h.signals
  draft := by
    intro hsent hnone
    refine h.draft (fun hrevert => hcalm.sent (hsent hrevert)) ?_
    obtain ⟨acts, hacts, hnot⟩ := hcalm.draftLog
    rw [hacts]
    simp [hnone, hnot]

/-- The lookup of the mail, and what follows it. -/
theorem leads_lookup {c : SignalsTable.Cmd} (hread : (SignalsTable.exec c s.signals).2 = s.signals)
    (hwrite : ¬ (Cmd.signals c).IsWrite)
    {k : c.Answer → BounceProg (Except DbError Unit)}
    (hfail : ∃ error, k (SignalsTable.failure c) = .ret (.error error))
    {id : String}
    (hdone : k (SignalsTable.exec c s.signals).1 = handleBounce params clock id) :
    (Prog.call (.signals c) k).Leads (service draft) anyTurn (Handled draft params s) s := by
  refine ⟨fun _ => handled_cut (by simp) (.refl s), fun turn _ => ?_⟩
  have hquiet : Quiet s ((service draft).settle (.signals c) s turn).2 :=
    quiet_settle fun h => absurd h hwrite
  have hsame : (exec draft (.signals c) s).2.draftLog = s.draftLog ∧
      (exec draft (.signals c) s).2.signals = s.signals ∧
        (exec draft (.signals c) s).1 = (SignalsTable.exec c s.signals).1 := by
    cases c with
    | updateSendStatus accountId signalLookupId update => exact absurd trivial hwrite
    | _ => exact ⟨rfl, hread, rfl⟩
  have hcalm : Calm draft s ((service draft).settle (.signals c) s turn).2 :=
    calm_settle hsame.1 hsame.2.1
  have hcut : (k (SignalsTable.failure c)).Leads (service draft) anyTurn (Handled draft params s)
      ((service draft).settle (.signals c) s turn).2 := by
    obtain ⟨error, herror⟩ := hfail
    rw [herror]
    exact ⟨handled_cut (by simp) hcalm, fun _ => handled_cut (by simp) hcalm⟩
  obtain ⟨fate, acts⟩ := turn
  cases fate with
  | done =>
    show (k (exec draft (.signals c) s).1).Leads _ _ _ _
    rw [hsame.2.2, hdone]
    exact (leads_handleBounce params clock id _).mono fun r s' h => h.from_quiet hcalm hquiet
  | refused => exact hcut
  | lost => exact hcut

theorem leads_deliver (n : Notification) (stale : String → Bool) (clock : Clock) (id : String)
    (s : Store) : (n.deliver stale clock id).Leads (service draft) anyTurn
      (Handled draft (n.paramsAt stale s.signals) s) s := by
  cases n with
  | feedback bounce =>
    cases htags : bounce.sendTags with
    | none =>
      simp only [Notification.deliver, processFeedback, Notification.paramsAt, htags]
      exact leads_handleBounce _ _ _ _
    | some tags =>
      obtain ⟨accountId, signalId, threadId⟩ := tags
      simp only [Notification.deliver, processFeedback, Notification.paramsAt, htags]
      refine leads_lookup rfl ?_ ⟨_, rfl⟩ rfl
      exact fun h => h
  | inbound bounce =>
    cases hreferenced : extractReferencedOutboundMsgId bounce.headers with
    | none =>
      simp only [Notification.deliver, handleInboundBounce, Notification.paramsAt, hreferenced]
      exact leads_handleBounce _ _ _ _
    | some referencedMsgId =>
      simp only [Notification.deliver, handleInboundBounce, Notification.paramsAt, hreferenced]
      refine leads_lookup rfl ?_ ⟨_, rfl⟩ rfl
      exact fun h => h

end Delivery

/-! ## Every delivery -/

variable {n draft} {start : Store} {s : State}

theorem paramsAt_recipients (n : Notification) (stale : String → Bool) (s : SignalsTable.Store) :
    (n.paramsAt stale s).bouncedRecipients = n.recipients := by
  cases n with
  | feedback bounce =>
    simp only [Notification.paramsAt]
    split <;> rfl
  | inbound bounce =>
    simp only [Notification.paramsAt]
    split <;> rfl

theorem handled_outcome (delivery : Delivery) (s : Store) :
    Handled draft (n.paramsAt delivery.stale s.signals) s (outcome n draft delivery s).result
      (outcome n draft delivery s).store :=
  (leads_deliver n delivery.stale delivery.clock delivery.id s).run trivial delivery.faults
    fun _ _ => trivial

theorem once_quiet (h : Once n start s) {store : Store} (hquiet : Quiet s.store store) :
    Once n start { s with store := store } where
  counts := by
    rw [hquiet.suppressions]
    exact h.counts
  signals := by
    rw [hquiet.deliverability]
    exact h.signals
  draft := by
    obtain ⟨acts, hacts, hnot⟩ := hquiet.draftLog
    rw [hacts]
    exact h.draft.append hnot

theorem once_idle (h : Once n start s) {delivery : Delivery} (hidle : Idle n draft delivery s) :
    Once n start (step n draft s (.deliver delivery)) := by
  have hquiet : Quiet s.store (outcome n draft delivery s.store).store :=
    quiet_run _ _ hidle.1
  have haccepted : (step n draft s (.deliver delivery)).accepted = s.accepted := by
    cases hs : s.accepted with
    | some linked => simp [step, hs]
    | none =>
      have hresult := hidle.2 hs
      cases hout : (outcome n draft delivery s.store).result with
      | none => simp [step, hs, hout]
      | some r =>
        cases r with
        | error error => simp [step, hs, hout]
        | ok u => exact absurd hout hresult
  have hstep : step n draft s (.deliver delivery) =
      { s with store := (outcome n draft delivery s.store).store } := by
    rw [← haccepted]
    rfl
  rw [hstep]
  exact once_quiet h hquiet

theorem once_fresh {delivery : Delivery} (hfresh : Fresh start s)
    (hsent : Reverts n delivery s.store → Sent draft s.store) :
    Once n start (step n draft s (.deliver delivery)) := by
  have hhandled : Handled draft (n.paramsAt delivery.stale s.store.signals) s.store
      (outcome n draft delivery s.store).result (outcome n draft delivery s.store).store :=
    handled_outcome delivery s.store
  have hok (linked : Bool) (h : (step n draft s (.deliver delivery)).accepted = some linked) :
      (outcome n draft delivery s.store).result = some (.ok ()) ∧
        linkedAt n delivery s.store = linked := by
    simp only [step, hfresh.accepted] at h
    split at h
    · next hresult => exact ⟨hresult, Option.some.inj h⟩
    · cases h
  refine ⟨fun haccepted address => ?_, fun linked hlinked => ?_, hhandled.draft hsent
    hfresh.draftLog⟩
  · obtain ⟨linked, hlinked⟩ := Option.isSome_iff_exists.mp haccepted
    have hcounts := hhandled.counts (hok linked hlinked).1 address
    rw [hfresh.suppressions, paramsAt_recipients] at hcounts
    exact hcounts
  · obtain ⟨hresult, rfl⟩ := hok linked hlinked
    have hsignals := hhandled.signals hresult
    rw [hfresh.deliverability] at hsignals
    exact hsignals

theorem once_step (h : Once n start s) {event : Event} (hfits : Fits n draft start s event) :
    Once n start (step n draft s event) := by
  cases event with
  | deliver delivery =>
    obtain ⟨hfresh, hsent⟩ | hidle := hfits
    · exact once_fresh hfresh hsent
    · exact once_idle h hidle
  | act a => exact once_quiet h (quiet_act a)

theorem once_begin (start : Store) : Once n start (begin start) where
  counts := by intro h; cases h
  signals := by intro linked h; cases h
  draft := revertedOnce_of_absent (by simp [begin])

/-- **However often a notification is delivered, where all deliveries but one come to nothing and
that one finds the mail as it was sent, the store is as after one that succeeds.** -/
theorem once_always {events : List Event}
    (h : EachFits (step n draft) (Fits n draft start) (begin start) events) :
    Always (step n draft) (Once n start) (begin start) events := by
  have hstep (s : State) (event : Event) (honce : Once n start s)
      (hfits : Fits n draft start s event) : Once n start (step n draft s event) :=
    once_step honce hfits
  have hbegin : Once n start (begin start) := once_begin start
  exact always_of_eachFits hstep hbegin h

/-! ## A redelivery -/

/-- All recipients of a mail have bounced for good. -/
def bounced : Notification :=
  .feedback ⟨"Permanent", [("them@example.org", some "5.1.1")], "ses-1",
    [(TAG_ACCOUNT_ID, "acct"), (TAG_SIGNAL_ID, "sgn-1"), (TAG_THREAD_ID, "thr-1")]⟩

def sentMail : Signal where
  id := "sgn-1"
  signalLookupId := "sgn-1"
  threadId := some "thr-1"
  gsi3pk := none
  accountId := "acct"
  status := .sent
  labels := some []
  createdAt := "2026-03-01T09:00:00.000Z"
  retentionDuration := none
  data := .outboundEmail
    { sender := ⟨"me@example.com", none⟩, toAddresses := [⟨"them@example.org", none⟩], cc := []
      bcc := [], subject := "Lunch", attachments := [], headers := [], textBody := some "At noon?"
      htmlBody := none, sesMessageId := some "ses-1", sendInitiatedAt := none
      sendFailureReason := none, linkedSignalId := none }

def sentStore : Store where
  signals := ⟨KeyedTable.empty.put (signalItem sentMail), .empty⟩
  suppressions := .empty
  rules := []
  deliverability := []
  draftLog := []

def mailKey : DraftKey := ("acct", "sgn-1")

def delivered (id : String) (faults : Faults Turn) : Event :=
  .deliver ⟨fun _ => false, ⟨1000, "2026-03-01T10:00:00.000Z"⟩, id, faults⟩

/-- The user rewrites the mail and sends it again. -/
def rewritten : List Event :=
  [.act (.edit ⟨none, some "Tomorrow at noon?", none, none, none, none⟩),
    .act (.setStatus
      ⟨.pendingSend, some (some "2026-03-01T11:00:00.000Z"), none, none, none, none⟩)]

/-- Between two deliveries the user rewrites the mail. -/
def redelivered : List Event := [delivered "sgn-2" []] ++ rewritten ++ [delivered "sgn-3" []]

def afterRedelivery : State := redelivered.foldl (step bounced mailKey) (begin sentStore)

/-- The mail that is on its way again is put back, and the address has two bounces. -/
theorem afterRedelivery_twice :
    afterRedelivery.store.draftLog = [.reverted, .acted, .acted, .reverted] ∧
      countOf afterRedelivery.store.suppressions "them@example.org" = 2 ∧
      afterRedelivery.store.deliverability.length = 2 := by
  decide +kernel

theorem redelivered_not_once :
    ¬ Always (step bounced mailKey) (Once bounced sentStore) (begin sentStore) redelivered := by
  rintro ⟨-, -, -, -, hlast⟩
  have hdraft : RevertedOnce afterRedelivery.store.draftLog := hlast.draft
  rw [afterRedelivery_twice.1] at hdraft
  exact absurd hdraft.atMostOnce (by decide)

/-- A delivery whose first request is refused. -/
def cutDelivery : Delivery :=
  ⟨fun _ => false, ⟨2000, "2026-03-01T12:00:00.000Z"⟩, "sgn-3", [some ⟨.refused, []⟩]⟩

theorem cutDelivery_idle (s : State) : Idle bounced mailKey cutDelivery s := by
  have houtcome : outcome bounced mailKey cutDelivery s.store =
      ⟨some (.error requestFailed), s.store,
        [(.signals (.querySignals "acct" (.thread "thr-1")), ⟨.refused, []⟩)], []⟩ := rfl
  rw [Idle, houtcome]
  refine ⟨fun c turn ht _ => ?_, fun _ => by simp⟩
  obtain ⟨-, rfl⟩ := Prod.mk.inj (List.mem_singleton.mp ht)
  rfl

def cutRedelivery : List Event :=
  [delivered "sgn-2" []] ++ rewritten ++ [.deliver cutDelivery]

theorem cutRedelivery_once :
    EachFits (step bounced mailKey) (Fits bounced mailKey sentStore) (begin sentStore)
        cutRedelivery ∧
      Always (step bounced mailKey) (Once bounced sentStore) (begin sentStore) cutRedelivery := by
  have hfits : EachFits (step bounced mailKey) (Fits bounced mailKey sentStore) (begin sentStore)
      cutRedelivery :=
    ⟨.inl ⟨⟨rfl, rfl, by simp [begin], rfl⟩, fun _ => ⟨rfl, by decide⟩⟩, trivial, trivial,
      .inr (cutDelivery_idle _), trivial⟩
  exact ⟨hfits, once_always hfits⟩

end SesEmailAdapter.Processor.BounceDeliveries
