import SesEmailAdapter.Processor.BounceDeliveries

/-! # Mails that a bounce puts back

A bounce from the provider's feedback that names every `to` address of a mail puts the mail back
into the drafts, as one that has reached nobody. The addresses in `cc` and `bcc` are not looked at,
so a mail can be put back that some of its recipients have received. -/

namespace SesEmailAdapter.Notifier.BounceReverts
open Lib
open SesEmailAdapter.Types Email.Address
open Database Database.Shared
open Database.SignalsTable (SignalItem SendStatusUpdate signalItem)
open Database.ThreadDatabase
open Notifier.BounceSuppression (Clock)
open Processor.InboundMessage Processor.BounceDeliveries

/-! ## Feedback -/

/-- A feedback event, with the parts that it has. -/
structure SesEvent where
  eventType : Option String
  notificationType : Option String
  bounce : Option SesFeedback
  complainedRecipients : Option (List String)

def resolveSesEventType (event : SesEvent) : Option String :=
  event.eventType <|> event.notificationType

/-- The bounce that the event is handled as. -/
def SesEvent.bounced (event : SesEvent) : Option SesFeedback :=
  if resolveSesEventType event = some "Bounce" then event.bounce else none

def SesEvent.complained (event : SesEvent) : Option (List String) :=
  if resolveSesEventType event = some "Complaint" then event.complainedRecipients else none

def suppressComplained (suppressedAt : String) : List String → BounceProg (Except DbError Unit)
  | [] => return .ok ()
  | address :: rest => do
    let suppressResult : Except DbError Nat ←
      request (.suppressAddress ⟨address, .complaint, suppressedAt, none, none, none⟩)
    match suppressResult with
    | .error error => return .error error
    | .ok _ => suppressComplained suppressedAt rest

/-- Every other event is logged. -/
def SesEvent.process (stale : String → Bool) (clock : Clock) (id : String) (event : SesEvent) :
    BounceProg (Except DbError Unit) :=
  match event.bounced, event.complained with
  | some bounce, _ => processFeedback stale bounce clock id
  | none, some recipients => suppressComplained clock.iso recipients
  | none, none => return .ok ()

/-! ## Notices -/

/-- A feedback event, or a bounce that arrives as mail. -/
inductive Notice
  | ses (event : SesEvent)
  | inbound (bounce : InboundBounce)

def Notice.deliver (stale : String → Bool) (clock : Clock) (id : String) :
    Notice → BounceProg (Except DbError Unit)
  | .ses event => event.process stale clock id
  | .inbound bounce => handleInboundBounce bounce clock id

/-- A mail that a user has composed, and what it is made of. -/
abbrev SentMail := Signal × OutboundEmailSignalData

def sentMailOf (signal : Signal) : Option SentMail :=
  (outbound signal).map fun data => (signal, data)

/-- Everyone the mail was sent to. -/
def recipientsOf (data : OutboundEmailSignalData) : List EmailAddress :=
  data.toAddresses ++ data.cc ++ data.bcc

/-- The mail under the tags of the bounce. -/
def taggedMail (stale : String → Bool) (s : SignalsTable.Store) (bounce : SesFeedback) :
    Option SentMail :=
  match bounce.sendTags with
  | none => none
  | some (accountId, signalId, threadId) =>
    (signalIn stale signalId (s.signalsIn accountId (partitionOf threadId))).bind sentMailOf

/-- The mail whose Message-ID the bounce refers to. -/
def referencedMail (s : SignalsTable.Store) (bounce : InboundBounce) : Option SentMail :=
  match extractReferencedOutboundMsgId bounce.headers with
  | none => none
  | some referencedMsgId =>
    let gsi3pk := buildSignalGsi3pk bounce.accountId referencedMsgId
    let items := (s.signals.rows.filter fun item => item.signal.gsi3pk = some gsi3pk).map
      SignalItem.signal
    ((items.mergeSort fun a b => decide (a.createdAt ≤ b.createdAt)).head?).bind sentMailOf

/-- The mail that the notice is about. -/
def Notice.mailAt (stale : String → Bool) (s : SignalsTable.Store) : Notice → Option SentMail
  | .ses event => event.bounced.bind (taggedMail stale s)
  | .inbound bounce => referencedMail s bounce

/-- The addresses that the notice reports as bounced for good. -/
def Notice.failed : Notice → List String
  | .ses event => event.bounced.toList.flatMap fun bounce =>
    if bounce.isPermanent then bounce.bouncedRecipients.map Prod.fst else []
  | .inbound bounce =>
    (bounce.recipients.filter BouncedRecipient.permanent).map BouncedRecipient.address

/-! ## Runs -/

inductive Event
  | deliver (notice : Notice) (delivery : Delivery)
  | act (a : Act)

/-- The store, and what has bounced for good of which mail. -/
structure State where
  store : Store
  bounced : List (DraftKey × String)

def mailKeyOf (mail : SentMail) : DraftKey := (mail.1.accountId, mail.1.signalLookupId)

def Event.mailAt (s : State) : Event → Option SentMail
  | .deliver notice delivery => notice.mailAt delivery.stale s.store.signals
  | .act _ => none

/-- What has bounced for good once the event is there. -/
def Event.bouncedBy (s : State) (event : Event) : List (DraftKey × String) :=
  match event with
  | .deliver notice _ => s.bounced ++ (event.mailAt s).toList.flatMap fun mail =>
      notice.failed.map fun address => (mailKeyOf mail, address)
  | .act _ => s.bounced

variable (draft : DraftKey)

def Event.trace (s : State) : Event → List (Cmd × Turn)
  | .deliver notice delivery =>
    ((notice.deliver delivery.stale delivery.clock delivery.id).run (service draft) delivery.faults
      s.store).trace
  | .act _ => []

def step (s : State) (event : Event) : State where
  store :=
    match event with
    | .deliver notice delivery =>
      ((notice.deliver delivery.stale delivery.clock delivery.id).run (service draft)
        delivery.faults s.store).store
    | .act a => act draft s.store a
  bounced := event.bouncedBy s

def begin (store : Store) : State := ⟨store, []⟩

/-! ## Total failures -/

/-- The recipient of the mail has bounced for good, in whatever case the address is written. -/
def HasBounced (bounced : List (DraftKey × String)) (mail : SentMail) (recipient : EmailAddress) :
    Prop :=
  ∃ address, (mailKeyOf mail, address) ∈ bounced ∧
    toLowerCase address.toList = toLowerCase recipient.address.toList

/-- A mail that the event puts back, or marks as failed, is the one it is about, and no recipient
of it is left. -/
def RevertsTotal (s : State) (event : Event) : Prop :=
  ∀ accountId signalLookupId update turn,
    (Cmd.signals (.updateSendStatus accountId signalLookupId update), turn) ∈ event.trace draft s →
    ∃ mail, event.mailAt s = some mail ∧ mail.1.signalLookupId = signalLookupId ∧
      ∀ recipient ∈ recipientsOf mail.2, HasBounced (event.bouncedBy s) mail recipient

/-- The bounce names every `to` address of the mail. -/
def NamesTo (bounce : SesFeedback) (data : OutboundEmailSignalData) : Prop :=
  data.toAddresses ≠ [] ∧ ∀ recipient ∈ data.toAddresses, ∃ r ∈ bounce.bouncedRecipients,
    toLowerCase r.1.toList = toLowerCase recipient.address.toList

/-- Once a permanent bounce names every `to` address of a mail, its other recipients have bounced
for good as well, by this bounce or before. -/
def CopiesBounced (s : State) : Event → Prop
  | .deliver (.ses event) delivery => ∀ bounce mail, event.bounced = some bounce →
    taggedMail delivery.stale s.store.signals bounce = some mail → bounce.isPermanent = true →
    NamesTo bounce mail.2 → ∀ recipient ∈ mail.2.cc ++ mail.2.bcc,
      HasBounced (Event.bouncedBy s (.deliver (.ses event) delivery)) mail recipient
  | _ => True

/-- The delivery meets no fault. -/
def Event.Undisturbed : Event → Prop
  | .deliver _ delivery => delivery.faults = []
  | .act _ => True

/-! ## What a delivery asks for -/

section Requests
variable {draft} {params : HandleBounceParams} {clock : Clock} {id : String}

/-- The status of a mail is asked for only as a revert. -/
def OnlyReverts (params : HandleBounceParams) (c : Cmd) : Prop :=
  ∀ accountId signalLookupId update,
    c = .signals (.updateSendStatus accountId signalLookupId update) →
      params.revertToDraft = true ∧ ∃ link, params.linkedSend = some link ∧
        signalLookupId = link.signalLookupId

theorem only_suppressAll (recipients : List BouncedRecipient) :
    (suppressAll params clock recipients).Only (OnlyReverts params) := by
  induction recipients with
  | nil => trivial
  | cons recipient rest ih =>
    refine ⟨by simp [OnlyReverts], fun answer => ?_⟩
    cases answer with
    | error error => trivial
    | ok count => exact ih

theorem only_disableAll (accountId : String) (recipients : List BouncedRecipient) :
    (disableAll accountId recipients).Only (OnlyReverts params) := by
  induction recipients with
  | nil => trivial
  | cons recipient rest ih => exact ⟨by simp [OnlyReverts], fun _ => ih⟩

theorem only_surface {link : LinkedSend} (hlink : params.linkedSend = some link)
    (createdAt : String) : (surface params link id createdAt).Only (OnlyReverts params) := by
  refine ⟨by simp [OnlyReverts], fun answer => ?_⟩
  cases answer with
  | error error => trivial
  | ok saved =>
    show Prog.Only _ (if params.revertToDraft = true then _ else _)
    split
    · next hrevert =>
      refine ⟨?_, fun _ => trivial⟩
      intro accountId signalLookupId update heq
      cases heq
      exact ⟨hrevert, link, hlink, rfl⟩
    · trivial

theorem only_handleBounce :
    (handleBounce params clock id).Only (OnlyReverts params) := by
  refine (only_suppressAll params.bouncedRecipients).bind fun suppressed => ?_
  cases suppressed with
  | error error => trivial
  | ok u =>
    cases hlink : params.linkedSend with
    | none =>
      show Prog.Only _ (if _ then _ else _)
      split
      · exact (only_disableAll _ _).bind fun _ => trivial
      · trivial
    | some link =>
      have hlast : (surface params link id clock.iso).Only (OnlyReverts params) :=
        only_surface hlink clock.iso
      show Prog.Only _ (if _ then _ else _)
      split
      · exact (only_disableAll _ _).bind fun _ => hlast
      · exact hlast

theorem only_suppressComplained (suppressedAt : String) (recipients : List String) :
    (suppressComplained suppressedAt recipients).Only fun c => ∀ accountId signalLookupId update,
      c ≠ .signals (.updateSendStatus accountId signalLookupId update) := by
  induction recipients with
  | nil => trivial
  | cons recipient rest ih =>
    refine ⟨by simp, fun answer => ?_⟩
    cases answer with
    | error error => trivial
    | ok count => exact ih

/-- A lookup is answered from the table, or fails. -/
theorem trace_lookup {c : SignalsTable.Cmd} {k : c.Answer → BounceProg (Except DbError Unit)}
    {P : Cmd → Prop} {s : Store} (hlookup : P (.signals c))
    (hfail : (k (SignalsTable.failure c)).Only P)
    (hdone : (k (SignalsTable.exec c s.signals).1).Only P) (faults : Faults Turn) :
    ∀ e ∈ ((Prog.call (.signals c) k : BounceProg _).run (service draft) faults s).trace,
      P e.1 := by
  have hsame : (exec draft (.signals c) s).1 = (SignalsTable.exec c s.signals).1 := by
    cases c <;> rfl
  have hdone' : (k (exec draft (.signals c) s).1).Only P := by
    rw [hsame]
    exact hdone
  have hrest (turn : Turn) : (k ((service draft).settle (.signals c) s turn).1).Only P := by
    obtain ⟨fate, acts⟩ := turn
    cases fate with
    | done => exact hdone'
    | refused => exact hfail
    | lost => exact hfail
  intro e he
  rcases faults with _ | ⟨_ | turn, faults⟩
  · rcases List.mem_cons.mp he with rfl | he
    · exact hlookup
    · exact (hrest _).run_trace _ _ e he
  · cases he
  · rcases List.mem_cons.mp he with rfl | he
    · exact hlookup
    · exact (hrest turn).run_trace _ _ e he

variable {bounce : SesFeedback} {accountId signalLookupId : String}

/-- Feedback asks for the status of the mail under its tags, if that is to be put back. -/
theorem reverts_of_mem_processFeedback {stale : String → Bool} {faults : Faults Turn} {s : Store}
    {update : SendStatusUpdate} {turn : Turn}
    (h : (Cmd.signals (.updateSendStatus accountId signalLookupId update), turn) ∈
      ((processFeedback stale bounce clock id).run (service draft) faults s).trace) :
    ∃ mail, taggedMail stale s.signals bounce = some mail ∧ mail.1.signalLookupId = signalLookupId ∧
      bounce.wholly mail.2 = true := by
  have honly : ∀ e ∈ ((processFeedback stale bounce clock id).run (service draft) faults s).trace,
      OnlyReverts ((Notification.feedback bounce).paramsAt stale s.signals) e.1 := by
    cases htags : bounce.sendTags with
    | none =>
      simp only [processFeedback, Notification.paramsAt, htags]
      exact only_handleBounce.run_trace faults s
    | some tags =>
      obtain ⟨taggedAccount, signalId, threadId⟩ := tags
      simp only [processFeedback, Notification.paramsAt, htags]
      refine trace_lookup ?_ ?_ ?_ faults
      · simp [OnlyReverts]
      · trivial
      · exact only_handleBounce
  obtain ⟨hrevert, link, hlink, rfl⟩ := honly _ h accountId signalLookupId update rfl
  cases htags : bounce.sendTags with
  | none => simp [Notification.paramsAt, htags, SesFeedback.params] at hrevert
  | some tags =>
    obtain ⟨taggedAccount, signalId, threadId⟩ := tags
    simp only [Notification.paramsAt, htags, SesFeedback.params] at hrevert hlink
    simp only [taggedMail, htags]
    cases hsignal : signalIn stale signalId
        (s.signals.signalsIn taggedAccount (partitionOf threadId)) with
    | none => simp [hsignal] at hrevert
    | some signal =>
      cases hdata : outbound signal with
      | none => simp [hsignal, hdata] at hrevert
      | some data =>
        simp only [hsignal, hdata, Option.bind_some, Option.map_some, Option.any_some,
          Option.some.injEq] at hrevert hlink
        refine ⟨(signal, data), by simp [sentMailOf, hdata], ?_, hrevert⟩
        rw [← hlink]

theorem noRevert_of_mem_inbound (stale : String → Bool) {bounce : InboundBounce}
    {faults : Faults Turn} {s : Store} {update : SendStatusUpdate} {turn : Turn} :
    (Cmd.signals (.updateSendStatus accountId signalLookupId update), turn) ∉
      ((handleInboundBounce bounce clock id).run (service draft) faults s).trace := by
  intro h
  have honly : ∀ e ∈ ((handleInboundBounce bounce clock id).run (service draft) faults s).trace,
      OnlyReverts ((Notification.inbound bounce).paramsAt stale s.signals) e.1 := by
    cases hreferenced : extractReferencedOutboundMsgId bounce.headers with
    | none =>
      simp only [handleInboundBounce, Notification.paramsAt, hreferenced]
      exact only_handleBounce.run_trace faults s
    | some referencedMsgId =>
      simp only [handleInboundBounce, Notification.paramsAt, hreferenced]
      refine trace_lookup ?_ ?_ ?_ faults
      · simp [OnlyReverts]
      · trivial
      · exact only_handleBounce
  obtain ⟨hrevert, -⟩ := honly _ h accountId signalLookupId update rfl
  simp only [Notification.paramsAt] at hrevert
  split at hrevert
  · simp [InboundBounce.params] at hrevert
  · simp [InboundBounce.params] at hrevert

end Requests

/-! ## One event -/

section Step
variable {draft}

theorem wholly_iff (bounce : SesFeedback) (data : OutboundEmailSignalData) :
    bounce.wholly data = true ↔ bounce.isPermanent = true ∧ NamesTo bounce data := by
  simp only [SesFeedback.wholly, NamesTo, SesFeedback.recipients, Bool.and_eq_true,
    decide_eq_true_eq, List.all_eq_true, List.any_eq_true, List.mem_map]
  constructor
  · rintro ⟨⟨hpermanent, hne⟩, hall⟩
    refine ⟨hpermanent, hne, fun recipient hmem => ?_⟩
    obtain ⟨_, ⟨r, hr, rfl⟩, hsame, -⟩ := hall recipient hmem
    exact ⟨r, hr, hsame⟩
  · rintro ⟨hpermanent, hne, hall⟩
    refine ⟨⟨hpermanent, hne⟩, fun recipient hmem => ?_⟩
    obtain ⟨r, hr, hsame⟩ := hall recipient hmem
    exact ⟨_, ⟨r, hr, rfl⟩, hsame, hpermanent⟩

/-- What a permanent bounce names has bounced. -/
theorem hasBounced_of_named {s : State} {event : SesEvent} {delivery : Delivery}
    {mail : SentMail} (hbounce : event.bounced = some bounce)
    (hmail : taggedMail delivery.stale s.store.signals bounce = some mail)
    (hpermanent : bounce.isPermanent = true) {recipient : EmailAddress}
    (hnamed : ∃ r ∈ bounce.bouncedRecipients,
      toLowerCase r.1.toList = toLowerCase recipient.address.toList) :
    HasBounced (Event.bouncedBy s (.deliver (.ses event) delivery)) mail recipient := by
  obtain ⟨r, hr, hsame⟩ := hnamed
  refine ⟨r.1, ?_, hsame⟩
  have hat : Event.mailAt s (.deliver (.ses event) delivery) = some mail := by
    simp [Event.mailAt, Notice.mailAt, hbounce, hmail]
  have hfailed : r.1 ∈ (Notice.ses event).failed := by
    simp only [Notice.failed, hbounce, Option.toList_some, List.flatMap_cons, hpermanent]
    simpa using ⟨r.2, hr⟩
  simp only [Event.bouncedBy, hat, Option.toList_some, List.flatMap_cons, List.flatMap_nil,
    List.append_nil]
  exact List.mem_append_right _ (List.mem_map_of_mem hfailed)

theorem revertsTotal_of_copies {s : State} {event : Event} (h : CopiesBounced s event) :
    RevertsTotal draft s event := by
  intro accountId signalLookupId update turn htrace
  cases event with
  | act a => cases htrace
  | deliver notice delivery =>
    cases notice with
    | inbound bounce => exact absurd htrace (noRevert_of_mem_inbound delivery.stale)
    | ses event =>
      simp only [Event.trace, Notice.deliver, SesEvent.process] at htrace
      cases hbounce : event.bounced with
      | none =>
        simp only [hbounce] at htrace
        cases hcomplained : event.complained with
        | none =>
          simp only [hcomplained] at htrace
          exact absurd ((Prog.only_ret (P := fun _ => False) _).run_trace _ _ _ htrace) id
        | some recipients =>
          simp only [hcomplained] at htrace
          exact absurd rfl ((only_suppressComplained _ recipients).run_trace _ _ _ htrace
            accountId signalLookupId update)
      | some bounce =>
        simp only [hbounce] at htrace
        obtain ⟨mail, hmail, hlookup, hwholly⟩ := reverts_of_mem_processFeedback htrace
        obtain ⟨hpermanent, hnames⟩ := (wholly_iff bounce mail.2).mp hwholly
        refine ⟨mail, ?_, hlookup, fun recipient hmem => ?_⟩
        · simp [Event.mailAt, Notice.mailAt, hbounce, hmail]
        · rw [recipientsOf, List.append_assoc] at hmem
          rcases List.mem_append.mp hmem with hto | hcopy
          · exact hasBounced_of_named hbounce hmail hpermanent (hnames.2 recipient hto)
          · exact h bounce mail hbounce hmail hpermanent hnames recipient hcopy

theorem eval_suppressAll (params : HandleBounceParams) (clock : Clock)
    (recipients : List BouncedRecipient) (s : Store) :
    ((suppressAll params clock recipients).eval (service draft) s).1 = .ok () := by
  induction recipients generalizing s with
  | nil => rfl
  | cons recipient rest ih => exact ih _

/-- Without faults a mail that is to be put back is put back. -/
theorem mem_trace_handleBounce {params : HandleBounceParams} {clock : Clock} {id : String}
    {link : LinkedSend} (hlink : params.linkedSend = some link)
    (hrevert : params.revertToDraft = true) (s : Store) :
    (revertRequest params link, (service draft).usual) ∈
      ((handleBounce params clock id).run (service draft) [] s).trace := by
  have hsurface (s : Store) : (revertRequest params link, (service draft).usual) ∈
      ((surface params link id clock.iso).run (service draft) [] s).trace := by
    refine .tail _ ?_
    show _ ∈ ((if params.revertToDraft = true then _ else _ : BounceProg _).run _ _ _).trace
    rw [if_pos hrevert]
    exact .head _
  refine Prog.mem_trace_bind ?_
  rw [eval_suppressAll]
  simp only [hlink]
  split
  · exact Prog.mem_trace_bind (hsurface _)
  · exact hsurface _

theorem mem_trace_processFeedback {stale : String → Bool} {clock : Clock}
    {id : String} {mail : SentMail} {s : Store}
    (hmail : taggedMail stale s.signals bounce = some mail)
    (hwholly : bounce.wholly mail.2 = true) :
    ∃ accountId signalLookupId, (Cmd.signals (.updateSendStatus accountId signalLookupId
        bouncedUpdate), (service draft).usual) ∈
      ((processFeedback stale bounce clock id).run (service draft) [] s).trace := by
  cases htags : bounce.sendTags with
  | none => simp [taggedMail, htags] at hmail
  | some tags =>
    obtain ⟨taggedAccount, signalId, threadId⟩ := tags
    simp only [taggedMail, htags] at hmail
    obtain ⟨signal, hsignal, hmail⟩ := Option.bind_eq_some_iff.mp hmail
    obtain ⟨data, hdata, rfl⟩ := Option.map_eq_some_iff.mp hmail
    have hrevert : (bounce.params (some signal)).revertToDraft = true := by
      simpa [SesFeedback.params, hdata] using hwholly
    obtain ⟨link, hlink⟩ : ∃ link, (bounce.params (some signal)).linkedSend = some link := by
      simp [SesFeedback.params, hdata]
    refine ⟨(bounce.params (some signal)).accountId, link.signalLookupId, ?_⟩
    simp only [processFeedback, htags]
    refine .tail _ ?_
    show _ ∈ ((handleBounce (bounce.params (signalIn stale signalId
      (s.signals.signalsIn taggedAccount (partitionOf threadId)))) clock id).run _ _ _).trace
    rw [hsignal]
    exact mem_trace_handleBounce hlink hrevert _

theorem copiesBounced_of_total {s : State} {event : Event} (hcalm : event.Undisturbed)
    (h : RevertsTotal draft s event) : CopiesBounced s event := by
  cases event with
  | act a => trivial
  | deliver notice delivery =>
    cases notice with
    | inbound bounce => trivial
    | ses event =>
      intro bounce mail hbounce hmail hpermanent hnames recipient hcopy
      have hat : Event.mailAt s (.deliver (.ses event) delivery) = some mail := by
        simp [Event.mailAt, Notice.mailAt, hbounce, hmail]
      have hwholly : bounce.wholly mail.2 = true := (wholly_iff _ _).mpr ⟨hpermanent, hnames⟩
      have htrace : ∃ accountId signalLookupId,
          (Cmd.signals (.updateSendStatus accountId signalLookupId bouncedUpdate),
            (service draft).usual) ∈
            Event.trace draft s (.deliver (.ses event) delivery) := by
        have hfaults : delivery.faults = [] := hcalm
        simp only [Event.trace, Notice.deliver, SesEvent.process, hbounce, hfaults]
        exact mem_trace_processFeedback hmail hwholly
      obtain ⟨accountId, signalLookupId, hmem⟩ := htrace
      obtain ⟨found, hfound, -, hall⟩ := h accountId signalLookupId bouncedUpdate _ hmem
      obtain rfl := Option.some.inj (hat.symm.trans hfound)
      refine hall recipient ?_
      rw [recipientsOf, List.append_assoc]
      exact List.mem_append_right _ hcopy

end Step

/-! ## Runs -/

/-- **A mail is put back only when it has failed for all its recipients, where every permanent
bounce of all its `to` addresses leaves none of the copies. Without faults, only there.** -/
theorem revertsTotal_iff (start : Store) (events : List Event) :
    (EachFits (step draft) CopiesBounced (begin start) events →
      EachFits (step draft) (RevertsTotal draft) (begin start) events) ∧
    ((∀ event ∈ events, event.Undisturbed) →
      EachFits (step draft) (RevertsTotal draft) (begin start) events →
      EachFits (step draft) CopiesBounced (begin start) events) := by
  constructor
  · intro h
    exact h.imp fun s event _ hcopies => revertsTotal_of_copies hcopies
  · intro hcalm h
    exact h.imp fun s event hmem htotal => copiesBounced_of_total (hcalm event hmem) htotal

/-! ## A copy that has arrived -/

def copiedData : OutboundEmailSignalData where
  sender := ⟨"me@example.com", none⟩
  toAddresses := [⟨"them@example.org", none⟩]
  cc := [⟨"boss@example.org", none⟩]
  bcc := []
  subject := "Lunch"
  attachments := []
  headers := []
  textBody := some "At noon?"
  htmlBody := none
  sesMessageId := some "ses-1"
  sendInitiatedAt := none
  sendFailureReason := none
  linkedSignalId := none

/-- A mail that has gone to one address and, as a copy, to another. -/
def copiedMail : Signal := { sentMail with data := .outboundEmail copiedData }

def copiedStore : Store :=
  { sentStore with signals := ⟨KeyedTable.empty.put (signalItem copiedMail), .empty⟩ }

def bounceOf (addresses : List String) : SesFeedback where
  bounceType := "Permanent"
  bouncedRecipients := addresses.map fun address => (address, some "5.1.1")
  messageId := "ses-1"
  tags := [(TAG_ACCOUNT_ID, "acct"), (TAG_SIGNAL_ID, "sgn-1"), (TAG_THREAD_ID, "thr-1")]

def reported (id : String) (addresses : List String) : Event :=
  .deliver (.ses ⟨some "Bounce", none, some (bounceOf addresses), none⟩)
    ⟨fun _ => false, ⟨1000, "2026-03-01T10:00:00.000Z"⟩, id, []⟩

/-- The copy has arrived, and the mail is a draft that has failed for all recipients. -/
theorem afterBounce_draft :
    (((step mailKey (begin copiedStore) (reported "sgn-2" ["them@example.org"])).store.signals
      ).signals.get mailKey).map (fun item => (item.signal.status, outbound item.signal |>.map
        OutboundEmailSignalData.sendFailureReason)) =
      some (.draft, some (some "all_recipients_bounced")) := by
  decide +kernel

/-- The mail under the tags of the bounce, at any time. -/
theorem taggedMail_copied (addresses : List String) :
    taggedMail (fun _ => false) copiedStore.signals (bounceOf addresses) =
      some (copiedMail, copiedData) := by
  have htags : (bounceOf addresses).sendTags = some ("acct", "sgn-1", "thr-1") := by
    show (bounceOf []).sendTags = _
    decide +kernel
  have hsignal : signalIn (fun _ => false) "sgn-1"
      (copiedStore.signals.signalsIn "acct" (partitionOf "thr-1")) = some copiedMail := by
    decide +kernel
  simp [taggedMail, htags, hsignal, sentMailOf, copiedMail, outbound]

theorem copyArrived_reverted :
    ¬ EachFits (step mailKey) (RevertsTotal mailKey) (begin copiedStore)
      [reported "sgn-2" ["them@example.org"]] := by
  rintro ⟨htotal, -⟩
  have hnames : NamesTo (bounceOf ["them@example.org"]) copiedData :=
    ⟨by simp [copiedData], by simp [copiedData, bounceOf]⟩
  have hcalm : (reported "sgn-2" ["them@example.org"]).Undisturbed := rfl
  have hcopies : CopiesBounced (begin copiedStore) (reported "sgn-2" ["them@example.org"]) :=
    copiesBounced_of_total hcalm htotal
  obtain ⟨address, hmem, hsame⟩ := hcopies (bounceOf ["them@example.org"])
    (copiedMail, copiedData) rfl (taggedMail_copied _) rfl hnames ⟨"boss@example.org", none⟩
    (by simp [copiedData])
  have hbounced : (reported "sgn-2" ["them@example.org"]).bouncedBy (begin copiedStore) =
      [(mailKey, "them@example.org")] := by
    decide +kernel
  have hmem' : (mailKey, address) ∈ [(mailKey, "them@example.org")] := by
    rw [← hbounced]
    exact hmem
  obtain rfl : address = "them@example.org" := by simpa using hmem'
  exact absurd hsame (by decide)

/-- The copy bounces first. -/
def allBounced : List Event :=
  [reported "sgn-2" ["Boss@example.org"], reported "sgn-3" ["them@example.org"]]

theorem allBounced_total :
    EachFits (step mailKey) CopiesBounced (begin copiedStore) allBounced ∧
      EachFits (step mailKey) (RevertsTotal mailKey) (begin copiedStore) allBounced := by
  have hfits : EachFits (step mailKey) CopiesBounced (begin copiedStore) allBounced := by
    refine ⟨?_, ?_, trivial⟩
    · intro bounce mail hbounce hmail _ hnames
      obtain rfl := Option.some.inj hbounce
      obtain rfl := Option.some.inj ((taggedMail_copied _).symm.trans hmail)
      obtain ⟨r, hr, hsame⟩ := hnames.2 ⟨"them@example.org", none⟩ (by simp [copiedData])
      obtain rfl : r = ("Boss@example.org", some "5.1.1") := by simpa [bounceOf] using hr
      exact absurd hsame (by decide)
    · intro bounce mail hbounce hmail _ _ recipient hcopy
      obtain rfl := Option.some.inj hbounce
      have hsame : taggedMail (fun _ => false) (step mailKey (begin copiedStore)
          (reported "sgn-2" ["Boss@example.org"])).store.signals (bounceOf ["them@example.org"]) =
          some (copiedMail, copiedData) := by
        decide +kernel
      obtain rfl := Option.some.inj (hsame.symm.trans hmail)
      obtain rfl : recipient = ⟨"boss@example.org", none⟩ := by simpa [copiedData] using hcopy
      have hbounced : (reported "sgn-3" ["them@example.org"]).bouncedBy (step mailKey
          (begin copiedStore) (reported "sgn-2" ["Boss@example.org"])) =
          [(mailKey, "Boss@example.org"), (mailKey, "them@example.org")] := by
        decide +kernel
      refine ⟨"Boss@example.org", ?_, by decide⟩
      show _ ∈ (reported "sgn-3" ["them@example.org"]).bouncedBy _
      rw [hbounced]
      exact .head _
  exact ⟨hfits, (revertsTotal_iff mailKey copiedStore allBounced).1 hfits⟩

end SesEmailAdapter.Notifier.BounceReverts
