import SesEmailAdapter.Lib.CallLog
import SesEmailAdapter.Lib.Runs
import SesEmailAdapter.Processor.AutoReplies

/-! # Critical side effects

A message of the queue of side effects comes again until a delivery of it returns ok. The copies to
forwarding targets, the drafts of rules and the forwarded invite must have been carried out by
then. The worker takes a template, an account or an invite that it cannot read for one that is not
there, and returns ok without the effect. -/

namespace SesEmailAdapter.Processor.CriticalEffects
open Lib
open SesEmailAdapter.Types Database Database.Shared
open Email.Service Email.SendPaths
open Forwarding.Targets (AccountMeta StoredTarget)
open Notifier.ReplySender
open Processor.AutoReplies
open Processor.DraftSendWorker (SendReceipt Turn)
open Processor.IngestService (SideEffectPayload)
open Processor.OutboundService Processor.RuleOutcome
open Processor.SideEffects

/-! ## Deliveries -/

/-- A call and what it was answered. -/
abbrev Event := Sigma Cmd.Answer

/-- No mail is refused for good in this turn. -/
def Transient (turn : Turn) : Prop :=
  ∀ handed errorName, turn ≠ .mail handed (.error (.permanentSes errorName))

/-- The templates are answered as they are, or cannot be read. -/
def ReadsTemplates (env : Env) (templates : String → String → Option EmailTemplate) : Prop :=
  ∀ tick accountId templateId,
    env.answer tick (.getTemplate accountId templateId) = .ok (templates accountId templateId) ∨
      ∃ error, env.answer tick (.getTemplate accountId templateId) = .error error

/-- One delivery of a message: the world that it meets, whatever has happened since the last one,
and what becomes of its calls. -/
structure Delivery where
  env : Env
  templates : String → String → Option EmailTemplate
  receiveCount : Nat
  world : World
  turns : List Turn
  transient : ∀ turn ∈ turns, Transient turn
  reads : ReadsTemplates env templates

namespace Delivery
variable (d : Delivery) (payload : SideEffectPayload)

def outcome := (processSideEffect d.env payload d.receiveCount).run (service d.env).logged
  (d.turns.map some) (d.world, [])

def result : Option (Except ProcessorError Unit) := (d.outcome payload).result

def after : World := (d.outcome payload).store.1

def calls : List Event := (d.outcome payload).store.2

end Delivery

/-! ## What the outcome of an email calls for -/

def threadOf (payload : SideEffectPayload) (receiveCount : Nat) (w : World) : Thread :=
  if receiveCount > 1 then
    (w.table.threads.get (payload.signal.accountId, payload.thread.id)).getD payload.thread
  else payload.thread

def CopySent (target : StoredTarget) (signal : Signal) (thread : Thread) (calls : List Event) :
    Prop :=
  match target.type with
  | .email => ∃ receipt,
    ⟨.send thread.accountId (forwardEmail target.target thread.accountId), .ok receipt⟩ ∈ calls
  | .webhook => ⟨.postWebhook target.target signal, .ok ()⟩ ∈ calls

/-- The templates of the drafting actions, of those that there are. -/
def calledTemplates (templates : String → String → Option EmailTemplate) (accountId : String)
    (data : InboundEmailSignalData) : List EmailTemplate :=
  (autoDraftValues data).filterMap fun value =>
    (parseAutoDraftValue value).bind fun parsed => templates accountId parsed.templateId

def savedSignal : Event → Option Signal
  | ⟨.db (.putSignal signal), .ok ()⟩ => some signal
  | _ => none

def IsDraftOf (accountId threadId : String) (data : InboundEmailSignalData)
    (tmpl : EmailTemplate) (signal : Signal) : Prop :=
  ∃ draftId now vars shouldAutoSend,
    signal = autoDraftSignal accountId threadId draftId now data tmpl vars shouldAutoSend

/-- The calendar event of a signal, where the email carried it. -/
def inviteOf (emailSignalId : String) (signal : Signal) : Option CalendarEventData :=
  match signal.data with
  | .calendarEvent event => if event.linkedSignalId = emailSignalId then some event else none
  | _ => none

def linkedInvite (w : World) (accountId threadId emailSignalId : String) :
    Option CalendarEventData :=
  (w.table.signalsIn accountId (.thread threadId)).findSome? (inviteOf emailSignalId)

/-- The effects that an email calls for, as the tables are, are among the calls that succeeded. A
draft is made for each action. -/
structure CarriedOut (mailService : EmailService)
    (templates : String → String → Option EmailTemplate) (signal : Signal)
    (data : InboundEmailSignalData) (thread : Thread) (w : World) (calls : List Event) : Prop where
  copies : ∀ id ∈ (deriveOutcome data.matchedRules).forwardAddresses, ∀ target,
    w.targets.targets.get (thread.accountId, id) = some target → target.status = .verified →
    CopySent target signal thread calls
  drafts : ∃ drafts, drafts.Sublist (calls.filterMap savedSignal) ∧
    List.Forall₂ (IsDraftOf signal.accountId thread.id data)
      (calledTemplates templates signal.accountId data) drafts
  invite : hasForwardCalendarInvite data.matchedRules → ∀ account target event,
    w.targets.account signal.accountId = some account →
    account.defaultCalendarInviteForwardingTargetId = some target → target ≠ "" →
    linkedInvite w signal.accountId thread.id signal.id = some event →
    ∃ opts receipt,
      forwardInvite mailService event target signal.accountId data.recipientAddress = some opts ∧
      ⟨.send signal.accountId opts, .ok receipt⟩ ∈ calls

/-! ## What can fail on the way -/

/-- A failure that the worker takes for nothing to do. -/
def lostRead : Event → Bool
  | ⟨.ask (.getTemplate ..), .error _⟩ => true
  | ⟨.db (.querySignals ..), .error _⟩ => true
  | _ => false

/-- A failure that the worker counts. -/
@[simp] def criticalFailure : Event → Bool
  | ⟨.db (.getThread ..), .error _⟩ => true
  | ⟨.targets (.getForwardingTarget ..), .error _⟩ => true
  | ⟨.ask (.getOriginalEmail ..), .error _⟩ => true
  | ⟨.send .., .error _⟩ => true
  | ⟨.postWebhook .., .error _⟩ => true
  | ⟨.dispatchWorkflow .., .error _⟩ => true
  | ⟨.sendReply _, .error (.loopGuardTripped _)⟩ => false
  | ⟨.sendReply _, .error _⟩ => true
  | ⟨.db (.putSignal ⟨_, _, _, _, _, _, _, _, _, .outboundEmail _⟩), .error _⟩ => true
  | _ => false

/-- A failure of a read on the way to an effect. -/
def failedRead : Event → Bool
  | ⟨.db (.getThread ..), .error _⟩ => true
  | ⟨.targets (.getForwardingTarget ..), .error _⟩ => true
  | ⟨.ask (.getOriginalEmail ..), .error _⟩ => true
  | ⟨.ask (.getTemplate ..), .error _⟩ => true
  | ⟨.db (.querySignals ..), .error _⟩ => true
  | _ => false

/-- The invite was looked up after a failure to read the account whose default it goes to. -/
def BlindLookup (calls : List Event) : Prop :=
  ∃ accountId error owner partition answer,
    [⟨.targets (.getAccount accountId), .error error⟩,
      ⟨.db (.querySignals owner partition), answer⟩] <:+: calls

def ReadLost (calls : List Event) : Prop := (∃ e ∈ calls, lostRead e) ∨ BlindLookup calls

def ReadFailed (calls : List Event) : Prop := (∃ e ∈ calls, failedRead e) ∨ BlindLookup calls

variable {r : Except DbError Unit} {part calls : List Event}

theorem ReadLost.mono (h : ReadLost part) (hpart : part <:+: calls) :
    ReadLost calls := by
  obtain ⟨e, he, hlost⟩ | ⟨_, _, _, _, _, hblind⟩ := h
  · exact .inl ⟨e, hpart.subset he, hlost⟩
  · exact .inr ⟨_, _, _, _, _, hblind.trans hpart⟩

def Clean (calls : List Event) : Prop := ∀ e ∈ calls, criticalFailure e = false

@[simp] theorem clean_nil : Clean [] := by simp [Clean]

variable {n : Nat} {calls : List Event} {payload : SideEffectPayload}

@[simp] theorem clean_cons {e : Event} :
    Clean (e :: calls) ↔ criticalFailure e = false ∧ Clean calls := by simp [Clean]

@[simp] theorem clean_append {calls calls' : List Event} :
    Clean (calls ++ calls') ↔ Clean calls ∧ Clean calls' := by
  simp [Clean, or_imp, forall_and]

theorem Aside.clean (h : ∀ e ∈ calls, Aside e.1) : Clean calls := by
  intro e he
  have haside := h e he
  obtain ⟨c, answer⟩ := e
  cases c with
  | db c =>
    cases c with
    | putSignal signal =>
      obtain ⟨_, _, _, _, _, _, _, _, _, data⟩ := signal
      cases data with
      | outboundEmail draft => exact absurd rfl (haside draft)
      | _ => rfl
    | _ => exact haside.elim
  | ask e => cases e with
    | getOriginalEmail s3Key createdAt => exact haside.elim
    | _ => rfl
  | targets c => cases c with
    | getForwardingTarget accountId target => exact haside.elim
    | _ => rfl
  | attempt _ => rfl
  | accounts _ => rfl
  | _ => exact haside.elim

/-! ## Copies -/

section
variable {env : Env} {w w' : World} {calls : List Event}

/-- A read of the targets is answered with what they are, or fails. -/
theorem targets_returns {c : Forwarding.Targets.Cmd} {r : c.Answer}
    (hread : ∀ s, (Forwarding.Targets.exec c s).2 = s)
    (h : (targets (Forwarding.Targets.request c)).Returns (service env) Transient w calls r w') :
    w' = w ∧ calls = [⟨.targets c, r⟩] ∧
      (r = Forwarding.Targets.failure c ∨ r = (Forwarding.Targets.exec c w.targets).1) := by
  obtain ⟨turn, rest, _, rfl, hret⟩ := Prog.returns_call.mp h
  obtain ⟨rfl, rfl, rfl⟩ := Prog.returns_ret.mp hret
  refine ⟨?_, rfl, ?_⟩
  · show { w with targets := (settleRequest _ _ c w.targets turn.fate).2 } = w
    obtain hsame | hsame :=
      settleRequest_store Forwarding.Targets.exec Forwarding.Targets.failure c w.targets turn.fate
    · rw [hsame]
    · rw [hsame, hread]
  · show (settleRequest _ _ c w.targets turn.fate).1 = _ ∨
      (settleRequest _ _ c w.targets turn.fate).1 = _
    cases turn.fate with
    | done => exact .inr rfl
    | refused => exact .inl rfl
    | lost => exact .inl rfl

variable {data : InboundEmailSignalData} {thread : Thread} {signal : Signal}
  {templates : String → String → Option EmailTemplate} {accountId : String}

theorem forward_returns {id : String} {r : Except ReplySendError Unit}
    (h : (forward id signal data thread).Returns (service env) Transient w calls r w') :
    (r.toBool = true ↔ Clean calls) ∧ (r.toBool = true → ∀ target,
      w.targets.targets.get (thread.accountId, id) = some target → target.status = .verified →
      CopySent target signal thread calls) := by
  obtain ⟨first, rest, read, w₁, rfl, hread, hnext⟩ := Prog.returns_bind.mp h
  obtain ⟨rfl, rfl, rfl | rfl⟩ := targets_returns (fun _ => rfl) hread
  · obtain ⟨rfl, rfl, rfl⟩ := Prog.returns_ret.mp hnext
    simp [Except.toBool, criticalFailure, Forwarding.Targets.failure]
  · simp only [Forwarding.Targets.exec] at hnext ⊢
    cases hget : w₁.targets.targets.get (thread.accountId, id) with
    | none =>
      rw [hget] at hnext
      obtain ⟨rfl, rfl, rfl⟩ := Prog.returns_ret.mp hnext
      simp [Except.toBool, criticalFailure]
    | some target =>
      rw [hget] at hnext
      change Prog.Returns _ _ (ite _ _ _) _ _ _ _ at hnext
      by_cases hverified : target.status = .verified
      · rw [if_neg (not_not.mpr hverified)] at hnext
        cases htype : target.type with
        | email =>
          rw [htype] at hnext
          obtain ⟨raw, rest, w₁, rfl, hread⟩ := hnext.answered
          change Except DbError Unit at raw
          cases raw with
          | error error =>
            obtain ⟨rfl, rfl, rfl⟩ := Prog.returns_ret.mp hread
            simp [Except.toBool, criticalFailure]
          | ok =>
            obtain ⟨sent, rest, w₂, rfl, hsent⟩ := hread.answered
            obtain ⟨rfl, rfl, rfl⟩ := Prog.returns_ret.mp hsent
            change Except ReplySendError SendReceipt at sent
            cases sent with
            | error error => simp [Except.toBool, Except.map, criticalFailure]
            | ok receipt => simp [Except.toBool, Except.map, criticalFailure, CopySent, htype]
        | webhook =>
          rw [htype] at hnext
          obtain ⟨posted, rest, w₁, rfl, hposted⟩ := hnext.answered
          obtain ⟨rfl, rfl, rfl⟩ := Prog.returns_ret.mp hposted
          change Except DbError Unit at posted
          cases posted with
          | error error => simp [Except.toBool, Except.mapError, criticalFailure]
          | ok => simp [Except.toBool, Except.mapError, criticalFailure, CopySent, htype]
      · rw [if_pos hverified] at hnext
        obtain ⟨rfl, rfl, rfl⟩ := Prog.returns_ret.mp hnext
        simp [Except.toBool, criticalFailure, hverified]

/-! ## Drafts -/

theorem Aside.clean_of_returns {α : Type} {p : OutboundProg α} (hp : p.Only Aside) {a : α}
    (h : p.Returns (service env) Transient w calls a w') : Clean calls :=
  Aside.clean (h.only hp)

theorem saveDraft_returns {context : DraftContext}
    {tmpl : EmailTemplate} {vars : Fields} {shouldAutoSend : Bool}
    (h : (saveDraft context thread data tmpl vars shouldAutoSend).Returns (service env) Transient
      w calls r w') :
    (r.toBool = true ↔ Clean calls) ∧ (r.toBool = true →
      ∃ signal ∈ calls.filterMap savedSignal,
        IsDraftOf context.accountId thread.id data tmpl signal) := by
  obtain ⟨encoded, rest, w₁, rfl, hid⟩ := h.answered
  obtain ⟨saved, rest, w₂, rfl, hsave⟩ := hid.answered
  change Except DbError Unit at saved
  match saved with
  | .error error =>
    obtain ⟨rfl, rfl, rfl⟩ := Prog.returns_ret.mp hsave
    simp [Except.toBool, criticalFailure, autoDraftSignal]
  | .ok () =>
    have hqueued : r = .ok () ∧ Clean rest := by
      change Prog.Returns _ _ (ite _ _ _) _ _ _ _ at hsave
      split at hsave
      · obtain ⟨queued, rest, w₃, rfl, hqueued⟩ := hsave.answered
        obtain ⟨rfl, rfl, rfl⟩ := Prog.returns_ret.mp hqueued
        simp [criticalFailure]
      · obtain ⟨rfl, rfl, rfl⟩ := Prog.returns_ret.mp hsave
        exact ⟨rfl, clean_nil⟩
    obtain ⟨rfl, hclean⟩ := hqueued
    refine ⟨by simp [Except.toBool, criticalFailure, hclean], fun _ => ?_⟩
    exact ⟨_, List.mem_filterMap.mpr ⟨_, List.mem_cons_of_mem _ List.mem_cons_self, rfl⟩,
      _, _, _, _, rfl⟩

/-- A draft is made of the template of an action, where it is read. -/
theorem autoDraft_returns (hreads : ReadsTemplates env templates) {context : DraftContext}
    {value : String}
    (h : (autoDraft env context signal thread data value).Returns (service env) Transient
      w calls r w') :
    (r.toBool = true ↔ Clean calls) ∧ (r.toBool = true → (∀ e ∈ calls, lostRead e = false) →
      ∀ tmpl, ((parseAutoDraftValue value).bind fun parsed =>
        templates context.accountId parsed.templateId) = some tmpl →
      ∃ signal ∈ calls.filterMap savedSignal,
        IsDraftOf context.accountId thread.id data tmpl signal) := by
  unfold autoDraft at h
  cases hparsed : parseAutoDraftValue value with
  | none =>
    rw [hparsed] at h
    obtain ⟨rfl, rfl, rfl⟩ := Prog.returns_ret.mp h
    simp [Except.toBool]
  | some parsed =>
    rw [hparsed] at h
    obtain ⟨turn, rest, _, rfl, htemplate⟩ := Prog.returns_call.mp h
    have hanswer : ((service env).settle (.ask (.getTemplate context.accountId parsed.templateId))
        w turn).1 = env.answer w.tick (.getTemplate context.accountId parsed.templateId) := rfl
    obtain hread | ⟨error, hread⟩ := hreads w.tick context.accountId parsed.templateId
    · rw [hanswer, hread] at htemplate ⊢
      simp only [Option.bind_some]
      cases htmpl : templates context.accountId parsed.templateId with
      | none =>
        rw [htmpl] at htemplate
        obtain ⟨rfl, rfl, rfl⟩ := Prog.returns_ret.mp htemplate
        simp [Except.toBool, criticalFailure]
      | some tmpl =>
        rw [htmpl] at htemplate
        change Prog.Returns _ _ (resolveFunctions _ _ _ _ _ _ _ >>= _) _ _ _ _ at htemplate
        obtain ⟨functions, rest, resolved, w₁, rfl, hfunctions, hnext⟩ :=
          Prog.returns_bind.mp htemplate
        obtain ⟨target, rest, safe, w₂, rfl, htarget, hnext⟩ := Prog.returns_bind.mp hnext
        obtain ⟨automated, rest, shouldAutoSend, w₃, rfl, hautomated, hsave⟩ :=
          Prog.returns_bind.mp hnext
        have hfunctions := Aside.clean_of_returns (resolveFunctions_only _ _ _ _ _ _ _) hfunctions
        have htarget := Aside.clean_of_returns (replyTargetGate_only _ _ _ _ _) htarget
        have hautomated := Aside.clean_of_returns (automatedGate_only _ _ _ _) hautomated
        obtain ⟨hclean, hdraft⟩ := saveDraft_returns hsave
        refine ⟨by simp [criticalFailure, hfunctions, htarget, hautomated, hclean], ?_⟩
        rintro hok _ _ ⟨⟩
        obtain ⟨draft, hmem, hdraft⟩ := hdraft hok
        obtain ⟨event, hevent, hsaved⟩ := List.mem_filterMap.mp hmem
        exact ⟨draft, List.mem_filterMap.mpr ⟨event, by simp [hevent], hsaved⟩, hdraft⟩
    · rw [hanswer, hread] at htemplate ⊢
      obtain ⟨rfl, rfl, rfl⟩ := Prog.returns_ret.mp htemplate
      simp [Except.toBool, criticalFailure, lostRead]

/-! ## Effects in sequence -/

/-- The effects of a list make their calls one after the other, and none of them is a failure when
none of the calls is. -/
theorem countFailures_returns {α ε : Type} {effect : α → OutboundProg (Except ε Unit)}
    {P : Cmd → Prop} (Inv : World → Prop) (honly : ∀ item, (effect item).Only P)
    (hkeep : ∀ c w turn, P c → Inv w → Inv (settle env c w turn).2)
    (heffect : ∀ item w calls r w', (effect item).Returns (service env) Transient w calls r w' →
      (r.toBool = true ↔ Clean calls)) {items : List α} (hw : Inv w)
    (h : (countFailures effect items).Returns (service env) Transient w calls n w') :
    (n = 0 ↔ Clean calls) ∧ ∃ parts, calls = parts.flatten ∧ List.Forall₂ (fun item part =>
      part ⊆ calls ∧ ∃ w r w', Inv w ∧
        (effect item).Returns (service env) Transient w part r w') items parts := by
  induction items generalizing w calls n with
  | nil =>
    obtain ⟨rfl, rfl, rfl⟩ := Prog.returns_ret.mp h
    exact ⟨by simp, [], rfl, .nil⟩
  | cons item items ih =>
    obtain ⟨first, rest, r, w₁, rfl, hitem, hnext⟩ := Prog.returns_bind.mp h
    obtain ⟨middle, last, m, w₂, rfl, hitems, hret⟩ := Prog.returns_bind.mp hnext
    obtain ⟨rfl, rfl, rfl⟩ := Prog.returns_ret.mp hret
    have hw₁ : Inv w₁ := hitem.keeps (fun c w turn => hkeep c w turn) (honly item) hw
    obtain ⟨hcount, parts, rfl, hparts⟩ := ih hw₁ hitems
    have hfirst := heffect item _ _ _ _ hitem
    rw [List.append_nil]
    refine ⟨?_, first :: parts, by simp, .cons ⟨by simp, w, r, w₁, hw, hitem⟩ (hparts.imp ?_)⟩
    · rw [clean_append, ← hfirst, ← hcount]
      cases r.toBool <;> simp
    · intro item part hpart
      exact ⟨List.Subset.trans hpart.1 (List.subset_append_right _ _), hpart.2⟩

/-! ## Pongs -/

theorem pong_returns (h : (pong env accountId data).Returns (service env) Transient w calls n w') :
    n = 0 ↔ Clean calls := by
  obtain ⟨first, rest, eligible, w₁, rfl, heligible, hnext⟩ := Prog.returns_bind.mp h
  have hfirst := Aside.clean_of_returns (shouldPong_only env data accountId) heligible
  rw [clean_append]
  match eligible with
  | .error _ =>
    obtain ⟨rfl, rfl, rfl⟩ := Prog.returns_ret.mp hnext
    simp [hfirst]
  | .ok false =>
    obtain ⟨rfl, rfl, rfl⟩ := Prog.returns_ret.mp hnext
    simp [hfirst]
  | .ok true =>
    obtain ⟨sent, rest, w₂, rfl, hsent⟩ := hnext.answered
    change Except ReplySendError SendReceipt at sent
    match sent with
    | .ok _ =>
      change Prog.Returns _ _ (markTestEmailReceived _ >>= _) _ _ _ _ at hsent
      obtain ⟨mark, rest, _, w₃, rfl, hmark, hret⟩ := Prog.returns_bind.mp hsent
      obtain ⟨rfl, rfl, rfl⟩ := Prog.returns_ret.mp hret
      have hmark := Aside.clean_of_returns (markTestEmailReceived_only accountId) hmark
      simp [hfirst, hmark, criticalFailure]
    | .error error =>
      cases error with
      | loopGuardTripped hopCount =>
        obtain ⟨rfl, rfl, rfl⟩ := Prog.returns_ret.mp hsent
        simp [hfirst, criticalFailure]
      | _ =>
        obtain ⟨rfl, rfl, rfl⟩ := Prog.returns_ret.mp hsent
        simp [criticalFailure]

/-! ## Invites -/

/-- A send that is not refused for good, and leaves the tables as they are. -/
theorem send_returns {β : Type} {opts : SendOptions} {b : β}
    {f : Except ReplySendError SendReceipt → OutboundProg β}
    (h : (Prog.perform (Cmd.send accountId opts) >>= f).Returns (service env) Transient
      w calls b w') :
    ∃ sent rest w₁, calls = ⟨.send accountId opts, sent⟩ :: rest ∧
      (f sent).Returns (service env) Transient w₁ rest b w' ∧
      (∀ errorName, sent ≠ .error (.permanentSes errorName)) ∧
      w₁.targets = w.targets ∧ w₁.table = w.table := by
  obtain ⟨turn, rest, hturn, rfl, hnext⟩ := Prog.returns_call.mp h
  refine ⟨_, rest, _, rfl, hnext, ?_⟩
  show (∀ errorName, (settle env (.send accountId opts) w turn).1 ≠ _) ∧
    (settle env (.send accountId opts) w turn).2.targets = _ ∧
    (settle env (.send accountId opts) w turn).2.table = _
  cases hsend : env.mailService.send opts with
  | error error => simp [settle, hsend]
  | ok command =>
    refine ⟨fun errorName herror => ?_, ?_⟩
    · simp only [settle, hsend] at herror
      cases turn with
      | mail handed answer => exact hturn handed errorName (congrArg _ herror)
      | _ => simp [mailAnswer] at herror
    · by_cases hhands : turn.hands <;> simp [settle, hsend, hhands]

theorem find_inviteOf (emailSignalId : String) (signals : List Signal) :
    (signals.find? fun signal => (inviteOf emailSignalId signal).isSome).bind
      (inviteOf emailSignalId) = signals.findSome? (inviteOf emailSignalId) := by
  induction signals with
  | nil => rfl
  | cons signal signals ih =>
    rw [List.findSome?_cons, List.find?_cons]
    cases hinvite : inviteOf emailSignalId signal with
    | none => simpa using ih
    | some event => simp [hinvite]

theorem linked_eq (emailSignalId : String) : (fun signal : Signal => match signal.data with
    | .calendarEvent data => decide (data.linkedSignalId = emailSignalId)
    | _ => false) = fun signal => (inviteOf emailSignalId signal).isSome := by
  funext signal
  unfold inviteOf
  cases signal.data with
  | calendarEvent event => by_cases hlink : event.linkedSignalId = emailSignalId <;> simp [hlink]
  | _ => rfl

/-- A read of the signals table is answered from it, or fails. -/
theorem settle_read (env : Env) {c : SignalsTable.Cmd}
    (hread : (SignalsTable.exec c w.table).2 = w.table) (turn : Turn) :
    (service env).settle (.db c) w turn = (SignalsTable.failure c, w) ∨
      (service env).settle (.db c) w turn = ((SignalsTable.exec c w.table).1, w) := by
  show ((settleRequest _ _ c w.table turn.fate).1,
      { w with table := (settleRequest _ _ c w.table turn.fate).2 }) = _ ∨
    ((settleRequest _ _ c w.table turn.fate).1,
      { w with table := (settleRequest _ _ c w.table turn.fate).2 }) = _
  cases turn.fate with
  | done => exact .inr (Prod.ext rfl (by simp [settleRequest, hread]))
  | refused => exact .inl rfl
  | lost => exact .inl (Prod.ext rfl (by simp [settleRequest, hread]))

/-- The lookup fails, or finds the invite of the email, if there is one. -/
theorem getLinkedCalendarSignal_returns {accountId threadId emailSignalId : String}
    {found : Except DbError (Option Signal)}
    (h : (db (ThreadDatabase.getLinkedCalendarSignal accountId threadId emailSignalId)).Returns
      (service env) Transient w calls found w') :
    w' = w ∧ ∃ answer, calls = [⟨.db (.querySignals accountId (.thread threadId)), answer⟩] ∧
      ((∃ error, answer = Except.error error ∧ found = .error error) ∨
        ∃ signals signal, answer = Except.ok signals ∧ found = .ok signal ∧
          signal.bind (inviteOf emailSignalId) =
            linkedInvite w accountId threadId emailSignalId) := by
  obtain ⟨turn, rest, _, rfl, hret⟩ := Prog.returns_call.mp h
  obtain ⟨rfl, rfl, rfl⟩ := Prog.returns_ret.mp hret
  have hfound : ((((w.table.signalsIn accountId (.thread threadId)).find? fun signal : Signal =>
      match signal.data with
      | .calendarEvent data => decide (data.linkedSignalId = emailSignalId)
      | _ => false).map ThreadDatabase.hydrateSignal).bind (inviteOf emailSignalId)) =
      linkedInvite w accountId threadId emailSignalId := by
    rw [linked_eq, Option.bind_map]
    exact find_inviteOf emailSignalId _
  obtain hsettle | hsettle := settle_read env
    (c := .querySignals accountId (.thread threadId)) rfl turn
  · rw [hsettle]
    exact ⟨rfl, _, rfl, .inl ⟨_, rfl, rfl⟩⟩
  · rw [hsettle]
    exact ⟨rfl, _, rfl, .inr ⟨_, _, rfl, rfl, hfound⟩⟩

/-- The rest of `forwardCalendarInvite`, once the calendar signal has been looked up. -/
def sendInvite (env : Env) (accountId address : String) (data : InboundEmailSignalData)
    (found : Except DbError (Option Signal)) : OutboundProg Nat :=
  match found with
  | .ok (some ⟨_, _, _, _, _, _, _, _, _, .calendarEvent event⟩) =>
    match forwardInvite env.mailService event address accountId data.recipientAddress with
    | none => return 0
    | some opts => do
      let sendResult : Except ReplySendError SendReceipt ← Prog.perform (Cmd.send accountId opts)
      match sendResult with
      | .error (.permanentSes _) => return 0
      | .error _ => return 1
      | .ok _ => return 0
  | _ => return 0

theorem sendInvite_returns (emailSignalId : String) {accountId address : String}
    {found : Option Signal}
    (h : (sendInvite env accountId address data (.ok found)).Returns (service env) Transient
      w calls n w') :
    (n = 0 ↔ Clean calls) ∧ (w'.targets = w.targets ∧ w'.table = w.table) ∧
      (n = 0 → address ≠ "" → ∀ event, found.bind (inviteOf emailSignalId) = some event →
        ∃ opts receipt, forwardInvite env.mailService event address accountId
          data.recipientAddress = some opts ∧ ⟨.send accountId opts, .ok receipt⟩ ∈ calls) := by
  cases found with
  | none =>
    obtain ⟨rfl, rfl, rfl⟩ := Prog.returns_ret.mp h
    simp
  | some signal =>
    obtain ⟨_, _, _, _, _, _, _, _, _, signalData⟩ := signal
    cases signalData with
    | calendarEvent event =>
      unfold sendInvite at h
      cases hopts : forwardInvite env.mailService event address accountId
          data.recipientAddress with
      | none =>
        simp only [hopts] at h
        obtain ⟨rfl, rfl, rfl⟩ := Prog.returns_ret.mp h
        refine ⟨by simp, ⟨rfl, rfl⟩, fun _ haddress => ?_⟩
        simp [forwardInvite, haddress] at hopts
      | some opts =>
        simp only [hopts] at h
        obtain ⟨sent, rest, w₁, rfl, hsent, hanswer, htables⟩ := send_returns h
        match sent with
        | .ok receipt =>
          obtain ⟨rfl, rfl, rfl⟩ := Prog.returns_ret.mp hsent
          refine ⟨by simp [criticalFailure], htables, fun _ _ event' hevent => ?_⟩
          obtain ⟨_, rfl⟩ : event.linkedSignalId = emailSignalId ∧ event = event' := by
            simpa [inviteOf] using hevent
          exact ⟨opts, receipt, hopts, List.mem_cons_self⟩
        | .error error =>
          cases error with
          | permanentSes errorName => exact absurd rfl (hanswer errorName)
          | _ =>
            obtain ⟨rfl, rfl, rfl⟩ := Prog.returns_ret.mp hsent
            exact ⟨by simp [criticalFailure], htables, by simp⟩
    | _ =>
      obtain ⟨rfl, rfl, rfl⟩ := Prog.returns_ret.mp h
      simp [inviteOf]

/-- The invite goes to the default target, where the account and the invite are read. -/
theorem forwardCalendarInvite_returns
    (h : (forwardCalendarInvite env accountId signal thread data).Returns (service env) Transient
      w calls n w') :
    (n = 0 ↔ Clean calls) ∧ (n = 0 → ¬ ReadLost calls → ∀ account target event,
      w'.targets.account accountId = some account →
      account.defaultCalendarInviteForwardingTargetId = some target → target ≠ "" →
      linkedInvite w' accountId thread.id signal.id = some event →
      ∃ opts receipt, forwardInvite env.mailService event target accountId
          data.recipientAddress = some opts ∧ ⟨.send accountId opts, .ok receipt⟩ ∈ calls) := by
  obtain ⟨first, rest, accountResult, w₁, rfl, hread, hnext⟩ := Prog.returns_bind.mp h
  obtain ⟨rfl, rfl, haccount⟩ := targets_returns (fun _ => rfl) hread
  obtain ⟨second, rest, found, w₂, rfl, hlookup, hsend⟩ := Prog.returns_bind.mp hnext
  obtain ⟨rfl, answer, rfl, ⟨error, rfl, rfl⟩ | ⟨signals, found, rfl, rfl, hfound⟩⟩ :=
    getLinkedCalendarSignal_returns hlookup
  · obtain ⟨rfl, rfl, rfl⟩ := Prog.returns_ret.mp hsend
    refine ⟨by simp [criticalFailure], fun _ hlost => absurd (.inl ?_) hlost⟩
    exact ⟨_, List.mem_append_right _ List.mem_cons_self, rfl⟩
  · -- What the account read came to settles the address, and nothing else.
    have htail (address : String)
        (hsend : (sendInvite env accountId address data (.ok found)).Returns (service env) Transient
          w₂ rest n w') := sendInvite_returns signal.id hsend
    obtain rfl | rfl := haccount
    · obtain ⟨hclean, -, -⟩ := htail "" hsend
      refine ⟨by simp [criticalFailure, hclean], fun _ hlost => absurd (.inr ?_) hlost⟩
      exact ⟨_, _, _, _, _, [], rest, rfl⟩
    · obtain ⟨hclean, ⟨htargets, htable⟩, hsent⟩ := htail
        (((w₂.targets.account accountId).bind
          AccountMeta.defaultCalendarInviteForwardingTargetId).getD "") hsend
      refine ⟨by simp [criticalFailure, Forwarding.Targets.exec, hclean], ?_⟩
      intro hn _ account target event haccount htarget hne hinvite
      rw [htargets] at haccount
      have haddress : ((w₂.targets.account accountId).bind
          AccountMeta.defaultCalendarInviteForwardingTargetId).getD "" = target := by
        simp [haccount, htarget]
      rw [haddress] at hsent
      have hlinked : linkedInvite w₂ accountId thread.id signal.id = some event := by
        rw [← hinvite, linkedInvite, linkedInvite, htable]
      obtain ⟨opts, receipt, hopts, hmem⟩ := hsent hn hne event (hfound.trans hlinked)
      exact ⟨opts, receipt, hopts, by simp [hmem]⟩

/-! ## The worker -/

/-- A call that writes no target and no thread. -/
def Still : Cmd → Prop
  | .db (.putSignal _) => True
  | .db (.querySignals ..) => True
  | .db (.getThread ..) => True
  | .db _ => False
  | .targets (.getForwardingTarget ..) => True
  | .targets (.getAccount _) => True
  | .targets (.updateAccount ..) => True
  | .targets _ => False
  | _ => True

theorem Forwards.still {c : Cmd} (h : Forwards c) : Still c := by
  cases c with
  | db c => cases c <;> trivial
  | targets c => cases c <;> trivial
  | _ => trivial

theorem Replies.still {c : Cmd} (h : Replies data c) :
    Still c := by
  cases c with
  | db c => cases c <;> trivial
  | targets c => cases c <;> trivial
  | _ => trivial

theorem Aside.still {c : Cmd} (h : Aside c) : Still c := by
  cases c with
  | db c => cases c <;> trivial
  | targets c => cases c <;> trivial
  | _ => trivial

def SameRows (w w' : World) : Prop :=
  w'.targets.targets = w.targets.targets ∧ w'.table.threads = w.table.threads

theorem SameRows.settle {c : Cmd} (hc : Still c) {w₁ : World} (turn : Turn) (h : SameRows w w₁) :
    SameRows w (settle env c w₁ turn).2 := by
  suffices hsame : SameRows w₁ (OutboundService.settle env c w₁ turn).2 from
    ⟨hsame.1.trans h.1, hsame.2.trans h.2⟩
  cases c with
  | db c =>
    refine ⟨rfl, ?_⟩
    show (settleRequest _ _ c w₁.table turn.fate).2.threads = w₁.table.threads
    obtain hstore | hstore :=
      settleRequest_store SignalsTable.exec SignalsTable.failure c w₁.table turn.fate
    · rw [hstore]
    · rw [hstore]
      cases c <;> first | rfl | exact hc.elim
  | targets c =>
    refine ⟨?_, rfl⟩
    show (settleRequest _ _ c w₁.targets turn.fate).2.targets = w₁.targets.targets
    obtain hstore | hstore :=
      settleRequest_store Forwarding.Targets.exec Forwarding.Targets.failure c w₁.targets turn.fate
    · rw [hstore]
    · rw [hstore]
      cases c <;> first | rfl | exact hc.elim
  | send accountId opts =>
    cases hsend : env.mailService.send opts with
    | error error => simp [OutboundService.settle, hsend, SameRows]
    | ok command =>
      by_cases hhands : turn.hands <;> simp [OutboundService.settle, hsend, hhands, SameRows]
  | sendReply mail =>
    by_cases hguard : mail.opts.hopCount.getD 0 + 1 > maxHopCount
    · simp [OutboundService.settle, hguard, SameRows]
    · by_cases hhands : turn.hands <;> simp [OutboundService.settle, hguard, hhands, SameRows]
  | dispatchDraft payload delaySeconds =>
    by_cases hfate : turn.fate = .refused <;> simp [OutboundService.settle, hfate, SameRows]
  | _ => exact ⟨rfl, rfl⟩

theorem SameRows.keeps {α : Type} {p : OutboundProg α} {P : Cmd → Prop} {a : α}
    (hP : ∀ c, P c → Still c) (hp : p.Only P)
    (h : p.Returns (service env) Transient w calls a w') : SameRows w w' :=
  h.keeps (fun c _ turn hc hw => hw.settle (hP c hc) turn) hp ⟨rfl, rfl⟩

theorem SameRows.trans {w₁ w₂ : World} (h : SameRows w w₁) (h' : SameRows w₁ w₂) :
    SameRows w w₂ := ⟨h'.1.trans h.1, h'.2.trans h.2⟩

theorem drafts_of_parts {Is : EmailTemplate → Signal → Prop}
    {template : String → Option EmailTemplate} {values : List String} {parts : List (List Event)}
    (h : List.Forall₂ (fun value part => ∀ tmpl, template value = some tmpl →
      ∃ signal ∈ part.filterMap savedSignal, Is tmpl signal) values parts) :
    ∃ drafts, drafts.Sublist (parts.flatten.filterMap savedSignal) ∧
      List.Forall₂ Is (values.filterMap template) drafts := by
  induction h with
  | nil => exact ⟨[], List.nil_sublist _, .nil⟩
  | @cons value part values parts hpart _ ih =>
    obtain ⟨drafts, hsub, hdrafts⟩ := ih
    rw [List.flatten_cons, List.filterMap_append]
    cases htmpl : template value with
    | none =>
      rw [List.filterMap_cons_none htmpl]
      exact ⟨drafts, hsub.trans (List.sublist_append_right _ _), hdrafts⟩
    | some tmpl =>
      rw [List.filterMap_cons_some htmpl]
      obtain ⟨signal, hmem, his⟩ := hpart tmpl htmpl
      exact ⟨signal :: drafts, (List.singleton_sublist.mpr hmem).append hsub, .cons his hdrafts⟩

theorem autoDrafts_returns (hreads : ReadsTemplates env templates)
    (h : (autoDrafts env accountId signal thread data).Returns (service env) Transient
      w calls n w') :
    (n = 0 ↔ Clean calls) ∧ (n = 0 → (∀ e ∈ calls, lostRead e = false) →
      ∃ drafts, drafts.Sublist (calls.filterMap savedSignal) ∧
        List.Forall₂ (IsDraftOf accountId thread.id data)
          (calledTemplates templates accountId data) drafts) := by
  unfold autoDrafts at h
  split at h
  · next hnone =>
    obtain ⟨rfl, rfl, rfl⟩ := Prog.returns_ret.mp h
    exact ⟨by simp, fun _ _ => ⟨[], List.nil_sublist _, by simp [calledTemplates, hnone]⟩⟩
  · obtain ⟨now, rest, w₁, rfl, hdomain⟩ := h.answered
    obtain ⟨domain, rest, w₂, rfl, hdrafts⟩ := hdomain.answered
    obtain ⟨hcount, parts, rfl, hparts⟩ := countFailures_returns (fun _ => True)
      (fun value => autoDraft_only env signal thread data _ value) (fun _ _ _ _ _ => trivial)
      (fun value w calls r w' hdraft => (autoDraft_returns hreads hdraft).1) trivial hdrafts
    refine ⟨by simp [criticalFailure, hcount], fun hn hread => ?_⟩
    have hdraft : List.Forall₂ (fun value part => ∀ tmpl,
        ((parseAutoDraftValue value).bind fun parsed => templates accountId parsed.templateId) =
          some tmpl →
        ∃ signal ∈ part.filterMap savedSignal, IsDraftOf accountId thread.id data tmpl signal)
        (autoDraftValues data) parts := by
      refine hparts.imp fun value part ⟨hsub, w, r, w', _, hdraft⟩ => ?_
      obtain ⟨hclean, hmade⟩ := autoDraft_returns hreads hdraft
      refine hmade (hclean.mpr fun e he => hcount.mp hn e (hsub he)) fun e he => ?_
      exact hread e (List.mem_cons_of_mem _ (List.mem_cons_of_mem _ (hsub he)))
    obtain ⟨drafts, hsub, hdrafts⟩ := drafts_of_parts hdraft
    refine ⟨drafts, hsub.trans ?_, hdrafts⟩
    exact (List.sublist_append_right [_, _] _).filterMap savedSignal

theorem dispatch_returns
    (h : (Prog.perform (Cmd.dispatchWorkflow signal thread)).Returns (service env) Transient
      w calls r w') : r.toBool = true ↔ Clean calls := by
  obtain ⟨dispatched, rest, w₁, rfl, hret⟩ := h.answered
  obtain ⟨rfl, rfl, rfl⟩ := Prog.returns_ret.mp hret
  cases r <;> simp [Except.toBool, criticalFailure]

theorem CopySent.mono {target : StoredTarget}
    (h : CopySent target signal thread part) (hsub : part ⊆ calls) :
    CopySent target signal thread calls := by
  unfold CopySent at h ⊢
  split
  · next htype =>
    simp only [htype] at h
    obtain ⟨receipt, hmem⟩ := h
    exact ⟨receipt, hsub hmem⟩
  · next htype =>
    simp only [htype] at h
    exact hsub h

theorem CarriedOut.mono {mailService : EmailService}
    (h : CarriedOut mailService templates signal data thread w part) (hsub : part.Sublist calls) :
    CarriedOut mailService templates signal data thread w calls where
  copies id hid target hget hverified := (h.copies id hid target hget hverified).mono hsub.subset
  drafts := by
    obtain ⟨drafts, hdrafts, hmade⟩ := h.drafts
    exact ⟨drafts, hdrafts.trans (hsub.filterMap savedSignal), hmade⟩
  invite hasInvite account target event haccount htarget hne hlinked := by
    obtain ⟨opts, receipt, hopts, hmem⟩ :=
      h.invite hasInvite account target event haccount htarget hne hlinked
    exact ⟨opts, receipt, hopts, hsub.subset hmem⟩

theorem copies_returns {ids : List String}
    (h : (countFailures (fun id => forward id signal data thread) ids).Returns (service env)
      Transient w calls n w') :
    (n = 0 ↔ Clean calls) ∧ SameRows w w' ∧ (n = 0 → ∀ id ∈ ids, ∀ target,
      w.targets.targets.get (thread.accountId, id) = some target → target.status = .verified →
      CopySent target signal thread calls) := by
  have honly (id : String) := forward_only signal thread data id
  obtain ⟨hcount, parts, hcalls, hparts⟩ := countFailures_returns (SameRows w) honly
    (fun c _ turn hc hw => hw.settle (Forwards.still hc) turn)
    (fun id w calls r w' hforward => (forward_returns hforward).1) ⟨rfl, rfl⟩ h
  refine ⟨hcount, SameRows.keeps (fun _ => Forwards.still) (countFailures_only honly _) h, ?_⟩
  intro hn
  refine ((List.forall₂_and_left (R := fun _ _ => True) _ parts).mp (hparts.imp ?_)).1
  intro id part ⟨hsub, w₁, r, w₂, hrows, hforward⟩
  refine ⟨fun target hget hverified => ?_, trivial⟩
  obtain ⟨hclean, hsent⟩ := forward_returns hforward
  rw [← hrows.1] at hget
  exact (hsent (hclean.mpr fun e he => hcount.mp hn e (hsub he)) target hget hverified).mono hsub

theorem invites_returns
    (h : (invites env accountId signal thread data).Returns (service env) Transient w calls n w') :
    (n = 0 ↔ Clean calls) ∧ (n = 0 → ¬ ReadLost calls →
      hasForwardCalendarInvite data.matchedRules → ∀ account target event,
      w'.targets.account accountId = some account →
      account.defaultCalendarInviteForwardingTargetId = some target → target ≠ "" →
      linkedInvite w' accountId thread.id signal.id = some event →
      ∃ opts receipt, forwardInvite env.mailService event target accountId
          data.recipientAddress = some opts ∧ ⟨.send accountId opts, .ok receipt⟩ ∈ calls) := by
  unfold invites at h
  split at h
  · obtain ⟨hclean, hsent⟩ := forwardCalendarInvite_returns h
    exact ⟨hclean, fun hn hlost _ => hsent hn hlost⟩
  · next hnone =>
    obtain ⟨rfl, rfl, rfl⟩ := Prog.returns_ret.mp h
    exact ⟨by simp, fun _ _ hinvite => absurd hinvite hnone⟩

/-- Every effect of an email whose delivery counts no failure and loses no read is carried out. -/
theorem runEffects_returns (hreads : ReadsTemplates env templates)
    (h : (runEffects env payload data thread).Returns (service env) Transient w calls n w') :
    (n = 0 ↔ Clean calls) ∧ SameRows w w' ∧ (n = 0 → ¬ ReadLost calls →
      CarriedOut env.mailService templates payload.signal data thread w' calls) := by
  obtain ⟨forwardCalls, rest, forwards, w₁, rfl, hforwards, hnext₁⟩ := Prog.returns_bind.mp h
  obtain ⟨notifyCalls, rest, _, w₂, rfl, hnotify, hnext₂⟩ := Prog.returns_bind.mp hnext₁
  obtain ⟨dispatchCalls, rest, dispatched, w₃, rfl, hdispatch, hnext₃⟩ :=
    Prog.returns_bind.mp hnext₂
  obtain ⟨pongCalls, rest, pongs, w₄, rfl, hpong, hnext₄⟩ := Prog.returns_bind.mp hnext₃
  obtain ⟨draftCalls, rest, drafts, w₅, rfl, hdrafts, hnext₅⟩ := Prog.returns_bind.mp hnext₄
  obtain ⟨inviteCalls, rest, invited, w₆, rfl, hinvites, hret⟩ := Prog.returns_bind.mp hnext₅
  obtain ⟨rfl, rfl, rfl⟩ := Prog.returns_ret.mp hret
  -- No stage changes the rows of targets and threads.
  obtain ⟨hforwarded, hrows₁, hcopies⟩ := copies_returns hforwards
  have hrows₂ := SameRows.keeps (fun _ => Aside.still) (notify_only thread payload _) hnotify
  have hdispatchOnly : (Prog.perform (Cmd.dispatchWorkflow payload.signal thread) :
      OutboundProg (Except DbError Unit)).Only Still := ⟨trivial, fun _ => trivial⟩
  have hrows₃ := SameRows.keeps (fun _ h => h) hdispatchOnly hdispatch
  have hrows₄ := SameRows.keeps (fun _ => Replies.still) (pong_only env data _) hpong
  have hrows₅ := SameRows.keeps (fun _ => Replies.still)
    (autoDrafts_only env payload.signal thread data _) hdrafts
  have hrows₆ := SameRows.keeps (fun _ => Forwards.still)
    (invites_only env payload.signal thread data _) hinvites
  have hrows := hrows₁.trans (hrows₂.trans (hrows₃.trans (hrows₄.trans (hrows₅.trans hrows₆))))
  have hnotified := Aside.clean_of_returns (notify_only thread payload _) hnotify
  have hdispatched := dispatch_returns hdispatch
  have hponged := pong_returns hpong
  obtain ⟨hdrafted, hdrafts⟩ := autoDrafts_returns hreads hdrafts
  obtain ⟨hinvited, hinvites⟩ := invites_returns hinvites
  have hcount : forwards + (if dispatched.toBool then 0 else 1) + pongs + drafts + invited = 0 ↔
      forwards = 0 ∧ dispatched.toBool = true ∧ pongs = 0 ∧ drafts = 0 ∧ invited = 0 := by
    cases dispatched.toBool with
    | true =>
      simp
      omega
    | false => simp
  refine ⟨?_, hrows, fun hn hlost => ?_⟩
  · rw [hcount, hforwarded, hdispatched, hponged, hdrafted, hinvited]
    simp [hnotified]
  · obtain ⟨hforwards₀, -, -, hdrafts₀, hinvites₀⟩ := hcount.mp hn
    refine ⟨fun id hid target hget hverified => ?_, ?_, fun hasInvite account target event => ?_⟩
    · rw [hrows.1] at hget
      exact (hcopies hforwards₀ id hid target hget hverified).mono (List.subset_append_left _ _)
    · have hread : ∀ e ∈ draftCalls, lostRead e = false := by
        intro e he
        by_contra hfailed
        exact hlost (.inl ⟨e, by simp [he], by simpa using hfailed⟩)
      obtain ⟨drafts, hsub, hdrafts⟩ := hdrafts hdrafts₀ hread
      refine ⟨drafts, hsub.trans (List.Sublist.filterMap savedSignal ?_), hdrafts⟩
      refine List.IsInfix.sublist ⟨forwardCalls ++ notifyCalls ++ dispatchCalls ++ pongCalls,
        inviteCalls, by simp⟩
    · have hinviteLost : ¬ ReadLost inviteCalls := by
        intro h
        exact hlost (h.mono ⟨forwardCalls ++ notifyCalls ++ dispatchCalls ++ pongCalls ++
          draftCalls, [], by simp⟩)
      intro haccount htarget hne hlinked
      obtain ⟨opts, receipt, hopts, hmem⟩ :=
        hinvites hinvites₀ hinviteLost hasInvite account target event haccount htarget hne hlinked
      exact ⟨opts, receipt, hopts, by simp [hmem]⟩

theorem currentThread_returns {receiveCount : Nat} {r : Except DbError Thread}
    (h : (currentThread payload.signal.accountId payload.thread receiveCount).Returns
      (service env) Transient w calls r w') :
    w' = w ∧ ((∃ error, r = .error error ∧ ¬ Clean calls) ∨
      r = .ok (threadOf payload receiveCount w) ∧ Clean calls) := by
  unfold currentThread at h
  split at h
  · next hcount =>
    obtain ⟨turn, rest, _, rfl, hret⟩ := Prog.returns_call.mp h
    obtain ⟨rfl, rfl, rfl⟩ := Prog.returns_ret.mp hret
    obtain hsettle | hsettle := settle_read env
      (c := .getThread payload.signal.accountId payload.thread.id) rfl turn
    · rw [hsettle]
      exact ⟨rfl, .inl ⟨_, rfl, by simp [criticalFailure, SignalsTable.failure]⟩⟩
    · rw [hsettle]
      refine ⟨rfl, .inr ⟨?_, by simp [criticalFailure, SignalsTable.exec]⟩⟩
      simp only [threadOf, if_pos hcount]
      rfl
  · next hcount =>
    obtain ⟨rfl, rfl, rfl⟩ := Prog.returns_ret.mp h
    exact ⟨rfl, .inr ⟨by simp [threadOf, hcount], clean_nil⟩⟩

/-- A delivery returns ok just when none of its critical calls fails. -/
theorem processSideEffect_returns (hreads : ReadsTemplates env templates) {receiveCount : Nat}
    {r : Except ProcessorError Unit}
    (h : (processSideEffect env payload receiveCount).Returns (service env) Transient
      w calls r w') :
    (r = .ok () ↔ Clean calls) ∧ (r = .ok () → ¬ ReadLost calls → ∀ data,
      payload.signal.data = .inboundEmail data →
      CarriedOut env.mailService templates payload.signal data (threadOf payload receiveCount w')
        w' calls) := by
  unfold processSideEffect at h
  split at h
  · next data hdata =>
    obtain ⟨threadCalls, rest, threadResult, w₁, rfl, hthread, hnext⟩ := Prog.returns_bind.mp h
    obtain ⟨rfl, ⟨error, rfl, hdirty⟩ | ⟨rfl, hclean⟩⟩ := currentThread_returns hthread
    · obtain ⟨rfl, rfl, rfl⟩ := Prog.returns_ret.mp hnext
      simp [hdirty]
    · change Prog.Returns _ _ (runEffects _ _ _ _ >>= _) _ _ _ _ at hnext
      obtain ⟨effectCalls, rest, failures, w₂, rfl, heffects, hret⟩ := Prog.returns_bind.mp hnext
      obtain ⟨hcount, hrows, hcarried⟩ := runEffects_returns hreads heffects
      have hsame : threadOf payload receiveCount w₂ = threadOf payload receiveCount w₁ := by
        simp only [threadOf, hrows.2]
      change Prog.Returns _ _ (ite _ _ _) _ _ _ _ at hret
      by_cases hfailures : failures = 0
      · rw [if_pos hfailures] at hret
        obtain ⟨rfl, rfl, rfl⟩ := Prog.returns_ret.mp hret
        rw [List.append_nil]
        refine ⟨by simp [hclean, hcount.mp hfailures], fun _ hlost data' hdata' => ?_⟩
        obtain rfl := SignalData.inboundEmail.inj (hdata.symm.trans hdata')
        have hsuffix : effectCalls <:+ threadCalls ++ effectCalls := ⟨threadCalls, rfl⟩
        rw [hsame]
        exact (hcarried hfailures fun h => hlost (h.mono hsuffix.isInfix)).mono hsuffix.sublist
      · rw [if_neg hfailures] at hret
        obtain ⟨rfl, rfl, rfl⟩ := Prog.returns_ret.mp hret
        simp [hclean, ← hcount, hfailures]
  · next hnone =>
    obtain ⟨rfl, rfl, rfl⟩ := Prog.returns_ret.mp h
    exact ⟨by simp, fun _ _ data hdata => absurd hdata (hnone data)⟩

end

/-! ## Runs of deliveries -/

/-- A delivery that returned ok has failed in no read on the way to an effect, and what its email
calls for has been carried out by it or before it. -/
def Kept (payload : SideEffectPayload) (before : List Event) (d : Delivery) : Prop :=
  d.result payload = some (.ok ()) →
    (∀ data, payload.signal.data = .inboundEmail data →
      CarriedOut d.env.mailService d.templates payload.signal data
        (threadOf payload d.receiveCount (d.after payload)) (d.after payload)
        (before ++ d.calls payload)) ∧
      ¬ ReadFailed (d.calls payload)

/-- The calls of the deliveries so far. -/
def deliver (payload : SideEffectPayload) (before : List Event) (d : Delivery) : List Event :=
  before ++ d.calls payload

/-- A read that the worker takes for nothing to do fails only beside a failure that it counts. -/
def Fits (payload : SideEffectPayload) (_ : List Event) (d : Delivery) : Prop :=
  ReadLost (d.calls payload) → ∃ e ∈ d.calls payload, criticalFailure e

theorem Delivery.returns (d : Delivery) (payload : SideEffectPayload) :
    ∃ r, d.result payload = some r ∧
      (processSideEffect d.env payload d.receiveCount).Returns (service d.env) Transient d.world
        (d.calls payload) r (d.after payload) := by
  have husual : Transient (service d.env).usual := fun _ _ h => by cases h
  obtain ⟨r, calls, hresult, hcalls, hreturns⟩ := Prog.returns_logged husual
    (processSideEffect d.env payload d.receiveCount) d.turns d.transient d.world []
  rw [List.nil_append] at hcalls
  rw [← hcalls] at hreturns
  exact ⟨r, hresult, hreturns⟩

/-- A failed read is lost or counted. -/
theorem ReadFailed.lost (h : ReadFailed calls) (hclean : Clean calls) :
    ReadLost calls := by
  obtain ⟨e, he, hfailed⟩ | hblind := h
  · refine .inl ⟨e, he, ?_⟩
    have hcounted := hclean e he
    unfold failedRead at hfailed
    split at hfailed
    · cases hcounted
    · cases hcounted
    · cases hcounted
    · rfl
    · rfl
    · cases hfailed
  · exact .inr hblind

theorem ReadLost.failed (h : ReadLost calls) : ReadFailed calls := by
  obtain ⟨e, he, hlost⟩ | hblind := h
  · refine .inl ⟨e, he, ?_⟩
    unfold lostRead at hlost
    split at hlost
    · rfl
    · rfl
    · cases hlost
  · exact .inr hblind

theorem kept_iff_fits (payload : SideEffectPayload) (before : List Event) (d : Delivery) :
    Kept payload before d ↔ Fits payload before d := by
  obtain ⟨r, hresult, hreturns⟩ := d.returns payload
  obtain ⟨hok, hcarried⟩ := processSideEffect_returns d.reads hreturns
  unfold Kept Fits
  rw [hresult, Option.some_inj]
  constructor
  · intro hkept hlost
    by_contra hnone
    have hclean : Clean (d.calls payload) := by
      intro e he
      by_contra hfailed
      exact hnone ⟨e, he, Bool.eq_true_of_not_eq_false hfailed⟩
    exact (hkept (hok.mpr hclean)).2 hlost.failed
  · intro hfits hr
    have hkept : ¬ ReadLost (d.calls payload) := by
      intro hlost
      obtain ⟨e, he, hfailed⟩ := hfits hlost
      rw [hok.mp hr e he] at hfailed
      cases hfailed
    refine ⟨fun data hdata => ?_, fun hfailed => hkept (hfailed.lost (hok.mp hr))⟩
    exact (hcarried hr hkept data hdata).mono (List.sublist_append_right _ _)

/-- **Critical side effects are not lost** in deliveries where no read that the worker takes for
nothing to do fails, or another failure brings the message again. -/
theorem effects_kept_iff (payload : SideEffectPayload) (before : List Event)
    (deliveries : List Delivery) :
    EachFits (deliver payload) (Kept payload) before deliveries ↔
      EachFits (deliver payload) (Fits payload) before deliveries :=
  eachFits_congr (kept_iff_fits payload) before deliveries

def lostEnv : Env where
  answer
    | _, .getTemplate .. => .error SignalsTable.requestFailed
    | tick, e => loopEnv.answer tick e
  mailService := loopEnv.mailService
  getDomain := loopEnv.getDomain

/-- A template that could not be read once. -/
def lostDelivery : Delivery where
  env := lostEnv
  templates _ _ := some loopTemplate
  receiveCount := 1
  world := emptyWorld
  turns := []
  transient _ h := absurd h List.not_mem_nil
  reads _ _ _ := .inr ⟨_, rfl⟩

/-- The delivery returns ok, and the draft is never made. -/
theorem lostDraft_not_kept :
    ¬ EachFits (deliver loopPayload) (Kept loopPayload) [] [lostDelivery] := by
  have hresult : lostDelivery.result loopPayload = some (.ok ()) := by
    with_unfolding_all rfl
  have hsaved : (lostDelivery.calls loopPayload).filterMap savedSignal = [] := by
    with_unfolding_all rfl
  intro h
  obtain ⟨drafts, hsub, hdrafts⟩ := ((h.1 hresult).1 loopData rfl).drafts
  rw [List.nil_append, hsaved] at hsub
  obtain rfl := List.sublist_nil.mp hsub
  cases hdrafts

end SesEmailAdapter.Processor.CriticalEffects
