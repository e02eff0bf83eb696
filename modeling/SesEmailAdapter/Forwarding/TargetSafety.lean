import SesEmailAdapter.Calendar.EventStore
import SesEmailAdapter.Forwarding.TargetDefaults
import SesEmailAdapter.Lib.Runs
import SesEmailAdapter.Processor.AutoReplies

/-! # Mail goes to verified targets

A rule's forwarding target is looked up when it is used. The digest only asks whether its target is
verified, and an invite goes to the id itself, so both rest on what the requests leave the defaults
of an account to refer to. -/

namespace SesEmailAdapter.Forwarding.TargetSafety
open Lib
open SesEmailAdapter.Types Database Database.Shared
open Email.SendPaths Email.Service
open Forwarding.TargetDefaults
open Forwarding.Targets (AccountMeta CreateForwardingTargetRequest OwnerEmail
  StoredTarget TargetProg UpdateAccountRequest pathAddress request)
open Notifier.ReplySender (ReplySendError)
open Processor.AutoReplies
open Processor.DraftSendWorker (SendReceipt Turn)
open Processor.IngestService (SideEffectPayload)
open Processor.OutboundService Processor.RuleOutcome
open Processor.SideEffects

/-! ## The digest worker -/

/-- The mail of the digest; one that is refused for good is not tried again. -/
def sendDigest (env : Env) (accountId toAddress : String) :
    OutboundProg (Except ReplySendError Unit) := do
  let domainsResult : Except DbError (List Domain) ← ask (.listDomains accountId)
  let sendResult : Except ReplySendError SendReceipt ← Prog.perform
    (Cmd.send accountId (digest env.mailService domainsResult toAddress accountId))
  match sendResult with
  | .error (.permanentSes _) => return .ok ()
  | .error error => return .error error
  | .ok _ => return .ok ()

/-- The digest of an account that has something to report, if it is due and its target verified. -/
def processDigest (env : Env) (accountId : String) : OutboundProg (Except ReplySendError Unit) := do
  let accountResult : Except DbError (Option AccountMeta) ←
    targets (request (.getAccount accountId))
  match accountResult with
  | .error error => return .error (.db error)
  | .ok account => match account.bind AccountMeta.digest with
    | none => return .ok ()
    | some config => do
      let due : Bool ← ask (.shouldDispatchDigest config.frequency)
      if ¬ due then return .ok ()
      else do
        let targetResult : Except DbError (Option StoredTarget) ←
          targets (request (.getForwardingTarget accountId config.forwardingTargetId))
        match targetResult with
        | .error error => return .error (.db error)
        | .ok target => match target.filter (·.status = .verified) with
          | none => return .ok ()
          | some target => do
            let threadsResult : Except DbError (List Thread) ←
              ask (.listActiveThreads accountId 100)
            match threadsResult with
            | .error error => return .error (.db error)
            | .ok threads => do
              let quarantineResult : Except DbError Nat ← ask (.countVisibleQuarantine accountId)
              match quarantineResult with
              | .error error => return .error (.db error)
              | .ok quarantineCount =>
                if threads = [] ∧ quarantineCount = 0 then return .ok ()
                else sendDigest env accountId target.target

/-! ## What is sent -/

/-- The one address of the mail is a verified email target of the account it is sent for. -/
def GoesToVerified (s : Targets.Store) (entry : String × SendOptions) : Prop :=
  ∃ id, entry.2.toAddresses = [id] ∧ VerifiedEmail s entry.1 id

/-- From the one world to the other mail went to verified targets only, and no target changed. -/
structure SentWell (before w : World) : Prop where
  intact : Intact w.targets
  same : w.targets.targets = before.targets.targets
  sent : ∃ new, w.sent = new ++ before.sent ∧ ∀ entry ∈ new, GoesToVerified before.targets entry

theorem SentWell.start {w : World} (hs : Intact w.targets) : SentWell w w :=
  ⟨hs, rfl, [], rfl, by simp⟩

theorem SentWell.verified {before w : World} (h : SentWell before w) {accountId id : String}
    (hid : VerifiedEmail w.targets accountId id) : VerifiedEmail before.targets accountId id := by
  obtain ⟨row, hget, hrow⟩ := hid
  rw [h.same] at hget
  exact ⟨row, hget, hrow⟩

section
variable {env : Env} {before w : World} {α β : Type}

/-- A call that sends nothing and leaves the targets and the defaults as they are. -/
theorem settle_plain {data : InboundEmailSignalData} {c : Cmd} (hc : Plain data c)
    (h : SentWell before w) (turn : Turn) : SentWell before (settle env c w turn).2 := by
  cases c with
  | targets c =>
    have hstore := settleRequest_store Targets.exec Targets.failure c w.targets turn.fate
    have hexec : Intact (Targets.exec c w.targets).2 ∧
        (Targets.exec c w.targets).2.targets = w.targets.targets := by
      cases c with
      | getForwardingTarget _ _ => exact ⟨h.intact, rfl⟩
      | getAccount _ => exact ⟨h.intact, rfl⟩
      | updateAccount accountId update =>
        obtain ⟨hdigest, hcalendar⟩ := hc
        refine ⟨h.intact.updateAccount fun id hid => ?_, rfl⟩
        simp [Sets, hdigest, hcalendar] at hid
      | createAccount _ => exact hc.elim
      | saveForwardingTarget _ => exact hc.elim
      | deleteForwardingTarget _ _ => exact hc.elim
      | listRules _ => exact hc.elim
    show SentWell before
      { w with targets := (settleRequest Targets.exec Targets.failure c w.targets turn.fate).2 }
    obtain hstore | hstore := hstore
    · rw [hstore]
      exact h
    · rw [hstore]
      exact ⟨hexec.1, hexec.2.trans h.same, h.sent⟩
  | send _ _ => exact hc.elim
  | sendReply mail =>
    simp only [settle]
    split
    · exact h
    · split
      · exact ⟨h.intact, h.same, h.sent⟩
      · exact h
  | dispatchDraft payload delay =>
    simp only [settle]
    split
    · exact h
    · exact ⟨h.intact, h.same, h.sent⟩
  | _ => exact ⟨h.intact, h.same, h.sent⟩

variable {opts : SendOptions}

/-- A mail to a verified email target. -/
theorem settle_send {accountId id : String} (hto : opts.toAddresses = [id])
    (hid : VerifiedEmail before.targets accountId id) (h : SentWell before w) (turn : Turn) :
    SentWell before (settle env (.send accountId opts) w turn).2 := by
  have hsent : SentWell before { w with sent := (accountId, opts) :: w.sent } := by
    obtain ⟨new, hnew, hgood⟩ := h.sent
    refine ⟨h.intact, h.same, (accountId, opts) :: new, congrArg _ hnew, fun entry hentry => ?_⟩
    obtain rfl | hentry := List.mem_cons.mp hentry
    · exact ⟨id, hto, hid⟩
    · exact hgood entry hentry
  simp only [settle]
  split
  · exact h
  · split
    · exact hsent
    · exact h

/-- The program sends well from wherever it starts. -/
def Sends (env : Env) (before : World) (p : OutboundProg α) : Prop :=
  ∀ w, SentWell before w →
    p.Leads (service env) (fun _ => True) (fun _ => SentWell before) w

theorem sends_ret (a : α) : Sends env before (.ret a : OutboundProg α) :=
  fun _ h => ⟨h, fun _ => h⟩

theorem sends_bind {p : OutboundProg α} {f : α → OutboundProg β} (hp : Sends env before p)
    (hf : ∀ a, Sends env before (f a)) : Sends env before (p >>= f) := by
  intro w h
  refine Prog.Leads.bind ((hp w h).mono fun r w hr => ?_)
  cases r with
  | none => exact hr
  | some a => exact hf a w hr

theorem sends_call {c : Cmd} {k : c.Answer → OutboundProg α}
    (hc : ∀ w turn, SentWell before w → SentWell before (settle env c w turn).2)
    (hk : ∀ r, Sends env before (k r)) : Sends env before (.call c k) :=
  fun w h => ⟨fun _ => h, fun turn _ => hk _ _ (hc w turn h)⟩

theorem sends_plain (data : InboundEmailSignalData) {p : OutboundProg α}
    (hp : p.Only (Plain data)) : Sends env before p :=
  fun _ h => hp.leads (fun _ _ turn hc hw => settle_plain hc hw turn) h

/-- A read of the targets is answered with what they are, or fails. -/
theorem sends_read {c : Targets.Cmd} {f : c.Answer → OutboundProg α}
    (hread : ∀ s, (Targets.exec c s).2 = s)
    (hfailed : Sends env before (f (Targets.failure c)))
    (hk : ∀ w, SentWell before w → Sends env before (f (Targets.exec c w.targets).1)) :
    Sends env before (targets (request c) >>= f) := by
  refine fun w h => ⟨fun _ => h, fun turn _ => ?_⟩
  show Prog.Leads _ _ _ (f (settleRequest Targets.exec Targets.failure c w.targets turn.fate).1)
    { w with targets := (settleRequest Targets.exec Targets.failure c w.targets turn.fate).2 }
  cases turn.fate with
  | done =>
    have hsame : (settleRequest Targets.exec Targets.failure c w.targets .done).2 = w.targets :=
      hread w.targets
    rw [hsame]
    exact hk w h w h
  | refused => exact hfailed w h
  | lost =>
    have hsame : (settleRequest Targets.exec Targets.failure c w.targets .lost).2 = w.targets :=
      hread w.targets
    rw [hsame]
    exact hfailed w h

/-- A target that is read is as it was before. -/
theorem sends_getForwardingTarget {accountId target : String}
    {f : Except DbError (Option StoredTarget) → OutboundProg α}
    (hfailed : ∀ error, Sends env before (f (.error error)))
    (hrow : Sends env before (f (.ok (before.targets.targets.get (accountId, target))))) :
    Sends env before (targets (request (.getForwardingTarget accountId target)) >>= f) := by
  refine sends_read (fun _ => rfl) (hfailed _) fun w h => ?_
  show Sends env before (f (.ok (w.targets.targets.get (accountId, target))))
  rw [h.same]
  exact hrow

/-- What an account that is read names are verified email targets. -/
theorem sends_getAccount {accountId : String}
    {f : Except DbError (Option AccountMeta) → OutboundProg α}
    (hfailed : ∀ error, Sends env before (f (.error error)))
    (haccount : ∀ account : Option AccountMeta,
      (∀ found, account = some found → ∀ id, Names found id →
        VerifiedEmail before.targets accountId id) → Sends env before (f (.ok account))) :
    Sends env before (targets (request (.getAccount accountId)) >>= f) :=
  sends_read (fun _ => rfl) (hfailed _) fun w h =>
    haccount (w.targets.account accountId) fun found hfound id hid =>
      h.verified (h.intact.named accountId found hfound id hid)

theorem sends_ask {e : External} {f : e.Answer → OutboundProg α}
    (hf : ∀ r, Sends env before (f r)) : Sends env before (ask e >>= f) :=
  sends_call (fun _ _ h => ⟨h.intact, h.same, h.sent⟩) hf

theorem sends_send {accountId : String} (id : String)
    {f : Except ReplySendError SendReceipt → OutboundProg α} (hto : opts.toAddresses = [id])
    (hid : VerifiedEmail before.targets accountId id) (hf : ∀ r, Sends env before (f r)) :
    Sends env before (Prog.perform (Cmd.send accountId opts) >>= f) :=
  sends_call (fun _ turn h => settle_send hto hid h turn) hf

/-! ## The senders -/

theorem forward_sends (forwardingTargetId : String) (signal : Signal)
    (data : InboundEmailSignalData) (thread : Thread) :
    Sends env before (forward forwardingTargetId signal data thread) := by
  refine sends_getForwardingTarget (fun _ => sends_ret _) ?_
  cases hget : before.targets.targets.get (thread.accountId, forwardingTargetId) with
  | none => exact sends_ret _
  | some target =>
    show Sends env before (ite _ _ _)
    split
    · exact sends_ret _
    · next hverified =>
      have hkey : Targets.targetKey target = (thread.accountId, forwardingTargetId) :=
        KeyedTable.key_of_get hget
      have htarget : target.target = forwardingTargetId := congrArg Prod.snd hkey
      cases htype : target.type with
      | email =>
        refine sends_bind (sends_plain data ⟨trivial, fun _ => trivial⟩) fun raw => ?_
        change Except DbError Unit at raw
        match raw with
        | .error _ => exact sends_ret _
        | .ok () =>
          refine sends_send target.target rfl ?_ fun r => sends_ret _
          rw [htarget]
          exact ⟨target, hget, not_not.mp hverified, htype⟩
      | webhook =>
        exact sends_bind (sends_plain data ⟨trivial, fun _ => trivial⟩) fun _ => sends_ret _

theorem countFailures_sends {ε : Type} {effect : α → OutboundProg (Except ε Unit)}
    (h : ∀ item, Sends env before (effect item)) (items : List α) :
    Sends env before (countFailures effect items) := by
  induction items with
  | nil => exact sends_ret _
  | cons item items ih => exact sends_bind (h item) fun _ => sends_bind ih fun _ => sends_ret _

/-- The invite goes to the calendar default of the account. -/
theorem forwardInvite_toAddresses {service : EmailService} {event : CalendarEventData}
    {address accountId aliasAddress : String}
    (h : forwardInvite service event address accountId aliasAddress = some opts) :
    address ≠ "" ∧ opts.toAddresses = [address] := by
  unfold forwardInvite at h
  split at h
  · cases h
  · next haddress =>
    cases h
    exact ⟨haddress, rfl⟩

/-- The invite goes to the address that is in the account's row, or nowhere. -/
theorem sendInvite_sends {accountId address : String} (signal : Signal) (thread : Thread)
    (data : InboundEmailSignalData)
    (haddress : address ≠ "" → VerifiedEmail before.targets accountId address) :
    Sends env before (do
      let calendarSignalResult : Except DbError (Option Signal) ←
        db (ThreadDatabase.getLinkedCalendarSignal accountId thread.id signal.id)
      match calendarSignalResult with
      | .ok (some ⟨_, _, _, _, _, _, _, _, _, .calendarEvent event⟩) =>
        match forwardInvite env.mailService event address accountId data.recipientAddress with
        | none => return 0
        | some opts => do
          let sendResult : Except ReplySendError SendReceipt ←
            Prog.perform (Cmd.send accountId opts)
          match sendResult with
          | .error (.permanentSes _) => return 0
          | .error _ => return 1
          | .ok _ => return 0
      | _ => return 0) := by
  refine sends_bind (sends_plain data ⟨trivial, fun _ => trivial⟩) fun calendarSignalResult => ?_
  split
  · split
    · exact sends_ret _
    · next opts hopts =>
      obtain ⟨hne, hto⟩ := forwardInvite_toAddresses hopts
      refine sends_send address hto (haddress hne) fun r => ?_
      cases r with
      | ok _ => exact sends_ret _
      | error error => cases error <;> exact sends_ret _
  · exact sends_ret _

theorem forwardCalendarInvite_sends (accountId : String) (signal : Signal) (thread : Thread)
    (data : InboundEmailSignalData) :
    Sends env before (forwardCalendarInvite env accountId signal thread data) := by
  refine sends_getAccount (fun _ => sendInvite_sends signal thread data fun h => absurd rfl h)
    fun account haccount => ?_
  refine sendInvite_sends signal thread data fun hne => ?_
  cases account with
  | none => exact absurd rfl hne
  | some found =>
    refine haccount found rfl _ (.inr ?_)
    cases hcalendar : found.defaultCalendarInviteForwardingTargetId with
    | none => simp [hcalendar] at hne
    | some id =>
      simp [hcalendar] at hne
      simp [calendarTarget, hcalendar, hne]

theorem processSideEffect_sends (payload : SideEffectPayload) (receiveCount : Nat) :
    Sends env before (processSideEffect env payload receiveCount) := by
  unfold processSideEffect
  split
  · next data _ =>
    have hthread : (currentThread payload.signal.accountId payload.thread receiveCount).Only
        (Plain data) := by
      unfold currentThread
      split
      · exact ⟨trivial, fun _ => trivial⟩
      · trivial
    refine sends_bind (sends_plain data hthread) fun threadResult => ?_
    match threadResult with
    | .error _ => exact sends_ret _
    | .ok thread =>
      refine sends_bind ?_ fun failures => ?_
      · refine sends_bind (countFailures_sends (fun _ => forward_sends _ _ _ _) _) fun _ => ?_
        refine sends_bind (sends_plain data ((notify_only thread _ _).mono
          fun _ h => h.replies.plain)) fun _ => ?_
        refine sends_bind (sends_plain data ⟨trivial, fun _ => trivial⟩) fun _ => ?_
        refine sends_bind (sends_plain data ((pong_only env data _).mono
          fun _ => Replies.plain)) fun _ => ?_
        refine sends_bind (sends_plain data ((autoDrafts_only env _ thread data _).mono
          fun _ => Replies.plain)) fun _ => ?_
        refine sends_bind ?_ fun _ => sends_ret _
        unfold invites
        split
        · exact forwardCalendarInvite_sends _ _ _ _
        · exact sends_ret _
      · show Sends env before (ite _ _ _)
        split
        · exact sends_ret _
        · exact sends_ret _
  · exact sends_ret _

theorem sendDigest_sends (accountId toAddress : String)
    (hto : VerifiedEmail before.targets accountId toAddress) :
    Sends env before (sendDigest env accountId toAddress) := by
  refine sends_ask fun domainsResult => sends_send toAddress rfl hto fun r => ?_
  match r with
  | .ok _ => exact sends_ret _
  | .error error => cases error <;> exact sends_ret _

theorem processDigest_sends (accountId : String) :
    Sends env before (processDigest env accountId) := by
  refine sends_getAccount (fun _ => sends_ret _) fun account haccount => ?_
  dsimp only
  cases hconfig : account.bind AccountMeta.digest with
  | none => exact sends_ret _
  | some config =>
    obtain ⟨found, rfl, hdigest⟩ := Option.bind_eq_some_iff.mp hconfig
    have hnamed : Names found config.forwardingTargetId := .inl (by simp [digestTarget, hdigest])
    have hverified := haccount found rfl _ hnamed
    refine sends_ask fun due => ?_
    show Sends env before (ite _ _ _)
    split
    · exact sends_ret _
    · refine sends_getForwardingTarget (fun _ => sends_ret _) ?_
      obtain ⟨row, hget, hstatus, htype⟩ := hverified
      have hkey : Targets.targetKey row = (accountId, config.forwardingTargetId) :=
        KeyedTable.key_of_get hget
      have htarget : row.target = config.forwardingTargetId := congrArg Prod.snd hkey
      have hto : VerifiedEmail before.targets accountId row.target := by
        rw [htarget]
        exact ⟨row, hget, hstatus, htype⟩
      rw [hget]
      simp only [Option.filter, hstatus, decide_true, if_true]
      refine sends_ask fun threads => ?_
      change Except DbError (List Thread) at threads
      cases threads with
      | error _ => exact sends_ret _
      | ok threads =>
        refine sends_ask fun quarantine => ?_
        change Except DbError Nat at quarantine
        cases quarantine with
        | error _ => exact sends_ret _
        | ok quarantineCount =>
          show Sends env before (ite _ _ _)
          split
          · exact sends_ret _
          · exact sendDigest_sends _ _ hto

end

/-! ## Runs -/

/-- A request about accounts and targets, a change of the rules or of what else the account holds,
or one of the two workers; each with the turns of its calls. -/
inductive Operation
  | createAccount (accountId createdAt : String) (fs : Faults Fate)
  | createTarget (accountId : String) (body : CreateForwardingTargetRequest) (token : String)
      (verification : Except String Unit) (fs : Faults Fate)
  | verifyTarget (accountId address token : String) (fs : Faults Fate)
  | deleteTarget (accountId address : String) (fs : Faults Fate)
  | patchAccount (accountId : String) (body : UpdateAccountRequest) (fs : Faults Fate)
  | unsubscribeDigest (accountId : String) (fs : Faults Fate)
  | ensureDefault (accountId : String) (email : OwnerEmail) (token : String) (fs : Faults Fate)
  | changeRules (rules : List Rule)
  | changeTables (table : SignalsTable.Store) (accounts : AccountsTable.Store)
  | sideEffects (payload : SideEffectPayload) (receiveCount : Nat) (fs : Faults Turn)
  | digest (accountId : String) (fs : Faults Turn)

def World.request {α : Type} (w : World) (p : TargetProg α) (fs : Faults Fate) : World :=
  { w with targets := (p.run Targets.service fs w.targets).store }

def step (env : Env) (w : World) : Operation → World
  | .createAccount accountId createdAt fs =>
    World.request w (request (.createAccount (newAccount accountId createdAt))) fs
  | .createTarget accountId body token verification fs =>
    World.request w (Targets.createForwardingTarget accountId body token verification) fs
  | .verifyTarget accountId address token fs =>
    World.request w (Targets.verifyForwardingTarget accountId address token) fs
  | .deleteTarget accountId address fs =>
    World.request w (Targets.deleteForwardingTarget accountId address) fs
  | .patchAccount accountId body fs => World.request w (Targets.patchAccount accountId body) fs
  | .unsubscribeDigest accountId fs => World.request w (Targets.unsubscribeDigest accountId) fs
  | .ensureDefault accountId email token fs =>
    World.request w (Targets.ensureDefaultForwardingTarget accountId email token) fs
  | .changeRules rules => { w with targets := { w.targets with rules } }
  | .changeTables table accounts => { w with table, accounts }
  | .sideEffects payload receiveCount fs =>
    ((processSideEffect env payload receiveCount).run (service env) fs w).store
  | .digest accountId fs => ((processDigest env accountId).run (service env) fs w).store

/-- The calendar default of the account is not deleted, unless the deletion is refused because the
digest or a rule uses it; and the defaults are set to email targets. -/
def Fits (w : World) : Operation → Prop
  | .deleteTarget accountId address _ => ∀ account, w.targets.account accountId = some account →
      calendarTarget account = some (pathAddress address) →
        InUse w.targets accountId (pathAddress address)
  | .patchAccount accountId body _ =>
    (∀ id, Sets body.update id → Verified w.targets accountId id) →
      ∀ id, Sets body.update id → VerifiedEmail w.targets accountId id
  | _ => True

/-- What the operation sends goes to verified email targets, as they are at that time. -/
def SendsWell (env : Env) (w : World) (operation : Operation) : Prop :=
  ∃ new, (step env w operation).sent = new ++ w.sent ∧
    ∀ entry ∈ new, GoesToVerified w.targets entry

/-- An operation that fits keeps the defaults intact and sends well. -/
theorem step_fits {env : Env} {w : World} {operation : Operation} (hw : Intact w.targets)
    (hfits : Fits w operation) :
    Intact (step env w operation).targets ∧ SendsWell env w operation := by
  have hrequest : ∀ {α : Type} (p : TargetProg α) (fs : Faults Fate), Keeps p w.targets →
      Intact (World.request w p fs).targets ∧ ∃ new, w.sent = new ++ w.sent ∧
        ∀ entry ∈ new, GoesToVerified w.targets entry :=
    fun p fs hp => ⟨hp.run trivial fs fun _ _ => trivial, [], rfl, by simp⟩
  have hsends : ∀ {α : Type} (p : OutboundProg α) (fs : Faults Turn), Sends env w p →
      Intact (p.run (service env) fs w).store.targets ∧
        ∃ new, (p.run (service env) fs w).store.sent = new ++ w.sent ∧
          ∀ entry ∈ new, GoesToVerified w.targets entry := by
    intro α p fs hp
    have hend := (hp w (.start hw)).run trivial fs fun _ _ => trivial
    exact ⟨hend.intact, hend.sent⟩
  cases operation with
  | createAccount accountId createdAt fs => exact hrequest _ fs (createAccount_keeps _ _ hw)
  | createTarget accountId body token verification fs =>
    exact hrequest _ fs (createForwardingTarget_keeps _ body _ _ hw)
  | verifyTarget accountId address token fs =>
    exact hrequest _ fs (verifyForwardingTarget_keeps _ _ _ hw)
  | deleteTarget accountId address fs =>
    exact hrequest _ fs (deleteForwardingTarget_keeps _ _ hw hfits)
  | patchAccount accountId body fs => exact hrequest _ fs (patchAccount_keeps _ body hw hfits)
  | unsubscribeDigest accountId fs => exact hrequest _ fs (unsubscribeDigest_keeps _ hw)
  | ensureDefault accountId email token fs =>
    exact hrequest _ fs (ensureDefaultForwardingTarget_keeps _ email _ hw)
  | changeRules rules => exact ⟨⟨hw.named, hw.urls⟩, [], rfl, by simp⟩
  | changeTables table accounts => exact ⟨hw, [], rfl, by simp⟩
  | sideEffects payload receiveCount fs => exact hsends _ fs (processSideEffect_sends _ _)
  | digest accountId fs => exact hsends _ fs (processDigest_sends _)

theorem emptyWorld_intact : Intact emptyWorld.targets := by
  refine ⟨fun accountId account haccount id hid => ?_, by simp [emptyWorld, KeyedTable.empty]⟩
  have hsystem : account = Targets.systemAccount := by
    simp only [Targets.Store.account, emptyWorld, KeyedTable.get_empty] at haccount
    split at haccount
    · exact (Option.some.inj haccount).symm
    · cases haccount
  rw [hsystem] at hid
  simp [Names, Targets.systemAccount, digestTarget, calendarTarget] at hid

/-- **Mail goes to verified targets.** In a run in which no calendar default is deleted and the
defaults are set to email targets, the defaults of every account refer to verified email targets in
every state, and whatever is sent goes to such targets. -/
theorem mail_goes_to_verified (env : Env) (operations : List Operation)
    (hfits : EachFits (step env) Fits emptyWorld operations) :
    Always (step env) (fun w => Intact w.targets) emptyWorld operations ∧
      EachFits (step env) (SendsWell env) emptyWorld operations :=
  ⟨always_of_eachFits (P := fun w => Intact w.targets) (fun _ _ hw hf => (step_fits hw hf).1)
      emptyWorld_intact hfits,
    eachFits_of_invariant (P := fun w => Intact w.targets) (fun _ _ hw hf => step_fits hw hf)
      emptyWorld_intact hfits⟩

/-! ## Mail to other targets -/

def ownerEmail : OwnerEmail := ⟨"me@home.test", by decide⟩

/-- An account whose defaults are the email of its owner. -/
def ownDefaults : List Operation :=
  [.createAccount "acct-1" "2026-01-01T00:00:00.000Z" [], .ensureDefault "acct-1" ownerEmail "token" []]

/-- The email that carried an invite, with the action that forwards it. -/
def invitePayload : SideEffectPayload where
  signal := { loopSignal with data := .inboundEmail { loopData with
    matchedRules := [calendarForwardRule] } }
  thread := loopThread
  skipNotify := true

def inviteTable : SignalsTable.Store where
  signals := KeyedTable.empty.put (SignalsTable.signalItem
    (Calendar.EventStore.snapshot "REQUEST" 0 "2026-03-01T09:00:00.000Z").signal)
  threads := .empty

theorem mail_goes_to_verified_ownDefaults :
    EachFits (step loopEnv) (SendsWell loopEnv) emptyWorld
      (ownDefaults ++ [.changeTables inviteTable ⟨.empty, .empty, .empty⟩,
        .sideEffects invitePayload 1 []]) :=
  (mail_goes_to_verified loopEnv _ (by simp [EachFits, ownDefaults, Fits])).2

/-- The digest is turned off, and the target deleted. -/
def deletedDefault : List Operation :=
  ownDefaults ++ [.unsubscribeDigest "acct-1" [], .deleteTarget "acct-1" "me@home.test" [],
    .changeTables inviteTable ⟨.empty, .empty, .empty⟩, .sideEffects invitePayload 1 []]

/-- A webhook takes over the digest. -/
def webhookDigest : List Operation :=
  ownDefaults ++ [.createTarget "acct-1" ⟨"https://hook.test/in", .webhook, by decide⟩ "token"
      (.ok ()) [],
    .patchAccount "acct-1" ⟨some (some ⟨.daily, "https://hook.test/in"⟩), none⟩ [],
    .digest "acct-1" []]

/-- The digest is due, with an email to report. -/
def dueEnv : Env where
  answer
    | _, .shouldDispatchDigest _ => true
    | _, .countVisibleQuarantine _ => .ok 1
    | tick, e => loopEnv.answer tick e
  mailService := loopEnv.mailService
  getDomain := loopEnv.getDomain

theorem not_sendsWell {env : Env} {w : World} {operation : Operation} {accountId id : String}
    (hsent : w.sent = [])
    (hmail : (step env w operation).sent.map (fun entry => (entry.1, entry.2.toAddresses)) =
      [(accountId, [id])])
    (hbad : ¬ VerifiedEmail w.targets accountId id) : ¬ SendsWell env w operation := by
  intro ⟨new, hnew, hgood⟩
  rw [hsent, List.append_nil] at hnew
  rw [hnew] at hmail
  have hmem : (accountId, [id]) ∈ new.map fun entry => (entry.1, entry.2.toAddresses) := by
    rw [hmail]
    exact List.mem_singleton_self _
  obtain ⟨entry, hentry, heq⟩ := List.mem_map.mp hmem
  obtain ⟨id', hto, hverified⟩ := hgood entry hentry
  have haccount : entry.1 = accountId := congrArg Prod.fst heq
  have hid : entry.2.toAddresses = [id] := congrArg Prod.snd heq
  rw [hto] at hid
  cases hid
  rw [haccount] at hverified
  exact hbad hverified

/-- An invite goes to a deleted target, and a digest to a webhook. -/
theorem unverified_targets_are_mailed :
    ¬ EachFits (step loopEnv) (SendsWell loopEnv) emptyWorld deletedDefault ∧
      ¬ EachFits (step dueEnv) (SendsWell dueEnv) emptyWorld webhookDigest := by
  constructor
  · intro h
    have hlast : SendsWell loopEnv ((deletedDefault.take 5).foldl (step loopEnv) emptyWorld)
        (.sideEffects invitePayload 1 []) := h.2.2.2.2.2.1
    refine @not_sendsWell loopEnv _ _ "acct-1" "me@home.test" ?_ ?_ ?_ hlast
    · rfl
    · decide +kernel
    · intro ⟨row, hget, _⟩
      have hnone : ((deletedDefault.take 5).foldl (step loopEnv) emptyWorld).targets.targets.get
          ("acct-1", "me@home.test") = none := by decide +kernel
      rw [hnone] at hget
      cases hget
  · intro h
    have hlast : SendsWell dueEnv ((webhookDigest.take 4).foldl (step dueEnv) emptyWorld)
        (.digest "acct-1" []) := h.2.2.2.2.1
    refine @not_sendsWell dueEnv _ _ "acct-1" "https://hook.test/in" ?_ ?_ ?_ hlast
    · rfl
    · decide +kernel
    · intro ⟨row, hget, _, htype⟩
      have hhook : (((webhookDigest.take 4).foldl (step dueEnv) emptyWorld).targets.targets.get
          ("acct-1", "https://hook.test/in")).map (·.type) = some .webhook := by decide +kernel
      rw [hget] at hhook
      simp [htype] at hhook

end SesEmailAdapter.Forwarding.TargetSafety
