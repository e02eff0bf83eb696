import SesEmailAdapter.Processor.SideEffects

/-! # Chains of automatic replies

The hop count that the reply sender stamps on a mail counts the replies before it, and the sender
refuses to go over a limit. A pong carries on the count of the mail that it answers. A draft of a
rule has no headers, so the worker that sends it starts to count anew. -/

namespace SesEmailAdapter.Processor.AutoReplies
open Lib
open SesEmailAdapter.Types Database Database.Shared
open Email.Service Email.SendPaths
open Notifier.ReplySender
open Processor.DraftSendWorker (DraftMail DraftSendPayload Turn)
open Processor.IngestService (SideEffectPayload)
open Processor.InboundMessage (headerOf)
open Processor.OutboundService Processor.SideEffects

/-! ## Stamps -/

def TAG_HOP_COUNT : String := "X-Numaeel-Hop-Count"

/-- The hop count of a mail, unless the loop guard refuses to send it. -/
def stampedHopCount (hopCount : Option Nat) : Except ReplySendError Nat :=
  let hopCount := hopCount.getD 0 + 1
  if hopCount > maxHopCount then .error (.loopGuardTripped hopCount) else .ok hopCount

/-- The headers that the reply sender adds to a mail. -/
def replyHeaders (hopCount : Nat) (inReplyTo : Option String) (autoSubmitted : Bool) : Fields :=
  (match inReplyTo.getD "" with
    | "" => []
    | inReplyTo => [("In-Reply-To", inReplyTo), ("References", inReplyTo)]) ++
  (TAG_HOP_COUNT, toString hopCount) ::
    if autoSubmitted then [("Auto-Submitted", "auto-replied")] else []

theorem stampedHopCount_eq_ok {prior : Option Nat} {n : Nat} (h : stampedHopCount prior = .ok n) :
    n = prior.getD 0 + 1 ∧ n ≤ maxHopCount := by
  unfold stampedHopCount at h
  by_cases hguard : prior.getD 0 + 1 > maxHopCount
  · rw [if_pos hguard] at h
    cases h
  · rw [if_neg hguard] at h
    cases h
    exact ⟨rfl, not_lt.mp hguard⟩

/-- The mail has arrived with the headers it was sent with, whose names are in lower case there. -/
def Delivered (sent received : Fields) : Prop :=
  ∀ name, headerOf sent name ≠ none → received.get name = headerOf sent name

/-- The headers of a mail as its receiver names them. -/
def received (sent : Fields) : Fields :=
  sent.reverse.map fun field => (String.ofList (Email.Address.toLowerCase field.1.toList), field.2)

theorem delivered_received (sent : Fields) : Delivered sent (received sent) := by
  intro name _
  unfold received headerOf Fields.get
  rw [List.find?_map, Option.map_map]
  have hname : ((fun field : String × String => decide (field.1 = name)) ∘ fun field =>
      (String.ofList (Email.Address.toLowerCase field.1.toList), field.2)) =
      fun field : String × String =>
        decide (Email.Address.toLowerCase field.1.toList = name.toList) := by
    funext field
    refine decide_eq_decide.mpr ⟨fun h => ?_, fun h => ?_⟩
    · show _ = name.toList
      rw [← h, String.toList_ofList]
    · show String.ofList (Email.Address.toLowerCase field.1.toList) = name
      rw [h, String.ofList_toList]
  rw [hname]
  rfl

theorem headerOf_hopCount (n : Nat) (inReplyTo : Option String) (autoSubmitted : Bool) :
    headerOf (replyHeaders n inReplyTo autoSubmitted) "x-numaeel-hop-count" =
      some (toString n) := by
  have hauto : (if autoSubmitted then [("Auto-Submitted", "auto-replied")] else []).reverse.find?
      (fun field : String × String =>
        Email.Address.toLowerCase field.1.toList = "x-numaeel-hop-count".toList) = none := by
    cases autoSubmitted <;> rfl
  unfold headerOf replyHeaders
  rw [List.reverse_append, List.reverse_cons, List.append_assoc, List.find?_append, hauto]
  have htag : Email.Address.toLowerCase TAG_HOP_COUNT.toList = "x-numaeel-hop-count".toList := by
    decide +kernel
  rw [Option.none_or, List.singleton_append, List.find?_cons, htag]
  rw [decide_eq_true rfl]
  rfl

theorem parseHopCount_congr {headers headers' : Fields}
    (h : headers.get "x-numaeel-hop-count" = headers'.get "x-numaeel-hop-count") :
    parseHopCount headers = parseHopCount headers' := by
  unfold parseHopCount
  rw [h]

/-- A stamp is read back as it was written. -/
theorem parseHopCount_of_delivered {n : Nat} {inReplyTo : Option String} {autoSubmitted : Bool}
    {received : Fields} (hn : n ≤ maxHopCount)
    (h : Delivered (replyHeaders n inReplyTo autoSubmitted) received) :
    parseHopCount received = some n := by
  have hstamps : ∀ n ≤ maxHopCount,
      parseHopCount [("x-numaeel-hop-count", toString n)] = some n := by
    decide +kernel
  have hname := h "x-numaeel-hop-count"
  rw [headerOf_hopCount] at hname
  rw [← hstamps n hn]
  exact parseHopCount_congr (hname (Option.some_ne_none _))

/-! ## What the programs stamp -/

/-- A reply carries on the count of the email, and a draft has no headers. -/
def Stamps (data : InboundEmailSignalData) : Cmd → Prop
  | .sendReply mail => mail.opts.hopCount = parseHopCount data.headers
  | .db (.putSignal signal) => ∀ draft, signal.data = .outboundEmail draft → draft.headers = []
  | _ => True

/-- A call that sends no mail but replies, and writes no target and no default of an account. -/
def Plain (data : InboundEmailSignalData) : Cmd → Prop
  | .send .. => False
  | .targets (.getForwardingTarget ..) => True
  | .targets (.getAccount _) => True
  | .targets (.updateAccount _ update) =>
    update.digest = none ∧ update.defaultCalendarInviteForwardingTargetId = none
  | .targets _ => False
  | c => Stamps data c

variable {data : InboundEmailSignalData}

variable {c : Cmd}

theorem Plain.stamps (h : Plain data c) :
    Stamps data c := by
  cases c with
  | db c => exact h
  | sendReply mail => exact h
  | _ => trivial

/-- A call that carries nothing out: it reads, notes a problem or records the test email. -/
def Aside : Cmd → Prop
  | .ask (.getOriginalEmail ..) => False
  | .ask _ => True
  | .attempt _ => True
  | .accounts _ => True
  | .targets (.getAccount _) => True
  | .targets (.updateAccount _ update) =>
    update.digest = none ∧ update.defaultCalendarInviteForwardingTargetId = none
  | .db (.putSignal signal) => ∀ draft, signal.data ≠ .outboundEmail draft
  | _ => False

/-- A call of a copy to a target or of an invite. -/
def Forwards : Cmd → Prop
  | .targets (.getForwardingTarget ..) => True
  | .targets (.getAccount _) => True
  | .ask _ => True
  | .db (.querySignals ..) => True
  | .send .. => True
  | .postWebhook .. => True
  | _ => False

/-- A call of a pong or of a draft. -/
def Replies (data : InboundEmailSignalData) : Cmd → Prop
  | .sendReply mail => mail.opts.hopCount = parseHopCount data.headers
  | .db (.putSignal signal) => ∀ draft, signal.data = .outboundEmail draft → draft.headers = []
  | .dispatchDraft .. => True
  | c => Aside c

theorem Aside.replies (h : Aside c) :
    Replies data c := by
  cases c with
  | db c =>
    cases c with
    | putSignal signal => exact fun draft hdraft => absurd hdraft (h draft)
    | _ => exact h
  | sendReply mail => exact h.elim
  | dispatchDraft payload delaySeconds => trivial
  | _ => exact h

theorem Replies.plain (h : Replies data c) :
    Plain data c := by
  cases c with
  | db c =>
    cases c with
    | putSignal signal => exact h
    | _ => exact h.elim
  | sendReply mail => exact h
  | targets c =>
    cases c with
    | getAccount accountId => trivial
    | updateAccount accountId update => exact h
    | _ => exact h.elim
  | send accountId opts => exact h.elim
  | _ => trivial

theorem Replies.stamps (h : Replies data c) :
    Stamps data c := h.plain.stamps

theorem Forwards.stamps (h : Forwards c) :
    Stamps data c := by
  cases c with
  | db c => cases c <;> trivial
  | sendReply mail => exact h.elim
  | _ => trivial

theorem Aside.stamps (h : Aside c) : Stamps data c :=
  h.replies.stamps

section
variable (env : Env) (signal : Signal) (thread : Thread) (data : InboundEmailSignalData)

theorem getAccount_only (accountId : String) :
    (targets (Forwarding.Targets.request (.getAccount accountId))).Only Aside :=
  ⟨trivial, fun _ => trivial⟩

theorem forward_only (forwardingTargetId : String) :
    (forward forwardingTargetId signal data thread).Only Forwards := by
  have hread : (targets (Forwarding.Targets.request
      (.getForwardingTarget thread.accountId forwardingTargetId))).Only Forwards :=
    ⟨trivial, fun _ => trivial⟩
  refine hread.bind fun targetResult => ?_
  match targetResult with
  | .error _ => trivial
  | .ok none => trivial
  | .ok (some target) =>
    show Prog.Only _ (if _ then _ else _)
    split
    · trivial
    · split
      · refine ⟨trivial, fun rawResult => ?_⟩
        change Except DbError Unit at rawResult
        match rawResult with
        | .error _ => trivial
        | .ok () => exact ⟨trivial, fun _ => trivial⟩
      · exact ⟨trivial, fun _ => trivial⟩

theorem countFailures_only {α ε : Type} {P : Cmd → Prop} {effect : α → OutboundProg (Except ε Unit)}
    (h : ∀ item, (effect item).Only P) (items : List α) : (countFailures effect items).Only P := by
  induction items with
  | nil => trivial
  | cons item items ih => exact (h item).bind fun _ => ih.bind fun _ => trivial

theorem matchProfiles_only (fromAddress : String) (userIds : List String) :
    (matchProfiles fromAddress userIds).Only Aside := by
  induction userIds with
  | nil => trivial
  | cons userId userIds ih =>
    refine ⟨trivial, fun emailResult => ih.bind fun rest => ?_⟩
    change Except DbError (Option String) at emailResult
    match emailResult with
    | .error _ => trivial
    | .ok email =>
      show Prog.Only _ (if _ then _ else _)
      split <;> trivial

theorem senderBelongsToAccount_only (accountId fromAddress : String) :
    (senderBelongsToAccount env accountId fromAddress).Only Aside := by
  refine ⟨trivial, fun domainsResult => ?_⟩
  change Except DbError (List Domain) at domainsResult
  match domainsResult with
  | .error _ => trivial
  | .ok domains =>
    show Prog.Only _ (if _ then _ else _)
    split
    · trivial
    · refine ⟨trivial, fun usersResult => ?_⟩
      change Except DbError (List String) at usersResult
      match usersResult with
      | .error _ => trivial
      | .ok userIds => exact matchProfiles_only _ userIds

theorem isTestMoment_only (accountId : String) (workflow : Workflow) :
    (isTestMoment accountId workflow).Only Aside := by
  unfold isTestMoment
  split
  · trivial
  · refine (getAccount_only _).bind fun accountResult => ?_
    match accountResult with
    | .error _ => trivial
    | .ok account =>
      show Prog.Only _ (if _ then _ else _)
      split
      · trivial
      · split
        · trivial
        · refine ⟨trivial, fun recent => ?_⟩
          show Prog.Only _ (if _ then _ else _)
          split
          · trivial
          · exact ⟨trivial, fun _ => trivial⟩

theorem shouldPong_only (accountId : String) :
    (shouldPong env accountId data).Only Aside := by
  unfold shouldPong
  split
  · trivial
  · split
    · trivial
    · split
      · trivial
      · refine (senderBelongsToAccount_only env _ _).bind fun belongs => ?_
        match belongs with
        | .ok true => exact isTestMoment_only _ _
        | .ok false => trivial
        | .error _ => trivial

theorem markTestEmailReceived_only (accountId : String) :
    (markTestEmailReceived accountId).Only Aside := by
  refine (getAccount_only _).bind fun accountResult => ?_
  match accountResult with
  | .error _ => trivial
  | .ok account =>
    show Prog.Only _ (if _ then _ else _)
    split
    · trivial
    · exact ⟨⟨rfl, rfl⟩, fun _ => trivial⟩

theorem pong_only (accountId : String) : (pong env accountId data).Only (Replies data) := by
  refine Prog.Only.bind ((shouldPong_only env data _).mono fun _ => Aside.replies)
    fun eligible => ?_
  match eligible with
  | .ok true =>
    refine ⟨rfl, fun sendResult => ?_⟩
    change Except ReplySendError DraftSendWorker.SendReceipt at sendResult
    match sendResult with
    | .ok _ =>
      exact ((markTestEmailReceived_only _).mono fun _ => Aside.replies).bind fun _ => trivial
    | .error error => cases error <;> trivial
  | .ok false => trivial
  | .error _ => trivial

theorem noteProblem_only (accountId threadId : String) (problem : SignalData)
    (hproblem : ∀ draft, problem ≠ .outboundEmail draft) :
    (noteProblem accountId threadId problem).Only Aside :=
  ⟨trivial, fun _ => ⟨trivial, fun _ =>
    ⟨hproblem, fun _ => trivial⟩⟩⟩

theorem resolveFunctions_only (accountId : String) (tmpl : EmailTemplate)
    (functions : List TemplateFunction) (vars : Fields) (failed : Bool) :
    (resolveFunctions accountId tmpl signal thread functions vars failed).Only Aside := by
  induction functions generalizing vars failed with
  | nil => trivial
  | cons fn functions ih =>
    refine Prog.Only.perform trivial fun result => ?_
    split
    · exact ih _ _
    · refine Prog.Only.perform trivial fun _ => ?_
      exact (noteProblem_only _ _ _ (by simp)).bind fun _ => ih _ _

theorem getSender_only (accountId aliasAddress senderDomain : String) :
    (accounts (AccountDatabase.getSender accountId aliasAddress senderDomain)).Only Aside := by
  refine Prog.Only.embed ?_
  unfold AccountDatabase.getSender AccountDatabase.withAddress
  split
  · trivial
  · split
    · trivial
    · exact ⟨trivial, fun _ => trivial⟩

theorem replyTargetGate_only (accountId threadId : String) (shouldAutoSend : Bool) :
    (replyTargetGate env accountId threadId data shouldAutoSend).Only Aside := by
  unfold replyTargetGate
  split
  · trivial
  · refine Prog.Only.bind (getSender_only _ _ _) fun senderResult => ?_
    show Prog.Only _ (if _ then _ else _)
    split
    · trivial
    · exact (noteProblem_only _ _ _ (by simp)).bind fun _ => trivial

theorem automatedGate_only (accountId threadId : String) (shouldAutoSend : Bool) :
    (automatedGate accountId threadId data shouldAutoSend).Only Aside := by
  unfold automatedGate
  split
  · exact (noteProblem_only _ _ _ (by simp)).bind fun _ => trivial
  · trivial

theorem autoDraftSignal_headers {accountId threadId draftId now : String} {tmpl : EmailTemplate}
    {vars : Fields} {shouldAutoSend : Bool} {draft : OutboundEmailSignalData}
    (h : (autoDraftSignal accountId threadId draftId now data tmpl vars shouldAutoSend).data =
      .outboundEmail draft) : draft.headers = [] := by
  cases h
  rfl

theorem saveDraft_only (context : DraftContext) (tmpl : EmailTemplate) (vars : Fields)
    (shouldAutoSend : Bool) :
    (saveDraft context thread data tmpl vars shouldAutoSend).Only (Replies data) := by
  refine ⟨trivial, fun draftId => ?_⟩
  refine ⟨fun draft hdraft => autoDraftSignal_headers data hdraft, fun draftSaveResult => ?_⟩
  change Except DbError Unit at draftSaveResult
  match draftSaveResult with
  | .error _ => trivial
  | .ok () =>
    show Prog.Only _ (if _ then _ else _)
    split
    · exact ⟨trivial, fun _ => trivial⟩
    · trivial

theorem autoDraft_only (context : DraftContext) (value : String) :
    (autoDraft env context signal thread data value).Only (Replies data) := by
  unfold autoDraft
  split
  · trivial
  · refine ⟨trivial, fun tmplResult => ?_⟩
    change Except DbError (Option EmailTemplate) at tmplResult
    match tmplResult with
    | .error _ => trivial
    | .ok none => trivial
    | .ok (some tmpl) =>
      have hfunctions := (resolveFunctions_only signal thread context.accountId tmpl tmpl.functions
        context.vars false).mono fun _ => (Aside.replies : _ → Replies data _)
      refine hfunctions.bind fun _ => ?_
      refine Prog.Only.bind ((replyTargetGate_only env data _ _ _).mono fun _ => Aside.replies)
        fun _ => ?_
      refine Prog.Only.bind ((automatedGate_only data _ _ _).mono fun _ => Aside.replies)
        fun _ => ?_
      exact saveDraft_only thread data _ _ _ _

theorem autoDrafts_only (accountId : String) :
    (autoDrafts env accountId signal thread data).Only (Replies data) := by
  unfold autoDrafts
  split
  · trivial
  · exact ⟨trivial, fun _ => ⟨trivial, fun _ =>
      countFailures_only (fun _ => autoDraft_only env signal thread data _ _) _⟩⟩

theorem forwardCalendarInvite_only (accountId : String) :
    (forwardCalendarInvite env accountId signal thread data).Only Forwards := by
  have hread : (targets (Forwarding.Targets.request (.getAccount accountId))).Only Forwards :=
    ⟨trivial, fun _ => trivial⟩
  refine hread.bind fun accountResult => ?_
  refine Prog.Only.bind (Prog.Only.embed ⟨trivial, fun _ => trivial⟩) fun calendarResult => ?_
  split
  · split
    · trivial
    · refine ⟨trivial, fun sendResult => ?_⟩
      change Except ReplySendError DraftSendWorker.SendReceipt at sendResult
      match sendResult with
      | .ok _ => trivial
      | .error error => cases error <;> trivial
  · trivial

theorem invites_only (accountId : String) :
    (invites env accountId signal thread data).Only Forwards := by
  unfold invites
  split
  · exact forwardCalendarInvite_only env signal thread data _
  · trivial

theorem notify_only (payload : SideEffectPayload) (outcome : RuleOutcome.ProcessingOutcome) :
    (notify payload outcome thread).Only Aside := by
  unfold notify
  split
  · exact ⟨trivial, fun _ => trivial⟩
  · trivial

end

/-- Whatever becomes of its calls, the worker stamps every reply with the count of the email. -/
theorem processSideEffect_only (env : Env) (payload : SideEffectPayload) (receiveCount : Nat)
    (hdata : payload.signal.data = .inboundEmail data) :
    (processSideEffect env payload receiveCount).Only (Stamps data) := by
  unfold processSideEffect
  rw [hdata]
  have hthread : (currentThread payload.signal.accountId payload.thread receiveCount).Only
      (Stamps data) := by
    unfold currentThread
    split
    · exact ⟨trivial, fun _ => trivial⟩
    · trivial
  refine hthread.bind fun threadResult => ?_
  match threadResult with
  | .error _ => trivial
  | .ok thread =>
    refine Prog.Only.bind ?_ fun failures => ?_
    · have hforwards (id : String) := (forward_only payload.signal thread data id).mono
        fun _ => (Forwards.stamps : _ → Stamps data _)
      refine (countFailures_only hforwards _).bind fun forwards => ?_
      refine Prog.Only.bind ((notify_only thread _ _).mono fun _ => Aside.stamps) fun _ => ?_
      refine Prog.Only.perform trivial fun dispatched => ?_
      refine Prog.Only.bind ((pong_only env data _).mono fun _ => Replies.stamps) fun pongs => ?_
      refine Prog.Only.bind ((autoDrafts_only env _ thread data _).mono fun _ => Replies.stamps)
        fun drafts => ?_
      refine Prog.Only.bind ((invites_only env _ thread data _).mono fun _ => Forwards.stamps)
        fun _ => trivial
    · show Prog.Only _ (if _ then _ else _)
      split <;> trivial

/-- The worker of the drafts reads the count off the draft that it sends. -/
def WorkerStamps : DraftSendWorker.Cmd → Prop
  | .sendReply mail => mail.hopCount = parseHopCount mail.data.headers
  | _ => True

theorem resolveInReplyTo_only (stale : String → Bool) (accountId threadId : String)
    (data : OutboundEmailSignalData) :
    (DraftSendWorker.resolveInReplyTo stale accountId threadId data).Only WorkerStamps := by
  unfold DraftSendWorker.resolveInReplyTo
  split
  · trivial
  · refine Prog.Only.bind (Prog.Only.embed ⟨trivial, fun _ => trivial⟩) fun linkedResult => ?_
    obtain _ | _ | linked := linkedResult
    · trivial
    · trivial
    · dsimp only
      cases linked.data <;> trivial

theorem resolveAttachments_only (attachments : List Attachment) :
    (DraftSendWorker.resolveAttachments attachments).Only WorkerStamps := by
  induction attachments with
  | nil => trivial
  | cons att attachments ih =>
    refine Prog.Only.perform trivial fun content => ?_
    match content with
    | .error _ => trivial
    | .ok () => exact ih

theorem writeStatus_only (accountId signalLookupId : String)
    (update : SignalsTable.SendStatusUpdate) :
    (DraftSendWorker.writeStatus accountId signalLookupId update).Only WorkerStamps :=
  ⟨trivial, fun _ => trivial⟩

theorem process_only (stale : String → Bool) (payload : DraftSendPayload) :
    (DraftSendWorker.process stale payload).Only WorkerStamps := by
  refine Prog.Only.bind (Prog.Only.embed ⟨trivial, fun _ => trivial⟩) fun signalResult => ?_
  split
  · trivial
  · split
    · trivial
    · refine Prog.Only.perform trivial fun mxResult => ?_
      split
      · exact writeStatus_only _ _ _
      · refine (resolveInReplyTo_only _ _ _ _).bind fun inReplyTo => ?_
        refine (resolveAttachments_only _).bind fun attachments => ?_
        split
        · trivial
        · refine Prog.Only.perform rfl fun sendResult => ?_
          split
          · split
            · exact writeStatus_only _ _ _
            · trivial
          · exact writeStatus_only _ _ _

/-! ## Chains -/

inductive Path
  | immediate | draft
deriving DecidableEq, Repr

/-- An automatic reply, as the reply sender stamped it. -/
structure Link where
  path : Path
  hopCount : Nat
  inReplyTo : Option String
  autoSubmitted : Bool
deriving DecidableEq, Repr

def Link.headers (link : Link) : Fields :=
  replyHeaders link.hopCount link.inReplyTo link.autoSubmitted

/-- The calls that the side effects of an email make in some run. -/
def Calls (payload : SideEffectPayload) (c : Cmd) : Prop :=
  ∃ env receiveCount faults w turn, (c, turn) ∈
    ((processSideEffect env payload receiveCount).run (service env) faults w).trace

/-- The calls of a delivery of a queued draft in some run. -/
def WorkerCalls (payload : DraftSendPayload) (c : DraftSendWorker.Cmd) : Prop :=
  ∃ stale faults w turn, (c, turn) ∈
    ((DraftSendWorker.process stale payload).run DraftSendWorker.service faults w).trace

/-- An email with some headers is answered: by a pong, or by a draft that is saved and queued, and
that the worker sends with the content it was saved with. -/
inductive Answers (headers : Fields) : Link → Prop
  | immediate {payload : SideEffectPayload} {data : InboundEmailSignalData} {mail : ReplyMail}
      {hopCount : Nat} :
      payload.signal.data = .inboundEmail data → data.headers = headers →
      Calls payload (.sendReply mail) → stampedHopCount mail.opts.hopCount = .ok hopCount →
      Answers headers ⟨.immediate, hopCount, mail.inReplyTo, mail.autoSubmitted⟩
  | draft {payload : SideEffectPayload} {data : InboundEmailSignalData} {draft : Signal}
      {content : OutboundEmailSignalData} {queued : DraftSendPayload} {delay : Nat}
      {mail : DraftMail} {hopCount : Nat} :
      payload.signal.data = .inboundEmail data → data.headers = headers →
      draft.data = .outboundEmail content →
      Calls payload (.db (.putSignal draft)) → Calls payload (.dispatchDraft queued delay) →
      queued.signalId = draft.id →
      WorkerCalls queued (.sendReply mail) → mail.draft.id = draft.id → mail.data = content →
      stampedHopCount mail.hopCount = .ok hopCount →
      Answers headers ⟨.draft, hopCount, mail.inReplyTo, false⟩

/-- A chain of automatic replies to an email with some headers. -/
inductive Chain : Fields → List Link → Prop
  | nil {headers : Fields} : Chain headers []
  | cons {headers received : Fields} {link : Link} {links : List Link} :
      Answers headers link → Delivered link.headers received → Chain received links →
      Chain headers (link :: links)

variable {headers : Fields} {link : Link} {links : List Link}

theorem Answers.hopCount_le (h : Answers headers link) : link.hopCount ≤ maxHopCount := by
  cases h with
  | immediate _ _ _ hstamp => exact (stampedHopCount_eq_ok hstamp).2
  | draft _ _ _ _ _ _ _ _ _ hstamp => exact (stampedHopCount_eq_ok hstamp).2

theorem Answers.hopCount_pos (h : Answers headers link) : 0 < link.hopCount := by
  cases h with
  | immediate _ _ _ hstamp =>
    rw [(stampedHopCount_eq_ok hstamp).1]
    exact Nat.succ_pos _
  | draft _ _ _ _ _ _ _ _ _ hstamp =>
    rw [(stampedHopCount_eq_ok hstamp).1]
    exact Nat.succ_pos _

theorem Answers.hopCount_immediate (h : Answers headers link) (hpath : link.path = .immediate) :
    link.hopCount = (parseHopCount headers).getD 0 + 1 := by
  cases h with
  | immediate hdata hheaders hcalls hstamp =>
    obtain ⟨env, receiveCount, faults, w, turn, hmem⟩ := hcalls
    have hprior := (processSideEffect_only env _ receiveCount hdata).run_trace faults w _ hmem
    rw [(stampedHopCount_eq_ok hstamp).1, ← hheaders]
    exact congrArg (·.getD 0 + 1) hprior
  | draft => cases hpath

/-- A draft starts to count anew, whatever it answers. -/
theorem Answers.hopCount_draft (h : Answers headers link) (hpath : link.path = .draft) :
    link.hopCount = 1 := by
  cases h with
  | immediate => cases hpath
  | draft hdata _ hcontent hsaved _ _ hsent _ hmail hstamp =>
    obtain ⟨env, receiveCount, faults, w, turn, hmem⟩ := hsaved
    have hempty := (processSideEffect_only env _ receiveCount hdata).run_trace faults w _ hmem _
      hcontent
    obtain ⟨stale, faults, w, turn, hmem⟩ := hsent
    have hprior := (process_only stale _).run_trace faults w _ hmem
    rw [(stampedHopCount_eq_ok hstamp).1]
    show _ = 0 + 1
    rw [hprior, hmail, hempty]
    rfl

/-- Pongs count on from the email that they answer. -/
theorem Chain.hopCounts (h : Chain headers links) (hpath : ∀ link ∈ links, link.path = .immediate) :
    links.map Link.hopCount =
      List.range' ((parseHopCount headers).getD 0 + 1) links.length := by
  induction h with
  | nil => rfl
  | cons hanswers hdelivered _ ih =>
    have hhead := hanswers.hopCount_immediate (hpath _ List.mem_cons_self)
    have htail := ih fun link hlink => hpath link (List.mem_cons_of_mem _ hlink)
    rw [parseHopCount_of_delivered hanswers.hopCount_le hdelivered] at htail
    rw [List.map_cons, List.length_cons, List.range'_succ, htail, ← hhead]
    rfl

theorem Chain.exists_answers (h : Chain headers links) :
    ∀ link ∈ links, ∃ headers, Answers headers link := by
  induction h with
  | nil => exact fun _ hlink => absurd hlink List.not_mem_nil
  | cons hanswers _ _ ih =>
    intro link hlink
    obtain rfl | hlink := List.mem_cons.mp hlink
    · exact ⟨_, hanswers⟩
    · exact ih link hlink

/-- Within the limit, a chain of consecutive stamps is short. -/
theorem Chain.length_le {first : Nat} (h : Chain headers links) (hfirst : 0 < first)
    (hcounts : links.map Link.hopCount = List.range' first links.length) :
    links.length ≤ maxHopCount := by
  by_cases hlen : links.length = 0
  · rw [hlen]
    exact Nat.zero_le _
  · have hlast : first + (links.length - 1) ∈ links.map Link.hopCount := by
      rw [hcounts, List.mem_range'_1]
      omega
    obtain ⟨link, hlink, hcount⟩ := List.mem_map.mp hlast
    obtain ⟨headers, hanswers⟩ := h.exists_answers link hlink
    have hle := hanswers.hopCount_le
    omega

/-- **The loop guard bounds the chains of pongs.** The stamps of a chain of automatic replies
increase, and it ends within the limit, just when no reply after the first is a draft. -/
theorem hops_bounded_iff (h : Chain headers links) :
    ((links.map Link.hopCount).Pairwise (· < ·) ∧ links.length ≤ maxHopCount) ↔
      ∀ link ∈ links.tail, link.path = .immediate := by
  cases h with
  | nil => simp
  | @cons headers received first links hanswers hdelivered hchain =>
    constructor
    · intro ⟨hincreasing, _⟩ link hlink
      cases hpath : link.path with
      | immediate => rfl
      | draft =>
        obtain ⟨headers', hanswers'⟩ := hchain.exists_answers link hlink
        have hone := hanswers'.hopCount_draft hpath
        have hlt := (List.pairwise_cons.mp hincreasing).1 _ (List.mem_map_of_mem hlink)
        have hpos := hanswers.hopCount_pos
        omega
    · intro hpath
      have htail := hchain.hopCounts hpath
      rw [parseHopCount_of_delivered hanswers.hopCount_le hdelivered] at htail
      have hcounts : (first :: links).map Link.hopCount =
          List.range' first.hopCount (first :: links).length := by
        rw [List.map_cons, List.length_cons, List.range'_succ, htail]
        rfl
      refine ⟨?_, (Chain.cons hanswers hdelivered hchain).length_le hanswers.hopCount_pos hcounts⟩
      rw [hcounts]
      exact List.pairwise_lt_range'

/-! ## Two accounts that answer each other -/

def loopHeaders : Fields := [("x-numaeel-hop-count", "1")]

/-- A test email, which a rule answers by a draft that is sent on its own. -/
def loopData : InboundEmailSignalData where
  receivedAt := "2026-03-01T09:00:00.000Z"
  sender := ⟨"bob@b.test", none⟩
  recipientAddress := "ann@a.test"
  subject := "Hello"
  attachments := []
  headers := loopHeaders
  workflow := .test
  workflowData := ⟨.test, false, []⟩
  summary := ""
  s3Key := "mail/1"
  replyTo := none
  urgency := none
  embeddings := []
  matchedRules := [{
    ruleId := "rule-1"
    actions := [⟨.autoDraft, some "\x7b\"templateId\":\"tpl-1\",\"autoSend\":true\x7d"⟩]
    labelsAdded := []
    statusChange := none
    text := none }]

def loopSignal : Signal where
  id := "sgn-1"
  signalLookupId := "mail-1"
  threadId := some "thr-1"
  gsi3pk := none
  accountId := "acct-1"
  status := .active
  labels := some []
  createdAt := "2026-03-01T09:00:00.000Z"
  retentionDuration := none
  data := .inboundEmail loopData

def loopThread : Thread where
  id := "thr-1"
  accountId := "acct-1"
  groupingKey := none
  workflow := .test
  labels := []
  status := .active
  summary := ""
  lastSignalAt := "2026-03-01T09:00:00.000Z"
  createdAt := "2026-03-01T09:00:00.000Z"
  updatedAt := "2026-03-01T09:00:00.000Z"
  retentionDuration := none
  sentMessageIds := none
  urgency := none
  followupAt := none
  sender := ⟨"bob@b.test", none⟩
  recipientAddress := "ann@a.test"
  subject := "Hello"

def loopPayload : SideEffectPayload := ⟨loopSignal, loopThread, true⟩

def loopDomain (domain : String) : Domain where
  accountId := "acct-1"
  domain := domain
  status := .active
  receivingSetupComplete := true
  senderSetupComplete := true
  createdAt := "2026-01-01T00:00:00.000Z"
  updatedAt := "2026-01-01T00:00:00.000Z"

def loopTemplate : EmailTemplate := ⟨"tpl-1", "Thanks", "Re: Hello", "Thank you.", []⟩

def loopEnv : Env where
  answer
    | _, .now => "2026-03-01T09:00:01.000Z"
    | _, .newId => "2"
    | _, .listDomains _ => .ok [loopDomain "a.test", loopDomain "b.test"]
    | _, .getDomainByName _ domain => .ok (some (loopDomain domain))
    | _, .listUsers _ => .ok []
    | _, .getUserEmail _ => .ok none
    | _, .listActiveThreads _ _ => .ok []
    | _, .countVisibleQuarantine _ => .ok 0
    | _, .isRecent _ => false
    | _, .shouldDispatchDigest _ => false
    | _, .getTemplate _ _ => .ok (some loopTemplate)
    | _, .templateFunction .. => .nothing
    | _, .getOriginalEmail .. => .ok ()
  mailService := ⟨"noreply@mail.test", "platform", "mail.test"⟩
  getDomain := fun _ => none

def emptyWorld : World where
  table := ⟨.empty, .empty⟩
  accounts := ⟨.empty, .empty, .empty⟩
  targets := ⟨.empty, .empty, []⟩
  sent := []
  replies := []
  drafts := []
  tick := 0

def loopDraft : Signal :=
  autoDraftSignal "acct-1" "thr-1" "sgn-2" "2026-03-01T09:00:01.000Z" loopData loopTemplate [] true

def loopQueued : DraftSendPayload := ⟨"sgn-2", "acct-1", "thr-1", "2026-03-01T09:00:01.000Z"⟩

def loopMail : DraftMail where
  accountId := "acct-1"
  draft := loopDraft
  data := match loopDraft.data with
    | .outboundEmail data => data
    | _ => ⟨⟨"", none⟩, [], [], [], "", [], [], none, none, none, none, none, none⟩
  threadId := "thr-1"
  inReplyTo := none
  hopCount := none

/-- The run of the side effects without faults, which sends a pong and queues the draft. -/
def loopTrace : List (Cmd × Turn) :=
  ((processSideEffect loopEnv loopPayload 1).run (service loopEnv) [] emptyWorld).trace

theorem calls_loopPayload {n : Nat} (h : loopTrace[n]? = some (c, .request .done)) :
    Calls loopPayload c :=
  ⟨loopEnv, 1, [], emptyWorld, .request .done, List.mem_of_getElem? h⟩

def draftTable : SignalsTable.Store :=
  ⟨KeyedTable.empty.put (SignalsTable.signalItem loopDraft), .empty⟩

theorem workerCalls_loopQueued : WorkerCalls loopQueued (.sendReply loopMail) :=
  ⟨fun _ => false, [], ⟨draftTable, []⟩, .request .done,
    List.mem_of_getElem? (i := 2) (by with_unfolding_all rfl)⟩

def loopLink : Link := ⟨.draft, 1, none, false⟩

def pongLink : Link := ⟨.immediate, 2, none, true⟩

theorem answers_loopLink : Answers loopHeaders loopLink := by
  have hsaved : Calls loopPayload (.db (.putSignal loopDraft)) := calls_loopPayload (n := 9) rfl
  have hqueued : Calls loopPayload (.dispatchDraft loopQueued 300) :=
    calls_loopPayload (n := 10) rfl
  exact @Answers.draft _ loopPayload loopData loopDraft loopMail.data loopQueued 300 loopMail 1
    rfl rfl rfl hsaved hqueued rfl workerCalls_loopQueued rfl rfl rfl

theorem answers_pongLink : Answers loopHeaders pongLink := by
  have hpong : Calls loopPayload (.sendReply (pongMail "acct-1" loopData)) :=
    calls_loopPayload (n := 2) rfl
  exact @Answers.immediate _ loopPayload loopData (pongMail "acct-1" loopData) 2 rfl rfl hpong rfl

theorem delivered_loopLink : Delivered loopLink.headers loopHeaders := by
  have hreceived : received loopLink.headers = loopHeaders := by decide +kernel
  rw [← hreceived]
  exact delivered_received _

/-- A draft then a pong: the second stamp counts on from the first. -/
theorem hops_bounded_draft_pong :
    ([loopLink, pongLink].map Link.hopCount).Pairwise (· < ·) ∧
      [loopLink, pongLink].length ≤ maxHopCount :=
  (hops_bounded_iff (.cons answers_loopLink delivered_loopLink
    (.cons answers_pongLink (delivered_received _) .nil))).mpr (by decide)

/-- The accounts answer each other by drafts for as long as one likes. -/
theorem chain_loopLink (n : Nat) : Chain loopHeaders (List.replicate n loopLink) := by
  induction n with
  | zero => exact .nil
  | succ n ih => exact .cons answers_loopLink delivered_loopLink ih

theorem hops_not_bounded : ¬ ∀ headers links, Chain headers links →
    (links.map Link.hopCount).Pairwise (· < ·) ∧ links.length ≤ maxHopCount := by
  intro hbounded
  have hlength := (hbounded _ _ (chain_loopLink 101)).2
  rw [List.length_replicate] at hlength
  exact absurd hlength (by decide)

end SesEmailAdapter.Processor.AutoReplies
