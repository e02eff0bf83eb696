import SesEmailAdapter.Api.RulesApi
import SesEmailAdapter.Processor.ForcedReplay
import SesEmailAdapter.Processor.IngestThreads

/-! # The actions that deliveries dispatch

Where the matched rules of a dispatched signal come from: the enabled rules of the account, the
policy on unknown senders, and the calendar step, which adds an action of its own. -/

namespace SesEmailAdapter.Processor.RuleActions
open Lib Lib.Prog
open SesEmailAdapter.Types Database Database.Shared
open Database.ThreadDatabase Database.AccountDatabase
open Processor.IngestService Processor.InboundMessage
open Processor.IncomingEmail Processor.RuleOutcome
open Processor.IngestStages Processor.IngestRuns
open Processor.RuleEngine (StoredRule)
open Processor.ForcedReplay (ensures_must)
open Api
open Api.RulesApi (SYSTEM_RULES listRules)

-- No proof below looks inside these, and to unfold them is slow.
seal systemAlias systemDomainOwner parseAddress

/-! ## Evaluated rules -/

/-- The matched rules of a list of evaluated rules, after those before. -/
def applyResults : List (Rule × RuleEvalResult) → List MatchedRuleResult → List MatchedRuleResult
  | [], matchedRules => matchedRules
  | (rule, result) :: evaluations, matchedRules =>
    if ¬ result.matched then applyResults evaluations matchedRules
    else applyResults evaluations (matchedRules ++ (matchedRule matchedRules rule result).toList)

theorem applyResults_cons (e : Rule × RuleEvalResult) (evaluations : List (Rule × RuleEvalResult))
    (matchedRules : List MatchedRuleResult) :
    applyResults (e :: evaluations) matchedRules =
      applyResults evaluations (applyResults [e] matchedRules) := by
  obtain ⟨rule, result⟩ := e
  simp only [applyResults]
  split <;> rfl

/-- The rule matched and has the action, of its own or from its code. -/
def Gives (evaluations : List (Rule × RuleEvalResult)) (type : RuleActionType) : Prop :=
  ∃ e ∈ evaluations, e.2.matched = true ∧ hasAction (e.1.actions ++ e.2.dynamicActions) type = true

variable {signal : Signal} {evaluations : List (Rule × RuleEvalResult)}
  {data : InboundEmailSignalData} {resolved : Resolved} {matchedRules : List MatchedRuleResult}

variable {entry : MatchedRuleResult} {invited : Bool} {senderETLD1 : String}

theorem mem_applyResults
    (h : entry ∈ applyResults evaluations matchedRules) : entry ∈ matchedRules ∨
      ∃ e ∈ evaluations, e.2.matched = true ∧ entry.ruleId = e.1.id ∧
        entry.actions = e.1.actions ++ e.2.dynamicActions := by
  induction evaluations generalizing matchedRules with
  | nil => exact .inl h
  | cons e evaluations ih =>
    obtain ⟨rule, result⟩ := e
    unfold applyResults at h
    split at h
    · obtain h | ⟨e, he, h⟩ := ih h
      · exact .inl h
      · exact .inr ⟨e, List.mem_cons_of_mem _ he, h⟩
    · next hmatched =>
      obtain h | ⟨e, he, h⟩ := ih h
      · obtain h | h := List.mem_append.mp h
        · exact .inl h
        · rw [Option.mem_toList] at h
          unfold matchedRule at h
          dsimp only at h
          split at h
          · cases h
          · cases h
            exact .inr ⟨_, List.mem_cons_self, by simpa using hmatched, rfl, rfl⟩
      · exact .inr ⟨e, List.mem_cons_of_mem _ he, h⟩

theorem subset_applyResults (evaluations : List (Rule × RuleEvalResult))
    (matchedRules : List MatchedRuleResult) (h : entry ∈ matchedRules) :
    entry ∈ applyResults evaluations matchedRules := by
  induction evaluations generalizing matchedRules with
  | nil => exact h
  | cons e evaluations ih =>
    obtain ⟨rule, result⟩ := e
    unfold applyResults
    split
    · exact ih _ h
    · exact ih _ (List.mem_append_left _ h)

/-- A rule that forwards invites does more than to change the status, so it is not left out. -/
theorem matchedRule_forward {rule : Rule} {result : RuleEvalResult}
    (h : hasAction (rule.actions ++ result.dynamicActions) .forwardCalendarInvite = true) :
    ∃ entry, matchedRule matchedRules rule result = some entry ∧
      entry.actions = rule.actions ++ result.dynamicActions := by
  obtain ⟨action, hmem, htype⟩ := List.any_eq_true.mp h
  have hall : ¬ (rule.actions ++ result.dynamicActions).all (fun a => isStatusAction a.type) := by
    intro hstatus
    have haction := List.all_eq_true.mp hstatus action hmem
    rw [of_decide_eq_true htype] at haction
    cases haction
  unfold matchedRule
  dsimp only
  rw [if_neg fun hdropped => hall hdropped.2.2.2]
  exact ⟨_, rfl, rfl⟩

theorem hasForward_applyResults (evaluations : List (Rule × RuleEvalResult))
    (matchedRules : List MatchedRuleResult) :
    hasForwardCalendarInvite (applyResults evaluations matchedRules) = true ↔
      hasForwardCalendarInvite matchedRules = true ∨ Gives evaluations .forwardCalendarInvite := by
  constructor
  · intro h
    obtain ⟨entry, hmem, haction⟩ := List.any_eq_true.mp h
    obtain hmem | ⟨e, he, hmatched, -, hactions⟩ := mem_applyResults hmem
    · exact .inl (List.any_eq_true.mpr ⟨entry, hmem, haction⟩)
    · exact .inr ⟨e, he, hmatched, hactions ▸ haction⟩
  · rintro (h | ⟨e, he, hmatched, haction⟩)
    · obtain ⟨entry, hmem, haction⟩ := List.any_eq_true.mp h
      exact List.any_eq_true.mpr ⟨entry, subset_applyResults _ _ hmem, haction⟩
    · induction evaluations generalizing matchedRules with
      | nil => cases he
      | cons first evaluations ih =>
        obtain ⟨rule, result⟩ := first
        unfold applyResults
        obtain rfl | he := List.mem_cons.mp he
        · rw [if_neg (not_not.mpr hmatched)]
          obtain ⟨entry, hentry, hactions⟩ := @matchedRule_forward matchedRules rule result haction
          rw [hentry]
          refine List.any_eq_true.mpr ⟨entry, subset_applyResults _ _ (by simp), ?_⟩
          rw [hactions]
          exact haction
        · split
          · exact ih _ he
          · exact ih _ he

/-! ## Where matched rules come from -/

/-- The matched rules at the dispatch of a mail, by whether an event of its invites was saved. -/
def withInvite (invited : Bool) (matchedRules : List MatchedRuleResult) : List MatchedRuleResult :=
  if invited && !hasForwardCalendarInvite matchedRules then matchedRules ++ [calendarForwardRule]
  else matchedRules

def SameMail (a b : Signal) : Prop :=
  a.id = b.id ∧ a.accountId = b.accountId ∧ a.signalLookupId = b.signalLookupId

/-- The result is an answer of the rule engine about the rule and the mail. -/
def Evaluated (env : Env) (signal : Signal) (e : Rule × RuleEvalResult) : Prop :=
  ∃ t context, SameMail context.signal signal ∧ env.answer t (.evaluate e.1 context) = e.2

/-- The invites of the mail give an event. -/
def HasEvents (env : Env) (signal : Signal) : Prop :=
  ∃ t extraction, env.answer t (.extractCalendar (attachmentsOf signal)) = .ok (some extraction) ∧
    extraction.validEvents ≠ []

/-- The rules of the account that were enabled when they were listed, each with the result of its
evaluation on the mail, the entries that the policy on unknown senders adds, and whether an event
of the mail's invites was saved. -/
structure Origin (env : Env) (signal : Signal) (evaluations : List (Rule × RuleEvalResult))
    (policy : List MatchedRuleResult) (invited : Bool) : Prop where
  listed : ∃ t, env.answer t (.listEnabledRules signal.accountId) = .ok (evaluations.map Prod.fst)
  evaluated : ∀ e ∈ evaluations, Evaluated env signal e
  statuses : ∀ entry ∈ policy, ∀ action ∈ entry.actions, isStatusAction action.type = true
  events : invited = true → HasEvents env signal
  rules : signal.matchedRules = withInvite invited (applyResults evaluations [] ++ policy)

/-- Mails on a thread, and what was dispatched, carry matched rules that can be traced. A stored
mail does not show yet what the calendar step adds. -/
structure Traced (env : Env) (w : World) : Prop where
  stored : ∀ key item, w.table.signals.get key = some item → ¬ isOwnLookupId key.2 →
    item.signal.threadId.getD "" ≠ "" →
      ∃ evaluations policy, Origin env item.signal evaluations policy false
  dispatched : ∀ payload ∈ w.dispatched, ∃ evaluations policy invited,
    Origin env payload.signal evaluations policy invited

/-- Calls that save no mail on a thread and dispatch nothing. -/
def Harmless : Cmd → Prop
  | .db (.putSignal signal) => isOwnLookupId signal.signalLookupId ∨ signal.threadId.getD "" = ""
  | .db (.putCalendarEvent signal _) => isOwnLookupId signal.signalLookupId
  | .db (.setCalendarEventRsvp ..) => False
  | .db (.updateSendStatus ..) => False
  | .db (.updateSignal ..) => False
  | .sendMessage _ => False
  | _ => True

variable {env : Env} {msg : InboundSignalMessage} {receiveCount : Nat}
  {opts : ProcessInboundOptions} {accountId : String} {w : World} {T : Option Fate → Prop}
  {α : Type}

theorem Traced.saveItem (h : Traced env w)
    (hsignal : ¬ isOwnLookupId signal.signalLookupId → signal.threadId.getD "" ≠ "" →
      ∃ evaluations policy, Origin env signal evaluations policy false) :
    Traced env { w with table := w.table.saveItem signal } := by
  refine ⟨fun key item hget hown hthread => ?_, h.dispatched⟩
  rw [SignalsTable.Store.saveItem, KeyedTable.get_put] at hget
  split at hget
  · next hkey =>
    cases hget
    subst hkey
    exact hsignal hown hthread
  · exact h.stored key item hget hown hthread

theorem traced_saveHarmless (h : Traced env w)
    (hsignal : isOwnLookupId signal.signalLookupId ∨ signal.threadId.getD "" = "") :
    Traced env { w with table := w.table.saveItem signal } :=
  h.saveItem fun hown hthread => (hsignal.elim hown hthread).elim

theorem traced_exec (h : Traced env w) {c : SignalsTable.Cmd} (hc : Harmless (.db c)) :
    Traced env { w with table := (SignalsTable.exec c w.table).2 } := by
  cases c with
  | putSignal signal => exact traced_saveHarmless h hc
  | putCalendarEvent signal respondedAt =>
    simp only [SignalsTable.exec]
    split
    · exact traced_saveHarmless h (.inl hc)
    · exact h
  | putNewThread thread =>
    simp only [SignalsTable.exec]
    split <;> exact ⟨h.stored, h.dispatched⟩
  | setCalendarEventRsvp => exact hc.elim
  | updateSendStatus => exact hc.elim
  | updateSignal => exact hc.elim
  | _ => exact ⟨h.stored, h.dispatched⟩

theorem traced_settle {c : Cmd} (hc : Harmless c) (h : Traced env w) (fate : Fate) :
    Traced env (settle env c w fate).2 := by
  cases c with
  | db c =>
    obtain hsame | hexec :=
      settleRequest_store SignalsTable.exec SignalsTable.failure c w.table fate
    · exact ⟨fun key item hget => h.stored key item (hsame ▸ hget), h.dispatched⟩
    · refine ⟨fun key item hget => ?_, h.dispatched⟩
      exact (traced_exec h hc).stored key item (hexec ▸ hget)
  | sendMessage => exact hc.elim
  | saveResource params now => cases fate <;> exact ⟨h.stored, h.dispatched⟩
  | saveIcsContent => cases fate <;> exact h
  | upsertEmbeddings => cases fate <;> exact h
  | _ => exact ⟨h.stored, h.dispatched⟩

theorem traced_leads {p : IngestProg α} (hp : p.Only Harmless) (h : Traced env w) :
    p.Leads (service env) T (fun _ => Traced env) w :=
  hp.leads (fun _ _ fate hc h => traced_settle hc h fate) h

theorem ensures_traced {x : Step α} (hx : Only Harmless x.run) (h : Traced env w) :
    Ensures (service env) T (fun _ => Traced env) (Traced env) x w :=
  hx.ensures (Traced env) (fun _ _ fate hc h => traced_settle hc h fate) (fun _ h => h) h

/-! ## Parts that save no mail on a thread -/

theorem harmless_ask (e : External) : Harmless (.ask e) := trivial

theorem harmless_attempt (e : Effort) : Harmless (.attempt e) := trivial

theorem harmless_of_quiet {c : Cmd} (h : Quiet msg accountId c) : Harmless c := by
  rcases c with c | _ | _ | _ | _ | _ | _ | _
  case db =>
    cases c
    case putSignal => exact .inl h
    all_goals trivial
  case sendMessage => exact h.elim
  all_goals trivial

theorem harmless_of_stored {stored : Signal} {c : Cmd}
    (h : StoredCall stored c ∧ ∀ payload, c ≠ .sendMessage payload) : Harmless c := by
  rcases c with c | _ | _ | _ | _ | _ | _ | payload
  case db =>
    cases c
    case putSignal => exact .inl h.1
    case putCalendarEvent => exact h.1
    all_goals first
      | trivial
      | exact h.1.elim
  case sendMessage => exact h.2 payload rfl
  all_goals trivial

theorem harmless_unthreaded (h : signal.threadId = none) :
    Harmless (.db (.putSignal signal)) := by
  refine .inr ?_
  rw [h]
  rfl

theorem harmless_reject (h : signal.threadId = none) :
    Only Harmless (reject msg senderETLD1 signal : Step α).run := by
  unfold reject
  refine .bindStop (only_must (only_saveSignal (harmless_unthreaded h))) fun _ => ?_
  refine .bindStop (.lift (only_attempt harmless_attempt _)) fun _ => ?_
  exact .bindStop (.lift (only_countSignal harmless_attempt _)) fun _ => trivial

theorem harmless_quarantine {outcome : ProcessingOutcome} (h : signal.threadId = none) :
    Only Harmless (quarantine msg opts senderETLD1 outcome signal : Step α).run := by
  unfold quarantine notifyQuarantine
  refine .bindStop (only_must (only_saveSignal (harmless_unthreaded h))) fun _ => ?_
  refine .bindStop (.lift ?_) fun _ => ?_
  · split
    · trivial
    · exact only_attempt harmless_attempt _
  refine .bindStop (.lift (only_attempt harmless_attempt _)) fun _ => ?_
  exact .bindStop (.lift (only_countSignal harmless_attempt _)) fun _ => trivial

theorem harmless_accounts (p : AccountsTable.DbProg α) : (accounts p).Only Harmless := by
  refine only_accounts ?_
  induction p with
  | ret => trivial
  | call c k ih => exact ⟨trivial, ih⟩

theorem harmless_resolve (recipientAddress : String) :
    (resolveAccountIdAndAlias env recipientAddress).Only Harmless := by
  unfold resolveAccountIdAndAlias
  refine (harmless_accounts _).bind fun aliasResult => ?_
  split
  · trivial
  · trivial
  · unfold resolveDomainOwner
    exact (harmless_accounts _).bind fun _ => trivial

theorem harmless_receive :
    Only Harmless (receive env msg opts resolved).run := by
  unfold receive
  refine .bindStop ?_ fun _ => ?_
  · unfold blockSpoofed
    split
    · refine .bindStop (.lift (only_generateId harmless_ask _)) fun id => ?_
      refine .bindStop (.lift (only_ask harmless_ask _)) fun now => ?_
      refine .bindStop (only_must (only_saveSignal (harmless_unthreaded rfl))) fun _ => ?_
      exact .bindStop (.lift (only_countSignal harmless_attempt _)) fun _ => trivial
    · trivial
  refine .bindStop (only_must (only_ask harmless_ask _)) fun account => ?_
  refine .bindStop (only_ensureAliasRecord harmless_ask harmless_attempt fun _ _ _ => trivial) ?_
  intro _
  refine .bindStop (only_sanitizeEmail.mono fun _ => harmless_of_quiet) fun sanitized => ?_
  refine .bindStop (only_must (only_getSender.mono fun _ => harmless_of_quiet)) fun sender => ?_
  refine .bindStop ?_ fun _ => trivial
  unfold blockSender
  split
  · trivial
  · refine .bindStop (.lift (only_ask harmless_ask _)) fun now => ?_
    refine .bindStop (.lift (only_generateId harmless_ask _)) fun id => ?_
    exact harmless_reject rfl

theorem harmless_fetchThread (threadId : Option String) :
    (fetchThread accountId threadId).Only Harmless := by
  cases threadId with
  | none => trivial
  | some threadId => exact And.intro trivial fun _ => trivial

theorem harmless_matchThread (recipientAddress : String) (parsed : ParsedMime)
    (groupingKey : Option String) (embedding : List Int) :
    (matchThread accountId recipientAddress parsed groupingKey embedding).Only Harmless := by
  unfold matchThread
  refine .bind ?_ fun _ => .bind ?_ fun _ => .bind ?_ fun _ => trivial
  · unfold matchGroupingKey
    split
    · trivial
    · exact And.intro trivial fun _ => trivial
  · unfold matchInReplyTo
    split
    · trivial
    · exact And.intro trivial fun _ => harmless_fetchThread _
  · exact And.intro trivial fun _ => harmless_fetchThread _

variable {policy : List MatchedRuleResult} {received : Received}

theorem harmless_place :
    Only Harmless (place env msg opts resolved received).run := by
  unfold IncomingEmail.place
  refine .bindStop (.lift ((only_classifyEmail _ _).mono fun _ => harmless_of_quiet)) ?_
  intro classified
  refine .bindStop (only_must (only_ask harmless_ask _)) fun embedding => ?_
  refine .bindStop (.lift (only_ask harmless_ask _)) fun now => ?_
  refine .bindStop (.lift (harmless_matchThread _ _ _ _)) fun matchedThread => ?_
  refine .bindStop (.lift ?_) fun signalId => ?_
  · exact only_inboundSignalId.mono fun _ => @harmless_of_quiet msg "" _
  refine .bindStop (.lift ?_) fun _ => trivial
  unfold threadShell
  split
  · trivial
  · exact (only_ask harmless_ask _).bind fun _ => trivial

theorem harmless_applyDisposition {args : SignalArgs} {decision : Decision} :
    Only Harmless (applyDisposition msg opts senderETLD1 args decision).run := by
  have hid : Only Harmless (liftM (inboundSignalId opts) : Step String).run :=
    .lift (only_inboundSignalId.mono fun _ => @harmless_of_quiet msg "" _)
  unfold applyDisposition
  split
  · exact hid.bindStop fun id => harmless_reject rfl
  · split
    · exact hid.bindStop fun id => harmless_quarantine rfl
    · trivial

theorem harmless_saveThread (matchedThread : Option Thread) (thread : Thread) :
    Only Harmless (saveThread accountId matchedThread thread).run := by
  unfold saveThread
  split
  · refine .bindStop (.lift (only_ask harmless_ask _)) fun now => only_must (only_db ?_)
    exact And.intro trivial fun _ => trivial
  · refine .bindStop (.lift (only_db ?_)) fun result => ?_
    · refine And.intro trivial fun put => ?_
      change Except SignalsTable.WriteError Unit at put
      rcases put with (_ | error) | u
      · refine And.intro trivial fun existing => ?_
        change Except DbError (Option Thread) at existing
        rcases existing with error | _ | existing
        · trivial
        · trivial
        · change Prog.Only _ (if _ then _ else _)
          split <;> trivial
      · trivial
      · trivial
    · split <;> trivial

/-! ## Rules -/

theorem traced_noteWarnings (h : Traced env w) (rule : Rule) (threadId : String)
    (warnings : List String) :
    (noteWarnings rule threadId warnings).Leads (service env) T (fun _ => Traced env) w :=
  traced_leads (only_noteWarnings harmless_ask (fun _ hown => .inl hown) _ _ _) h

/-- The rules after a rule start from what its result has made of the matched rules. -/
theorem applyRule_leads {Q : Option (List MatchedRuleResult × Thread) → World → Prop} (rule : Rule)
    (result : RuleEvalResult) (matchedRules : List MatchedRuleResult) (thread : Thread)
    (rest : Thread → List MatchedRuleResult → IngestProg (List MatchedRuleResult × Thread))
    (h : Traced env w) (hcrash : ∀ w, Traced env w → Q none w)
    (hrest : ∀ thread w, Traced env w →
      (rest thread (applyResults [(rule, result)] matchedRules)).Leads (service env) T Q w) :
    Leads (service env) T Q
      (if ¬ result.matched then rest thread matchedRules
      else noteWarnings rule thread.id result.warnings >>= fun _ =>
        match matchedRule matchedRules rule result with
        | none => rest thread matchedRules
        | some entry =>
          rest { thread with workflow := (assignedWorkflow entry.actions).getD thread.workflow }
            (matchedRules ++ [entry])) w := by
  unfold applyResults at hrest
  split
  case isTrue hmatched =>
    rw [if_pos hmatched] at hrest
    exact hrest thread w h
  case isFalse hmatched =>
    rw [if_neg hmatched] at hrest
    refine Leads.bind ((traced_noteWarnings h rule thread.id result.warnings).mono ?_)
    intro r w1 h1
    match r with
    | none => exact hcrash w1 h1
    | some () =>
      show Leads (service env) T Q (match matchedRule matchedRules rule result with
        | none => _
        | some entry => _) w1
      cases hentry : matchedRule matchedRules rule result with
      | none =>
        rw [hentry, Option.toList_none, List.append_nil] at hrest
        exact hrest thread w1 h1
      | some entry =>
        rw [hentry] at hrest
        exact hrest _ w1 h1

/-- The matched rules are those of the rules' results on the mail. -/
theorem applyRules_leads (signal : Signal) (isMatchedThread : Bool) (rules : List Rule)
    (thread : Thread) (matchedRules : List MatchedRuleResult) (h : Traced env w) :
    (applyRules signal isMatchedThread rules thread matchedRules).Leads (service env) T
      (fun r w' => Traced env w' ∧ ∀ result, r = some result → ∃ evaluations,
        evaluations.map Prod.fst = rules ∧ (∀ e ∈ evaluations, Evaluated env signal e) ∧
          result.1 = applyResults evaluations matchedRules) w := by
  induction rules generalizing thread matchedRules w with
  | nil =>
    refine ⟨⟨h, fun result hresult => ⟨[], rfl, fun _ he => (by cases he), ?_⟩⟩,
      fun _ => ⟨h, fun _ hresult => by cases hresult⟩⟩
    rw [← Option.some.inj hresult]
    rfl
  | cons rule rules ih =>
    refine ⟨fun _ => ⟨h, fun _ hresult => by cases hresult⟩, fun fate _ => ?_⟩
    refine applyRule_leads rule
      (env.answer w.tick (.evaluate rule ⟨signal, thread, isMatchedThread⟩)) matchedRules thread
      (applyRules signal isMatchedThread rules) ⟨h.stored, h.dispatched⟩
      (fun w h => ⟨h, fun _ hresult => by cases hresult⟩) fun _ w1 h1 => ?_
    refine (ih _ _ h1).mono fun r w2 ⟨h2, hr⟩ => ⟨h2, fun found hfound => ?_⟩
    obtain ⟨evaluations, hrules, hothers, hfound⟩ := hr found hfound
    refine ⟨(rule, env.answer w.tick (.evaluate rule ⟨signal, thread, isMatchedThread⟩)) ::
      evaluations, congrArg (rule :: ·) hrules, fun e he => ?_, ?_⟩
    · obtain rfl | he := List.mem_cons.mp he
      · exact ⟨w.tick, ⟨signal, thread, isMatchedThread⟩, ⟨rfl, rfl, rfl⟩, rfl⟩
      · exact hothers e he
    · rw [hfound, ← applyResults_cons]

theorem ensures_applyRules (signal : Signal) (isMatchedThread : Bool) (rules : List Rule)
    (thread : Thread) (h : Traced env w) :
    Ensures (service env) T
      (fun result w' => Traced env w' ∧ ∃ evaluations, evaluations.map Prod.fst = rules ∧
        (∀ e ∈ evaluations, Evaluated env signal e) ∧ result.1 = applyResults evaluations [])
      (Traced env)
      (liftM (applyRules signal isMatchedThread rules thread []) :
        Step (List MatchedRuleResult × Thread)) w :=
  ensures_lift ((applyRules_leads signal isMatchedThread rules thread [] h).mono
    fun r _ hr => match r with
      | none => hr.1
      | some result => ⟨hr.1, hr.2 result rfl⟩)

theorem applyFilterMode_status {outcome : ProcessingOutcome} {filterMode : UnknownSenderPolicy}
    {action : RuleActionType × StatusChange}
    (h : (applyFilterMode outcome filterMode).2 = some action) :
    isStatusAction action.1 = true := by
  cases filterMode <;> cases h <;> rfl

/-- The policy on unknown senders adds entries that only change the status. -/
theorem decideOutcome_matchedRules (resolved : Resolved) (recipientAddress senderETLD1 : String)
    (filterMode : UnknownSenderPolicy) (labels : List String)
    (matchedRules : List MatchedRuleResult) : ∃ policy,
      (decideOutcome opts resolved recipientAddress senderETLD1 filterMode labels
        matchedRules).matchedRules = matchedRules ++ policy ∧
      ∀ entry ∈ policy, ∀ action ∈ entry.actions, isStatusAction action.type = true := by
  have hnone : ∃ policy, matchedRules = matchedRules ++ policy ∧
      ∀ entry ∈ policy, ∀ action ∈ entry.actions, isStatusAction action.type = true :=
    ⟨[], by simp, by simp⟩
  unfold decideOutcome
  dsimp only
  generalize (if opts.skipAllMatchedRuleStatusActions then _ else _ : ProcessingOutcome) = outcome
  split
  · split
    case h_1 => exact hnone
    case h_2 outcome' action happly =>
      refine ⟨_, rfl, ?_⟩
      have hstatus := applyFilterMode_status (congrArg Prod.snd happly)
      simpa [unknownSenderRule] using hstatus
  · exact hnone

theorem withFinalWorkflow_email (matchedRules : List MatchedRuleResult) (signal : Signal)
    (h : signal.data = .inboundEmail data) : ∃ final,
      withFinalWorkflow matchedRules signal = { signal with data := .inboundEmail final } ∧
        final.attachments = data.attachments := by
  obtain ⟨_, _, _, _, _, _, _, _, _, _⟩ := signal
  cases h
  unfold withFinalWorkflow
  split
  · exact ⟨data, rfl, rfl⟩
  · exact ⟨_, rfl, rfl⟩

theorem ensures_traced_with {P : α → Prop} {q : Stage} {x : Step α} (hx : Only Harmless x.run)
    (hP : Follows (monitor env msg) (fun _ a => P a) (fun _ _ => True) q x) (h : Traced env w) :
    Ensures (service env) T (fun a w' => Traced env w' ∧ P a) (Traced env) x w := by
  have hfollows : x.run.Leads (service env) T _ w :=
    Obeys.leads (fun _ _ => True) (fun _ _ _ _ _ _ => trivial) hP trivial
  refine (Leads.and (ensures_traced hx h) hfollows).mono ?_
  rintro (_ | error | a) w' ⟨htraced, q', -, hends⟩
  · exact htraced
  · exact htraced
  · exact ⟨htraced, hends _ rfl⟩

theorem ensures_place (h : Traced env w) :
    Ensures (service env) T
      (fun placed w' => Traced env w' ∧ placed.args.accountId = resolved.accountId)
      (Traced env) (place env msg opts resolved received) w := by
  have hfollows := @follows_place env msg 0 opts [] resolved received
  refine ensures_traced_with harmless_place (hfollows.mono ?_ fun _ _ _ => trivial) h
  rintro _ placed ⟨_, -, hplaced⟩
  exact hplaced.account

/-- What the rules leave: a mail whose matched rules can be traced, and its invites. -/
structure Judged (env : Env) (accepted : Accepted) : Prop where
  email : ∃ data, accepted.signal.data = .inboundEmail data
  origin : ∃ evaluations policy, Origin env accepted.signal evaluations policy false
  calendar : ∃ t, env.answer t (.extractCalendar (attachmentsOf accepted.signal)) =
    .ok accepted.calendar

theorem ensures_listEnabledRules (h : Traced env w) :
    Ensures (service env) T (fun rules w' => Traced env w' ∧
        ∃ t, env.answer t (.listEnabledRules accountId) = .ok rules)
      (Traced env) (must (ask (.listEnabledRules accountId))) w := by
  have hnext : Traced env { w with tick := w.tick + 1 } := ⟨h.stored, h.dispatched⟩
  refine ensures_must ⟨fun _ => h, fun fate _ => ?_⟩
  show Leads _ _ _ (.ret (env.answer w.tick (.listEnabledRules accountId))) _
  cases hanswer : env.answer w.tick (.listEnabledRules accountId) with
  | error error => exact ⟨hnext, fun _ => hnext⟩
  | ok rules => exact ⟨⟨hnext, _, hanswer⟩, fun _ => hnext⟩

theorem ensures_extractCalendar (attachments : List Attachment) (h : Traced env w) :
    Ensures (service env) T (fun calendar w' => Traced env w' ∧
        ∃ t, env.answer t (.extractCalendar attachments) = .ok calendar)
      (Traced env) (must (ask (.extractCalendar attachments))) w := by
  have hnext : Traced env { w with tick := w.tick + 1 } := ⟨h.stored, h.dispatched⟩
  refine ensures_must ⟨fun _ => h, fun fate _ => ?_⟩
  show Leads _ _ _ (.ret (env.answer w.tick (.extractCalendar attachments))) _
  cases hanswer : env.answer w.tick (.extractCalendar attachments) with
  | error error => exact ⟨hnext, fun _ => hnext⟩
  | ok calendar => exact ⟨⟨hnext, _, hanswer⟩, fun _ => hnext⟩

theorem ensures_judge {placed : Placed}
    (haccount : placed.args.accountId = resolved.accountId) (h : Traced env w) :
    Ensures (service env) T (fun accepted w' => Traced env w' ∧ Judged env accepted) (Traced env)
      (judge msg opts resolved received placed) w := by
  unfold judge
  split
  · refine ensures_bind (ensures_traced (.lift (only_generateId harmless_ask _)) h) ?_
    intro id w1 h1
    refine (ensures_traced_with (P := fun _ => False) (harmless_reject rfl)
      ((@follows_reject env msg 0 resolved.accountId [] _ _ _ _ ⟨haccount, rfl⟩ rfl).mono
        (fun _ _ h => h) fun _ _ _ => trivial) h1).mono ?_
    exact fun _ _ h => h.2.elim
  · dsimp only
    refine ensures_bind (ensures_listEnabledRules h) ?_
    intro rules w1 ⟨h1, t, hlisted⟩
    refine ensures_bind (ensures_applyRules _ _ _ _ h1) ?_
    rintro ⟨matchedRules, thread⟩ w2 ⟨h2, evaluations, hrules, hevaluated, hmatched⟩
    dsimp only
    refine ensures_bind (ensures_traced harmless_applyDisposition h2) ?_
    intro _ w3 h3
    refine ensures_bind (ensures_traced
      (only_autoApprove.mono fun _ => @harmless_of_quiet msg _ _) h3) ?_
    intro _ w4 h4
    refine ensures_bind (ensures_extractCalendar _ h4) ?_
    intro calendar w5 ⟨h5, hcalendar⟩
    refine ensures_bind (ensures_traced (.lift (only_ask harmless_ask _)) h5) ?_
    intro secondary w6 h6
    refine ensures_pure ⟨h6, ?_⟩ h6
    obtain ⟨data, hfinal, hattachments⟩ := withFinalWorkflow_email matchedRules
      (buildSignal msg placed.args (some placed.thread.id) placed.signalId) rfl
    obtain ⟨policy, hpolicy, hstatuses⟩ := @decideOutcome_matchedRules opts resolved
      msg.primaryRecipient received.senderETLD1 placed.filterMode thread.labels matchedRules
    rw [hfinal]
    refine ⟨⟨_, rfl⟩, ⟨evaluations, policy, ⟨t, ?_⟩, hevaluated, hstatuses, nofun, ?_⟩, ?_⟩
    · rw [hrules, ← hlisted, ← haccount]
      rfl
    · rw [← hmatched, ← hpolicy]
      rfl
    · obtain ⟨t, hcalendar⟩ := hcalendar
      refine ⟨t, ?_⟩
      rw [← hcalendar]
      exact congrArg (fun attachments => env.answer t (.extractCalendar attachments)) hattachments

/-! ## Calendar events -/

/-- The mail at its dispatch, by whether an event of its invites was saved. -/
def invite (invited : Bool) (signal : Signal) : Signal :=
  if invited then withCalendarForward signal else signal

theorem withCalendarForward_eq (signal : Signal) :
    withCalendarForward signal = withMatchedRules (withInvite true signal.matchedRules) signal := by
  unfold withCalendarForward withInvite
  split
  case isTrue hforward =>
    rw [hforward]
    obtain ⟨_, _, _, _, _, _, _, _, _, data⟩ := signal
    cases data <;> rfl
  case isFalse hforward =>
    rw [Bool.eq_false_iff.mpr hforward]
    rfl

theorem hasForward_withInvite (matchedRules : List MatchedRuleResult) :
    hasForwardCalendarInvite (withInvite true matchedRules) = true := by
  unfold withInvite
  cases hforward : hasForwardCalendarInvite matchedRules with
  | false => exact hasForward_append matchedRules
  | true => exact hforward

theorem email_withMatchedRules
    (h : signal.data = .inboundEmail data) (matchedRules : List MatchedRuleResult) :
    (withMatchedRules matchedRules signal).data =
      .inboundEmail { data with matchedRules := matchedRules } := by
  unfold withMatchedRules mapData
  rw [h]

/-- The action is added once, however many events there are. -/
theorem withCalendarForward_twice (h : signal.data = .inboundEmail data) :
    withCalendarForward (withCalendarForward signal) = withCalendarForward signal := by
  refine if_pos ?_
  rw [withCalendarForward_eq, Signal.matchedRules, email_withMatchedRules h]
  exact hasForward_withInvite _

theorem Origin.invite
    (h : Origin env signal evaluations policy false) (hemail : signal.data = .inboundEmail data)
    (hevents : invited = true → HasEvents env signal) :
    Origin env (RuleActions.invite invited signal) evaluations policy invited := by
  cases invited with
  | false => exact h
  | true =>
    rw [RuleActions.invite, if_pos rfl, withCalendarForward_eq]
    have hemailed := email_withMatchedRules hemail (withInvite true signal.matchedRules)
    refine ⟨h.listed, h.evaluated, h.statuses, fun _ => ?_, ?_⟩
    · obtain ⟨t, extraction, hanswer, hvalid⟩ := hevents rfl
      refine ⟨t, extraction, ?_, hvalid⟩
      rw [← hanswer, attachmentsOf, hemailed, attachmentsOf, hemail]
    · rw [Signal.matchedRules, hemailed, h.rules]
      rfl

theorem ensures_saveCalendarEvents (threadId : String) (events : List ExtractedEvent)
    (hemail : signal.data = .inboundEmail data) (h : Traced env w) :
    Ensures (service env) T
      (fun result w' => Traced env w' ∧ ∃ invited, (invited = true → events ≠ []) ∧
        result = invite invited signal)
      (Traced env) (saveCalendarEvents threadId events signal) w := by
  induction events generalizing signal data w with
  | nil => exact ensures_pure ⟨h, false, nofun, rfl⟩ h
  | cons event events ih =>
    have hstored {c : Cmd} : (StoredCall signal c ∧ ∀ payload, c ≠ .sendMessage payload) →
        Harmless c := harmless_of_stored
    unfold saveCalendarEvents
    refine ensures_bind (ensures_traced (.lift (only_generateId harmless_ask _)) h) ?_
    intro id w1 h1
    refine ensures_bind (ensures_traced (.lift (only_ask harmless_ask _)) h1) ?_
    intro now w2 h2
    refine ensures_bind (ensures_traced (only_must (And.intro trivial fun _ => trivial)) h2) ?_
    intro _ w3 h3
    refine ensures_bind (ensures_traced (.lift ?_) h3) ?_
    · refine Prog.Only.mono (only_saveCalendarEventSignal ?_) fun _ => hstored
      exact own_calendar _ _ _
    intro saved w4 h4
    split
    · refine (ih hemail h4).mono fun result w' ⟨htraced, invited, _, hresult⟩ => ?_
      exact ⟨htraced, invited, fun _ => List.cons_ne_nil _ _, hresult⟩
    · refine ensures_bind (ensures_traced (.lift (only_attempt harmless_attempt _)) h4) ?_
      intro _ w5 h5
      have hforward : (withCalendarForward signal).data = _ :=
        (congrArg Signal.data (withCalendarForward_eq signal)).trans
          (email_withMatchedRules hemail _)
      refine (ih hforward h5).mono ?_
      rintro result w' ⟨htraced, invited, -, hresult⟩
      refine ⟨htraced, true, fun _ => List.cons_ne_nil _ _, hresult.trans ?_⟩
      cases invited with
      | false => rfl
      | true => exact withCalendarForward_twice hemail

/-! ## A delivery -/

theorem Traced.dispatch (h : Traced env w) {payload : SideEffectPayload}
    (hpayload : ∃ evaluations policy invited,
      Origin env payload.signal evaluations policy invited) :
    Traced env { w with dispatched := payload :: w.dispatched } :=
  ⟨h.stored, List.forall_mem_cons.mpr ⟨hpayload, h.dispatched⟩⟩

theorem dispatchSideEffects_leads (h : Traced env w) (thread : Thread) (skipNotify : Bool)
    (hsignal : ∃ evaluations policy invited, Origin env signal evaluations policy invited) :
    (dispatchSideEffects signal thread skipNotify).Leads (service env) T (fun _ => Traced env)
      w := by
  refine ⟨fun _ => h, fun fate _ => ?_⟩
  cases fate with
  | done => exact ⟨h.dispatch hsignal, fun _ => h.dispatch hsignal⟩
  | refused => exact ⟨h, fun _ => h⟩
  | lost => exact ⟨h.dispatch hsignal, fun _ => h.dispatch hsignal⟩

theorem harmless_attemptS3Retention (signal : Signal) (billingPlan : BillingPlan) :
    (attemptS3Retention signal billingPlan).Only Harmless := by
  unfold attemptS3Retention
  split
  · split
    · trivial
    · exact only_attempt harmless_attempt _
  · trivial

theorem ensures_must_traced {p : IngestProg (Except DbError α)}
    (hp : p.Leads (service env) T (fun _ => Traced env) w) :
    Ensures (service env) T (fun _ => Traced env) (Traced env) (must p) w :=
  ensures_must (hp.mono fun r _ h => match r with
    | none => h
    | some (.error _) => h
    | some (.ok _) => h)

theorem ensures_store {placed : Placed}
    {accepted : Accepted} (haccepted : Judged env accepted) (h : Traced env w) :
    Ensures (service env) T
      (fun converged w' => Traced env w' ∧ ∃ evaluations policy invited,
        Origin env converged.signal evaluations policy invited)
      (Traced env) (store msg resolved received placed accepted) w := by
  obtain ⟨data, hemail⟩ := haccepted.email
  obtain ⟨evaluations, policy, horigin⟩ := haccepted.origin
  obtain ⟨t, hcalendar⟩ := haccepted.calendar
  unfold store
  refine ensures_bind (ensures_traced (harmless_saveThread _ _) h) ?_
  intro _ w1 h1
  have hsaved : Traced env { w1 with table := w1.table.saveItem accepted.signal } :=
    h1.saveItem fun _ _ => ⟨evaluations, policy, horigin⟩
  refine ensures_bind (P := fun _ => Traced env) (ensures_must ⟨fun _ => h1, fun fate _ => ?_⟩) ?_
  · cases fate with
    | done => exact ⟨hsaved, fun _ => hsaved⟩
    | refused => exact ⟨h1, fun _ => h1⟩
    | lost => exact ⟨hsaved, fun _ => hsaved⟩
  intro _ w2 h2
  refine ensures_bind (ensures_traced (.lift ?_) h2) ?_
  · exact (@only_saveResourceOf accepted.signal _ _ _).mono fun _ => harmless_of_stored
  intro _ w3 h3
  refine ensures_bind (ensures_traced (.lift (only_countSignal harmless_attempt _)) h3) ?_
  intro _ w4 h4
  refine ensures_bind (P := fun signal w' => Traced env w' ∧ ∃ evaluations policy invited,
    Origin env signal evaluations policy invited) ?_ ?_
  · unfold processCalendarAttachment
    split
    · exact ensures_pure ⟨h4, evaluations, policy, false, horigin⟩ h4
    · next extraction heq =>
      refine ensures_bind (ensures_traced (.lift ?_) h4) ?_
      · exact (@only_saveInvalidInvites accepted.signal _ _ _).mono fun _ => harmless_of_stored
      intro _ w5 h5
      refine (ensures_saveCalendarEvents _ _ hemail h5).mono ?_
      rintro signal w' ⟨htraced, invited, hevents, rfl⟩
      refine ⟨htraced, evaluations, policy, invited, horigin.invite hemail fun hinvited => ?_⟩
      exact ⟨t, extraction, hcalendar.trans (congrArg Except.ok heq), hevents hinvited⟩
  · rintro signal w5 ⟨h5, hsignal⟩
    exact ensures_pure ⟨h5, hsignal⟩ h5

theorem ensures_converge {converged : Converged}
    (hconverged : ∃ evaluations policy invited,
      Origin env converged.signal evaluations policy invited) (h : Traced env w) :
    Ensures (service env) T (fun _ => Traced env) (Traced env) (converge opts converged) w := by
  unfold converge orElse
  refine ensures_bind (ensures_traced (.lift (harmless_attemptS3Retention _ _)) h) ?_
  intro _ w1 h1
  have hupsert : (executeAuroraUpserts converged.signal converged.thread).Only Harmless :=
    And.intro trivial fun _ => trivial
  refine ensures_bind (ensures_traced (only_must (hupsert.map _)) h1) ?_
  intro _ w2 h2
  exact ensures_must_traced (Leads.map (dispatchSideEffects_leads h2 _ _ hconverged))

theorem Origin.readSignal
    (h : Origin env signal evaluations policy invited) (stale : String → Bool) :
    Origin env (readSignal stale signal) evaluations policy invited := by
  have hdata := readSignal_data stale signal
  have hsame : SameMail signal (ThreadDatabase.readSignal stale signal) := by
    unfold ThreadDatabase.readSignal coerceStaleStatus
    repeat' split
    all_goals exact ⟨rfl, rfl, rfl⟩
  refine ⟨hsame.2.1 ▸ h.listed, fun e he => ?_, h.statuses, fun hinvited => ?_, ?_⟩
  · obtain ⟨t, context, hmail, hanswer⟩ := h.evaluated e he
    refine ⟨t, context, ⟨hmail.1.trans hsame.1, hmail.2.1.trans hsame.2.1, ?_⟩, hanswer⟩
    exact hmail.2.2.trans hsame.2.2
  · rw [HasEvents, attachmentsOf, hdata]
    exact h.events hinvited
  · rw [Signal.matchedRules, hdata]
    exact h.rules

theorem ensures_resume {existing : Signal} {skipNotify : Bool}
    (hexisting : existing.threadId.getD "" ≠ "" → ∃ evaluations policy invited,
      Origin env existing evaluations policy invited) (h : Traced env w) :
    Ensures (service env) T (fun _ => Traced env) (Traced env)
      (resume accountId existing skipNotify) w := by
  unfold resume
  dsimp only
  split
  case isTrue => exact ensures_throw h
  case isFalse hthread =>
    refine ensures_bind (ensures_traced (only_must (And.intro trivial fun _ => trivial)) h) ?_
    intro found w1 h1
    split
    · exact ensures_throw h1
    refine ensures_bind (ensures_traced (only_must (only_ask harmless_ask _)) h1) ?_
    intro account w2 h2
    refine ensures_bind (ensures_traced (.lift (harmless_attemptS3Retention _ _)) h2) ?_
    intro _ w3 h3
    refine ensures_bind (ensures_traced (only_must (And.intro trivial fun _ => trivial)) h3) ?_
    intro _ w4 h4
    exact ensures_must_traced (dispatchSideEffects_leads h4 _ _ (hexisting hthread))

/-- A retry dispatches the mail as it is stored, without what the calendar step had added. -/
theorem ensures_lookup (h : Traced env w) :
    Ensures (service env) T (fun _ => Traced env) (Traced env)
      (lookup env msg receiveCount opts accountId) w := by
  unfold lookup
  split
  · exact ensures_pure h h
  refine ensures_bind (P := fun found w' => Traced env w' ∧ ∀ existing, found = some existing →
    existing.threadId.getD "" ≠ "" → ∃ evaluations policy invited,
      Origin env existing evaluations policy invited)
    (ensures_must ⟨fun _ => h, fun fate _ => ?_⟩) ?_
  · cases fate with
    | done =>
      refine ⟨⟨h, fun existing hexisting hthread => ?_⟩, fun _ => h⟩
      change Option.map (readSignal env.stale) ((w.table.signals.get _).map _) = _ at hexisting
      obtain ⟨signal, hsignal, rfl⟩ := Option.map_eq_some_iff.mp hexisting
      obtain ⟨item, hitem, rfl⟩ := Option.map_eq_some_iff.mp hsignal
      rw [readSignal_threadId] at hthread
      obtain ⟨evaluations, policy, horigin⟩ := h.stored _ item hitem msg.hasSource hthread
      exact ⟨evaluations, policy, false, horigin.readSignal env.stale⟩
    | refused => exact ⟨h, fun _ => h⟩
    | lost => exact ⟨h, fun _ => h⟩
  · rintro found w1 ⟨h1, hfound⟩
    split
    · exact ensures_pure h1 h1
    · next existing =>
      split
      · refine ensures_bind (ensures_resume (hfound existing rfl) h1) ?_
        exact fun _ w2 h2 => ensures_throw h2
      · exact ensures_throw h1

/-- A delivery dispatches only mails whose matched rules can be traced. -/
theorem processInbound_traced (h : Traced env w) :
    (processInbound env msg receiveCount opts).Leads (service env) T (fun _ => Traced env) w := by
  have hprocess : Ensures (service env) T (fun _ => Traced env) (Traced env)
      (process env msg receiveCount opts) w := by
    unfold process accept
    refine ensures_bind (P := fun converged w' => Traced env w' ∧ ∃ evaluations policy invited,
      Origin env converged.signal evaluations policy invited) ?_ ?_
    · refine ensures_bind (ensures_traced (only_must (harmless_resolve _)) h) ?_
      intro resolution w1 h1
      split
      · exact ensures_throw h1
      · next resolved =>
        refine ensures_bind (ensures_lookup h1) ?_
        intro _ w2 h2
        refine ensures_bind (ensures_traced harmless_receive h2) ?_
        intro received w3 h3
        refine ensures_bind (ensures_place h3) ?_
        intro placed w4 ⟨h4, haccount⟩
        refine ensures_bind (ensures_judge haccount h4) ?_
        intro accepted w5 ⟨h5, haccepted⟩
        exact ensures_store haccepted h5
    · intro converged w1 ⟨h1, hconverged⟩
      exact ensures_converge hconverged h1
  refine Leads.map (Leads.mono hprocess fun r _ h => ?_)
  match r with
  | none => exact h
  | some (.error _) => exact h
  | some (.ok _) => exact h

/-! ## Deliveries -/

structure Delivery where
  msg : InboundSignalMessage
  receiveCount : Nat
  opts : ProcessInboundOptions
  faults : Faults Fate

def deliver (env : Env) (w : World) (d : Delivery) : World :=
  ((processInbound env d.msg d.receiveCount d.opts).run (service env) d.faults w).store

/-- A world without mails, with nothing dispatched. -/
def World.emptied (w : World) : World :=
  { w with table := { w.table with signals := .empty }, dispatched := [] }

theorem traced_emptied (env : Env) (w : World) : Traced env (World.emptied w) where
  stored _ _ hget := by
    rw [World.emptied, KeyedTable.get_empty] at hget
    cases hget
  dispatched _ h := by cases h

theorem deliveries_traced (deliveries : List Delivery) (h : Traced env w) :
    Traced env (deliveries.foldl (deliver env) w) := by
  induction deliveries generalizing w with
  | nil => exact h
  | cons d deliveries ih =>
    refine ih (Leads.run (T := fun _ => True) (processInbound_traced h) trivial d.faults ?_)
    exact fun _ _ => trivial

/-! ## Enabled rules -/

/-- `accountDb.listEnabledRules`; the account of the system has no overrides. -/
def listEnabledRules (s : RulesApi.Store) (accountId : String) : List StoredRule :=
  (if isSystemAccount accountId then SYSTEM_RULES else listRules s accountId).filter
    fun rule => rule.status = .enabled

/-- The rules are listed from the rows of the tick, where the request does not fail. -/
def listing (env : Env) (rulesAt : Nat → RulesApi.Store) (fails : Nat → Bool) : Env :=
  { env with
    answer := fun t e => match e with
      | .listEnabledRules accountId =>
        if fails t then .error SignalsTable.requestFailed
        else .ok ((listEnabledRules (rulesAt t) accountId).map StoredRule.toRule)
      | e => env.answer t e }

/-- Every action that is left to carry out is one of an enabled rule that matched the mail. -/
def Justified (s : RulesApi.Store) (evaluations : List (Rule × RuleEvalResult)) (signal : Signal) :
    Prop :=
  ∀ entry ∈ signal.matchedRules, ∀ action ∈ entry.actions, isStatusAction action.type = false →
    ∃ rule ∈ listEnabledRules s signal.accountId, ∃ result, (rule.toRule, result) ∈ evaluations ∧
      result.matched = true ∧ action ∈ rule.actions ++ result.dynamicActions

theorem mem_withInvite (h : entry ∈ withInvite invited matchedRules) :
    entry ∈ matchedRules ∨ (entry = calendarForwardRule ∧ invited = true ∧
      hasForwardCalendarInvite matchedRules = false) := by
  unfold withInvite at h
  split at h
  case isTrue hadded =>
    obtain h | h := List.mem_append.mp h
    · exact .inl h
    · exact .inr ⟨List.mem_singleton.mp h, by simpa using hadded⟩
  case isFalse => exact .inl h

/-- **Justified actions.** Only the action of the calendar step can be without a rule. -/
theorem Origin.justified_iff {s : RulesApi.Store}
    (h : Origin env signal evaluations policy invited) (hlisted : evaluations.map Prod.fst =
      (listEnabledRules s signal.accountId).map StoredRule.toRule) :
    Justified s evaluations signal ↔
      (invited = true → Gives evaluations .forwardCalendarInvite) := by
  have hrule (e : Rule × RuleEvalResult) (he : e ∈ evaluations) :
      ∃ rule ∈ listEnabledRules s signal.accountId, rule.toRule = e.1 := by
    have hmem : e.1 ∈ evaluations.map Prod.fst := List.mem_map_of_mem he
    rw [hlisted] at hmem
    exact List.mem_map.mp hmem
  constructor
  · intro hjustified hinvited
    cases hforward : hasForwardCalendarInvite (applyResults evaluations [] ++ policy) with
    | true =>
      obtain ⟨entry, hentry, haction⟩ := List.any_eq_true.mp hforward
      obtain hentry | hentry := List.mem_append.mp hentry
      · have happlied : hasForwardCalendarInvite (applyResults evaluations []) = true :=
          List.any_eq_true.mpr ⟨entry, hentry, haction⟩
        exact ((hasForward_applyResults evaluations []).mp happlied).resolve_left (by
          simp [hasForwardCalendarInvite])
      · obtain ⟨action, hmem, htype⟩ := List.any_eq_true.mp haction
        have hstatus := h.statuses entry hentry action hmem
        rw [of_decide_eq_true htype] at hstatus
        cases hstatus
    | false =>
      have hentry : calendarForwardRule ∈ signal.matchedRules := by
        rw [h.rules, withInvite, hinvited, hforward]
        simp
      obtain ⟨rule, -, result, he, hmatched, haction⟩ :=
        hjustified _ hentry ⟨.forwardCalendarInvite, none⟩ (by simp [calendarForwardRule]) rfl
      exact ⟨_, he, hmatched, List.any_eq_true.mpr ⟨_, haction, by simp⟩⟩
  · intro hgives entry hentry action haction hcarried
    rw [h.rules] at hentry
    obtain hentry | ⟨rfl, hinvited, hforward⟩ := mem_withInvite hentry
    · obtain hentry | hentry := List.mem_append.mp hentry
      · obtain hentry | ⟨e, he, hmatched, -, hactions⟩ := mem_applyResults hentry
        · cases hentry
        · obtain ⟨rule, hmem, hsame⟩ := hrule e he
          refine ⟨rule, hmem, e.2, ?_, hmatched, ?_⟩
          · rw [hsame]
            exact he
          · rw [hsame, ← hactions]
            exact haction
      · rw [h.statuses entry hentry action haction] at hcarried
        cases hcarried
    · have happlied := (hasForward_applyResults evaluations []).mpr (.inr (hgives hinvited))
      have hthere : hasForwardCalendarInvite (applyResults evaluations [] ++ policy) = true := by
        rw [hasForwardCalendarInvite, List.any_append, Bool.or_eq_true]
        exact .inl happlied
      rw [hthere] at hforward
      cases hforward

/-- **Rules behind what is dispatched.** Whatever the rules, their overrides and the answers of the
services are, a mail is dispatched with the actions of enabled rules that matched it, exactly if no
event of its invites was saved, or one of these rules forwards the invite. -/
theorem dispatched_justified_iff (env : Env) (rulesAt : Nat → RulesApi.Store) (fails : Nat → Bool)
    (w : World) (deliveries : List Delivery) :
    ∀ payload ∈ (deliveries.foldl (deliver (listing env rulesAt fails))
        (World.emptied w)).dispatched,
      ∃ t evaluations policy invited,
        evaluations.map Prod.fst =
          (listEnabledRules (rulesAt t) payload.signal.accountId).map StoredRule.toRule ∧
        Origin (listing env rulesAt fails) payload.signal evaluations policy invited ∧
        (Justified (rulesAt t) evaluations payload.signal ↔
          (invited = true → Gives evaluations .forwardCalendarInvite)) ∧
        ((HasEvents env payload.signal → Gives evaluations .forwardCalendarInvite) →
          Justified (rulesAt t) evaluations payload.signal) := by
  intro payload hpayload
  have htraced := deliveries_traced deliveries (traced_emptied (listing env rulesAt fails) w)
  obtain ⟨evaluations, policy, invited, horigin⟩ := htraced.dispatched payload hpayload
  obtain ⟨t, hlisted⟩ := horigin.listed
  have hrules : evaluations.map Prod.fst =
      (listEnabledRules (rulesAt t) payload.signal.accountId).map StoredRule.toRule := by
    change (if fails t then _ else _) = _ at hlisted
    split at hlisted
    · cases hlisted
    · exact (Except.ok.inj hlisted).symm
  have hiff := horigin.justified_iff hrules
  refine ⟨t, evaluations, policy, invited, hrules, horigin, hiff, fun hgives => ?_⟩
  exact hiff.mpr fun hinvited => hgives (horigin.events hinvited)

/-! ## A disabled rule -/

def meeting : ExtractedEvent where
  data := {
    title := "Review"
    startTime := "2025-06-02T10:00:00Z"
    organizer := "ann@org.test"
    organizerCn := none
    veventUid := "u1"
    method := "REQUEST"
    sequence := 0
    status := none
    recurrenceId := none
    linkedSignalId := ""
    rsvpResponse := none
    sesMessageId := none }
  rawIcsContent := "BEGIN:VCALENDAR"

/-- Mails bring a meeting, and no rule matches. -/
def inviteEnv : Env :=
  { IngestThreads.greetingEnv with
    answer := fun t e => match e with
      | .extractCalendar _ => .ok (some ⟨[meeting], []⟩)
      | e => IngestThreads.greetingEnv.answer t e }

/-- The account has disabled the rule that forwards invites. -/
def forwardDisabled : RulesApi.Store :=
  ⟨.empty, KeyedTable.empty.put ⟨"acc", "SR-16", .disabled, 1600⟩⟩

def disabledEnv : Env := listing inviteEnv (fun _ => forwardDisabled) fun _ => false

def inviteDelivery : Delivery := ⟨IngestThreads.greetingMail, 1, noOptions, []⟩

/-- The rules of the account in their order, which is that of the code. -/
theorem listRules_forwardDisabled : listRules forwardDisabled "acc" =
    SYSTEM_RULES.map (RulesApi.withOverride forwardDisabled "acc") := by
  have hsorted : (SYSTEM_RULES.map (RulesApi.withOverride forwardDisabled "acc")).Pairwise
      fun a b => RulesApi.byPriority a b := by
    decide +kernel
  have huser : RulesApi.userRules forwardDisabled "acc" = [] := rfl
  rw [listRules, huser, List.append_nil]
  exact List.mergeSort_of_pairwise hsorted

/-- The environment with the rules of the account written out. -/
def listedEnv : Env :=
  { inviteEnv with
    answer := fun t e => match e with
      | .listEnabledRules accountId =>
        if accountId = "acc" then
          .ok (((SYSTEM_RULES.map (RulesApi.withOverride forwardDisabled "acc")).filter
            fun rule => rule.status = .enabled).map StoredRule.toRule)
        else .ok ((listEnabledRules forwardDisabled accountId).map StoredRule.toRule)
      | e => inviteEnv.answer t e }

theorem disabledEnv_eq : disabledEnv = listedEnv := by
  unfold disabledEnv listedEnv listing
  congr
  funext t e
  cases e with
  | listEnabledRules accountId =>
    dsimp only
    rw [if_neg Bool.false_ne_true]
    split
    case isTrue haccount =>
      rw [haccount, ← listRules_forwardDisabled]
      rfl
    case isFalse => rfl
  | _ => rfl

theorem inviteDelivery_dispatched : ((deliver disabledEnv
      (World.emptied IngestRedelivery.aliasWorld) inviteDelivery).dispatched.map
        fun payload => payload.signal.matchedRules) = [[calendarForwardRule]] := by
  rw [disabledEnv_eq]
  decide +kernel

/-- The mail is dispatched, and its actions have a rule behind them only if one forwards invites. -/
theorem inviteDelivery_justified :
    ∃ payload ∈ (deliver disabledEnv (World.emptied IngestRedelivery.aliasWorld)
      inviteDelivery).dispatched, ∃ evaluations invited,
        Justified forwardDisabled evaluations payload.signal ↔
          (invited = true → Gives evaluations .forwardCalendarInvite) := by
  obtain ⟨payload, hpayload, -⟩ := List.exists_of_mem_map
    (inviteDelivery_dispatched ▸ List.mem_singleton_self [calendarForwardRule])
  obtain ⟨_, evaluations, _, invited, -, -, hiff, -⟩ := dispatched_justified_iff inviteEnv
    (fun _ => forwardDisabled) (fun _ => false) IngestRedelivery.aliasWorld [inviteDelivery]
    payload hpayload
  exact ⟨payload, hpayload, evaluations, invited, hiff⟩

/-- No enabled rule of the account forwards invites, and the mail matches no rule; its invite is
forwarded all the same. -/
theorem disabled_rule_forwards :
    ((listEnabledRules forwardDisabled "acc").all fun rule =>
      !hasAction rule.actions .forwardCalendarInvite) = true ∧
    ¬ ∀ payload ∈ (deliver disabledEnv (World.emptied IngestRedelivery.aliasWorld)
        inviteDelivery).dispatched, ∃ evaluations,
      (∀ e ∈ evaluations, Evaluated disabledEnv payload.signal e) ∧
        Justified forwardDisabled evaluations payload.signal := by
  refine ⟨?_, fun hall => ?_⟩
  · rw [listEnabledRules, listRules_forwardDisabled]
    decide +kernel
  have hrules := inviteDelivery_dispatched
  cases hdispatched : (deliver disabledEnv (World.emptied IngestRedelivery.aliasWorld)
      inviteDelivery).dispatched with
  | nil =>
    rw [hdispatched] at hrules
    cases hrules
  | cons payload payloads =>
    rw [hdispatched] at hrules hall
    have hentry : payload.signal.matchedRules = [calendarForwardRule] := (List.cons.inj hrules).1
    obtain ⟨evaluations, hevaluated, hjustified⟩ := hall payload List.mem_cons_self
    obtain ⟨rule, -, result, he, hmatched, -⟩ := hjustified calendarForwardRule
      (by simp [hentry]) ⟨.forwardCalendarInvite, none⟩ (by simp [calendarForwardRule]) rfl
    obtain ⟨t, context, -, hanswer⟩ := hevaluated _ he
    have hnever : (⟨false, [], []⟩ : RuleEvalResult) = result := hanswer
    rw [← hnever] at hmatched
    cases hmatched

end SesEmailAdapter.Processor.RuleActions
