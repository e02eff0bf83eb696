import SesEmailAdapter.Processor.IngestStages

/-! # Deliveries follow their stages

Whatever the answers are, a delivery makes only the calls of its stage, and reaches the
convergence point with its signal stored. -/

namespace SesEmailAdapter.Processor.IngestRuns
open Lib
open SesEmailAdapter.Types Database Database.Shared
open Database.ThreadDatabase Database.AccountDatabase
open Calendar.EventStore
open Processor.IngestService Processor.InboundMessage
open Processor.IncomingEmail Processor.RuleOutcome
open Processor.IngestStages
open Prog (Follows Ends)

-- No proof below looks inside these, and to unfold them is slow.
seal systemAlias systemDomainOwner parseAddress

variable {env : Env} {msg : InboundSignalMessage} {receiveCount : Nat}
  {opts : ProcessInboundOptions} {accountId : String} {seen : List String} {α β : Type}
  {P : Cmd → Prop}

/-! ## Calls of the parts -/

theorem only_ask (h : ∀ e, P (.ask e)) (e : External) : (ask e).Only P := ⟨h e, fun _ => trivial⟩

theorem only_attempt (h : ∀ e, P (.attempt e)) (e : Effort) : (attempt e).Only P :=
  ⟨h e, fun _ => trivial⟩

theorem only_db {p : SignalsTable.DbProg α} (h : p.Only fun c => P (.db c)) : (db p).Only P :=
  h.embed

theorem only_accounts {p : AccountsTable.DbProg α} (h : p.Only fun c => P (.accounts c)) :
    (accounts p).Only P :=
  h.embed

variable {p : IngestProg (Except DbError α)}

theorem only_must (h : p.Only P) :
    Prog.Only P (must p).run :=
  h.map _

theorem only_generateId (h : ∀ e, P (.ask e)) (id : String) : (generateId id).Only P :=
  (only_ask h .newId).bind fun _ => trivial

variable {signal : Signal} {resolved : Resolved} {senderETLD1 : String}

theorem only_saveSignal (h : P (.db (.putSignal signal))) :
    (db (saveSignal signal)).Only P :=
  only_db ⟨h, fun _ => trivial⟩

theorem only_countSignal (h : ∀ e, P (.attempt e)) (status : SignalStatus) :
    (countSignal accountId msg status).Only P := by
  unfold countSignal
  split
  · trivial
  · exact only_attempt h _

theorem only_getSender {senderDomain : String} :
    (accounts (getSender accountId msg.primaryRecipient senderDomain)).Only
      (Quiet msg accountId) := by
  unfold getSender
  split
  · trivial
  · exact only_accounts (only_withAddress fun _ => ⟨trivial, fun _ => trivial⟩)

theorem only_saveSender {senderDomain now : String} :
    (accounts (saveSender accountId msg.primaryRecipient senderDomain .allow now)).Only
      (Quiet msg accountId) := by
  unfold saveSender
  exact only_accounts (only_withAddress fun _ => ⟨trivial, fun _ => trivial⟩)

theorem quiet_ask (e : External) : Quiet msg accountId (.ask e) := trivial

theorem quiet_attempt (e : Effort) : Quiet msg accountId (.attempt e) := trivial

theorem only_ensureAliasRecord {account : Option Account}
    (hask : ∀ e, P (.ask e)) (hattempt : ∀ e, P (.attempt e))
    (hput : ∀ item : Alias, item.accountId = resolved.accountId →
      item.aliasAddress = msg.primaryRecipient → P (.accounts (.putAlias item))) :
    Prog.Only P (ensureAliasRecord msg resolved account).run := by
  unfold ensureAliasRecord
  split
  · trivial
  · refine Prog.Only.bindStop (.lift (only_ask hask .now)) fun now => ?_
    have hensure : (ensureAlias resolved.accountId msg.primaryRecipient (defaultPolicy account)
        (some none) none now).Only fun c => P (.accounts c) := by
      unfold ensureAlias createAliasItem saveAlias
      refine Prog.Only.bind (only_withAddress fun parts => ?_) fun _ => trivial
      exact ⟨hput _ rfl rfl, fun _ => trivial⟩
    generalize ensureAlias resolved.accountId msg.primaryRecipient (defaultPolicy account)
      (some none) none now = program at hensure ⊢
    refine Prog.Only.bindStop (only_must (only_accounts hensure)) fun ensured => ?_
    split
    · exact Prog.Only.lift (only_attempt hattempt _)
    · trivial

theorem only_classifyEmail (account : Option Account) (sanitized : SanitizedEmail) :
    (classifyEmail msg accountId account sanitized).Only (Quiet msg accountId) :=
  (only_ask quiet_ask _).bind fun _ => (only_ask quiet_ask _).bind fun _ => trivial

theorem only_inboundSignalId : (inboundSignalId opts).Only (Quiet msg accountId) := by
  unfold inboundSignalId
  split
  · trivial
  · exact only_generateId quiet_ask _

theorem own_generated (id : String) : isOwnLookupId ("sgn-" ++ id) := by
  refine .inl ⟨id.toList, ?_⟩
  rw [String.toList_append]

theorem generateId_bind (id : String) (f : String → IngestProg α) :
    (generateId id >>= f) = (ask .newId >>= fun encoded => f (id ++ encoded)) := rfl

theorem only_noteWarnings (hask : ∀ e, P (.ask e))
    (hown : ∀ signal : Signal, isOwnLookupId signal.signalLookupId → P (.db (.putSignal signal)))
    (rule : Rule) (threadId : String) (warnings : List String) :
    (noteWarnings rule threadId warnings).Only P := by
  unfold noteWarnings
  split
  · trivial
  · rw [generateId_bind]
    refine (only_ask hask _).bind fun encoded => (only_ask hask _).bind fun now => ?_
    exact (only_saveSignal (hown _ (own_generated encoded))).bind fun _ => trivial

/-! ## Before the thread -/

variable {stored signal : Signal} {Q : Stage → α → Prop} {received : Received} {threadId : String}
  {placed : Placed}

theorem follows_must {E : Stage → Stop → Prop} {q : Stage} :
    Follows (monitor env msg) Q E q (must p) ↔
      p.Obeys (monitor env msg) (Ends Q fun q error => E q (.failed (.db error))) q := by
  unfold Prog.Follows must
  rw [ExceptT.run_mk, Prog.obeys_map]
  refine ⟨fun h => h.mono ?_, fun h => h.mono ?_⟩
  · rintro q (error | a) h <;> exact h
  · rintro q (error | a) h <;> exact h

theorem follows_must_bind {f : α → Step β}
    {Q : Stage → β → Prop} {E : Stage → Stop → Prop} {q : Stage}
    (hp : p.Only ((monitor env msg).Idle q)) (hE : ∀ error, E q (.failed error))
    (hf : ∀ a, Follows (monitor env msg) Q E q (f a)) :
    Follows (monitor env msg) Q E q (must p >>= f) := by
  rw [Prog.follows_bind, follows_must]
  refine hp.obeys.mono ?_
  rintro q (error | a) rfl
  · exact hE (.db error)
  · exact hf a

theorem only_fresh {p : IngestProg α} (h : p.Only (Quiet msg accountId)) :
    p.Only ((monitor env msg).Idle (.fresh accountId seen)) :=
  h.mono fun _ => Quiet.idle

theorem only_stored {p : IngestProg α} {isNew sent : Bool}
    (h : p.Only fun c => StoredCall signal c ∧ ∀ payload, c ≠ .sendMessage payload) :
    p.Only ((monitor env msg).Idle (.stored signal isNew sent)) := by
  refine h.mono fun c hc => ⟨hc.1, fun f r => ?_⟩
  cases c with
  | sendMessage payload => exact absurd rfl (hc.2 payload)
  | _ => rfl

theorem stored_ask (e : External) :
    StoredCall signal (.ask e) ∧ ∀ payload, Cmd.ask e ≠ .sendMessage payload :=
  ⟨trivial, fun _ h => by cases h⟩

theorem stored_attempt (e : Effort) :
    StoredCall signal (.attempt e) ∧ ∀ payload, Cmd.attempt e ≠ .sendMessage payload :=
  ⟨trivial, fun _ h => by cases h⟩

/-- The signal of a fresh delivery that attaches it to no thread or to one that it has read. -/
theorem follows_saveSignal {Q : Stage → Unit → Prop} (hsignal : IsSignalOf msg accountId signal)
    (hid : ∀ id, signal.threadId = some id → id ∈ seen) (hQ : Q (.stored signal false false) ()) :
    Follows (monitor env msg) Q (Stopped receiveCount) (.fresh accountId seen)
      (must (db (saveSignal signal))) := by
  rw [follows_must]
  refine And.intro (.inr ⟨hsignal, hid⟩) fun fate answer => ?_
  have hlookup := hsignal.2
  change Except DbError Unit at answer
  cases answer with
  | ok u =>
    have hnext : (monitor env msg).next (.fresh accountId seen) (.db (.putSignal signal)) fate
        (.ok u) = .stored signal false false := if_pos ⟨hlookup, Bool.or_true _⟩
    rw [hnext]
    exact hQ
  | error error =>
    show Stopped receiveCount (if _ then _ else _) _
    split
    · exact stopped_stored
    · exact stopped_fresh

theorem follows_reject (hsignal : IsSignalOf msg accountId signal) (hid : signal.threadId = none) :
    Follows (monitor env msg) Q (Stopped receiveCount) (.fresh accountId seen)
      (reject msg senderETLD1 signal) := by
  unfold reject
  rw [Prog.follows_bind]
  refine follows_saveSignal hsignal (fun id h => by rw [hid] at h; cases h) ?_
  refine Prog.follows_idle_bind (.lift (only_stored (only_attempt stored_attempt _)))
    (fun _ => stopped_stored) fun _ => ?_
  refine Prog.follows_idle_bind (.lift (only_stored (only_countSignal stored_attempt _)))
    (fun _ => stopped_stored) fun _ => ?_
  exact stopped_stored

theorem follows_blockSpoofed :
    Follows (monitor env msg) (fun q _ => q = .fresh accountId seen) (Stopped receiveCount)
      (.fresh accountId seen) (blockSpoofed msg opts accountId) := by
  unfold blockSpoofed
  split
  case isFalse => rfl
  refine Prog.follows_idle_bind (.lift (only_fresh (only_generateId quiet_ask _)))
    (fun _ => stopped_fresh) fun id => ?_
  refine Prog.follows_idle_bind (.lift (only_fresh (only_ask quiet_ask _)))
    (fun _ => stopped_fresh) fun now => ?_
  rw [Prog.follows_bind]
  refine follows_saveSignal ⟨rfl, rfl⟩ (fun id h => by cases h) ?_
  refine Prog.follows_idle_bind (.lift (only_stored (only_countSignal stored_attempt _)))
    (fun _ => stopped_stored) fun _ => ?_
  exact stopped_stored

theorem follows_blockSender {parsed : ParsedMime} {sender : Option AliasSender} :
    Follows (monitor env msg) (fun q _ => q = .fresh accountId seen) (Stopped receiveCount)
      (.fresh accountId seen) (blockSender msg accountId senderETLD1 parsed sender) := by
  unfold blockSender
  split
  · rfl
  · refine Prog.follows_idle_bind (.lift (only_fresh (only_ask quiet_ask _)))
      (fun _ => stopped_fresh) fun now => ?_
    refine Prog.follows_idle_bind (.lift (only_fresh (only_generateId quiet_ask _)))
      (fun _ => stopped_fresh) fun id => ?_
    exact follows_reject ⟨rfl, rfl⟩ rfl

theorem only_sanitizeEmail :
    Prog.Only (Quiet msg accountId) (sanitizeEmail msg accountId).run := by
  unfold sanitizeEmail
  refine Prog.Only.bindStop (only_must (only_ask quiet_ask _)) fun sanitized => ?_
  split
  · trivial
  · exact Prog.Only.bindStop (only_must (only_ask quiet_ask _)) fun _ => trivial

theorem follows_receive :
    Follows (monitor env msg) (fun q _ => q = .fresh resolved.accountId seen)
      (Stopped receiveCount) (.fresh resolved.accountId seen) (receive env msg opts resolved) := by
  unfold receive
  rw [Prog.follows_bind]
  refine follows_blockSpoofed.mono ?_ fun _ _ h => h
  rintro q - rfl
  refine Prog.follows_idle_bind (only_must (only_fresh (only_ask quiet_ask _)))
    (fun _ => stopped_fresh) fun account => ?_
  refine Prog.follows_idle_bind
    ((only_ensureAliasRecord quiet_ask quiet_attempt fun _ => .intro).mono fun _ => Quiet.idle)
    (fun _ => stopped_fresh) fun _ => ?_
  refine Prog.follows_idle_bind (only_sanitizeEmail.mono fun _ => Quiet.idle)
    (fun _ => stopped_fresh) fun sanitized => ?_
  refine Prog.follows_idle_bind (only_must (only_fresh only_getSender))
    (fun _ => stopped_fresh) fun aliasSender => ?_
  rw [Prog.follows_bind]
  refine follows_blockSender.mono ?_ fun _ _ h => h
  rintro q - rfl
  rfl

/-! ## The thread -/

/-- A fresh delivery that has read more threads, among them the one it returns. -/
def Matched (accountId : String) (seen : List String) (q : Stage) (found : Option Thread) : Prop :=
  ∃ seen', q = .fresh accountId seen' ∧ seen ⊆ seen' ∧ ∀ thread, found = some thread →
    thread.id ∈ seen'

theorem matched_none : Matched accountId seen (.fresh accountId seen) none :=
  ⟨seen, rfl, fun _ h => h, fun _ h => by cases h⟩

theorem obeys_fetchThread (threadId : Option String) :
    (fetchThread accountId threadId).Obeys (monitor env msg) (Matched accountId seen)
      (.fresh accountId seen) := by
  rcases threadId with _ | threadId
  · exact matched_none
  refine And.intro rfl fun fate answer => ?_
  change Except DbError (Option Thread) at answer
  rcases answer with error | _ | thread
  · exact matched_none
  · exact matched_none
  · refine ⟨threadId :: thread.id :: seen, rfl, ?_, ?_⟩
    · exact fun _ h => List.mem_cons_of_mem _ (List.mem_cons_of_mem _ h)
    · intro found hfound
      cases hfound
      exact List.mem_cons_of_mem _ List.mem_cons_self

theorem obeys_matchGroupingKey (groupingKey : Option String) :
    (matchGroupingKey accountId groupingKey).Obeys (monitor env msg) (Matched accountId seen)
      (.fresh accountId seen) := by
  unfold matchGroupingKey
  split
  · exact matched_none
  · refine And.intro rfl fun fate answer => ?_
    change Except DbError (List Thread) at answer
    rcases answer with error | threads
    · exact matched_none
    · refine ⟨threads.map Thread.id ++ seen, rfl, fun _ h => List.mem_append_right _ h, ?_⟩
      intro thread hthread
      have hmem : thread ∈ threads := List.mem_of_head? hthread
      exact List.mem_append_left _ (List.mem_map.mpr ⟨thread, hmem, rfl⟩)

theorem obeys_matchInReplyTo (parsed : ParsedMime) :
    (matchInReplyTo accountId parsed).Obeys (monitor env msg) (Matched accountId seen)
      (.fresh accountId seen) := by
  unfold matchInReplyTo
  split
  · exact matched_none
  · exact And.intro trivial fun fate answer => obeys_fetchThread _

theorem obeys_matchSimilarity (recipientAddress : String) (embedding : List Int) :
    (matchSimilarity accountId recipientAddress embedding).Obeys (monitor env msg)
      (Matched accountId seen) (.fresh accountId seen) :=
  And.intro trivial fun _ _ => obeys_fetchThread _

theorem obeys_matchThread (recipientAddress : String) (parsed : ParsedMime)
    (groupingKey : Option String) (embedding : List Int) :
    (matchThread accountId recipientAddress parsed groupingKey embedding).Obeys
      (monitor env msg) (Matched accountId seen) (.fresh accountId seen) := by
  unfold matchThread
  rw [Prog.obeys_bind]
  refine (obeys_matchGroupingKey groupingKey).mono ?_
  rintro q tier1 ⟨seen1, rfl, hsub1, htier1⟩
  rw [Prog.obeys_bind]
  refine (obeys_matchInReplyTo parsed).mono ?_
  rintro q tier15 ⟨seen2, rfl, hsub2, htier15⟩
  rw [Prog.obeys_bind]
  refine (obeys_matchSimilarity recipientAddress embedding).mono ?_
  rintro q tier2 ⟨seen3, rfl, hsub3, htier2⟩
  refine ⟨seen3, rfl, fun _ h => hsub3 (hsub2 (hsub1 h)), fun thread hthread => ?_⟩
  rcases tier1 with _ | found1
  · rcases tier15 with _ | found15
    · exact htier2 thread hthread
    · exact hsub3 (htier15 thread hthread)
  · exact hsub3 (hsub2 (htier1 thread hthread))

/-- Where a fresh delivery will put its signal. -/
structure PlacedAt (accountId : String) (seen : List String) (placed : Placed) : Prop where
  account : placed.args.accountId = accountId
  matched : ∀ thread, placed.matchedThread = some thread → placed.thread.id ∈ seen
  unmatched : placed.matchedThread = none → placed.thread.accountId = accountId

theorem obeys_threadShell (args : SignalArgs) (groupingKey : Option String)
    (matchedThread : Option Thread) (signalId : String) :
    (threadShell env msg args groupingKey matchedThread signalId).Obeys (monitor env msg)
      (fun q thread => q = .fresh accountId seen ∧
        (∀ found, matchedThread = some found → thread.id = found.id) ∧
        (matchedThread = none → thread.accountId = args.accountId))
      (.fresh accountId seen) := by
  rcases matchedThread with _ | found
  · exact And.intro trivial fun _ _ => ⟨rfl, fun _ h => (by cases h), fun _ => rfl⟩
  · exact ⟨rfl, fun _ h => (by cases h; rfl), fun h => (by cases h)⟩

theorem follows_place :
    Follows (monitor env msg)
      (fun q placed => ∃ seen', q = .fresh resolved.accountId seen' ∧
        PlacedAt resolved.accountId seen' placed)
      (Stopped receiveCount) (.fresh resolved.accountId seen)
      (place env msg opts resolved received) := by
  unfold IncomingEmail.place
  refine Prog.follows_idle_bind (.lift (only_fresh (only_classifyEmail _ _)))
    (fun _ => stopped_fresh) fun classified => ?_
  refine Prog.follows_idle_bind (only_must (only_fresh (only_ask quiet_ask _)))
    (fun _ => stopped_fresh) fun embedding => ?_
  refine Prog.follows_idle_bind (.lift (only_fresh (only_ask quiet_ask _)))
    (fun _ => stopped_fresh) fun now => ?_
  dsimp only
  rw [Prog.follows_bind, Prog.follows_lift]
  refine (obeys_matchThread _ _ _ _).mono ?_
  rintro q matchedThread ⟨seen', rfl, -, hmatched⟩
  refine Prog.follows_idle_bind (.lift (only_fresh only_inboundSignalId))
    (fun _ => stopped_fresh) fun signalId => ?_
  rw [Prog.follows_bind, Prog.follows_lift]
  refine (obeys_threadShell _ _ _ _).mono ?_
  rintro q shell ⟨rfl, hfound, hnone⟩
  refine ⟨seen', rfl, rfl, fun thread hthread => ?_, hnone⟩
  have hid : shell.id = thread.id := hfound thread hthread
  rw [hid]
  exact hmatched thread hthread

/-! ## The signal -/

theorem obeys_applyRules (signal : Signal) (isMatchedThread : Bool) (rules : List Rule)
    (thread : Thread) (matchedRules : List MatchedRuleResult) :
    (applyRules signal isMatchedThread rules thread matchedRules).Obeys (monitor env msg)
      (fun q result => q = .fresh accountId seen ∧ result.2.id = thread.id ∧
        result.2.accountId = thread.accountId)
      (.fresh accountId seen) := by
  induction rules generalizing thread matchedRules with
  | nil => exact ⟨rfl, rfl, rfl⟩
  | cons rule rules ih =>
    refine And.intro trivial fun fate evalResult => ?_
    change Prog.Obeys _ _ _ (if _ then _ else _)
    split
    · exact ih thread matchedRules
    · rw [Prog.obeys_bind]
      refine (only_fresh (only_noteWarnings quiet_ask (fun _ h => h) _ _ _)).obeys.mono ?_
      rintro q - rfl
      split
      · exact ih thread matchedRules
      · exact (ih _ _).mono fun q result h => h

theorem follows_quarantine {outcome : ProcessingOutcome} (hsignal : IsSignalOf msg accountId signal)
    (hid : signal.threadId = none) :
    Follows (monitor env msg) Q (Stopped receiveCount) (.fresh accountId seen)
      (quarantine msg opts senderETLD1 outcome signal) := by
  unfold quarantine
  rw [Prog.follows_bind]
  refine follows_saveSignal hsignal (fun id h => by rw [hid] at h; cases h) ?_
  refine Prog.follows_idle_bind (.lift (only_stored ?_)) (fun _ => stopped_stored) fun _ => ?_
  · unfold notifyQuarantine
    split
    · trivial
    · exact only_attempt stored_attempt _
  refine Prog.follows_idle_bind (.lift (only_stored (only_attempt stored_attempt _)))
    (fun _ => stopped_stored) fun _ => ?_
  refine Prog.follows_idle_bind (.lift (only_stored (only_countSignal stored_attempt _)))
    (fun _ => stopped_stored) fun _ => ?_
  exact stopped_stored

theorem follows_applyDisposition {args : SignalArgs} {decision : Decision}
    (haccount : args.accountId = accountId) :
    Follows (monitor env msg) (fun q _ => q = .fresh accountId seen) (Stopped receiveCount)
      (.fresh accountId seen) (applyDisposition msg opts senderETLD1 args decision) := by
  unfold applyDisposition
  split
  · refine Prog.follows_idle_bind (.lift (only_fresh only_inboundSignalId))
      (fun _ => stopped_fresh) fun id => ?_
    exact follows_reject ⟨haccount, rfl⟩ rfl
  · split
    case isFalse => rfl
    refine Prog.follows_idle_bind (.lift (only_fresh only_inboundSignalId))
      (fun _ => stopped_fresh) fun id => ?_
    exact follows_quarantine ⟨haccount, rfl⟩ rfl

theorem only_autoApprove {sender : Option AliasSender}
    {filterMode : UnknownSenderPolicy} {outcome : ProcessingOutcome} :
    Prog.Only (Quiet msg accountId)
      (autoApprove accountId msg.primaryRecipient senderETLD1 sender filterMode outcome).run := by
  unfold autoApprove
  split
  · exact Prog.Only.bindStop (.lift (only_ask quiet_ask _)) fun now => only_must only_saveSender
  · trivial

/-- What a fresh delivery is about to save. -/
structure AcceptedAt (msg : InboundSignalMessage) (accountId : String) (seen : List String)
    (placed : Placed) (accepted : Accepted) : Prop where
  signal : IsSignalOf msg accountId accepted.signal
  threaded : accepted.signal.threadId = some accepted.thread.id
  matched : ∀ thread, placed.matchedThread = some thread → accepted.thread.id ∈ seen
  unmatched : placed.matchedThread = none → accepted.thread.accountId = accountId

theorem withFinalWorkflow_eq (matchedRules : List MatchedRuleResult) (signal : Signal) :
    ∃ update, withFinalWorkflow matchedRules signal = mapData update signal := by
  unfold withFinalWorkflow
  split
  · refine ⟨id, ?_⟩
    unfold mapData
    obtain ⟨_, _, _, _, _, _, _, _, _, data⟩ := signal
    cases data <;> rfl
  · exact ⟨_, rfl⟩

theorem follows_judge (hplaced : PlacedAt resolved.accountId seen placed) :
    Follows (monitor env msg)
      (fun q accepted => q = .fresh resolved.accountId seen ∧
        AcceptedAt msg resolved.accountId seen placed accepted)
      (Stopped receiveCount) (.fresh resolved.accountId seen)
      (judge msg opts resolved received placed) := by
  unfold judge
  split
  · refine Prog.follows_idle_bind (.lift (only_fresh (only_generateId quiet_ask _)))
      (fun _ => stopped_fresh) fun id => ?_
    exact follows_reject ⟨hplaced.account, rfl⟩ rfl
  · dsimp only
    refine Prog.follows_idle_bind (only_must (only_fresh (only_ask quiet_ask _)))
      (fun _ => stopped_fresh) fun rules => ?_
    rw [Prog.follows_bind, Prog.follows_lift]
    refine (obeys_applyRules _ _ _ _ _).mono ?_
    rintro q ⟨matchedRules, thread⟩ ⟨rfl, hid, haccount⟩
    dsimp only at hid haccount ⊢
    rw [Prog.follows_bind]
    refine (follows_applyDisposition hplaced.account).mono ?_ fun _ _ h => h
    rintro q - rfl
    refine Prog.follows_idle_bind (only_autoApprove.mono fun _ => Quiet.idle)
      (fun _ => stopped_fresh) fun _ => ?_
    refine Prog.follows_idle_bind (only_must (only_fresh (only_ask quiet_ask _)))
      (fun _ => stopped_fresh) fun calendar => ?_
    refine Prog.follows_idle_bind (.lift (only_fresh (only_ask quiet_ask _)))
      (fun _ => stopped_fresh) fun secondary => ?_
    obtain ⟨update, hfinal⟩ := withFinalWorkflow_eq matchedRules
      (buildSignal msg placed.args (some placed.thread.id) placed.signalId)
    rw [hfinal]
    refine ⟨rfl, ⟨hplaced.account, rfl⟩, ?_, fun found h => ?_, fun h => ?_⟩
    · exact congrArg some hid.symm
    · exact hid ▸ hplaced.matched found h
    · exact haccount.trans (hplaced.unmatched h)

/-! ## The writes -/

/-- The thread is there: created by this delivery, or read by it. -/
def HasThread (accountId threadId : String) (q : Stage) : Prop :=
  q = .created accountId threadId ∨ ∃ seen, q = .fresh accountId seen ∧ threadId ∈ seen

theorem obeys_createThread {thread : Thread} (haccount : thread.accountId = accountId) :
    (db (createThread thread)).Obeys (monitor env msg)
      (fun q result => (result = .ok () → HasThread accountId thread.id q) ∧
        (result ≠ .ok () → ∃ seen, q = .fresh accountId seen))
      (.fresh accountId seen) := by
  refine And.intro haccount fun fate answer => ?_
  change Except SignalsTable.WriteError Unit at answer
  rcases answer with (_ | error) | u
  · refine And.intro haccount fun fate answer => ?_
    change Except DbError (Option Thread) at answer
    rcases answer with error | _ | existing
    · exact ⟨nofun, fun _ => ⟨seen, rfl⟩⟩
    · exact ⟨nofun, fun _ => ⟨seen, rfl⟩⟩
    · change Prog.Obeys _ _ _ (Prog.embed _ _ (if _ then _ else _))
      split
      · exact ⟨fun _ => .inr ⟨_, rfl, List.mem_cons_self⟩, fun h => absurd rfl h⟩
      · exact ⟨nofun, fun _ => ⟨_, rfl⟩⟩
  · exact ⟨nofun, fun _ => ⟨seen, rfl⟩⟩
  · exact ⟨fun _ => .inl rfl, fun h => absurd rfl h⟩

theorem follows_saveThread {accepted : Accepted}
    (haccepted : AcceptedAt msg accountId seen placed accepted) :
    Follows (monitor env msg) (fun q _ => HasThread accountId accepted.thread.id q)
      (Stopped receiveCount) (.fresh accountId seen)
      (saveThread accountId placed.matchedThread accepted.thread) := by
  unfold saveThread
  split
  case h_1 found hmatched =>
    refine Prog.follows_idle_bind (.lift (only_fresh (only_ask quiet_ask _)))
      (fun _ => stopped_fresh) fun now => ?_
    rw [follows_must]
    refine And.intro ⟨rfl, haccepted.matched found hmatched⟩ fun fate answer => ?_
    change Except DbError Unit at answer
    rcases answer with error | u
    · exact stopped_fresh
    · exact .inr ⟨seen, rfl, haccepted.matched found hmatched⟩
  case h_2 hmatched =>
    rw [Prog.follows_bind, Prog.follows_lift]
    have hcreate := @obeys_createThread env msg accountId seen _
      (haccepted.unmatched hmatched)
    refine hcreate.mono ?_
    rintro q result ⟨hok, hfresh⟩
    split
    · exact hok rfl
    · obtain ⟨seen, rfl⟩ := hfresh nofun
      exact stopped_fresh
    · obtain ⟨seen, rfl⟩ := hfresh nofun
      exact stopped_fresh

theorem follows_saveAccepted {Q : Stage → Unit → Prop}
    {q : Stage} (hq : HasThread accountId threadId q) (hsignal : IsSignalOf msg accountId signal)
    (hid : signal.threadId = some threadId) (hQ : ∀ isNew, Q (.stored signal isNew false) ()) :
    Follows (monitor env msg) Q (Stopped receiveCount) q (must (db (saveSignal signal))) := by
  rcases hq with rfl | ⟨seen, rfl, hmem⟩
  · rw [follows_must]
    refine And.intro ⟨hsignal, hid⟩ fun fate answer => ?_
    change Except DbError Unit at answer
    rcases answer with error | u
    · show Stopped receiveCount (if _ then _ else _) _
      split
      · exact stopped_stored
      · exact stopped_failed trivial
    · have hnext : (monitor env msg).next (.created accountId threadId) (.db (.putSignal signal))
          fate (.ok u) = .stored signal true false := if_pos (Bool.or_true _)
      rw [hnext]
      exact hQ true
  · refine follows_saveSignal hsignal (fun id h => ?_) (hQ false)
    obtain rfl : threadId = id := Option.some.inj (hid.symm.trans h)
    exact hmem

theorem only_saveResourceOf {thread : Thread} {assets : List ExtractedAsset} :
    (saveResourceOf signal thread assets).Only
      (fun c => StoredCall stored c ∧ ∀ payload, c ≠ .sendMessage payload) := by
  unfold saveResourceOf
  split
  · split
    · trivial
    · refine (only_ask stored_ask .now).bind fun now => ?_
      exact And.intro ⟨trivial, fun _ h => by cases h⟩ fun _ => trivial
  · trivial

theorem only_saveInvalidInvites (reasons : List String) :
    (saveInvalidInvites signal threadId reasons).Only
      (fun c => StoredCall stored c ∧ ∀ payload, c ≠ .sendMessage payload) := by
  induction reasons with
  | nil => trivial
  | cons reason reasons ih =>
    unfold saveInvalidInvites
    rw [generateId_bind]
    refine (only_ask stored_ask _).bind fun id => (only_ask stored_ask _).bind fun now => ?_
    refine (only_saveSignal ⟨own_generated id, fun _ h => by cases h⟩).bind fun _ => ih

theorem own_calendar (organizer veventUid : String) (recurrenceId : Option String) :
    isOwnLookupId (buildCalendarSignalLookupId organizer veventUid recurrenceId) := by
  unfold buildCalendarSignalLookupId
  refine .inr ?_
  simp only [String.toList_append, List.append_assoc]
  exact List.prefix_append _ _

theorem only_saveCalendarEventSignal {stored : Signal} {event : CalendarEventSignal}
    (hown : isOwnLookupId event.signal.signalLookupId) :
    (db (saveCalendarEventSignal event)).Only
      (fun c => StoredCall stored c ∧ ∀ payload, c ≠ .sendMessage payload) := by
  refine only_db ?_
  unfold saveCalendarEventSignal
  generalize 3 = attempts
  induction attempts with
  | zero => trivial
  | succ attempts ih =>
    refine And.intro ⟨trivial, fun _ h => by cases h⟩ fun answer => ?_
    change Except DbError (Option Signal) at answer
    rcases answer with error | item
    · trivial
    · refine And.intro ⟨hown, fun _ h => by cases h⟩ fun answer => ?_
      change Except SignalsTable.WriteError Unit at answer
      rcases answer with (_ | error) | u
      · exact ih
      · trivial
      · trivial

theorem hasForward_append (matchedRules : List MatchedRuleResult) :
    hasForwardCalendarInvite (matchedRules ++ [calendarForwardRule]) = true := by
  unfold hasForwardCalendarInvite
  rw [List.any_append, Bool.or_eq_true]
  exact .inr rfl

theorem matchedRules_withMatchedRules (matchedRules : List MatchedRuleResult) (signal : Signal) :
    (withMatchedRules matchedRules signal).matchedRules = matchedRules ∨
      (withMatchedRules matchedRules signal).matchedRules = signal.matchedRules := by
  obtain ⟨_, _, _, _, _, _, _, _, _, data⟩ := signal
  cases data
  case inboundEmail => exact .inl rfl
  all_goals exact .inr rfl

theorem sameRules_withCalendarForward (h : SameRules stored signal) :
    SameRules stored (withCalendarForward signal) := by
  unfold withCalendarForward
  split
  case isTrue => exact h
  case isFalse hforward =>
    have hsame : signal.matchedRules = stored.matchedRules := by
      rcases h with h | ⟨-, h⟩
      · exact h
      · rw [h] at hforward
        exact absurd (hasForward_append _) hforward
    rcases matchedRules_withMatchedRules (signal.matchedRules ++ [calendarForwardRule]) signal
      with hrules | hrules
    · refine .inr ⟨?_, by rw [hrules, hsame]⟩
      rw [← hsame]
      exact Bool.eq_false_iff.mpr hforward
    · exact .inl (hrules.trans hsame)

theorem follows_saveCalendarEvents {stored : Signal} {isNew : Bool}
    (events : List ExtractedEvent) (hsignal : SameRules stored signal) :
    Follows (monitor env msg) (fun q signal => q = .stored stored isNew false ∧
        SameRules stored signal)
      (Stopped receiveCount) (.stored stored isNew false)
      (saveCalendarEvents threadId events signal) := by
  induction events generalizing signal with
  | nil => exact ⟨rfl, hsignal⟩
  | cons event events ih =>
    unfold saveCalendarEvents
    refine Prog.follows_idle_bind (.lift (only_stored (only_generateId stored_ask _)))
      (fun _ => stopped_stored) fun id => ?_
    refine Prog.follows_idle_bind (.lift (only_stored (only_ask stored_ask _)))
      (fun _ => stopped_stored) fun now => ?_
    refine Prog.follows_idle_bind (only_must (only_stored ?_)) (fun _ => stopped_stored) fun _ => ?_
    · exact And.intro ⟨trivial, fun _ h => by cases h⟩ fun _ => trivial
    refine Prog.follows_idle_bind
      (.lift (only_stored (only_saveCalendarEventSignal (own_calendar _ _ _))))
      (fun _ => stopped_stored) fun saved => ?_
    split
    · exact ih hsignal
    · refine Prog.follows_idle_bind (.lift (only_stored (only_attempt stored_attempt _)))
        (fun _ => stopped_stored) fun _ => ?_
      exact ih (sameRules_withCalendarForward hsignal)

theorem follows_store {accepted : Accepted}
    (haccepted : AcceptedAt msg resolved.accountId seen placed accepted) :
    Follows (monitor env msg) Converging (Stopped receiveCount) (.fresh resolved.accountId seen)
      (store msg resolved received placed accepted) := by
  unfold store
  rw [Prog.follows_bind]
  refine (follows_saveThread haccepted).mono ?_ fun _ _ h => h
  rintro q - hthread
  rw [Prog.follows_bind]
  refine follows_saveAccepted hthread haccepted.signal haccepted.threaded fun isNew => ?_
  refine Prog.follows_idle_bind (.lift (only_stored only_saveResourceOf))
    (fun _ => stopped_stored) fun _ => ?_
  refine Prog.follows_idle_bind (.lift (only_stored (only_countSignal stored_attempt _)))
    (fun _ => stopped_stored) fun _ => ?_
  rw [Prog.follows_bind]
  unfold processCalendarAttachment
  split
  · exact ⟨_, _, rfl, sameRules_refl _⟩
  · refine Prog.follows_idle_bind (.lift (only_stored (only_saveInvalidInvites _)))
      (fun _ => stopped_stored) fun _ => ?_
    refine (follows_saveCalendarEvents _ (sameRules_refl _)).mono ?_ fun _ _ h => h
    rintro q signal ⟨rfl, hrules⟩
    exact ⟨_, _, rfl, hrules⟩

/-! ## A delivery -/

theorem afterOwner_resolved {owner : Option Domain}
    (h : activeOwner owner = some resolved) : afterOwner owner = .resolved resolved.accountId := by
  unfold afterOwner
  rw [h]

theorem settled_afterOwner (owner : Option Domain) : (afterOwner owner).Settled := by
  unfold afterOwner
  split <;> trivial

theorem obeys_resolveDomainOwner :
    (resolveDomainOwner env msg.primaryRecipient).Obeys (monitor env msg)
      (fun q result => q.Settled ∧ ∀ resolved, result = .ok (some resolved) →
        q = .resolved resolved.accountId)
      (afterAliases env msg.primaryRecipient none) := by
  unfold resolveDomainOwner getDomainOwner afterAliases
  cases systemDomainOwner env.mailDomain (domainOf msg.primaryRecipient) with
  | some owner =>
    exact ⟨settled_afterOwner _, fun resolved h => afterOwner_resolved (Except.ok.inj h)⟩
  | none =>
    refine And.intro rfl fun fate answer => ?_
    change Except DbError (List Domain) at answer
    rcases answer with error | items
    · exact ⟨trivial, fun resolved h => by cases h⟩
    · exact ⟨settled_afterOwner _, fun resolved h => afterOwner_resolved (Except.ok.inj h)⟩

theorem obeys_resolve :
    (resolveAccountIdAndAlias env msg.primaryRecipient).Obeys (monitor env msg)
      (fun q result => q.Settled ∧ ∀ resolved, result = .ok (some resolved) →
        q = .resolved resolved.accountId)
      (start env msg) := by
  have howner := @obeys_resolveDomainOwner env msg
  unfold resolveAccountIdAndAlias getAliasByGlobalAddress start
  generalize resolveDomainOwner env msg.primaryRecipient = program at howner ⊢
  cases systemAlias env.mailDomain msg.primaryRecipient with
  | some item =>
    refine ⟨trivial, fun resolved h => ?_⟩
    cases h
    rfl
  | none =>
    unfold withAddress
    cases parseAddress msg.primaryRecipient with
    | none => exact ⟨trivial, fun resolved h => by cases h⟩
    | some parts =>
      refine And.intro rfl fun fate answer => ?_
      change Except DbError (List Alias) at answer
      rcases answer with error | _ | ⟨item, items⟩
      · exact ⟨trivial, fun resolved h => by cases h⟩
      · exact howner
      · refine ⟨trivial, fun resolved h => ?_⟩
        cases h
        rfl

theorem only_resuming {p : IngestProg α} {existing : Signal} {sent : Bool}
    (h : p.Only fun c => ResumeCall accountId existing c ∧ ∀ payload, c ≠ .sendMessage payload) :
    p.Only ((monitor env msg).Idle (.resuming accountId existing sent)) := by
  refine h.mono fun c hc => ⟨hc.1, fun f r => ?_⟩
  cases c with
  | sendMessage payload => exact absurd rfl (hc.2 payload)
  | _ => rfl

/-- A resumed delivery comes to its end only with the side effects dispatched. -/
theorem follows_resume {existing : Signal} {skipNotify : Bool} :
    Follows (monitor env msg)
      (fun q _ => q = .resuming accountId existing true ∧ existing.threadId.getD "" ≠ "")
      (Stopped receiveCount) (.resuming accountId existing false)
      (resume accountId existing skipNotify) := by
  unfold resume
  dsimp only
  split
  case isTrue => exact stopped_failed trivial
  case isFalse hthread =>
    refine follows_must_bind (only_resuming ?_) (fun _ => stopped_failed trivial) fun thread => ?_
    · exact And.intro ⟨rfl, fun _ h => by cases h⟩ fun _ => trivial
    split
    · exact stopped_failed trivial
    refine follows_must_bind (only_resuming ?_) (fun _ => stopped_failed trivial) fun account => ?_
    · exact And.intro ⟨trivial, fun _ h => by cases h⟩ fun _ => trivial
    rw [Prog.follows_bind, Prog.follows_lift]
    have hretention : (attemptS3Retention existing (billingPlanOf account)).Only
        ((monitor env msg).Idle (.resuming accountId existing false)) := by
      unfold attemptS3Retention
      split
      · split
        · trivial
        · exact only_resuming (only_attempt (fun _ => ⟨trivial, fun _ h => by cases h⟩) _)
      · trivial
    refine hretention.obeys.mono ?_
    rintro q - rfl
    refine follows_must_bind (only_resuming ?_) (fun _ => stopped_failed trivial) fun _ => ?_
    · exact And.intro ⟨trivial, fun _ h => by cases h⟩ fun _ => trivial
    rw [follows_must]
    refine And.intro rfl fun fate answer => ?_
    change Except DbError Unit at answer
    rcases answer with error | u
    · exact stopped_failed trivial
    · exact ⟨rfl, hthread⟩

theorem follows_lookup (hforce : opts.force = false) :
    Follows (monitor env msg) (fun q _ => q = .fresh accountId []) (Stopped receiveCount)
      (.resolved accountId) (lookup env msg receiveCount opts accountId) := by
  unfold lookup
  rw [hforce, if_neg Bool.false_ne_true, Prog.follows_bind, follows_must]
  refine And.intro ⟨rfl, rfl⟩ fun fate answer => ?_
  change Except DbError (Option Signal) at answer
  rcases answer with error | _ | item
  · exact stopped_failed trivial
  · rfl
  · change Follows (monitor env msg) _ _ (Stage.resuming accountId (readSignal env.stale item) false)
      (if _ then _ else _)
    split
    case isTrue =>
      rw [Prog.follows_bind]
      refine follows_resume.mono ?_ fun _ _ h => h
      rintro q - ⟨rfl, hthread⟩
      exact ⟨trivial, fun _ _ => ⟨hthread, rfl⟩⟩
    case isFalse hcount => exact ⟨trivial, fun _ hmore => absurd hmore hcount⟩

/-- **The way to the convergence point.** A delivery that gets there has stored its signal. -/
theorem follows_accept (hforce : opts.force = false) :
    Follows (monitor env msg) Converging (Stopped receiveCount) (start env msg)
      (accept env msg receiveCount opts) := by
  unfold accept
  rw [Prog.follows_bind, follows_must]
  apply obeys_resolve.mono
  rintro q (error | _ | resolved) ⟨hsettled, hq⟩
  · exact stopped_failed hsettled
  · exact stopped_failed hsettled
  · obtain rfl := hq resolved rfl
    change Follows (monitor env msg) _ _ (Stage.resolved resolved.accountId) (_ >>= _)
    rw [Prog.follows_bind]
    refine (follows_lookup hforce).mono ?_ fun _ _ h => h
    rintro q - rfl
    rw [Prog.follows_bind]
    refine follows_receive.mono ?_ fun _ _ h => h
    rintro q received rfl
    rw [Prog.follows_bind]
    refine follows_place.mono ?_ fun _ _ h => h
    rintro q placed ⟨seen, rfl, hplaced⟩
    rw [Prog.follows_bind]
    refine (follows_judge hplaced).mono ?_ fun _ _ h => h
    rintro q accepted ⟨rfl, haccepted⟩
    exact follows_store haccepted

theorem follows_converge {isNew : Bool} {converged : Converged}
    (hrules : SameRules signal converged.signal) :
    Follows (monitor env msg) (fun q _ => q = .stored signal isNew true) (Stopped receiveCount)
      (.stored signal isNew false) (converge opts converged) := by
  unfold converge orElse
  refine Prog.follows_idle_bind (.lift (only_stored ?_)) (fun _ => stopped_stored) fun _ => ?_
  · unfold attemptS3Retention
    split
    · split
      · trivial
      · exact only_attempt stored_attempt _
    · trivial
  refine Prog.follows_idle_bind (only_must (only_stored (.map ?_ _)))
    (fun _ => stopped_stored) fun _ => ?_
  · exact And.intro ⟨trivial, fun _ h => by cases h⟩ fun _ => trivial
  rw [follows_must, Prog.obeys_map]
  refine And.intro hrules fun fate answer => ?_
  change Except DbError Unit at answer
  rcases answer with error | u
  · exact stopped_stored
  · rfl

/-- The stage and the result a delivery ends with. -/
def Ended (receiveCount : Nat) (q : Stage) (result : Except IngestError Unit) : Prop :=
  q.Settled ∧ (result = .ok () → q.MayEnd receiveCount)

/-- **A delivery follows its stages**, whatever is answered and whatever fails. -/
theorem obeys_processInbound (hforce : opts.force = false) :
    (processInbound env msg receiveCount opts).Obeys (monitor env msg) (Ended receiveCount)
      (start env msg) := by
  unfold processInbound
  rw [Prog.obeys_map]
  have hprocess : Follows (monitor env msg) (fun q _ => ∃ signal isNew, q = .stored signal isNew true)
      (Stopped receiveCount) (start env msg) (process env msg receiveCount opts) := by
    unfold process
    rw [Prog.follows_bind]
    refine (follows_accept hforce).mono ?_ fun _ _ h => h
    rintro q converged ⟨signal, isNew, rfl, hrules⟩
    exact (follows_converge hrules).mono (fun q _ hq => ⟨signal, isNew, hq⟩) fun _ _ h => h
  refine Prog.Obeys.mono hprocess ?_
  rintro q ((error | _) | _) hq
  · exact ⟨hq.1, nofun⟩
  · exact ⟨hq.1, fun _ => hq.2 rfl⟩
  · obtain ⟨signal, isNew, rfl⟩ := hq
    exact ⟨trivial, fun _ => trivial⟩

end SesEmailAdapter.Processor.IngestRuns
