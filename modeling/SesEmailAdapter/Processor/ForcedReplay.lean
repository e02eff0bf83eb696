import SesEmailAdapter.Processor.IngestRuns
import SesEmailAdapter.Processor.RecipientAccount

/-! # Forced replays

Deliveries that look no signal up: a mail that is stored already runs through the whole pipeline.
Such a run leaves every row but the mail's own as it is. When it may skip the checks of spoofing
and the status that rules set, the mail ends up on a thread, unless its sender is blocked. -/

namespace SesEmailAdapter.Processor.ForcedReplay
open Lib Lib.Prog
open SesEmailAdapter.Types Database Database.Shared
open Database.SignalsTable (Store signalItem)
open Database.ThreadDatabase Database.AccountDatabase
open Processor.IngestService Processor.InboundMessage
open Processor.IncomingEmail Processor.IngestStages
open Processor.IngestRuns Processor.RecipientAccount
open Processor.RuleOutcome

variable {env : Env} {msg : InboundSignalMessage} {receiveCount : Nat}
  {opts : ProcessInboundOptions} {key : String × String} {accountId signalId : String}
  {s s' s'' : Store} {w : World} {T : Option Fate → Prop} {α : Type}

/-! ## Calls that keep a row -/

/-- Calls that write no row of a key. -/
def KeepsRow (key : String × String) : Cmd → Prop
  | .db (.putSignal signal) => (signal.accountId, signal.signalLookupId) ≠ key
  | .db (.putCalendarEvent signal _) => (signal.accountId, signal.signalLookupId) ≠ key
  | .db (.setCalendarEventRsvp ..) => False
  | .db (.updateSendStatus ..) => False
  | .db (.updateSignal ..) => False
  | _ => True

/-- The row of a key is as it was, and no thread is gone. -/
structure Keeps (key : String × String) (s s' : Store) : Prop where
  row : s'.signals.get key = s.signals.get key
  threads : ∀ k, (s.threads.get k).isSome → (s'.threads.get k).isSome

theorem Keeps.refl (key : String × String) (s : Store) : Keeps key s s := ⟨rfl, fun _ h => h⟩

theorem Keeps.trans (h : Keeps key s s') (h' : Keeps key s' s'') : Keeps key s s'' :=
  ⟨h'.row.trans h.row, fun k hk => h'.threads k (h.threads k hk)⟩

variable {r : Resolved} {signal stored : Signal} {x : Step α} {received : Received}
  {p : IngestProg α} {E : World → Prop} {placed : Placed}

theorem keeps_saveItem (h : (signal.accountId, signal.signalLookupId) ≠ key) :
    Keeps key s (s.saveItem signal) :=
  ⟨KeyedTable.get_put_ne _ _ fun hkey => h hkey.symm, fun _ hk => hk⟩

theorem keeps_putThread (thread : Thread) :
    Keeps key s { s with threads := s.threads.put thread } := by
  refine ⟨rfl, fun k hk => ?_⟩
  simp only [KeyedTable.get_put]
  split
  · rfl
  · exact hk

theorem keeps_exec {c : SignalsTable.Cmd} (h : KeepsRow key (.db c)) (s : Store) :
    Keeps key s (SignalsTable.exec c s).2 := by
  cases c with
  | putSignal signal => exact keeps_saveItem h
  | putCalendarEvent signal respondedAt =>
    simp only [SignalsTable.exec]
    split
    · exact keeps_saveItem h
    · exact .refl key s
  | putNewThread thread =>
    simp only [SignalsTable.exec]
    split
    · exact .refl key s
    · exact keeps_putThread thread
  | updateThread => exact keeps_putThread _
  | setCalendarEventRsvp => exact h.elim
  | updateSendStatus => exact h.elim
  | updateSignal => exact h.elim
  | _ => exact .refl key s

variable {c : Cmd}

theorem keeps_settle (h : KeepsRow key c) (env : Env) (w : World) (fate : Fate) :
    Keeps key w.table (settle env c w fate).2.table := by
  cases c with
  | db c =>
    show Keeps key w.table (settleRequest SignalsTable.exec SignalsTable.failure c w.table fate).2
    rcases settleRequest_store SignalsTable.exec SignalsTable.failure c w.table fate with hs | hs
    · rw [hs]
      exact .refl key w.table
    · rw [hs]
      exact keeps_exec h w.table
  | accounts => exact .refl key w.table
  | ask => exact .refl key w.table
  | attempt => exact .refl key w.table
  | _ => cases fate <;> exact .refl key w.table

/-- One more call that keeps the row. -/
theorem Keeps.settle (h : Keeps key s w.table) (hc : KeepsRow key c) (env : Env)
    (fate : Fate) : Keeps key s (settle env c w fate).2.table :=
  h.trans (keeps_settle hc env w fate)

theorem keeps_only (hp : p.Only (KeepsRow key)) (hw : Keeps key s w.table) :
    p.Leads (service env) T (fun _ w' => Keeps key s w'.table) w := by
  have hkeep : ∀ c (w : World) fate, KeepsRow key c → Keeps key s w.table →
      Keeps key s ((service env).settle c w fate).2.table :=
    fun _ _ fate hc h => h.settle hc env fate
  exact hp.leads hkeep hw

/-! ## The rows of other mails -/

/-- The stages of a delivery that looked no signal up. -/
def Within (accountId : String) : Stage → Prop
  | .fresh account _ => account = accountId
  | .created account _ => account = accountId
  | .orphaned account _ => account = accountId
  | .stored .. => True
  | _ => False

theorem within_next {q : Stage} (h : Within accountId q) (fate : Fate) (answer : c.Answer) :
    Within accountId ((monitor env msg).next q c fate answer) := by
  unfold monitor
  dsimp only
  split
  all_goals first
    | exact h
    | exact h.elim
    | (split <;> first | exact h | trivial)

theorem keepsRow_of_allowed {q : Stage} (h : Within accountId q)
    (hallow : (monitor env msg).allow q c) (hown : ¬ isOwnLookupId key.2)
    (hne : (accountId, msg.compositeMailMessageId) ≠ key) : KeepsRow key c := by
  have hother {signal : Signal} (hsignal : isOwnLookupId signal.signalLookupId) :
      (signal.accountId, signal.signalLookupId) ≠ key := fun heq => hown (heq ▸ hsignal)
  have hmail {signal : Signal} (hsignal : IsSignalOf msg accountId signal) :
      (signal.accountId, signal.signalLookupId) ≠ key := by
    rw [hsignal.1, hsignal.2]
    exact hne
  rcases c with c | _ | _ | _ | _ | _ | _ | _
  case db =>
    cases q with
    | fresh account seen =>
      obtain rfl : account = accountId := h
      cases c with
      | putSignal signal => exact hallow.elim hother fun hsignal => hmail hsignal.1
      | putCalendarEvent => exact hallow.elim
      | setCalendarEventRsvp => exact hallow.elim
      | updateSendStatus => exact hallow.elim
      | updateSignal => exact hallow.elim
      | _ => trivial
    | created account threadId =>
      obtain rfl : account = accountId := h
      cases c with
      | putSignal signal => exact hmail hallow.1
      | _ => exact hallow.elim
    | stored stored isNew sent =>
      cases c with
      | putSignal signal => exact hother hallow
      | putCalendarEvent signal _ => exact hother hallow
      | getSignal => trivial
      | _ => exact hallow.elim
    | orphaned => exact hallow.elim
    | _ => exact h.elim
  all_goals trivial

theorem lookup_forced (hforce : opts.force = true) :
    lookup env msg receiveCount opts accountId = pure () := by
  unfold lookup
  rw [if_pos hforce]

theorem follows_forced (hforce : opts.force = true) (r : Resolved) :
    Follows (monitor env msg) (fun _ _ => True) (Stopped receiveCount) (.fresh r.accountId [])
      (acceptResolved env msg receiveCount opts r >>= converge opts) := by
  unfold acceptResolved
  rw [lookup_forced hforce, pure_bind, Prog.follows_bind, Prog.follows_bind]
  refine follows_receive.mono ?_ fun _ _ h => h
  intro q received hq
  subst hq
  rw [Prog.follows_bind]
  refine follows_place.mono ?_ fun _ _ h => h
  intro q placed ⟨seen, hq, hplaced⟩
  subst hq
  rw [Prog.follows_bind]
  refine (follows_judge hplaced).mono ?_ fun _ _ h => h
  intro q accepted ⟨hq, haccepted⟩
  subst hq
  refine (follows_store haccepted).mono ?_ fun _ _ h => h
  intro q converged ⟨signal, isNew, hq, hrules⟩
  subst hq
  exact (follows_converge hrules).mono (fun _ _ _ => trivial) fun _ _ h => h

/-- **Other rows.** A forced delivery writes no row of another mail, and takes no thread away. -/
theorem processResolved_keeps (hforce : opts.force = true)
    (resolution : Except DbError (Option Resolved)) (w : World) :
    (processResolved env msg receiveCount opts resolution).Leads (service env) T
      (fun _ w' => ∀ key : String × String, ¬ isOwnLookupId key.2 →
        (∀ r, resolution = .ok (some r) → (r.accountId, msg.compositeMailMessageId) ≠ key) →
          Keeps key w.table w'.table) w := by
  have hstart : ∀ key : String × String, Keeps key w.table w.table := fun key => .refl key w.table
  match resolution with
  | .error error => exact ⟨fun key _ _ => hstart key, fun _ key _ _ => hstart key⟩
  | .ok none => exact ⟨fun key _ _ => hstart key, fun _ key _ _ => hstart key⟩
  | .ok (some r) =>
    refine Leads.map ((Obeys.leads (fun q w' => Within r.accountId q ∧ ∀ key : String × String,
      ¬ isOwnLookupId key.2 → (r.accountId, msg.compositeMailMessageId) ≠ key →
        Keeps key w.table w'.table)
      ?_ (follows_forced hforce r) ⟨rfl, fun key _ _ => hstart key⟩).mono ?_)
    · intro q c w' fate ⟨hwithin, hkeep⟩ hallow
      refine ⟨within_next hwithin fate _, fun key hown hne => ?_⟩
      exact (hkeep key hown hne).settle (keepsRow_of_allowed hwithin hallow hown hne) env fate
    · intro _ w' ⟨q, hq, _⟩ key hown hne
      exact hq.2 key hown (hne r rfl)

/-! ## What becomes of the mail -/

/-- The row of the mail is active on a thread of its account. -/
structure ActiveOn (key : String × String) (signalId : String) (s : Store) (stored : Signal)
    (threadId : String) : Prop where
  row : s.signals.get key = some (signalItem stored)
  id : stored.id = signalId
  active : stored.status = .active
  threaded : stored.threadId = some threadId
  named : threadId ≠ ""
  thread : (s.threads.get (key.1, threadId)).isSome

theorem ActiveOn.keep {threadId : String}
    (h : ActiveOn key signalId s stored threadId) (hkeep : Keeps key s s') :
    ActiveOn key signalId s' stored threadId :=
  { h with row := hkeep.row.trans h.row, thread := hkeep.threads _ h.thread }

/-- An explicit record of the alias blocks the sender of a mail, as the mail lies in S3. -/
def SenderBlocked (env : Env) (s : AccountsTable.Store) (accountId s3Key recipientAddress : String) :
    Prop :=
  globalAlias env.mailDomain s recipientAddress ≠ none ∧ ∃ tick sanitized item,
    env.answer tick (.sanitize s3Key accountId) = .ok sanitized ∧
      s.senders.get (accountId, recipientAddress, getETLD1 env sanitized.parsed.sender.address) =
        some item ∧ item.policy ≠ .allow

/-- What a replay makes of the row of its mail: nothing, an active signal on a thread, or, where
the sender is blocked, a signal without a thread. -/
inductive Replayed (blocked : Prop) (key : String × String) (signalId : String) (s s' : Store) :
    Prop
  | kept (h : s'.signals.get key = s.signals.get key)
  | active {stored : Signal} {threadId : String} (h : ActiveOn key signalId s' stored threadId)
  | rejected {stored : Signal} (hblocked : blocked)
      (hrow : s'.signals.get key = some (signalItem stored)) (hid : stored.threadId = none)

variable {blocked : Prop}

theorem Replayed.keep (h : Replayed blocked key signalId s s')
    (hkeep : Keeps key s' s'') : Replayed blocked key signalId s s'' := by
  cases h with
  | kept hrow => exact .kept (hkeep.row.trans hrow)
  | active hactive => exact .active (hactive.keep hkeep)
  | rejected hblocked hrow hid => exact .rejected hblocked (hkeep.row.trans hrow) hid

theorem Keeps.replayed (h : Keeps key s s') : Replayed blocked key signalId s s' := .kept h.row

/-- A part that writes other rows only. -/
theorem ensures_keeps (hx : Only (KeepsRow key) x.run) (hs : Keeps key s w.table) :
    Ensures (service env) T (fun _ w' => Keeps key s w'.table)
      (fun w' => Replayed blocked key signalId s w'.table) x w :=
  hx.ensures (fun w' : World => Keeps key s w'.table) (fun _ _ fate hc h => h.settle hc env fate)
    (fun _ h => h.replayed) hs

theorem ensures_must {p : IngestProg (Except DbError α)} {Q : α → World → Prop}
    (hp : p.Leads (service env) T (Returned Q E) w) : Ensures (service env) T Q E (must p) w :=
  Leads.map (hp.mono fun r _ hr => match r with
    | none => hr
    | some (.error _) => hr
    | some (.ok _) => hr)

/-- A signal that is saved, with or without a report, is in its row. -/
theorem ensures_saveSignal (hs : E w) (hsaved : ∀ w', w'.table = w.table.saveItem signal → E w') :
    Ensures (service env) T (fun _ w' => w'.table = w.table.saveItem signal) E
      (must (db (saveSignal signal))) w := by
  refine ensures_must ⟨fun _ => hs, fun fate _ => ?_⟩
  cases fate with
  | done => exact ⟨rfl, fun _ => hsaved _ rfl⟩
  | refused => exact ⟨hs, fun _ => hs⟩
  | lost => exact ⟨hsaved _ rfl, fun _ => hsaved _ rfl⟩

theorem get_saveItem (signal : Signal) (s : Store) :
    (s.saveItem signal).signals.get (signal.accountId, signal.signalLookupId) =
      some (signalItem signal) :=
  KeyedTable.get_put_self _ _

/-! ## The sender -/

/-- Calls before the sender is checked. -/
def Early : Cmd → Prop
  | .ask _ => True
  | .attempt _ => True
  | .accounts (.putAlias _) => True
  | _ => False

/-- A world with the table and the senders of another. -/
structure Unwritten (w w' : World) : Prop where
  table : w'.table = w.table
  senders : w'.accounts.senders = w.accounts.senders

variable {w' : World}

theorem Unwritten.keeps (h : Unwritten w w') : Keeps key w.table w'.table := by
  rw [h.table]
  exact .refl key w.table

theorem unwritten_settle (h : Early c) (hw : Unwritten w w') (fate : Fate) :
    Unwritten w (settle env c w' fate).2 := by
  cases c with
  | ask => exact ⟨hw.table, hw.senders⟩
  | attempt => exact hw
  | accounts c =>
    cases c with
    | putAlias item => cases fate <;> exact ⟨hw.table, hw.senders⟩
    | _ => exact h.elim
  | _ => exact h.elim

theorem ensures_early (hx : Only Early x.run) (hw : Unwritten w w') :
    Ensures (service env) T (fun _ => Unwritten w)
      (fun w' => Replayed blocked key signalId w.table w'.table) x w' :=
  hx.ensures (Unwritten w) (fun _ _ fate hc h => unwritten_settle hc h fate)
    (fun _ h => h.keeps.replayed) hw

theorem ensures_sanitizeEmail (hw : Unwritten w w') :
    Ensures (service env) T
      (fun sanitized w' => Unwritten w w' ∧
        ∃ tick, env.answer tick (.sanitize msg.s3Key accountId) = .ok sanitized)
      (fun w' => Replayed blocked key signalId w.table w'.table)
      (sanitizeEmail msg accountId) w' := by
  unfold sanitizeEmail
  refine ensures_bind (P := fun sanitized w' => Unwritten w w' ∧
    ∃ tick, env.answer tick (.sanitize msg.s3Key accountId) = .ok sanitized)
    (ensures_must ⟨fun _ => hw.keeps.replayed, fun fate _ => ?_⟩) fun sanitized w1 h1 => ?_
  · have hnext : Unwritten w { w' with tick := w'.tick + 1 } := ⟨hw.table, hw.senders⟩
    show (Prog.ret (env.answer w'.tick (.sanitize msg.s3Key accountId))).Leads _ _ _
      { w' with tick := w'.tick + 1 }
    cases hanswer : env.answer w'.tick (.sanitize msg.s3Key accountId) with
    | error error => exact ⟨hnext.keeps.replayed, fun _ => hnext.keeps.replayed⟩
    | ok sanitized => exact ⟨⟨hnext, _, hanswer⟩, fun _ => hnext.keeps.replayed⟩
  · split
    · exact ensures_pure h1 h1.1.keeps.replayed
    · refine ensures_bind (ensures_early (only_must (only_ask (fun _ => trivial) _)) h1.1) ?_
      intro _ w2 h2
      exact ensures_throw h2.keeps.replayed

theorem ensures_getSender {aliasAddress senderDomain : String} (hw : Unwritten w w') :
    Ensures (service env) T
      (fun sender w' => Unwritten w w' ∧ ∀ item, sender = some item →
        w.accounts.senders.get (accountId, aliasAddress, senderDomain) = some item)
      (fun w' => Replayed blocked key signalId w.table w'.table)
      (must (accounts (getSender accountId aliasAddress senderDomain))) w' := by
  have hE : Replayed blocked key signalId w.table w'.table := hw.keeps.replayed
  refine ensures_must ?_
  unfold getSender
  split
  · exact ⟨⟨hw, by simp⟩, fun _ => hE⟩
  · unfold withAddress
    cases parseAddress aliasAddress with
    | none => exact ⟨hE, fun _ => hE⟩
    | some parts =>
      refine ⟨fun _ => hE, fun fate _ => ?_⟩
      cases fate with
      | done => exact ⟨⟨hw, fun item hitem => hw.senders ▸ hitem⟩, fun _ => hE⟩
      | refused => exact ⟨hE, fun _ => hE⟩
      | lost => exact ⟨hE, fun _ => hE⟩

/-- The row of a key holds a signal. -/
def Holds (key : String × String) (signal : Signal) (w : World) : Prop :=
  w.table.signals.get key = some (signalItem signal)

theorem ensures_holds (hE : ∀ w, Holds key signal w → E w) (hx : Only (KeepsRow key) x.run)
    (hw : Holds key signal w) :
    Ensures (service env) T (fun _ => Holds key signal) E x w :=
  hx.ensures _ (fun _ w' fate hc h => (keeps_settle hc env w' fate).row.trans h) hE hw

theorem ensures_reject {Q : α → World → Prop} {senderETLD1 : String}
    (hs : Keeps key s w.table) (hkey : (signal.accountId, signal.signalLookupId) = key)
    (hid : signal.threadId = none) (hblocked : blocked) :
    Ensures (service env) T Q (fun w' => Replayed blocked key signalId s w'.table)
      (reject msg senderETLD1 signal) w := by
  have hE : ∀ w', Holds key signal w' → Replayed blocked key signalId s w'.table :=
    fun _ hrow => .rejected hblocked hrow hid
  have hsaved : ∀ w', w'.table = w.table.saveItem signal → Holds key signal w' := by
    intro w' hw'
    rw [Holds, hw', ← hkey]
    exact get_saveItem signal w.table
  unfold reject
  refine ensures_bind (ensures_saveSignal hs.replayed fun w' hw' => hE w' (hsaved w' hw')) ?_
  intro _ w1 h1
  refine ensures_bind (ensures_holds hE (.lift (only_attempt (fun _ => trivial) _)) (hsaved w1 h1)) ?_
  intro _ w2 h2
  refine ensures_bind (ensures_holds hE (.lift (only_countSignal (fun _ => trivial) _)) h2) ?_
  intro _ w3 h3
  exact ensures_throw (hE w3 h3)

/-- The early check saves a rejected signal only where the sender has a record that blocks it. -/
theorem ensures_blockSender {senderETLD1 : String} {parsed : ParsedMime}
    {sender : Option AliasSender} (hw : Unwritten w w')
    (hkey : (accountId, msg.compositeMailMessageId) = key)
    (hblocked : ∀ item, sender = some item → item.policy ≠ .allow → blocked) :
    Ensures (service env) T
      (fun _ w' => Unwritten w w' ∧ (sender.bind fun item => senderStatus item.policy) = none)
      (fun w' => Replayed blocked key signalId w.table w'.table)
      (blockSender msg accountId senderETLD1 parsed sender) w' := by
  unfold blockSender
  cases hstatus : sender.bind fun item => senderStatus item.policy with
  | none => exact ensures_pure ⟨hw, rfl⟩ hw.keeps.replayed
  | some status =>
    obtain ⟨item, hitem, hpolicy⟩ := Option.bind_eq_some_iff.mp hstatus
    have hblocks : item.policy ≠ .allow := by
      intro hallow
      rw [hallow] at hpolicy
      cases hpolicy
    refine ensures_bind (ensures_early (.lift (only_ask (fun _ => trivial) _)) hw) fun now w1 h1 => ?_
    refine ensures_bind (ensures_early (.lift (only_generateId (fun _ => trivial) _)) h1) ?_
    intro id w2 h2
    exact ensures_reject h2.keeps hkey rfl (hblocked item hitem hblocks)

theorem blockSpoofed_skipped (hskip : opts.unsafeSkipDmarc = true) :
    blockSpoofed msg opts accountId = pure () := by
  unfold blockSpoofed
  rw [if_neg fun h => h.1 hskip]

/-- A replay comes to the classifier with no record that blocks the sender. -/
theorem ensures_receive (hskip : opts.unsafeSkipDmarc = true)
    (hkey : (r.accountId, msg.compositeMailMessageId) = key)
    (hresolved : r.aliasConfig = globalAlias env.mailDomain w.accounts msg.primaryRecipient) :
    Ensures (service env) T
      (fun received w' => w'.table = w.table ∧
        (received.sender.bind fun item => senderStatus item.policy) = none)
      (fun w' => Replayed (SenderBlocked env w.accounts r.accountId msg.s3Key msg.primaryRecipient)
        key signalId w.table w'.table)
      (receive env msg opts r) w := by
  unfold receive
  rw [blockSpoofed_skipped hskip, pure_bind]
  refine ensures_bind (ensures_early (only_must (only_ask (fun _ => trivial) _)) ⟨rfl, rfl⟩) ?_
  intro account w1 h1
  refine ensures_bind (ensures_early (only_ensureAliasRecord (fun _ => trivial) (fun _ => trivial)
    fun _ _ _ => trivial) h1) ?_
  intro _ w2 h2
  refine ensures_bind (ensures_sanitizeEmail h2) ?_
  intro sanitized w3 ⟨h3, tick, hsanitized⟩
  dsimp only
  refine ensures_bind (ensures_getSender h3) ?_
  intro sender w4 ⟨h4, hsender⟩
  refine ensures_bind (ensures_blockSender h4 hkey fun item hitem hpolicy => ?_) ?_
  · split at hitem
    case isTrue hsome =>
      refine ⟨?_, tick, sanitized, item, hsanitized, hsender item hitem, hpolicy⟩
      rw [← hresolved]
      exact Option.isSome_iff_ne_none.mp hsome
    case isFalse => cases hitem
  · intro _ w5 ⟨h5, hnone⟩
    exact ensures_pure ⟨h5.table, hnone⟩ h5.keeps.replayed

/-! ## The thread -/

/-- A search that leaves the table as it is, and finds threads of the account in it. -/
def Finds (accountId : String) (s : Store) (r : Option (Option Thread)) (w : World) : Prop :=
  w.table = s ∧ ∀ thread, r = some (some thread) →
    s.threads.get (accountId, thread.id) = some thread

theorem finds_none (hw : w.table = s) : Finds accountId s none w := ⟨hw, fun _ h => by cases h⟩

theorem finds_ret {found : Option Thread} (hw : w.table = s)
    (h : ∀ thread, found = some thread → s.threads.get (accountId, thread.id) = some thread) :
    (.ret found : IngestProg (Option Thread)).Leads (service env) T (Finds accountId s) w :=
  ⟨⟨hw, fun thread hthread => h thread (Option.some.inj hthread)⟩, fun _ => finds_none hw⟩

theorem finds_miss (hw : w.table = s) :
    (.ret none : IngestProg (Option Thread)).Leads (service env) T (Finds accountId s) w :=
  finds_ret hw fun _ h => by cases h

theorem fetchThread_finds (threadId : Option String) (hw : w.table = s) :
    (fetchThread accountId threadId).Leads (service env) T (Finds accountId s) w := by
  cases threadId with
  | none => exact finds_miss hw
  | some threadId =>
    refine ⟨fun _ => finds_none hw, fun fate _ => ?_⟩
    cases fate with
    | done =>
      refine finds_ret hw fun thread hthread => ?_
      change w.table.threads.get (accountId, threadId) = some thread at hthread
      have hkey : SignalsTable.threadKey thread = (accountId, threadId) :=
        KeyedTable.key_of_get hthread
      have hid : thread.id = threadId := congrArg Prod.snd hkey
      rw [hid, ← hw]
      exact hthread
    | refused => exact finds_miss hw
    | lost => exact finds_miss hw

theorem matchGroupingKey_finds (groupingKey : Option String) (hw : w.table = s) :
    (matchGroupingKey accountId groupingKey).Leads (service env) T (Finds accountId s) w := by
  unfold matchGroupingKey
  split
  · exact finds_miss hw
  · refine ⟨fun _ => finds_none hw, fun fate _ => ?_⟩
    cases fate with
    | done =>
      refine finds_ret hw fun thread hthread => ?_
      have hmem := List.mem_filter.mp (List.mem_of_head? hthread)
      have hmatch := of_decide_eq_true hmem.2
      rw [← hmatch.1, ← hw]
      exact KeyedTable.mem_rows_iff.mp hmem.1
    | refused => exact finds_miss hw
    | lost => exact finds_miss hw

/-- Requests that only read, questions, and efforts. -/
def Reads : Cmd → Prop
  | .ask _ => True
  | .attempt _ => True
  | .db (.querySignals ..) => True
  | .db (.querySignalsByGsi3 _) => True
  | .db (.getThread ..) => True
  | _ => False

theorem reads_settle (hc : Reads c) (env : Env) (w : World) (fate : Fate) :
    (settle env c w fate).2.table = w.table ∧ (settle env c w fate).2.accounts = w.accounts := by
  cases c with
  | ask => exact ⟨rfl, rfl⟩
  | attempt => exact ⟨rfl, rfl⟩
  | db c =>
    cases c with
    | querySignals => cases fate <;> exact ⟨rfl, rfl⟩
    | querySignalsByGsi3 => cases fate <;> exact ⟨rfl, rfl⟩
    | getThread => cases fate <;> exact ⟨rfl, rfl⟩
    | _ => exact hc.elim
  | _ => exact hc.elim

theorem reads_leads (hp : p.Only Reads) (w : World) :
    p.Leads (service env) T
      (fun _ w' => w'.table = w.table ∧ w'.accounts = w.accounts) w := by
  have hkeep : ∀ c (w' : World) fate, Reads c → w'.table = w.table ∧ w'.accounts = w.accounts →
      ((service env).settle c w' fate).2.table = w.table ∧
        ((service env).settle c w' fate).2.accounts = w.accounts := fun c w' fate hc h =>
    ⟨(reads_settle hc env w' fate).1.trans h.1, (reads_settle hc env w' fate).2.trans h.2⟩
  exact hp.leads hkeep ⟨rfl, rfl⟩

theorem matchInReplyTo_finds (parsed : ParsedMime) (hw : w.table = s) :
    (matchInReplyTo accountId parsed).Leads (service env) T (Finds accountId s) w := by
  unfold matchInReplyTo
  split
  · exact finds_miss hw
  · have hread : ∀ gsi3pk, (db (findSignalByEmailMessageId gsi3pk)).Only Reads :=
      fun _ => only_db ⟨trivial, fun _ => trivial⟩
    refine Leads.bind ((reads_leads (hread _) w).mono fun r w1 h1 => ?_)
    match r with
    | none => exact finds_none (h1.1.trans hw)
    | some signalResult => exact fetchThread_finds _ (h1.1.trans hw)

theorem matchSimilarity_finds (recipientAddress : String) (embedding : List Int)
    (hw : w.table = s) :
    (matchSimilarity accountId recipientAddress embedding).Leads (service env) T
      (Finds accountId s) w :=
  ⟨fun _ => finds_none hw, fun _ _ => fetchThread_finds _ hw⟩

theorem matchThread_finds (recipientAddress : String) (parsed : ParsedMime)
    (groupingKey : Option String) (embedding : List Int) (hw : w.table = s) :
    (matchThread accountId recipientAddress parsed groupingKey embedding).Leads (service env) T
      (Finds accountId s) w := by
  unfold matchThread
  refine Leads.bind ((matchGroupingKey_finds groupingKey hw).mono fun r w1 h1 => ?_)
  match r with
  | none => exact h1
  | some tier1 =>
    refine Leads.bind ((matchInReplyTo_finds parsed h1.1).mono fun r w2 h2 => ?_)
    match r with
    | none => exact h2
    | some tier15 =>
      refine Leads.bind ((matchSimilarity_finds recipientAddress embedding h2.1).mono
        fun r w3 h3 => ?_)
      match r with
      | none => exact h3
      | some tier2 =>
        refine @finds_ret env accountId s _ T _ h3.1 fun thread hthread => ?_
        cases tier1 with
        | some found => exact h1.2 thread (congrArg some hthread)
        | none =>
          cases tier15 with
          | some found => exact h2.2 thread (congrArg some hthread)
          | none => exact h3.2 thread (congrArg some hthread)

/-- Where a replay is about to put its mail. -/
structure PlacedFor (accountId signalId : String) (s : Store) (placed : Placed) : Prop where
  id : placed.signalId = signalId
  active : placed.args.status = .active
  account : placed.args.accountId = accountId
  named : placed.thread.id ≠ ""
  matched : placed.matchedThread.isSome → (s.threads.get (accountId, placed.thread.id)).isSome
  unmatched : placed.matchedThread = none → placed.thread.accountId = accountId

theorem threadId_ne_empty (env : Env) (signalId : String) :
    deriveThreadIdFromSignalId env signalId ≠ "" := by
  intro h
  have hlist := congrArg String.toList h
  simp [deriveThreadIdFromSignalId] at hlist

theorem ensures_reads (hx : Only Reads x.run) (hw : w.table = s) :
    Ensures (service env) T (fun _ w' => w'.table = s)
      (fun w' => Replayed blocked key signalId s w'.table) x w :=
  hx.ensures (fun w' : World => w'.table = s)
    (fun _ w' fate hc h => (reads_settle hc env w' fate).1.trans h) (fun _ h => .kept (by rw [h])) hw

theorem ensures_threadShell {args : SignalArgs} {groupingKey : Option String}
    {matchedThread : Option Thread} (hw : w.table = s) :
    Ensures (service env) T
      (fun thread w' => w'.table = s ∧
        (∀ found, matchedThread = some found → thread.id = found.id) ∧
        (matchedThread = none → thread.accountId = args.accountId ∧ thread.id ≠ ""))
      (fun w' => Replayed blocked key signalId s w'.table)
      (liftM (threadShell env msg args groupingKey matchedThread signalId) : Step Thread) w := by
  have hE : Replayed blocked key signalId s w.table := .kept (by rw [hw])
  refine ensures_lift ?_
  cases matchedThread with
  | some found =>
    refine ⟨⟨hw, fun other h => ?_, fun h => by cases h⟩, fun _ => hE⟩
    cases h
    rfl
  | none =>
    refine ⟨fun _ => hE, fun fate _ => ⟨⟨hw, fun _ h => (by cases h), fun _ => ?_⟩, fun _ => hE⟩⟩
    exact ⟨rfl, threadId_ne_empty env signalId⟩

theorem ensures_place
    (hforce : opts.forceSignalId = some signalId) (hnamed : ∀ thread ∈ s.threads.rows, thread.id ≠ "")
    (hw : w.table = s) :
    Ensures (service env) T
      (fun placed w' => w'.table = s ∧ PlacedFor r.accountId signalId s placed)
      (fun w' => Replayed blocked key signalId s w'.table) (place env msg opts r received) w := by
  have hask : ∀ e, Reads (.ask e) := fun _ => trivial
  unfold IncomingEmail.place
  refine ensures_bind (ensures_reads (.lift ?_) hw) ?_
  · exact (only_ask hask _).bind fun _ => (only_ask hask _).bind fun _ => trivial
  intro classified w1 h1
  refine ensures_bind (ensures_reads (only_must (only_ask hask _)) h1) ?_
  intro embedding w2 h2
  refine ensures_bind (ensures_reads (.lift (only_ask hask _)) h2) ?_
  intro now w3 h3
  dsimp only
  refine ensures_bind (P := fun found w' => Finds r.accountId s (some found) w') (ensures_lift
    ((matchThread_finds _ _ _ _ h3).mono fun result w' hfinds => ?_)) ?_
  · match result with
    | none => exact .kept (by rw [hfinds.1])
    | some found => exact hfinds
  intro matchedThread w4 ⟨h4, hmatched⟩
  have hid : inboundSignalId opts = .ret signalId := by
    unfold inboundSignalId
    rw [hforce]
    rfl
  rw [hid]
  refine ensures_bind (P := fun id w' => id = signalId ∧ w'.table = s)
    (ensures_pure ⟨rfl, h4⟩ (.kept (by rw [h4]))) ?_
  intro id w5 ⟨hid, h5⟩
  subst hid
  refine ensures_bind (ensures_threadShell h5) ?_
  intro shell w6 ⟨h6, hfound, hnew⟩
  refine ensures_pure ⟨h6, rfl, rfl, rfl, ?_, fun hsome => ?_, fun h => (hnew h).1⟩
    (.kept (by rw [h6]))
  · cases matchedThread with
    | none => exact (hnew rfl).2
    | some found =>
      show shell.id ≠ ""
      rw [hfound found rfl]
      exact hnamed found (KeyedTable.mem_rows_of_get (hmatched found rfl))
  · obtain ⟨found, hsome⟩ := Option.isSome_iff_exists.mp hsome
    subst hsome
    show (s.threads.get (r.accountId, shell.id)).isSome
    rw [hfound found rfl, hmatched found rfl]
    rfl

/-! ## The rules -/

theorem keepsRow_own (hown : ¬ isOwnLookupId key.2) (signal : Signal)
    (h : isOwnLookupId signal.signalLookupId) : KeepsRow key (.db (.putSignal signal)) := by
  intro heq
  exact hown (heq ▸ h)

theorem keepsRow_of_quiet (hown : ¬ isOwnLookupId key.2) (h : Quiet msg accountId c) :
    KeepsRow key c := by
  cases c with
  | db c =>
    cases c with
    | putSignal signal => exact keepsRow_own hown signal h
    | putCalendarEvent => exact h.elim
    | setCalendarEventRsvp => exact h.elim
    | updateSendStatus => exact h.elim
    | updateSignal => exact h.elim
    | _ => trivial
  | _ => trivial

theorem applyRules_leads (hown : ¬ isOwnLookupId key.2) (signal : Signal) (isMatchedThread : Bool)
    (rules : List Rule) (thread : Thread) (matchedRules : List MatchedRuleResult)
    (hw : Keeps key s w.table) :
    (applyRules signal isMatchedThread rules thread matchedRules).Leads (service env) T
      (fun r w' => Keeps key s w'.table ∧ ∀ result, r = some result →
        result.2.id = thread.id ∧ result.2.accountId = thread.accountId) w := by
  induction rules generalizing thread matchedRules w with
  | nil =>
    refine ⟨⟨hw, fun result h => ?_⟩, fun _ => ⟨hw, fun _ h => by cases h⟩⟩
    cases h
    exact ⟨rfl, rfl⟩
  | cons rule rules ih =>
    refine ⟨fun _ => ⟨hw, fun _ h => by cases h⟩, fun fate _ => ?_⟩
    generalize ((service env).settle (.ask (.evaluate rule ⟨signal, thread, isMatchedThread⟩)) w
      fate).1 = evalResult
    change RuleEvalResult at evalResult
    have hasked : Keeps key s ((service env).settle
        (.ask (.evaluate rule ⟨signal, thread, isMatchedThread⟩)) w fate).2.table := hw
    change Leads _ _ _ (if _ then _ else _) _
    split
    · exact ih thread matchedRules hasked
    · have hnote : (noteWarnings rule thread.id evalResult.warnings).Only (KeepsRow key) :=
        only_noteWarnings (fun _ => trivial) (keepsRow_own hown) _ _ _
      refine Leads.bind ((keeps_only hnote hasked).mono fun r w1 h1 => ?_)
      match r with
      | none => exact ⟨h1, fun _ h => by cases h⟩
      | some () =>
        split
        · exact ih thread matchedRules h1
        · exact (ih _ _ h1).mono fun r w' h => h

/-- With the status forced, no rule and no policy keeps a mail off the threads. -/
theorem applyDisposition_skipped (hskip : opts.skipAllMatchedRuleStatusActions = true)
    (senderETLD1 : String) (args : SignalArgs) (r : Resolved) (filterMode : UnknownSenderPolicy)
    (labels : List String) (matchedRules : List MatchedRuleResult) :
    applyDisposition msg opts senderETLD1 args (decideOutcome opts r msg.primaryRecipient
      senderETLD1 filterMode labels matchedRules) = pure () := by
  have houtcome : (decideOutcome opts r msg.primaryRecipient senderETLD1 filterMode labels
      matchedRules).outcome = withoutStatusActions (deriveOutcome matchedRules) := by
    unfold decideOutcome
    rw [hskip]
    simp
  unfold applyDisposition
  rw [houtcome]
  rfl

/-- What a replay is about to save. -/
structure AcceptedFor (key : String × String) (signalId : String) (s : Store) (placed : Placed)
    (accepted : Accepted) : Prop where
  row : (accepted.signal.accountId, accepted.signal.signalLookupId) = key
  id : accepted.signal.id = signalId
  active : accepted.signal.status = .active
  threaded : accepted.signal.threadId = some accepted.thread.id
  named : accepted.thread.id ≠ ""
  matched : placed.matchedThread.isSome → (s.threads.get (key.1, accepted.thread.id)).isSome
  unmatched : placed.matchedThread = none → accepted.thread.accountId = key.1

theorem ensures_judge
    (hskip : opts.skipAllMatchedRuleStatusActions = true) (hown : ¬ isOwnLookupId key.2)
    (hkey : (r.accountId, msg.compositeMailMessageId) = key)
    (hsender : (received.sender.bind fun item => senderStatus item.policy) = none)
    (hplaced : PlacedFor r.accountId signalId s placed) (hw : w.table = s) :
    Ensures (service env) T
      (fun accepted w' => Keeps key s w'.table ∧ AcceptedFor key signalId s placed accepted)
      (fun w' => Replayed blocked key signalId s w'.table) (judge msg opts r received placed) w := by
  have hstart : Keeps key s w.table := by
    rw [hw]
    exact .refl key s
  have hask : ∀ e, KeepsRow key (.ask e) := fun _ => trivial
  unfold judge
  rw [hsender]
  dsimp only
  refine ensures_bind (ensures_keeps (only_must (only_ask hask _)) hstart) ?_
  intro rules w1 h1
  refine ensures_bind (P := fun result w' => Keeps key s w'.table ∧
    result.2.id = placed.thread.id ∧ result.2.accountId = placed.thread.accountId) (ensures_lift
    ((applyRules_leads hown _ _ rules placed.thread [] h1).mono fun result w' h => ?_)) ?_
  · match result with
    | none => exact h.1.replayed
    | some result => exact ⟨h.1, h.2 result rfl⟩
  intro ⟨matchedRules, thread⟩ w2 ⟨h2, hid, haccount⟩
  dsimp only at hid haccount ⊢
  rw [applyDisposition_skipped hskip, pure_bind]
  refine ensures_bind (ensures_keeps (only_autoApprove.mono fun _ hc =>
    keepsRow_of_quiet hown hc) h2) ?_
  intro _ w3 h3
  refine ensures_bind (ensures_keeps (only_must (only_ask hask _)) h3) ?_
  intro calendar w4 h4
  refine ensures_bind (ensures_keeps (.lift (only_ask hask _)) h4) ?_
  intro secondary w5 h5
  obtain ⟨update, hfinal⟩ := withFinalWorkflow_eq matchedRules
    (buildSignal msg placed.args (some placed.thread.id) placed.signalId)
  rw [hfinal]
  subst hkey
  refine ensures_pure ⟨h5, ?_, hplaced.id, hplaced.active, congrArg some hid.symm, ?_, ?_, ?_⟩
    h5.replayed
  · exact congrArg (·, msg.compositeMailMessageId) hplaced.account
  · exact hid ▸ hplaced.named
  · exact fun hsome => hid ▸ hplaced.matched hsome
  · exact fun hnone => haccount.trans (hplaced.unmatched hnone)

/-! ## The writes -/

theorem exec_putNewThread (thread : Thread) (s : Store) :
    SignalsTable.exec (.putNewThread thread) s =
      if (s.threads.get (thread.accountId, thread.id)).isSome then (.error .conditionFailed, s)
      else (.ok (), { s with threads := s.threads.put thread }) := by
  simp only [SignalsTable.exec]
  cases s.threads.get (thread.accountId, thread.id) with
  | none => rfl
  | some existing => rfl

theorem createThread_leads {thread : Thread} (hw : Keeps key s w.table) :
    (db (createThread thread)).Leads (service env) T
      (fun r w' => Keeps key s w'.table ∧ (r = some (.ok ()) →
        (w'.table.threads.get (thread.accountId, thread.id)).isSome)) w := by
  have hlost : Keeps key s (SignalsTable.exec (.putNewThread thread) w.table).2 := by
    refine hw.trans (keeps_exec ?_ w.table)
    trivial
  refine ⟨fun _ => ⟨hw, fun h => by cases h⟩, fun fate _ => ?_⟩
  cases fate with
  | refused => exact ⟨⟨hw, fun h => by cases h⟩, fun _ => ⟨hw, fun h => by cases h⟩⟩
  | lost => exact ⟨⟨hlost, fun h => by cases h⟩, fun _ => ⟨hlost, fun h => by cases h⟩⟩
  | done =>
    simp only [service, IngestService.settle, SignalsTable.settle, settleRequest,
      exec_putNewThread]
    cases hget : w.table.threads.get (thread.accountId, thread.id) with
    | none =>
      have hkeep : Keeps key s { w.table with threads := w.table.threads.put thread } :=
        hw.trans (keeps_putThread thread)
      refine ⟨⟨hkeep, fun _ => ?_⟩, fun _ => ⟨hkeep, fun h => by cases h⟩⟩
      exact Option.isSome_iff_exists.mpr ⟨thread, KeyedTable.get_put_self _ _⟩
    | some existing =>
      -- the row is there, and stays whatever becomes of the read of it
      have hthere : (w.table.threads.get (thread.accountId, thread.id)).isSome :=
        Option.isSome_iff_exists.mpr ⟨existing, hget⟩
      refine Leads.mono (Q := fun _ w' => w'.table = w.table ∧ w'.accounts = w.accounts) ?_
        fun _ w' h => ⟨h.1 ▸ hw, fun _ => h.1 ▸ hthere⟩
      show Leads (service env) T _ _ _
      refine reads_leads ?_ w
      refine And.intro trivial fun answer => ?_
      change Except DbError (Option Thread) at answer
      obtain error | _ | other := answer
      · trivial
      · trivial
      · change Only _ (Prog.embed _ _ (if _ then _ else _))
        split <;> trivial

theorem ensures_saveThread {accepted : Accepted}
    (haccepted : AcceptedFor key signalId s placed accepted) (hw : Keeps key s w.table) :
    Ensures (service env) T
      (fun _ w' => Keeps key s w'.table ∧ (w'.table.threads.get (key.1, accepted.thread.id)).isSome)
      (fun w' => Replayed blocked key signalId s w'.table)
      (saveThread key.1 placed.matchedThread accepted.thread) w := by
  unfold saveThread
  cases hmatched : placed.matchedThread with
  | some found =>
    refine (ensures_keeps ?_ hw).mono fun _ w' hkeep => ⟨hkeep, hkeep.threads _ ?_⟩
    · refine .bindStop (.lift (only_ask (fun _ => trivial) _)) fun now => only_must ?_
      exact only_db ⟨trivial, fun _ => trivial⟩
    · exact haccepted.matched (by rw [hmatched]; rfl)
  | none =>
    have haccount := haccepted.unmatched hmatched
    refine ensures_bind (P := fun result w' => Keeps key s w'.table ∧ (result = .ok () →
      (w'.table.threads.get (key.1, accepted.thread.id)).isSome)) (ensures_lift
      ((createThread_leads hw).mono fun result w' h => ?_)) ?_
    · match result with
      | none => exact h.1.replayed
      | some result =>
        rw [haccount] at h
        exact ⟨h.1, fun hok => h.2 (congrArg some hok)⟩
    intro result w1 ⟨h1, hthread⟩
    match result with
    | .ok () => exact ensures_pure ⟨h1, hthread rfl⟩ h1.replayed
    | .error (.db error) => exact ensures_throw h1.replayed
    | .error (.threadIdCollision threadId) => exact ensures_throw h1.replayed

/-- A part that comes after the mail was saved. -/
theorem ensures_active {threadId : String}
    (hx : Only (KeepsRow key) x.run) (hw : ActiveOn key signalId w.table stored threadId) :
    Ensures (service env) T (fun _ w' => ActiveOn key signalId w'.table stored threadId)
      (fun w' => Replayed blocked key signalId s w'.table) x w :=
  hx.ensures (fun w' : World => ActiveOn key signalId w'.table stored threadId)
    (fun _ w' fate hc h => h.keep (keeps_settle hc env w' fate)) (fun _ h => .active h) hw

theorem keepsRow_of_stored (hown : ¬ isOwnLookupId key.2) (h : StoredCall stored c) :
    KeepsRow key c := by
  cases c with
  | db c =>
    cases c with
    | putSignal signal => exact keepsRow_own hown signal h
    | putCalendarEvent signal respondedAt =>
      intro heq
      exact hown (heq ▸ h)
    | setCalendarEventRsvp => exact h.elim
    | updateSendStatus => exact h.elim
    | updateSignal => exact h.elim
    | _ => trivial
  | _ => trivial

theorem only_keepsRow (hown : ¬ isOwnLookupId key.2) (stored : Signal)
    (hp : p.Only fun c => StoredCall stored c ∧ ∀ payload, c ≠ .sendMessage payload) :
    p.Only (KeepsRow key) :=
  hp.mono fun _ h => keepsRow_of_stored hown h.1

theorem only_saveCalendarEvents (hown : ¬ isOwnLookupId key.2) (threadId : String)
    (events : List ExtractedEvent) (signal : Signal) :
    Only (KeepsRow key) (saveCalendarEvents threadId events signal).run := by
  have hask : ∀ e, KeepsRow key (.ask e) := fun _ => trivial
  induction events generalizing signal with
  | nil => trivial
  | cons event events ih =>
    unfold saveCalendarEvents
    refine .bindStop (.lift (only_generateId hask _)) fun id => ?_
    refine .bindStop (.lift (only_ask hask _)) fun now => ?_
    refine .bindStop (only_must ⟨trivial, fun _ => trivial⟩) fun _ => ?_
    refine .bindStop (.lift (only_keepsRow hown signal
      (only_saveCalendarEventSignal (own_calendar _ _ _)))) fun saved => ?_
    cases saved with
    | error error => exact ih signal
    | ok => exact .bindStop (.lift (only_attempt (fun _ => trivial) _)) fun _ => ih _

theorem only_processCalendarAttachment (hown : ¬ isOwnLookupId key.2) (signal : Signal)
    (threadId : String) (extraction : Option CalendarExtraction) :
    Only (KeepsRow key) (processCalendarAttachment signal threadId extraction).run := by
  cases extraction with
  | none => trivial
  | some extraction =>
    refine .bindStop (.lift (only_keepsRow hown signal (only_saveInvalidInvites _))) fun _ => ?_
    exact only_saveCalendarEvents hown threadId _ signal

theorem only_converge (converged : Converged) :
    Only (KeepsRow key) (converge opts converged).run := by
  unfold converge orElse attemptS3Retention
  refine .bindStop (.lift ?_) fun _ => ?_
  · split
    · split
      · trivial
      · exact only_attempt (fun _ => trivial) _
    · trivial
  refine .bindStop (only_must (.map ?_ _)) fun _ => only_must (.map ?_ _)
  · exact And.intro trivial fun _ => trivial
  · exact And.intro trivial fun _ => trivial

/-- A replay that got to its writes saves the mail on its thread, or leaves its row alone. -/
theorem ensures_store {accepted : Accepted}
    (hown : ¬ isOwnLookupId key.2) (haccount : r.accountId = key.1)
    (haccepted : AcceptedFor key signalId s placed accepted) (hw : Keeps key s w.table) :
    Ensures (service env) T
      (fun _ w' => ActiveOn key signalId w'.table accepted.signal accepted.thread.id)
      (fun w' => Replayed blocked key signalId s w'.table)
      (store msg r received placed accepted >>= converge opts) w := by
  unfold store
  rw [haccount, LawfulMonad.bind_assoc]
  refine ensures_bind (ensures_saveThread haccepted hw) ?_
  intro _ w1 ⟨h1, hthread⟩
  have hsaved : ∀ w' : World, w'.table = w1.table.saveItem accepted.signal →
      ActiveOn key signalId w'.table accepted.signal accepted.thread.id := by
    intro w' hw'
    rw [hw']
    refine ⟨?_, haccepted.id, haccepted.active, haccepted.threaded, haccepted.named, hthread⟩
    rw [← haccepted.row]
    exact get_saveItem accepted.signal w1.table
  rw [LawfulMonad.bind_assoc]
  refine ensures_bind (ensures_saveSignal h1.replayed fun w' hw' => .active (hsaved w' hw')) ?_
  intro _ w2 h2
  refine ensures_active ?_ (hsaved w2 h2)
  refine .bindStop ?_ fun converged => only_converge converged
  refine .bindStop (.lift (only_keepsRow hown accepted.signal only_saveResourceOf)) ?_
  intro _
  refine .bindStop (.lift (only_countSignal (fun _ => trivial) _)) fun _ => ?_
  exact .bindStop (only_processCalendarAttachment hown _ _ _) fun _ => trivial

/-! ## A replay -/

/-- The options of a replay that an approval asks for. -/
structure ForcedOptions (opts : ProcessInboundOptions) (signalId : String) : Prop where
  force : opts.force = true
  unsafeSkipDmarc : opts.unsafeSkipDmarc = true
  id : opts.forceSignalId = some signalId
  skip : opts.skipAllMatchedRuleStatusActions = true

theorem processResolved_replayed (hopts : ForcedOptions opts signalId)
    (hkey : (r.accountId, msg.compositeMailMessageId) = key)
    (hresolved : r.aliasConfig = globalAlias env.mailDomain w.accounts msg.primaryRecipient)
    (hnamed : ∀ thread ∈ w.table.threads.rows, thread.id ≠ "") :
    (processResolved env msg receiveCount opts (.ok (some r))).Leads (service env) T
      (fun _ w' => Replayed
        (SenderBlocked env w.accounts r.accountId msg.s3Key msg.primaryRecipient) key signalId
        w.table w'.table) w := by
  have hown : ¬ isOwnLookupId key.2 := hkey ▸ msg.hasSource
  have haccount : r.accountId = key.1 := congrArg Prod.fst hkey
  have hrun : Ensures (service env) T (fun _ w' => Replayed
        (SenderBlocked env w.accounts r.accountId msg.s3Key msg.primaryRecipient) key signalId
        w.table w'.table)
      (fun w' => Replayed
        (SenderBlocked env w.accounts r.accountId msg.s3Key msg.primaryRecipient) key signalId
        w.table w'.table)
      (acceptResolved env msg receiveCount opts r >>= converge opts) w := by
    unfold acceptResolved
    rw [lookup_forced hopts.force, pure_bind, LawfulMonad.bind_assoc]
    refine ensures_bind (ensures_receive hopts.unsafeSkipDmarc hkey hresolved) ?_
    intro received w1 ⟨h1, hsender⟩
    rw [LawfulMonad.bind_assoc]
    refine ensures_bind (ensures_place hopts.id hnamed h1) ?_
    intro placed w2 ⟨h2, hplaced⟩
    rw [LawfulMonad.bind_assoc]
    refine ensures_bind (ensures_judge hopts.skip hown hkey hsender hplaced h2) ?_
    intro accepted w3 ⟨h3, haccepted⟩
    exact (ensures_store hown haccount haccepted h3).mono fun _ w' hactive => .active hactive
  refine Leads.map (Leads.mono hrun fun result w' h => ?_)
  match result with
  | none => exact h
  | some (.error _) => exact h
  | some (.ok _) => exact h

/-- What a replay leaves of the rows under the lookup id of its mail: the row of an account is as
it was, or the account is the mail's, and then the other accounts' rows are as they were. -/
def ReplayedIn (blocked : Prop) (accountId lookupId signalId : String) (s s' : Store) : Prop :=
  s'.signals.get (accountId, lookupId) = s.signals.get (accountId, lookupId) ∨
    (Replayed blocked (accountId, lookupId) signalId s s' ∧ ∀ account, account ≠ accountId →
      s'.signals.get (account, lookupId) = s.signals.get (account, lookupId))

/-- **A forced replay.** Whatever fails, the row of the mail is as it was, or active on a thread,
or rejected because an explicit record blocks the sender. -/
theorem processInbound_replayed (hopts : ForcedOptions opts signalId) (accountId : String)
    (hnamed : ∀ thread ∈ w.table.threads.rows, thread.id ≠ "") :
    (processInbound env msg receiveCount opts).Leads (service env) T
      (fun _ w' => ReplayedIn
        (SenderBlocked env w.accounts accountId msg.s3Key msg.primaryRecipient) accountId
        msg.compositeMailMessageId signalId w.table w'.table) w := by
  rw [processInbound_eq]
  refine Leads.bind ((resolve_leads env msg.primaryRecipient w).mono fun resolution w' h => ?_)
  obtain ⟨hw, hanswer⟩ := h
  subst hw
  match resolution with
  | none => exact .inl rfl
  | some (.error error) => exact ⟨.inl rfl, fun _ => .inl rfl⟩
  | some (.ok none) => exact ⟨.inl rfl, fun _ => .inl rfl⟩
  | some (.ok (some r)) =>
    have hkept := @processResolved_keeps env msg receiveCount opts T hopts.force (.ok (some r)) w'
    by_cases haccount : r.accountId = accountId
    · subst haccount
      have hresolved := resolvedIn_aliasConfig (hanswer _ rfl).symm
      refine ((processResolved_replayed hopts rfl hresolved hnamed).and hkept).mono ?_
      intro _ w1 ⟨hreplayed, hkeep⟩
      refine .inr ⟨hreplayed, fun account hne => (hkeep _ msg.hasSource fun r' hr' heq => ?_).row⟩
      cases hr'
      exact hne (congrArg Prod.fst heq).symm
    · refine hkept.mono fun _ w1 hkeep => .inl (hkeep _ msg.hasSource fun r' hr' heq => ?_).row
      cases hr'
      exact haccount (congrArg Prod.fst heq)

/-- A forced replay of another mail leaves a row as it is. -/
theorem processInbound_keeps (hforce : opts.force = true) (hown : ¬ isOwnLookupId key.2)
    (hne : msg.compositeMailMessageId ≠ key.2) :
    (processInbound env msg receiveCount opts).Leads (service env) T
      (fun _ w' => Keeps key w.table w'.table) w := by
  rw [processInbound_eq]
  refine Leads.bind ((resolve_leads env msg.primaryRecipient w).mono fun resolution w' h => ?_)
  obtain ⟨hw, -⟩ := h
  subst hw
  match resolution with
  | none => exact .refl key w'.table
  | some resolution =>
    refine (processResolved_keeps hforce resolution w').mono fun _ w1 hkeep => ?_
    exact hkeep key hown fun r _ heq => hne (congrArg Prod.snd heq)

end SesEmailAdapter.Processor.ForcedReplay
