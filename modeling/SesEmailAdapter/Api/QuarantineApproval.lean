import SesEmailAdapter.Api.SignalsApi
import SesEmailAdapter.Processor.ForcedReplay
import SesEmailAdapter.Processor.RecipientCase

/-! # Approvals from the quarantine

What an approval makes of the mail it is about, whatever fails on the way. No failure is rolled
back: once the mail is saved it stays on its thread, and the answer only tells of the failure. -/

namespace SesEmailAdapter.Api.QuarantineApproval
open Lib Lib.Prog
open SesEmailAdapter.Types Database Database.Shared
open Database.SignalsTable (Store SignalPartition signalItem mem_signalsIn)
open Database.ThreadDatabase Database.AccountDatabase
open Processor.IngestService Processor.InboundMessage
open Processor.IncomingEmail Processor.IngestRuns
open Processor.RecipientAccount Processor.Reprocess
open Processor.ForcedReplay
open Api.ThreadsApi (ApiError internalError)
open Api.SignalsApi

-- No proof below looks inside these, and to unfold them is slow.
seal systemAlias systemDomainOwner parseAddress

variable {env : Env} {accountId signalId lookupId : String} {signal existing : Signal}
  {data : InboundEmailSignalData} {key : String × String} {s s' s'' : Store} {w w' : World}
  {T : Option Fate → Prop} {α : Type}

/-! ## The mail of an approval -/

/-- The stored signal of an id, quarantined or blocked. -/
def heldSignal (env : Env) (s : Store) (accountId signalId : String) : Option Signal :=
  (signalIn env.stale signalId (s.signalsIn accountId .quarantined)).or
    (signalIn env.stale signalId (s.signalsIn accountId .blocked))

/-- What every write of the tables sees to: a signal outside the threads names none, and every
thread has a name. -/
structure WellStored (s : Store) : Prop where
  unthreaded : ∀ item ∈ s.signals.rows, item.partition = .quarantined ∨ item.partition = .blocked →
    item.signal.threadId.getD "" = ""
  named : ∀ thread ∈ s.threads.rows, thread.id ≠ ""

/-- The mail of a signal is active on a thread of the account, listed there, and stored in no
other row than before. -/
structure Approved (accountId : String) (signal stored : Signal) (threadId : String)
    (before after : Store) : Prop where
  id : stored.id = signal.id
  active : stored.status = .active
  thread : (after.threads.get (accountId, threadId)).isSome
  listed : stored ∈ after.signalsIn accountId (.thread threadId)
  alone : ∀ item ∈ after.signals.rows, item.signal.signalLookupId = signal.signalLookupId →
    item = signalItem stored ∨ (item.signal.accountId ≠ accountId ∧ item ∈ before.signals.rows)

/-- The row that holds the mail of a signal. -/
def rowOf (accountId : String) (signal : Signal) (s : Store) : Option SignalsTable.SignalItem :=
  s.signals.get (accountId, signal.signalLookupId)

/-- A held signal is what a read of its row shows. -/
theorem row_of_held (hheld : heldSignal env s accountId signalId = some signal) :
    ∃ item, s.signals.get (accountId, signal.signalLookupId) = some item ∧
      readSignal env.stale item.signal = signal ∧ signal.id = signalId ∧
        (item.partition = .quarantined ∨ item.partition = .blocked) := by
  have hfrom : ∀ partition, signalIn env.stale signalId (s.signalsIn accountId partition) =
      some signal → ∃ item, s.signals.get (accountId, signal.signalLookupId) = some item ∧
        readSignal env.stale item.signal = signal ∧ signal.id = signalId ∧
          item.partition = partition := by
    intro partition hin
    obtain ⟨found, hmem, hid, hread⟩ := signalIn_eq_some hin
    obtain ⟨-, item, hget, hitem, hpartition⟩ := mem_signalsIn hmem
    subst hitem
    have hlookup : signal.signalLookupId = item.signal.signalLookupId := by
      rw [← hread, readSignal_signalLookupId]
    refine ⟨item, hlookup ▸ hget, hread, ?_, hpartition⟩
    rw [← hread, readSignal_id]
    exact hid
  rcases Option.or_eq_some_iff.mp hheld with hin | ⟨-, hin⟩
  · obtain ⟨item, hget, hread, hid, hpartition⟩ := hfrom .quarantined hin
    exact ⟨item, hget, hread, hid, .inl hpartition⟩
  · obtain ⟨item, hget, hread, hid, hpartition⟩ := hfrom .blocked hin
    exact ⟨item, hget, hread, hid, .inr hpartition⟩

/-! ## Steps of a handler -/

variable {Q : α → World → Prop} {E : World → Prop}

variable {I : Store → Prop} {stored : Signal} {opts : ReprocessOptions}
  {p : IngestProg (Except DbError α)}

theorem ensures_required (hp : p.Leads (service env) T (Returned Q E) w) :
    Ensures (service env) T Q E (required p) w :=
  Leads.map (hp.mono fun r _ hr => match r with
    | none => hr
    | some (.error _) => hr
    | some (.ok _) => hr)

theorem ensures_loadSignal :
    Ensures (service env) T
      (fun held w' => w' = w ∧ held = heldSignal env w.table accountId signalId) (fun w' => w' = w)
      (loadSignal env accountId signalId) w := by
  have hread : ∀ threadId, Ensures (service env) T
      (fun found w' => w' = w ∧
        found = signalIn env.stale signalId (w.table.signalsIn accountId (partitionOf threadId)))
      (fun w' => w' = w)
      (required (db (getSignalById env.stale accountId signalId threadId))) w := by
    intro threadId
    refine ensures_required ⟨fun _ => rfl, fun fate _ => ?_⟩
    cases fate with
    | done => exact ⟨⟨rfl, rfl⟩, fun _ => rfl⟩
    | refused => exact ⟨rfl, fun _ => rfl⟩
    | lost => exact ⟨rfl, fun _ => rfl⟩
  unfold loadSignal heldSignal
  refine ensures_bind (hread "QUARANTINED") fun quarantined w1 h1 => ?_
  obtain ⟨rfl, hquarantined⟩ := h1
  change quarantined = signalIn env.stale signalId (w1.table.signalsIn accountId .quarantined)
    at hquarantined
  rw [← hquarantined]
  cases quarantined with
  | some found => exact ensures_pure ⟨rfl, rfl⟩ rfl
  | none => exact hread "BLOCKED"

/-! ### The sender -/

/-- Calls that block no sender. -/
def Unblocking : Cmd → Prop
  | .ask _ => True
  | .accounts (.getAlias ..) => True
  | .accounts (.getSender ..) => True
  | .accounts (.putSender item) => item.policy = .allow
  | _ => False

/-- A world with the table and the aliases of another, and no sender blocked beside its own. -/
structure Unblocked (w w' : World) : Prop where
  table : w'.table = w.table
  aliases : w'.accounts.aliases = w.accounts.aliases
  senders : ∀ key item, w'.accounts.senders.get key = some item → item.policy ≠ .allow →
    w.accounts.senders.get key = some item

theorem unblocked_settle {c : Cmd} (hc : Unblocking c) (hw : Unblocked w w') (fate : Fate) :
    Unblocked w (settle env c w' fate).2 := by
  cases c with
  | ask => exact ⟨hw.table, hw.aliases, hw.senders⟩
  | accounts c =>
    cases c with
    | getAlias => cases fate <;> exact ⟨hw.table, hw.aliases, hw.senders⟩
    | getSender => cases fate <;> exact ⟨hw.table, hw.aliases, hw.senders⟩
    | putSender item =>
      have hput : ∀ key other, (w'.accounts.senders.put item).get key = some other →
          other.policy ≠ .allow → w.accounts.senders.get key = some other := by
        intro key other hget hblocks
        rw [KeyedTable.get_put] at hget
        split at hget
        · obtain rfl := Option.some.inj hget
          exact absurd hc hblocks
        · exact hw.senders key other hget hblocks
      cases fate with
      | done => exact ⟨hw.table, hw.aliases, hput⟩
      | refused => exact ⟨hw.table, hw.aliases, hw.senders⟩
      | lost => exact ⟨hw.table, hw.aliases, hput⟩
    | _ => exact hc.elim
  | _ => exact hc.elim

/-- A sender that is blocked now was blocked before. -/
theorem Unblocked.blocked {s3Key recipientAddress : String} (hw : Unblocked w w')
    (h : SenderBlocked env w'.accounts accountId s3Key recipientAddress) :
    SenderBlocked env w.accounts accountId s3Key recipientAddress := by
  obtain ⟨halias, tick, sanitized, item, hsanitized, hget, hpolicy⟩ := h
  refine ⟨?_, tick, sanitized, item, hsanitized, hw.senders _ _ hget hpolicy, hpolicy⟩
  unfold globalAlias AccountsTable.Store.aliasesAt at halias ⊢
  rw [hw.aliases] at halias
  exact halias

theorem only_required {P : Cmd → Prop} (hp : p.Only P) :
    Only P (required p).run :=
  hp.map _

theorem only_approveSender : Only Unblocking (approveSender env accountId data).run := by
  have hask : ∀ e, Unblocking (.ask e) := fun _ => trivial
  unfold approveSender
  refine .bindStop (only_required (only_accounts ?_)) fun aliasConfig => ?_
  · exact only_withAddress fun _ => ⟨trivial, fun _ => trivial⟩
  refine .bindStop (only_required (only_accounts ?_)) fun sender => ?_
  · unfold getSender
    split
    · trivial
    · exact only_withAddress fun _ => ⟨trivial, fun _ => trivial⟩
  refine .bindStop (only_required (only_ask hask _)) fun account => ?_
  split
  · refine .bindStop (.lift (only_ask hask _)) fun now => ?_
    refine .bindStop (only_required (only_accounts ?_)) fun _ => trivial
    exact only_withAddress fun _ => ⟨rfl, fun _ => trivial⟩
  · trivial

theorem ensures_approveSender (hE : ∀ w', Unblocked w w' → E w') :
    Ensures (service env) T (fun _ w' => Unblocked w w') E (approveSender env accountId data) w :=
  only_approveSender.ensures (Unblocked w) (fun _ _ fate hc h => unblocked_settle hc h fate) hE
    ⟨rfl, rfl, fun _ _ h _ => h⟩

/-! ## A replay -/

/-- Calls that write the row of no signal. -/
def Tidies (c : Cmd) : Prop := ∀ key, KeepsRow key c

/-- Every account's row of a mail is as it was, and no thread is gone. -/
def KeepsMail (lookupId : String) (s s' : Store) : Prop := ∀ account, Keeps (account, lookupId) s s'

theorem KeepsMail.refl (lookupId : String) (s : Store) : KeepsMail lookupId s s :=
  fun _ => .refl _ s

theorem KeepsMail.trans (h : KeepsMail lookupId s s') (h' : KeepsMail lookupId s' s'') :
    KeepsMail lookupId s s'' :=
  fun account => (h account).trans (h' account)

/-- A property of the signals that calls beside them keep. -/
def Stable (I : Store → Prop) : Prop := ∀ s s', I s → (∀ key, Keeps key s s') → I s'

theorem Stable.and {I I' : Store → Prop} (h : Stable I) (h' : Stable I') :
    Stable fun s => I s ∧ I' s :=
  fun s s' hs hkeep => ⟨h s s' hs.1 hkeep, h' s s' hs.2 hkeep⟩

theorem stable_keepsMail (lookupId : String) (s : Store) : Stable (KeepsMail lookupId s) :=
  fun _ _ h hkeep => h.trans fun account => hkeep (account, lookupId)

theorem Stable.ensures (h : Stable I) (hE : ∀ w : World, I w.table → E w)
    {ε : Type} {x : ExceptT ε IngestProg α} (hx : Only Tidies x.run) (hw : I w.table) :
    Ensures (service env) T (fun _ w' => I w'.table) E x w :=
  hx.ensures (fun w' : World => I w'.table)
    (fun _ w' fate hc hi => h _ _ hi fun key => keeps_settle (hc key) env w' fate) hE hw

theorem only_releaseSource {threadId : Option String} :
    (releaseSource accountId existing threadId).Only Reads := by
  unfold releaseSource
  split
  · trivial
  · refine .bind (only_db ⟨trivial, fun _ => trivial⟩) fun others => ?_
    split
    · trivial
    · split
      · trivial
      · exact .bind ⟨trivial, fun _ => trivial⟩ fun _ => ⟨trivial, fun _ => trivial⟩

theorem only_repairSource {threadId : Option String} :
    (repairSource accountId threadId).Only Tidies := by
  unfold repairSource
  split
  · trivial
  · unfold repairThreadRecency
    refine .bind (only_db ⟨fun _ => trivial, fun _ => trivial⟩) fun found => ?_
    split
    · trivial
    · refine .bind (only_db ⟨fun _ => trivial, fun _ => trivial⟩) fun items => ?_
      split
      · trivial
      · dsimp only
        split
        · trivial
        · refine .bind (only_ask (fun _ _ => trivial) _) fun now => ?_
          exact .bind (only_db ⟨fun _ => trivial, fun _ => trivial⟩) fun _ => trivial

/-- The signal is what a read of its row shows. -/
def Shown (env : Env) (key : String × String) (s : Store) (signal : Signal) : Prop :=
  ∃ item, s.signals.get key = some item ∧ readSignal env.stale item.signal = signal

theorem Shown.keyed (h : Shown env key s signal) : signal.signalLookupId = key.2 := by
  obtain ⟨item, hget, rfl⟩ := h
  rw [readSignal_signalLookupId]
  exact congrArg Prod.snd (KeyedTable.key_of_get hget)

theorem Shown.unique {other : Signal} (h : Shown env key s signal) (h' : Shown env key s other) :
    other = signal := by
  obtain ⟨item, hget, rfl⟩ := h
  obtain ⟨item', hget', rfl⟩ := h'
  rw [hget] at hget'
  cases hget'
  rfl

theorem stable_shown (env : Env) (key : String × String) (signal : Signal) :
    Stable (Shown env key · signal) := by
  rintro s s' ⟨item, hget, hread⟩ hkeep
  exact ⟨item, (hkeep key).row.trans hget, hread⟩

theorem getSignal_leads (lookupId : String) (w : World) :
    (db (getSignalByMessageId env.stale accountId lookupId)).Leads (service env) T
      (fun r w' => w' = w ∧ ∀ found, r = some (.ok (some found)) →
        Shown env (accountId, lookupId) w.table found) w := by
  refine ⟨fun _ => ⟨rfl, fun _ h => (by cases h)⟩, fun fate _ => ?_⟩
  cases fate with
  | refused => exact ⟨⟨rfl, fun _ h => (by cases h)⟩, fun _ => ⟨rfl, fun _ h => (by cases h)⟩⟩
  | lost => exact ⟨⟨rfl, fun _ h => (by cases h)⟩, fun _ => ⟨rfl, fun _ h => (by cases h)⟩⟩
  | done =>
    refine ⟨⟨rfl, fun found hfound => ?_⟩, fun _ => ⟨rfl, fun _ h => (by cases h)⟩⟩
    have hread := Except.ok.inj (Option.some.inj hfound)
    obtain ⟨stored, hstored, rfl⟩ := Option.map_eq_some_iff.mp hread
    obtain ⟨item, hget, rfl⟩ := Option.map_eq_some_iff.mp hstored
    exact ⟨item, hget, rfl⟩

theorem ensures_refetch (hI : Stable I) (hw : I w.table) {sourceThreadId : Option String} :
    Ensures (service env) T
      (fun fresh w' => I w'.table ∧ Shown env (accountId, lookupId) w'.table fresh)
      (fun w' => I w'.table) (refetch env accountId lookupId sourceThreadId) w := by
  unfold refetch
  refine ensures_bind (P := fun found w' => I w'.table ∧ ∀ fresh, found = .ok (some fresh) →
    Shown env (accountId, lookupId) w'.table fresh) (ensures_lift
    ((getSignal_leads lookupId w).mono fun r w1 h1 => ?_)) fun found w1 ⟨h1, hshown⟩ => ?_
  · obtain ⟨rfl, hfound⟩ := h1
    match r with
    | none => exact hw
    | some found => exact ⟨hw, fun fresh hfresh => hfound fresh (congrArg some hfresh)⟩
  match found with
  | .error error => exact ensures_throw h1
  | .ok none => exact ensures_throw h1
  | .ok (some fresh) =>
    refine ensures_bind ((hI.and (stable_shown env (accountId, lookupId) fresh)).ensures
      (fun _ h => h.1) (.lift only_repairSource) ⟨h1, hshown fresh rfl⟩) fun _ w2 h2 => ?_
    exact ensures_pure h2 h2.1

/-- A replay from where it runs the mail through the ingest to where it has read it again. -/
theorem ensures_replay {msg : InboundSignalMessage} (hI : Stable I) (hstart : I w.table)
    (hrun : ∀ w', w'.table = w.table → w'.accounts = w.accounts →
      (processInbound env msg 1 (replayOptions opts existing)).Leads (service env) T
        (fun _ w'' => I w''.table) w') :
    Ensures (service env) T
      (fun fresh w' => I w'.table ∧
        Shown env (accountId, existing.signalLookupId) w'.table fresh)
      (fun w' => I w'.table) (replay env accountId existing msg opts) w := by
  unfold replay
  refine ensures_bind (P := fun _ w' => w'.table = w.table ∧ w'.accounts = w.accounts)
    (ensures_lift ((reads_leads only_releaseSource w).mono fun r w1 h1 => ?_)) ?_
  · match r with
    | none => exact h1.1 ▸ hstart
    | some _ => exact h1
  intro _ w1 ⟨htable, haccounts⟩
  refine ensures_bind (P := fun _ w' => I w'.table)
    (ensures_lift ((hrun w1 htable haccounts).mono fun r w2 h2 => ?_)) fun result w2 h2 => ?_
  · match r with
    | none => exact h2
    | some _ => exact h2
  match result with
  | .error error =>
    refine ensures_bind (hI.ensures (fun _ h => h) (.lift only_repairSource) h2) fun _ w3 h3 => ?_
    exact ensures_throw h3
  | .ok () => exact ensures_refetch hI h2

/-- A replay of a stored mail, from what its run through the ingest leads to. -/
theorem ensures_reprocessSignal (hI : Stable I) (hstart : I w.table)
    (hrun : ∀ existing data (hsource : ¬ isOwnLookupId existing.signalLookupId),
      Shown env (accountId, lookupId) w.table existing → existing.data = .inboundEmail data →
        ∀ w', w'.table = w.table → w'.accounts = w.accounts →
          (processInbound env (replayMessage existing data hsource) 1
            (replayOptions opts existing)).Leads (service env) T (fun _ w'' => I w''.table) w') :
    Ensures (service env) T
      (fun fresh w' => I w'.table ∧ ¬ isOwnLookupId lookupId ∧
        Shown env (accountId, lookupId) w'.table fresh)
      (fun w' => I w'.table) (reprocessSignal env accountId lookupId opts) w := by
  unfold reprocessSignal
  refine ensures_bind (P := fun found w' => w' = w ∧ ∀ existing, found = .ok (some existing) →
    Shown env (accountId, lookupId) w.table existing) (ensures_lift
    ((getSignal_leads lookupId w).mono fun r w1 h1 => ?_)) fun found w1 ⟨h1, hshown⟩ => ?_
  · obtain ⟨rfl, hfound⟩ := h1
    match r with
    | none => exact hstart
    | some found => exact ⟨rfl, fun existing h => hfound existing (congrArg some h)⟩
  subst h1
  match found, hshown with
  | .error error, _ => exact ensures_throw hstart
  | .ok none, _ => exact ensures_throw hstart
  | .ok (some existing), hshown =>
    have hexisting := hshown existing rfl
    have hkeyed : existing.signalLookupId = lookupId := hexisting.keyed
    dsimp only
    unfold reprocessExisting
    cases hdata : existing.data with
    | inboundEmail data =>
      dsimp only
      split
      · exact ensures_throw hstart
      · split
        case isTrue => exact ensures_throw hstart
        case isFalse hsource =>
          refine (ensures_replay hI hstart (hrun existing data hsource hexisting hdata)).mono ?_
          intro fresh w2 ⟨h2, hfresh⟩
          rw [hkeyed] at hsource hfresh
          exact ⟨h2, hsource, hfresh⟩
    | _ => exact ensures_throw hstart

theorem stable_replayedIn (blocked : Prop) (accountId lookupId signalId : String) (s : Store) :
    Stable (ReplayedIn blocked accountId lookupId signalId s) := by
  intro s1 s2 h hkeep
  rcases h with hrow | ⟨hreplayed, hothers⟩
  · exact .inl ((hkeep _).row.trans hrow)
  · exact .inr ⟨hreplayed.keep (hkeep _), fun account hne =>
      (hkeep _).row.trans (hothers account hne)⟩

/-- The replay of the mail that is approved. -/
theorem ensures_primary (hshown : Shown env (accountId, signal.signalLookupId) w.table signal)
    (hdata : signal.data = .inboundEmail data)
    (hnamed : ∀ thread ∈ w.table.threads.rows, thread.id ≠ "") :
    Ensures (service env) T
      (fun fresh w' => ReplayedIn
          (SenderBlocked env w.accounts accountId data.s3Key data.recipientAddress) accountId
          signal.signalLookupId signal.id w.table w'.table ∧
        ¬ isOwnLookupId signal.signalLookupId ∧
        Shown env (accountId, signal.signalLookupId) w'.table fresh)
      (fun w' => ReplayedIn
        (SenderBlocked env w.accounts accountId data.s3Key data.recipientAddress) accountId
        signal.signalLookupId signal.id w.table w'.table)
      (reprocessSignal env accountId signal.signalLookupId ⟨true, true⟩) w := by
  refine ensures_reprocessSignal (stable_replayedIn _ _ _ _ _) (.inl rfl) ?_
  intro existing data' hsource hexisting hdata' w' htable haccounts
  obtain rfl : existing = signal := hshown.unique hexisting
  obtain rfl : data = data' := by
    rw [hdata] at hdata'
    exact SignalData.inboundEmail.inj hdata'
  have hopts : ForcedOptions (replayOptions ⟨true, true⟩ existing) existing.id :=
    ⟨rfl, rfl, rfl, rfl⟩
  have hrun := @processInbound_replayed env (replayMessage existing data hsource) 1
    (replayOptions ⟨true, true⟩ existing) existing.id w' T hopts accountId (htable ▸ hnamed)
  rw [htable, haccounts] at hrun
  exact hrun

/-- The replay of another mail. -/
theorem reprocessSignal_keeps {other : String}
    (hown : ¬ isOwnLookupId lookupId) (hne : other ≠ lookupId) (w : World) :
    (reprocessSignal env accountId other opts).run.Leads (service env) T
      (fun _ w' => KeepsMail lookupId w.table w'.table) w := by
  have hrun := @ensures_reprocessSignal env accountId other w T (KeepsMail lookupId w.table) opts
    (stable_keepsMail lookupId w.table) (.refl lookupId w.table) ?_
  · refine Leads.mono hrun fun r w' hr => ?_
    match r with
    | none => exact hr
    | some (.error _) => exact hr
    | some (.ok _) => exact hr.1
  intro existing data hsource hexisting _ w' htable _
  have hother : existing.signalLookupId ≠ lookupId := by
    rw [hexisting.keyed]
    exact hne
  refine (Leads.all (Q := fun account _ w'' => Keeps (account, lookupId) w'.table w''.table)
    fun _ => processInbound_keeps rfl hown hother).mono fun _ w'' hkeep => ?_
  rw [← htable]
  exact hkeep

/-! ## The mails of one sender -/

theorem reprocessSiblings_keeps (hown : ¬ isOwnLookupId lookupId) {siblings : List Signal}
    (hne : ∀ sibling ∈ siblings, sibling.signalLookupId ≠ lookupId) {w : World}
    (hw : KeepsMail lookupId s w.table) :
    (reprocessSiblings env accountId siblings).Leads (service env) T
      (fun _ w' => KeepsMail lookupId s w'.table) w := by
  induction siblings generalizing w with
  | nil => exact ⟨hw, fun _ => hw⟩
  | cons sibling siblings ih =>
    obtain ⟨hsibling, hrest⟩ := List.forall_mem_cons.mp hne
    refine Leads.bind ((reprocessSignal_keeps hown hsibling w).mono fun r w1 h1 => ?_)
    match r with
    | none => exact hw.trans h1
    | some _ => exact ih hrest (hw.trans h1)

theorem isSibling_ne {other : Signal} (h : isSibling env signal data other = true) :
    other.signalLookupId ≠ signal.signalLookupId := by
  unfold isSibling at h
  split at h
  · exact (of_decide_eq_true h).1
  · cases h

/-- The cascade leaves the mail that was approved alone. -/
theorem cascade_keeps (hown : ¬ isOwnLookupId signal.signalLookupId) (senderApproved : Bool)
    (w : World) :
    (cascade env accountId signal data senderApproved).Leads (service env) T
      (fun _ w' => KeepsMail signal.signalLookupId w.table w'.table) w := by
  have hstart : KeepsMail signal.signalLookupId w.table w.table := .refl _ _
  unfold cascade
  split
  · have hread : (db (listPreThreadSignals accountId .quarantined 100)).Only Reads :=
      only_db ⟨trivial, fun _ => trivial⟩
    unfold collectSiblings
    rw [Prog.bind_assoc]
    refine Leads.bind ((reads_leads hread w).mono fun r w1 h1 => ?_)
    rw [← h1.1] at hstart ⊢
    match r with
    | none => exact hstart
    | some listed =>
      refine reprocessSiblings_keeps hown (fun sibling hsibling => ?_) hstart
      exact isSibling_ne (List.mem_filter.mp hsibling).2
  · exact ⟨hstart, fun _ => hstart⟩

/-! ## An approval -/

/-- The mail of a signal is active on a thread, and other accounts' rows of it are as they were. -/
structure ActivatedOn (accountId : String) (signal : Signal) (s s' : Store) (stored : Signal)
    (threadId : String) : Prop where
  row : ActiveOn (accountId, signal.signalLookupId) signal.id s' stored threadId
  others : ∀ account, account ≠ accountId →
    s'.signals.get (account, signal.signalLookupId) =
      s.signals.get (account, signal.signalLookupId)

variable {threadId : String}

theorem ActivatedOn.keep (h : ActivatedOn accountId signal s s' stored threadId)
    (hkeep : KeepsMail signal.signalLookupId s' s'') :
    ActivatedOn accountId signal s s'' stored threadId :=
  ⟨h.row.keep (hkeep accountId), fun account hne => (hkeep account).row.trans (h.others account hne)⟩

/-- What becomes of the mail of a signal whose sender is blocked or not. -/
abbrev Left (blocked : Prop) (accountId : String) (signal : Signal) (s s' : Store) : Prop :=
  ReplayedIn blocked accountId signal.signalLookupId signal.id s s'

theorem ActivatedOn.left {blocked : Prop} (h : ActivatedOn accountId signal s s' stored threadId) :
    Left blocked accountId signal s s' :=
  .inr ⟨.active h.row, h.others⟩

theorem left_mono {blocked blocked' : Prop} (h : Left blocked accountId signal s s')
    (hblocked : blocked → blocked') : Left blocked' accountId signal s s' := by
  rcases h with hrow | ⟨hreplayed, hothers⟩
  · exact .inl hrow
  · refine .inr ⟨?_, hothers⟩
    cases hreplayed with
    | kept hrow => exact .kept hrow
    | active hactive => exact .active hactive
    | rejected h' hrow hid => exact .rejected (hblocked h') hrow hid

/-- A mail that is read with a thread after its replay is active on it. -/
theorem activated_of_left {blocked : Prop} {fresh : Signal}
    (hshown : Shown env (accountId, signal.signalLookupId) s signal)
    (hunthreaded : signal.threadId.getD "" = "") (h : Left blocked accountId signal s s')
    (hfresh : Shown env (accountId, signal.signalLookupId) s' fresh)
    (hthread : fresh.threadId.getD "" ≠ "") :
    ∃ stored, ActivatedOn accountId signal s s' stored (fresh.threadId.getD "") := by
  obtain ⟨item, hget, rfl⟩ := hfresh
  have hkept : s'.signals.get (accountId, signal.signalLookupId) =
      s.signals.get (accountId, signal.signalLookupId) → False := by
    intro hrow
    rw [hget] at hrow
    have hsame := hshown.unique ⟨item, hrow.symm, rfl⟩
    rw [hsame] at hthread
    exact hthread hunthreaded
  rcases h with hrow | ⟨hreplayed, hothers⟩
  · exact (hkept hrow).elim
  · cases hreplayed with
    | kept hrow => exact (hkept hrow).elim
    | active hactive =>
      rename_i stored threadId
      have hitem : item.signal = stored := by
        have hrow := hactive.row
        rw [hget] at hrow
        rw [Option.some.inj hrow]
        rfl
      refine ⟨stored, ?_, hothers⟩
      rw [readSignal_threadId, hitem, hactive.threaded]
      exact hactive
    | rejected hblocked hrow hid =>
      rw [hget] at hrow
      rw [readSignal_threadId, Option.some.inj hrow] at hthread
      exact absurd (by rw [show (signalItem _).signal.threadId = none from hid]; rfl) hthread

/-- The record that blocks the mail of a signal, when it is replayed. -/
def BlocksMail (env : Env) (accounts : AccountsTable.Store) (accountId : String)
    (signal : Signal) : Prop :=
  ∃ data, signal.data = .inboundEmail data ∧
    SenderBlocked env accounts accountId data.s3Key data.recipientAddress

theorem ensures_activate {before : World}
    (hshown : Shown env (accountId, signal.signalLookupId) before.table signal)
    (hdata : signal.data = .inboundEmail data) (hunthreaded : signal.threadId.getD "" = "")
    (hnamed : ∀ thread ∈ before.table.threads.rows, thread.id ≠ "") (hw : Unblocked before w) :
    Ensures (service env) T
      (fun result w' => ¬ isOwnLookupId signal.signalLookupId ∧ ∃ stored,
        ActivatedOn accountId signal before.table w'.table stored result.2)
      (fun w' => Left (BlocksMail env before.accounts accountId signal) accountId signal
        before.table w'.table)
      (activate env accountId signal) w := by
  have hblocked : SenderBlocked env w.accounts accountId data.s3Key data.recipientAddress →
      BlocksMail env before.accounts accountId signal := fun h => ⟨data, hdata, hw.blocked h⟩
  have hprimary := @ensures_primary env accountId signal data w T (hw.table ▸ hshown) hdata
    (hw.table ▸ hnamed)
  rw [hw.table] at hprimary
  unfold activate
  refine ensures_bind (P := fun (result : Except ReprocessError Signal) w' =>
    Left (BlocksMail env before.accounts accountId signal) accountId signal before.table w'.table ∧
      ∀ fresh, result = .ok fresh → ¬ isOwnLookupId signal.signalLookupId ∧
        Shown env (accountId, signal.signalLookupId) w'.table fresh)
    (ensures_lift (Leads.mono hprimary fun r w' h => ?_)) fun result w1 ⟨h1, hfresh⟩ => ?_
  · match r with
    | none => exact left_mono h hblocked
    | some (.error error) => exact ⟨left_mono h hblocked, fun _ hok => (by cases hok)⟩
    | some (.ok fresh) =>
      refine ⟨left_mono h.1 hblocked, fun other hok => ?_⟩
      cases hok
      exact h.2
  match result, hfresh with
  | .error (.threadIdCollision _), _ => exact ensures_throw h1
  | .error (.processor _), _ => exact ensures_throw h1
  | .error (.notFound ..), _ => exact ensures_throw h1
  | .ok fresh, hfresh =>
    obtain ⟨hown, hread⟩ := hfresh fresh rfl
    dsimp only
    split
    case isTrue => exact ensures_throw h1
    case isFalse hthread =>
      obtain ⟨stored, hactivated⟩ := activated_of_left hshown hunthreaded h1 hread hthread
      exact ensures_pure ⟨hown, stored, hactivated⟩ h1

theorem ensures_approveReviewable {before : World}
    (hshown : Shown env (accountId, signal.signalLookupId) before.table signal)
    (hdata : signal.data = .inboundEmail data) (hunthreaded : signal.threadId.getD "" = "")
    (hnamed : ∀ thread ∈ before.table.threads.rows, thread.id ≠ "") :
    Ensures (service env) T
      (fun response w' => w'.table.threads.get (accountId, response.thread.id) =
          some response.thread ∧
        ∃ stored, ActivatedOn accountId signal before.table w'.table stored response.thread.id)
      (fun w' => Left (BlocksMail env before.accounts accountId signal) accountId signal
        before.table w'.table)
      (approveReviewable env accountId signal data) before := by
  unfold approveReviewable
  refine ensures_bind (ensures_approveSender fun w' h => .inl (by rw [h.table])) ?_
  intro senderApproved w1 h1
  refine ensures_bind (ensures_activate hshown hdata hunthreaded hnamed h1) ?_
  intro ⟨activatedSignal, threadId⟩ w2 ⟨hown, stored, h2⟩
  refine ensures_bind (P := fun _ w' =>
    ActivatedOn accountId signal before.table w'.table stored threadId)
    (ensures_lift ((cascade_keeps hown senderApproved w2).mono fun r w3 h3 => ?_)) ?_
  · match r with
    | none => exact (h2.keep h3).left
    | some _ => exact h2.keep h3
  intro _ w3 h3
  refine ensures_bind (P := fun thread w' => w' = w3 ∧
    thread = w3.table.threads.get (accountId, threadId)) (ensures_required ?_) ?_
  · refine ⟨fun _ => h3.left, fun fate _ => ?_⟩
    cases fate with
    | done => exact ⟨⟨rfl, rfl⟩, fun _ => h3.left⟩
    | refused => exact ⟨h3.left, fun _ => h3.left⟩
    | lost => exact ⟨h3.left, fun _ => h3.left⟩
  intro thread w4 ⟨hw4, hthread⟩
  subst hw4
  cases thread with
  | none => exact ensures_throw h3.left
  | some thread =>
    have hid : thread.id = threadId :=
      congrArg Prod.snd (KeyedTable.key_of_get hthread.symm : SignalsTable.threadKey thread = _)
    subst hid
    exact ensures_pure ⟨hthread.symm, stored, h3⟩ h3.left

theorem reviewable_eq_ok {held : Option Signal} {signal : Signal} {data : InboundEmailSignalData}
    (h : reviewable held = .ok (signal, data)) :
    held = some signal ∧ signal.data = .inboundEmail data := by
  unfold reviewable at h
  split at h
  · cases h
  · rename_i found
    split at h
    · cases h
    · split at h
      · rename_i data' hdata
        cases h
        exact ⟨rfl, hdata⟩
      · cases h

/-- **Approval.** What an approval leads to, whatever fails. -/
theorem ensures_quarantineResponse (hstored : WellStored w.table)
    (hheld : heldSignal env w.table accountId signalId = some signal) :
    Ensures (service env) T
      (fun response w' => w'.table.threads.get (accountId, response.thread.id) =
          some response.thread ∧
        ∃ stored, ActivatedOn accountId signal w.table w'.table stored response.thread.id)
      (fun w' => Left (BlocksMail env w.accounts accountId signal) accountId signal
        w.table w'.table)
      (quarantineResponse env accountId signalId) w := by
  obtain ⟨item, hget, hread, -, hpartition⟩ := row_of_held hheld
  have hunthreaded : signal.threadId.getD "" = "" := by
    rw [← hread, readSignal_threadId]
    exact hstored.unthreaded item (KeyedTable.mem_rows_of_get hget) hpartition
  unfold quarantineResponse
  refine ensures_bind (P := fun held w' => w' = w ∧ held = some signal)
    (Leads.mono ensures_loadSignal fun r w' h => ?_) fun held w1 ⟨h1, hsignal⟩ => ?_
  · match r with
    | none => exact .inl (congrArg (fun w : World => rowOf accountId signal w.table) h)
    | some (.error _) => exact .inl (congrArg (fun w : World => rowOf accountId signal w.table) h)
    | some (.ok found) => exact ⟨h.1, h.2.trans hheld⟩
  subst h1
  subst hsignal
  cases hreview : reviewable (some signal) with
  | error error => exact ensures_throw (.inl rfl)
  | ok reviewed =>
    obtain ⟨found, data⟩ := reviewed
    obtain ⟨hfound, hdata⟩ := reviewable_eq_ok hreview
    obtain rfl := Option.some.inj hfound
    exact ensures_approveReviewable ⟨item, hget, hread⟩ hdata hunthreaded hstored.named

theorem mem_signalsIn_of_row
    (hrow : s.signals.get key = some (signalItem stored)) (hthread : stored.threadId = some threadId)
    (hnamed : threadId ≠ "") : stored ∈ s.signalsIn key.1 (.thread threadId) := by
  have haccount : stored.accountId = key.1 := congrArg Prod.fst (KeyedTable.key_of_get hrow)
  rw [Store.signalsIn, List.mem_mergeSort]
  refine List.mem_map.mpr ⟨signalItem stored, List.mem_filter.mpr ⟨?_, ?_⟩, rfl⟩
  · exact KeyedTable.mem_rows_of_get hrow
  · rw [decide_eq_true_eq]
    refine ⟨haccount, ?_⟩
    simp [signalItem, hthread, hnamed]

theorem ActivatedOn.approved (h : ActivatedOn accountId signal s s' stored threadId) :
    Approved accountId signal stored threadId s s' where
  id := h.row.id
  active := h.row.active
  thread := h.row.thread
  listed := mem_signalsIn_of_row h.row.row h.row.threaded h.row.named
  alone := by
    intro item hitem hlookup
    have hget := KeyedTable.mem_rows_iff.mp hitem
    have hkey : SignalsTable.signalKey item = (item.signal.accountId, signal.signalLookupId) :=
      Prod.ext rfl hlookup
    rw [hkey] at hget
    by_cases haccount : item.signal.accountId = accountId
    · rw [haccount, h.row.row] at hget
      exact .inl (Option.some.inj hget).symm
    · rw [h.others _ haccount] at hget
      exact .inr ⟨haccount, KeyedTable.mem_rows_of_get hget⟩

/-- An approval that succeeds has put the mail on the thread it returns. One that fails has left
the mail as it was, or has put it on a thread as well; a record that blocks the sender apart. -/
theorem quarantineResponse_approves (env : Env) (accountId signalId : String) (w : World)
    (hstored : WellStored w.table) (signal : Signal)
    (hheld : heldSignal env w.table accountId signalId = some signal) (faults : Faults Fate) :
    let out := (quarantineResponse env accountId signalId).run.run (service env) faults w
    (∀ response, out.result = some (.ok response) →
      out.store.table.threads.get (accountId, response.thread.id) = some response.thread ∧
        ∃ stored, Approved accountId signal stored response.thread.id w.table out.store.table) ∧
    (∀ error, out.result = some (.error error) → ¬ BlocksMail env w.accounts accountId signal →
      rowOf accountId signal out.store.table = rowOf accountId signal w.table ∨
        ∃ stored threadId,
          Approved accountId signal stored threadId w.table out.store.table) := by
  intro out
  have hends : Returned _ _ out.result out.store :=
    Leads.run (T := fun _ => True) (ensures_quarantineResponse hstored hheld) trivial faults
      fun _ _ => trivial
  constructor
  · intro response hresponse
    rw [hresponse] at hends
    obtain ⟨hthread, stored, hactivated⟩ := hends
    exact ⟨hthread, stored, hactivated.approved⟩
  · intro error herror hunblocked
    rw [herror] at hends
    rcases hends with hrow | ⟨hreplayed, hothers⟩
    · exact .inl hrow
    · cases hreplayed with
      | kept hrow => exact .inl hrow
      | @active stored threadId hactive =>
        exact .inr ⟨stored, threadId, ActivatedOn.approved ⟨hactive, hothers⟩⟩
      | rejected hblocked => exact absurd hblocked hunblocked

/-! ## A mail of an unknown sender -/

def bobMime : ParsedMime :=
  ⟨⟨"bob@b.com", none⟩, [⟨"shop@a.com", none⟩], "Hi", [], [], none, none, none⟩

/-- Services that read the mail of Bob. -/
def bobEnv : Env :=
  { Processor.RecipientCase.plainEnv with
    answer := fun
      | _, .sanitize .. => .ok ⟨bobMime, none, [], []⟩
      | _, .embed .. => .ok ⟨"m", [1]⟩
      | tick, e => Processor.RecipientCase.plainEnv.answer tick e }

def bobMail : InboundEmailSignalData where
  receivedAt := "2025-05-01T00:00:00.000Z"
  sender := ⟨"bob@b.com", none⟩
  recipientAddress := "shop@a.com"
  subject := "Hi"
  attachments := []
  headers := []
  workflow := .notice
  workflowData := ⟨.notice, false, []⟩
  summary := ""
  s3Key := "emails/1"
  replyTo := none
  urgency := none
  embeddings := []
  matchedRules := []

def bobSignal : Signal where
  id := "sgn-00001000"
  signalLookupId := "ses-1"
  threadId := none
  gsi3pk := none
  accountId := "acc"
  status := .quarantineVisible
  labels := some []
  createdAt := "2025-05-01T00:00:00.000Z"
  retentionDuration := none
  data := .inboundEmail bobMail

def shopAlias : Alias :=
  ⟨"shop@a.com", "acc", "shop@a.com", "a.com", "shop", .quarantineVisible, none, none, none, "", ""⟩

def bobWorld : World :=
  ⟨⟨KeyedTable.empty.put (signalItem bobSignal), .empty⟩,
    ⟨KeyedTable.empty.put shopAlias, .empty, .empty⟩, .empty, [], 0⟩

def approveBob (faults : Faults Fate) :
    Outcome World Processor.IngestService.Cmd Fate (Except ApiError ApprovalResponse) :=
  (quarantineResponse bobEnv "acc" "sgn-00001000").run.run (service bobEnv) faults bobWorld

theorem heldSignal_bob : heldSignal bobEnv bobWorld.table "acc" "sgn-00001000" = some bobSignal := by
  decide +kernel

theorem wellStored_bob : WellStored bobWorld.table where
  unthreaded := by decide
  named := by decide

theorem quarantineResponse_approves_bob :
    (∃ response, (approveBob []).result = some (.ok response)) ∧
      ∀ response, (approveBob []).result = some (.ok response) →
        ∃ stored, Approved "acc" bobSignal stored response.thread.id bobWorld.table
          (approveBob []).store.table := by
  constructor
  · have hok : ((approveBob []).result.bind Except.toOption).isSome = true := by decide +kernel
    cases hresult : (approveBob []).result with
    | none =>
      rw [hresult] at hok
      cases hok
    | some result =>
      rw [hresult] at hok
      cases result with
      | error error => cases hok
      | ok response => exact ⟨response, rfl⟩
  · intro response hresponse
    exact ((quarantineResponse_approves bobEnv "acc" "sgn-00001000" bobWorld wellStored_bob
      bobSignal heldSignal_bob []).1 response hresponse).2

/-- The last read fails after the mail was put on its thread. -/
theorem approval_fails_active :
    (approveBob (List.replicate 28 (some .done) ++ [some .refused])).result =
        some (.error internalError) ∧
      (rowOf "acc" bobSignal bobWorld.table).map (·.signal.status) = some .quarantineVisible ∧
      (rowOf "acc" bobSignal
        (approveBob (List.replicate 28 (some .done) ++ [some .refused])).store.table).map
          (·.signal.status) = some .active := by
  decide +kernel

end SesEmailAdapter.Api.QuarantineApproval
