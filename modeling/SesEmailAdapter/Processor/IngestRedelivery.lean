import SesEmailAdapter.Lib.Runs
import SesEmailAdapter.Processor.IngestRuns
import SesEmailAdapter.Processor.RecipientAccount

/-! # Redeliveries of a message without a thread

A mail that is blocked or quarantined has a signal without a thread. The way that resumes a stored
signal needs one, so a delivery that stops after it saved such a signal is never made good. -/

namespace SesEmailAdapter.Processor.IngestRedelivery
open Lib
open SesEmailAdapter.Types Database
open Database.SignalsTable (SignalItem signalItem)
open Database.ThreadDatabase Database.AccountDatabase
open Processor.IngestService Processor.InboundMessage
open Processor.IncomingEmail Processor.IngestStages
open Processor.IngestRuns Processor.RecipientAccount

/-- The signal row of a message in an account. -/
def rowOf (msg : InboundSignalMessage) (accountId : String) (w : World) : Option SignalItem :=
  w.table.signals.get (accountId, msg.compositeMailMessageId)

def accountOf (env : Env) (msg : InboundSignalMessage) (w : World) : Option String :=
  recipientAccount env msg.primaryRecipient w.accounts

variable {env : Env} {msg : InboundSignalMessage} {w start : World} {accountId : String}

/-! ## What calls leave alone -/

/-- Requests that write no row of a message. -/
def Spares : SignalsTable.Cmd → Prop
  | .getSignal .. => True
  | .querySignals .. => True
  | .querySignalsByGsi3 _ => True
  | .putSignal signal => isOwnLookupId signal.signalLookupId
  | .putCalendarEvent signal _ => isOwnLookupId signal.signalLookupId
  | .setCalendarEventRsvp .. => False
  | .updateSendStatus .. => False
  | .updateSignal .. => False
  | .getThread .. => True
  | .queryThreadsByGroupingKey .. => True
  | .putNewThread _ => True
  | .updateThread .. => True

variable {signal : Signal}

theorem rowOf_saveItem_own (h : isOwnLookupId signal.signalLookupId) (s : SignalsTable.Store) :
    (s.saveItem signal).signals.get (accountId, msg.compositeMailMessageId) =
      s.signals.get (accountId, msg.compositeMailMessageId) := by
  refine KeyedTable.get_put_ne _ _ fun hkey => msg.hasSource ?_
  rw [show msg.compositeMailMessageId = signal.signalLookupId from congrArg Prod.snd hkey]
  exact h

variable {c : SignalsTable.Cmd}

theorem rowOf_db (h : Spares c) (fate : Fate) :
    rowOf msg accountId (settle env (.db c) w fate).2 = rowOf msg accountId w := by
  let read (s : SignalsTable.Store) := s.signals.get (accountId, msg.compositeMailMessageId)
  have hexec : read (SignalsTable.exec c w.table).2 = read w.table := by
    cases c with
    | putSignal signal => exact rowOf_saveItem_own h _
    | putCalendarEvent signal respondedAt =>
      simp only [SignalsTable.exec]
      split
      · exact rowOf_saveItem_own h _
      · rfl
    | putNewThread thread =>
      simp only [SignalsTable.exec]
      split <;> rfl
    | setCalendarEventRsvp => exact h.elim
    | updateSendStatus => exact h.elim
    | updateSignal => exact h.elim
    | _ => rfl
  rcases settleRequest_store SignalsTable.exec SignalsTable.failure c w.table fate with hs | hs
  · exact congrArg read hs
  · exact (congrArg read hs).trans hexec

/-- Requests on the accounts that a delivery for an account makes. -/
def KeepsAccount (msg : InboundSignalMessage) (accountId : String) : AccountsTable.Cmd → Prop
  | .queryAliases _ => True
  | .queryDomains _ => True
  | .getSender .. => True
  | .putSender _ => True
  | .putAlias item => item.accountId = accountId ∧ item.aliasAddress = msg.primaryRecipient
  | _ => False

theorem accountOf_accounts {c : AccountsTable.Cmd} (h : KeepsAccount msg accountId c)
    (haccount : accountOf env msg w = some accountId) (fate : Fate) :
    accountOf env msg (settle env (.accounts c) w fate).2 = some accountId := by
  have hexec : recipientAccount env msg.primaryRecipient (AccountsTable.exec c w.accounts).2 =
      some accountId := by
    cases c with
    | putAlias item =>
      obtain ⟨rfl, haddress⟩ := h
      exact recipientAccount_saveAliasItem haddress haccount
    | queryAliases => exact haccount
    | queryDomains => exact haccount
    | getSender => exact haccount
    | putSender => exact haccount
    | _ => exact h.elim
  rcases settleRequest_store AccountsTable.exec AccountsTable.failure c w.accounts fate with hs | hs
  · exact (congrArg (recipientAccount env msg.primaryRecipient) hs).trans haccount
  · exact (congrArg (recipientAccount env msg.primaryRecipient) hs).trans hexec

/-! ## What a stage knows -/

/-- The world of a delivery that has not written its signal, from the one it began in. -/
structure Unsaved (env : Env) (msg : InboundSignalMessage) (start w : World) : Prop where
  account : accountOf env msg w = accountOf env msg start
  rows : ∀ accountId, rowOf msg accountId w = rowOf msg accountId start

/-- The signal is stored in the account of the message, where there was none. -/
structure Saved (env : Env) (msg : InboundSignalMessage) (start w : World) (signal : Signal) :
    Prop where
  account : accountOf env msg w = accountOf env msg start
  resolved : accountOf env msg start = some signal.accountId
  row : rowOf msg signal.accountId w = some (signalItem signal)
  missing : rowOf msg signal.accountId start = none
  others : ∀ accountId, accountId ≠ signal.accountId →
    rowOf msg accountId w = rowOf msg accountId start

def Knows (env : Env) (msg : InboundSignalMessage) (start : World) : Stage → World → Prop
  | .resolving, w => Unsaved env msg start w ∧
      systemAlias env.mailDomain msg.primaryRecipient = none
  | .unaliased, w => Unsaved env msg start w ∧
      systemDomainOwner env.mailDomain (domainOf msg.primaryRecipient) = none ∧
        accountOf env msg w = ownerAccount env msg.primaryRecipient w.accounts
  | .resolved accountId, w => Unsaved env msg start w ∧ accountOf env msg start = some accountId
  | .fresh accountId _, w => Unsaved env msg start w ∧ accountOf env msg start = some accountId ∧
      rowOf msg accountId start = none
  | .created accountId _, w => Unsaved env msg start w ∧
      accountOf env msg start = some accountId ∧ rowOf msg accountId start = none
  | .orphaned accountId _, w => Unsaved env msg start w ∧
      accountOf env msg start = some accountId ∧ rowOf msg accountId start = none
  | .stored signal _ _, w => Saved env msg start w signal
  | .resuming accountId existing _, w => Unsaved env msg start w ∧
      accountOf env msg start = some accountId ∧ ∃ item,
        rowOf msg accountId start = some item ∧ existing = readSignal env.stale item.signal

/-! ## What a call teaches -/

theorem unsaved_db (h : Spares c) (hw : Unsaved env msg start w)
    (fate : Fate) : Unsaved env msg start (settle env (.db c) w fate).2 :=
  ⟨hw.account, fun accountId => (rowOf_db h fate).trans (hw.rows accountId)⟩

theorem unsaved_accounts {c : AccountsTable.Cmd} (h : KeepsAccount msg accountId c)
    (haccount : accountOf env msg start = some accountId) (hw : Unsaved env msg start w)
    (fate : Fate) : Unsaved env msg start (settle env (.accounts c) w fate).2 :=
  ⟨(accountOf_accounts h (hw.account.trans haccount) fate).trans haccount.symm, hw.rows⟩

/-- Calls to neither table. -/
def Elsewhere : Cmd → Prop
  | .db _ => False
  | .accounts _ => False
  | _ => True

theorem tables_elsewhere {c : Cmd} (h : Elsewhere c) (env : Env) (w : World) (fate : Fate) :
    (settle env c w fate).2.table = w.table ∧ (settle env c w fate).2.accounts = w.accounts := by
  cases c with
  | db => exact h.elim
  | accounts => exact h.elim
  | ask => exact ⟨rfl, rfl⟩
  | attempt => exact ⟨rfl, rfl⟩
  | _ => cases fate <;> exact ⟨rfl, rfl⟩

theorem unsaved_elsewhere {c : Cmd} (h : Elsewhere c) (hw : Unsaved env msg start w)
    (fate : Fate) : Unsaved env msg start (settle env c w fate).2 := by
  obtain ⟨htable, haccounts⟩ := tables_elsewhere h env w fate
  constructor
  · rw [← hw.account, accountOf, accountOf, haccounts]
  · intro accountId
    rw [← hw.rows accountId, rowOf, rowOf, htable]

theorem saved_elsewhere {c : Cmd} (h : Elsewhere c)
    (hw : Saved env msg start w signal) (fate : Fate) :
    Saved env msg start (settle env c w fate).2 signal := by
  obtain ⟨htable, haccounts⟩ := tables_elsewhere h env w fate
  refine ⟨?_, hw.resolved, ?_, hw.missing, fun accountId hne => ?_⟩
  · rw [← hw.account, accountOf, accountOf, haccounts]
  · rw [← hw.row, rowOf, rowOf, htable]
  · rw [← hw.others accountId hne, rowOf, rowOf, htable]

theorem saved_db (h : Spares c) (hw : Saved env msg start w signal) (fate : Fate) :
    Saved env msg start (settle env (.db c) w fate).2 signal :=
  ⟨hw.account, hw.resolved, (rowOf_db h fate).trans hw.row, hw.missing,
    fun accountId hne => (rowOf_db h fate).trans (hw.others accountId hne)⟩

/-- The signal of the message is saved unless the request was refused. -/
theorem saved_putSignal (hsignal : IsSignalOf msg accountId signal)
    (hw : Unsaved env msg start w) (haccount : accountOf env msg start = some accountId)
    (hmissing : rowOf msg accountId start = none) {fate : Fate} (hfate : fate ≠ .refused) :
    Saved env msg start (settle env (.db (.putSignal signal)) w fate).2 signal := by
  obtain ⟨rfl, hlookup⟩ := hsignal
  have hstore : (settle env (.db (.putSignal signal)) w fate).2.table =
      w.table.saveItem signal := by
    cases fate with
    | done => rfl
    | refused => exact absurd rfl hfate
    | lost => rfl
  refine ⟨hw.account, haccount, ?_, hmissing, fun accountId hne => ?_⟩
  · rw [rowOf, hstore, ← hlookup]
    exact KeyedTable.get_put_self _ _
  · rw [← hw.rows accountId, rowOf, hstore]
    exact KeyedTable.get_put_ne _ _ fun hkey => hne (congrArg Prod.fst hkey)

theorem written_iff (signal : Signal) (fate : Fate) :
    written fate (settle env (.db (.putSignal signal)) w fate).1 = true ↔ fate ≠ .refused := by
  cases fate <;> simp [written, settle, SignalsTable.settle, settleRequest, SignalsTable.exec,
    SignalsTable.failure, Except.toBool]

/-! ## One call -/

variable {c : Cmd} {fate : Fate}

theorem activeOwner_system {mailDomain domain : String} {owner : Domain}
    (h : systemDomainOwner mailDomain domain = some owner) :
    activeOwner (some owner) = some ⟨owner.accountId, none⟩ := by
  unfold systemDomainOwner at h
  split at h
  · cases h
    rfl
  · split at h
    · cases h
      rfl
    · cases h

theorem knows_afterOwner {owner : Option Domain} (hw : Unsaved env msg start w)
    (haccount : accountOf env msg start = (activeOwner owner).map Resolved.accountId)
    (hnone : activeOwner owner = none → Knows env msg start .unaliased w) :
    Knows env msg start (afterOwner owner) w := by
  unfold afterOwner
  cases howner : activeOwner owner with
  | none => exact hnone howner
  | some resolved =>
    rw [howner] at haccount
    exact ⟨hw, haccount⟩

theorem accountOf_alias (hsystem : systemAlias env.mailDomain msg.primaryRecipient = none)
    {item : Alias} (hhead : (w.accounts.aliasesAt msg.primaryRecipient).head? = some item) :
    accountOf env msg w = some item.accountId := by
  unfold accountOf recipientAccount
  simp [hsystem, hhead]

theorem accountOf_unaliased (hsystem : systemAlias env.mailDomain msg.primaryRecipient = none)
    (hhead : (w.accounts.aliasesAt msg.primaryRecipient).head? = none) :
    accountOf env msg w = ownerAccount env msg.primaryRecipient w.accounts := by
  unfold accountOf recipientAccount
  simp [hsystem, hhead]

/-- An answer of the alias index says which account the message goes to. -/
theorem knows_afterAliases (hw : Unsaved env msg start w)
    (hsystem : systemAlias env.mailDomain msg.primaryRecipient = none) :
    Knows env msg start (afterAliases env msg.primaryRecipient
      (w.accounts.aliasesAt msg.primaryRecipient).head?) w := by
  unfold afterAliases
  cases hhead : (w.accounts.aliasesAt msg.primaryRecipient).head? with
  | some item => exact ⟨hw, hw.account.symm.trans (accountOf_alias hsystem hhead)⟩
  | none =>
    have haccount := accountOf_unaliased hsystem hhead
    cases hdomain : systemDomainOwner env.mailDomain (domainOf msg.primaryRecipient) with
    | none => exact ⟨hw, hdomain, haccount⟩
    | some owner =>
      have howner := activeOwner_system hdomain
      refine knows_afterOwner hw ?_ fun hnone => ?_
      · rw [← hw.account]
        refine Eq.trans haccount ?_
        unfold ownerAccount ownerIn
        rw [hdomain]
      · rw [howner] at hnone
        cases hnone

theorem knows_resolving (h : Knows env msg start .resolving w)
    (hallow : (monitor env msg).allow .resolving c) :
    Knows env msg start ((monitor env msg).next .resolving c fate (settle env c w fate).1)
      (settle env c w fate).2 := by
  obtain ⟨hw, hsystem⟩ := h
  rcases c with _ | c | _ | _ | _ | _ | _ | _
  case accounts =>
    cases c
    case queryAliases address =>
      obtain rfl : address = msg.primaryRecipient := hallow
      cases fate with
      | refused => exact ⟨hw, hsystem⟩
      | lost => exact ⟨hw, hsystem⟩
      | done => exact knows_afterAliases hw hsystem
    all_goals exact hallow.elim
  all_goals exact hallow.elim

theorem knows_unaliased (h : Knows env msg start .unaliased w)
    (hallow : (monitor env msg).allow .unaliased c) :
    Knows env msg start ((monitor env msg).next .unaliased c fate (settle env c w fate).1)
      (settle env c w fate).2 := by
  obtain ⟨hw, hdomain, howner⟩ := h
  rcases c with _ | c | _ | _ | _ | _ | _ | _
  case accounts =>
    cases c
    case queryDomains domain =>
      obtain rfl : domain = domainOf msg.primaryRecipient := hallow
      cases fate with
      | refused => exact ⟨hw, hdomain, howner⟩
      | lost => exact ⟨hw, hdomain, howner⟩
      | done =>
        refine knows_afterOwner hw ?_ fun _ => ⟨hw, hdomain, howner⟩
        rw [← hw.account, howner]
        unfold ownerAccount ownerIn
        rw [hdomain]
    all_goals exact hallow.elim
  all_goals exact hallow.elim

theorem knows_resolved (h : Knows env msg start (.resolved accountId) w)
    (hallow : (monitor env msg).allow (.resolved accountId) c) :
    Knows env msg start
      ((monitor env msg).next (.resolved accountId) c fate (settle env c w fate).1)
      (settle env c w fate).2 := by
  obtain ⟨hw, haccount⟩ := h
  rcases c with c | _ | _ | _ | _ | _ | _ | _
  case db =>
    cases c
    case getSignal account lookupId =>
      obtain ⟨rfl, rfl⟩ := hallow
      cases fate with
      | refused => exact ⟨hw, haccount⟩
      | lost => exact ⟨hw, haccount⟩
      | done =>
        have hrow := hw.rows account
        show Knows env msg start (afterLookup env account ((rowOf msg account w).map _)) w
        cases hfound : rowOf msg account w with
        | none => exact ⟨hw, haccount, hrow.symm.trans hfound⟩
        | some item => exact ⟨hw, haccount, item, hrow.symm.trans hfound, rfl⟩
    all_goals exact hallow.elim
  all_goals exact hallow.elim

theorem knows_fresh {seen : List String} (h : Knows env msg start (.fresh accountId seen) w)
    (hallow : (monitor env msg).allow (.fresh accountId seen) c) :
    Knows env msg start
      ((monitor env msg).next (.fresh accountId seen) c fate (settle env c w fate).1)
      (settle env c w fate).2 := by
  obtain ⟨hw, haccount, hmissing⟩ := h
  rcases c with c | c | _ | _ | _ | _ | _ | _
  case ask e => exact ⟨unsaved_elsewhere (c := .ask e) trivial hw fate, haccount, hmissing⟩
  case attempt e => exact ⟨unsaved_elsewhere (c := .attempt e) trivial hw fate, haccount, hmissing⟩
  case accounts =>
    have hkeeps : KeepsAccount msg accountId c := by
      cases c
      case putAlias => exact hallow
      case getSender => trivial
      case putSender => trivial
      all_goals exact hallow.elim
    have hnext := unsaved_accounts hkeeps haccount hw fate
    cases c <;> exact ⟨hnext, haccount, hmissing⟩
  case db =>
    cases c
    case putSignal signal =>
      show Knows env msg start (if _ then _ else _) _
      split
      case isTrue hwritten =>
        obtain ⟨hlookup, hwritten⟩ := hwritten
        have hsignal : IsSignalOf msg accountId signal := by
          rcases hallow with hown | ⟨hsignal, -⟩
          · exact absurd (hlookup ▸ hown) msg.hasSource
          · exact hsignal
        exact saved_putSignal hsignal hw haccount hmissing ((written_iff signal fate).mp hwritten)
      case isFalse hnot =>
        by_cases hown : isOwnLookupId signal.signalLookupId
        · exact ⟨unsaved_db (c := .putSignal signal) hown hw fate, haccount, hmissing⟩
        · have hsignal := hallow.resolve_left hown
          have hrefused : fate = .refused := by
            by_contra hfate
            exact hnot ⟨hsignal.1.2, (written_iff signal fate).mpr hfate⟩
          subst hrefused
          exact ⟨hw, haccount, hmissing⟩
    case queryThreadsByGroupingKey =>
      cases fate <;> exact ⟨hw, haccount, hmissing⟩
    case querySignalsByGsi3 gsi3pk =>
      exact ⟨unsaved_db (c := .querySignalsByGsi3 gsi3pk) trivial hw fate, haccount, hmissing⟩
    case getThread account id =>
      have hnext := unsaved_db (c := .getThread account id) trivial hw fate
      cases hanswer : (settle env (.db (.getThread account id)) w fate).1 with
      | error => exact ⟨hnext, haccount, hmissing⟩
      | ok thread => cases thread <;> exact ⟨hnext, haccount, hmissing⟩
    case putNewThread thread =>
      have hnext := unsaved_db (c := .putNewThread thread) trivial hw fate
      cases hanswer : (settle env (.db (.putNewThread thread)) w fate).1 <;>
        exact ⟨hnext, haccount, hmissing⟩
    case updateThread account id status lastSignalAt now fields =>
      have hnext := unsaved_db (c := .updateThread account id status lastSignalAt now fields)
        trivial hw fate
      exact ⟨hnext, haccount, hmissing⟩
    all_goals exact hallow.elim
  all_goals exact hallow.elim

theorem knows_created {threadId : String}
    (h : Knows env msg start (.created accountId threadId) w)
    (hallow : (monitor env msg).allow (.created accountId threadId) c) :
    Knows env msg start
      ((monitor env msg).next (.created accountId threadId) c fate (settle env c w fate).1)
      (settle env c w fate).2 := by
  obtain ⟨hw, haccount, hmissing⟩ := h
  rcases c with c | _ | _ | _ | _ | _ | _ | _
  case db =>
    cases c
    case putSignal signal =>
      show Knows env msg start (if _ then _ else _) _
      split
      case isTrue hwritten =>
        exact saved_putSignal hallow.1 hw haccount hmissing ((written_iff signal fate).mp hwritten)
      case isFalse hnot =>
        have hrefused : fate = .refused := by
          by_contra hfate
          exact hnot ((written_iff signal fate).mpr hfate)
        subst hrefused
        exact ⟨hw, haccount, hmissing⟩
    all_goals exact hallow.elim
  all_goals exact hallow.elim

theorem knows_stored {isNew sent : Bool} (h : Knows env msg start (.stored signal isNew sent) w)
    (hallow : (monitor env msg).allow (.stored signal isNew sent) c) :
    Knows env msg start
      ((monitor env msg).next (.stored signal isNew sent) c fate (settle env c w fate).1)
      (settle env c w fate).2 := by
  rcases c with c | c | e | e | _ | _ | _ | payload
  case db =>
    have hspares : Spares c := by
      cases c
      case getSignal => trivial
      case putSignal => exact hallow
      case putCalendarEvent => exact hallow
      all_goals exact hallow.elim
    exact saved_db hspares h fate
  case accounts => exact hallow.elim
  case sendMessage =>
    have hnext : Saved env msg start (settle env (.sendMessage payload) w fate).2 signal :=
      saved_elsewhere (c := .sendMessage payload) trivial h fate
    cases fate <;> exact hnext
  case ask => exact saved_elsewhere (c := .ask e) trivial h fate
  case attempt => exact saved_elsewhere (c := .attempt e) trivial h fate
  case saveResource params now =>
    exact saved_elsewhere (c := .saveResource params now) trivial h fate
  case saveIcsContent key content =>
    exact saved_elsewhere (c := .saveIcsContent key content) trivial h fate
  case upsertEmbeddings upserted thread =>
    exact saved_elsewhere (c := .upsertEmbeddings upserted thread) trivial h fate

theorem knows_resuming {existing : Signal} {sent : Bool}
    (h : Knows env msg start (.resuming accountId existing sent) w)
    (hallow : (monitor env msg).allow (.resuming accountId existing sent) c) :
    Knows env msg start
      ((monitor env msg).next (.resuming accountId existing sent) c fate (settle env c w fate).1)
      (settle env c w fate).2 := by
  obtain ⟨hw, hfound⟩ := h
  rcases c with c | _ | e | e | _ | _ | _ | payload
  case db =>
    cases c
    case getThread account id =>
      exact ⟨unsaved_db (c := .getThread account id) trivial hw fate, hfound⟩
    all_goals exact hallow.elim
  case ask => exact ⟨unsaved_elsewhere (c := .ask e) trivial hw fate, hfound⟩
  case attempt => exact ⟨unsaved_elsewhere (c := .attempt e) trivial hw fate, hfound⟩
  case upsertEmbeddings upserted thread =>
    exact ⟨unsaved_elsewhere (c := .upsertEmbeddings upserted thread) trivial hw fate, hfound⟩
  case sendMessage =>
    have hnext : Unsaved env msg start (settle env (.sendMessage payload) w fate).2 :=
      unsaved_elsewhere (c := .sendMessage payload) trivial hw fate
    cases fate <;> exact ⟨hnext, hfound⟩
  all_goals exact hallow.elim

theorem knows_step (q : Stage) (c : Cmd) (w : World) (fate : Fate) (h : Knows env msg start q w)
    (hallow : (monitor env msg).allow q c) :
    Knows env msg start ((monitor env msg).next q c fate ((service env).settle c w fate).1)
      ((service env).settle c w fate).2 := by
  cases q with
  | resolving => exact knows_resolving h hallow
  | unaliased => exact knows_unaliased h hallow
  | resolved => exact knows_resolved h hallow
  | fresh => exact knows_fresh h hallow
  | created => exact knows_created h hallow
  | orphaned => exact hallow.elim
  | stored => exact knows_stored h hallow
  | resuming => exact knows_resuming h hallow

/-! ## Deliveries -/

theorem knows_start : Knows env msg start (IngestStages.start env msg) start := by
  have hsame : Unsaved env msg start start := ⟨rfl, fun _ => rfl⟩
  unfold IngestStages.start
  cases hsystem : systemAlias env.mailDomain msg.primaryRecipient with
  | none => exact ⟨hsame, hsystem⟩
  | some item =>
    refine ⟨hsame, ?_⟩
    unfold accountOf recipientAccount
    rw [hsystem]

/-- A delivery from the queue, with its receive count and the turns of its calls. -/
def deliver (env : Env) (msg : InboundSignalMessage) (w : World) (delivery : Nat × Faults Fate) :
    Outcome World Cmd Fate (Except IngestError Unit) :=
  (processInbound env msg delivery.1 noOptions).run (service env) delivery.2 w

theorem deliver_knows (env : Env) (msg : InboundSignalMessage) (start : World)
    (delivery : Nat × Faults Fate) :
    ∃ q, Knows env msg start q (deliver env msg start delivery).store ∧
      ((deliver env msg start delivery).result = some (.ok ()) → q.MayEnd delivery.1) := by
  have hobeys : (processInbound env msg delivery.1 noOptions).Obeys (monitor env msg)
    (Ended delivery.1) (IngestStages.start env msg) := obeys_processInbound rfl
  obtain ⟨q, hknows, hend⟩ := hobeys.run knows_step knows_start delivery.2
  exact ⟨q, hknows, fun hok => (hend _ hok).2 rfl⟩

/-! ## Redeliveries -/

/-- A message with a signal without a thread, in the account that the message goes to. -/
structure Waiting (env : Env) (msg : InboundSignalMessage) (accountId : String) (item : SignalItem)
    (w : World) : Prop where
  account : accountOf env msg w = some accountId
  row : rowOf msg accountId w = some item
  threadless : item.signal.threadId.getD "" = ""

variable {item : SignalItem}

theorem waiting_of_unsaved (h : Waiting env msg accountId item start)
    (hw : Unsaved env msg start w) : Waiting env msg accountId item w :=
  ⟨hw.account.trans h.account, (hw.rows accountId).trans h.row, h.threadless⟩

theorem unsaved_or_saved {q : Stage} (h : Knows env msg start q w) :
    Unsaved env msg start w ∨ ∃ signal, Saved env msg start w signal := by
  cases q with
  | stored signal isNew sent => exact .inr ⟨signal, h⟩
  | _ => exact .inl h.1

/-- A delivery that saves the signal of a message without a thread leaves the message waiting. -/
theorem waiting_of_saved {first : Nat × Faults Fate} (hmissing : rowOf msg accountId w = none)
    (hsaved : rowOf msg accountId (deliver env msg w first).store = some item)
    (hthread : item.signal.threadId.getD "" = "") :
    Waiting env msg accountId item (deliver env msg w first).store := by
  obtain ⟨q, hknows, -⟩ := deliver_knows env msg w first
  rcases unsaved_or_saved hknows with hw | ⟨signal, hw⟩
  · rw [hw.rows accountId, hmissing] at hsaved
    cases hsaved
  · by_cases haccount : accountId = signal.accountId
    · refine ⟨?_, hsaved, hthread⟩
      rw [hw.account, hw.resolved, haccount]
    · rw [hw.others accountId haccount, hmissing] at hsaved
      cases hsaved

/-- **A retry of a waiting message fails**, and the message keeps waiting. -/
theorem waiting_deliver (h : Waiting env msg accountId item w) {retry : Nat × Faults Fate}
    (hretry : 1 < retry.1) :
    Waiting env msg accountId item (deliver env msg w retry).store ∧
      (deliver env msg w retry).result ≠ some (.ok ()) := by
  have hfound {account : String} (haccount : accountOf env msg w = some account) :
      rowOf msg account w = some item := by
    rw [h.account] at haccount
    rw [← Option.some.inj haccount]
    exact h.row
  obtain ⟨q, hknows, hend⟩ := deliver_knows env msg w retry
  cases q with
  | resolving => exact ⟨waiting_of_unsaved h hknows.1, hend⟩
  | unaliased => exact ⟨waiting_of_unsaved h hknows.1, hend⟩
  | resolved => exact ⟨waiting_of_unsaved h hknows.1, hend⟩
  | fresh account seen =>
    obtain ⟨-, haccount, hmissing⟩ := hknows
    rw [hfound haccount] at hmissing
    cases hmissing
  | created account threadId =>
    obtain ⟨-, haccount, hmissing⟩ := hknows
    rw [hfound haccount] at hmissing
    cases hmissing
  | orphaned account threadId =>
    obtain ⟨-, haccount, hmissing⟩ := hknows
    rw [hfound haccount] at hmissing
    cases hmissing
  | stored signal isNew sent =>
    have hmissing := hknows.missing
    rw [hfound hknows.resolved] at hmissing
    cases hmissing
  | resuming account existing sent =>
    obtain ⟨hw, haccount, found, hrow, rfl⟩ := hknows
    refine ⟨waiting_of_unsaved h hw, fun hok => (hend hok hretry).1 ?_⟩
    rw [hfound haccount] at hrow
    cases hrow
    rw [readSignal_threadId]
    exact h.threadless

/-- The next delivery of a message ends well and leaves its signal unchanged. -/
def Converges (env : Env) (msg : InboundSignalMessage) (accountId : String) (w : World)
    (next : Nat × Faults Fate) : Prop :=
  (deliver env msg w next).result = some (.ok ()) ∧
    rowOf msg accountId (deliver env msg w next).store = rowOf msg accountId w

/-- **No redelivery of a pre-thread signal converges.** A delivery that saved the signal of its
message without a thread is followed by a failure, whatever its calls are answered. -/
theorem rejected_never_converges {first next : Nat × Faults Fate}
    (hmissing : rowOf msg accountId w = none)
    (hsaved : rowOf msg accountId (deliver env msg w first).store = some item)
    (hthread : item.signal.threadId.getD "" = "") (hretry : 1 < next.1) :
    ¬ Converges env msg accountId (deliver env msg w first).store next := by
  rintro ⟨hok, -⟩
  exact (waiting_deliver (waiting_of_saved hmissing hsaved hthread) hretry).2 hok

/-- The message cycles: every redelivery of a run fails and leaves the signal as it is. -/
theorem rejected_cycles {first : Nat × Faults Fate} {retries : List (Nat × Faults Fate)}
    (hmissing : rowOf msg accountId w = none)
    (hsaved : rowOf msg accountId (deliver env msg w first).store = some item)
    (hthread : item.signal.threadId.getD "" = "")
    (hretries : EachFits (fun w retry => (deliver env msg w retry).store)
      (fun _ retry => 1 < retry.1) (deliver env msg w first).store retries) :
    EachFits (fun w retry => (deliver env msg w retry).store)
      (fun w retry => (deliver env msg w retry).result ≠ some (.ok ()) ∧
        rowOf msg accountId (deliver env msg w retry).store = some item)
      (deliver env msg w first).store retries := by
  refine eachFits_of_invariant (fun w retry h hretry => ?_)
    (waiting_of_saved hmissing hsaved hthread) hretries
  obtain ⟨hnext, hfails⟩ := waiting_deliver h hretry
  exact ⟨hnext, hfails, hnext.row⟩

/-! ## A spoofed mail -/

/-- Services that know of nothing. -/
def quietEnv : Env where
  answer _ e := match e with
    | .now => "2025-06-01T00:00:00.000Z"
    | .newId => "0001"
    | .getAccount _ => .ok none
    | .listLabels _ => .ok []
    | .listEnabledRules _ => .ok []
    | .sanitize .. => .error ⟨"no content"⟩
    | .handleInboundBounce .. => .ok ()
    | .classify _ => .ok unclassified
    | .embed .. => .ok ⟨"model", []⟩
    | .embedSecondary .. => []
    | .findMatch .. => .ok none
    | .evaluate .. => ⟨false, [], []⟩
    | .extractCalendar _ => .ok none
  mailDomain := "mail.app"
  checkCharsFor _ := "abc"
  getDomain := some
  isUrl _ := false
  stale _ := false

def spoofedMail : InboundSignalMessage where
  s3Key := "emails/1"
  compositeMailMessageId := "ses-1"
  idempotencyKey := "1"
  timestamp := "2025-06-01T00:00:00.000Z"
  primaryRecipient := "me@example.com"
  dkimVerdict := .fail
  dmarcVerdict := .pass
  hasSource := by unfold isOwnLookupId; decide

def recipientAlias : Alias :=
  ⟨"alias", "acc", "me@example.com", "example.com", "me", .allowAll, none, none, none, "c", "u"⟩

def aliasWorld : World where
  table := ⟨.empty, .empty⟩
  accounts := ⟨KeyedTable.empty.put recipientAlias, .empty, .empty⟩
  resources := .empty
  dispatched := []
  tick := 0

/-- The delivery crashes after its fifth call, the save of the signal. -/
def crashedDelivery : Nat × Faults Fate := (1, List.replicate 5 (some .done) ++ [none])

def spoofedRow : SignalItem :=
  signalItem (earlyBlock spoofedMail "acc" .blockReject unparsedMime none "2025-06-01T00:00:00.000Z"
    "sgn-0001")

def crashedWorld : World := (deliver quietEnv spoofedMail aliasWorld crashedDelivery).store

theorem rowOf_crashedWorld : rowOf spoofedMail "acc" crashedWorld = some spoofedRow := by
  decide +kernel

theorem rejected_never_converges_spoofed :
    rowOf spoofedMail "acc" crashedWorld = some spoofedRow ∧
      ¬ Converges quietEnv spoofedMail "acc" crashedWorld (2, []) :=
  ⟨rowOf_crashedWorld, @rejected_never_converges quietEnv spoofedMail aliasWorld "acc" spoofedRow
    crashedDelivery (2, []) (by decide +kernel) rowOf_crashedWorld rfl (by decide)⟩

/-- The first delivery saves the blocked mail and crashes; its retry looks for a thread. -/
theorem spoofedMail_fails_on_retry :
    rowOf spoofedMail "acc" aliasWorld = none ∧
      (deliver quietEnv spoofedMail aliasWorld crashedDelivery).result = none ∧
      rowOf spoofedMail "acc" crashedWorld = some spoofedRow ∧
      spoofedRow.signal.threadId = none ∧
      (deliver quietEnv spoofedMail crashedWorld (2, [])).result =
        some (.error (.db ⟨"signal missing threadId on retry"⟩)) ∧
      ¬ Converges quietEnv spoofedMail "acc" crashedWorld (2, []) := by
  have hretry : (deliver quietEnv spoofedMail crashedWorld (2, [])).result =
      some (.error (.db ⟨"signal missing threadId on retry"⟩)) := by
    with_unfolding_all rfl
  refine ⟨by decide +kernel, by decide +kernel, rowOf_crashedWorld, rfl, hretry, ?_⟩
  rintro ⟨hok, -⟩
  rw [hretry] at hok
  cases hok

end SesEmailAdapter.Processor.IngestRedelivery
