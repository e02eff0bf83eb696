import SesEmailAdapter.Processor.IngestThreads

/-! # Other accounts

Any number of deliveries of one message, in any order and with any failures. The recipient is
resolved to the account it had when the run began, whoever asks and whenever, and of every other
account the threads, the aliases and the mail stay as they are. -/

namespace SesEmailAdapter.Processor.IngestIsolation
open Lib Database Database.AccountDatabase Database.Shared
open Database.SignalsTable (exec failure bareThread WriteError)
open Processor.IngestService Processor.InboundMessage Processor.IncomingEmail
open Processor.IngestStages Processor.IngestRuns Processor.IngestRedelivery
open Processor.IngestThreads Processor.RecipientAccount
open SesEmailAdapter.Types

/-- The threads and aliases of an account, and its signals but those that the system makes
itself. -/
structure SameRows (accountId : String) (start w : World) : Prop where
  threads : ∀ id, w.table.threads.get (accountId, id) = start.table.threads.get (accountId, id)
  aliases : ∀ address,
    w.accounts.aliases.get (accountId, address) = start.accounts.aliases.get (accountId, address)
  signals : ∀ lookupId, ¬ isOwnLookupId lookupId →
    w.table.signals.get (accountId, lookupId) = start.table.signals.get (accountId, lookupId)

/-- Deliveries of the message, whenever the queue makes them. -/
def freely (env : Env) (msg : InboundSignalMessage) :
    Rules Cmd Cmd.Answer (Except IngestError Unit) World Fate Stage where
  spawn prog q _ _ := q = IngestStages.start env msg ∧ ∃ receiveCount opts,
    opts.force = false ∧ prog = processInbound env msg receiveCount opts
  step _ _ _ _ _ _ := True
  crash _ _ _ _ := True

variable {env : Env} {msg : InboundSignalMessage} {start w w' : World} {accountId other : String}
  {c : Cmd} {fate : Fate} {q : Stage}

theorem SameRows.trans (h : SameRows other start w) (h' : SameRows other w w') :
    SameRows other start w' :=
  ⟨fun id => (h'.threads id).trans (h.threads id),
    fun address => (h'.aliases address).trans (h.aliases address),
    fun lookupId hown => (h'.signals lookupId hown).trans (h.signals lookupId hown)⟩

/-! ## What a call writes -/

/-- Calls that write no row of the account but signals of the system. -/
def Foreign (env : Env) (msg : InboundSignalMessage) (start : World) (other : String) : Cmd → Prop
  | .db (.putSignal signal) => isOwnLookupId signal.signalLookupId ∨ signal.accountId ≠ other
  | .db (.putCalendarEvent signal _) => isOwnLookupId signal.signalLookupId
  | .db (.setCalendarEventRsvp ..) => False
  | .db (.updateSendStatus ..) => False
  | .db (.updateSignal ..) => False
  | .db (.putNewThread thread) => thread.accountId ≠ other
  | .db (.updateThread account ..) => account ≠ other
  | .accounts (.queryAliases _) => True
  | .accounts (.queryDomains _) => True
  | .accounts (.getSender ..) => True
  | .accounts (.putSender _) => True
  | .accounts (.putAlias item) => accountOf env msg start = some item.accountId ∧
      item.aliasAddress = msg.primaryRecipient
  | .accounts _ => False
  | _ => True

theorem signals_saveItem {signal : Signal}
    (h : isOwnLookupId signal.signalLookupId ∨ signal.accountId ≠ other) (s : SignalsTable.Store)
    {lookupId : String} (hown : ¬ isOwnLookupId lookupId) :
    (s.saveItem signal).signals.get (other, lookupId) = s.signals.get (other, lookupId) := by
  refine KeyedTable.get_put_ne _ _ fun hkey => ?_
  obtain ⟨haccount, hlookup⟩ := Prod.mk.inj hkey
  rcases h with h | h
  · exact hown (hlookup ▸ h)
  · exact h haccount.symm

/-- What a request on the table of threads and signals leaves, whether it takes effect or not. -/
theorem sameRows_db {c : SignalsTable.Cmd} (h : Foreign env msg start other (.db c)) :
    SameRows other w (settle env (.db c) w fate).2 := by
  have hexec : (∀ id, (exec c w.table).2.threads.get (other, id) =
      w.table.threads.get (other, id)) ∧ ∀ lookupId, ¬ isOwnLookupId lookupId →
      (exec c w.table).2.signals.get (other, lookupId) =
        w.table.signals.get (other, lookupId) := by
    cases c with
    | putSignal signal => exact ⟨fun _ => rfl, fun _ hown => signals_saveItem h _ hown⟩
    | putCalendarEvent signal respondedAt =>
      simp only [exec]
      split
      · exact ⟨fun _ => rfl, fun _ hown => signals_saveItem (.inl h) _ hown⟩
      · exact ⟨fun _ => rfl, fun _ _ => rfl⟩
    | putNewThread thread =>
      simp only [exec]
      split
      · exact ⟨fun _ => rfl, fun _ _ => rfl⟩
      · refine ⟨fun id => KeyedTable.get_put_ne _ _ fun hkey => h ?_, fun _ _ => rfl⟩
        exact (congrArg Prod.fst hkey).symm
    | updateThread account id status lastSignalAt now fields =>
      refine ⟨fun id' => KeyedTable.get_put_ne _ _ fun hkey => h ?_, fun _ _ => rfl⟩
      have haccount : ((w.table.threads.get (account, id)).getD
          (bareThread account id now)).accountId = account := by
        cases hget : w.table.threads.get (account, id) with
        | none => rfl
        | some thread => exact congrArg Prod.fst (KeyedTable.key_of_get hget)
      exact haccount.symm.trans (congrArg Prod.fst hkey).symm
    | setCalendarEventRsvp => exact h.elim
    | updateSendStatus => exact h.elim
    | updateSignal => exact h.elim
    | _ => exact ⟨fun _ => rfl, fun _ _ => rfl⟩
  rcases settleRequest_store exec failure c w.table fate with hs | hs
  · exact ⟨fun id => congrArg (·.threads.get (other, id)) hs, fun _ => rfl,
      fun lookupId _ => congrArg (·.signals.get (other, lookupId)) hs⟩
  · exact ⟨fun id => (congrArg (·.threads.get (other, id)) hs).trans (hexec.1 id), fun _ => rfl,
      fun lookupId hown =>
        (congrArg (·.signals.get (other, lookupId)) hs).trans (hexec.2 lookupId hown)⟩

theorem sameRows_accounts {c : AccountsTable.Cmd} (h : Foreign env msg start other (.accounts c))
    (hother : accountOf env msg start ≠ some other)
    (haccount : accountOf env msg w = accountOf env msg start) :
    SameRows other w (settle env (.accounts c) w fate).2 ∧
      (settle env (.accounts c) w fate).2.accounts.domains = w.accounts.domains ∧
      accountOf env msg (settle env (.accounts c) w fate).2 = accountOf env msg start := by
  cases c with
  | putAlias item =>
    obtain ⟨hitem, haddress⟩ := h
    have hne : item.accountId ≠ other := fun heq => hother (heq ▸ hitem)
    have hsaved : recipientAccount env msg.primaryRecipient (w.accounts.saveAliasItem item) =
        accountOf env msg start :=
      (recipientAccount_saveAliasItem haddress (haccount.trans hitem)).trans hitem.symm
    have hput : SameRows other w { w with accounts := w.accounts.saveAliasItem item } := by
      refine ⟨fun _ => rfl, fun address => ?_, fun _ _ => rfl⟩
      exact KeyedTable.get_put_ne _ _ fun hkey => hne (congrArg Prod.fst hkey).symm
    cases fate with
    | done => exact ⟨hput, rfl, hsaved⟩
    | lost => exact ⟨hput, rfl, hsaved⟩
    | refused => exact ⟨⟨fun _ => rfl, fun _ => rfl, fun _ _ => rfl⟩, rfl, haccount⟩
  | queryAliases =>
    cases fate <;> exact ⟨⟨fun _ => rfl, fun _ => rfl, fun _ _ => rfl⟩, rfl, haccount⟩
  | queryDomains =>
    cases fate <;> exact ⟨⟨fun _ => rfl, fun _ => rfl, fun _ _ => rfl⟩, rfl, haccount⟩
  | getSender =>
    cases fate <;> exact ⟨⟨fun _ => rfl, fun _ => rfl, fun _ _ => rfl⟩, rfl, haccount⟩
  | putSender =>
    cases fate <;> exact ⟨⟨fun _ => rfl, fun _ => rfl, fun _ _ => rfl⟩, rfl, haccount⟩
  | _ => exact h.elim

/-! ## The invariant -/

/-- What a stage says of the account, which no call changes. -/
def Routed (env : Env) (msg : InboundSignalMessage) (start : World) : Stage → Prop
  | .resolving => systemAlias env.mailDomain msg.primaryRecipient = none
  | .unaliased => systemDomainOwner env.mailDomain (domainOf msg.primaryRecipient) = none ∧
      accountOf env msg start = ownerAccount env msg.primaryRecipient start.accounts
  | .resolved accountId => accountOf env msg start = some accountId
  | .fresh accountId _ => accountOf env msg start = some accountId
  | .created accountId _ => accountOf env msg start = some accountId
  | .orphaned accountId _ => accountOf env msg start = some accountId
  | .resuming accountId _ _ => accountOf env msg start = some accountId
  | .stored .. => True

structure Inv (env : Env) (msg : InboundSignalMessage) (other : String) (start w : World)
    (views : List (Stage × Bool)) : Prop where
  account : accountOf env msg w = accountOf env msg start
  domains : w.accounts.domains = start.accounts.domains
  same : SameRows other start w
  routed : ∀ view ∈ views, Routed env msg start view.1

/-- A live delivery asks for its own account only. -/
theorem foreign_of_allow (hrouted : Routed env msg start q)
    (hother : accountOf env msg start ≠ some other) (hallow : (monitor env msg).allow q c) :
    Foreign env msg start other c := by
  have hne {own account : String} (hown : accountOf env msg start = some own)
      (h : account = own) : account ≠ other :=
    fun heq => hother (hown.trans (congrArg some (h.symm.trans heq)))
  unfold monitor at hallow
  dsimp only at hallow
  split at hallow
  case h_4 =>
    unfold FreshCall at hallow
    split at hallow
    case h_4 => exact ⟨hallow.1 ▸ hrouted, hallow.2⟩
    case h_9 => exact hne hrouted hallow
    case h_10 => exact hne hrouted hallow.1
    case h_11 signal => exact Or.imp_right (fun h => hne hrouted h.1.1) hallow
    all_goals trivial
  case h_5 => exact .inr (hne hrouted hallow.1.1)
  case h_6 =>
    unfold StoredCall at hallow
    split at hallow
    case h_4 => exact .inl hallow
    case h_5 => exact hallow
    all_goals trivial
  case h_7 =>
    unfold ResumeCall at hallow
    split at hallow
    all_goals trivial
  all_goals trivial

theorem routed_afterOwner {owner : Option Domain}
    (haccount : accountOf env msg start = (activeOwner owner).map Resolved.accountId)
    (hnone : activeOwner owner = none → Routed env msg start .unaliased) :
    Routed env msg start (afterOwner owner) := by
  unfold afterOwner
  cases howner : activeOwner owner with
  | none => exact hnone howner
  | some resolved =>
    rw [howner] at haccount
    exact haccount

theorem ownerIn_of_domains (h : w.accounts.domains = start.accounts.domains) (domain : String) :
    ownerIn env domain w.accounts = ownerIn env domain start.accounts := by
  unfold ownerIn AccountsTable.Store.registrations
  rw [h]

variable {views : List (Stage × Bool)}

theorem routed_afterAliases (h : Inv env msg other start w views)
    (hsystem : systemAlias env.mailDomain msg.primaryRecipient = none) :
    Routed env msg start (afterAliases env msg.primaryRecipient
      (w.accounts.aliasesAt msg.primaryRecipient).head?) := by
  unfold afterAliases
  cases hhead : (w.accounts.aliasesAt msg.primaryRecipient).head? with
  | some item => exact h.account.symm.trans (accountOf_alias hsystem hhead)
  | none =>
    have howner : accountOf env msg start =
        (activeOwner (ownerIn env (domainOf msg.primaryRecipient) start.accounts)).map
          Resolved.accountId := by
      rw [← ownerIn_of_domains h.domains]
      exact h.account.symm.trans (accountOf_unaliased hsystem hhead)
    cases hdomain : systemDomainOwner env.mailDomain (domainOf msg.primaryRecipient) with
    | none => exact ⟨hdomain, howner⟩
    | some owner =>
      refine routed_afterOwner ?_ fun hnone => ?_
      · rw [howner, ownerIn, hdomain]
      · rw [activeOwner_system hdomain] at hnone
        cases hnone

theorem routed_next (h : Inv env msg other start w views) (hrouted : Routed env msg start q)
    (hallow : (monitor env msg).allow q c) :
    Routed env msg start ((monitor env msg).next q c fate (settle env c w fate).1) := by
  generalize hanswer : (settle env c w fate).1 = answer
  unfold monitor
  dsimp only
  split
  case h_1 address items =>
    obtain rfl : address = msg.primaryRecipient := hallow
    cases fate with
    | done => exact Except.ok.inj hanswer ▸ routed_afterAliases h hrouted
    | _ => cases hanswer
  case h_2 domain items =>
    obtain rfl : domain = domainOf msg.primaryRecipient := hallow
    cases fate with
    | done =>
      refine routed_afterOwner ?_ fun _ => hrouted
      have howner : ownerIn env _ w.accounts = _ :=
        ownerIn_of_domains h.domains (domainOf msg.primaryRecipient)
      rw [ownerIn, hrouted.1] at howner
      rw [hrouted.2, ownerAccount, ← howner]
      rw [← (Except.ok.inj hanswer : w.accounts.registrations _ = items)]
    | _ => cases hanswer
  case h_3 accountId _ _ _ item => cases item <;> exact hrouted
  case h_7 => split <;> trivial
  case h_8 => split <;> trivial
  case h_9 => trivial
  all_goals exact hrouted

theorem keeps_inv (hother : accountOf env msg start ≠ some other) :
    Lib.Keeps (service env) (monitor env msg) (fun q (_ : Except IngestError Unit) => q.Settled)
      (freely env msg) (Inv env msg other start) where
  spawn w views prog q h hspawn := by
    obtain ⟨rfl, receiveCount, opts, hforce, rfl⟩ := hspawn
    refine ⟨(obeys_processInbound hforce).mono fun _ _ hend => hend.1, h.account, h.domains,
      h.same, fun view hview => ?_⟩
    rcases List.mem_append.mp hview with hview | hview
    · exact h.routed view hview
    · rw [List.mem_singleton.mp hview]
      unfold IngestStages.start
      split
      · assumption
      · next item hsystem =>
        show recipientAccount env msg.primaryRecipient start.accounts = some item.accountId
        simp [recipientAccount, hsystem]
  step w views i q c fate h hq hallow _ := by
    have hrouted := h.routed _ (List.mem_of_getElem? hq)
    have hforeign := foreign_of_allow hrouted hother hallow
    obtain ⟨haccount, hdomains, hsame⟩ : accountOf env msg (settle env c w fate).2 =
        accountOf env msg start ∧ (settle env c w fate).2.accounts.domains =
          start.accounts.domains ∧ SameRows other w (settle env c w fate).2 := by
      cases c with
      | db c => exact ⟨h.account, h.domains, sameRows_db hforeign⟩
      | accounts c =>
        obtain ⟨hsame, hdomains, haccount⟩ := sameRows_accounts hforeign hother h.account
        exact ⟨haccount, hdomains.trans h.domains, hsame⟩
      | _ => cases fate <;> exact ⟨h.account, h.domains, fun _ => rfl, fun _ => rfl, fun _ _ => rfl⟩
    refine ⟨haccount, hdomains, h.same.trans hsame, fun view hview => ?_⟩
    rcases List.mem_or_eq_of_mem_set hview with hview | rfl
    · exact h.routed view hview
    · exact routed_next h hrouted hallow
  crash w views i q h hq _ := by
    refine ⟨h.account, h.domains, h.same, fun view hview => ?_⟩
    rcases List.mem_or_eq_of_mem_set hview with hview | rfl
    · exact h.routed view hview
    · exact h.routed (q, true) (List.mem_of_getElem? hq)

/-- **Mail stays in the account of its recipient.** However the deliveries of a message fail, crash
and interleave, its recipient stays with the account it had, and no thread, alias or mail of
another account changes. -/
theorem others_untouched {pool : Deliveries}
    (h : Reaches (service env) (monitor env msg) (freely env msg) ⟨start, []⟩ pool)
    (hother : accountOf env msg start ≠ some other) :
    accountOf env msg pool.store = accountOf env msg start ∧ SameRows other start pool.store := by
  obtain ⟨-, hinv⟩ := h.invariant (keeps_inv hother) (fun _ ht => absurd ht List.not_mem_nil)
    ⟨rfl, rfl, ⟨fun _ => rfl, fun _ => rfl, fun _ _ => rfl⟩, fun _ hv => absurd hv List.not_mem_nil⟩
  exact ⟨hinv.account, hinv.same⟩

/-- A delivery that has looked up its recipient, and an account it has nothing to do with. -/
theorem others_untouched_begun : ∃ pool : Deliveries, pool.tasks.length = 1 ∧
    accountOf greetingEnv greetingMail pool.store = some "acc" ∧
      SameRows "other" aliasWorld pool.store := by
  have hspawn : Reaches (service greetingEnv) (monitor greetingEnv greetingMail)
      (freely greetingEnv greetingMail) noDeliveries _ :=
    .tail .refl (m := arrive 1) ⟨rfl, 1, noOptions, rfl, rfl⟩ rfl
  have hlooked := hspawn.step (i := 0) (f := .done) rfl trivial
  have haccount : accountOf greetingEnv greetingMail aliasWorld = some "acc" := by decide +kernel
  obtain ⟨hsame, hrows⟩ : _ ∧ SameRows "other" aliasWorld _ :=
    others_untouched hlooked (by simp [haccount])
  exact ⟨_, rfl, hsame.trans haccount, hrows⟩

end SesEmailAdapter.Processor.IngestIsolation
