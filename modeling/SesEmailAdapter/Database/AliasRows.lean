import SesEmailAdapter.Database.AccountDatabase

/-! # Alias rows

What the methods on aliases have done to the table where they succeed, and what a rename keeps of
the policy of an alias. -/

namespace SesEmailAdapter.Database.AliasRows
open Lib Lib.Prog
open SesEmailAdapter.Types Database.Shared Database.AccountsTable
open Database.AccountDatabase

def accounts : Service Cmd Cmd.Answer Store Fate := ⟨settleRequest exec failure, .done⟩

/-! ## The rows of an alias -/

def sendersOf (s : Store) (accountId aliasAddress : String) : List AliasSender :=
  s.senders.rows.filter fun item =>
    item.accountId = accountId ∧ item.aliasAddress = aliasAddress

variable {s : Store} {item : AliasSender}

theorem mem_sendersOf {accountId aliasAddress : String} :
    item ∈ sendersOf s accountId aliasAddress ↔
      s.senders.get (accountId, aliasAddress, item.senderDomain) = some item := by
  rw [sendersOf, List.mem_filter, KeyedTable.mem_rows_iff]
  constructor
  · rintro ⟨hget, hkey⟩
    obtain ⟨rfl, rfl⟩ := of_decide_eq_true hkey
    exact hget
  · intro hget
    have hkey : senderKey item = (accountId, aliasAddress, item.senderDomain) :=
      KeyedTable.key_of_get hget
    obtain ⟨rfl, rfl⟩ : item.accountId = accountId ∧ item.aliasAddress = aliasAddress := by
      simpa [senderKey] using hkey
    exact ⟨hget, by simp⟩

theorem senderDomain_of_get {accountId aliasAddress senderDomain : String}
    (h : s.senders.get (accountId, aliasAddress, senderDomain) = some item) :
    item.senderDomain = senderDomain := by
  have hkey : senderKey item = (accountId, aliasAddress, senderDomain) := KeyedTable.key_of_get h
  exact (Prod.mk.inj (Prod.mk.inj hkey).2).2

/-! ## What the methods do -/

/-- The row that `saveAlias` writes. -/
def savedRow (item : Alias) (parts : AddressParts) : Alias :=
  { item with domain := parts.domain, aliasName := parts.aliasName }

def removeAlias (s : Store) (accountId aliasAddress : String) : Store :=
  { s.removeSenders accountId (sendersOf s accountId aliasAddress) with
    aliases := s.aliases.erase (accountId, aliasAddress) }

/-- The row under which a renamed alias has a sender. -/
def copiedSender (accountId newAddress now : String) (item : AliasSender) : AliasSender :=
  ⟨accountId, newAddress, item.senderDomain, .allow, now⟩

def copiedSenders (s : Store) (accountId newAddress now : String)
    (senders : List AliasSender) : Store :=
  let copies := senders.map (copiedSender accountId newAddress now)
  { s with senders := copies.foldl KeyedTable.put s.senders }

def renamedAlias (item : Alias) (newAddress now : String) (parts : AddressParts) : Alias :=
  { item with
    aliasAddress := newAddress
    domain := parts.domain
    aliasName := parts.aliasName
    updatedAt := now }

def renamedStore (s : Store) (item : Alias) (accountId oldAddress newAddress now : String)
    (parts : AddressParts) : Store :=
  let saved := s.saveAliasItem (renamedAlias item newAddress now parts)
  let copied := copiedSenders saved accountId newAddress now (sendersOf s accountId oldAddress)
  removeAlias copied accountId oldAddress

/-- A run where every call may fail or the program may crash. -/
abbrev AnyTurn (_ : Option Fate) : Prop := True

theorem withAddress_leads {α : Type} {Q : α → Store → Prop} {address : String}
    {f : AddressParts → DbProg (Except DbError α)}
    (h : ∀ parts, parseAddress address = some parts →
      (f parts).Leads accounts AnyTurn (Succeeds Q) s) :
    (withAddress address f).Leads accounts AnyTurn (Succeeds Q) s := by
  unfold withAddress
  cases hparts : parseAddress address with
  | none => exact leads_error _ s
  | some parts => exact h parts hparts

theorem getAlias_leads (accountId aliasAddress : String) (s : Store) :
    (getAlias accountId aliasAddress).Leads accounts AnyTurn
      (Succeeds fun item s' => s' = s ∧ item = s.aliases.get (accountId, aliasAddress)) s :=
  withAddress_leads fun _ _ =>
    leads_request (fun s => leads_error _ s) (leads_ok ⟨rfl, rfl⟩)

theorem saveAlias_leads (item : Alias) (s : Store) :
    (saveAlias item).Leads accounts AnyTurn
      (Succeeds fun saved s' => saved = item ∧ ∃ parts, parseAddress item.aliasAddress = some parts ∧
        s' = s.saveAliasItem (savedRow item parts)) s :=
  withAddress_leads fun parts hparts =>
    leads_request (fun s => leads_error _ s) (leads_ok ⟨rfl, parts, hparts, rfl⟩)

theorem saveSender_leads (accountId aliasAddress senderDomain : String) (policy : SenderPolicy)
    (now : String) (s : Store) :
    (saveSender accountId aliasAddress senderDomain policy now).Leads accounts AnyTurn
      (Succeeds fun _ s' =>
        s' = s.saveSenderItem ⟨accountId, aliasAddress, senderDomain, policy, now⟩) s :=
  withAddress_leads fun _ _ => leads_request (fun s => leads_error _ s) (leads_ok rfl)

theorem copySenders_leads (accountId newAddress now : String) (senders : List AliasSender)
    (s : Store) :
    (copySenders accountId newAddress now senders).Leads accounts AnyTurn
      (Succeeds fun _ s' => s' = copiedSenders s accountId newAddress now senders) s := by
  induction senders generalizing s with
  | nil => exact leads_ok (by simp [copiedSenders])
  | cons sender senders ih =>
    refine (saveSender_leads accountId newAddress sender.senderDomain .allow now s).andThen
      (fun error s => leads_error error s) fun _ s' hs' => ?_
    subst hs'
    exact ih (s.saveSenderItem (copiedSender accountId newAddress now sender))

theorem batchDeleteSenders_leads (accountId : String) (senders : List AliasSender) (s : Store) :
    (batchDeleteSenders accountId senders).Leads accounts AnyTurn
      (Succeeds fun _ s' => s' = s.removeSenders accountId senders) s := by
  unfold batchDeleteSenders
  split
  next hnone => exact leads_ok (by simp [hnone, Store.removeSenders])
  next => exact leads_request (fun s => leads_error _ s) (leads_ok rfl)

theorem deleteAlias_leads (accountId aliasAddress : String) (s : Store) :
    (deleteAlias accountId aliasAddress).Leads accounts AnyTurn
      (Succeeds fun _ s' => s' = removeAlias s accountId aliasAddress) s := by
  refine withAddress_leads fun _ _ => leads_request (fun s => leads_error _ s) ?_
  refine (batchDeleteSenders_leads accountId (sendersOf s accountId aliasAddress) s).andThen
    (fun _ s => leads_error _ s) fun _ s' hs' => ?_
  subst hs'
  exact leads_request (fun s => leads_error _ s) (leads_ok rfl)

theorem renameAlias_leads (accountId oldAddress newAddress now : String) (s : Store) :
    (renameAlias accountId oldAddress newAddress now).Leads accounts AnyTurn
      (Succeeds fun renamed s' => ∃ item parts,
        s.aliases.get (accountId, oldAddress) = some item ∧ parseAddress newAddress = some parts ∧
        renamed = renamedAlias item newAddress now parts ∧
        s' = renamedStore s item accountId oldAddress newAddress now parts) s := by
  refine (getAlias_leads accountId oldAddress s).andThen (fun _ s => leads_error _ s)
    fun old s' hold => ?_
  obtain ⟨rfl, hold⟩ := hold
  cases old with
  | none => exact leads_error _ s'
  | some item =>
    refine leads_request (fun s => leads_error _ s) ?_
    cases hparts : parseAddress newAddress with
    | none => exact leads_error _ s'
    | some parts =>
      refine (saveAlias_leads _ s').andThen (fun _ s => leads_error _ s) fun saved s1 hs1 => ?_
      obtain ⟨-, parts', hparts', rfl⟩ := hs1
      obtain rfl : parts' = parts := Option.some.inj (hparts'.symm.trans hparts)
      refine (copySenders_leads accountId newAddress now (sendersOf s' accountId oldAddress)
        _).andThen (fun _ s => leads_error _ s) fun _ s2 hs2 => ?_
      subst hs2
      refine (deleteAlias_leads accountId oldAddress _).andThen (fun _ s => leads_error _ s)
        fun _ s3 hs3 => ?_
      subst hs3
      exact leads_ok ⟨item, parts', hold.symm, rfl, rfl, rfl⟩

/-! ## The rows after a rename -/

theorem removeSenders_eq (s : Store) (accountId : String) (senders : List AliasSender) :
    (s.removeSenders accountId senders).senders =
      (senders.map fun item => (accountId, item.aliasAddress, item.senderDomain)).foldl
        KeyedTable.erase s.senders :=
  List.foldl_map.symm

theorem removeAlias_senders (s : Store) (accountId aliasAddress : String)
    (key : String × String × String) :
    (removeAlias s accountId aliasAddress).senders.get key =
      if key.1 = accountId ∧ key.2.1 = aliasAddress then none else s.senders.get key := by
  show (s.removeSenders accountId (sendersOf s accountId aliasAddress)).senders.get key = _
  rw [removeSenders_eq]
  by_cases hmem : key ∈ (sendersOf s accountId aliasAddress).map fun item =>
      (accountId, item.aliasAddress, item.senderDomain)
  · rw [KeyedTable.get_foldl_erase_of_mem hmem, if_pos]
    obtain ⟨item, hitem, rfl⟩ := List.mem_map.mp hmem
    exact ⟨rfl, (of_decide_eq_true (List.mem_filter.mp hitem).2).2⟩
  · rw [KeyedTable.get_foldl_erase_of_not_mem hmem]
    split
    next hkey =>
      -- A row under the alias would be among its senders.
      obtain ⟨account, address, senderDomain⟩ := key
      obtain ⟨rfl, rfl⟩ := hkey
      refine Option.eq_none_iff_forall_ne_some.mpr fun item hitem => hmem ?_
      obtain rfl := senderDomain_of_get hitem
      have hsender := mem_sendersOf.mpr hitem
      have haddress : item.aliasAddress = address :=
        (of_decide_eq_true (List.mem_filter.mp hsender).2).2
      exact List.mem_map.mpr ⟨item, hsender, by rw [haddress]⟩
    next => rfl

theorem sendersOf_removeAlias (s : Store) (accountId aliasAddress : String) :
    sendersOf (removeAlias s accountId aliasAddress) accountId aliasAddress = [] := by
  refine List.eq_nil_iff_forall_not_mem.mpr fun item hitem => ?_
  rw [mem_sendersOf, removeAlias_senders] at hitem
  simp at hitem

theorem copiedSenders_senders {senders : List AliasSender}
    (hitem : item ∈ senders) (s : Store) (accountId newAddress now : String) :
    (copiedSenders s accountId newAddress now senders).senders.get
      (accountId, newAddress, item.senderDomain) =
        some (copiedSender accountId newAddress now item) := by
  refine KeyedTable.get_foldl_put_of_mem (v := copiedSender accountId newAddress now item)
    (List.mem_map.mpr ⟨item, hitem, rfl⟩) (fun w hw hkey => ?_) s.senders
  obtain ⟨other, -, rfl⟩ := List.mem_map.mp hw
  have hdomain : other.senderDomain = item.senderDomain := by
    simpa [senderKey, copiedSender] using hkey
  rw [copiedSender, copiedSender, hdomain]

theorem renamedStore_sender {accountId oldAddress newAddress : String}
    {sender : AliasSender} (hsender : sender ∈ sendersOf s accountId oldAddress)
    (hne : newAddress ≠ oldAddress) (item : Alias) (now : String) (parts : AddressParts) :
    (renamedStore s item accountId oldAddress newAddress now parts).senders.get
      (accountId, newAddress, sender.senderDomain) =
        some (copiedSender accountId newAddress now sender) := by
  rw [renamedStore, removeAlias_senders, if_neg fun h => hne h.2]
  exact copiedSenders_senders hsender _ accountId newAddress now

theorem renamedStore_aliases {item : Alias} {accountId oldAddress : String}
    (hitem : s.aliases.get (accountId, oldAddress) = some item) (newAddress now : String)
    (parts : AddressParts) (address : String) :
    (renamedStore s item accountId oldAddress newAddress now parts).aliases.get
      (accountId, address) =
        if address = oldAddress then none
        else if address = newAddress then some (renamedAlias item newAddress now parts)
        else s.aliases.get (accountId, address) := by
  have hkey : aliasKey item = (accountId, oldAddress) := KeyedTable.key_of_get hitem
  obtain ⟨rfl, -⟩ : item.accountId = accountId ∧ item.aliasAddress = oldAddress := by
    simpa [aliasKey] using hkey
  show ((s.aliases.put (renamedAlias item newAddress now parts)).erase
    (item.accountId, oldAddress)).get (item.accountId, address) = _
  rw [KeyedTable.get_erase, KeyedTable.get_put]
  simp [aliasKey, renamedAlias]

/-! ## What a rename keeps -/

/-- Two rows of aliases with the same settings, whatever their addresses and their last update. -/
structure SameSettings (old new : Alias) : Prop where
  id : new.id = old.id
  accountId : new.accountId = old.accountId
  unknownSenderPolicy : new.unknownSenderPolicy = old.unknownSenderPolicy
  name : new.name = old.name
  createdForOrigin : new.createdForOrigin = old.createdForOrigin
  emxId : new.emxId = old.emxId
  createdAt : new.createdAt = old.createdAt

/-- The alias with its senders and their policies has moved to the new address. -/
structure PolicyKept (s s' : Store) (accountId oldAddress newAddress : String) : Prop where
  item : ∀ old, s.aliases.get (accountId, oldAddress) = some old →
    ∃ new, s'.aliases.get (accountId, newAddress) = some new ∧ SameSettings old new
  senders : ∀ sender ∈ sendersOf s accountId oldAddress, ∃ copy,
    s'.senders.get (accountId, newAddress, sender.senderDomain) = some copy ∧
      copy.policy = sender.policy
  removed : newAddress ≠ oldAddress → s'.aliases.get (accountId, oldAddress) = none ∧
    sendersOf s' accountId oldAddress = []

theorem policyKept_renamedStore_iff {item : Alias} {accountId oldAddress : String}
    (hitem : s.aliases.get (accountId, oldAddress) = some item) (newAddress now : String)
    (parts : AddressParts) :
    PolicyKept s (renamedStore s item accountId oldAddress newAddress now parts)
      accountId oldAddress newAddress ↔
        newAddress ≠ oldAddress ∧
          ∀ sender ∈ sendersOf s accountId oldAddress, sender.policy = .allow := by
  constructor
  · intro hkept
    have hne : newAddress ≠ oldAddress := by
      rintro rfl
      obtain ⟨new, hnew, -⟩ := hkept.item item hitem
      rw [renamedStore_aliases hitem, if_pos rfl] at hnew
      cases hnew
    refine ⟨hne, fun sender hsender => ?_⟩
    obtain ⟨copy, hcopy, hpolicy⟩ := hkept.senders sender hsender
    rw [renamedStore_sender hsender hne] at hcopy
    obtain rfl := Option.some.inj hcopy
    exact hpolicy.symm
  · rintro ⟨hne, hallow⟩
    refine ⟨fun old hold => ?_, fun sender hsender => ?_, fun _ => ⟨?_, ?_⟩⟩
    · obtain rfl := Option.some.inj (hitem.symm.trans hold)
      exact ⟨renamedAlias item newAddress now parts,
        by rw [renamedStore_aliases hitem, if_neg hne, if_pos rfl], rfl, rfl, rfl, rfl, rfl, rfl, rfl⟩
    · exact ⟨_, renamedStore_sender hsender hne item now parts, (hallow sender hsender).symm⟩
    · rw [renamedStore_aliases hitem, if_pos rfl]
    · exact sendersOf_removeAlias _ accountId oldAddress

/-- **Renames.** A rename that succeeds has kept the mail policy of the alias just when the new
address is another one and every sender was allowed: each sender is allowed under the new address,
and a rename to the same address deletes what it has saved. -/
theorem renameAlias_keeps_iff (accountId oldAddress newAddress now : String) (s : Store)
    (fs : Faults Fate) (renamed : Alias)
    (hok : ((renameAlias accountId oldAddress newAddress now).run accounts fs s).result =
      some (.ok renamed)) :
    PolicyKept s ((renameAlias accountId oldAddress newAddress now).run accounts fs s).store
      accountId oldAddress newAddress ↔
        newAddress ≠ oldAddress ∧
          ∀ sender ∈ sendersOf s accountId oldAddress, sender.policy = .allow := by
  obtain ⟨item, parts, hitem, -, -, hstore⟩ :=
    (renameAlias_leads accountId oldAddress newAddress now s).run trivial fs (fun _ _ => trivial)
      renamed hok
  rw [hstore]
  exact policyKept_renamedStore_iff hitem newAddress now parts

/-! ### A rename of an alias with a blocked sender -/

def shopAlias : Alias :=
  ⟨"shop@a.com", "acc", "shop@a.com", "a.com", "shop", .allowAll, none, none, none, "c", "u"⟩

def blockedSender : AliasSender := ⟨"acc", "shop@a.com", "spam.com", .blockReject, "c"⟩

def shopStore : Store where
  aliases := KeyedTable.empty.put shopAlias
  senders := KeyedTable.empty.put blockedSender
  domains := .empty

def renameShop : Outcome Store Cmd Fate (Except RenameError Alias) :=
  (renameAlias "acc" "shop@a.com" "store@a.com" "n").run accounts [] shopStore

theorem renameShop_ok : renameShop.result =
    some (.ok { shopAlias with
      aliasAddress := "store@a.com", aliasName := "store", updatedAt := "n" }) := by
  decide +kernel

/-- The blocked sender may write to the renamed alias. -/
theorem renameShop_allows_blocked :
    renameShop.result.isSome ∧
      ¬ PolicyKept shopStore renameShop.store "acc" "shop@a.com" "store@a.com" := by
  refine ⟨by rw [renameShop_ok]; rfl, fun hkept => ?_⟩
  have hblocked : blockedSender ∈ sendersOf shopStore "acc" "shop@a.com" := by decide
  obtain ⟨copy, hcopy, hpolicy⟩ := hkept.senders blockedSender hblocked
  have hcopied : renameShop.store.senders.get ("acc", "store@a.com", "spam.com") =
      some ⟨"acc", "store@a.com", "spam.com", .allow, "n"⟩ := by decide +kernel
  obtain rfl := Option.some.inj (hcopied.symm.trans hcopy)
  cases hpolicy

theorem renameShop_keeps_iff :
    PolicyKept shopStore renameShop.store "acc" "shop@a.com" "store@a.com" ↔
      "store@a.com" ≠ "shop@a.com" ∧
        ∀ sender ∈ sendersOf shopStore "acc" "shop@a.com", sender.policy = .allow :=
  renameAlias_keeps_iff "acc" "shop@a.com" "store@a.com" "n" shopStore [] _ renameShop_ok

end SesEmailAdapter.Database.AliasRows
