import SesEmailAdapter.Api.AliasesApi
import SesEmailAdapter.Api.DomainsApi

/-! # The letter case of what the API stores

The schemas and the paths of requests bring addresses and domains to lower case. No request
stores them in another form, whatever fails on its way. -/

namespace SesEmailAdapter.Api.StoredCase
open Lib Lib.Prog
open SesEmailAdapter.Types Database
open Database.AccountsTable Database.AccountDatabase
open Email.Address
open Api.ThreadsApi (ApiError internalError)
open Api.AliasesApi Api.DomainsApi

/-! ## Lower case -/

def IsLower (text : String) : Prop := toLowerCase text.toList = text.toList

/-- The texts differ in letter case at most. -/
def SameLetters (a b : String) : Prop := toLowerCase a.toList = toLowerCase b.toList

instance (text : String) : Decidable (IsLower text) := inferInstanceAs (Decidable (_ = _))

instance (a b : String) : Decidable (SameLetters a b) := inferInstanceAs (Decidable (_ = _))

theorem IsLower.eq {a b : String} (ha : IsLower a) (hb : IsLower b) (h : SameLetters a b) :
    a = b := by
  rw [SameLetters, ha, hb] at h
  exact String.toList_injective h

/-- What the schemas make of an address or a domain, before they check its form. -/
def lowerDomain (raw : String) : String := String.ofList (trim (toLowerCase raw.toList))

def lowerEmail (raw : String) : String := lowerDomain raw

theorem isLower_addressParam (param : String) : IsLower (addressParam param) := by
  simp [IsLower, addressParam, toLowerCase_toLowerCase]

theorem mem_of_mem_trim {c : Char} {text : List Char} (h : c ∈ trim text) : c ∈ text := by
  have hback : c ∈ (text.dropWhile isSpace).reverse :=
    (List.dropWhile_suffix isSpace).mem (List.mem_reverse.mp h)
  exact (List.dropWhile_suffix isSpace).mem (List.mem_reverse.mp hback)

theorem isLower_lowerDomain (raw : String) : IsLower (lowerDomain raw) := by
  have hfixed : ∀ c ∈ trim (toLowerCase raw.toList), c.toLower = c := by
    intro c hc
    obtain ⟨d, -, rfl⟩ := List.mem_map.mp (mem_of_mem_trim hc)
    exact toLower_toLower d
  simp only [IsLower, lowerDomain, String.toList_ofList]
  exact (List.map_congr_left hfixed).trans (List.map_id _)

theorem isLower_lowerEmail (raw : String) : IsLower (lowerEmail raw) := isLower_lowerDomain raw

/-! ## Tables in lower case -/

structure Lowered (s : Store) : Prop where
  aliases : ∀ item ∈ s.aliases.rows, IsLower item.aliasAddress
  senders : ∀ item ∈ s.senders.rows, IsLower item.aliasAddress
  domains : ∀ item ∈ s.domains.rows, IsLower item.domain

/-- A request that stores no new address and no new domain in another form. -/
def LowerWrite : AccountsTable.Cmd → Prop
  | .putAlias item => IsLower item.aliasAddress
  | .putSender item => IsLower item.aliasAddress
  | .putNewDomain item => IsLower item.domain
  | _ => True

theorem lowered_empty : Lowered ⟨.empty, .empty, .empty⟩ := ⟨nofun, nofun, nofun⟩

variable {s : Store}

theorem Lowered.saveAliasItem (h : Lowered s) {item : Alias}
    (hitem : IsLower item.aliasAddress) : Lowered (s.saveAliasItem item) where
  aliases other hother := by
    rcases KeyedTable.mem_put.mp hother with rfl | ⟨hold, -⟩
    · exact hitem
    · exact h.aliases other hold
  senders := h.senders
  domains := h.domains

theorem Lowered.saveDomainItem (h : Lowered s) {item : Domain}
    (hitem : IsLower item.domain) : Lowered { s with domains := s.domains.put item } where
  aliases := h.aliases
  senders := h.senders
  domains other hother := by
    rcases KeyedTable.mem_put.mp hother with rfl | ⟨hold, -⟩
    · exact hitem
    · exact h.domains other hold

theorem Lowered.updateDomainItem (h : Lowered s) (key : String × String)
    {update : Domain → Domain} (hupdate : ∀ item, (update item).domain = item.domain) :
    Lowered (s.updateDomainItem key update) := by
  unfold Store.updateDomainItem
  cases hitem : s.domains.get key with
  | none => exact h
  | some item =>
    refine h.saveDomainItem ?_
    rw [hupdate]
    exact h.domains item (KeyedTable.mem_rows_of_get hitem)

theorem Lowered.removeSenders (h : Lowered s) (accountId : String)
    (senders : List AliasSender) : Lowered (s.removeSenders accountId senders) where
  aliases := h.aliases
  senders item hitem := h.senders item (KeyedTable.mem_of_mem_foldl_erase hitem)
  domains := h.domains

theorem lowered_exec {c : AccountsTable.Cmd} (hc : LowerWrite c) (h : Lowered s) :
    Lowered (exec c s).2 := by
  cases c with
  | putAlias item => exact h.saveAliasItem hc
  | setAliasExchange accountId aliasAddress emxId now =>
    cases hitem : s.aliases.get (accountId, aliasAddress) with
    | none => simpa only [exec, hitem] using h
    | some item =>
      simp only [exec, hitem]
      exact h.saveAliasItem (h.aliases item (KeyedTable.mem_rows_of_get hitem))
  | deleteAliasItem accountId aliasAddress =>
    exact ⟨fun item hitem => h.aliases item (KeyedTable.mem_erase.mp hitem).1, h.senders, h.domains⟩
  | putSender item =>
    refine ⟨h.aliases, fun other hother => ?_, h.domains⟩
    rcases KeyedTable.mem_put.mp hother with rfl | ⟨hold, -⟩
    · exact hc
    · exact h.senders other hold
  | deleteSenders accountId senders => exact h.removeSenders accountId senders
  | putNewDomain item =>
    simp only [exec]
    split
    · exact h.saveDomainItem hc
    · split
      · exact h.saveDomainItem hc
      · exact h
  | setDomainDeleted => exact h.updateDomainItem _ fun _ => rfl
  | setDomainSetup => exact h.updateDomainItem _ fun _ => rfl
  | getAlias => exact h
  | queryAliases => exact h
  | queryAliasesOfDomain => exact h
  | getSender => exact h
  | querySenders => exact h
  | getDomain => exact h
  | queryDomains => exact h

theorem lowered_settle (c : AccountsTable.Cmd) (s : Store) (fate : Fate) (hc : LowerWrite c)
    (h : Lowered s) : Lowered (AccountsTable.settle c s fate).2 := by
  have hexec := lowered_exec hc h
  cases fate with
  | done => exact hexec
  | refused => exact h
  | lost => exact hexec

/-! ## The requests -/

theorem only_andThen {ε δ α β : Type} {P : AccountsTable.Cmd → Prop}
    {p : DbProg (Except ε α)} {f : Except ε α → DbProg (Except δ β)} (hp : p.Only P)
    (herror : ∀ error, (f (.error error)).Only P) (hok : ∀ a, (f (.ok a)).Only P) :
    (p >>= f).Only P := by
  refine hp.bind fun r => ?_
  cases r with
  | error error => exact herror error
  | ok a => exact hok a

theorem only_getDomain (accountId domain : String) :
    (getDomain accountId domain).Only LowerWrite :=
  ⟨trivial, fun _ => trivial⟩

theorem only_getAlias (accountId aliasAddress : String) :
    (getAlias accountId aliasAddress).Only LowerWrite :=
  only_withAddress fun _ => ⟨trivial, fun _ => trivial⟩

theorem only_getSender (accountId aliasAddress senderDomain : String) :
    (getSender accountId aliasAddress senderDomain).Only LowerWrite := by
  unfold getSender
  split
  · trivial
  · exact only_withAddress fun _ => ⟨trivial, fun _ => trivial⟩

theorem only_saveAlias {item : Alias} (h : IsLower item.aliasAddress) :
    (saveAlias item).Only LowerWrite :=
  only_withAddress fun _ => ⟨h, fun _ => trivial⟩

theorem only_saveSender {aliasAddress : String} (h : IsLower aliasAddress)
    (accountId senderDomain : String) (policy : SenderPolicy) (now : String) :
    (saveSender accountId aliasAddress senderDomain policy now).Only LowerWrite :=
  only_withAddress fun _ => ⟨h, fun _ => trivial⟩

theorem only_deleteAlias (accountId aliasAddress : String) :
    (deleteAlias accountId aliasAddress).Only LowerWrite := by
  refine only_withAddress fun _ => only_andThen ⟨trivial, fun _ => trivial⟩ (fun _ => trivial)
    fun senders => only_andThen ?_ (fun _ => trivial) fun _ => ⟨trivial, fun _ => trivial⟩
  unfold batchDeleteSenders
  split
  · trivial
  · exact ⟨trivial, fun _ => trivial⟩

theorem only_copySenders {newAddress : String} (h : IsLower newAddress) (accountId now : String)
    (senders : List AliasSender) :
    (copySenders accountId newAddress now senders).Only LowerWrite := by
  induction senders with
  | nil => trivial
  | cons s senders ih =>
    exact only_andThen (only_saveSender h ..) (fun _ => trivial) fun _ => ih

theorem only_renameAlias {newAddress : String} (h : IsLower newAddress)
    (accountId oldAddress now : String) :
    (renameAlias accountId oldAddress newAddress now).Only LowerWrite := by
  refine only_andThen (only_getAlias ..) (fun _ => trivial) fun old => ?_
  cases old with
  | none => trivial
  | some old =>
    refine only_andThen ⟨trivial, fun _ => trivial⟩ (fun _ => trivial) fun senders => ?_
    dsimp only
    cases parseAddress newAddress with
    | none => trivial
    | some parts =>
      exact only_andThen (only_saveAlias h) (fun _ => trivial) fun _ =>
        only_andThen (only_copySenders h ..) (fun _ => trivial) fun _ =>
          (only_deleteAlias ..).bind fun _ => trivial

theorem only_checkDomain (accountId domain : String) :
    (checkDomain accountId domain).Only LowerWrite := by
  refine only_andThen (only_getDomain ..) (fun _ => trivial) fun item => ?_
  cases item with
  | none => trivial
  | some item => trivial

theorem only_addAlias {body : CreateAliasRequest} (h : IsLower body.address)
    (accountId now : String) : (addAlias accountId body now).Only LowerWrite := by
  refine only_andThen (only_checkDomain ..) (fun _ => trivial) fun _ =>
    only_andThen (only_getAlias ..) (fun _ => trivial) fun existing => ?_
  cases existing with
  | some item => trivial
  | none => exact (only_saveAlias h).bind fun _ => trivial

theorem only_saveSenderRow {address : String} (h : IsLower address)
    (accountId senderDomain : String) (policy : SenderPolicy) (now : String) :
    (saveSenderRow accountId address senderDomain policy now).Only LowerWrite := by
  refine only_andThen (only_saveSender h ..) (fun _ => trivial) fun _ =>
    only_andThen (only_getSender ..) (fun _ => trivial) fun item => ?_
  cases item with
  | none => trivial
  | some item => trivial

theorem only_deleteAliases (accountId : String) (items : List Alias) :
    (deleteAliases accountId items).Only LowerWrite := by
  induction items with
  | nil => trivial
  | cons item items ih =>
    exact only_andThen (only_deleteAlias ..) (fun _ => trivial) fun _ => ih

/-- What a call of the domains API may write. -/
def LowerCall : DomainsApi.Cmd → Prop
  | .accounts c => LowerWrite c
  | .register .. => True

theorem only_createDomainRequest {domain : String} (h : IsLower domain)
    (mailDomain accountId now : String) :
    (createDomainRequest mailDomain accountId domain now).Only LowerCall := by
  have hcreate : (createDomain accountId domain now).Only fun c => LowerCall (.accounts c) := by
    refine ⟨h, fun put => ?_⟩
    match put with
    | .ok () => trivial
    | .error (.db _) => trivial
    | .error .conditionFailed =>
      refine (only_getDomain accountId domain).bind fun item => ?_
      match item with
      | .error _ => trivial
      | .ok none => trivial
      | .ok (some _) => trivial
  have howner : (resolveAccountForDomain mailDomain domain).Only fun c =>
      LowerCall (.accounts c) := by
    refine Only.bind ?_ fun _ => trivial
    unfold getDomainOwner
    cases systemDomainOwner mailDomain domain with
    | some owner => trivial
    | none => exact ⟨trivial, fun _ => trivial⟩
  refine howner.embed.bind fun owner => ?_
  cases owner with
  | error error => trivial
  | ok owner =>
    dsimp only
    split
    · trivial
    · refine ⟨trivial, fun registered => ?_⟩
      cases registered with
      | error error => trivial
      | ok _ => exact hcreate.embed.bind fun _ => trivial

/-! ## What the API creates -/

/-- A request on the table alone, run with any failures; a crash ends it. -/
def after {α : Type} (p : DbProg α) (faults : Faults Fate) (s : Store) : Store :=
  (p.run AliasRows.accounts faults s).store

/-- The tables that the requests for aliases, senders and domains lead to. -/
inductive Created (mailDomain : String) : Store → Prop
  | empty : Created mailDomain ⟨.empty, .empty, .empty⟩
  | createDomain {s : Store} (accountId raw now : String) (faults : Faults Fate) :
    Created mailDomain s → Created mailDomain
      ((createDomainRequest mailDomain accountId (lowerDomain raw) now).run DomainsApi.service
        faults s).store
  | deleteDomain {s : Store} (accountId param now : String) (faults : Faults Fate) :
    Created mailDomain s →
      Created mailDomain (after (deleteDomainRequest accountId param now) faults s)
  | createAlias {w : AliasesApi.World} (accountId raw : String) (body : CreateAliasRequest)
      (now date invocationId : String) (faults : Faults Fate) :
    body.address = lowerEmail raw → Created mailDomain w.accounts → Created mailDomain
      ((AliasesApi.createAlias accountId body now date invocationId).run AliasesApi.service
        faults w).store.accounts
  | patchAlias {s : Store} (accountId param : String) (raw : Option String)
      (body : UpdateAliasRequest) (now : String) (faults : Faults Fate) :
    body.newAddress = raw.map lowerEmail → Created mailDomain s →
      Created mailDomain (after (AliasesApi.patchAlias accountId param body now) faults s)
  | deleteAlias {w : AliasesApi.World} (accountId param date invocationId : String)
      (faults : Faults Fate) :
    Created mailDomain w.accounts → Created mailDomain
      ((deleteAliasRequest accountId param date invocationId).run AliasesApi.service
        faults w).store.accounts
  | createSender {s : Store} (accountId param raw : String) (policy : SenderPolicy)
      (now : String) (faults : Faults Fate) :
    Created mailDomain s → Created mailDomain
      (after (AliasesApi.createSender accountId param (lowerDomain raw) policy now) faults s)
  | updateSender {s : Store} (accountId param domainParam : String) (policy : SenderPolicy)
      (now : String) (faults : Faults Fate) :
    Created mailDomain s → Created mailDomain
      (after (AliasesApi.updateSender accountId param domainParam policy now) faults s)

/-- What a call of the aliases API may write. -/
def LowerAliasCall : AliasesApi.Cmd → Prop
  | .accounts c => LowerWrite c
  | .stats _ => True

variable {α : Type}

theorem only_onStats (p : StatsWriter.DbProg α) :
    (onStats p).Only LowerAliasCall := by
  have hall : p.Only fun _ => True := by
    induction p with
    | ret a => trivial
    | call c k ih => exact ⟨trivial, ih⟩
  exact Only.embed (hall.mono fun _ _ => trivial)

theorem only_incrementStatMetric (write : StatsWriter.DiffWrite) :
    (incrementStatMetric write).Only LowerAliasCall :=
  (only_onStats _).bind fun _ => trivial

theorem lowered_after {p : DbProg α} (hp : p.Only LowerWrite) (faults : Faults Fate)
    (h : Lowered s) : Lowered (after p faults s) := by
  have hleads : p.Leads AliasRows.accounts (fun _ => True) (fun _ => Lowered) s :=
    hp.leads (fun c s f => lowered_settle c s f) h
  exact hleads.run trivial faults fun _ _ => trivial

theorem lowered_run_domains {p : DomainsProg α} (hp : p.Only LowerCall)
    (faults : Faults Fate) (h : Lowered s) :
    Lowered (p.run DomainsApi.service faults s).store := by
  have hkeep : ∀ c s f, LowerCall c → Lowered s → Lowered (DomainsApi.service.settle c s f).2 := by
    intro c s f hc hs
    cases c with
    | accounts c => exact lowered_settle c s f hc hs
    | register => exact hs
  have hleads : p.Leads DomainsApi.service (fun _ => True) (fun _ => Lowered) s :=
    hp.leads hkeep h
  exact hleads.run trivial faults fun _ _ => trivial

theorem lowered_run_aliases {p : AliasesProg α} (hp : p.Only LowerAliasCall)
    (faults : Faults Fate) {w : AliasesApi.World} (h : Lowered w.accounts) :
    Lowered (p.run AliasesApi.service faults w).store.accounts := by
  have hkeep : ∀ c (w : AliasesApi.World) f, LowerAliasCall c → Lowered w.accounts →
      Lowered (AliasesApi.service.settle c w f).2.accounts := by
    intro c w f hc hw
    cases c with
    | accounts c => exact lowered_settle c w.accounts f hc hw
    | stats c => exact hw
  have hleads : p.Leads AliasesApi.service (fun _ => True) (fun _ w => Lowered w.accounts) w :=
    hp.leads hkeep h
  exact hleads.run trivial faults fun _ _ => trivial

theorem only_onAccounts {p : DbProg α} (hp : p.Only LowerWrite) :
    (AliasesApi.onAccounts p).Only LowerAliasCall :=
  Only.embed hp

theorem only_createAlias {body : CreateAliasRequest} (h : IsLower body.address)
    (accountId now date invocationId : String) :
    (AliasesApi.createAlias accountId body now date invocationId).Only LowerAliasCall := by
  refine (only_onAccounts (only_addAlias h accountId now)).bind fun r => ?_
  cases r with
  | error error => trivial
  | ok item => exact (only_incrementStatMetric _).bind fun _ => trivial

/-! Of a request that brings its path to lower case, the run. -/

section Paths

variable (accountId param now : String) (faults : Faults Fate) {s : Store}

theorem lowered_patchAlias {body : UpdateAliasRequest}
    (hbody : ∀ newAddress, body.newAddress = some newAddress → IsLower newAddress)
    (h : Lowered s) : Lowered (after (AliasesApi.patchAlias accountId param body now) faults s) := by
  unfold AliasesApi.patchAlias
  have haddress := isLower_addressParam param
  generalize addressParam param = address at haddress
  refine lowered_after ?_ faults h
  cases hnew : body.newAddress with
  | some newAddress =>
    refine only_andThen (only_checkDomain ..) (fun _ => trivial) fun _ =>
      only_andThen (only_renameAlias (hbody newAddress hnew) ..) (fun error => ?_) fun _ => trivial
    cases error with
    | notFound => trivial
    | db error => trivial
  | none =>
    exact only_andThen (only_getAlias ..) (fun _ => trivial) fun _ =>
      (only_saveAlias haddress).bind fun _ => trivial

theorem lowered_createSender (senderDomain : String) (policy : SenderPolicy) (h : Lowered s) :
    Lowered
      (after (AliasesApi.createSender accountId param senderDomain policy now) faults s) := by
  unfold AliasesApi.createSender
  have haddress := isLower_addressParam param
  generalize addressParam param = address at haddress
  refine lowered_after ?_ faults h
  refine only_andThen (only_getSender ..) (fun _ => trivial) fun item => ?_
  cases item with
  | none => exact only_saveSenderRow haddress ..
  | some item =>
    dsimp only
    split <;> trivial

theorem lowered_updateSender (domainParam : String) (policy : SenderPolicy) (h : Lowered s) :
    Lowered
      (after (AliasesApi.updateSender accountId param domainParam policy now) faults s) := by
  unfold AliasesApi.updateSender
  have haddress := isLower_addressParam param
  generalize addressParam param = address, addressParam domainParam = domain at haddress
  refine lowered_after ?_ faults h
  refine only_andThen (only_getSender ..) (fun _ => trivial) fun item => ?_
  cases item with
  | none => trivial
  | some item => exact only_saveSenderRow haddress ..

theorem lowered_deleteDomainRequest (h : Lowered s) :
    Lowered (after (deleteDomainRequest accountId param now) faults s) := by
  unfold deleteDomainRequest
  generalize domainParam param = domain
  refine lowered_after ?_ faults h
  refine only_andThen (only_getDomain ..) (fun _ => trivial) fun item => ?_
  cases item with
  | none => trivial
  | some item =>
    exact only_andThen ⟨trivial, fun _ => trivial⟩ (fun _ => trivial) fun items =>
      only_andThen (only_deleteAliases ..) (fun _ => trivial) fun _ => ⟨trivial, fun _ => trivial⟩

theorem lowered_deleteAliasRequest (date invocationId : String) {w : AliasesApi.World}
    (h : Lowered w.accounts) :
    Lowered ((deleteAliasRequest accountId param date invocationId).run AliasesApi.service
      faults w).store.accounts := by
  unfold deleteAliasRequest
  generalize addressParam param = address
  refine lowered_run_aliases ?_ faults h
  refine (only_onAccounts (only_deleteAlias accountId address)).bind fun r => ?_
  cases r with
  | error error => trivial
  | ok _ => exact (only_incrementStatMetric _).bind fun _ => trivial

end Paths

/-- Whatever the API has stored is in lower case. -/
theorem Created.lowered {mailDomain : String} (h : Created mailDomain s) :
    Lowered s := by
  induction h with
  | empty => exact lowered_empty
  | createDomain accountId raw now faults _ ih =>
    have hlower := isLower_lowerDomain raw
    generalize lowerDomain raw = domain at hlower
    exact lowered_run_domains (only_createDomainRequest hlower mailDomain accountId now) faults ih
  | deleteDomain accountId param now faults _ ih =>
    exact lowered_deleteDomainRequest accountId param now faults ih
  | createAlias accountId raw body now date invocationId faults hbody _ ih =>
    have hlower : IsLower body.address := hbody ▸ isLower_lowerEmail raw
    exact lowered_run_aliases (only_createAlias hlower ..) faults ih
  | patchAlias accountId param raw body now faults hbody _ ih =>
    refine lowered_patchAlias accountId param now faults (fun newAddress hnew => ?_) ih
    rw [hbody] at hnew
    obtain ⟨raw, -, rfl⟩ := Option.map_eq_some_iff.mp hnew
    exact isLower_lowerEmail raw
  | deleteAlias accountId param date invocationId faults _ ih =>
    exact lowered_deleteAliasRequest accountId param faults date invocationId ih
  | createSender accountId param raw policy now faults _ ih =>
    exact lowered_createSender accountId param now faults (lowerDomain raw) policy ih
  | updateSender accountId param domainParam policy now faults _ ih =>
    exact lowered_updateSender accountId param now faults domainParam policy ih

end SesEmailAdapter.Api.StoredCase
