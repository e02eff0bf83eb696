import SesEmailAdapter.Api.AliasesApi
import SesEmailAdapter.Api.DomainsApi
import SesEmailAdapter.Database.StatsTotals
import SesEmailAdapter.Lib.Runs
import SesEmailAdapter.Processor.RecipientAccount

/-! # The counter of aliases

The counter `totalAliases` of an account beside its rows, over the operations that create, change
and delete aliases: the requests of the API, the deletion of a domain, the ingest and the creation
of an exchange. -/

namespace SesEmailAdapter.Api.AliasTotals
open Lib
open SesEmailAdapter.Types Database Database.Shared
open Database.AccountsTable Database.AccountDatabase
open Database.AliasRows Database.StatsTotals
open Database.StatsWriter (DiffWrite writeDiffMetric)
open Api.ThreadsApi (ApiError internalError)
open Api.AliasesApi
open Api.DomainsApi (deleteDomainRequest domainParam)
open Processor Processor.InboundMessage
open Processor.IncomingEmail Processor.RecipientAccount

/-! ## Counting rows -/

def aliasCount (s : Store) (accountId : String) : Int :=
  (s.aliases.rows.filter fun item => item.accountId = accountId).length

theorem aliasCount_eq_sum (s : Store) (accountId : String) :
    aliasCount s accountId =
      s.aliases.sum fun item => if decide (item.accountId = accountId) then 1 else 0 :=
  (KeyedTable.sum_indicator s.aliases fun item => decide (item.accountId = accountId)).symm

/-- What a row adds to the aliases of an account. -/
def one (accountId accountId' : String) : Int := if accountId = accountId' then 1 else 0

theorem aliasCount_save (s : Store) (item : Alias) (accountId : String) :
    aliasCount (s.saveAliasItem item) accountId = aliasCount s accountId +
      if s.aliases.get (item.accountId, item.aliasAddress) = none then one item.accountId accountId
      else 0 := by
  rw [aliasCount_eq_sum, aliasCount_eq_sum]
  show (s.aliases.put item).sum _ = _
  rw [KeyedTable.sum_put, aliasKey]
  cases hold : s.aliases.get (item.accountId, item.aliasAddress) with
  | none => simp [one]
  | some old =>
    have hkey : aliasKey old = (item.accountId, item.aliasAddress) := KeyedTable.key_of_get hold
    have haccount : old.accountId = item.accountId := (Prod.mk.inj hkey).1
    simp [haccount]

theorem aliasCount_erase (s : Store) (accountId aliasAddress : String) (accountId' : String) :
    aliasCount { s with aliases := s.aliases.erase (accountId, aliasAddress) } accountId' =
      aliasCount s accountId' -
        if s.aliases.get (accountId, aliasAddress) = none then 0 else one accountId accountId' := by
  rw [aliasCount_eq_sum, aliasCount_eq_sum, KeyedTable.sum_erase]
  cases hold : s.aliases.get (accountId, aliasAddress) with
  | none => simp
  | some old =>
    have hkey : aliasKey old = (accountId, aliasAddress) := KeyedTable.key_of_get hold
    obtain rfl : old.accountId = accountId := (Prod.mk.inj hkey).1
    simp [one]

theorem aliasCount_removeAlias (s : Store) (accountId aliasAddress accountId' : String) :
    aliasCount (removeAlias s accountId aliasAddress) accountId' = aliasCount s accountId' -
      if s.aliases.get (accountId, aliasAddress) = none then 0 else one accountId accountId' :=
  aliasCount_erase s accountId aliasAddress accountId'

variable {s : Store} {account : Option IngestService.Account}

/-- The rows before and after a rename: a row under the new address is lost. -/
theorem aliasCount_renamedStore {item : Alias} {accountId oldAddress : String}
    (hitem : s.aliases.get (accountId, oldAddress) = some item) (newAddress now : String)
    (parts : AddressParts) (accountId' : String) :
    aliasCount (renamedStore s item accountId oldAddress newAddress now parts) accountId' =
      aliasCount s accountId' -
        if newAddress ≠ oldAddress ∧ s.aliases.get (accountId, newAddress) = none then 0
        else one accountId accountId' := by
  have hkey : aliasKey item = (accountId, oldAddress) := KeyedTable.key_of_get hitem
  obtain rfl : item.accountId = accountId := (Prod.mk.inj hkey).1
  have hsaved := aliasCount_save s (renamedAlias item newAddress now parts) accountId'
  have hremoved := aliasCount_removeAlias
    (copiedSenders (s.saveAliasItem (renamedAlias item newAddress now parts)) item.accountId
      newAddress now (sendersOf s item.accountId oldAddress)) item.accountId oldAddress accountId'
  have hthere : (copiedSenders (s.saveAliasItem (renamedAlias item newAddress now parts))
      item.accountId newAddress now (sendersOf s item.accountId oldAddress)).aliases.get
        (item.accountId, oldAddress) ≠ none := by
    show (s.aliases.put (renamedAlias item newAddress now parts)).get _ ≠ none
    rw [KeyedTable.get_put]
    split
    · exact Option.some_ne_none _
    · rw [hitem]
      exact Option.some_ne_none _
  have hsame : aliasCount (copiedSenders (s.saveAliasItem (renamedAlias item newAddress now parts))
      item.accountId newAddress now (sendersOf s item.accountId oldAddress)) accountId' =
        aliasCount (s.saveAliasItem (renamedAlias item newAddress now parts)) accountId' := rfl
  rw [if_neg hthere, hsame, hsaved] at hremoved
  rw [renamedStore, hremoved]
  by_cases hnew : newAddress = oldAddress
  · subst hnew
    simp [renamedAlias, hitem]
  · by_cases hfree : s.aliases.get (item.accountId, newAddress) = none
    · simp [renamedAlias, hnew, hfree]
    · simp [renamedAlias, hnew, hfree]

/-! ## Balance -/

/-- The counter of every account is the number of its aliases. -/
def Balanced (w : World) : Prop :=
  ∀ accountId, total w.stats.table accountId .totalAliases = aliasCount w.accounts accountId

/-- What an operation on the aliases of one account adds to its counter and to its rows. -/
structure Changes (w w' : World) (accountId : String) (counted stored : Int) : Prop where
  total : ∀ accountId', total w'.stats.table accountId' .totalAliases =
    total w.stats.table accountId' .totalAliases + counted * one accountId accountId'
  count : ∀ accountId', aliasCount w'.accounts accountId' =
    aliasCount w.accounts accountId' + stored * one accountId accountId'

variable {w : World} {accountId : String}

theorem Changes.balanced_iff {w w' : World} {counted stored : Int}
    (h : Changes w w' accountId counted stored) (hw : Balanced w) :
    Balanced w' ↔ counted = stored := by
  constructor
  · intro hw'
    have hself := hw' accountId
    have hbefore := hw accountId
    rw [h.total, h.count, hbefore] at hself
    simp only [one, if_true, mul_one] at hself
    omega
  · intro heq accountId'
    rw [h.total, h.count, hw accountId', heq]

/-! ## Operations -/

/-- The alias of an exchange when it is created. An error of the last call is only logged. -/
def ensureExchangeAlias (mailDomain accountId address emxId now : String) :
    DbProg (Except ApiError (Except DbError EnsuredAlias)) := do
  let aliasCheck ← getAliasByGlobalAddress mailDomain address
  match aliasCheck.toOption with
  | some (some item) =>
    if item.accountId ≠ accountId then
      return .error ⟨409, "Email address is already registered to another account", none⟩
    else Except.ok <$> ensureAlias accountId address .allowAll (some (some item)) (some emxId) now
  | existing => Except.ok <$> ensureAlias accountId address .allowAll existing (some emxId) now

/-- What the ingest of a mail does to the alias of its recipient. -/
def ingestAlias (env : IngestService.Env) (msg : InboundSignalMessage)
    (account : Option IngestService.Account) : Step Unit := do
  let resolution ← must (resolveAccountIdAndAlias env msg.primaryRecipient)
  match resolution with
  | none => fail (.noAccount msg.primaryRecipient msg.compositeMailMessageId)
  | some resolved => ensureAliasRecord msg resolved account

/-- A write of the counter that the ingest attempts. -/
def countMetric (date : String) (c : IngestService.Cmd) (stats : StatsWriter.World) :
    StatsWriter.World :=
  match c with
  | .attempt (.incrementStatMetric accountId metric key) =>
    if metric = "totalAliases" then
      ((writeDiffMetric ⟨accountId, date, .totalAliases, 1, key⟩).eval StatsWriter.service stats).2
    else stats
  | _ => stats

/-- The ingest with the counters of the day. -/
def metered (env : IngestService.Env) (date : String) :
    Service IngestService.Cmd IngestService.Cmd.Answer (IngestService.World × StatsWriter.World)
      Fate where
  settle c w fate := ((IngestService.settle env c w.1 fate).1,
    (IngestService.settle env c w.1 fate).2, countMetric date c w.2)
  usual := .done

inductive Op
  | create (accountId : String) (body : CreateAliasRequest) (now date invocationId : String)
  | patch (accountId param : String) (body : UpdateAliasRequest) (now : String)
  | delete (accountId param date invocationId : String)
  | deleteDomain (accountId param now : String)
  /-- `rest` is what the ingest reads besides the accounts. -/
  | ingest (env : IngestService.Env) (rest : IngestService.World) (msg : InboundSignalMessage)
      (account : Option IngestService.Account) (date : String)
  | exchange (mailDomain accountId address emxId now : String)

/-- Whether the operation succeeds, and the world after it; every write of the counter succeeds. -/
def operate : Op → World → Bool × World
  | .create accountId body now date invocationId, w =>
    let r := (createAlias accountId body now date invocationId).eval service w
    (r.1.toBool, r.2)
  | .patch accountId param body now, w =>
    let r := (patchAlias accountId param body now).eval accounts w.accounts
    (r.1.toBool, { w with accounts := r.2 })
  | .delete accountId param date invocationId, w =>
    let r := (deleteAliasRequest accountId param date invocationId).eval service w
    (r.1.toBool, r.2)
  | .deleteDomain accountId param now, w =>
    let r := (deleteDomainRequest accountId param now).eval accounts w.accounts
    (r.1.toBool, { w with accounts := r.2 })
  | .ingest env rest msg account date, w =>
    let r := (ingestAlias env msg account).run.eval (metered env date)
      ({ rest with accounts := w.accounts }, w.stats)
    (r.1.toBool, ⟨r.2.1.accounts, r.2.2⟩)
  | .exchange mailDomain accountId address emxId now, w =>
    let r := (ensureExchangeAlias mailDomain accountId address emxId now).eval accounts w.accounts
    ((r.1.toOption.map Except.toBool).getD false, { w with accounts := r.2 })

def Succeeds (w : World) (op : Op) : Prop := (operate op w).1 = true

def step (w : World) (op : Op) : World := (operate op w).2

/-! ## Each operation -/

theorem ok_of_toBool {ε α : Type} {r : Except ε α} (h : r.toBool = true) : ∃ a, r = .ok a := by
  cases r with
  | error _ => cases h
  | ok a => exact ⟨a, rfl⟩

theorem onAccounts_eval {α : Type} (p : DbProg α) (w : World) :
    (onAccounts p).eval service w =
      ((p.eval accounts w.accounts).1, { w with accounts := (p.eval accounts w.accounts).2 }) :=
  Prog.eval_embed (fun s => { w with accounts := s }) (fun _ _ => ⟨rfl, rfl⟩) p w.accounts

theorem onStats_eval {α : Type} (p : StatsWriter.DbProg α) (w : World) :
    (onStats p).eval service w = ((p.eval StatsWriter.service w.stats).1,
      { w with stats := (p.eval StatsWriter.service w.stats).2 }) :=
  Prog.eval_embed (fun s => { w with stats := s }) (fun c _ => by cases c <;> exact ⟨rfl, rfl⟩) p
    w.stats

theorem incrementStatMetric_eval (write : DiffWrite) (w : World) :
    (incrementStatMetric write).eval service w = ((), { w with
      stats := ((writeDiffMetric write).eval StatsWriter.service w.stats).2 }) := by
  rw [incrementStatMetric, Prog.eval_bind, onStats_eval]
  rfl

/-- The write of the counter that an operation makes. -/
theorem total_counted (accountId date : String) (delta : Int) (key : String)
    (stats : StatsWriter.World) (accountId' : String) :
    total ((writeDiffMetric ⟨accountId, date, .totalAliases, delta, key⟩).eval StatsWriter.service
        stats).2.table accountId' .totalAliases =
      total stats.table accountId' .totalAliases +
        (if Fresh stats.table ⟨accountId, date, .totalAliases, delta, key⟩ then delta else 0) *
          one accountId accountId' := by
  rw [writeDiffMetric_adds ⟨accountId, date, .totalAliases, delta, key⟩ stats accountId'
    .totalAliases]
  by_cases haccount : accountId = accountId' <;> split <;> simp [added, one, haccount]

theorem create_changes {body : CreateAliasRequest} {now date invocationId : String}
    (hok : Succeeds w (.create accountId body now date invocationId)) :
    Changes w (step w (.create accountId body now date invocationId)) accountId
      (if Fresh w.stats.table ⟨accountId, date, .totalAliases, 1, invocationId⟩ then 1 else 0)
      1 := by
  unfold Succeeds at hok
  unfold step
  have hadd := (addAlias_leads accountId body now w.accounts).eval trivial
  simp only [operate, createAlias, Prog.eval_bind, onAccounts_eval] at hok ⊢
  revert hok hadd
  generalize (addAlias accountId body now).eval accounts w.accounts = r
  obtain ⟨result, s⟩ := r
  intro hadd hok
  cases result with
  | error _ => cases hok
  | ok item =>
    obtain ⟨hnone, parts, rfl⟩ := hadd item rfl
    simp only [Prog.eval_bind, incrementStatMetric_eval, Prog.pure_eq, Prog.eval_ret]
    refine ⟨fun accountId' => total_counted accountId date 1 invocationId w.stats accountId',
      fun accountId' => ?_⟩
    have hsave := aliasCount_save w.accounts (savedRow (createdAlias accountId body now) parts)
      accountId'
    rw [one_mul]
    exact hsave.trans (by simp [savedRow, createdAlias, hnone])

/-- An operation that writes no counter. -/
theorem changes_of_count {stored : Int} (hcount : ∀ accountId', aliasCount s accountId' =
      aliasCount w.accounts accountId' + stored * one accountId accountId') :
    Changes w { w with accounts := s } accountId 0 stored :=
  ⟨fun _ => by simp, hcount⟩

theorem move_changes {accountId address newAddress now : String} {item : Alias}
    (hitem : w.accounts.aliases.get (accountId, address) = some item) (parts : AddressParts) :
    Changes w { w with
      accounts := renamedStore w.accounts item accountId address newAddress now parts }
      accountId 0 (if newAddress ≠ address ∧ w.accounts.aliases.get (accountId, newAddress) = none
        then 0 else -1) := by
  refine changes_of_count fun accountId' => ?_
  rw [aliasCount_renamedStore hitem]
  split <;> omega

theorem upsert_changes {accountId address now : String} (body : UpdateAliasRequest)
    (parts : AddressParts) :
    Changes w { w with
      accounts := w.accounts.saveAliasItem (savedRow (upsertedAlias accountId address
        (w.accounts.aliases.get (accountId, address)) body now) parts) }
      accountId 0 (if w.accounts.aliases.get (accountId, address) = none then 1 else 0) := by
  refine changes_of_count fun accountId' => ?_
  rw [aliasCount_save]
  by_cases hnone : w.accounts.aliases.get (accountId, address) = none <;>
    simp [savedRow, upsertedAlias, hnone]

/-- A change adds a row where there is none, and a rename loses one where there is one. -/
def patchedRows (s : Store) (accountId address : String) (body : UpdateAliasRequest) : Int :=
  match body.newAddress with
  | some newAddress =>
    if newAddress ≠ address ∧ s.aliases.get (accountId, newAddress) = none then 0 else -1
  | none => if s.aliases.get (accountId, address) = none then 1 else 0

theorem patch_changes {accountId param now : String} {body : UpdateAliasRequest}
    (hok : Succeeds w (.patch accountId param body now)) :
    Changes w (step w (.patch accountId param body now)) accountId 0
      (patchedRows w.accounts accountId (addressParam param) body) := by
  unfold Succeeds at hok
  have hpatch := (patchAlias_leads accountId param body now w.accounts).eval trivial
  obtain ⟨item, hitem⟩ := ok_of_toBool hok
  have hpatched := hpatch item (congrArg some hitem)
  show Changes w { w with accounts :=
    ((patchAlias accountId param body now).eval accounts w.accounts).2 } _ _ _
  revert hpatched
  generalize ((patchAlias accountId param body now).eval accounts w.accounts).2 = s
  generalize addressParam param = address
  unfold Patched patchedRows
  cases body.newAddress with
  | some newAddress =>
    rintro ⟨item, parts, hitem, -, rfl⟩
    exact move_changes hitem parts
  | none =>
    rintro ⟨parts, -, rfl⟩
    exact upsert_changes body parts

theorem delete_changes {accountId param date invocationId : String}
    (hok : Succeeds w (.delete accountId param date invocationId)) :
    Changes w (step w (.delete accountId param date invocationId)) accountId
      (if Fresh w.stats.table ⟨accountId, date, .totalAliases, -1, invocationId⟩ then -1 else 0)
      (if w.accounts.aliases.get (accountId, addressParam param) = none then 0 else -1) := by
  unfold Succeeds at hok
  unfold step
  simp only [operate, deleteAliasRequest, Prog.eval_bind, onAccounts_eval] at hok ⊢
  generalize addressParam param = address at hok ⊢
  have hdelete := (deleteAlias_leads accountId address w.accounts).eval trivial
  revert hok hdelete
  generalize (deleteAlias accountId address).eval accounts w.accounts = r
  obtain ⟨result, s⟩ := r
  intro hok hdelete
  cases result with
  | error _ => cases hok
  | ok item =>
    obtain rfl := hdelete item rfl
    simp only [Prog.eval_bind, incrementStatMetric_eval, Prog.pure_eq, Prog.eval_ret]
    refine ⟨fun accountId' => total_counted accountId date (-1) invocationId w.stats accountId',
      fun accountId' => ?_⟩
    rw [aliasCount_removeAlias]
    split <;> omega

/-! ### Deletion of a domain -/

def removeAliases (s : Store) (accountId : String) (items : List Alias) : Store :=
  items.foldl (fun s item => removeAlias s accountId item.aliasAddress) s

def aliasesOfDomain (s : Store) (accountId domain : String) : List Alias :=
  s.aliases.rows.filter fun item => item.accountId = accountId ∧ item.domain = domain

theorem deleteAliases_leads (accountId : String) (items : List Alias) (s : Store) :
    (DomainsApi.deleteAliases accountId items).Leads accounts AnyTurn
      (Lib.Succeeds fun _ s' => s' = removeAliases s accountId items) s := by
  induction items generalizing s with
  | nil => exact Prog.leads_ok rfl
  | cons item items ih =>
    refine (deleteAlias_leads accountId item.aliasAddress s).andThen
      (fun _ s => Prog.leads_error _ s) fun _ s' hs' => ?_
    subst hs'
    exact ih (removeAlias s accountId item.aliasAddress)

theorem aliases_updateDomainItem (s : Store) (key : String × String) (update : Domain → Domain) :
    (s.updateDomainItem key update).aliases = s.aliases := by
  unfold Store.updateDomainItem
  split <;> rfl

theorem cascadeDelete_leads (accountId domain now : String) (s : Store) :
    (DomainsApi.cascadeDelete accountId domain now).Leads accounts AnyTurn
      (Lib.Succeeds fun _ s' => s'.aliases =
        (removeAliases s accountId (aliasesOfDomain s accountId domain)).aliases) s := by
  refine Prog.leads_request (fun s => Prog.leads_error _ s) ?_
  refine (deleteAliases_leads accountId (aliasesOfDomain s accountId domain) s).andThen
    (fun _ s => Prog.leads_error _ s) fun _ s' hs' => ?_
  subst hs'
  exact Prog.leads_request (fun s => Prog.leads_error _ s)
    (Prog.leads_ok (aliases_updateDomainItem _ _ _))

theorem deleteDomainRequest_leads (accountId param now : String) (s : Store) :
    (deleteDomainRequest accountId param now).Leads accounts AnyTurn
      (Lib.Succeeds fun _ s' => s'.aliases =
        (removeAliases s accountId (aliasesOfDomain s accountId (domainParam param))).aliases)
      s := by
  refine (getDomain_leads accountId (domainParam param) s).andThen
    (fun _ s => Prog.leads_error _ s) fun item s' hs' => ?_
  obtain ⟨rfl, hitem⟩ := hs'
  cases item with
  | none => exact Prog.leads_error _ s'
  | some item =>
    obtain ⟨hget, -⟩ := Option.filter_eq_some_iff.mp hitem.symm
    have hkey : domainKey item = (accountId, domainParam param) := KeyedTable.key_of_get hget
    have hdomain : item.domain = domainParam param := (Prod.mk.inj hkey).2
    show Prog.Leads accounts AnyTurn _ (DomainsApi.cascadeDelete accountId item.domain now) s'
    rw [hdomain]
    exact cascadeDelete_leads accountId (domainParam param) now s'

/-- Different rows of the account are removed. -/
theorem aliasCount_removeAliases (accountId : String) {items : List Alias}
    (hdistinct : (items.map Alias.aliasAddress).Nodup)
    (hrows : ∀ item ∈ items, s.aliases.get (accountId, item.aliasAddress) ≠ none)
    (accountId' : String) :
    aliasCount (removeAliases s accountId items) accountId' =
      aliasCount s accountId' + -(items.length : Int) * one accountId accountId' := by
  induction items generalizing s with
  | nil => simp [removeAliases]
  | cons item items ih =>
    obtain ⟨hitem, hdistinct⟩ := List.nodup_cons.mp hdistinct
    have hrest : ∀ other ∈ items, (removeAlias s accountId item.aliasAddress).aliases.get
        (accountId, other.aliasAddress) ≠ none := by
      intro other hother
      have hne : other.aliasAddress ≠ item.aliasAddress :=
        fun h => hitem (List.mem_map.mpr ⟨other, hother, h⟩)
      show (s.aliases.erase (accountId, item.aliasAddress)).get _ ≠ none
      rw [KeyedTable.get_erase, if_neg (by simp [hne])]
      exact hrows other (List.mem_cons_of_mem item hother)
    have hfirst := aliasCount_removeAlias s accountId item.aliasAddress accountId'
    rw [if_neg (hrows item List.mem_cons_self)] at hfirst
    have hall := ih hdistinct hrest
    rw [hfirst] at hall
    rw [removeAliases, List.foldl_cons]
    refine hall.trans ?_
    simp only [List.length_cons, one]
    split <;> omega

theorem aliasesOfDomain_rows {accountId domain : String} {item : Alias}
    (h : item ∈ aliasesOfDomain s accountId domain) :
    s.aliases.get (accountId, item.aliasAddress) = some item := by
  obtain ⟨hrow, hof⟩ := List.mem_filter.mp h
  obtain ⟨rfl, -⟩ := of_decide_eq_true hof
  exact KeyedTable.mem_rows_iff.mp hrow

theorem aliasesOfDomain_nodup (s : Store) (accountId domain : String) :
    ((aliasesOfDomain s accountId domain).map Alias.aliasAddress).Nodup := by
  have hkeys : ((aliasesOfDomain s accountId domain).map aliasKey).Nodup :=
    s.aliases.distinct.sublist (List.filter_sublist.map _)
  have hpairs : (aliasesOfDomain s accountId domain).map aliasKey =
      ((aliasesOfDomain s accountId domain).map Alias.aliasAddress).map (accountId, ·) := by
    rw [List.map_map]
    refine List.map_congr_left fun item hitem => ?_
    exact KeyedTable.key_of_get (aliasesOfDomain_rows hitem)
  rw [hpairs] at hkeys
  exact List.Nodup.of_map _ hkeys

theorem deleteDomain_changes {accountId param now : String}
    (hok : Succeeds w (.deleteDomain accountId param now)) :
    Changes w (step w (.deleteDomain accountId param now)) accountId 0
      (-((aliasesOfDomain w.accounts accountId (domainParam param)).length : Int)) := by
  unfold Succeeds at hok
  have hdelete := (deleteDomainRequest_leads accountId param now w.accounts).eval trivial
  obtain ⟨_, hresult⟩ := ok_of_toBool hok
  have haliases := hdelete () (congrArg some hresult)
  refine changes_of_count fun accountId' => ?_
  rw [← aliasCount_removeAliases accountId (aliasesOfDomain_nodup ..) fun item hitem => by
    rw [aliasesOfDomain_rows hitem]
    nofun]
  rw [aliasCount, haliases, aliasCount]

/-! ### Creation of an exchange -/

theorem aliasCount_setAliasExchange (s : Store) (accountId aliasAddress : String)
    (emxId : Option String) (now accountId' : String) :
    aliasCount (exec (.setAliasExchange accountId aliasAddress emxId now) s).2 accountId' =
      aliasCount s accountId' := by
  cases hitem : s.aliases.get (accountId, aliasAddress) with
  | none => simp only [exec, hitem]
  | some item =>
    have hkey : aliasKey item = (accountId, aliasAddress) := KeyedTable.key_of_get hitem
    obtain ⟨rfl, rfl⟩ : item.accountId = accountId ∧ item.aliasAddress = aliasAddress :=
      Prod.mk.inj hkey
    simp only [exec, hitem]
    rw [aliasCount_save, hitem]
    simp

theorem aliasCount_reconcileAlias (item : Alias) (accountId aliasAddress : String)
    (emxId : Option String) (now : String) (s : Store) (accountId' : String) :
    aliasCount ((reconcileAlias item accountId aliasAddress emxId now).eval accounts s).2
      accountId' = aliasCount s accountId' := by
  cases emxId with
  | none => rfl
  | some emxId =>
    unfold reconcileAlias
    dsimp only
    split
    · rfl
    · rw [Prog.eval_bind]
      have hupdate : aliasCount ((updateAlias accountId aliasAddress (some emxId) now).eval
          accounts s).2 accountId' = aliasCount s accountId' := by
        unfold updateAlias withAddress
        cases parseAddress aliasAddress with
        | none => rfl
        | some parts =>
          rw [← aliasCount_setAliasExchange s accountId aliasAddress (some emxId) now accountId']
          simp only [request, Prog.perform, Prog.call_bind, Prog.ret_bind, Prog.eval_call]
          split <;> rfl
      rw [← hupdate]
      split <;> rfl

theorem createAliasItem_leads (accountId aliasAddress : String) (policy : UnknownSenderPolicy)
    (emxId : Option String) (now : String) (s : Store) :
    (createAliasItem accountId aliasAddress policy emxId now).Leads accounts AnyTurn
      (Lib.Succeeds fun ensured s' => ensured.created = true ∧ ∃ parts,
        s' = s.saveAliasItem (savedRow (newAlias accountId aliasAddress policy emxId now) parts))
      s := by
  refine (saveAlias_leads _ s).andThen (fun _ s => Prog.leads_error _ s) fun _ s' hs' => ?_
  obtain ⟨-, parts, -, hstore⟩ := hs'
  exact Prog.leads_ok ⟨rfl, parts, hstore⟩

theorem aliasCount_created {accountId aliasAddress : String}
    (hnone : s.aliases.get (accountId, aliasAddress) = none) (policy : UnknownSenderPolicy)
    (emxId : Option String) (now : String) (parts : AddressParts) (accountId' : String) :
    aliasCount (s.saveAliasItem (savedRow (newAlias accountId aliasAddress policy emxId now) parts))
      accountId' = aliasCount s accountId' + 1 * one accountId accountId' := by
  rw [aliasCount_save, one_mul]
  simp [savedRow, newAlias, hnone]

theorem exchange_changes {mailDomain accountId address emxId now : String}
    (hok : Succeeds w (.exchange mailDomain accountId address emxId now)) :
    Changes w (step w (.exchange mailDomain accountId address emxId now)) accountId 0
      (if globalAlias mailDomain w.accounts address = none then 1 else 0) := by
  unfold Succeeds at hok
  unfold step
  refine changes_of_count fun accountId' => ?_
  simp only [operate, ensureExchangeAlias, Prog.eval_bind] at hok ⊢
  rw [getAliasByGlobalAddress_eval] at hok ⊢
  by_cases hread : Readable mailDomain address
  · simp only [if_pos hread] at hok ⊢
    cases hglobal : globalAlias mailDomain w.accounts address with
    | some item =>
      rw [hglobal] at hok
      simp only [Except.toOption] at hok ⊢
      by_cases hother : item.accountId ≠ accountId
      · rw [if_pos hother] at hok
        cases hok
      · rw [if_neg hother, Prog.eval_map]
        simpa [ensureAlias] using
          aliasCount_reconcileAlias item accountId address (some emxId) now w.accounts accountId'
    | none =>
      rw [hglobal] at hok
      simp only [Except.toOption, ensureAlias, Prog.eval_map] at hok ⊢
      obtain ⟨ensured, hensured⟩ := ok_of_toBool hok
      obtain ⟨-, parts, hstore⟩ := (createAliasItem_leads accountId address .allowAll (some emxId)
        now w.accounts).eval trivial ensured (congrArg some hensured)
      rw [hstore, if_pos trivial]
      exact aliasCount_created (get_of_globalAlias_none hglobal accountId) .allowAll (some emxId)
        now parts accountId'
  · obtain ⟨-, hparse⟩ := not_or.mp hread
    simp only [if_neg hread, Except.toOption, ensureAlias, getAlias, withAddress,
      not_not.mp hparse, Prog.pure_eq, Prog.ret_bind, Prog.eval_map, Prog.eval_ret] at hok
    cases hok

/-! ### Ingest -/

section Ingest

variable {env : IngestService.Env} {date : String} {rest : IngestService.World}
  {stats : StatsWriter.World}

theorem ingestAccounts_eval {α : Type} (p : DbProg α) :
    (IngestService.accounts p).eval (metered env date) (rest, stats) =
      ((p.eval accounts rest.accounts).1,
        { rest with accounts := (p.eval accounts rest.accounts).2 }, stats) :=
  Prog.eval_embed (fun s => ({ rest with accounts := s }, stats)) (fun _ _ => ⟨rfl, rfl⟩) p
    rest.accounts

/-- The write of the counter for an alias that the ingest creates. -/
def ingestWrite (msg : InboundSignalMessage) (accountId date : String) : DiffWrite :=
  ⟨accountId, date, .totalAliases, 1, msg.idempotencyKey ++ ".alias"⟩

theorem now_eval : (liftM (IngestService.ask .now) : Step String).run.eval (metered env date)
    (rest, stats) =
      (.ok (env.answer rest.tick .now), { rest with tick := rest.tick + 1 }, stats) := rfl

theorem metric_eval (accountId key : String) :
    (liftM (IngestService.attempt (.incrementStatMetric accountId "totalAliases" key)) :
      Step Unit).run.eval (metered env date) (rest, stats) =
        (.ok (), rest, ((writeDiffMetric ⟨accountId, date, .totalAliases, 1, key⟩).eval
          StatsWriter.service stats).2) :=
  rfl

theorem ensureAliasRecord_creates {msg : InboundSignalMessage}
    (hok : ((ensureAliasRecord msg ⟨accountId, none⟩ account).run.eval (metered env date)
      (rest, stats)).1.toBool = true) :
    ∃ policy now parts,
      ((ensureAliasRecord msg ⟨accountId, none⟩ account).run.eval (metered env date)
        (rest, stats)).2.1.accounts = rest.accounts.saveAliasItem
          (savedRow (newAlias accountId msg.primaryRecipient policy none now) parts) ∧
      ((ensureAliasRecord msg ⟨accountId, none⟩ account).run.eval (metered env date)
        (rest, stats)).2.2 = ((writeDiffMetric (ingestWrite msg accountId date)).eval
          StatsWriter.service stats).2 := by
  have hcreate := (createAliasItem_leads accountId msg.primaryRecipient (defaultPolicy account)
    none (env.answer rest.tick .now) rest.accounts).eval trivial
  simp only [ensureAliasRecord, ExceptT.run_bind, must, Prog.eval_bind, ExceptT.run_mk,
    Prog.eval_map, now_eval, ingestAccounts_eval, ensureAlias] at hok ⊢
  revert hok hcreate
  generalize (createAliasItem accountId msg.primaryRecipient (defaultPolicy account) none
    (env.answer rest.tick .now)).eval accounts rest.accounts = r
  obtain ⟨result, s⟩ := r
  intro hcreate hok
  cases result with
  | error _ => cases hok
  | ok ensured =>
    obtain ⟨hcreated, parts, rfl⟩ := hcreate ensured rfl
    refine ⟨defaultPolicy account, env.answer rest.tick .now, parts, ?_⟩
    simp only [Except.mapError, hcreated, if_true, metric_eval]
    exact ⟨trivial, rfl⟩

theorem ingest_changes {msg : InboundSignalMessage}
    (hok : Succeeds w (.ingest env rest msg account date)) :
    ∃ accountId,
      recipientAccount env msg.primaryRecipient w.accounts = some accountId ∧
      if globalAlias env.mailDomain w.accounts msg.primaryRecipient = none then
        Changes w (step w (.ingest env rest msg account date)) accountId
          (if Fresh w.stats.table (ingestWrite msg accountId date) then 1 else 0) 1
      else Changes w (step w (.ingest env rest msg account date)) accountId 0 0 := by
  unfold Succeeds at hok
  unfold step
  rw [← resolvedIn_accountId]
  simp only [operate, ingestAlias, ExceptT.run_bind, must, Prog.eval_bind, ExceptT.run_mk,
    Prog.eval_map] at hok ⊢
  have hresolve := resolve_eval
    (fun p s => @ingestAccounts_eval env date { rest with accounts := s } w.stats _ p) env
    msg.primaryRecipient w.accounts
  rw [hresolve] at hok ⊢
  by_cases hread : Readable env.mailDomain msg.primaryRecipient
  · simp only [if_pos hread, Except.mapError] at hok ⊢
    cases hresolved : resolvedIn env w.accounts msg.primaryRecipient with
    | none =>
      rw [hresolved] at hok
      cases hok
    | some resolved =>
      obtain ⟨accountId, aliasConfig⟩ := resolved
      obtain rfl : aliasConfig = globalAlias env.mailDomain w.accounts msg.primaryRecipient :=
        resolvedIn_aliasConfig hresolved
      rw [hresolved] at hok
      refine ⟨accountId, rfl, ?_⟩
      cases hglobal : globalAlias env.mailDomain w.accounts msg.primaryRecipient with
      | some item =>
        rw [if_neg nofun]
        exact ⟨fun _ => by simp [ensureAliasRecord], fun _ => by simp [ensureAliasRecord]⟩
      | none =>
        rw [if_pos rfl]
        rw [hglobal] at hok
        obtain ⟨policy, now, parts, haccounts, hstats⟩ := ensureAliasRecord_creates hok
        refine ⟨fun accountId' => ?_, fun accountId' => ?_⟩
        · rw [hstats]
          exact total_counted accountId date 1 _ w.stats accountId'
        · rw [haccounts]
          exact aliasCount_created (get_of_globalAlias_none hglobal accountId) policy none now parts
            accountId'
  · rw [if_neg hread] at hok
    cases hok

end Ingest

/-! ## Runs -/

/-- The operations that the counter follows. A new alias counts under a key that the row of the day
has not counted, and so does one that is deleted; a change is of an alias that exists, and a rename
goes to an address without one; a domain is deleted when it has no aliases left, and an exchange is
created for an alias that exists. -/
def Counted (w : World) : Op → Prop
  | .create accountId _ _ date invocationId =>
    Fresh w.stats.table ⟨accountId, date, .totalAliases, 1, invocationId⟩
  | .patch accountId param body _ => match body.newAddress with
    | some newAddress => newAddress ≠ addressParam param ∧
        w.accounts.aliases.get (accountId, newAddress) = none
    | none => w.accounts.aliases.get (accountId, addressParam param) ≠ none
  | .delete accountId param date invocationId =>
    w.accounts.aliases.get (accountId, addressParam param) ≠ none ↔
      Fresh w.stats.table ⟨accountId, date, .totalAliases, -1, invocationId⟩
  | .deleteDomain accountId param _ =>
    aliasesOfDomain w.accounts accountId (domainParam param) = []
  | .ingest env _ msg _ date =>
    globalAlias env.mailDomain w.accounts msg.primaryRecipient = none → ∀ accountId,
      recipientAccount env msg.primaryRecipient w.accounts = some accountId →
        Fresh w.stats.table (ingestWrite msg accountId date)
  | .exchange mailDomain _ address _ _ => globalAlias mailDomain w.accounts address ≠ none

theorem patchedRows_eq_zero_iff {accountId address : String}
    {body : UpdateAliasRequest} : patchedRows s accountId address body = 0 ↔
      match body.newAddress with
      | some newAddress => newAddress ≠ address ∧ s.aliases.get (accountId, newAddress) = none
      | none => s.aliases.get (accountId, address) ≠ none := by
  unfold patchedRows
  cases body.newAddress with
  | some newAddress => dsimp only; split <;> simp_all
  | none => dsimp only; split <;> simp_all

theorem step_balanced_iff {op : Op} (hw : Balanced w) (hok : Succeeds w op) :
    Balanced (step w op) ↔ Counted w op := by
  cases op with
  | create accountId body now date invocationId =>
    rw [(create_changes hok).balanced_iff hw, Counted]
    split <;> simp_all
  | patch accountId param body now =>
    rw [(patch_changes hok).balanced_iff hw, Counted, eq_comm]
    exact patchedRows_eq_zero_iff
  | delete accountId param date invocationId =>
    rw [(delete_changes hok).balanced_iff hw, Counted]
    split <;> split <;> simp_all
  | deleteDomain accountId param now =>
    rw [(deleteDomain_changes hok).balanced_iff hw, Counted, ← List.length_eq_zero_iff]
    omega
  | ingest env rest msg account date =>
    obtain ⟨accountId, haccount, hchanges⟩ := ingest_changes hok
    rw [Counted, haccount]
    split at hchanges
    next hnone =>
      rw [hchanges.balanced_iff hw]
      split <;> simp_all
    next hsome =>
      rw [hchanges.balanced_iff hw]
      simp [hsome]
  | exchange mailDomain accountId address emxId now =>
    rw [(exchange_changes hok).balanced_iff hw, Counted]
    split <;> simp_all

/-- **The counter of aliases.** In a run of operations that succeed, the counter of every account is
the number of its aliases in every state just when each operation is one that it follows. -/
theorem totals_balanced_iff (w : World) (ops : List Op) (hw : Balanced w)
    (hok : EachFits step Succeeds w ops) :
    Always step Balanced w ops ↔ EachFits step Counted w ops := by
  have hstep : ∀ w op, Balanced w → Succeeds w op → (Balanced (step w op) ↔ Counted w op) :=
    fun _ _ hw hok => step_balanced_iff hw hok
  exact always_iff_eachFits_of hstep hw hok

/-! ### An alias that a change creates -/

def noAliases : World where
  accounts := ⟨.empty, .empty, KeyedTable.empty.put (newDomain "acc" "a.com" "d")⟩
  stats := ⟨.empty, []⟩

theorem balanced_noAliases : Balanced noAliases := fun _ => rfl

theorem policyBody_address : (none : Option String) ≠ some "" := by simp

def policyBody : UpdateAliasRequest := ⟨none, none, some .allowAll, none, policyBody_address⟩

/-- The alias is stored and not counted. -/
theorem upsert_uncounted :
    Balanced noAliases ∧ Succeeds noAliases (.patch "acc" "shop@a.com" policyBody "n") ∧
      ¬ Balanced (step noAliases (.patch "acc" "shop@a.com" policyBody "n")) := by
  refine ⟨balanced_noAliases, by unfold Succeeds; decide +kernel, fun h => ?_⟩
  have hacc := h "acc"
  revert hacc
  decide +kernel

/-- An alias that is created and deleted, in two requests of one day. -/
def createAndDelete : List Op :=
  [.create "acc" ⟨"shop@a.com", none, none, none⟩ "n" "day" "key-1",
    .delete "acc" "shop@a.com" "day" "key-2"]

theorem createAndDelete_balanced : Always step Balanced noAliases createAndDelete := by
  refine (totals_balanced_iff noAliases createAndDelete balanced_noAliases ?_).mpr ?_
  · exact ⟨by unfold Succeeds; decide +kernel, by unfold Succeeds; decide +kernel, trivial⟩
  · exact ⟨by unfold Counted; decide +kernel, by unfold Counted; decide +kernel, trivial⟩

end SesEmailAdapter.Api.AliasTotals
