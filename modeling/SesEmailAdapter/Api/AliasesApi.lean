import SesEmailAdapter.Api.ThreadsApi
import SesEmailAdapter.Database.AliasRows
import SesEmailAdapter.Database.StatsWriter

/-! # The aliases API

The requests that create, change and delete the aliases of an account. Creating and deleting one
adds to the counter of aliases; a change rebuilds the row or moves it to another address. -/

namespace SesEmailAdapter.Api.AliasesApi
open Lib Lib.Prog
open SesEmailAdapter.Types Database
open Database.AccountsTable Database.AccountDatabase
open Database.AliasRows
open Database.StatsWriter (DiffWrite writeDiffMetric)
open Email.Address
open Api.ThreadsApi (ApiError internalError)

/-! ## Bodies -/

structure CreateAliasRequest where
  address : String
  name : Option String
  unknownSenderPolicy : Option UnknownSenderPolicy
  createdForOrigin : Option String
deriving DecidableEq, Repr

structure UpdateAliasRequest where
  newAddress : Option String
  name : Option String
  unknownSenderPolicy : Option UnknownSenderPolicy
  createdForOrigin : Option String
  /-- The schema takes no empty address. -/
  address_ne : newAddress ≠ some ""

structure ApiAlias where
  id : String
  name : Option String
  unknownSenderPolicy : UnknownSenderPolicy
  createdAt : String
  updatedAt : String
deriving DecidableEq, Repr

def toApiAlias (item : Alias) : ApiAlias :=
  ⟨item.id, item.name, item.unknownSenderPolicy, item.createdAt, item.updatedAt⟩

/-- `split("@")[1]!` -/
def addressDomain (address : String) : String := String.ofList (afterFirstAt address.toList)

/-- `split("@")[0]!` -/
def addressName (address : String) : String :=
  String.ofList (address.toList.takeWhile (· ≠ '@'))

/-- The address in the path of a request. -/
def addressParam (param : String) : String := String.ofList (toLowerCase param.toList)

/-! ## The service -/

inductive Cmd
  | accounts (c : AccountsTable.Cmd)
  | stats (c : StatsWriter.Cmd)
deriving DecidableEq, Repr

@[reducible] def Cmd.Answer : Cmd → Type
  | .accounts c => c.Answer
  | .stats c => c.Answer

structure World where
  accounts : AccountsTable.Store
  stats : StatsWriter.World

def settle : (c : Cmd) → World → Fate → c.Answer × World
  | .accounts c, w, fate =>
    ((AccountsTable.settle c w.accounts fate).1,
      { w with accounts := (AccountsTable.settle c w.accounts fate).2 })
  | .stats c, w, fate =>
    ((StatsWriter.settle c w.stats ⟨fate, none⟩).1,
      { w with stats := (StatsWriter.settle c w.stats ⟨fate, none⟩).2 })

def service : Service Cmd Cmd.Answer World Fate := ⟨settle, .done⟩

abbrev AliasesProg (α : Type) := Prog Cmd Cmd.Answer α

def onAccounts {α : Type} (p : AccountsTable.DbProg α) : AliasesProg α :=
  p.embed .accounts fun _ r => r

def onStats {α : Type} (p : StatsWriter.DbProg α) : AliasesProg α := p.embed .stats fun _ r => r

/-- Its failure is logged. -/
def incrementStatMetric (write : DiffWrite) : AliasesProg Unit := do
  let _ ← onStats (writeDiffMetric write)
  return ()

/-! ## The requests -/

def checkDomain (accountId domain : String) : DbProg (Except ApiError Unit) := do
  let domainCheckResult ← getDomain accountId domain
  match domainCheckResult with
  | .error _ => return .error internalError
  | .ok none =>
    return .error ⟨422, "Domain not registered for this account", some "DOMAIN_NOT_REGISTERED"⟩
  | .ok (some _) => return .ok ()

def createdAlias (accountId : String) (body : CreateAliasRequest) (now : String) : Alias where
  id := body.address
  accountId := accountId
  aliasAddress := body.address
  domain := addressDomain body.address
  aliasName := addressName body.address
  unknownSenderPolicy := body.unknownSenderPolicy.getD .quarantineVisible
  name := body.name
  createdForOrigin := body.createdForOrigin
  emxId := none
  createdAt := now
  updatedAt := now

def addAlias (accountId : String) (body : CreateAliasRequest) (now : String) :
    DbProg (Except ApiError Alias) := do
  let checked ← checkDomain accountId (addressDomain body.address)
  match checked with
  | .error error => return .error error
  | .ok () => do
    let existingResult ← getAlias accountId body.address
    match existingResult with
    | .error _ => return .error internalError
    | .ok (some _) => return .error ⟨409, "Alias already exists", some "ALIAS_EXISTS"⟩
    | .ok none => do
      let createResult ← saveAlias (createdAlias accountId body now)
      return createResult.mapError fun _ => internalError

def createAlias (accountId : String) (body : CreateAliasRequest) (now date invocationId : String) :
    AliasesProg (Except ApiError ApiAlias) := do
  let createResult ← onAccounts (addAlias accountId body now)
  match createResult with
  | .error error => return .error error
  | .ok item => do
    incrementStatMetric ⟨accountId, date, .totalAliases, 1, invocationId⟩
    return .ok (toApiAlias item)

/-- The row as it is rebuilt, of the body and the row before. -/
def upsertedAlias (accountId address : String) (existing : Option Alias)
    (body : UpdateAliasRequest) (now : String) : Alias where
  id := address
  accountId := accountId
  aliasAddress := address
  domain := addressDomain address
  aliasName := addressName address
  unknownSenderPolicy := (body.unknownSenderPolicy.or
    (existing.map Alias.unknownSenderPolicy)).getD .quarantineVisible
  name := body.name.or (existing.bind Alias.name)
  createdForOrigin := body.createdForOrigin.or (existing.bind Alias.createdForOrigin)
  emxId := none
  createdAt := (existing.map Alias.createdAt).getD now
  updatedAt := now

def moveAlias (accountId address newAddress now : String) : DbProg (Except ApiError ApiAlias) := do
  let checked ← checkDomain accountId (addressDomain newAddress)
  match checked with
  | .error error => return .error error
  | .ok () => do
    let renameResult ← renameAlias accountId address newAddress now
    match renameResult with
    | .error .notFound => return .error ⟨404, "Alias not found", some "ALIAS_NOT_FOUND"⟩
    | .error (.db _) => return .error internalError
    | .ok renamed => return .ok (toApiAlias renamed)

def upsertAlias (accountId address : String) (body : UpdateAliasRequest) (now : String) :
    DbProg (Except ApiError ApiAlias) := do
  let existingResult ← getAlias accountId address
  match existingResult with
  | .error _ => return .error internalError
  | .ok existing => do
    let upsertResult ← saveAlias (upsertedAlias accountId address existing body now)
    return (upsertResult.mapError fun _ => internalError).map toApiAlias

/-- The other fields of a body that names a new address are ignored. -/
def patchAlias (accountId param : String) (body : UpdateAliasRequest) (now : String) :
    DbProg (Except ApiError ApiAlias) :=
  match body.newAddress with
  | some newAddress => moveAlias accountId (addressParam param) newAddress now
  | none => upsertAlias accountId (addressParam param) body now

def deleteAliasRequest (accountId param date invocationId : String) :
    AliasesProg (Except ApiError Unit) := do
  let deleteResult ← onAccounts (deleteAlias accountId (addressParam param))
  match deleteResult with
  | .error _ => return .error internalError
  | .ok () => do
    incrementStatMetric ⟨accountId, date, .totalAliases, -1, invocationId⟩
    return .ok ()

/-! ## Senders of an alias -/

structure ApiAliasSender where
  aliasAddress : String
  sender : String
  policy : SenderPolicy
  createdAt : String
  updatedAt : String
deriving DecidableEq, Repr

def toApiAliasSender (sender : AliasSender) : ApiAliasSender :=
  ⟨sender.aliasAddress, sender.senderDomain, sender.policy, sender.addedAt, sender.addedAt⟩

/-- The row is read back for the answer. -/
def saveSenderRow (accountId address senderDomain : String) (policy : SenderPolicy)
    (now : String) : DbProg (Except ApiError ApiAliasSender) := do
  let saveResult ← saveSender accountId address senderDomain policy now
  match saveResult with
  | .error _ => return .error internalError
  | .ok () => do
    let readResult ← getSender accountId address senderDomain
    match readResult with
    | .ok (some item) => return .ok (toApiAliasSender item)
    | _ => return .error internalError

def createSender (accountId param senderDomain : String) (policy : SenderPolicy) (now : String) :
    DbProg (Except ApiError ApiAliasSender) := do
  let existingResult ← getSender accountId (addressParam param) senderDomain
  match existingResult with
  | .error _ => return .error internalError
  | .ok (some item) =>
    if item.policy = policy then return .ok (toApiAliasSender item)
    else
      return .error ⟨409, "Sender already exists with a different policy", some "SENDER_EXISTS"⟩
  | .ok none => saveSenderRow accountId (addressParam param) senderDomain policy now

def updateSender (accountId param domainParam : String) (policy : SenderPolicy) (now : String) :
    DbProg (Except ApiError ApiAliasSender) := do
  let existingResult ← getSender accountId (addressParam param) (addressParam domainParam)
  match existingResult with
  | .error _ => return .error internalError
  | .ok none => return .error ⟨404, "Sender not found", some "SENDER_NOT_FOUND"⟩
  | .ok (some _) => saveSenderRow accountId (addressParam param) (addressParam domainParam) policy now

/-! ## What the requests do -/

theorem getDomain_leads (accountId domain : String) (s : Store) :
    (getDomain accountId domain).Leads accounts AnyTurn
      (Succeeds fun item s' => s' = s ∧ item =
        (s.domains.get (accountId, domain)).filter fun item => item.status ≠ .deleted) s :=
  leads_request (fun s => leads_error _ s) (leads_ok ⟨rfl, rfl⟩)

theorem checkDomain_leads (accountId domain : String) (s : Store) :
    (checkDomain accountId domain).Leads accounts AnyTurn (Succeeds fun _ s' => s' = s) s := by
  refine (getDomain_leads accountId domain s).andThen (fun _ s => leads_error _ s)
    fun item s' hs' => ?_
  cases item with
  | none => exact leads_error _ s'
  | some _ => exact leads_ok hs'.1

/-- Where the row of an alias is after a change. -/
def UpdateAliasRequest.target (body : UpdateAliasRequest) (address : String) : String :=
  body.newAddress.getD address

/-- The store that a change leaves. -/
def Patched (s s' : Store) (accountId address : String) (body : UpdateAliasRequest)
    (now : String) : Prop :=
  match body.newAddress with
  | some newAddress => ∃ item parts, s.aliases.get (accountId, address) = some item ∧
      parseAddress newAddress = some parts ∧
      s' = renamedStore s item accountId address newAddress now parts
  | none => ∃ parts, parseAddress address = some parts ∧
      s' = s.saveAliasItem (savedRow (upsertedAlias accountId address
        (s.aliases.get (accountId, address)) body now) parts)

theorem addAlias_leads (accountId : String) (body : CreateAliasRequest) (now : String)
    (s : Store) :
    (addAlias accountId body now).Leads accounts AnyTurn
      (Succeeds fun _ s' => s.aliases.get (accountId, body.address) = none ∧ ∃ parts,
        s' = s.saveAliasItem (savedRow (createdAlias accountId body now) parts)) s := by
  refine (checkDomain_leads accountId (addressDomain body.address) s).andThen
    (fun _ s => leads_error _ s) fun _ s' hs' => ?_
  subst hs'
  refine (getAlias_leads accountId body.address s').andThen (fun _ s => leads_error _ s)
    fun existing s' hs' => ?_
  obtain ⟨rfl, hexisting⟩ := hs'
  cases existing with
  | some _ => exact leads_error _ s'
  | none =>
    refine (saveAlias_leads _ s').andThen (fun _ s => leads_error _ s) fun _ s'' hs'' => ?_
    obtain ⟨-, parts, -, hstore⟩ := hs''
    exact leads_ok ⟨hexisting.symm, parts, hstore⟩

theorem moveAlias_leads (accountId address newAddress now : String) (s : Store) :
    (moveAlias accountId address newAddress now).Leads accounts AnyTurn
      (Succeeds fun _ s' => ∃ item parts, s.aliases.get (accountId, address) = some item ∧
        parseAddress newAddress = some parts ∧
        s' = renamedStore s item accountId address newAddress now parts) s := by
  refine (checkDomain_leads accountId (addressDomain newAddress) s).andThen
    (fun _ s => leads_error _ s) fun _ s' hs' => ?_
  subst hs'
  refine (renameAlias_leads accountId address newAddress now s').andThen (fun error s => ?_)
    fun _ s'' hs'' => ?_
  · cases error with
    | notFound => exact leads_error _ s
    | db => exact leads_error _ s
  · obtain ⟨item, parts, hitem, hparts, -, hstore⟩ := hs''
    exact leads_ok ⟨item, parts, hitem, hparts, hstore⟩

theorem upsertAlias_leads (accountId address : String) (body : UpdateAliasRequest) (now : String)
    (s : Store) :
    (upsertAlias accountId address body now).Leads accounts AnyTurn
      (Succeeds fun _ s' => ∃ parts, parseAddress address = some parts ∧
        s' = s.saveAliasItem (savedRow (upsertedAlias accountId address
          (s.aliases.get (accountId, address)) body now) parts)) s := by
  refine (getAlias_leads accountId address s).andThen (fun _ s => leads_error _ s)
    fun existing s' hs' => ?_
  obtain ⟨rfl, rfl⟩ := hs'
  refine (saveAlias_leads _ s').andThen (fun _ s => leads_error _ s) fun _ s'' hs'' => ?_
  obtain ⟨-, parts, hparts, hstore⟩ := hs''
  exact leads_ok ⟨parts, hparts, hstore⟩

theorem patchAlias_leads (accountId param : String) (body : UpdateAliasRequest) (now : String)
    (s : Store) :
    (patchAlias accountId param body now).Leads accounts AnyTurn
      (Succeeds fun _ s' => Patched s s' accountId (addressParam param) body now) s := by
  unfold patchAlias Patched
  generalize addressParam param = address
  cases body.newAddress with
  | some newAddress => exact moveAlias_leads accountId address newAddress now s
  | none => exact upsertAlias_leads accountId address body now s

/-! ## What a change keeps -/

/-- The attributes that a body does not name are those of the row before. The time of the last
update is the request's own. -/
structure Framed (body : UpdateAliasRequest) (old new : Alias) : Prop where
  id : new.id = old.id
  accountId : new.accountId = old.accountId
  address : body.newAddress = none →
    (new.aliasAddress, new.domain, new.aliasName) = (old.aliasAddress, old.domain, old.aliasName)
  unknownSenderPolicy : body.unknownSenderPolicy = none →
    new.unknownSenderPolicy = old.unknownSenderPolicy
  name : body.name = none → new.name = old.name
  createdForOrigin : body.createdForOrigin = none → new.createdForOrigin = old.createdForOrigin
  emxId : new.emxId = old.emxId
  createdAt : new.createdAt = old.createdAt

/-- The row has nothing that rebuilding it from its address loses. -/
structure Rebuildable (row : Alias) (address : String) : Prop where
  emxId : row.emxId = none
  id : row.id = address
  parts : ∀ parts, parseAddress address = some parts →
    row.domain = parts.domain ∧ row.aliasName = parts.aliasName

/-- The bodies and rows of changes that keep what they do not name. -/
def FrameSafe (body : UpdateAliasRequest) (row : Alias) (address : String) : Prop :=
  match body.newAddress with
  | some newAddress => newAddress ≠ address
  | none => Rebuildable row address

theorem framed_upserted_iff {body : UpdateAliasRequest} {row : Alias} {accountId address : String}
    (hnone : body.newAddress = none) (hkey : aliasKey row = (accountId, address))
    {parts : AddressParts} (hparts : parseAddress address = some parts) (now : String) :
    Framed body row (savedRow (upsertedAlias accountId address (some row) body now) parts) ↔
      Rebuildable row address := by
  obtain ⟨rfl, rfl⟩ : row.accountId = accountId ∧ row.aliasAddress = address := by
    simpa [aliasKey] using hkey
  constructor
  · intro h
    have hdomain : parts.domain = row.domain ∧ parts.aliasName = row.aliasName := by
      simpa [savedRow, upsertedAlias] using h.address hnone
    refine ⟨h.emxId.symm, h.id.symm, fun parts' hparts' => ?_⟩
    obtain rfl := Option.some.inj (hparts.symm.trans hparts')
    exact ⟨hdomain.1.symm, hdomain.2.symm⟩
  · intro h
    obtain ⟨hdomain, hname⟩ := h.parts parts hparts
    refine ⟨h.id.symm, rfl, fun _ => ?_, fun hbody => ?_, fun hbody => ?_, fun hbody => ?_,
      h.emxId.symm, rfl⟩
    · simp [savedRow, upsertedAlias, hdomain, hname]
    · simp [savedRow, upsertedAlias, hbody]
    · simp [savedRow, upsertedAlias, hbody]
    · simp [savedRow, upsertedAlias, hbody]

theorem framed_renamedAlias (body : UpdateAliasRequest) (row : Alias) {newAddress : String}
    (hsome : body.newAddress = some newAddress) (now : String) (parts : AddressParts) :
    Framed body row (renamedAlias row newAddress now parts) := by
  refine ⟨rfl, rfl, fun hnone => ?_, fun _ => rfl, fun _ => rfl, fun _ => rfl, rfl, rfl⟩
  rw [hsome] at hnone
  cases hnone

theorem framed_patched_iff {s s' : Store} {accountId address : String} {body : UpdateAliasRequest}
    {now : String} {row : Alias} (hrow : s.aliases.get (accountId, address) = some row)
    (h : Patched s s' accountId address body now) :
    (∃ new, s'.aliases.get (accountId, body.target address) = some new ∧ Framed body row new) ↔
      FrameSafe body row address := by
  unfold Patched at h
  unfold FrameSafe UpdateAliasRequest.target
  cases hbody : body.newAddress with
  | some newAddress =>
    rw [hbody] at h
    obtain ⟨item, parts, hitem, -, rfl⟩ := h
    obtain rfl := Option.some.inj (hrow.symm.trans hitem)
    rw [Option.getD_some, renamedStore_aliases hrow]
    by_cases hsame : newAddress = address
    · simp [hsame]
    · rw [if_neg hsame, if_pos rfl]
      exact ⟨fun _ => hsame, fun _ => ⟨_, rfl, framed_renamedAlias body row hbody now parts⟩⟩
  | none =>
    rw [hbody] at h
    obtain ⟨parts, hparts, rfl⟩ := h
    have hkey := KeyedTable.key_of_get hrow
    have hnew : (s.aliases.put (savedRow (upsertedAlias accountId address (some row) body now)
        parts)).get (accountId, address) =
          some (savedRow (upsertedAlias accountId address (some row) body now) parts) :=
      KeyedTable.get_put_self _ _
    rw [hrow, ← framed_upserted_iff hbody hkey hparts now]
    constructor
    · rintro ⟨new, hget, hframed⟩
      obtain rfl := Option.some.inj (hnew.symm.trans hget)
      exact hframed
    · exact fun hframed => ⟨_, hnew, hframed⟩

/-- **Changes of an alias.** A change that succeeds has kept every attribute that its body does not
name just when it moves the row to another address, or the row has nothing that rebuilding it from
the address loses: no link to an external exchange, and the address as its id. -/
theorem patchAlias_framed_iff (accountId param : String) (body : UpdateAliasRequest)
    (now : String) (s : Store) (fs : Faults Fate) (row : Alias) (answer : ApiAlias)
    (hrow : s.aliases.get (accountId, addressParam param) = some row)
    (hok : ((patchAlias accountId param body now).run accounts fs s).result = some (.ok answer)) :
    (∃ new, ((patchAlias accountId param body now).run accounts fs s).store.aliases.get
        (accountId, body.target (addressParam param)) = some new ∧ Framed body row new) ↔
      FrameSafe body row (addressParam param) :=
  framed_patched_iff hrow ((patchAlias_leads accountId param body now s).run trivial fs
    (fun _ _ => trivial) answer hok)

/-! ### A new name for an alias of an external exchange -/

def exchangeAlias : Alias :=
  ⟨"shop@a.com", "acc", "shop@a.com", "a.com", "shop", .allowAll, none, none, some "emx-1", "c", "u"⟩

def exchangeStore : Store where
  aliases := KeyedTable.empty.put exchangeAlias
  senders := .empty
  domains := .empty

def nameBody : UpdateAliasRequest := ⟨none, some "Shop", none, none, by simp⟩

def renameExchange : Outcome Store AccountsTable.Cmd Fate (Except ApiError ApiAlias) :=
  (patchAlias "acc" "shop@a.com" nameBody "n").run accounts [] exchangeStore

theorem exchangeStore_row :
    exchangeStore.aliases.get ("acc", addressParam "shop@a.com") = some exchangeAlias := by
  decide +kernel

theorem renameExchange_ok : renameExchange.result =
    some (.ok ⟨"shop@a.com", some "Shop", .allowAll, "c", "n"⟩) := by
  decide +kernel

/-- The alias is no longer linked to its exchange. -/
theorem renameExchange_unlinks : renameExchange.result.isSome ∧
    ¬ ∃ new, renameExchange.store.aliases.get
        ("acc", nameBody.target (addressParam "shop@a.com")) = some new ∧
      Framed nameBody exchangeAlias new := by
  refine ⟨by rw [renameExchange_ok]; rfl, ?_⟩
  intro ⟨new, hnew, hframed⟩
  have hrow : renameExchange.store.aliases.get
      ("acc", nameBody.target (addressParam "shop@a.com")) =
        some { exchangeAlias with name := some "Shop", emxId := none, updatedAt := "n" } := by
    decide +kernel
  obtain rfl := Option.some.inj (hrow.symm.trans hnew)
  exact absurd hframed.emxId (by simp [exchangeAlias])

theorem renameExchange_framed_iff :
    (∃ new, renameExchange.store.aliases.get
        ("acc", nameBody.target (addressParam "shop@a.com")) = some new ∧
      Framed nameBody exchangeAlias new) ↔
      FrameSafe nameBody exchangeAlias (addressParam "shop@a.com") :=
  patchAlias_framed_iff "acc" "shop@a.com" nameBody "n" exchangeStore [] exchangeAlias _
    exchangeStore_row renameExchange_ok

end SesEmailAdapter.Api.AliasesApi
