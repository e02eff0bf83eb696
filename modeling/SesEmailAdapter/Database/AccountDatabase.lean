import SesEmailAdapter.Database.AccountsTable

/-! # AccountDatabase

The methods over the accounts table, as programs of its requests. The mail domain of the platform
has a built-in owner, the SYSTEM account, which is not in the table. -/

namespace SesEmailAdapter.Database.AccountDatabase
open SesEmailAdapter.Types Database.Shared Database.AccountsTable
open Database.SignalsTable (WriteError)
open Email.Address

/-! ## The SYSTEM account -/

def SYSTEM_ACCOUNT_ID : String := "SYSTEM"

def isSystemAccount (accountId : String) : Bool := accountId = SYSTEM_ACCOUNT_ID

def systemDomain (domain : String) : Domain where
  accountId := SYSTEM_ACCOUNT_ID
  domain := domain
  status := .active
  receivingSetupComplete := true
  senderSetupComplete := true
  createdAt := "2025-01-01T00:00:00.000Z"
  updatedAt := "2025-01-01T00:00:00.000Z"

def systemDomainOwner (mailDomain domain : String) : Option Domain :=
  if domain = mailDomain then some (systemDomain mailDomain)
  else if domain = "healthcheck." ++ mailDomain then
    some (systemDomain ("healthcheck." ++ mailDomain))
  else none

def systemAliasItem (id domain : String) : Alias where
  id := id
  accountId := SYSTEM_ACCOUNT_ID
  aliasAddress := "healthcheck@" ++ domain
  domain := domain
  aliasName := "healthcheck"
  unknownSenderPolicy := .allowAll
  name := none
  createdForOrigin := none
  emxId := none
  createdAt := "2025-01-01T00:00:00.000Z"
  updatedAt := "2025-01-01T00:00:00.000Z"

def systemAlias (mailDomain recipientAddress : String) : Option Alias :=
  if recipientAddress = "healthcheck@" ++ mailDomain then
    some (systemAliasItem "system-healthcheck" mailDomain)
  else if recipientAddress = "healthcheck@healthcheck." ++ mailDomain then
    some (systemAliasItem "system-healthcheck-subdomain" ("healthcheck." ++ mailDomain))
  else none

/-! ## Aliases -/

structure AddressParts where
  domain : String
  aliasName : String
deriving DecidableEq, Repr

/-- Splits at the last `@`; an address with nothing before it throws. -/
def parseAddress (address : String) : Option AddressParts :=
  let domain := afterLastAt address.toList
  let aliasName := address.toList.take (address.toList.length - domain.length - 1)
  if aliasName = [] then none else some ⟨String.ofList domain, String.ofList aliasName⟩

def invalidAddress (address : String) : DbError := ⟨"Invalid email address: " ++ address⟩

/-- The throw of `parseAddress`, caught as a failure by every caller. -/
def withAddress {α : Type} (address : String) (f : AddressParts → DbProg (Except DbError α)) :
    DbProg (Except DbError α) :=
  match parseAddress address with
  | none => return .error (invalidAddress address)
  | some parts => f parts

theorem only_withAddress {α : Type} {P : Cmd → Prop} {address : String}
    {f : AddressParts → DbProg (Except DbError α)} (hf : ∀ parts, (f parts).Only P) :
    (withAddress address f).Only P := by
  unfold withAddress
  split
  · trivial
  · exact hf _

def getAlias (accountId aliasAddress : String) : DbProg (Except DbError (Option Alias)) :=
  withAddress aliasAddress fun _ => request (.getAlias accountId aliasAddress)

def getAliasByGlobalAddress (mailDomain recipientAddress : String) :
    DbProg (Except DbError (Option Alias)) :=
  match systemAlias mailDomain recipientAddress with
  | some item => return .ok (some item)
  | none => withAddress recipientAddress fun _ => do
    let res : Except DbError (List Alias) ← request (.queryAliases recipientAddress)
    return res.map List.head?

def saveAlias (item : Alias) : DbProg (Except DbError Alias) :=
  withAddress item.aliasAddress fun parts => do
    let res : Except DbError Unit ←
      request (.putAlias { item with domain := parts.domain, aliasName := parts.aliasName })
    return res.map fun _ => item

/-- A missing alias is no error. -/
def updateAlias (accountId aliasAddress : String) (emxId : Option String) (now : String) :
    DbProg (Except DbError (Option Alias)) :=
  withAddress aliasAddress fun _ => do
    let res : Except WriteError (Option Alias) ←
      request (.setAliasExchange accountId aliasAddress emxId now)
    match res with
    | .ok item => return .ok item
    | .error .conditionFailed => return .ok none
    | .error (.db error) => return .error error

structure EnsuredAlias where
  item : Alias
  created : Bool
deriving DecidableEq, Repr

/-- `split("@")[i]!` of an address. -/
def newAlias (accountId aliasAddress : String) (policy : UnknownSenderPolicy)
    (emxId : Option String) (now : String) : Alias where
  id := aliasAddress
  accountId := accountId
  aliasAddress := aliasAddress
  domain := String.ofList (afterFirstAt aliasAddress.toList)
  aliasName := String.ofList (aliasAddress.toList.takeWhile (· ≠ '@'))
  unknownSenderPolicy := policy
  name := none
  createdForOrigin := none
  emxId := emxId
  createdAt := now
  updatedAt := now

def createAliasItem (accountId aliasAddress : String) (policy : UnknownSenderPolicy)
    (emxId : Option String) (now : String) : DbProg (Except DbError EnsuredAlias) := do
  let saveResult ← saveAlias (newAlias accountId aliasAddress policy emxId now)
  return saveResult.map fun item => ⟨item, true⟩

/-- Brings the exchange of an alias that exists in step. -/
def reconcileAlias (item : Alias) (accountId aliasAddress : String) (emxId : Option String)
    (now : String) : DbProg (Except DbError EnsuredAlias) :=
  match emxId with
  | none => return .ok ⟨item, false⟩
  | some emxId =>
    if item.emxId = some emxId then return .ok ⟨item, false⟩
    else do
      let updateResult ← updateAlias accountId aliasAddress (some emxId) now
      match updateResult with
      | .error error => return .error error
      | .ok (some updated) => return .ok ⟨updated, false⟩
      | .ok none => return .ok ⟨item, false⟩

/-- `existing` is `none` when the caller has not looked the alias up. -/
def ensureAlias (accountId aliasAddress : String) (policy : UnknownSenderPolicy)
    (existing : Option (Option Alias)) (emxId : Option String) (now : String) :
    DbProg (Except DbError EnsuredAlias) :=
  match existing with
  | some (some item) => reconcileAlias item accountId aliasAddress emxId now
  | some none => createAliasItem accountId aliasAddress policy emxId now
  | none => do
    let existingResult ← getAlias accountId aliasAddress
    match existingResult with
    | .error error => return .error error
    | .ok (some item) => reconcileAlias item accountId aliasAddress emxId now
    | .ok none => createAliasItem accountId aliasAddress policy emxId now

def batchDeleteSenders (accountId : String) (senders : List AliasSender) :
    DbProg (Except DbError Unit) :=
  if senders = [] then return .ok () else request (.deleteSenders accountId senders)

def deleteAlias (accountId aliasAddress : String) : DbProg (Except DbError Unit) :=
  withAddress aliasAddress fun _ => do
    let sendersResult : Except DbError (List AliasSender) ←
      request (.querySenders accountId aliasAddress)
    match sendersResult with
    | .error error => return .error error
    | .ok senders => do
      let batchDeleteResult ← batchDeleteSenders accountId senders
      match batchDeleteResult with
      | .error error => return .error error
      | .ok () => request (.deleteAliasItem accountId aliasAddress)

/-! ## Senders -/

def saveSender (accountId aliasAddress senderDomain : String) (policy : SenderPolicy)
    (now : String) : DbProg (Except DbError Unit) :=
  withAddress aliasAddress fun _ =>
    request (.putSender ⟨accountId, aliasAddress, senderDomain, policy, now⟩)

def getSender (accountId aliasAddress senderDomain : String) :
    DbProg (Except DbError (Option AliasSender)) :=
  if isSystemAccount accountId then return .ok none
  else withAddress aliasAddress fun _ => request (.getSender accountId aliasAddress senderDomain)

/-- Copies the senders to a renamed alias; each is allowed there. -/
def copySenders (accountId newAddress now : String) :
    List AliasSender → DbProg (Except DbError Unit)
  | [] => return .ok ()
  | s :: senders => do
    let saveSenderResult ← saveSender accountId newAddress s.senderDomain .allow now
    match saveSenderResult with
    | .error error => return .error error
    | .ok () => copySenders accountId newAddress now senders

inductive RenameError
  | db (error : DbError)
  | notFound
deriving DecidableEq, Repr

/-- Saves the alias under its new address before the old row is deleted. -/
def renameAlias (accountId oldAddress newAddress now : String) :
    DbProg (Except RenameError Alias) := do
  let oldResult ← getAlias accountId oldAddress
  match oldResult with
  | .error error => return .error (.db error)
  | .ok none => return .error .notFound
  | .ok (some old) => do
    let sendersResult : Except DbError (List AliasSender) ←
      request (.querySenders accountId oldAddress)
    match sendersResult with
    | .error error => return .error (.db error)
    | .ok senders => match parseAddress newAddress with
      | none => return .error (.db (invalidAddress newAddress))
      | some parts => do
        let renamed : Alias := { old with
          aliasAddress := newAddress
          domain := parts.domain
          aliasName := parts.aliasName
          updatedAt := now }
        let saveResult ← saveAlias renamed
        match saveResult with
        | .error error => return .error (.db error)
        | .ok _ => do
          let copyResult ← copySenders accountId newAddress now senders
          match copyResult with
          | .error error => return .error (.db error)
          | .ok () => do
            let deleteResult ← deleteAlias accountId oldAddress
            return (deleteResult.mapError .db).map fun _ => renamed

/-! ## Domains -/

/-- A deleted domain reads as none. -/
def getDomain (accountId domain : String) : DbProg (Except DbError (Option Domain)) := do
  let res : Except DbError (Option Domain) ← request (.getDomain accountId domain)
  return res.map fun item => item.filter fun item => item.status ≠ .deleted

/-- The oldest registration of a domain, whatever its status. -/
def oldestRegistration (items : List Domain) : Option Domain :=
  (items.mergeSort fun a b => decide (a.createdAt ≤ b.createdAt)).head?

def getDomainOwner (mailDomain domain : String) : DbProg (Except DbError (Option Domain)) :=
  match systemDomainOwner mailDomain domain with
  | some owner => return .ok (some owner)
  | none => do
    let res : Except DbError (List Domain) ← request (.queryDomains domain)
    return res.map oldestRegistration

/-- A deleted registration keeps the domain for its account. -/
def resolveAccountForDomain (mailDomain domain : String) :
    DbProg (Except DbError (Option String)) := do
  let ownerResult ← getDomainOwner mailDomain domain
  return ownerResult.map fun owner => owner.map Domain.accountId

def newDomain (accountId domain now : String) : Domain where
  accountId := accountId
  domain := domain
  status := .active
  receivingSetupComplete := false
  senderSetupComplete := false
  createdAt := now
  updatedAt := now

/-- A fresh registration, or the account's own deleted one revived. -/
def createDomain (accountId domain now : String) : DbProg (Except DbError Domain) := do
  let put : Except WriteError Unit ← request (.putNewDomain (newDomain accountId domain now))
  match put with
  | .ok () => return .ok (newDomain accountId domain now)
  | .error (.db error) => return .error error
  | .error .conditionFailed => do
    let existing ← getDomain accountId domain
    match existing with
    | .error error => return .error error
    | .ok (some item) => return .ok item
    | .ok none => return .error ⟨"conditional check failed"⟩

def deleteDomain (accountId domain now : String) : DbProg (Except DbError Unit) :=
  request (.setDomainDeleted accountId domain now)

def updateDomainSetup (accountId domain now : String) (setup : DomainSetup) :
    DbProg (Except DbError Unit) :=
  request (.setDomainSetup accountId domain now setup)

end SesEmailAdapter.Database.AccountDatabase
