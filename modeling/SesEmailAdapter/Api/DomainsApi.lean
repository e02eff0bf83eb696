import SesEmailAdapter.Api.ThreadsApi
import SesEmailAdapter.Database.DomainOwners
import SesEmailAdapter.Lib.Pool

/-! # The domains API

The requests that register and delete the domains of an account. A registration is refused where
another account owns the domain; the check and the write are apart, and other requests come in
between. -/

namespace SesEmailAdapter.Api.DomainsApi
open Lib
open SesEmailAdapter.Types Database Database.Shared
open Database.AccountsTable Database.AccountDatabase
open Database.DomainOwners
open Email.Address
open Api.ThreadsApi (ApiError internalError)

structure ApiDomain where
  domainId : String
  domain : String
  receivingSetupComplete : Bool
  senderSetupComplete : Bool
  createdAt : String
  updatedAt : String
deriving DecidableEq, Repr

def toApiDomain (item : Domain) : ApiDomain :=
  ⟨item.domain, item.domain, item.receivingSetupComplete, item.senderSetupComplete,
    item.createdAt, item.updatedAt⟩

/-! ## The service -/

inductive Cmd
  | accounts (c : AccountsTable.Cmd)
  /-- Of the domain with SES; a domain that has its identity already is no error. -/
  | register (domain accountId : String)
deriving DecidableEq, Repr

@[reducible] def Cmd.Answer : Cmd → Type
  | .accounts c => c.Answer
  | .register .. => Except DbError Unit

def settle : (c : Cmd) → Store → Fate → c.Answer × Store
  | .accounts c, s, fate => AccountsTable.settle c s fate
  | .register .., s, fate =>
    (if fate = .done then .ok () else .error SignalsTable.requestFailed, s)

def service : Service Cmd Cmd.Answer Store Fate := ⟨settle, .done⟩

abbrev DomainsProg (α : Type) := Prog Cmd Cmd.Answer α

def onAccounts {α : Type} (p : DbProg α) : DomainsProg α := p.embed .accounts fun _ r => r

/-! ## The requests -/

def createDomainRow (accountId domain now : String) :
    DomainsProg (Except ApiError (Option ApiDomain)) := do
  let domainResult ← onAccounts (createDomain accountId domain now)
  return (domainResult.mapError fun _ => internalError).map fun item => some (toApiDomain item)

/-- The domain exists for its readers once its row is written, the last of all. -/
def registerDomain (accountId domain now : String) :
    DomainsProg (Except ApiError (Option ApiDomain)) := do
  let sesResult : Except DbError Unit ← Prog.perform (Cmd.register domain accountId)
  match sesResult with
  | .error _ => return .error internalError
  | .ok () => createDomainRow accountId domain now

def createDomainRequest (mailDomain accountId domain now : String) :
    DomainsProg (Except ApiError (Option ApiDomain)) := do
  let ownerResult ← onAccounts (resolveAccountForDomain mailDomain domain)
  match ownerResult with
  | .error _ => return .error internalError
  | .ok owner => match (owner.filter (· ≠ "")).filter (· ≠ accountId) with
    | some _ =>
      return .error ⟨409, "Domain already registered by another account", some "DOMAIN_EXISTS"⟩
    | none => registerDomain accountId domain now

/-- The domain in the path of a request. -/
def domainParam (param : String) : String := String.ofList (toLowerCase param.toList)

def deleteAliases (accountId : String) : List Alias → DbProg (Except ApiError Unit)
  | [] => return .ok ()
  | item :: items => do
    let aliasDeleteResult ← deleteAlias accountId item.aliasAddress
    match aliasDeleteResult with
    | .error _ => return .error internalError
    | .ok () => deleteAliases accountId items

/-- Deletes every alias of the domain before the domain. -/
def cascadeDelete (accountId domain now : String) : DbProg (Except ApiError Unit) := do
  let aliasesResult : Except DbError (List Alias) ←
    request (.queryAliasesOfDomain accountId domain)
  match aliasesResult with
  | .error _ => return .error internalError
  | .ok items => do
    let deleted ← deleteAliases accountId items
    match deleted with
    | .error error => return .error error
    | .ok () => do
      let deleteResult ← deleteDomain accountId domain now
      return deleteResult.mapError fun _ => internalError

def deleteDomainRequest (accountId param now : String) : DbProg (Except ApiError Unit) := do
  let domainResult ← getDomain accountId (domainParam param)
  match domainResult with
  | .error _ => return .error internalError
  | .ok none => return .error ⟨404, "Domain not found", some "DOMAIN_NOT_FOUND"⟩
  | .ok (some item) => cascadeDelete accountId item.domain now

/-! ## Runs -/

abbrev Response := Except ApiError (Option ApiDomain)

/-- The requests of any accounts, which read their clocks when they start. -/
inductive Starts (mailDomain : String) : DomainsProg Response → Prop
  | create (accountId domain now : String) :
    Starts mailDomain (createDomainRequest mailDomain accountId domain now)
  | delete (accountId param now : String) :
    Starts mailDomain (Except.map (fun _ => none) <$>
      onAccounts (deleteDomainRequest accountId param now))

/-- The runs need no history. -/
def monitor : Monitor Cmd Cmd.Answer Fate Unit where
  allow _ _ := True
  next _ _ _ _ := ()

/-- Every order of the calls of every requests, any of which may fail or crash. -/
def anyOrder (mailDomain : String) : Rules Cmd Cmd.Answer Response Store Fate Unit where
  spawn prog _ _ _ := Starts mailDomain prog
  step _ _ _ _ _ _ := True
  crash _ _ _ _ := True

end SesEmailAdapter.Api.DomainsApi
