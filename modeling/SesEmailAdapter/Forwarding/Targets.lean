import SesEmailAdapter.Api.ThreadsApi
import SesEmailAdapter.Database.AccountDatabase
import SesEmailAdapter.Email.SendPaths
import SesEmailAdapter.Processor.RuleOutcome

/-! # Forwarding targets

The forwarding targets of accounts, the defaults of an account that refer to them, and the
requests that create, verify and delete targets and set the defaults. -/

namespace SesEmailAdapter.Forwarding.Targets
open Lib
open Database Database.Shared
open Api.ThreadsApi (ApiError internalError)
open Database.AccountDatabase (SYSTEM_ACCOUNT_ID isSystemAccount)
open Email.SendPaths
open Processor.RuleOutcome (Rule)

/-! ## Rows -/

inductive DigestFrequency
  | daily | weekly | monthly
deriving DecidableEq, Repr

structure DigestConfig where
  frequency : DigestFrequency
  forwardingTargetId : String
deriving DecidableEq, Repr

/-- An account as the sending paths and the forwarding requests read it. -/
structure AccountMeta where
  id : String
  createdAt : String
  digest : Option DigestConfig
  defaultCalendarInviteForwardingTargetId : Option String
  /-- `onboarding.testEmailReceived` -/
  testEmailReceived : Option Bool
deriving DecidableEq, Repr

/-- A target, whose id is its address or URL. -/
structure StoredTarget extends ForwardingTarget where
  accountId : String
  token : String
deriving DecidableEq, Repr

def targetKey (target : StoredTarget) : String × String := (target.accountId, target.target)

structure Store where
  accounts : KeyedTable AccountMeta.id
  targets : KeyedTable targetKey
  rules : List Rule

/-! ## Requests to the table -/

/-- `none` leaves an attribute, `some none` removes it. -/
structure AccountUpdate where
  digest : Option (Option DigestConfig)
  defaultCalendarInviteForwardingTargetId : Option (Option String)
  testEmailReceived : Option Bool
deriving DecidableEq, Repr

inductive Cmd
  | createAccount (account : AccountMeta)
  | getAccount (accountId : String)
  | updateAccount (accountId : String) (update : AccountUpdate)
  | getForwardingTarget (accountId target : String)
  | saveForwardingTarget (target : StoredTarget)
  | deleteForwardingTarget (accountId target : String)
  | listRules (accountId : String)
deriving DecidableEq, Repr

@[reducible] def Cmd.Answer : Cmd → Type
  | .createAccount _ => Except DbError Unit
  | .getAccount _ => Except DbError (Option AccountMeta)
  | .updateAccount .. => Except DbError Unit
  | .getForwardingTarget .. => Except DbError (Option StoredTarget)
  | .saveForwardingTarget _ => Except DbError Unit
  | .deleteForwardingTarget .. => Except DbError Unit
  | .listRules _ => Except DbError (List Rule)

def AccountUpdate.apply (update : AccountUpdate) (account : AccountMeta) : AccountMeta :=
  { account with
    digest := update.digest.getD account.digest
    defaultCalendarInviteForwardingTargetId :=
      update.defaultCalendarInviteForwardingTargetId.getD
        account.defaultCalendarInviteForwardingTargetId
    testEmailReceived := update.testEmailReceived <|> account.testEmailReceived }

/-- An update of an account that is missing makes a row of just what it sets. -/
def bareAccount (accountId : String) : AccountMeta := ⟨accountId, "", none, none, none⟩

def systemAccount : AccountMeta :=
  ⟨SYSTEM_ACCOUNT_ID, "2025-01-01T00:00:00.000Z", none, none, some true⟩

/-- The system account is no row of the table. -/
def Store.account (s : Store) (accountId : String) : Option AccountMeta :=
  if isSystemAccount accountId then some systemAccount else s.accounts.get accountId

def exec : (c : Cmd) → Store → c.Answer × Store
  | .createAccount account, s => match s.accounts.get account.id with
    | some _ => (.error SignalsTable.requestFailed, s)
    | none => (.ok (), { s with accounts := s.accounts.put account })
  | .getAccount accountId, s => (.ok (s.account accountId), s)
  | .updateAccount accountId update, s =>
    let stored := (s.accounts.get accountId).getD (bareAccount accountId)
    (.ok (), { s with accounts := s.accounts.put (update.apply stored) })
  | .getForwardingTarget accountId target, s => (.ok (s.targets.get (accountId, target)), s)
  | .saveForwardingTarget target, s => (.ok (), { s with targets := s.targets.put target })
  | .deleteForwardingTarget accountId target, s =>
    (.ok (), { s with targets := s.targets.erase (accountId, target) })
  | .listRules accountId, s => (.ok (s.rules.filter fun rule => rule.accountId = accountId), s)

def failure : (c : Cmd) → c.Answer
  | .createAccount _ => .error SignalsTable.requestFailed
  | .getAccount _ => .error SignalsTable.requestFailed
  | .updateAccount .. => .error SignalsTable.requestFailed
  | .getForwardingTarget .. => .error SignalsTable.requestFailed
  | .saveForwardingTarget _ => .error SignalsTable.requestFailed
  | .deleteForwardingTarget .. => .error SignalsTable.requestFailed
  | .listRules _ => .error SignalsTable.requestFailed

def service : Service Cmd Cmd.Answer Store Fate := ⟨settleRequest exec failure, .done⟩

abbrev TargetProg (α : Type) := Prog Cmd Cmd.Answer α

@[simp] def request (c : Cmd) : TargetProg c.Answer := Prog.perform c

/-! ## The targets API -/

/-- The body of a request that passed its schema: the target of a webhook is a URL. -/
structure CreateForwardingTargetRequest where
  target : String
  type : ForwardingTargetType
  isUrl : type = .webhook → ':' ∈ target.toList

/-- A verified target stays as it is. A webhook is verified by the request that tests it, and an
email target by the token that is sent to it; `verification` is the outcome of that send. -/
def createForwardingTarget (accountId : String) (body : CreateForwardingTargetRequest)
    (token : String) (verification : Except String Unit) :
    TargetProg (Except ApiError StoredTarget) := do
  let existingResult : Except DbError (Option StoredTarget) ←
    request (.getForwardingTarget accountId body.target)
  match existingResult with
  | .error _ => return .error internalError
  | .ok existing => match existing.filter (·.status = .verified) with
    | some existing => return .ok existing
    | none => match verification with
      | .error _ =>
        return .error ⟨422, "Target verification failed", some "VERIFICATION_FAILED"⟩
      | .ok () => do
        let status : ForwardingTargetStatus :=
          if body.type = .webhook then .verified else .pending
        let addr : StoredTarget := ⟨⟨body.target, body.type, status⟩, accountId, token⟩
        let saveResult : Except DbError Unit ← request (.saveForwardingTarget addr)
        match saveResult with
        | .error _ => return .error internalError
        | .ok () => return .ok addr

/-- The address in the path, which is lower-cased. -/
def pathAddress (address : String) : String :=
  String.ofList (Email.Address.toLowerCase address.toList)

def verifyTargetAt (accountId address token : String) :
    TargetProg (Except ApiError StoredTarget) := do
  let existingResult : Except DbError (Option StoredTarget) ←
    request (.getForwardingTarget accountId address)
  match existingResult with
  | .error _ => return .error internalError
  | .ok none =>
    return .error ⟨404, "Forwarding target not found", some "FORWARDING_ADDRESS_NOT_FOUND"⟩
  | .ok (some existing) =>
    if existing.status = .verified then return .ok existing
    else if existing.token ≠ token then
      return .error ⟨400, "Invalid token", some "INVALID_TOKEN"⟩
    else do
      let verified := { existing with status := .verified }
      let saveResult : Except DbError Unit ← request (.saveForwardingTarget verified)
      match saveResult with
      | .error _ => return .error internalError
      | .ok () => return .ok verified

def verifyForwardingTarget (accountId address token : String) :
    TargetProg (Except ApiError StoredTarget) :=
  verifyTargetAt accountId (pathAddress address) token

/-- The rule forwards to the address. -/
def forwardsTo (address : String) (rule : Rule) : Bool :=
  rule.actions.any fun action => action.type = .forward ∧ action.value = some address

/-- Refused for a target that the digest or a rule uses. -/
def deleteTargetAt (accountId address : String) : TargetProg (Except ApiError Unit) := do
  let accountResult : Except DbError (Option AccountMeta) ← request (.getAccount accountId)
  match accountResult with
  | .error _ => return .error internalError
  | .ok account =>
    if (account.bind AccountMeta.digest).map DigestConfig.forwardingTargetId = some address then
      return .error ⟨409, "Cannot delete target — currently used for digest emails",
        some "TARGET_IN_USE"⟩
    else do
      let rulesResult : Except DbError (List Rule) ← request (.listRules accountId)
      match rulesResult with
      | .error _ => return .error internalError
      | .ok rules => match rules.find? (forwardsTo address) with
        | some rule =>
          return .error ⟨409, "Cannot delete target — referenced by rule: " ++ rule.name,
            some "TARGET_IN_USE"⟩
        | none => do
          let deleteResult : Except DbError Unit ←
            request (.deleteForwardingTarget accountId address)
          return deleteResult.mapError fun _ => internalError

def deleteForwardingTarget (accountId address : String) : TargetProg (Except ApiError Unit) :=
  deleteTargetAt accountId (pathAddress address)

/-! ## The accounts API -/

structure UpdateAccountRequest where
  digest : Option (Option DigestConfig)
  defaultCalendarInviteForwardingTargetId : Option (Option String)
deriving DecidableEq, Repr

def UpdateAccountRequest.update (body : UpdateAccountRequest) : AccountUpdate where
  digest := body.digest
  defaultCalendarInviteForwardingTargetId := body.defaultCalendarInviteForwardingTargetId
  testEmailReceived := none

/-- Asks for the target to be verified, of whatever type it is. -/
def checkTarget (accountId : String) (error : ApiError) :
    Option String → TargetProg (Except ApiError Unit)
  | none => return .ok ()
  | some target => do
    let targetResult : Except DbError (Option StoredTarget) ←
      request (.getForwardingTarget accountId target)
    match targetResult with
    | .error _ => return .error internalError
    | .ok target => match target.filter (·.status = .verified) with
      | none => return .error error
      | some _ => return .ok ()

/-- The target of the digest that the request sets. -/
def UpdateAccountRequest.digestTarget (body : UpdateAccountRequest) : Option String :=
  body.digest.join.map DigestConfig.forwardingTargetId

/-- The calendar target that the request sets; the empty text is none. -/
def UpdateAccountRequest.calendarTarget (body : UpdateAccountRequest) : Option String :=
  body.defaultCalendarInviteForwardingTargetId.join.filter (· ≠ "")

def patchAccount (accountId : String) (body : UpdateAccountRequest) :
    TargetProg (Except ApiError Unit) := do
  let digestCheck ← checkTarget accountId
    ⟨422, "Forwarding target not found or not verified", some "UNVERIFIED_FORWARD_TARGET"⟩
    body.digestTarget
  match digestCheck with
  | .error error => return .error error
  | .ok () => do
    let calendarCheck ← checkTarget accountId
      ⟨422, "Calendar forwarding address must be a verified forwarding address",
        some "UNVERIFIED_CALENDAR_TARGET"⟩ body.calendarTarget
    match calendarCheck with
    | .error error => return .error error
    | .ok () => do
      let updateResult : Except DbError Unit ← request (.updateAccount accountId body.update)
      return updateResult.mapError fun _ => internalError

/-- One-click unsubscribe turns the digest off. -/
def unsubscribeDigest (accountId : String) : TargetProg (Except DbError Unit) :=
  request (.updateAccount accountId ⟨some none, none, none⟩)

/-! ## Onboarding -/

def setAccountForwardingDefaults (accountId forwardingTargetId : String) : TargetProg Unit := do
  let accountResult : Except DbError (Option AccountMeta) ← request (.getAccount accountId)
  match accountResult with
  | .ok (some account) =>
    let update : AccountUpdate := {
      digest := if account.digest.isNone then some (some ⟨.monthly, forwardingTargetId⟩) else none
      defaultCalendarInviteForwardingTargetId :=
        if account.defaultCalendarInviteForwardingTargetId.getD "" = "" then
          some (some forwardingTargetId)
        else none
      testEmailReceived := none }
    if update.digest.isNone ∧ update.defaultCalendarInviteForwardingTargetId.isNone then return ()
    else do
      let _ ← request (.updateAccount accountId update)
      return ()
  | _ => return ()

/-- The email of a user's identity, which is no URL. -/
structure OwnerEmail where
  address : String
  plain : ':' ∉ address.toList

/-- The owner's own email is a verified target from the start. -/
def ensureDefaultForwardingTarget (accountId : String) (email : OwnerEmail) (token : String) :
    TargetProg Unit := do
  let existingResult : Except DbError (Option StoredTarget) ←
    request (.getForwardingTarget accountId email.address)
  match existingResult with
  | .error _ => return ()
  | .ok existing =>
    if existing.map (·.status) = some .verified then
      setAccountForwardingDefaults accountId email.address
    else do
      let saveResult : Except DbError Unit ←
        request (.saveForwardingTarget ⟨⟨email.address, .email, .verified⟩, accountId, token⟩)
      match saveResult with
      | .error _ => return ()
      | .ok () => setAccountForwardingDefaults accountId email.address

end SesEmailAdapter.Forwarding.Targets
