import SesEmailAdapter.Api.ThreadsApi
import SesEmailAdapter.Exchanges.ExchangeService
import SesEmailAdapter.Resource.ResourceDatabase

/-! # ExternalExchangesApi

The requests that connect a mailbox, change how it is reached, and disconnect it. Only the branch
for linked identities looks for an exchange that the mailbox has already. -/

namespace SesEmailAdapter.Api.ExternalExchangesApi
open SesEmailAdapter.Types Database.Shared
open Database.ExchangesDatabase hiding Cmd settle
open Database.AccountDatabase (getAliasByGlobalAddress ensureAlias updateAlias)
open Exchanges.ExchangeService
open Resource.ResourceDatabase (truthy)
open Api.ThreadsApi (ApiError internalError)

/-! ## Requests -/

structure ImapCredentials where
  host : String
  tlsConfig : TlsConfig
  username : String
  password : String
deriving DecidableEq, Repr

structure JmapCredentials where
  sessionUrl : String
  username : String
  password : String
deriving DecidableEq, Repr

inductive CreateExternalExchangeRequest
  | imap (imapConfig : ImapCredentials)
  | jmap (jmapConfig : JmapCredentials)
  | oauth (platform : EmxPlatform) (connectionId : Option String)
deriving DecidableEq, Repr

structure ImapPatch where
  host : Option String
  tlsConfig : Option TlsConfig
  username : Option String
  password : Option String
deriving DecidableEq, Repr

structure JmapPatch where
  sessionUrl : Option String
  username : Option String
  password : Option String
deriving DecidableEq, Repr

inductive PatchExchangeRequest
  | jmap (jmapConfig : JmapPatch)
  | imap (imapConfig : ImapPatch)
deriving DecidableEq, Repr

def DEFAULT_CONNECTION_IDS : EmxPlatform → Option String
  | .gmail => some "google"
  | .outlook => some "microsoft"
  | _ => none

def conflict : ApiError := ⟨409, "Email address is already registered to another account", none⟩

def notFound : ApiError := ⟨404, "Exchange not found", none⟩

def unsupported : ApiError := ⟨422, "Unsupported platform", none⟩

def unauthorized : ApiError := ⟨401, "Unauthorized", none⟩

def identityUnverified : ApiError :=
  ⟨503, "Could not verify the linked identity with the identity provider", none⟩

def identityMissing : ApiError :=
  ⟨422, "No linked identity found for this connection. Link the identity before connecting a " ++
    "mailbox.", none⟩

def notActivated : ApiError :=
  ⟨422, "Could not activate this mailbox. Reconnect the identity and try again.", none⟩

/-! ## Connecting a mailbox -/

def triggerDispatch (accountId emxId : String) (includeOverlap : Option Bool) :
    ExchangeProg Unit := do
  let _ ← sendDispatch ⟨emxId, accountId, includeOverlap⟩
  return ()

/-- The alias of the address, where the check could be made. -/
def checked (aliasCheck : Except DbError (Option Alias)) : Option (Option Alias) :=
  match aliasCheck with
  | .ok item => some item
  | .error _ => none

/-- Another account owns the address; a check that fails tells nothing. -/
def ownedElsewhere (aliasCheck : Except DbError (Option Alias)) (accountId : String) : Bool :=
  match aliasCheck with
  | .ok (some item) => item.accountId ≠ accountId
  | _ => false

/-- The exchange that activation is tried with. -/
def tempEmx (accountId : String) (platform : EmxPlatform) (emailAddress : String)
    (fields : ExchangeFields) : ExchangeRow where
  accountId := accountId
  id := ""
  record := some ⟨platform, emailAddress, ""⟩
  status := .active
  nextSyncTime := ""
  fields := fields
  updatedAt := ""
  gsi1pk := ""
  gsi1sk := ""

/-- The alias of a connected mailbox, and a first sync. An error of the alias is only logged. -/
def linkAlias (accountId emailAddress : String) (existing : Option (Option Alias))
    (emxId : String) (includeOverlap : Option Bool) : ExchangeProg Unit := do
  let now : String ← ask (.now 0)
  let _ ← accounts (ensureAlias accountId emailAddress .allowAll existing (some emxId) now)
  triggerDispatch accountId emxId includeOverlap

/-- An exchange of credentials whose activation has failed is stored as such. -/
def createInactive (accountId : String) (platform : EmxPlatform) (username : String)
    (fields : ExchangeFields) : ExchangeProg (Except ApiError ExchangeRow) := do
  let lastSyncAt : String ← ask (.now 0)
  let nextSyncTime : String ← ask (.now 0)
  let result ← createExternalExchange accountId platform username .activationFailed nextSyncTime
    { fields with lastSyncAt := some lastSyncAt }
  return result.mapError fun _ => internalError

def createActive (accountId : String) (platform : EmxPlatform) (emailAddress expiresAt : String)
    (fields : ExchangeFields) (aliasCheck : Except DbError (Option Alias)) :
    ExchangeProg (Except ApiError ExchangeRow) := do
  let lastSyncAt : String ← ask (.now 0)
  let result ← createExternalExchange accountId platform emailAddress .active expiresAt
    { fields with lastSyncAt := some lastSyncAt }
  match result with
  | .error _ => return .error internalError
  | .ok row => do
    linkAlias accountId emailAddress (checked aliasCheck) row.id none
    return .ok row

def imapFields (imapConfig : ImapCredentials) (encryptedPassword : String) : ExchangeFields :=
  { noFields with
    imapConfig := some ⟨imapConfig.host, imapConfig.tlsConfig, imapConfig.username,
      encryptedPassword⟩ }

def createImap (env : Env) (accountId : String) (imapConfig : ImapCredentials) :
    ExchangeProg (Except ApiError ExchangeRow) := do
  let aliasCheck ← accounts (getAliasByGlobalAddress env.mailDomain imapConfig.username)
  if ownedElsewhere aliasCheck accountId then return .error conflict
  else do
    let encryptResult : Except String String ← ask (.encrypt imapConfig.password)
    match encryptResult with
    | .error _ => return .error internalError
    | .ok encryptedPassword => do
      let activateResult : Except String ActivationResult ← ask (.activate .imap
        (tempEmx accountId .imap imapConfig.username (imapFields imapConfig imapConfig.password))
        none)
      match activateResult with
      | .error errorReason =>
        createInactive accountId .imap imapConfig.username
          { imapFields imapConfig encryptedPassword with errorReason := some errorReason }
      | .ok activation =>
        createActive accountId .imap imapConfig.username activation.expiresAt
          { imapFields imapConfig encryptedPassword with
            syncCursor := activation.syncCursor, syncState := activation.syncState } aliasCheck

def jmapFields (jmapConfig : JmapCredentials) (encryptedPassword : String)
    (session : Option JmapConfig) : ExchangeFields :=
  { noFields with
    jmapConfig := some {
      sessionUrl := jmapConfig.sessionUrl
      username := jmapConfig.username
      encryptedPassword := encryptedPassword
      apiUrl := (session.map JmapConfig.apiUrl).getD ""
      downloadUrl := (session.map JmapConfig.downloadUrl).getD ""
      jmapAccountId := (session.map JmapConfig.jmapAccountId).getD ""
      inboxId := (session.map JmapConfig.inboxId).getD "" } }

def createJmap (env : Env) (accountId : String) (jmapConfig : JmapCredentials) :
    ExchangeProg (Except ApiError ExchangeRow) := do
  let aliasCheck ← accounts (getAliasByGlobalAddress env.mailDomain jmapConfig.username)
  if ownedElsewhere aliasCheck accountId then return .error conflict
  else do
    let encryptResult : Except String String ← ask (.encrypt jmapConfig.password)
    match encryptResult with
    | .error _ => return .error internalError
    | .ok encryptedPassword => do
      let activateResult : Except String ActivationResult ← ask (.activate .jmap
        (tempEmx accountId .jmap jmapConfig.username
          (jmapFields jmapConfig jmapConfig.password none)) none)
      match activateResult with
      | .error errorReason =>
        createInactive accountId .jmap jmapConfig.username
          { jmapFields jmapConfig encryptedPassword none with
            errorReason := some errorReason, syncCursor := some "" }
      | .ok activation =>
        createActive accountId .jmap jmapConfig.username activation.expiresAt
          { jmapFields jmapConfig encryptedPassword activation.jmapConfig with
            syncCursor := activation.syncCursor } aliasCheck

/-- What a linked identity brings to its exchange. -/
def oauthFields (identity : ActivationIdentity) (activation : ActivationResult) : ExchangeFields :=
  { noFields with
    syncCursor := activation.syncCursor
    expiresAt := some activation.expiresAt
    providerSubscriptionId := some activation.providerSubscriptionId
    userId := some identity.userId
    connectionUserId := some identity.connectionUserId
    connectionId := some identity.connectionId }

/-- The exchange of a mailbox that is connected again. -/
def relink (accountId emailAddress : String) (identity : ActivationIdentity)
    (activation : ActivationResult) (aliasCheck : Except DbError (Option Alias)) (emxId : String) :
    ExchangeProg (Except ApiError ExchangeRow) := do
  let updateResult ← updateExternalExchange accountId emxId .active activation.expiresAt
    { oauthFields identity activation with consecutiveFailures := some 0 } [.errorReason]
  match updateResult with
  | .error _ => return .error internalError
  | .ok row => do
    linkAlias accountId emailAddress (checked aliasCheck) emxId none
    return .ok row

def isOf (platform : EmxPlatform) (emailAddress : String) (row : ExchangeRow) : Bool :=
  row.platform = some platform ∧ row.emailAddress = some emailAddress

/-- The exchange of the mailbox that a list shows; a list that fails shows none. -/
def findExisting (platform : EmxPlatform) (emailAddress : String)
    (listResult : Except DbError (List ExchangeRow)) : Option ExchangeRow :=
  match listResult with
  | .ok rows => rows.find? (isOf platform emailAddress)
  | .error _ => none

def connectIdentity (env : Env) (accountId : String) (platform : EmxPlatform)
    (identity : ActivationIdentity) : ExchangeProg (Except ApiError ExchangeRow) := do
  let activateResult : Except String ActivationResult ←
    ask (.activate platform (tempEmx accountId platform "" noFields) (some identity))
  match activateResult with
  | .error _ => return .error notActivated
  | .ok activation => do
    let aliasCheck ← accounts (getAliasByGlobalAddress env.mailDomain activation.emailAddress)
    if ownedElsewhere aliasCheck accountId then return .error conflict
    else do
      let listResult ← listExternalExchanges accountId
      match findExisting platform activation.emailAddress listResult with
      | some existing =>
        relink accountId activation.emailAddress identity activation aliasCheck existing.id
      | none =>
        createActive accountId platform activation.emailAddress activation.expiresAt
          (oauthFields identity activation) aliasCheck

def createOauth (env : Env) (accountId : String) (auth : Option String) (platform : EmxPlatform)
    (connectionId : Option String) : ExchangeProg (Except ApiError ExchangeRow) :=
  match truthy (connectionId <|> DEFAULT_CONNECTION_IDS platform), truthy auth with
  | none, _ => return .error unsupported
  | some _, none => return .error unauthorized
  | some connectionId, some userId => do
    let linkedIdentityResult : Except String (Option String) ←
      ask (.getLinkedIdentity userId connectionId)
    match linkedIdentityResult with
    | .error _ => return .error identityUnverified
    | .ok none => return .error identityMissing
    | .ok (some connectionUserId) =>
      connectIdentity env accountId platform ⟨userId, connectionId, connectionUserId⟩

/-- POST of an exchange. -/
def createExchange (env : Env) (accountId : String) (auth : Option String) :
    CreateExternalExchangeRequest → ExchangeProg (Except ApiError ExchangeRow)
  | .imap imapConfig => createImap env accountId imapConfig
  | .jmap jmapConfig => createJmap env accountId jmapConfig
  | .oauth platform connectionId => createOauth env accountId auth platform connectionId

/-! ## Changing how it is reached -/

/-- The password of a request, or the stored one. -/
def passwordToTest (password : Option String) (encryptedPassword : String) :
    ExchangeProg (Except String String) :=
  match password with
  | some password => return .ok password
  | none => ask (.decrypt encryptedPassword)

def passwordToStore (password : Option String) (encryptedPassword : String) :
    ExchangeProg (Except String String) :=
  match password with
  | some password => ask (.encrypt password)
  | none => return .ok encryptedPassword

/-- The exchange that the changed connection is tried with. -/
def testExchange (emx : ExchangeRow) (tested : ExchangeFields) : ExchangeRow :=
  { emx with fields := tested.over emx.fields }

/-- The test has shown that a deactivated exchange works again. -/
def reactivate (accountId emxId : String) (emx : ExchangeRow) (expiresAt : String)
    (updated : ExchangeRow) : ExchangeProg (Except DbError ExchangeRow) :=
  if emx.status = .activationFailed then
    updateExternalExchange accountId emxId .active expiresAt
      { noFields with consecutiveFailures := some 0 } [.errorReason]
  else return .ok updated

/-- Stores a configuration that has passed its test, and where the test has found the mailbox. The
status is the one the exchange had when the request read it. -/
def storeConfig (accountId emxId : String) (emx : ExchangeRow) (config : ExchangeFields)
    (activation : ActivationResult) (includeOverlap : Option Bool) :
    ExchangeProg (Except ApiError ExchangeRow) := do
  let patchNow : String ← ask (.now 0)
  let updateResult ←
    updateExternalExchange accountId emxId emx.status emx.nextSyncTime config []
  match updateResult with
  | .error _ => return .error internalError
  | .ok updated => do
    let _ ← updateExternalExchange accountId emxId emx.status activation.expiresAt
      { noFields with
        syncCursor := activation.syncCursor
        syncState := activation.syncState
        lastSyncAt := some patchNow } []
    let now : String ← ask (.now 0)
    let _ ← accounts (ensureAlias accountId (emx.emailAddress.getD "") .allowAll none (some emxId)
      now)
    let reactivateResult ← reactivate accountId emxId emx activation.expiresAt updated
    match reactivateResult with
    | .error _ => return .error internalError
    | .ok _ => do
      triggerDispatch accountId emxId includeOverlap
      let freshResult ← getExternalExchange accountId emxId
      match freshResult with
      | .ok (some fresh) => return .ok fresh
      | _ => return .ok updated

def mergeJmap (jmapConfig : JmapPatch) (stored : JmapConfig) (password : String) : JmapConfig :=
  { stored with
    sessionUrl := jmapConfig.sessionUrl.getD stored.sessionUrl
    username := jmapConfig.username.getD stored.username
    encryptedPassword := password }

/-- A failed test answers with at most 512 characters of its cause. -/
def testFailed (cause : String) : ApiError := ⟨422, String.ofList (cause.toList.take 512), none⟩

def patchJmap (accountId emxId : String) (emx : ExchangeRow) (jmapConfig : JmapPatch) :
    ExchangeProg (Except ApiError ExchangeRow) :=
  match emx.fields.jmapConfig with
  | none => return .error notFound
  | some stored =>
    if emx.platform ≠ some .jmap then return .error notFound
    else do
      let testPassword ← passwordToTest jmapConfig.password stored.encryptedPassword
      match testPassword with
      | .error _ => return .error internalError
      | .ok testPassword => do
        let testResult : Except String ActivationResult ← ask (.activate .jmap
          (testExchange emx
            { noFields with jmapConfig := some (mergeJmap jmapConfig stored testPassword) }) none)
        match testResult with
        | .error cause => return .error (testFailed cause)
        | .ok activation => do
          let encryptedPassword ← passwordToStore jmapConfig.password stored.encryptedPassword
          match encryptedPassword with
          | .error _ => return .error internalError
          | .ok encryptedPassword =>
            let session :=
              activation.jmapConfig.getD (mergeJmap jmapConfig stored encryptedPassword)
            storeConfig accountId emxId emx
              { noFields with
                jmapConfig := some { session with encryptedPassword := encryptedPassword } }
              { activation with syncState := none } none

def mergeImap (imapConfig : ImapPatch) (stored : ImapConfig) (password : String) : ImapConfig where
  host := imapConfig.host.getD stored.host
  tlsConfig := imapConfig.tlsConfig.getD stored.tlsConfig
  username := imapConfig.username.getD stored.username
  encryptedPassword := password

def patchImap (accountId emxId : String) (emx : ExchangeRow) (imapConfig : ImapPatch) :
    ExchangeProg (Except ApiError ExchangeRow) :=
  match emx.fields.imapConfig with
  | none => return .error notFound
  | some stored =>
    if emx.platform ≠ some .imap then return .error notFound
    else do
      let testPassword ← passwordToTest imapConfig.password stored.encryptedPassword
      match testPassword with
      | .error _ => return .error internalError
      | .ok testPassword => do
        let testResult : Except String ActivationResult ← ask (.activate .imap
          (testExchange emx
            { noFields with imapConfig := some (mergeImap imapConfig stored testPassword) }) none)
        match testResult with
        | .error cause => return .error (testFailed cause)
        | .ok activation => do
          let encryptedPassword ← passwordToStore imapConfig.password stored.encryptedPassword
          match encryptedPassword with
          | .error _ => return .error internalError
          | .ok encryptedPassword =>
            storeConfig accountId emxId emx
              { noFields with imapConfig := some (mergeImap imapConfig stored encryptedPassword) }
              activation (some true)

/-- PATCH of an exchange. -/
def patchExchange (accountId emxId : String) (body : PatchExchangeRequest) :
    ExchangeProg (Except ApiError ExchangeRow) := do
  let getResult ← getExternalExchange accountId emxId
  match getResult with
  | .error _ => return .error internalError
  | .ok none => return .error notFound
  | .ok (some emx) => match body with
    | .jmap jmapConfig => patchJmap accountId emxId emx jmapConfig
    | .imap imapConfig => patchImap accountId emxId emx imapConfig

/-! ## Disconnecting it -/

/-- DELETE of an exchange. Neither the provider nor the alias can hold it up. -/
def deleteExchange (accountId emxId : String) : ExchangeProg (Except ApiError Unit) := do
  let getResult ← getExternalExchange accountId emxId
  match getResult with
  | .error _ => return .error internalError
  | .ok none => return .error notFound
  | .ok (some emx) => do
    if emx.status = .active ∧ emx.platform.isSome then do
      let _ ← ask (.deactivate emx)
    let now : String ← ask (.now 0)
    let _ ← accounts (updateAlias accountId (emx.emailAddress.getD "") none now)
    let deleteResult ← deleteExternalExchange accountId emxId
    return deleteResult.mapError fun _ => internalError

/-! ## Which calls the requests make -/

section

variable {P : Cmd → Prop} {env : Env} {accountId : String}

theorem only_linkAlias (h : Permits P) (emailAddress : String) (existing : Option (Option Alias))
    (emxId : String) (includeOverlap : Option Bool) :
    (linkAlias accountId emailAddress existing emxId includeOverlap).Only P :=
  .perform (h.ask _) fun _ => (only_accounts h _).bind fun _ =>
    .perform (h.sendDispatch _) fun _ => trivial

section

variable (h : Permits P)
  (hcreate : ∀ id data, P (.exchanges (.createExternalExchange accountId id data)))
include h hcreate

theorem only_createInactive (platform : EmxPlatform) (username : String) (fields : ExchangeFields) :
    (createInactive accountId platform username fields).Only P :=
  .perform (h.ask _) fun _ => .perform (h.ask _) fun _ =>
    (only_createExternalExchange h hcreate _ _ _ _ _).bind fun _ => trivial

theorem only_createActive (platform : EmxPlatform) (emailAddress expiresAt : String)
    (fields : ExchangeFields)
    (aliasCheck : Except DbError (Option Alias)) :
    (createActive accountId platform emailAddress expiresAt fields aliasCheck).Only P := by
  refine .perform (h.ask _) fun _ => ?_
  refine (only_createExternalExchange h hcreate _ _ _ _ _).bind fun result => ?_
  split
  · trivial
  · exact (only_linkAlias h _ _ _ _).bind fun _ => trivial

theorem only_createImap (imapConfig : ImapCredentials) :
    (createImap env accountId imapConfig).Only P := by
  refine (only_accounts h _).bind fun aliasCheck => ?_
  split
  · trivial
  refine .perform (h.ask _) fun encryptResult => ?_
  split
  · trivial
  refine .perform (h.ask _) fun activateResult => ?_
  split
  · exact only_createInactive h hcreate _ _ _
  · exact only_createActive h hcreate _ _ _ _ _

theorem only_createJmap (jmapConfig : JmapCredentials) :
    (createJmap env accountId jmapConfig).Only P := by
  refine (only_accounts h _).bind fun aliasCheck => ?_
  split
  · trivial
  refine .perform (h.ask _) fun encryptResult => ?_
  split
  · trivial
  refine .perform (h.ask _) fun activateResult => ?_
  split
  · exact only_createInactive h hcreate _ _ _
  · exact only_createActive h hcreate _ _ _ _ _

variable (hactivate : ∀ emxId nextSyncTime fields clearFields now,
  P (.exchanges (.updateExternalExchange accountId emxId
    ⟨.active, nextSyncTime, fields, clearFields, now⟩)))
include hactivate

theorem only_connectIdentity (platform : EmxPlatform) (identity : ActivationIdentity) :
    (connectIdentity env accountId platform identity).Only P := by
  refine .perform (h.ask _) fun activateResult => ?_
  split
  · trivial
  refine (only_accounts h _).bind fun aliasCheck => ?_
  split
  · trivial
  refine .perform (h.listExternalExchanges _) fun listResult => ?_
  split
  · refine (only_updateExternalExchange h fun _ => hactivate _ _ _ _ _).bind fun updateResult => ?_
    split
    · trivial
    · exact (only_linkAlias h _ _ _ _).bind fun _ => trivial
  · exact only_createActive h hcreate _ _ _ _ _

theorem only_createOauth (auth : Option String) (platform : EmxPlatform)
    (connectionId : Option String) :
    (createOauth env accountId auth platform connectionId).Only P := by
  unfold createOauth
  split
  · trivial
  · trivial
  · refine .perform (h.ask _) fun linkedIdentityResult => ?_
    split
    · trivial
    · trivial
    · exact only_connectIdentity h hcreate hactivate _ _

/-- A connect creates exchanges of its account, and updates them to be active. -/
theorem only_createExchange (auth : Option String) (body : CreateExternalExchangeRequest) :
    (createExchange env accountId auth body).Only P := by
  cases body with
  | imap imapConfig => exact only_createImap h hcreate imapConfig
  | jmap jmapConfig => exact only_createJmap h hcreate jmapConfig
  | oauth platform connectionId => exact only_createOauth h hcreate hactivate _ _ _

end

theorem only_passwordToTest (h : Permits P) (password : Option String)
    (encryptedPassword : String) : (passwordToTest password encryptedPassword).Only P := by
  cases password with
  | none => exact ⟨h.ask _, fun _ => trivial⟩
  | some password => trivial

theorem only_passwordToStore (h : Permits P) (password : Option String)
    (encryptedPassword : String) : (passwordToStore password encryptedPassword).Only P := by
  cases password with
  | none => trivial
  | some password => exact ⟨h.ask _, fun _ => trivial⟩

variable {emxId : String}

theorem only_reactivate (h : Permits P)
    (hupdate : ∀ update, P (.exchanges (.updateExternalExchange accountId emxId update)))
    (emx : ExchangeRow) (expiresAt : String) (updated : ExchangeRow) :
    (reactivate accountId emxId emx expiresAt updated).Only P := by
  unfold reactivate
  split
  · exact only_updateExternalExchange h fun _ => hupdate _
  · trivial

theorem only_storeConfig (h : Permits P)
    (hupdate : ∀ update, P (.exchanges (.updateExternalExchange accountId emxId update)))
    (emx : ExchangeRow) (config : ExchangeFields) (activation : ActivationResult)
    (includeOverlap : Option Bool) :
    (storeConfig accountId emxId emx config activation includeOverlap).Only P := by
  refine .perform (h.ask _) fun _ => ?_
  refine (only_updateExternalExchange h fun _ => hupdate _).bind fun updateResult => ?_
  split
  · trivial
  refine (only_updateExternalExchange h fun _ => hupdate _).bind fun _ => ?_
  refine .perform (h.ask _) fun _ => (only_accounts h _).bind fun _ => ?_
  refine (only_reactivate h hupdate _ _ _).bind fun reactivateResult => ?_
  split
  · trivial
  refine .bind (.perform (h.sendDispatch _) fun _ => trivial) fun _ => ?_
  refine .perform (h.getExternalExchange _ _) fun freshResult => ?_
  split <;> trivial

/-- A change updates the exchange it names. -/
theorem only_patchExchange (h : Permits P)
    (hupdate : ∀ update, P (.exchanges (.updateExternalExchange accountId emxId update)))
    (body : PatchExchangeRequest) : (patchExchange accountId emxId body).Only P := by
  refine .perform (h.getExternalExchange _ _) fun getResult => ?_
  split
  · trivial
  · trivial
  split
  · unfold patchJmap
    split
    · trivial
    split
    · trivial
    refine (only_passwordToTest h _ _).bind fun testPassword => ?_
    split
    · trivial
    refine .perform (h.ask _) fun testResult => ?_
    split
    · trivial
    refine (only_passwordToStore h _ _).bind fun encryptedPassword => ?_
    split
    · trivial
    · exact only_storeConfig h hupdate _ _ _ _
  · unfold patchImap
    split
    · trivial
    split
    · trivial
    refine (only_passwordToTest h _ _).bind fun testPassword => ?_
    split
    · trivial
    refine .perform (h.ask _) fun testResult => ?_
    split
    · trivial
    refine (only_passwordToStore h _ _).bind fun encryptedPassword => ?_
    split
    · trivial
    · exact only_storeConfig h hupdate _ _ _ _

theorem only_deleteExchange (h : Permits P)
    (hdelete : P (.exchanges (.deleteExternalExchange accountId emxId))) :
    (deleteExchange accountId emxId).Only P := by
  refine .perform (h.getExternalExchange _ _) fun getResult => ?_
  split
  · trivial
  · trivial
  · have hrest (emailAddress : String) : (do
        let now : String ← ask (.now 0)
        let _ ← accounts (updateAlias accountId emailAddress none now)
        let deleteResult ← deleteExternalExchange accountId emxId
        return deleteResult.mapError fun _ => internalError :
          ExchangeProg (Except ApiError Unit)).Only P :=
      .perform (h.ask _) fun _ => (only_accounts h _).bind fun _ =>
        .perform hdelete fun _ => trivial
    split
    · exact .perform (h.ask _) fun _ => hrest _
    · exact hrest _

end

end SesEmailAdapter.Api.ExternalExchangesApi
