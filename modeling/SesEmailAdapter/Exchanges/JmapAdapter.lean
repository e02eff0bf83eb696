import SesEmailAdapter.Exchanges.ExchangeService
import SesEmailAdapter.Resource.ResourceDatabase

/-! # JmapAdapter

The renewal of a JMAP exchange, by a push subscription or by polling, and the webhook that the
subscription calls. -/

namespace SesEmailAdapter.Exchanges.JmapAdapter
open Database.Shared
open Database.ExchangesDatabase hiding Cmd settle
open Exchanges.ExchangeService
open Resource.ResourceDatabase (truthy)

def inboundOf (emx : ExchangeRow) (emailId : String) : InboundPayload :=
  ⟨.jmap, emailId, emx.id, emx.accountId⟩

/-- The same count as for IMAP. -/
def handleRenewalFailure (emx : ExchangeRow) (cause : String) :
    ExchangeProg (Except ProviderRenewalError Unit) := do
  recordFailure emx cause
  return .error (renewalFailed cause)

/-- The sync of the push paths. It reports nothing, and stores the new state whether or not the
messages could be enqueued. -/
def performQueryChanges (env : Env) (apiUrl jmapAccountId inboxId : String) (emx : ExchangeRow) :
    ExchangeProg Unit := do
  let queryChangesResult : Except String (JmapResponse QueryChanges) ←
    ask (.jmapQueryChanges apiUrl jmapAccountId inboxId (emx.fields.syncCursor.getD ""))
  match queryChangesResult with
  | .ok (some (.ok responseData)) => match truthy responseData.newQueryState with
    | none => return ()
    | some newQueryState => do
      -- an error of the batch is only logged
      let _ ← sendBatch env (responseData.added.map (inboundOf emx))
      let lastSyncAt : String ← ask (.now 0)
      let _ ← updateExternalExchange emx.accountId emx.id emx.status emx.nextSyncTime
        { noFields with syncCursor := some newQueryState, lastSyncAt := some lastSyncAt } []
      return ()
  | _ => return ()

def clearPushSubscription (emx : ExchangeRow) : ExchangeProg Unit := do
  let _ ← updateExternalExchange emx.accountId emx.id emx.status emx.nextSyncTime noFields
    [.pushSubscriptionId]
  return ()

def fourDays : Nat := 4 * 24 * 60

def webhookDevice (emx : ExchangeRow) : String := emx.accountId ++ ":" ++ emx.id

/-- Registers a subscription; `none` falls through to polling. -/
def registerPush (session : JmapSession) (emx : ExchangeRow) : ExchangeProg (Option String) := do
  let pushHashResult : Except String String ← ask (.hash (webhookDevice emx))
  match pushHashResult with
  | .error _ => return none
  | .ok token => do
    let registerResult : Except String (JmapResponse (Option String)) ←
      ask (.jmapPushRegister session.apiUrl (webhookDevice emx) token)
    match registerResult with
    | .ok (some (.ok pushId)) => return truthy pushId
    | _ => return none

/-- A subscription that cannot be verified counts as gone. -/
def isGone (pushSubscriptionId : String)
    (verifyResult : Except String (JmapResponse (Option (List String)))) : Bool :=
  match verifyResult with
  | .error _ => true
  | .ok none => false
  | .ok (some (.error _)) => true
  | .ok (some (.ok notFound)) => (notFound.getD []).contains pushSubscriptionId

/-- Whether the renewal is handled, or falls through to polling. -/
def handlePushSubscription (env : Env) (emx : ExchangeRow) (jmapConfig : JmapConfig)
    (session : JmapSession) : ExchangeProg Bool :=
  match truthy emx.fields.pushSubscriptionId with
  | none =>
    if session.supportsPush then do
      let registered ← registerPush session emx
      match registered with
      | none => return false
      | some pushId => do
        let nextSyncTime : String ← ask (.now fourDays)
        let _ ← updateExternalExchange emx.accountId emx.id emx.status nextSyncTime
          { noFields with pushSubscriptionId := some pushId, consecutiveFailures := some 0 } []
        performQueryChanges env session.apiUrl session.jmapAccountId jmapConfig.inboxId emx
        return true
    else return false
  | some pushSubscriptionId => do
    let verifyResult : Except String (JmapResponse (Option (List String))) ←
      ask (.jmapPushGet session.apiUrl pushSubscriptionId)
    if isGone pushSubscriptionId verifyResult then do
      clearPushSubscription emx
      return false
    else do
      let nextSyncTime : String ← ask (.now fourDays)
      let _ ← updateExternalExchange emx.accountId emx.id emx.status nextSyncTime
        { noFields with consecutiveFailures := some 0 } []
      performQueryChanges env session.apiUrl session.jmapAccountId jmapConfig.inboxId emx
      return true

/-- What becomes of the messages that a poll has found, and of the state it ends in. -/
def enqueueNew (env : Env) (emx : ExchangeRow) (emailIds : List String) (newQueryState : String) :
    ExchangeProg (Except ProviderRenewalError Unit) := do
  let batchResult ← sendBatch env (emailIds.map (inboundOf emx))
  match batchResult with
  | .error _ => return .error (renewalFailed "SQS batch send failed")
  | .ok () => do
    let nextSyncTime : String ← ask (.now POLL_INTERVAL_MINUTES)
    let lastSyncAt : String ← ask (.now 0)
    let _ ← updateExternalExchange emx.accountId emx.id emx.status nextSyncTime
      { noFields with
        syncCursor := some newQueryState
        lastSyncAt := some lastSyncAt
        consecutiveFailures := some 0 } []
    return .ok ()

/-- The newest 500 messages, when the server cannot tell what has changed. -/
def renewFallback (env : Env) (apiUrl jmapAccountId inboxId : String) (emx : ExchangeRow) :
    ExchangeProg (Except ProviderRenewalError Unit) := do
  let queryResult : Except String (JmapResponse QueryAnswer) ←
    ask (.jmapQuery apiUrl jmapAccountId inboxId)
  match queryResult with
  | .error cause => return .error (renewalFailed cause)
  | .ok none => return .error (renewalFailed "Email/query fallback failed")
  | .ok (some (.error _)) => return .error (renewalFailed "Email/query fallback failed")
  | .ok (some (.ok responseData)) => match truthy responseData.queryState with
    | none => return .error (renewalFailed "Missing queryState in fallback")
    | some newQueryState => enqueueNew env emx responseData.ids newQueryState

def pollChanges (env : Env) (emx : ExchangeRow) (jmapConfig : JmapConfig) (session : JmapSession) :
    ExchangeProg (Except ProviderRenewalError Unit) := do
  let queryChangesResult : Except String (JmapResponse QueryChanges) ←
    ask (.jmapQueryChanges session.apiUrl session.jmapAccountId jmapConfig.inboxId
      (emx.fields.syncCursor.getD ""))
  match queryChangesResult with
  | .error cause => handleRenewalFailure emx cause
  | .ok (some (.error errorType)) =>
    if errorType = "cannotCalculateChanges" then
      renewFallback env session.apiUrl session.jmapAccountId jmapConfig.inboxId emx
    else handleRenewalFailure emx ("JMAP error: " ++ errorType)
  | .ok none => return .error (renewalFailed "Empty JMAP response")
  | .ok (some (.ok responseData)) => match truthy responseData.newQueryState with
    | none => return .error (renewalFailed "Missing newQueryState")
    | some newQueryState => enqueueNew env emx responseData.added newQueryState

def renew (env : Env) (emx : ExchangeRow) : ExchangeProg (Except ProviderRenewalError Unit) :=
  match emx.fields.jmapConfig with
  | none => return .error (renewalFailed "Missing jmapConfig")
  | some jmapConfig => do
    let decryptResult : Except String String ← ask (.decrypt jmapConfig.encryptedPassword)
    match decryptResult with
    | .error _ => return .error (renewalFailed "decryption failed")
    | .ok password => do
      let sessionResult : Except String JmapSession ←
        ask (.jmapSession jmapConfig.sessionUrl jmapConfig.username password)
      match sessionResult with
      | .error cause => handleRenewalFailure emx cause
      | .ok session => do
        let handled ← handlePushSubscription env emx jmapConfig session
        if handled then return .ok () else pollChanges env emx jmapConfig session

/-! ## The webhook -/

inductive WebhookType
  | pushVerification (verificationCode : Option String)
  | stateChange
  | other
deriving DecidableEq, Repr

/-- The account and the exchange of a device: its text before and after the first colon. -/
def parseDevice (deviceClientId : String) : Option (String × String) :=
  let chars := deviceClientId.toList
  let accountId := chars.takeWhile (· ≠ ':')
  if accountId = [] ∨ accountId.length = chars.length then none
  else some (String.ofList accountId, String.ofList (chars.drop (accountId.length + 1)))

def confirmSubscription (emx : ExchangeRow) (verificationCode : Option String) :
    ExchangeProg Unit :=
  match truthy verificationCode, truthy emx.fields.pushSubscriptionId, emx.fields.jmapConfig with
  | some code, some pushSubscriptionId, some jmapConfig => do
    let webhookDecryptResult : Except String String ← ask (.decrypt jmapConfig.encryptedPassword)
    match webhookDecryptResult with
    | .error _ => return ()
    | .ok password => do
      let sessionResult : Except String JmapSession ←
        ask (.jmapSession jmapConfig.sessionUrl jmapConfig.username password)
      match sessionResult with
      | .error _ => return ()
      | .ok session => do
        let _ ← ask (.jmapPushVerify session.apiUrl pushSubscriptionId code)
        return ()
  | _, _, _ => return ()

/-- The handler reports success whatever happens. -/
def handleWebhook (type : WebhookType) (deviceClientId token : Option String) :
    ExchangeProg Unit :=
  match truthy deviceClientId, truthy token with
  | some device, some token => match parseDevice device with
    | none => return ()
    | some (accountId, emxId) => do
      let hashResult : Except String String ← ask (.hash device)
      match hashResult with
      | .error _ => return ()
      | .ok expectedToken =>
        if token ≠ expectedToken then return ()
        else do
          let emxResult : Except DbError (Option ExchangeRow) ←
            getExternalExchange accountId emxId
          match emxResult with
          | .error _ => return ()
          | .ok none => return ()
          | .ok (some emx) =>
            if emx.platform ≠ some .jmap then return ()
            else if emx.status ≠ .active then return ()
            else match type with
              | .pushVerification verificationCode => confirmSubscription emx verificationCode
              | .stateChange => do
                let _ ← sendDispatch ⟨emx.id, emx.accountId, none⟩
                return ()
              | .other => return ()
  | _, _ => return ()

/-! ## Which calls it makes -/

section

variable {P : Cmd → Prop} {env : Env} {emx : ExchangeRow} (h : Permits P)
include h

theorem only_registerPush (session : JmapSession) : (registerPush session emx).Only P := by
  refine .perform (h.ask _) fun pushHashResult => ?_
  split
  · trivial
  refine .perform (h.ask _) fun registerResult => ?_
  split <;> trivial

/-- The webhook changes no exchange. -/
theorem only_handleWebhook (type : WebhookType) (deviceClientId token : Option String) :
    (handleWebhook type deviceClientId token).Only P := by
  have hconfirm (emx : ExchangeRow) (code : Option String) : (confirmSubscription emx code).Only P := by
    unfold confirmSubscription
    split
    · refine .perform (h.ask _) fun decryptResult => ?_
      split
      · trivial
      refine .perform (h.ask _) fun sessionResult => ?_
      split
      · trivial
      · exact .perform (h.ask _) fun _ => trivial
    · trivial
  unfold handleWebhook
  split
  · split
    · trivial
    refine .perform (h.ask _) fun hashResult => ?_
    split
    · trivial
    split
    · trivial
    refine .perform (h.getExternalExchange _ _) fun emxResult => ?_
    split
    · trivial
    · trivial
    split
    · trivial
    split
    · trivial
    split
    · exact hconfirm _ _
    · exact .perform (h.sendDispatch _) fun _ => trivial
    · trivial
  · trivial

variable (hupdate : ∀ update, P (.exchanges (.updateExternalExchange emx.accountId emx.id update)))
include hupdate

theorem only_handleRenewalFailure (cause : String) : (handleRenewalFailure emx cause).Only P :=
  (only_recordFailure h _ fun _ _ _ => hupdate _).bind fun _ => trivial

theorem only_performQueryChanges (apiUrl jmapAccountId inboxId : String) :
    (performQueryChanges env apiUrl jmapAccountId inboxId emx).Only P := by
  refine .perform (h.ask _) fun queryChangesResult => ?_
  split
  · split
    · trivial
    · exact (only_sendBatch h env _).bind fun _ => .perform (h.ask _) fun _ =>
        (only_updateExternalExchange h fun _ => hupdate _).bind fun _ => trivial
  · trivial

theorem only_handlePushSubscription (jmapConfig : JmapConfig) (session : JmapSession) :
    (handlePushSubscription env emx jmapConfig session).Only P := by
  have hsync (apiUrl jmapAccountId inboxId : String) :
      (performQueryChanges env apiUrl jmapAccountId inboxId emx).Only P :=
    only_performQueryChanges h hupdate _ _ _
  unfold handlePushSubscription
  split
  · split
    · refine (only_registerPush h _).bind fun registered => ?_
      split
      · trivial
      · exact .perform (h.ask _) fun _ => (only_updateExternalExchange h fun _ => hupdate _).bind
          fun _ => (hsync _ _ _).bind fun _ => trivial
    · trivial
  · refine .perform (h.ask _) fun verifyResult => ?_
    split
    · exact .bind ((only_updateExternalExchange h fun _ => hupdate _).bind fun _ => trivial)
        fun _ => trivial
    · exact .perform (h.ask _) fun _ => (only_updateExternalExchange h fun _ => hupdate _).bind
        fun _ => (hsync _ _ _).bind fun _ => trivial

theorem only_enqueueNew (emailIds : List String) (newQueryState : String) :
    (enqueueNew env emx emailIds newQueryState).Only P := by
  refine (only_sendBatch h env _).bind fun batchResult => ?_
  split
  · trivial
  · exact .perform (h.ask _) fun _ => .perform (h.ask _) fun _ =>
      (only_updateExternalExchange h fun _ => hupdate _).bind fun _ => trivial

theorem only_renewFallback (apiUrl jmapAccountId inboxId : String) :
    (renewFallback env apiUrl jmapAccountId inboxId emx).Only P := by
  refine .perform (h.ask _) fun queryResult => ?_
  split
  · trivial
  · trivial
  · trivial
  · split
    · trivial
    · exact only_enqueueNew h hupdate _ _

theorem only_pollChanges (jmapConfig : JmapConfig) (session : JmapSession) :
    (pollChanges env emx jmapConfig session).Only P := by
  refine .perform (h.ask _) fun queryChangesResult => ?_
  split
  · exact only_handleRenewalFailure h hupdate _
  · split
    · exact only_renewFallback h hupdate _ _ _
    · exact only_handleRenewalFailure h hupdate _
  · trivial
  · split
    · trivial
    · exact only_enqueueNew h hupdate _ _

/-- A renewal updates its own exchange. -/
theorem only_renew : (renew env emx).Only P := by
  unfold renew
  split
  · trivial
  refine .perform (h.ask _) fun decryptResult => ?_
  split
  · trivial
  refine .perform (h.ask _) fun sessionResult => ?_
  split
  · exact only_handleRenewalFailure h hupdate _
  refine (only_handlePushSubscription h hupdate _ _).bind fun handled => ?_
  split
  · trivial
  · exact only_pollChanges h hupdate _ _

end

end SesEmailAdapter.Exchanges.JmapAdapter
