import SesEmailAdapter.Exchanges.ExchangeService
import SesEmailAdapter.Resource.ResourceDatabase

/-! # GmailProvider

A Gmail exchange is synced by the notifications of its watch alone: they name a mailbox, and the
history of the mailbox since the stored cursor is read and enqueued. A renewal extends the watch. -/

namespace SesEmailAdapter.Exchanges.GmailProvider
open Database.ExchangesDatabase hiding Cmd settle
open Exchanges.ExchangeService
open Resource.ResourceDatabase (truthy)

def getToken (emx : ExchangeRow) : ExchangeProg (Except String String) :=
  match truthy emx.fields.userId, truthy emx.fields.connectionId,
    truthy emx.fields.connectionUserId with
  | some userId, some connectionId, some connectionUserId =>
    ask (.getToken userId connectionId connectionUserId)
  | _, _, _ => return .error "oauth_identity_missing"

/-- What a failed request leaves as the cause of an error. -/
def causeOf (status : Option Nat) : String := (status.map toString).getD "thrown"

/-- The exchange runs until its watch expires. -/
def storeExpiry (emx : ExchangeRow) (expiresAt : String) :
    ExchangeProg (Except ProviderRenewalError Unit) := do
  let _ ← updateExternalExchange emx.accountId emx.id emx.status expiresAt
    { noFields with expiresAt := some expiresAt } []
  return .ok ()

def renew (emx : ExchangeRow) : ExchangeProg (Except ProviderRenewalError Unit) := do
  let tokenResult ← getToken emx
  match tokenResult with
  | .error cause => return .error (renewalFailed cause)
  | .ok token => do
    let response : HttpAnswer String ← ask (.gmailWatch token)
    match response with
    | .thrown => return .error (renewalFailed (causeOf none))
    | .refused status => return .error (renewalFailed (causeOf (some status)))
    | .body expiresAt => storeExpiry emx expiresAt

/-! ## The webhook -/

structure NotificationData where
  emailAddress : Option String
  historyId : Option String
deriving DecidableEq, Repr

structure Notification where
  /-- What follows `Bearer` in the authorization header. -/
  bearer : Option String
  /-- `message.data`, and what it decodes to. -/
  data : Option (Option NotificationData)
deriving DecidableEq, Repr

def inboundOf (emx : ExchangeRow) (messageId : String) : InboundPayload :=
  ⟨.gmail, messageId, emx.id, emx.accountId⟩

/-- Enqueues one page of the history and stores where it ends. -/
def enqueueHistory (env : Env) (emx : ExchangeRow) (historyId : String) (page : HistoryPage) :
    ExchangeProg Nat := do
  let batchResult ← sendBatch env (page.messagesAdded.map (inboundOf emx))
  match batchResult with
  | .error _ => return 500
  | .ok () => do
    let lastSyncAt : String ← ask (.now 0)
    let _ ← updateExternalExchange emx.accountId emx.id emx.status emx.nextSyncTime
      { noFields with
        syncCursor := some (page.historyId.getD historyId), lastSyncAt := some lastSyncAt } []
    return 200

def syncHistory (env : Env) (emx : ExchangeRow) (historyId : String) : ExchangeProg Nat := do
  let tokenResult ← getToken emx
  match tokenResult with
  | .error _ => return 200
  | .ok token => do
    let historyResp : HttpAnswer HistoryPage ←
      ask (.gmailHistory token (emx.fields.syncCursor.getD historyId))
    match historyResp with
    | .thrown => return 500
    | .refused _ => return 200
    | .body page => enqueueHistory env emx historyId page

def concerns (emailAddress : String) (emx : ExchangeRow) : Bool :=
  emx.emailAddress = some emailAddress ∧ emx.platform = some .gmail

def handleData (env : Env) (data : NotificationData) : ExchangeProg Nat :=
  match truthy data.emailAddress, truthy data.historyId with
  | some emailAddress, some historyId => do
    let allActiveResult ← listExchangesDue "9999-12-31T23:59:59Z"
    match allActiveResult with
    | .error _ => return 200
    | .ok active => match active.find? (concerns emailAddress) with
      | none => return 200
      | some emx => syncHistory env emx historyId
  | _, _ => return 400

/-- The status of the response. -/
def handle (env : Env) (notification : Notification) : ExchangeProg Nat :=
  match notification.bearer with
  | none => return 401
  | some bearer => do
    let verified : Bool ← ask (.verifyToken .gmail bearer)
    if verified then match notification.data with
      | some (some data) => handleData env data
      | _ => return 400
    else return 401

/-! ## Which calls it makes -/

section

variable {P : Cmd → Prop} {emx : ExchangeRow}

theorem only_getToken (h : Permits P) : (getToken emx).Only P := by
  unfold getToken
  split
  · exact ⟨h.ask _, fun _ => trivial⟩
  · trivial

theorem only_storeExpiry (h : Permits P)
    (hupdate : ∀ update, P (.exchanges (.updateExternalExchange emx.accountId emx.id update)))
    (expiresAt : String) : (storeExpiry emx expiresAt).Only P :=
  (only_updateExternalExchange h fun _ => hupdate _).bind fun _ => trivial

/-- A renewal updates its own exchange. -/
theorem only_renew (h : Permits P)
    (hupdate : ∀ update, P (.exchanges (.updateExternalExchange emx.accountId emx.id update))) :
    (renew emx).Only P := by
  refine (only_getToken h).bind fun tokenResult => ?_
  split
  · trivial
  refine .perform (h.ask _) fun response => ?_
  split
  · trivial
  · trivial
  · exact only_storeExpiry h hupdate _

end

end SesEmailAdapter.Exchanges.GmailProvider
