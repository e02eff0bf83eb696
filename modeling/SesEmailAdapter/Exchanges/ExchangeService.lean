import SesEmailAdapter.Database.AccountDatabase
import SesEmailAdapter.Database.ExchangesDatabase

/-! # The exchange service

The calls of the code around external mail exchanges: the requests on exchange rows and on the
accounts table, the queue, and the clock, the ids, the secrets, the identity provider and the mail
providers, which answer at will. -/

namespace SesEmailAdapter.Exchanges.ExchangeService
open Lib
open SesEmailAdapter.Types Database.Shared Database.ExchangesDatabase
open Database
open Database.SignalsTable (requestFailed)

/-! ## What the providers answer -/

structure ActivationIdentity where
  userId : String
  connectionId : String
  connectionUserId : String
deriving DecidableEq, Repr

structure ActivationResult where
  syncCursor : Option String
  syncState : Option ImapSyncState
  expiresAt : String
  providerSubscriptionId : String
  emailAddress : String
  /-- The configuration with what the session told, where the exchange is a JMAP one. -/
  jmapConfig : Option JmapConfig
deriving DecidableEq, Repr

inductive ImapErrorKind
  | transient | connectionRefused | dnsTerminalFailure | authFailed | tlsError | mailboxError
  | unknown
deriving DecidableEq, Repr

structure ImapError where
  kind : ImapErrorKind
  reason : String
deriving DecidableEq, Repr

inductive IdleResult
  | newMail | timeout
deriving DecidableEq, Repr

structure JmapSession where
  apiUrl : String
  jmapAccountId : String
  supportsPush : Bool
deriving DecidableEq, Repr

/-- The first response of a call: there can be none, or an error of a type. -/
abbrev JmapResponse (α : Type) := Option (Except String α)

structure QueryChanges where
  added : List String
  newQueryState : Option String
deriving DecidableEq, Repr

structure QueryAnswer where
  ids : List String
  queryState : Option String
deriving DecidableEq, Repr

/-- A request that throws, an answer with another status, or its body. -/
inductive HttpAnswer (α : Type)
  | thrown | refused (status : Nat) | body (a : α)

structure HistoryPage where
  messagesAdded : List String
  historyId : Option String
  /-- The code does not read it. -/
  nextPageToken : Option String
deriving DecidableEq, Repr

inductive External
  | now (plusMinutes : Nat)
  | newId
  | encrypt (plaintext : String)
  | decrypt (ciphertext : String)
  | hash (text : String)
  | activate (platform : EmxPlatform) (emx : ExchangeRow) (identity : Option ActivationIdentity)
  | deactivate (emx : ExchangeRow)
  | getLinkedIdentity (userId connectionId : String)
  | getToken (userId connectionId connectionUserId : Option String)
  | gmailWatch (token : String)
  | gmailHistory (token startHistoryId : String)
  | outlookSubscription (token : String) (subscriptionId : Option String)
  | imapConnect (config : ImapConfig) (password : String)
  | imapInboxState (config : ImapConfig)
  | imapSearch (config : ImapConfig) (lastKnownUid : Nat)
  | imapIdle (config : ImapConfig)
  | jmapSession (sessionUrl username password : String)
  | jmapQueryChanges (apiUrl jmapAccountId inboxId sinceQueryState : String)
  | jmapQuery (apiUrl jmapAccountId inboxId : String)
  | jmapPushRegister (apiUrl deviceClientId token : String)
  | jmapPushGet (apiUrl pushSubscriptionId : String)
  | jmapPushVerify (apiUrl pushSubscriptionId verificationCode : String)
  /-- The signature and the claims of a token that a provider sends along. -/
  | verifyToken (platform : EmxPlatform) (token : String)
deriving DecidableEq, Repr

@[reducible] def External.Answer : External → Type
  | .now _ => String
  | .newId => String
  | .encrypt _ => Except String String
  | .decrypt _ => Except String String
  | .hash _ => Except String String
  | .activate .. => Except String ActivationResult
  | .deactivate _ => Except String Unit
  | .getLinkedIdentity .. => Except String (Option String)
  | .getToken .. => Except String String
  | .gmailWatch _ => HttpAnswer String
  | .gmailHistory .. => HttpAnswer HistoryPage
  | .outlookSubscription .. => HttpAnswer String
  | .imapConnect .. => Except ImapError Unit
  | .imapInboxState _ => Except ImapError Nat
  | .imapSearch .. => Except ImapError (List Nat)
  | .imapIdle _ => Except ImapError IdleResult
  | .jmapSession .. => Except String JmapSession
  | .jmapQueryChanges .. => Except String (JmapResponse QueryChanges)
  | .jmapQuery .. => Except String (JmapResponse QueryAnswer)
  | .jmapPushRegister .. => Except String (JmapResponse (Option String))
  | .jmapPushGet .. => Except String (JmapResponse (Option (List String)))
  | .jmapPushVerify .. => Except String Unit
  | .verifyToken .. => Bool

/-! ## The queue -/

structure InboundPayload where
  source : EmxPlatform
  providerMessageId : String
  emxId : String
  accountId : String
deriving DecidableEq, Repr

def platformText : EmxPlatform → String
  | .gmail => "gmail"
  | .outlook => "outlook"
  | .imap => "imap"
  | .jmap => "jmap"

/-- Uids of IMAP and ids of JMAP are only unique within a mailbox. -/
def InboundPayload.idNamespace (payload : InboundPayload) : String :=
  if payload.source = .imap ∨ payload.source = .jmap then payload.emxId
  else platformText payload.source

def InboundPayload.compositeMailMessageId (payload : InboundPayload) : String :=
  payload.idNamespace ++ "-" ++ payload.providerMessageId

def InboundPayload.s3Key (payload : InboundPayload) : String :=
  "emails/" ++ payload.idNamespace ++ "/" ++ payload.providerMessageId

structure DispatchPayload where
  emxId : String
  accountId : String
  includeOverlap : Option Bool
deriving DecidableEq, Repr

/-! ## Calls -/

inductive Cmd
  | exchanges (c : ExchangesDatabase.Cmd)
  | accounts (c : AccountsTable.Cmd)
  | sendDispatch (payload : DispatchPayload)
  /-- One chunk of a batch. -/
  | sendInbound (chunk : List InboundPayload)
  /-- The log entry that a renewal ends with. -/
  | logRenewal (accountId emxId : String) (renewed : Bool)
  | ask (e : External)
deriving DecidableEq, Repr

@[reducible] def Cmd.Answer : Cmd → Type
  | .exchanges c => c.Answer
  | .accounts c => c.Answer
  | .sendDispatch _ => Except DbError Unit
  | .sendInbound _ => Except DbError Unit
  | .logRenewal .. => Unit
  | .ask e => e.Answer

/-- The answers from outside, by the number of calls before, and what the code takes from its
surroundings. -/
structure Env where
  answer : Nat → (e : External) → e.Answer
  page : Nat → Nat
  /-- The entries that the queue takes of a chunk it reports a failure of. -/
  accepts : Nat → InboundPayload → Bool
  mailDomain : String
  parseSyncCursor : String → Except String ImapSyncState
  formatSyncCursor : Nat → Nat → String
  /-- The bytes that an entry takes of a batch. -/
  entryBytes : InboundPayload → Nat
  uidText : Nat → String

structure World where
  tick : Nat
  exchanges : ExchangesDatabase.Store
  accounts : AccountsTable.Store
  /-- Every message sent so far; what is consumed stays. -/
  inbound : List InboundPayload
  dispatches : List DispatchPayload
  /-- How the renewals of exchanges have ended, the last one first. -/
  renewals : List (String × String × Bool)

def settle (env : Env) : (c : Cmd) → World → Fate → c.Answer × World
  | .exchanges c, w, fate =>
    let settled := ExchangesDatabase.settle (env.page w.tick) c w.exchanges fate
    (settled.1, { w with tick := w.tick + 1, exchanges := settled.2 })
  | .accounts c, w, fate =>
    let settled := AccountsTable.settle c w.accounts fate
    (settled.1, { w with tick := w.tick + 1, accounts := settled.2 })
  | .sendDispatch payload, w, fate => match fate with
    | .done => (.ok (), { w with tick := w.tick + 1, dispatches := payload :: w.dispatches })
    | .refused => (.error requestFailed, { w with tick := w.tick + 1 })
    | .lost =>
      (.error requestFailed, { w with tick := w.tick + 1, dispatches := payload :: w.dispatches })
  | .sendInbound chunk, w, fate => match fate with
    | .done => (.ok (), { w with tick := w.tick + 1, inbound := chunk ++ w.inbound })
    | .refused => (.error requestFailed, { w with tick := w.tick + 1 })
    | .lost => (.error requestFailed, { w with
        tick := w.tick + 1
        inbound := chunk.filter (env.accepts w.tick) ++ w.inbound })
  | .logRenewal accountId emxId renewed, w, _ =>
    ((), { w with tick := w.tick + 1, renewals := (accountId, emxId, renewed) :: w.renewals })
  | .ask e, w, _ => (env.answer w.tick e, { w with tick := w.tick + 1 })

/-- Only a request on exchanges touches them. -/
theorem exchanges_settle {c : Cmd} (hc : ∀ c', c ≠ .exchanges c') (env : Env) (w : World)
    (fate : Fate) : (settle env c w fate).2.exchanges = w.exchanges := by
  cases c with
  | exchanges c => exact absurd rfl (hc c)
  | sendDispatch => cases fate <;> rfl
  | sendInbound => cases fate <;> rfl
  | _ => rfl

theorem exchanges_settle_request (c : ExchangesDatabase.Cmd) (env : Env) (w : World) (fate : Fate) :
    (settle env (.exchanges c) w fate).2.exchanges =
      if fate = .refused then w.exchanges
      else (ExchangesDatabase.exec (env.page w.tick) c w.exchanges).2 := by
  cases fate <;> rfl

def service (env : Env) : Service Cmd Cmd.Answer World Fate := ⟨settle env, .done⟩

/-- What becomes of a call, and when it is made. -/
structure Turn where
  fate : Fate
  tick : Nat

abbrev ExchangeProg (α : Type) := Prog Cmd Cmd.Answer α

@[simp] def ask (e : External) : ExchangeProg e.Answer := Prog.perform (Cmd.ask e)

def accounts {α : Type} (p : AccountsTable.DbProg α) : ExchangeProg α :=
  p.embed Cmd.accounts fun _ answer => answer

@[simp] def request (c : ExchangesDatabase.Cmd) : ExchangeProg c.Answer :=
  Prog.perform (Cmd.exchanges c)

@[simp] def sendDispatch (payload : DispatchPayload) : ExchangeProg (Except DbError Unit) :=
  Prog.perform (Cmd.sendDispatch payload)

/-- The calls that change no exchange are of the kind. -/
structure Permits (P : Cmd → Prop) : Prop where
  ask : ∀ e, P (.ask e)
  accounts : ∀ c, P (.accounts c)
  sendDispatch : ∀ payload, P (.sendDispatch payload)
  sendInbound : ∀ chunk, P (.sendInbound chunk)
  logRenewal : ∀ accountId emxId renewed, P (.logRenewal accountId emxId renewed)
  getExternalExchange : ∀ accountId emxId, P (.exchanges (.getExternalExchange accountId emxId))
  listExternalExchanges : ∀ accountId, P (.exchanges (.listExternalExchanges accountId))
  listExchangesDue : ∀ horizon, P (.exchanges (.listExchangesDue horizon))
  findBySubscription : ∀ subscriptionId,
    P (.exchanges (.findExternalExchangeBySubscriptionId subscriptionId))

/-! ## Methods -/

def createExternalExchange (accountId : String) (platform : EmxPlatform) (emailAddress : String)
    (status : EmxStatus) (nextSyncTime : String) (fields : ExchangeFields) :
    ExchangeProg (Except DbError ExchangeRow) := do
  let now : String ← ask (.now 0)
  let id : String ← ask .newId
  request (.createExternalExchange accountId id ⟨⟨platform, emailAddress, now⟩, status,
    nextSyncTime, fields⟩)

def getExternalExchange (accountId emxId : String) :
    ExchangeProg (Except DbError (Option ExchangeRow)) :=
  request (.getExternalExchange accountId emxId)

def listExternalExchanges (accountId : String) : ExchangeProg (Except DbError (List ExchangeRow)) :=
  request (.listExternalExchanges accountId)

def updateExternalExchange (accountId emxId : String) (status : EmxStatus) (nextSyncTime : String)
    (fields : ExchangeFields) (clearFields : List ClearField) :
    ExchangeProg (Except DbError ExchangeRow) := do
  let now : String ← ask (.now 0)
  request (.updateExternalExchange accountId emxId ⟨status, nextSyncTime, fields, clearFields, now⟩)

def deleteExternalExchange (accountId emxId : String) : ExchangeProg (Except DbError Unit) :=
  request (.deleteExternalExchange accountId emxId)

def listExchangesDue (horizon : String) : ExchangeProg (Except DbError (List ExchangeRow)) :=
  request (.listExchangesDue horizon)

def findExternalExchangeBySubscriptionId (subscriptionId : String) :
    ExchangeProg (Except DbError (Option ExchangeRow)) :=
  request (.findExternalExchangeBySubscriptionId subscriptionId)

def MAX_BATCH_ENTRIES : Nat := 10

def MAX_BATCH_BYTES : Nat := 256 * 1024

/-- The chunk in progress and its bytes go along. -/
def chunkEntriesFrom (entryBytes : InboundPayload → Nat) :
    List InboundPayload → List InboundPayload → Nat → List (List InboundPayload)
  | [], currentChunk, _ => if currentChunk = [] then [] else [currentChunk]
  | entry :: entries, currentChunk, currentBytes =>
    if MAX_BATCH_ENTRIES ≤ currentChunk.length ∨
        (MAX_BATCH_BYTES < currentBytes + entryBytes entry ∧ currentChunk ≠ []) then
      currentChunk :: chunkEntriesFrom entryBytes entries [entry] (entryBytes entry)
    else
      chunkEntriesFrom entryBytes entries (currentChunk ++ [entry])
        (currentBytes + entryBytes entry)

def chunkEntries (entryBytes : InboundPayload → Nat) (entries : List InboundPayload) :
    List (List InboundPayload) :=
  chunkEntriesFrom entryBytes entries [] 0

/-- The chunks one after the other, up to one that fails. -/
def sendChunks : List (List InboundPayload) → ExchangeProg (Except DbError Unit)
  | [] => return .ok ()
  | chunk :: chunks => do
    let result : Except DbError Unit ← Prog.perform (Cmd.sendInbound chunk)
    match result with
    | .error error => return .error error
    | .ok () => sendChunks chunks

def sendBatch (env : Env) (entries : List InboundPayload) : ExchangeProg (Except DbError Unit) :=
  sendChunks (chunkEntries env.entryBytes entries)

theorem flatten_chunkEntriesFrom (entryBytes : InboundPayload → Nat)
    (entries currentChunk : List InboundPayload) (currentBytes : Nat) :
    (chunkEntriesFrom entryBytes entries currentChunk currentBytes).flatten =
      currentChunk ++ entries := by
  induction entries generalizing currentChunk currentBytes with
  | nil =>
    unfold chunkEntriesFrom
    split
    · next hempty => simp [hempty]
    · simp
  | cons entry entries ih =>
    unfold chunkEntriesFrom
    split
    · simp [ih]
    · simp [ih]

/-- The chunks hold the entries, in order. -/
theorem flatten_chunkEntries (entryBytes : InboundPayload → Nat) (entries : List InboundPayload) :
    (chunkEntries entryBytes entries).flatten = entries :=
  flatten_chunkEntriesFrom entryBytes entries [] 0

/-! ### Which calls they make -/

section

variable {P : Cmd → Prop} {α : Type}

theorem only_accounts (h : Permits P) (p : AccountsTable.DbProg α) : (accounts p).Only P :=
  .embed (Prog.only_of_forall h.accounts p)

theorem only_createExternalExchange (h : Permits P) {accountId : String}
    (hcreate : ∀ id data, P (.exchanges (.createExternalExchange accountId id data)))
    (platform : EmxPlatform) (emailAddress : String) (status : EmxStatus) (nextSyncTime : String)
    (fields : ExchangeFields) : (createExternalExchange accountId platform emailAddress status
      nextSyncTime fields).Only P :=
  .perform (h.ask _) fun _ => .perform (h.ask _) fun _ => ⟨hcreate _ _, fun _ => trivial⟩

theorem only_updateExternalExchange (h : Permits P) {accountId emxId nextSyncTime : String}
    {status : EmxStatus} {fields : ExchangeFields} {clearFields : List ClearField}
    (hupdate : ∀ now, P (.exchanges (.updateExternalExchange accountId emxId
      ⟨status, nextSyncTime, fields, clearFields, now⟩))) :
    (updateExternalExchange accountId emxId status nextSyncTime fields clearFields).Only P :=
  .perform (h.ask _) fun _ => ⟨hupdate _, fun _ => trivial⟩

theorem only_sendChunks (h : Permits P) (chunks : List (List InboundPayload)) :
    (sendChunks chunks).Only P := by
  induction chunks with
  | nil => trivial
  | cons chunk chunks ih =>
    refine .perform (h.sendInbound chunk) fun result => ?_
    split
    · trivial
    · exact ih

theorem only_sendBatch (h : Permits P) (env : Env) (entries : List InboundPayload) :
    (sendBatch env entries).Only P :=
  only_sendChunks h _

end

/-! ## Renewals -/

def POLL_INTERVAL_MINUTES : Nat := 60

inductive RenewalErrorKind
  | providerRenewalFailed | providerConnectionRefused
deriving DecidableEq, Repr

structure ProviderRenewalError where
  kind : RenewalErrorKind
  cause : String
deriving DecidableEq, Repr

def renewalFailed (cause : String) : ProviderRenewalError := ⟨.providerRenewalFailed, cause⟩

/-- Counts the failure of an exchange that is polled; the third in a row deactivates it. -/
def recordFailure (emx : ExchangeRow) (cause : String) : ExchangeProg Unit := do
  let failures := (emx.fields.consecutiveFailures).getD 0 + 1
  if 3 ≤ failures then do
    let _ ← updateExternalExchange emx.accountId emx.id .activationFailed emx.nextSyncTime
      { noFields with errorReason := some cause, consecutiveFailures := some failures } []
    return ()
  else do
    let _ ← updateExternalExchange emx.accountId emx.id emx.status emx.nextSyncTime
      { noFields with consecutiveFailures := some failures } []
    return ()

section

variable {P : Cmd → Prop} {emx : ExchangeRow}

theorem only_recordFailure (h : Permits P) (cause : String)
    (hupdate : ∀ status errorReason now, P (.exchanges (.updateExternalExchange emx.accountId
      emx.id ⟨status, emx.nextSyncTime, { noFields with
        errorReason := errorReason
        consecutiveFailures := some (emx.fields.consecutiveFailures.getD 0 + 1) }, [], now⟩))) :
    (recordFailure emx cause).Only P := by
  unfold recordFailure
  dsimp only
  split
  · exact (only_updateExternalExchange h fun _ => hupdate _ _ _).bind fun _ => trivial
  · exact (only_updateExternalExchange h fun _ => hupdate _ _ _).bind fun _ => trivial

end

end SesEmailAdapter.Exchanges.ExchangeService
