import SesEmailAdapter.Exchanges.ExchangeService

/-! # ImapAdapter

The renewal of an IMAP exchange: connect, check the mailbox, search beyond the stored uid, enqueue
at most 500 messages and store the highest of their uids. -/

namespace SesEmailAdapter.Exchanges.ImapAdapter
open Database.ExchangesDatabase hiding Cmd settle
open Exchanges.ExchangeService

/-- The structured state, or the cursor of an exchange that has none. -/
def resolveImapSyncState (env : Env) (emx : ExchangeRow) : Except String ImapSyncState :=
  match emx.fields.syncState with
  | some state => .ok state
  | none => match emx.fields.syncCursor with
    | none => .error ("Missing sync state: exchange " ++ emx.id ++
        " has neither syncState nor a legacy syncCursor")
    | some cursor => env.parseSyncCursor cursor

def handleRenewalFailure (emx : ExchangeRow) (kind : RenewalErrorKind) (cause : String) :
    ExchangeProg (Except ProviderRenewalError Unit) := do
  recordFailure emx cause
  return .error ⟨kind, cause⟩

def imapFailure (emx : ExchangeRow) (error : ImapError) :
    ExchangeProg (Except ProviderRenewalError Unit) :=
  handleRenewalFailure emx
    (if error.kind = .connectionRefused then .providerConnectionRefused else .providerRenewalFailed)
    error.reason

/-- Up to `attempts` connects; only an error that may pass is worth another one. -/
def connect (config : ImapConfig) (password : String) :
    Nat → ImapError → ExchangeProg (Except ImapError Unit)
  | 0, lastConnectError => return .error lastConnectError
  | attempts + 1, _ => do
    let connectResult : Except ImapError Unit ← ask (.imapConnect config password)
    match connectResult with
    | .ok () => return .ok ()
    | .error error =>
      if error.kind = .transient ∨ error.kind = .connectionRefused then
        connect config password attempts error
      else return .error error

/-- The search by sequence number answers with the last message at least. -/
def searchNewUids (config : ImapConfig) (lastKnownUid : Nat) :
    ExchangeProg (Except ImapError (List Nat)) := do
  let searchResults : Except ImapError (List Nat) ← ask (.imapSearch config lastKnownUid)
  return searchResults.map fun uids =>
    (uids.filter (lastKnownUid < ·)).mergeSort fun a b => decide (a ≤ b)

def inboundOf (env : Env) (emx : ExchangeRow) (uid : Nat) : InboundPayload :=
  ⟨.imap, env.uidText uid, emx.id, emx.accountId⟩

def searchFrom (lastUid : Nat) (includeOverlap : Bool) : Nat :=
  if includeOverlap then lastUid - 10 else lastUid

/-- What becomes of the uids that a search has found, in ascending order. -/
def enqueueNew (env : Env) (emx : ExchangeRow) (uidvalidity : Nat) (newUids : List Nat) :
    ExchangeProg (Except ProviderRenewalError Unit) :=
  match (newUids.take 500).getLast? with
  | some highestUid => do
    let batchResult ← sendBatch env ((newUids.take 500).map (inboundOf env emx))
    match batchResult with
    | .error _ => return .error (renewalFailed "SQS batch send failed")
    | .ok () => do
      let nextSyncTime : String ← ask (.now POLL_INTERVAL_MINUTES)
      let lastSyncAt : String ← ask (.now 0)
      let _ ← updateExternalExchange emx.accountId emx.id emx.status nextSyncTime
        { noFields with
          syncCursor := some (env.formatSyncCursor uidvalidity highestUid)
          syncState := some ⟨uidvalidity, highestUid⟩
          lastSyncAt := some lastSyncAt
          consecutiveFailures := some 0 } []
      return .ok ()
  | none => do
    let nextSyncTime : String ← ask (.now POLL_INTERVAL_MINUTES)
    let lastSyncAt : String ← ask (.now 0)
    let _ ← updateExternalExchange emx.accountId emx.id emx.status nextSyncTime
      { noFields with lastSyncAt := some lastSyncAt, consecutiveFailures := some 0 } []
    return .ok ()

def renew (env : Env) (emx : ExchangeRow) (includeOverlap : Bool) :
    ExchangeProg (Except ProviderRenewalError Unit) :=
  match emx.fields.imapConfig with
  | none => return .error (renewalFailed "Missing imapConfig")
  | some imapConfig => do
    let decryptResult : Except String String ← ask (.decrypt imapConfig.encryptedPassword)
    match decryptResult with
    | .error _ => return .error (renewalFailed "decryption failed")
    | .ok password => do
      let connectResult ← connect imapConfig password 5 ⟨.unknown, ""⟩
      match connectResult with
      | .error error => imapFailure emx error
      | .ok () => do
        let stateResult : Except ImapError Nat ← ask (.imapInboxState imapConfig)
        match stateResult with
        | .error error => imapFailure emx error
        | .ok currentUidvalidity =>
          match resolveImapSyncState env emx with
          | .error cause => handleRenewalFailure emx .providerRenewalFailed cause
          | .ok syncState =>
            if currentUidvalidity ≠ syncState.uidvalidity then
              handleRenewalFailure emx .providerRenewalFailed
                "Mailbox was rebuilt on the server (UIDVALIDITY changed)"
            else do
              let searchResult ←
                searchNewUids imapConfig (searchFrom syncState.lastUid includeOverlap)
              match searchResult with
              | .error error => imapFailure emx error
              | .ok newUids => enqueueNew env emx currentUidvalidity newUids

/-! ## IDLE -/

def idle (emx : ExchangeRow) : ExchangeProg (Except ImapError IdleResult) :=
  match emx.fields.imapConfig with
  | none => return .error ⟨.unknown, "missing imapConfig"⟩
  | some config => do
    let decryptResult : Except String String ← ask (.decrypt config.encryptedPassword)
    match decryptResult with
    | .error _ => return .error ⟨.unknown, "decryption failed"⟩
    | .ok password => do
      let connectResult : Except ImapError Unit ← ask (.imapConnect config password)
      match connectResult with
      | .error error => return .error error
      | .ok () => ask (.imapIdle config)

def idleAndDispatch (emx : ExchangeRow) : ExchangeProg Unit := do
  let _ ← sendDispatch ⟨emx.id, emx.accountId, none⟩
  let result ← idle emx
  match result with
  | .ok .newMail => do
    let _ ← sendDispatch ⟨emx.id, emx.accountId, none⟩
    return ()
  | _ => return ()

/-! ## Which calls it makes -/

section

variable {P : Cmd → Prop} {env : Env} {emx : ExchangeRow}

theorem only_imapFailure (h : Permits P) (error : ImapError)
    (hupdate : ∀ status errorReason now, P (.exchanges (.updateExternalExchange emx.accountId
      emx.id ⟨status, emx.nextSyncTime, { noFields with
        errorReason := errorReason
        consecutiveFailures := some (emx.fields.consecutiveFailures.getD 0 + 1) }, [], now⟩))) :
    (imapFailure emx error).Only P :=
  (only_recordFailure h _ hupdate).bind fun _ => trivial

theorem only_connect {config : ImapConfig} {password : String}
    (hask : P (.ask (.imapConnect config password))) (attempts : Nat)
    (lastConnectError : ImapError) : (connect config password attempts lastConnectError).Only P := by
  induction attempts generalizing lastConnectError with
  | zero => trivial
  | succ attempts ih =>
    refine .perform hask fun connectResult => ?_
    split
    · trivial
    · split
      · exact ih _
      · trivial

theorem only_enqueueNew (h : Permits P)
    (hupdate : ∀ update, P (.exchanges (.updateExternalExchange emx.accountId emx.id update)))
    (uidvalidity : Nat) (newUids : List Nat) : (enqueueNew env emx uidvalidity newUids).Only P := by
  unfold enqueueNew
  split
  · refine (only_sendBatch h env _).bind fun batchResult => ?_
    split
    · trivial
    · exact .perform (h.ask _) fun _ => .perform (h.ask _) fun _ =>
        (only_updateExternalExchange h fun _ => hupdate _).bind fun _ => trivial
  · exact .perform (h.ask _) fun _ => .perform (h.ask _) fun _ =>
      (only_updateExternalExchange h fun _ => hupdate _).bind fun _ => trivial

/-- A renewal updates its own exchange. -/
theorem only_renew (h : Permits P)
    (hupdate : ∀ update, P (.exchanges (.updateExternalExchange emx.accountId emx.id update)))
    (includeOverlap : Bool) : (renew env emx includeOverlap).Only P := by
  unfold renew
  split
  · trivial
  refine .perform (h.ask _) fun decryptResult => ?_
  split
  · trivial
  refine (only_connect (h.ask _) _ _).bind fun connectResult => ?_
  split
  · exact only_imapFailure h _ fun _ _ _ => hupdate _
  refine .perform (h.ask _) fun stateResult => ?_
  split
  · exact only_imapFailure h _ fun _ _ _ => hupdate _
  split
  · exact (only_recordFailure h _ fun _ _ _ => hupdate _).bind fun _ => trivial
  split
  · exact (only_recordFailure h _ fun _ _ _ => hupdate _).bind fun _ => trivial
  refine .bind (.perform (h.ask _) fun _ => trivial) fun searchResult => ?_
  split
  · exact only_imapFailure h _ fun _ _ _ => hupdate _
  · exact only_enqueueNew h hupdate _ _

/-- An IDLE session writes nothing. -/
theorem only_idleAndDispatch (h : Permits P) : (idleAndDispatch emx).Only P := by
  have hidle : (idle emx).Only P := by
    unfold idle
    split
    · trivial
    refine .perform (h.ask _) fun decryptResult => ?_
    split
    · trivial
    refine .perform (h.ask _) fun connectResult => ?_
    split
    · trivial
    · exact ⟨h.ask _, fun _ => trivial⟩
  refine .perform (h.sendDispatch _) fun _ => hidle.bind fun result => ?_
  split
  · exact .perform (h.sendDispatch _) fun _ => trivial
  · trivial

end

end SesEmailAdapter.Exchanges.ImapAdapter
