import SesEmailAdapter.Api.ExternalExchangesApi
import SesEmailAdapter.Exchanges.EmxDispatchWorker
import SesEmailAdapter.Lib.Pool

/-! # What tasks know of an exchange

Requests on exchanges, dispatches, IDLE sessions and webhooks. A write states the status of the
exchange anew, from the row that its task has read; only a connection test that has succeeded sets
it to active by itself. -/

namespace SesEmailAdapter.Exchanges.ExchangeHistory
open Lib
open SesEmailAdapter.Types Database.Shared
open Database.ExchangesDatabase hiding Cmd settle
open Exchanges.ExchangeService Exchanges.EmxDispatchWorker
open Api.ExternalExchangesApi
open Api.ThreadsApi (ApiError)
open Resource.ResourceDatabase (truthy)

/-! ## Tasks -/

inductive Kind
  | request | sync
deriving DecidableEq, Repr

/-- A mailbox is connected, its connection is changed, or it is disconnected. -/
def IsRequest (env : Env) (prog : ExchangeProg Unit) : Prop :=
  (∃ accountId auth body, prog = (fun _ => ()) <$> createExchange env accountId auth body) ∨
    (∃ accountId emxId body, prog = (fun _ => ()) <$> patchExchange accountId emxId body) ∨
    ∃ accountId emxId, prog = (fun _ => ()) <$> deleteExchange accountId emxId

/-- A dispatch, an IDLE session, or a webhook. -/
def IsSync (env : Env) (prog : ExchangeProg Unit) : Prop :=
  (∃ payload, prog = dispatch env payload) ∨ (∃ emx, prog = ImapAdapter.idleAndDispatch emx) ∨
    (∃ notification, prog = (fun _ => ()) <$> GmailProvider.handle env notification) ∨
    (∃ validationToken body, prog = (fun _ => ()) <$> OutlookProvider.handle env validationToken body) ∨
    ∃ type deviceClientId token, prog = JmapAdapter.handleWebhook type deviceClientId token

def IsTask (env : Env) : Kind → ExchangeProg Unit → Prop
  | .request => IsRequest env
  | .sync => IsSync env

/-! ## What they know -/

def failures (row : ExchangeRow) : Nat := row.fields.consecutiveFailures.getD 0

structure Memo where
  kind : Kind
  /-- A test of the connection has succeeded. -/
  tested : Bool
  /-- The rows it has read, as its own writes leave them, and since when. -/
  reads : List (Nat × ExchangeRow)
  /-- The exchange that it has counted a failure of, and when. -/
  counted : Option ((String × String) × Nat)

def Memo.learn (memo : Memo) (tick : Nat) (rows : List ExchangeRow) : Memo :=
  { memo with reads := rows.map (fun row => (tick, row)) ++ memo.reads }

def Memo.write (memo : Memo) (tick : Nat) (key : String × String) (update : ExchangeUpdate) : Memo :=
  { memo with
    reads := memo.reads.map fun read =>
      if exchangeKey read.2 = key then (tick, update.apply read.2) else read
    counted := if update.fields.consecutiveFailures.getD 0 = 0 then memo.counted
      else some (key, tick) }

/-- `none` where an answer is none that the table gives: a row under another key, or two rows under
one key. -/
def Memo.next (memo : Memo) (turn : Turn) : (c : Cmd) → c.Answer → Option Memo
  | .exchanges (.getExternalExchange accountId emxId), answer =>
    match (answer : Except DbError (Option ExchangeRow)) with
    | .ok (some row) =>
      if exchangeKey row = (accountId, emxId) then some (memo.learn turn.tick [row]) else none
    | _ => some memo
  | .exchanges (.listExternalExchanges _), answer =>
    match (answer : Except DbError (List ExchangeRow)) with
    | .ok rows => if (rows.map exchangeKey).Nodup then some (memo.learn turn.tick rows) else none
    | _ => some memo
  | .exchanges (.listExchangesDue _), answer =>
    match (answer : Except DbError (List ExchangeRow)) with
    | .ok rows => if (rows.map exchangeKey).Nodup then some (memo.learn turn.tick rows) else none
    | _ => some memo
  | .exchanges (.findExternalExchangeBySubscriptionId _), answer =>
    match (answer : Except DbError (Option ExchangeRow)) with
    | .ok (some row) => some (memo.learn turn.tick [row])
    | _ => some memo
  | .exchanges (.updateExternalExchange accountId emxId update), _ =>
    if turn.fate = .refused then some memo
    else some (memo.write turn.tick (accountId, emxId) update)
  | .ask (.activate ..), answer =>
    match (answer : Except String ActivationResult) with
    | .ok _ => some { memo with tested := true }
    | .error _ => some memo
  | .logRenewal .., _ => some { memo with counted := none }
  | _, _ => some memo

/-- The status stays, or one more failure is counted, and the third of them deactivates. -/
def Plain (update : ExchangeUpdate) (row : ExchangeRow) : Prop :=
  (update.status = row.status ∧ (update.fields.consecutiveFailures = none ∨
    update.fields.consecutiveFailures = some 0)) ∨
  (update.fields.consecutiveFailures = some (failures row + 1) ∧
    update.status = if 3 ≤ failures row + 1 then .activationFailed else row.status)

def Revives (update : ExchangeUpdate) : Prop :=
  update.status = .active ∧ update.fields.consecutiveFailures = some 0

def Memo.Writes (memo : Memo) (key : String × String) (update : ExchangeUpdate) : Prop :=
  if .errorReason ∈ update.clearFields then
    memo.kind = .request ∧ memo.tested = true ∧ Revives update
  else ∃ read ∈ memo.reads, exchangeKey read.2 = key ∧ Plain update read.2

def watch : Monitor Cmd Cmd.Answer Turn (Option Memo) where
  allow q c := ∀ memo, q = some memo → match c with
    | .exchanges (.createExternalExchange ..) => memo.kind = .request
    | .exchanges (.deleteExternalExchange ..) => memo.kind = .request
    | .exchanges (.updateExternalExchange accountId emxId update) =>
      memo.Writes (accountId, emxId) update
    | _ => True
  next q c turn answer := q.bind fun memo => memo.next turn c answer

/-- The answer shows the row. -/
def Tells : (c : Cmd) → c.Answer → ExchangeRow → Prop
  | .exchanges (.getExternalExchange ..), answer, row => answer = .ok (some row)
  | .exchanges (.listExternalExchanges _), answer, row => ∃ rows, answer = .ok rows ∧ row ∈ rows
  | .exchanges (.listExchangesDue _), answer, row => ∃ rows, answer = .ok rows ∧ row ∈ rows
  | .exchanges (.findExternalExchangeBySubscriptionId _), answer, row => answer = .ok (some row)
  | _, _, _ => False

variable {turn : Turn} {clearFields : List ClearField} {tested : Bool}

/-- What a call can do to a memo. -/
theorem Memo.next_cases {memo memo' : Memo} {c : Cmd} {answer : c.Answer}
    (h : memo.next turn c answer = some memo') :
    memo' = memo ∨
    (∃ rows, memo' = memo.learn turn.tick rows ∧ ∀ row ∈ rows, Tells c answer row) ∨
    (∃ accountId emxId update, c = .exchanges (.updateExternalExchange accountId emxId update) ∧
      turn.fate ≠ .refused ∧ memo' = memo.write turn.tick (accountId, emxId) update) ∨
    memo' = { memo with tested := true } ∨ memo' = { memo with counted := none } := by
  unfold Memo.next at h
  split at h
  · split at h
    · next row =>
      split at h
      · cases h
        exact .inr (.inl ⟨[row], rfl, fun _ hrow => List.mem_singleton.mp hrow ▸ rfl⟩)
      · cases h
    · exact .inl (Option.some.inj h).symm
  · split at h
    · next rows =>
      split at h
      · cases h
        exact .inr (.inl ⟨rows, rfl, fun _ hrow => ⟨rows, rfl, hrow⟩⟩)
      · cases h
    · exact .inl (Option.some.inj h).symm
  · split at h
    · next rows =>
      split at h
      · cases h
        exact .inr (.inl ⟨rows, rfl, fun _ hrow => ⟨rows, rfl, hrow⟩⟩)
      · cases h
    · exact .inl (Option.some.inj h).symm
  · split at h
    · next row =>
      cases h
      exact .inr (.inl ⟨[row], rfl, fun _ hrow => List.mem_singleton.mp hrow ▸ rfl⟩)
    · exact .inl (Option.some.inj h).symm
  · split at h
    · exact .inl (Option.some.inj h).symm
    · next hfate => exact .inr (.inr (.inl ⟨_, _, _, rfl, hfate, (Option.some.inj h).symm⟩))
  · split at h
    · exact .inr (.inr (.inr (.inl (Option.some.inj h).symm)))
    · exact .inl (Option.some.inj h).symm
  · exact .inr (.inr (.inr (.inr (Option.some.inj h).symm)))
  · exact .inl (Option.some.inj h).symm

/-! ## What the syncs do -/

section

variable {env : Env} {row : ExchangeRow} {key : String × String} {P P' : ExchangeRow → Prop}
  {q : Option Memo}

def Holds (K : Memo → Prop) (q : Option Memo) : Prop := ∀ memo, q = some memo → K memo

/-- The task has read a row of the key that is of a kind. -/
def Knows (key : String × String) (P : ExchangeRow → Prop) (memo : Memo) : Prop :=
  ∃ read ∈ memo.reads, exchangeKey read.2 = key ∧ P read.2

abbrev SameStatus (row row' : ExchangeRow) : Prop := row'.status = row.status

abbrev SameStanding (row row' : ExchangeRow) : Prop :=
  row'.status = row.status ∧ row'.fields.consecutiveFailures = row.fields.consecutiveFailures

/-- A call that does not write the exchange. -/
def Leaves (key : String × String) (c : Cmd) : Prop :=
  ∀ accountId emxId update, c = .exchanges (.updateExternalExchange accountId emxId update) →
    (accountId, emxId) ≠ key

/-- The entries of an exchange outlast what does not write it. -/
theorem reads_next {key : String × String} {c : Cmd} (hc : Leaves key c) {memo memo' : Memo}
    {answer : c.Answer} (h : memo.next turn c answer = some memo')
    {read : Nat × ExchangeRow} (hread : read ∈ memo.reads) (hkey : exchangeKey read.2 = key) :
    read ∈ memo'.reads := by
  obtain rfl | ⟨rows, rfl, -⟩ | ⟨accountId, emxId, update, rfl, -, rfl⟩ | rfl | rfl :=
    Memo.next_cases h
  · exact hread
  · exact List.mem_append_right _ hread
  · refine List.mem_map.mpr ⟨read, hread, if_neg fun heq => ?_⟩
    exact hc accountId emxId update rfl (heq.symm.trans hkey)
  · exact hread
  · exact hread

theorem Holds.next {c : Cmd} (hc : Leaves key c) {answer : c.Answer}
    (h : Holds (Knows key P) q) : Holds (Knows key P) (watch.next q c turn answer) := by
  intro memo' hmemo'
  obtain ⟨memo, rfl, hnext⟩ := Option.bind_eq_some_iff.mp hmemo'
  obtain ⟨read, hread, hkey, hP⟩ := h memo rfl
  exact ⟨read, reads_next hc hnext hread hkey, hkey, hP⟩

theorem Holds.mono (h : Holds (Knows key P) q) (hP : ∀ row, P row → P' row) :
    Holds (Knows key P') q := by
  intro memo hmemo
  obtain ⟨read, hread, hkey, hrow⟩ := h memo hmemo
  exact ⟨read, hread, hkey, hP _ hrow⟩

/-- A call that is allowed everywhere and does not write the exchange. -/
def Quiet (key : String × String) (c : Cmd) : Prop := (∀ q, watch.allow q c) ∧ Leaves key c

theorem permits_quiet : Permits (Quiet key) where
  ask _ := ⟨fun _ _ _ => trivial, fun _ _ _ h => nomatch h⟩
  accounts _ := ⟨fun _ _ _ => trivial, fun _ _ _ h => nomatch h⟩
  sendDispatch _ := ⟨fun _ _ _ => trivial, fun _ _ _ h => nomatch h⟩
  sendInbound _ := ⟨fun _ _ _ => trivial, fun _ _ _ h => nomatch h⟩
  logRenewal _ _ _ := ⟨fun _ _ _ => trivial, fun _ _ _ h => nomatch h⟩
  getExternalExchange _ _ := ⟨fun _ _ _ => trivial, fun _ _ _ h => nomatch h⟩
  listExternalExchanges _ := ⟨fun _ _ _ => trivial, fun _ _ _ h => nomatch h⟩
  listExchangesDue _ := ⟨fun _ _ _ => trivial, fun _ _ _ h => nomatch h⟩
  findBySubscription _ := ⟨fun _ _ _ => trivial, fun _ _ _ h => nomatch h⟩

/-- A first part that writes nothing keeps what the task knows. -/
theorem quiet_bind {α β : Type} {p : ExchangeProg α} {k : α → ExchangeProg β}
    {Q : Option Memo → β → Prop} (hp : p.Only (Quiet key)) (h : Holds (Knows key P) q)
    (hk : ∀ q a, Holds (Knows key P) q → (k a).Obeys watch Q q) : (p >>= k).Obeys watch Q q := by
  rw [Prog.obeys_bind]
  have hobeys : p.Obeys watch (fun _ _ => True) q := hp.obeys_anywhere (fun _ hc => hc.1) q
  refine (hobeys.keepOnly (fun q c f r hc hq => ?_) hp h).mono fun q a hq => hk q a hq.2
  exact Holds.next hc.2 hq

theorem ask_bind {β : Type} {e : External} {k : e.Answer → ExchangeProg β}
    {Q : Option Memo → β → Prop} (h : Holds (Knows key P) q)
    (hk : ∀ q a, Holds (Knows key P) q → (k a).Obeys watch Q q) :
    (ask e >>= k).Obeys watch Q q :=
  quiet_bind ⟨permits_quiet.ask e, fun _ => trivial⟩ h hk

variable {fields : ExchangeFields} {platform : EmxPlatform} {accountId emxId nextSyncTime : String}

/-- A write from a row that the task has read. -/
theorem obeys_update {status : EmxStatus}
    (h : Holds (Knows (accountId, emxId) P) q) (hclear : .errorReason ∉ clearFields)
    (hplain : ∀ now row, P row → Plain ⟨status, nextSyncTime, fields, clearFields, now⟩ row)
    (hkept : ∀ row, P row → P' row) (hwritten : ∀ now row, P row →
      P' (ExchangeUpdate.apply ⟨status, nextSyncTime, fields, clearFields, now⟩ row)) :
    (updateExternalExchange accountId emxId status nextSyncTime fields clearFields).Obeys watch
      (fun q _ => Holds (Knows (accountId, emxId) P') q) q := by
  refine ask_bind h fun q now h => ⟨fun memo hmemo => ?_, fun turn answer => ?_⟩
  · obtain ⟨read, hread, hkey, hP⟩ := h memo hmemo
    exact (if_neg hclear).mpr ⟨read, hread, hkey, hplain _ _ hP⟩
  · intro memo' hmemo'
    obtain ⟨memo, rfl, hnext⟩ := Option.bind_eq_some_iff.mp hmemo'
    obtain ⟨read, hread, hkey, hP⟩ := h memo rfl
    unfold Memo.next at hnext
    dsimp only at hnext
    split at hnext
    · cases hnext
      exact ⟨read, hread, hkey, hkept _ hP⟩
    · cases hnext
      refine ⟨_, List.mem_map.mpr ⟨read, hread, rfl⟩, ?_⟩
      rw [if_pos hkey]
      exact ⟨hkey, hwritten now _ hP⟩

theorem obeys_lastUpdate {β : Type} {status : EmxStatus} {b : β}
    (h : Holds (Knows (accountId, emxId) P) q) (hclear : .errorReason ∉ clearFields)
    (hplain : ∀ now row, P row → Plain ⟨status, nextSyncTime, fields, clearFields, now⟩ row) :
    (updateExternalExchange accountId emxId status nextSyncTime fields clearFields >>=
      fun _ => .ret b).Obeys watch (fun _ _ => True) q := by
  rw [Prog.obeys_bind]
  have hupdate : (updateExternalExchange accountId emxId status nextSyncTime fields
      clearFields).Obeys watch (fun q _ => Holds (Knows (accountId, emxId) fun _ => True) q) q :=
    obeys_update h hclear hplain (fun _ _ => trivial) fun _ _ _ => trivial
  exact hupdate.mono fun _ _ _ => trivial

variable {emx : ExchangeRow}

theorem sameStatus_plain {nextSyncTime : String} (hfields : fields.consecutiveFailures = none ∨
      fields.consecutiveFailures = some 0) (now : String) (row : ExchangeRow)
    (h : SameStatus emx row) : Plain ⟨emx.status, nextSyncTime, fields, clearFields, now⟩ row :=
  .inl ⟨h.symm, hfields⟩

theorem obeys_recordFailure (h : Holds (Knows (exchangeKey emx) (SameStanding emx)) q)
    (cause : String) : (recordFailure emx cause).Obeys watch (fun _ _ => True) q := by
  have hcount {row : ExchangeRow} (hrow : SameStanding emx row) : failures row = failures emx := by
    rw [failures, failures, hrow.2]
  unfold recordFailure
  dsimp only
  split
  · next hthird =>
    refine obeys_lastUpdate h List.not_mem_nil fun now row hrow => .inr ?_
    rw [hcount hrow]
    exact ⟨rfl, (if_pos hthird).symm⟩
  · next hthird =>
    refine obeys_lastUpdate h List.not_mem_nil fun now row hrow => .inr ?_
    rw [hcount hrow, hrow.1]
    exact ⟨rfl, (if_neg hthird).symm⟩

theorem obeys_imapFailure (h : Holds (Knows (exchangeKey emx) (SameStanding emx)) q)
    (error : ImapError) : (ImapAdapter.imapFailure emx error).Obeys watch (fun _ _ => True) q :=
  Prog.obeys_bind.mpr ((obeys_recordFailure h _).mono fun _ _ _ => trivial)

theorem obeys_renewImap (h : Holds (Knows (exchangeKey emx) (SameStanding emx)) q)
    (includeOverlap : Bool) :
    (ImapAdapter.renew env emx includeOverlap).Obeys watch (fun _ _ => True) q := by
  unfold ImapAdapter.renew
  split
  · trivial
  refine ask_bind h fun q decryptResult h => ?_
  split
  · trivial
  refine quiet_bind (ImapAdapter.only_connect (permits_quiet.ask _) _ _) h fun q connectResult h => ?_
  split
  · exact obeys_imapFailure h _
  refine ask_bind h fun q stateResult h => ?_
  split
  · exact obeys_imapFailure h _
  split
  · exact Prog.obeys_bind.mpr ((obeys_recordFailure h _).mono fun _ _ _ => trivial)
  split
  · exact Prog.obeys_bind.mpr ((obeys_recordFailure h _).mono fun _ _ _ => trivial)
  refine quiet_bind (.perform (permits_quiet.ask _) fun _ => trivial) h fun q searchResult h => ?_
  split
  · exact obeys_imapFailure h _
  have hstatus : Holds (Knows (exchangeKey emx) (SameStatus emx)) q := h.mono fun _ hrow => hrow.1
  unfold ImapAdapter.enqueueNew
  split
  · refine quiet_bind (only_sendBatch permits_quiet env _) hstatus fun q batchResult h => ?_
    split
    · trivial
    · exact ask_bind h fun q _ h => ask_bind h fun q _ h =>
        obeys_lastUpdate h List.not_mem_nil (sameStatus_plain (.inr rfl))
  · exact ask_bind hstatus fun q _ h => ask_bind h fun q _ h =>
      obeys_lastUpdate h List.not_mem_nil (sameStatus_plain (.inr rfl))

theorem obeys_performQueryChanges (h : Holds (Knows (exchangeKey emx) (SameStatus emx)) q)
    (apiUrl jmapAccountId inboxId : String) :
    (JmapAdapter.performQueryChanges env apiUrl jmapAccountId inboxId emx).Obeys watch
      (fun _ _ => True) q := by
  refine ask_bind h fun q queryChangesResult h => ?_
  split
  · split
    · trivial
    · exact quiet_bind (only_sendBatch permits_quiet env _) h fun q _ h => ask_bind h fun q _ h =>
        obeys_lastUpdate h List.not_mem_nil (sameStatus_plain (.inl rfl))
  · trivial

/-- The renewal goes on by polling from what it has read. -/
theorem obeys_handlePushSubscription (h : Holds (Knows (exchangeKey emx) (SameStanding emx)) q)
    (jmapConfig : JmapConfig) (session : JmapSession) :
    (JmapAdapter.handlePushSubscription env emx jmapConfig session).Obeys watch (fun q handled =>
      handled = false → Holds (Knows (exchangeKey emx) (SameStanding emx)) q) q := by
  have hpush {q : Option Memo} {nextSyncTime : String} {fields : ExchangeFields}
      (hfields : fields.consecutiveFailures = some 0)
      (h : Holds (Knows (exchangeKey emx) (SameStanding emx)) q) :
      (updateExternalExchange emx.accountId emx.id emx.status nextSyncTime fields [] >>= fun _ =>
        JmapAdapter.performQueryChanges env session.apiUrl session.jmapAccountId jmapConfig.inboxId
          emx >>= fun _ => .ret true).Obeys watch (fun q handled =>
            handled = false → Holds (Knows (exchangeKey emx) (SameStanding emx)) q) q := by
    rw [Prog.obeys_bind]
    have hupdate : (updateExternalExchange emx.accountId emx.id emx.status nextSyncTime fields
        []).Obeys watch (fun q _ => Holds (Knows (exchangeKey emx) (SameStatus emx)) q) q :=
      obeys_update h List.not_mem_nil (fun now row hrow => .inl ⟨hrow.1.symm, .inr hfields⟩)
        (fun _ hrow => hrow.1) fun _ _ _ => rfl
    refine hupdate.mono fun q _ h => Prog.obeys_bind.mpr ?_
    exact (obeys_performQueryChanges h _ _ _).mono fun _ _ _ hhandled => nomatch hhandled
  unfold JmapAdapter.handlePushSubscription
  split
  · split
    · refine quiet_bind (JmapAdapter.only_registerPush permits_quiet session) h fun q registered h => ?_
      split
      · exact fun _ => h
      · exact ask_bind h fun q _ h => hpush rfl h
    · exact fun _ => h
  · refine ask_bind h fun q verifyResult h => ?_
    split
    · rw [Prog.obeys_bind, JmapAdapter.clearPushSubscription, Prog.obeys_bind]
      have hclear : (updateExternalExchange emx.accountId emx.id emx.status emx.nextSyncTime noFields
          [.pushSubscriptionId]).Obeys watch
            (fun q _ => Holds (Knows (exchangeKey emx) (SameStanding emx)) q) q := by
        refine obeys_update h (by decide) (fun now row hrow => .inl ⟨hrow.1.symm, .inl rfl⟩)
          (fun _ hrow => hrow) fun now row hrow => ⟨rfl, ?_⟩
        rw [apply_consecutiveFailures]
        exact hrow.2
      exact hclear.mono fun q _ h _ => h
    · exact ask_bind h fun q _ h => hpush rfl h

theorem obeys_enqueueNew (h : Holds (Knows (exchangeKey emx) (SameStatus emx)) q)
    (emailIds : List String) (newQueryState : String) :
    (JmapAdapter.enqueueNew env emx emailIds newQueryState).Obeys watch (fun _ _ => True) q := by
  refine quiet_bind (only_sendBatch permits_quiet env _) h fun q batchResult h => ?_
  split
  · trivial
  · exact ask_bind h fun q _ h => ask_bind h fun q _ h =>
      obeys_lastUpdate h List.not_mem_nil (sameStatus_plain (.inr rfl))

theorem obeys_pollChanges (h : Holds (Knows (exchangeKey emx) (SameStanding emx)) q)
    (jmapConfig : JmapConfig) (session : JmapSession) :
    (JmapAdapter.pollChanges env emx jmapConfig session).Obeys watch (fun _ _ => True) q := by
  have hfailure {q : Option Memo} (cause : String)
      (h : Holds (Knows (exchangeKey emx) (SameStanding emx)) q) :
      (JmapAdapter.handleRenewalFailure emx cause).Obeys watch (fun _ _ => True) q :=
    Prog.obeys_bind.mpr ((obeys_recordFailure h _).mono fun _ _ _ => trivial)
  refine ask_bind h fun q queryChangesResult h => ?_
  have hstatus : Holds (Knows (exchangeKey emx) (SameStatus emx)) q := h.mono fun _ hrow => hrow.1
  split
  · exact hfailure _ h
  · split
    · refine ask_bind hstatus fun q queryResult h => ?_
      split
      · trivial
      · trivial
      · trivial
      · split
        · trivial
        · exact obeys_enqueueNew h _ _
    · exact hfailure _ h
  · trivial
  · split
    · trivial
    · exact obeys_enqueueNew hstatus _ _

theorem obeys_renewJmap (h : Holds (Knows (exchangeKey emx) (SameStanding emx)) q) :
    (JmapAdapter.renew env emx).Obeys watch (fun _ _ => True) q := by
  unfold JmapAdapter.renew
  split
  · trivial
  refine ask_bind h fun q decryptResult h => ?_
  split
  · trivial
  refine ask_bind h fun q sessionResult h => ?_
  split
  · exact Prog.obeys_bind.mpr ((obeys_recordFailure h _).mono fun _ _ _ => trivial)
  refine Prog.obeys_bind.mpr ((obeys_handlePushSubscription h _ _).mono fun q handled h => ?_)
  cases handled with
  | true => trivial
  | false => exact obeys_pollChanges (h rfl) _ _

theorem obeys_storeExpiry (h : Holds (Knows (exchangeKey emx) (SameStatus emx)) q)
    (expiresAt : String) :
    (GmailProvider.storeExpiry emx expiresAt).Obeys watch (fun _ _ => True) q :=
  obeys_lastUpdate h List.not_mem_nil (sameStatus_plain (.inl rfl))

theorem obeys_renewGmail (h : Holds (Knows (exchangeKey emx) (SameStatus emx)) q) :
    (GmailProvider.renew emx).Obeys watch (fun _ _ => True) q := by
  refine quiet_bind (GmailProvider.only_getToken permits_quiet) h fun q tokenResult h => ?_
  split
  · trivial
  refine ask_bind h fun q response h => ?_
  split
  · trivial
  · trivial
  · exact obeys_storeExpiry h _

theorem obeys_renewOutlook (h : Holds (Knows (exchangeKey emx) (SameStatus emx)) q) :
    (OutlookProvider.renew emx).Obeys watch (fun _ _ => True) q := by
  refine quiet_bind (GmailProvider.only_getToken permits_quiet) h fun q tokenResult h => ?_
  split
  · trivial
  refine ask_bind h fun q response h => ?_
  split
  · trivial
  · trivial
  · exact obeys_storeExpiry h _

theorem obeys_processExchange (h : Holds (Knows (exchangeKey emx) (SameStanding emx)) q)
    (includeOverlap : Bool) :
    (processExchange env emx includeOverlap).Obeys watch (fun _ _ => True) q := by
  have hstatus : Holds (Knows (exchangeKey emx) (SameStatus emx)) q := h.mono fun _ hrow => hrow.1
  have hlog {renewal : ExchangeProg (Except ProviderRenewalError Unit)} {q : Option Memo}
      (hrenewal : renewal.Obeys watch (fun _ _ => True) q) :
      (renewal >>= fun renewResult => Prog.perform (Cmd.logRenewal emx.accountId emx.id
        renewResult.isOk)).Obeys watch (fun _ _ => True) q :=
    Prog.obeys_bind.mpr (hrenewal.mono fun _ _ _ => ⟨fun _ _ => trivial, fun _ _ => trivial⟩)
  unfold processExchange renewWith
  cases emx.platform with
  | none => trivial
  | some platform =>
    cases platform with
    | gmail => exact hlog (obeys_renewGmail hstatus)
    | outlook => exact hlog (obeys_renewOutlook hstatus)
    | imap => exact hlog (obeys_renewImap h _)
    | jmap => exact hlog (obeys_renewJmap h)

/-- The rows that a task has read, each as it stands. -/
def HoldsAll (rows : List ExchangeRow) (q : Option Memo) : Prop :=
  ∀ row ∈ rows, Holds (Knows (exchangeKey row) (SameStanding row)) q

theorem permits_leaves : Permits (Leaves key) where
  ask _ _ _ _ h := nomatch h
  accounts _ _ _ _ h := nomatch h
  sendDispatch _ _ _ _ h := nomatch h
  sendInbound _ _ _ _ h := nomatch h
  logRenewal _ _ _ _ _ _ h := nomatch h
  getExternalExchange _ _ _ _ _ h := nomatch h
  listExternalExchanges _ _ _ _ h := nomatch h
  listExchangesDue _ _ _ _ h := nomatch h
  findBySubscription _ _ _ _ h := nomatch h

theorem leaves_update {row : ExchangeRow} (hne : exchangeKey row ≠ key) (update : ExchangeUpdate) :
    Leaves key (.exchanges (.updateExternalExchange row.accountId row.id update)) := by
  rintro _ _ _ ⟨⟩
  exact hne

variable {q : Option Memo} {accountId emxId : String} {rows : List ExchangeRow}

theorem obeys_processExchanges (hnodup : (rows.map exchangeKey).Nodup)
    (h : HoldsAll rows q) :
    (processExchanges env rows).Obeys watch (fun _ _ => True) q := by
  induction rows generalizing q with
  | nil => trivial
  | cons row rows ih =>
    rw [List.map_cons, List.nodup_cons] at hnodup
    obtain ⟨hnot, hnodup⟩ := hnodup
    have honly : (processExchange env row false).Only fun c =>
        ∀ other ∈ rows, Leaves (exchangeKey other) c := by
      have hne {other : ExchangeRow} (hother : other ∈ rows) :
          exchangeKey row ≠ exchangeKey other :=
        fun heq => hnot (heq ▸ List.mem_map_of_mem hother)
      refine only_processExchange ?_ (fun update other hother => leaves_update (hne hother) update) _
      exact ⟨fun e _ _ => permits_leaves.ask e, fun c _ _ => permits_leaves.accounts c,
        fun payload _ _ => permits_leaves.sendDispatch payload,
        fun chunk _ _ => permits_leaves.sendInbound chunk,
        fun a e r _ _ => permits_leaves.logRenewal a e r,
        fun a e _ _ => permits_leaves.getExternalExchange a e,
        fun a _ _ => permits_leaves.listExternalExchanges a,
        fun hz _ _ => permits_leaves.listExchangesDue hz,
        fun sub _ _ => permits_leaves.findBySubscription sub⟩
    have hrest : HoldsAll rows q := fun other hother => h other (List.mem_cons_of_mem _ hother)
    refine Prog.obeys_bind.mpr (((obeys_processExchange (h row List.mem_cons_self) false).keepOnly
      (fun q c f r hc hq other hother => ?_) honly hrest).mono fun q _ hq => ih hnodup hq.2)
    exact Holds.next (hc other hother) (hq other hother)

/-! ### What an answer tells -/

theorem knows_learn {memo : Memo} {tick : Nat} (hrow : row ∈ rows) :
    Knows (exchangeKey row) (SameStanding row) (memo.learn tick rows) :=
  ⟨(tick, row), List.mem_append_left _ (List.mem_map.mpr ⟨row, hrow, rfl⟩), rfl, rfl, rfl⟩

theorem holds_get :
    Holds (fun memo => Knows (accountId, emxId) (SameStanding row) memo ∧
        exchangeKey row = (accountId, emxId))
      (watch.next q (.exchanges (.getExternalExchange accountId emxId)) turn (.ok (some row))) := by
  intro memo' hmemo'
  obtain ⟨memo, rfl, hnext⟩ := Option.bind_eq_some_iff.mp hmemo'
  unfold Memo.next at hnext
  dsimp only at hnext
  split at hnext
  · next hkey =>
    cases hnext
    exact ⟨hkey ▸ knows_learn (List.mem_singleton.mpr rfl), hkey⟩
  · cases hnext

/-- Nothing is asked of a task that has got such an answer. -/
theorem obeys_none {α : Type} (p : ExchangeProg α) : p.Obeys watch (fun _ _ => True) none := by
  induction p with
  | ret a => trivial
  | call c k ih => exact ⟨fun _ h => (nomatch h), fun _ r => ih r⟩

theorem next_astray {horizon : String} (hdup : ¬ (rows.map exchangeKey).Nodup) :
    watch.next q (.exchanges (.listExchangesDue horizon)) turn (.ok rows) = none := by
  cases q with
  | none => rfl
  | some memo => exact if_neg hdup

/-- The list of active exchanges, and what is done with it. -/
theorem listed_bind {β : Type} {horizon : String} {p : ExchangeProg β}
    (hp : ∀ q, HoldsAll rows q → (rows.map exchangeKey).Nodup → p.Obeys watch (fun _ _ => True) q) :
    p.Obeys watch (fun _ _ => True)
      (watch.next q (.exchanges (.listExchangesDue horizon)) turn (.ok rows)) := by
  by_cases hnodup : (rows.map exchangeKey).Nodup
  · refine hp _ (fun row hrow memo hmemo => ?_) hnodup
    obtain ⟨memo, -, hnext⟩ := Option.bind_eq_some_iff.mp hmemo
    cases (if_pos hnodup).symm.trans hnext
    exact knows_learn hrow
  · rw [next_astray hnodup]
    exact obeys_none _

theorem obeys_dispatch (payload : Option DispatchPayload) (q : Option Memo) :
    (dispatch env payload).Obeys watch (fun _ _ => True) q := by
  cases payload with
  | some payload =>
    refine .perform (fun _ _ => trivial) fun turn getResult => ?_
    match getResult with
    | .error _ => trivial
    | .ok none => trivial
    | .ok (some emx) =>
      dsimp only
      split
      · refine obeys_processExchange (fun memo hmemo => ?_) _
        obtain ⟨hknows, hkey⟩ := holds_get memo hmemo
        exact hkey ▸ hknows
      · trivial
  | none =>
    refine .perform (fun _ _ => trivial) fun turn horizon =>
      .perform (fun _ _ => trivial) fun turn result => ?_
    match result with
    | .error _ => trivial
    | .ok rows => exact listed_bind fun q h hnodup => obeys_processExchanges hnodup h

/-! ### Webhooks -/

theorem obeys_handleGmail (notification : GmailProvider.Notification) (q : Option Memo) :
    (GmailProvider.handle env notification).Obeys watch (fun _ _ => True) q := by
  have hsync {emx : ExchangeRow} {q : Option Memo} (historyId : String)
      (h : Holds (Knows (exchangeKey emx) (SameStatus emx)) q) :
      (GmailProvider.syncHistory env emx historyId).Obeys watch (fun _ _ => True) q := by
    refine quiet_bind (GmailProvider.only_getToken permits_quiet) h fun q tokenResult h => ?_
    split
    · trivial
    refine ask_bind h fun q historyResp h => ?_
    split
    · trivial
    · trivial
    refine quiet_bind (only_sendBatch permits_quiet env _) h fun q batchResult h => ?_
    split
    · trivial
    · exact ask_bind h fun q _ h =>
        obeys_lastUpdate h List.not_mem_nil (sameStatus_plain (.inl rfl))
  unfold GmailProvider.handle
  split
  · trivial
  refine .perform (fun _ _ => trivial) fun turn verified => ?_
  split
  · split
    · unfold GmailProvider.handleData
      split
      · refine .perform (fun _ _ => trivial) fun turn allActiveResult => ?_
        match allActiveResult with
        | .error _ => trivial
        | .ok active =>
          refine listed_bind fun q h _ => ?_
          dsimp only
          split
          · trivial
          · next emx hfind =>
            exact hsync _ ((h emx (List.mem_of_find?_eq_some hfind)).mono fun _ hrow => hrow.1)
      · trivial
    · trivial
  · trivial

theorem obeys_collect (notifications : List OutlookProvider.Notification) (q : Option Memo) :
    (OutlookProvider.collect notifications).Obeys watch
      (fun q found => HoldsAll (found.map Prod.fst) q) q := by
  induction notifications generalizing q with
  | nil => exact fun _ h => absurd h List.not_mem_nil
  | cons notification notifications ih =>
    unfold OutlookProvider.collect
    split
    · exact ih q
    split
    · exact ih q
    refine .perform (fun _ _ => trivial) fun turn emxResult => Prog.obeys_bind.mpr ?_
    match emxResult with
    | .error _ => exact ih _
    | .ok none => exact ih _
    | .ok (some emx) =>
      have hread : Holds (Knows (exchangeKey emx) (SameStanding emx)) (watch.next q
          (.exchanges (.findExternalExchangeBySubscriptionId notification.subscriptionId)) turn
          (.ok (some emx))) := by
        intro memo' hmemo'
        obtain ⟨memo, -, hnext⟩ := Option.bind_eq_some_iff.mp hmemo'
        cases hnext
        exact knows_learn (List.mem_singleton.mpr rfl)
      have honly : (OutlookProvider.collect notifications).Only (Leaves (exchangeKey emx)) :=
        OutlookProvider.only_collect permits_leaves notifications
      refine ((ih _).keepOnly (fun q c f r hc hq => Holds.next hc hq) honly hread).mono ?_
      rintro q found ⟨hfound, hemx⟩ row hrow
      rcases List.mem_cons.mp hrow with rfl | hrow
      · exact hemx
      · exact hfound row hrow

theorem obeys_storeSyncTimes {now : String} {touched : List ExchangeRow}
    (hdistinct : touched.Pairwise fun emx emx' => emx.id ≠ emx'.id) (h : HoldsAll touched q) :
    (OutlookProvider.storeSyncTimes now touched).Obeys watch (fun _ _ => True) q := by
  induction touched generalizing q with
  | nil => trivial
  | cons emx touched ih =>
    obtain ⟨hne, hdistinct⟩ := List.pairwise_cons.mp hdistinct
    have hupdate : (updateExternalExchange emx.accountId emx.id emx.status emx.nextSyncTime
        { noFields with lastSyncAt := some now } []).Obeys watch
          (fun q _ => Holds (Knows (exchangeKey emx) fun _ => True) q) q :=
      obeys_update (h emx List.mem_cons_self) List.not_mem_nil
        (fun now row hrow => .inl ⟨hrow.1.symm, .inl rfl⟩) (fun _ _ => trivial) fun _ _ _ => trivial
    have honly : (updateExternalExchange emx.accountId emx.id emx.status emx.nextSyncTime
        { noFields with lastSyncAt := some now } []).Only fun c =>
          ∀ other ∈ touched, Leaves (exchangeKey other) c :=
      .perform (fun _ _ _ _ _ h => nomatch h) fun _ => ⟨fun other hother =>
        leaves_update (fun heq : exchangeKey emx = exchangeKey other =>
          hne other hother (congrArg Prod.snd heq)) _, fun _ => trivial⟩
    have hrest : HoldsAll touched q := fun other hother => h other (List.mem_cons_of_mem _ hother)
    refine Prog.obeys_bind.mpr ((hupdate.keepOnly (fun q c f r hc hq other hother => ?_) honly
      hrest).mono fun q _ hq => ih hdistinct hq.2)
    exact Holds.next (hc other hother) (hq other hother)

theorem HoldsAll.quiet {α β : Type} {p : ExchangeProg α}
    {k : α → ExchangeProg β} (h : HoldsAll rows q)
    (hp : p.Only fun c => (∀ q, watch.allow q c) ∧ ∀ key, Leaves key c)
    (hk : ∀ q a, HoldsAll rows q → (k a).Obeys watch (fun _ _ => True) q) :
    (p >>= k).Obeys watch (fun _ _ => True) q := by
  have hobeys : p.Obeys watch (fun _ _ => True) q := hp.obeys_anywhere (fun _ hc => hc.1) q
  refine Prog.obeys_bind.mpr ((hobeys.keepOnly (fun q c f r hc hq row hrow => ?_) hp h).mono
    fun q a hq => hk q a hq.2)
  exact Holds.next (hc.2 _) (hq row hrow)

theorem permits_harmless : Permits fun c => (∀ q, watch.allow q c) ∧ ∀ key, Leaves key c where
  ask _ := ⟨fun _ _ _ => trivial, fun _ _ _ _ h => nomatch h⟩
  accounts _ := ⟨fun _ _ _ => trivial, fun _ _ _ _ h => nomatch h⟩
  sendDispatch _ := ⟨fun _ _ _ => trivial, fun _ _ _ _ h => nomatch h⟩
  sendInbound _ := ⟨fun _ _ _ => trivial, fun _ _ _ _ h => nomatch h⟩
  logRenewal _ _ _ := ⟨fun _ _ _ => trivial, fun _ _ _ _ h => nomatch h⟩
  getExternalExchange _ _ := ⟨fun _ _ _ => trivial, fun _ _ _ _ h => nomatch h⟩
  listExternalExchanges _ := ⟨fun _ _ _ => trivial, fun _ _ _ _ h => nomatch h⟩
  listExchangesDue _ := ⟨fun _ _ _ => trivial, fun _ _ _ _ h => nomatch h⟩
  findBySubscription _ := ⟨fun _ _ _ => trivial, fun _ _ _ _ h => nomatch h⟩

theorem obeys_handleOutlook (validationToken : Option String)
    (body : OutlookProvider.NotificationBody) (q : Option Memo) :
    (OutlookProvider.handle env validationToken body).Obeys watch (fun _ _ => True) q := by
  have hnone {q : Option Memo} : HoldsAll [] q := fun _ h => absurd h List.not_mem_nil
  unfold OutlookProvider.handle
  split
  · trivial
  refine hnone.quiet (OutlookProvider.only_verifyTokens permits_harmless _) fun q verified _ => ?_
  split
  · refine Prog.obeys_bind.mpr ((obeys_collect _ q).mono fun q found h => ?_)
    refine h.quiet (only_sendBatch permits_harmless env _) fun q batchResult h => ?_
    split
    · trivial
    · refine h.quiet ⟨permits_harmless.ask _, fun _ => trivial⟩ fun q now h => ?_
      refine Prog.obeys_bind.mpr ((obeys_storeSyncTimes
        (OutlookProvider.touchedExchanges_distinct found) fun emx hemx => ?_).mono fun _ _ _ => trivial)
      exact h emx (OutlookProvider.mem_touchedExchanges hemx)
  · trivial

theorem IsSync.obeys {prog : ExchangeProg Unit} (h : IsSync env prog) (q : Option Memo) :
    prog.Obeys watch (fun _ _ => True) q := by
  obtain ⟨payload, rfl⟩ | ⟨emx, rfl⟩ | ⟨notification, rfl⟩ | ⟨validationToken, body, rfl⟩ |
    ⟨type, deviceClientId, token, rfl⟩ := h
  · exact obeys_dispatch payload q
  · exact (ImapAdapter.only_idleAndDispatch permits_harmless).obeys_anywhere (fun _ hc => hc.1) q
  · exact Prog.obeys_map.mpr (obeys_handleGmail notification q)
  · exact Prog.obeys_map.mpr (obeys_handleOutlook validationToken body q)
  · exact (JmapAdapter.only_handleWebhook permits_harmless type deviceClientId token).obeys_anywhere
      (fun _ hc => hc.1) q

/-! ## What the requests do -/

def Role (tested : Bool) (memo : Memo) : Prop :=
  memo.kind = .request ∧ (tested = true → memo.tested = true)

/-- A request stays one, and its test stays done. -/
theorem role_next (q : Option Memo) (c : Cmd) (turn : Turn) (answer : c.Answer)
    (h : Holds (Role tested) q) : Holds (Role tested) (watch.next q c turn answer) := by
  intro memo' hmemo'
  obtain ⟨memo, rfl, hnext⟩ := Option.bind_eq_some_iff.mp hmemo'
  have hrole := h memo rfl
  obtain rfl | ⟨rows, rfl, -⟩ | ⟨accountId, emxId, update, rfl, -, rfl⟩ | rfl | rfl :=
    Memo.next_cases hnext
  · exact hrole
  · exact hrole
  · exact hrole
  · exact ⟨hrole.1, fun _ => rfl⟩
  · exact hrole

/-- What a request may do once its connection test is at a stage. -/
def Allowed (tested : Bool) (c : Cmd) : Prop := ∀ q, Holds (Role tested) q → watch.allow q c

theorem permits_allowed : Permits (Allowed tested) where
  ask _ _ _ _ _ := trivial
  accounts _ _ _ _ _ := trivial
  sendDispatch _ _ _ _ _ := trivial
  sendInbound _ _ _ _ _ := trivial
  logRenewal _ _ _ _ _ _ _ := trivial
  getExternalExchange _ _ _ _ _ _ := trivial
  listExternalExchanges _ _ _ _ _ := trivial
  listExchangesDue _ _ _ _ _ := trivial
  findBySubscription _ _ _ _ _ := trivial

theorem allowed_create (accountId id : String) (data : NewExchange) :
    Allowed tested (.exchanges (.createExternalExchange accountId id data)) :=
  fun _ hrole memo hmemo => (hrole memo hmemo).1

theorem allowed_revive {update : ExchangeUpdate}
    (hclear : .errorReason ∈ update.clearFields) (hrevives : Revives update) :
    Allowed true (.exchanges (.updateExternalExchange accountId emxId update)) :=
  fun _ hrole memo hmemo =>
    (if_pos hclear).mpr ⟨(hrole memo hmemo).1, (hrole memo hmemo).2 rfl, hrevives⟩

theorem Only.obeys_role {α : Type} {p : ExchangeProg α}
    (hp : p.Only (Allowed tested)) (h : Holds (Role tested) q) :
    p.Obeys watch (fun q _ => Holds (Role tested) q) q := by
  induction p generalizing q with
  | ret a => exact h
  | call c k ih => exact ⟨hp.1 q h, fun f r => ih r (hp.2 r) (role_next q c f r h)⟩

/-- A connection test that succeeds. -/
theorem tested_bind {β : Type} {emx : ExchangeRow} {identity : Option ActivationIdentity}
    {k : Except String ActivationResult → ExchangeProg β} (h : Holds (Role false) q)
    (herror : ∀ cause, (k (.error cause)).Only (Allowed false))
    (hok : ∀ activation, (k (.ok activation)).Only (Allowed true)) :
    (ask (.activate platform emx identity) >>= k).Obeys watch (fun _ _ => True) q := by
  refine .perform (fun _ _ => trivial) fun turn answer => ?_
  have hnext := role_next q (.ask (.activate platform emx identity)) turn answer h
  cases answer with
  | error cause => exact (Only.obeys_role (herror cause) hnext).mono fun _ _ _ => trivial
  | ok activation =>
    refine (Only.obeys_role (hok activation) fun memo' hmemo' => ?_).mono fun _ _ _ => trivial
    obtain ⟨memo, rfl, hmemo⟩ := Option.bind_eq_some_iff.mp hmemo'
    cases hmemo
    exact ⟨(h memo rfl).1, fun _ => rfl⟩

theorem obeys_connectIdentity {accountId : String}
    {identity : ActivationIdentity} (h : Holds (Role false) q) :
    (connectIdentity env accountId platform identity).Obeys watch (fun _ _ => True) q := by
  refine tested_bind h (fun _ => trivial) fun activation => ?_
  refine (only_accounts permits_allowed _).bind fun aliasCheck => ?_
  split
  · trivial
  refine .perform (permits_allowed.listExternalExchanges accountId) fun listResult => ?_
  split
  · refine (only_updateExternalExchange permits_allowed fun now =>
      allowed_revive List.mem_cons_self ⟨rfl, rfl⟩).bind fun updateResult => ?_
    split
    · trivial
    · exact (only_linkAlias permits_allowed _ _ _ _).bind fun _ => trivial
  · exact only_createActive permits_allowed (allowed_create accountId) _ _ _ _ _

theorem obeys_createExchange {accountId : String} {auth : Option String}
    {body : CreateExternalExchangeRequest} (h : Holds (Role false) q) :
    (createExchange env accountId auth body).Obeys watch (fun _ _ => True) q := by
  cases body with
  | imap imapConfig =>
    exact (Only.obeys_role (only_createImap permits_allowed (allowed_create accountId) _) h).mono
      fun _ _ _ => trivial
  | jmap jmapConfig =>
    exact (Only.obeys_role (only_createJmap permits_allowed (allowed_create accountId) _) h).mono
      fun _ _ _ => trivial
  | oauth platform connectionId =>
    show (createOauth env accountId auth platform connectionId).Obeys watch _ q
    unfold createOauth
    split
    · trivial
    · trivial
    · refine .perform (fun _ _ => trivial) fun turn linkedIdentityResult => ?_
      split
      · trivial
      · trivial
      · exact obeys_connectIdentity (role_next q _ turn _ h)

/-- The test has passed, and the stored row is written from the one that was read. -/
theorem obeys_storeConfig {config : ExchangeFields}
    {activation : ActivationResult} {includeOverlap : Option Bool}
    (hconfig : config.consecutiveFailures = none) (hrole : Holds (Role true) q)
    (h : Holds (Knows (accountId, emxId) (SameStatus emx)) q) :
    (storeConfig accountId emxId emx config activation includeOverlap).Obeys watch
      (fun _ _ => True) q := by
  have hupdate {q : Option Memo} {nextSyncTime : String} {fields : ExchangeFields}
      (hfields : fields.consecutiveFailures = none) (hrole : Holds (Role true) q)
      (h : Holds (Knows (accountId, emxId) (SameStatus emx)) q) :
      (updateExternalExchange accountId emxId emx.status nextSyncTime fields []).Obeys watch
        (fun q _ => Holds (Knows (accountId, emxId) (SameStatus emx)) q ∧ Holds (Role true) q) q :=
    (obeys_update h List.not_mem_nil (sameStatus_plain (.inl hfields)) (fun _ hrow => hrow)
      fun _ _ _ => rfl).keep role_next hrole
  refine .perform (fun _ _ => trivial) fun turn patchNow => Prog.obeys_bind.mpr ?_
  have hask := role_next q (.ask (.now 0)) turn patchNow hrole
  have hasked : Holds (Knows (accountId, emxId) (SameStatus emx))
      (watch.next q (.ask (.now 0)) turn patchNow) := Holds.next (permits_leaves.ask _) h
  refine (hupdate hconfig hask hasked).mono fun q updateResult ⟨h, hrole⟩ => ?_
  split
  · trivial
  refine Prog.obeys_bind.mpr ((hupdate rfl hrole h).mono fun q _ hq => ?_)
  refine (Only.obeys_role ?_ hq.2).mono fun _ _ _ => trivial
  refine .perform (permits_allowed.ask _) fun _ => (only_accounts permits_allowed _).bind fun _ => ?_
  refine Prog.Only.bind ?_ fun reactivateResult => ?_
  · unfold reactivate
    split
    · exact only_updateExternalExchange permits_allowed fun now =>
        allowed_revive List.mem_cons_self ⟨rfl, rfl⟩
    · trivial
  · split
    · trivial
    refine .bind (.perform (permits_allowed.sendDispatch _) fun _ => trivial) fun _ => ?_
    refine .perform (permits_allowed.getExternalExchange _ _) fun freshResult => ?_
    split <;> trivial

/-- What a change does with the answer of its connection test. -/
theorem patched_bind {tested : ExchangeRow}
    {k : Except String ActivationResult → ExchangeProg (Except ApiError ExchangeRow)}
    (hrole : Holds (Role false) q) (h : Holds (Knows (accountId, emxId) (SameStatus emx)) q)
    (herror : ∀ cause, ∃ error, k (.error cause) = .ret (.error error))
    (hok : ∀ q activation, Holds (Role true) q →
      Holds (Knows (accountId, emxId) (SameStatus emx)) q →
      (k (.ok activation)).Obeys watch (fun _ _ => True) q) :
    (ask (.activate platform tested none) >>= k).Obeys watch (fun _ _ => True) q := by
  refine .perform (fun _ _ => trivial) fun turn answer => ?_
  cases answer with
  | error cause =>
    obtain ⟨error, hk⟩ := herror cause
    rw [hk]
    trivial
  | ok activation =>
    refine hok _ activation (fun memo' hmemo' => ?_) (Holds.next (permits_leaves.ask _) h)
    obtain ⟨memo, rfl, hmemo⟩ := Option.bind_eq_some_iff.mp hmemo'
    cases hmemo
    exact ⟨(hrole memo rfl).1, fun _ => rfl⟩

theorem quiet_role_bind {α β : Type} {p : ExchangeProg α}
    {k : α → ExchangeProg β} {Q : Option Memo → β → Prop}
    (hp : p.Only (Quiet key)) (hrole : Holds (Role tested) q) (h : Holds (Knows key P) q)
    (hk : ∀ q a, Holds (Role tested) q → Holds (Knows key P) q → (k a).Obeys watch Q q) :
    (p >>= k).Obeys watch Q q := by
  have hobeys : p.Obeys watch (fun _ _ => True) q := hp.obeys_anywhere (fun _ hc => hc.1) q
  refine Prog.obeys_bind.mpr (((hobeys.keep role_next hrole).keepOnly (fun q c f r hc hq => ?_) hp
    h).mono fun q a hq => hk q a hq.1.2 hq.2)
  exact Holds.next hc.2 hq

theorem obeys_patchImap {imapConfig : ImapPatch}
    (hrole : Holds (Role false) q) (h : Holds (Knows (accountId, emxId) (SameStatus emx)) q) :
    (patchImap accountId emxId emx imapConfig).Obeys watch (fun _ _ => True) q := by
  unfold patchImap
  split
  · trivial
  split
  · trivial
  refine quiet_role_bind (only_passwordToTest permits_quiet _ _) hrole h
    fun q testPassword hrole h => ?_
  split
  · trivial
  refine patched_bind hrole h (fun cause => ⟨_, rfl⟩) fun q activation hrole h => ?_
  refine quiet_role_bind (only_passwordToStore permits_quiet _ _) hrole h
    fun q encryptedPassword hrole h => ?_
  split
  · trivial
  · exact obeys_storeConfig rfl hrole h

theorem obeys_patchJmap {jmapConfig : JmapPatch}
    (hrole : Holds (Role false) q) (h : Holds (Knows (accountId, emxId) (SameStatus emx)) q) :
    (patchJmap accountId emxId emx jmapConfig).Obeys watch (fun _ _ => True) q := by
  unfold patchJmap
  split
  · trivial
  split
  · trivial
  refine quiet_role_bind (only_passwordToTest permits_quiet _ _) hrole h
    fun q testPassword hrole h => ?_
  split
  · trivial
  refine patched_bind hrole h (fun cause => ⟨_, rfl⟩) fun q activation hrole h => ?_
  refine quiet_role_bind (only_passwordToStore permits_quiet _ _) hrole h
    fun q encryptedPassword hrole h => ?_
  split
  · trivial
  · exact obeys_storeConfig rfl hrole h

theorem obeys_patchExchange {body : PatchExchangeRequest} (hrole : Holds (Role false) q) :
    (patchExchange accountId emxId body).Obeys watch (fun _ _ => True) q := by
  refine .perform (fun _ _ => trivial) fun turn getResult => ?_
  have hnext := role_next q _ turn getResult hrole
  match getResult with
  | .error _ => trivial
  | .ok none => trivial
  | .ok (some emx) =>
    have hread : Holds (Knows (accountId, emxId) (SameStatus emx)) (watch.next q
        (.exchanges (.getExternalExchange accountId emxId)) turn (.ok (some emx))) := by
      intro memo hmemo
      obtain ⟨⟨read, hmem, hkey, hrow⟩, -⟩ := holds_get memo hmemo
      exact ⟨read, hmem, hkey, hrow.1⟩
    cases body with
    | jmap jmapConfig => exact obeys_patchJmap hnext hread
    | imap imapConfig => exact obeys_patchImap hnext hread

theorem IsRequest.obeys {prog : ExchangeProg Unit} (h : IsRequest env prog)
    (hrole : Holds (Role false) q) : prog.Obeys watch (fun _ _ => True) q := by
  obtain ⟨accountId, auth, body, rfl⟩ | ⟨accountId, emxId, body, rfl⟩ | ⟨accountId, emxId, rfl⟩ := h
  · exact Prog.obeys_map.mpr (obeys_createExchange hrole)
  · exact Prog.obeys_map.mpr (obeys_patchExchange hrole)
  · exact Prog.obeys_map.mpr ((Only.obeys_role (only_deleteExchange permits_allowed
      fun _ hrole memo hmemo => (hrole memo hmemo).1) hrole).mono fun _ _ _ => trivial)

end

end SesEmailAdapter.Exchanges.ExchangeHistory
