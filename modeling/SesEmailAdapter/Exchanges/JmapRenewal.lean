import SesEmailAdapter.Exchanges.ImapSync
import SesEmailAdapter.Exchanges.MailboxOnce
import SesEmailAdapter.Lib.CallLog

/-! # JmapRenewal

When a JMAP exchange that was renewed is due again. A renewal writes the exchange up to three times,
each time with a next sync time: one that it has just computed, or the one of the row it has read at
its start. The last write decides. -/

namespace SesEmailAdapter.Exchanges.JmapRenewal
open Lib
open SesEmailAdapter.Types Database.Shared
open Database.ExchangesDatabase hiding Cmd Cmd.Answer settle
open Database.SignalsTable (requestFailed)
open Exchanges.ExchangeService Exchanges.JmapAdapter
open Resource.ResourceDatabase (truthy)

/-! ## What the log of a renewal tells -/

abbrev Event := Sigma Cmd.Answer

def written : Event → Option ExchangeUpdate
  | ⟨.exchanges (.updateExternalExchange _ _ update), _⟩ => some update
  | _ => none

def writes (calls : List Event) : List ExchangeUpdate := calls.filterMap written

/-- A write that has failed, or that may have. -/
def failedWrite : Event → Bool
  | ⟨.exchanges (.updateExternalExchange ..), .error _⟩ => true
  | _ => false

/-- The server has registered the subscription, or it knows it still. -/
def pushStands : Event → Bool
  | ⟨.ask (.jmapPushRegister ..), .ok (some (.ok pushId))⟩ => (truthy pushId).isSome
  | ⟨.ask (.jmapPushGet _ pushSubscriptionId), verifyResult⟩ =>
    !isGone pushSubscriptionId verifyResult
  | _ => false

/-- The mailbox has a new state. -/
def newState : Event → Bool
  | ⟨.ask (.jmapQueryChanges ..), .ok (some (.ok responseData))⟩ =>
    (truthy responseData.newQueryState).isSome
  | _ => false

/-- The row after the writes of a log, one after the other. -/
def replay (key : String × String) (row : Option ExchangeRow) (updates : List ExchangeUpdate) :
    Option ExchangeRow :=
  updates.foldl (fun row update => some (update.apply (row.getD (bareRow key.1 key.2)))) row

/-- The clock tells no time before `start`. -/
def Told (start : String) : Event → Prop
  | ⟨.ask (.now _), time⟩ => start ≤ (time : String)
  | _ => True

theorem writes_append (calls calls' : List Event) :
    writes (calls ++ calls') = writes calls ++ writes calls' :=
  List.filterMap_append

/-! ## Renewals -/

/-- A renewal that begins at `start`, of an exchange that is due. -/
structure Renewal where
  env : Env
  emx : ExchangeRow
  world : World
  turns : List Fate
  start : String
  clock : ∀ tick plusMinutes, world.tick ≤ tick → start ≤ env.answer tick (.now plusMinutes)
  due : emx.nextSyncTime < start

namespace Renewal
variable (r : Renewal)

def outcome := (renew r.env r.emx).run (service r.env).logged (r.turns.map some) (r.world, [])

def result : Option (Except ProviderRenewalError Unit) := r.outcome.result

def after : World := r.outcome.store.1

def calls : List Event := r.outcome.store.2

def stored : Option ExchangeRow := r.after.exchanges.exchanges.get (exchangeKey r.emx)

def WritesSucceed : Prop := r.calls.any failedWrite = false

def PushStands : Prop := r.calls.any pushStands = true

def NewState : Prop := r.calls.any newState = true

/-- The exchange is not due at the time of the call, and none of the writes has been undone. -/
def Lasts : Prop :=
  ∃ row, r.stored = some row ∧ r.start ≤ row.nextSyncTime ∧
    ∀ update ∈ writes r.calls, update.nextSyncTime ≤ row.nextSyncTime ∧
      ∀ pushId, update.fields.pushSubscriptionId = some pushId →
        row.fields.pushSubscriptionId = some pushId

end Renewal

/-! ## The store and the clock -/

/-- The calls that write no other exchange. -/
def OwnWrites (key : String × String) : Cmd → Prop
  | .exchanges (.updateExternalExchange accountId emxId _) => (accountId, emxId) = key
  | .exchanges (.createExternalExchange ..) => False
  | .exchanges (.deleteExternalExchange ..) => False
  | _ => True

theorem permits_ownWrites {key : String × String} : Permits (OwnWrites key) where
  ask _ := trivial
  accounts _ := trivial
  sendDispatch _ := trivial
  sendInbound _ := trivial
  logRenewal _ _ _ := trivial
  getExternalExchange _ _ := trivial
  listExternalExchanges _ := trivial
  listExchangesDue _ := trivial
  findBySubscription _ := trivial

section

variable {env : Env} {key : String × String} {w w' : World}

theorem exchangeKey_updated (s : Store) (accountId emxId : String) (update : ExchangeUpdate) :
    exchangeKey (s.updated accountId emxId update) = (accountId, emxId) := by
  unfold Store.updated
  rw [exchangeKey_apply]
  cases hrow : s.exchanges.get (accountId, emxId) with
  | none => rfl
  | some row => exact KeyedTable.key_of_get hrow

theorem stored_settle {c : Cmd} {fate : Fate} (hc : OwnWrites key c)
    (hsucceeds : failedWrite ⟨c, (settle env c w fate).1⟩ = false) :
    (settle env c w fate).2.exchanges.exchanges.get key =
      replay key (w.exchanges.exchanges.get key) (writes [⟨c, (settle env c w fate).1⟩]) := by
  cases c with
  | exchanges c =>
    cases c with
    | createExternalExchange => exact hc.elim
    | deleteExternalExchange => exact hc.elim
    | updateExternalExchange accountId emxId update =>
      obtain rfl : (accountId, emxId) = key := hc
      cases fate with
      | done =>
        show (w.exchanges.exchanges.put (w.exchanges.updated accountId emxId update)).get
          (accountId, emxId) = some (w.exchanges.updated accountId emxId update)
        rw [KeyedTable.get_put, if_pos (exchangeKey_updated _ _ _ _).symm]
      | refused => cases hsucceeds
      | lost => cases hsucceeds
    | getExternalExchange => cases fate <;> rfl
    | listExternalExchanges => cases fate <;> rfl
    | listExchangesDue => cases fate <;> rfl
    | findExternalExchangeBySubscriptionId => cases fate <;> rfl
  | sendDispatch => cases fate <;> rfl
  | sendInbound => cases fate <;> rfl
  | _ => rfl

/-- Where its writes succeed, a run leaves what its log replays. -/
theorem stored_returns {α : Type} {p : ExchangeProg α} {calls : List Event} {a : α}
    (h : p.Returns (service env) (fun _ => True) w calls a w') (hown : p.Only (OwnWrites key))
    (hsucceed : calls.any failedWrite = false) :
    w'.exchanges.exchanges.get key =
      replay key (w.exchanges.exchanges.get key) (writes calls) := by
  induction h with
  | ret a s => rfl
  | @call c k s s' fate calls a _ next ih =>
    rw [List.any_cons, Bool.or_eq_false_iff] at hsucceed
    have hlog : writes (⟨c, (settle env c s fate).1⟩ :: calls) =
        writes [⟨c, (settle env c s fate).1⟩] ++ writes calls := writes_append [_] calls
    have hfirst : ((service env).settle c s fate).2.exchanges.exchanges.get key = _ :=
      stored_settle hown.1 hsucceed.1
    calc s'.exchanges.exchanges.get key
        = replay key (replay key (s.exchanges.exchanges.get key)
            (writes [⟨c, (settle env c s fate).1⟩])) (writes calls) := by
          rw [ih (hown.2 _) hsucceed.2, hfirst]
      _ = replay key (s.exchanges.exchanges.get key)
            (writes (⟨c, (settle env c s fate).1⟩ :: calls)) := by
          rw [hlog, replay, replay, replay, List.foldl_append]

theorem told_returns {α : Type} {start : String} {p : ExchangeProg α} {calls : List Event} {a : α}
    (h : p.Returns (service env) (fun _ => True) w calls a w')
    (hclock : ∀ tick plusMinutes, w.tick ≤ tick → start ≤ env.answer tick (.now plusMinutes)) :
    ∀ e ∈ calls, Told start e := by
  induction h with
  | ret a s => exact fun e he => absurd he List.not_mem_nil
  | @call c k s s' fate calls a _ next ih =>
    refine List.forall_mem_cons.mpr ⟨?_, ih fun tick plusMinutes htick => ?_⟩
    · cases c with
      | ask e =>
        cases e with
        | now plusMinutes => exact hclock _ _ (Nat.le_refl _)
        | _ => trivial
      | _ => trivial
    · have hlater : ((service env).settle c s fate).2.tick = s.tick + 1 :=
        ImapSync.tick_settle _ _ _ _
      rw [hlater] at htick
      exact hclock _ _ (Nat.le_of_succ_le htick)

end

/-! ## What the parts of a renewal write -/

/-- The writes of a log, and whether the server has answered that the subscription stands and that
the mailbox has a new state. -/
structure Tells (calls : List Event) (updates : List ExchangeUpdate) (stands state : Bool) :
    Prop where
  writes : writes calls = updates
  stands : calls.any pushStands = stands
  state : calls.any newState = state

section

variable {calls calls' : List Event} {updates updates' : List ExchangeUpdate}
  {stands stands' state state' : Bool}

theorem Tells.nil : Tells [] [] false false := ⟨rfl, rfl, rfl⟩

theorem Tells.append (h : Tells calls updates stands state)
    (h' : Tells calls' updates' stands' state') :
    Tells (calls ++ calls') (updates ++ updates') (stands || stands') (state || state') where
  writes := by rw [writes_append, h.writes, h'.writes]
  stands := by rw [List.any_append, h.stands, h'.stands]
  state := by rw [List.any_append, h.state, h'.state]

theorem Tells.call (e : Event) (h : Tells calls updates stands state) :
    Tells (e :: calls) ((written e).toList ++ updates) (pushStands e || stands)
      (newState e || state) := by
  have hfirst : Tells [e] (written e).toList (pushStands e) (newState e) := by
    refine ⟨?_, Bool.or_false _, Bool.or_false _⟩
    rw [JmapRenewal.writes, List.filterMap_cons]
    cases written e <;> rfl
  exact hfirst.append h

end

section

variable {env : Env} {emx : ExchangeRow} {calls : List Event} {start : String}

theorem performs_ask {α : Type} {e : External} {k : e.Answer → ExchangeProg α} {a : α}
    (h : (ask e >>= k).Performs calls a) :
    ∃ (answer : e.Answer) (rest : List Event), calls = ⟨.ask e, answer⟩ :: rest ∧
      (k answer).Performs rest a :=
  Prog.performs_call.mp h

theorem performs_update {α : Type} {accountId emxId nextSyncTime : String} {status : EmxStatus}
    {fields : ExchangeFields} {clearFields : List ClearField}
    {k : Except DbError ExchangeRow → ExchangeProg α} {a : α}
    (h : (updateExternalExchange accountId emxId status nextSyncTime fields clearFields >>=
      k).Performs calls a) :
    ∃ now result rest, calls = ⟨.ask (.now 0), now⟩ :: ⟨.exchanges (.updateExternalExchange
        accountId emxId ⟨status, nextSyncTime, fields, clearFields, now⟩), result⟩ :: rest ∧
      (k result).Performs rest a := by
  obtain ⟨now, tail, rfl, htail⟩ := Prog.performs_call.mp h
  obtain ⟨result, rest, rfl, hrest⟩ := Prog.performs_call.mp htail
  exact ⟨now, result, rest, rfl, hrest⟩

theorem tells_sendChunks {chunks : List (List InboundPayload)} {result : Except DbError Unit}
    (h : (sendChunks chunks).Performs calls result) : Tells calls [] false false := by
  induction chunks generalizing calls with
  | nil =>
    obtain ⟨rfl, -⟩ := Prog.performs_ret.mp h
    exact .nil
  | cons chunk chunks ih =>
    obtain ⟨answer, rest, rfl, hrest⟩ := Prog.performs_call.mp h
    refine Tells.call _ (?_ : Tells rest [] false false)
    cases answer with
    | error error =>
      obtain ⟨rfl, -⟩ := Prog.performs_ret.mp hrest
      exact .nil
    | ok _ => exact ih hrest

variable {apiUrl jmapAccountId inboxId : String}

/-- The sync of the push paths writes the next sync time of the row it has been given. -/
theorem performs_performQueryChanges {u : Unit}
    (h : (performQueryChanges env apiUrl jmapAccountId inboxId emx).Performs calls u) :
    Tells calls [] false false ∨
      ∃ sync, sync.nextSyncTime = emx.nextSyncTime ∧ Tells calls [sync] false true := by
  obtain ⟨answer, rest, rfl, hrest⟩ := performs_ask h
  split at hrest
  case h_2 hanswer =>
    obtain ⟨rfl, -⟩ := Prog.performs_ret.mp hrest
    refine .inl ⟨rfl, rfl, ?_⟩
    rcases answer with cause | _ | errorType | responseData
    · rfl
    · rfl
    · rfl
    · exact (hanswer _ rfl).elim
  case h_1 responseData =>
    cases hstate : truthy responseData.newQueryState with
    | none =>
      rw [hstate] at hrest
      obtain ⟨rfl, -⟩ := Prog.performs_ret.mp hrest
      exact .inl ⟨rfl, rfl, by simp [newState, hstate]⟩
    | some newQueryState =>
      rw [hstate] at hrest
      obtain ⟨batch, tail, result, rfl, hbatch, htail⟩ := Prog.performs_bind.mp hrest
      obtain ⟨lastSyncAt, tail', rfl, htail'⟩ := performs_ask htail
      obtain ⟨now, result', tail'', rfl, hend⟩ := performs_update htail'
      obtain ⟨rfl, -⟩ := Prog.performs_ret.mp hend
      have hsync := (tells_sendChunks hbatch).append
        (.call ⟨.ask (.now 0), lastSyncAt⟩ (.call ⟨.ask (.now 0), now⟩
          (.call ⟨.exchanges (.updateExternalExchange emx.accountId emx.id ⟨emx.status,
            emx.nextSyncTime, { noFields with
              syncCursor := some newQueryState, lastSyncAt := some lastSyncAt }, [], now⟩),
            result'⟩ .nil)))
      have hanswer : newState ⟨.ask (.jmapQueryChanges apiUrl jmapAccountId inboxId
          (emx.fields.syncCursor.getD "")), .ok (some (.ok responseData))⟩ = true := by
        simp [newState, hstate]
      have hlog := Tells.call ⟨.ask (.jmapQueryChanges apiUrl jmapAccountId inboxId
        (emx.fields.syncCursor.getD "")), .ok (some (.ok responseData))⟩ hsync
      rw [hanswer] at hlog
      exact .inr ⟨_, rfl, hlog⟩

variable {session : JmapSession}

theorem performs_registerPush {registered : Option String}
    (h : (registerPush session emx).Performs calls registered) :
    Tells calls [] registered.isSome false := by
  obtain ⟨hash, rest, rfl, hrest⟩ := performs_ask h
  cases hash with
  | error cause =>
    obtain ⟨rfl, rfl⟩ := Prog.performs_ret.mp hrest
    exact ⟨rfl, rfl, rfl⟩
  | ok token =>
    obtain ⟨answer, rest, rfl, hend⟩ := performs_ask hrest
    rcases answer with cause | _ | errorType | pushId
    · obtain ⟨rfl, rfl⟩ := Prog.performs_ret.mp hend
      exact ⟨rfl, rfl, rfl⟩
    · obtain ⟨rfl, rfl⟩ := Prog.performs_ret.mp hend
      exact ⟨rfl, rfl, rfl⟩
    · obtain ⟨rfl, rfl⟩ := Prog.performs_ret.mp hend
      exact ⟨rfl, rfl, rfl⟩
    · obtain ⟨rfl, rfl⟩ := Prog.performs_ret.mp hend
      exact ⟨rfl, Bool.or_false _, rfl⟩

/-- A write of a new time, and perhaps the sync, which puts the old one back if the mailbox has a
new state. -/
def Pushed (emx : ExchangeRow) (start : String) (stands : Bool) (calls : List Event) : Prop :=
  ∃ first, start ≤ first.nextSyncTime ∧ first.clearFields = [] ∧
    (Tells calls [first] stands false ∨
      ∃ sync, sync.nextSyncTime = emx.nextSyncTime ∧ Tells calls [first, sync] stands true)

theorem Pushed.after {before : List Event} {stands stands' : Bool}
    (hbefore : Tells before [] stands false) (h : Pushed emx start stands' calls) :
    Pushed emx start (stands || stands') (before ++ calls) := by
  obtain ⟨first, hfresh, hclear, hlog⟩ := h
  refine ⟨first, hfresh, hclear, ?_⟩
  obtain hlog | ⟨sync, hold, hlog⟩ := hlog
  · exact .inl (hbefore.append hlog)
  · exact .inr ⟨sync, hold, hbefore.append hlog⟩

/-- What the push paths end with. -/
theorem performs_renewed {fields : ExchangeFields} {handled : Bool} (h : (do
      let nextSyncTime : String ← ask (.now fourDays)
      let _ ← updateExternalExchange emx.accountId emx.id emx.status nextSyncTime fields []
      performQueryChanges env apiUrl jmapAccountId inboxId emx
      return true : ExchangeProg Bool).Performs calls handled)
    (htold : ∀ e ∈ calls, Told start e) : handled = true ∧ Pushed emx start false calls := by
  obtain ⟨nextSyncTime, rest, rfl, hrest⟩ := performs_ask h
  obtain ⟨now, result, rest', rfl, hrest'⟩ := performs_update hrest
  obtain ⟨sync, tail, u, rfl, hsync, hend⟩ := Prog.performs_bind.mp hrest'
  obtain ⟨rfl, rfl⟩ := Prog.performs_ret.mp hend
  rw [List.append_nil] at htold ⊢
  refine ⟨rfl, ⟨emx.status, nextSyncTime, fields, [], now⟩, htold _ List.mem_cons_self, rfl, ?_⟩
  obtain hquiet | ⟨update, htime, hlog⟩ := performs_performQueryChanges hsync
  · exact .inl (.call _ (.call _ (.call _ hquiet)))
  · exact .inr ⟨update, htime, .call _ (.call _ (.call _ hlog))⟩

/-- A write of the exchange as it was read. -/
def Stale (emx : ExchangeRow) (update : ExchangeUpdate) : Prop :=
  update.nextSyncTime = emx.nextSyncTime ∧ update.fields.pushSubscriptionId = none

/-- The push path handles the renewal, or writes nothing new. -/
theorem performs_handlePushSubscription {jmapConfig : JmapConfig} {handled : Bool}
    (h : (handlePushSubscription env emx jmapConfig session).Performs calls handled)
    (htold : ∀ e ∈ calls, Told start e) :
    (handled = false ∧ ∃ updates, (∀ update ∈ updates, Stale emx update) ∧
      Tells calls updates false false) ∨ handled = true ∧ Pushed emx start true calls := by
  have hnone {calls : List Event} (h : Tells calls [] false false) :
      ∃ updates, (∀ update ∈ updates, Stale emx update) ∧ Tells calls updates false false :=
    ⟨[], fun _ hu => absurd hu List.not_mem_nil, h⟩
  unfold handlePushSubscription at h
  split at h
  case h_1 =>
    split at h
    case isFalse =>
      obtain ⟨rfl, rfl⟩ := Prog.performs_ret.mp h
      exact .inl ⟨rfl, hnone .nil⟩
    case isTrue =>
      obtain ⟨first, rest, registered, rfl, hfirst, hrest⟩ := Prog.performs_bind.mp h
      have hregister := performs_registerPush hfirst
      cases registered with
      | none =>
        obtain ⟨rfl, rfl⟩ := Prog.performs_ret.mp hrest
        rw [List.append_nil]
        exact .inl ⟨rfl, hnone hregister⟩
      | some pushId =>
        obtain ⟨rfl, hpushed⟩ := performs_renewed hrest
          fun e he => htold e (List.mem_append_right _ he)
        exact .inr ⟨rfl, hpushed.after hregister⟩
  case h_2 pushSubscriptionId _ =>
    obtain ⟨verifyResult, rest, rfl, hrest⟩ := performs_ask h
    have hverify := Tells.call ⟨.ask (.jmapPushGet session.apiUrl pushSubscriptionId),
      verifyResult⟩ .nil
    have hverified : pushStands ⟨.ask (.jmapPushGet session.apiUrl pushSubscriptionId),
        verifyResult⟩ = !isGone pushSubscriptionId verifyResult := rfl
    split at hrest
    case isTrue hgone =>
      rw [hverified, hgone] at hverify
      obtain ⟨clear, tail, u, rfl, hclear, hend⟩ := Prog.performs_bind.mp hrest
      obtain ⟨rfl, rfl⟩ := Prog.performs_ret.mp hend
      obtain ⟨now, result, rest, rfl, hdone⟩ := performs_update hclear
      obtain ⟨rfl, -⟩ := Prog.performs_ret.mp hdone
      refine .inl ⟨rfl, [⟨emx.status, emx.nextSyncTime, noFields, [.pushSubscriptionId], now⟩],
        fun update hupdate => ?_, hverify.append (.call _ (.call _ .nil))⟩
      obtain rfl := List.mem_singleton.mp hupdate
      exact ⟨rfl, rfl⟩
    case isFalse hstands =>
      rw [Bool.not_eq_true] at hstands
      rw [hverified, hstands] at hverify
      obtain ⟨rfl, hpushed⟩ := performs_renewed hrest
        fun e he => htold e (List.mem_cons_of_mem _ he)
      exact .inr ⟨rfl, hpushed.after hverify⟩

/-- A log that ends with a write of a new time. -/
def EndsFresh (start : String) (calls : List Event) : Prop :=
  ∃ last state, start ≤ last.nextSyncTime ∧ last.fields.pushSubscriptionId = none ∧
    Tells calls [last] false state

theorem EndsFresh.call {e : Event} (hwritten : written e = none) (hstands : pushStands e = false)
    (h : EndsFresh start calls) : EndsFresh start (e :: calls) := by
  obtain ⟨last, state, hfresh, hpush, hlog⟩ := h
  have hlog' := hlog.call e
  rw [hwritten, hstands] at hlog'
  exact ⟨last, _, hfresh, hpush, hlog'⟩

theorem performs_enqueueNew {emailIds : List String} {newQueryState : String}
    (h : (enqueueNew env emx emailIds newQueryState).Performs calls (.ok ()))
    (htold : ∀ e ∈ calls, Told start e) : EndsFresh start calls := by
  obtain ⟨batch, rest, batchResult, rfl, hbatch, hrest⟩ := Prog.performs_bind.mp h
  cases batchResult with
  | error error => cases (Prog.performs_ret.mp hrest).2
  | ok _ =>
    obtain ⟨nextSyncTime, rest, rfl, hnext⟩ := performs_ask hrest
    obtain ⟨lastSyncAt, rest, rfl, hlast⟩ := performs_ask hnext
    obtain ⟨now, result, rest, rfl, hend⟩ := performs_update hlast
    obtain ⟨rfl, -⟩ := Prog.performs_ret.mp hend
    refine ⟨_, _, ?_, ?_, (tells_sendChunks hbatch).append
      (.call _ (.call _ (.call _ (.call _ .nil))))⟩
    · exact htold ⟨.ask (.now POLL_INTERVAL_MINUTES), nextSyncTime⟩
        (List.mem_append_right _ List.mem_cons_self)
    · rfl

theorem performs_renewFallback
    (h : (renewFallback env apiUrl jmapAccountId inboxId emx).Performs calls (.ok ()))
    (htold : ∀ e ∈ calls, Told start e) : EndsFresh start calls := by
  obtain ⟨answer, rest, rfl, hrest⟩ := performs_ask h
  refine .call rfl rfl ?_
  rcases answer with cause | _ | errorType | responseData
  · cases (Prog.performs_ret.mp hrest).2
  · cases (Prog.performs_ret.mp hrest).2
  · cases (Prog.performs_ret.mp hrest).2
  · dsimp only at hrest
    split at hrest
    · cases (Prog.performs_ret.mp hrest).2
    · exact performs_enqueueNew hrest fun e he => htold e (List.mem_cons_of_mem _ he)

theorem handleRenewalFailure_fails {cause : String} {u : Unit} :
    ¬ (handleRenewalFailure emx cause).Performs calls (.ok u) := by
  intro h
  obtain ⟨first, rest, _, rfl, -, hend⟩ := Prog.performs_bind.mp h
  cases (Prog.performs_ret.mp hend).2

/-- Polling ends with a new time, or it fails. -/
theorem performs_pollChanges {jmapConfig : JmapConfig}
    (h : (pollChanges env emx jmapConfig session).Performs calls (.ok ()))
    (htold : ∀ e ∈ calls, Told start e) : EndsFresh start calls := by
  obtain ⟨answer, rest, rfl, hrest⟩ := performs_ask h
  have htold' : ∀ e ∈ rest, Told start e := fun e he => htold e (List.mem_cons_of_mem _ he)
  refine .call rfl rfl ?_
  rcases answer with cause | _ | errorType | responseData
  · exact (handleRenewalFailure_fails hrest).elim
  · cases (Prog.performs_ret.mp hrest).2
  · dsimp only at hrest
    split at hrest
    · exact performs_renewFallback hrest htold'
    · exact (handleRenewalFailure_fails hrest).elim
  · dsimp only at hrest
    split at hrest
    · cases (Prog.performs_ret.mp hrest).2
    · exact performs_enqueueNew hrest htold'

/-- A renewal that reports success has gone the way of the push or that of polling. -/
theorem performs_renew (h : (renew env emx).Performs calls (.ok ()))
    (htold : ∀ e ∈ calls, Told start e) :
    (∃ updates last state, (∀ update ∈ updates, Stale emx update) ∧ start ≤ last.nextSyncTime ∧
      last.fields.pushSubscriptionId = none ∧ Tells calls (updates ++ [last]) false state) ∨
      Pushed emx start true calls := by
  unfold renew at h
  split at h
  case h_1 => cases (Prog.performs_ret.mp h).2
  case h_2 jmapConfig _ =>
    obtain ⟨decrypted, rest, rfl, hdecrypt⟩ := performs_ask h
    cases decrypted with
    | error cause => cases (Prog.performs_ret.mp hdecrypt).2
    | ok password =>
      obtain ⟨answer, rest, rfl, hsession⟩ := performs_ask hdecrypt
      cases answer with
      | error cause => exact (handleRenewalFailure_fails hsession).elim
      | ok session =>
        obtain ⟨push, poll, handled, rfl, hpush, hpoll⟩ := Prog.performs_bind.mp hsession
        have htold' := List.forall_mem_append.mp fun e he =>
          htold e (List.mem_cons_of_mem _ (List.mem_cons_of_mem _ he))
        obtain ⟨rfl, updates, hstale, hlog⟩ | ⟨rfl, hpushed⟩ :=
          performs_handlePushSubscription hpush htold'.1
        · obtain ⟨last, state, hfresh, hkeeps, hlast⟩ := performs_pollChanges hpoll htold'.2
          exact .inl ⟨updates, last, state, hstale, hfresh, hkeeps,
            .call _ (.call _ (hlog.append hlast))⟩
        · obtain ⟨rfl, -⟩ := Prog.performs_ret.mp hpoll
          rw [List.append_nil]
          have hbefore : Tells [⟨.ask (.decrypt jmapConfig.encryptedPassword), .ok password⟩,
              ⟨.ask (.jmapSession jmapConfig.sessionUrl jmapConfig.username password),
                .ok session⟩] [] false false := ⟨rfl, rfl, rfl⟩
          exact .inr (hpushed.after hbefore)

theorem only_own : (renew env emx).Only (OwnWrites (exchangeKey emx)) :=
  only_renew permits_ownWrites fun _ => rfl

end

theorem replay_concat (key : String × String) (row : Option ExchangeRow)
    (updates : List ExchangeUpdate) (last : ExchangeUpdate) :
    replay key row (updates ++ [last]) =
      some (last.apply ((replay key row updates).getD (bareRow key.1 key.2))) := by
  rw [replay, List.foldl_append]
  rfl

namespace Renewal
variable (r : Renewal)

theorem returns {result : Except ProviderRenewalError Unit} (h : r.result = some result) :
    (renew r.env r.emx).Returns (service r.env) (fun _ => True) r.world r.calls result r.after := by
  have husual : (fun _ : Fate => True) (service r.env).usual := trivial
  obtain ⟨a, calls, hresult, hcalls, hreturns⟩ := Prog.returns_logged husual
    (renew r.env r.emx) r.turns (fun _ _ => trivial) r.world []
  rw [List.nil_append] at hcalls
  obtain rfl : result = a := Option.some.inj (h.symm.trans hresult)
  rw [← hcalls] at hreturns
  exact hreturns

/-- A renewal that reports success, with all its writes made, keeps the exchange from being due
unless the push subscription stands and the mailbox has a new state: then the sync has put the old
time back. -/
theorem lasts_iff (hok : r.result = some (.ok ())) (hwrites : r.WritesSucceed) :
    r.Lasts ↔ ¬ (r.PushStands ∧ r.NewState) := by
  have hreturns := r.returns hok
  have hstored : r.stored = replay (exchangeKey r.emx)
      (r.world.exchanges.exchanges.get (exchangeKey r.emx)) (writes r.calls) :=
    stored_returns hreturns only_own hwrites
  obtain ⟨updates, last, state, hstale, hfresh, hkeeps, hlog⟩ |
    ⟨first, hfresh, hclear, hlog | ⟨sync, hold, hlog⟩⟩ :=
      performs_renew hreturns.performs (told_returns hreturns r.clock)
  · rw [hlog.writes, replay_concat] at hstored
    have hstands : ¬ (r.PushStands ∧ r.NewState) := fun h =>
      Bool.false_ne_true (hlog.stands.symm.trans h.1)
    refine iff_of_true ⟨_, hstored, hfresh, fun update hupdate => ?_⟩ hstands
    rw [hlog.writes] at hupdate
    obtain hupdate | hupdate := List.mem_append.mp hupdate
    · obtain ⟨htime, hnone⟩ := hstale update hupdate
      refine ⟨?_, fun pushId hpush => nomatch hnone.symm.trans hpush⟩
      calc update.nextSyncTime = r.emx.nextSyncTime := htime
        _ ≤ r.start := le_of_lt r.due
        _ ≤ last.nextSyncTime := hfresh
    · obtain rfl := List.mem_singleton.mp hupdate
      exact ⟨le_refl _, fun pushId hpush => nomatch hkeeps.symm.trans hpush⟩
  · rw [hlog.writes, ← List.nil_append [first], replay_concat] at hstored
    have hstate : ¬ (r.PushStands ∧ r.NewState) := fun h =>
      Bool.false_ne_true (hlog.state.symm.trans h.2)
    refine iff_of_true ⟨_, hstored, hfresh, fun update hupdate => ?_⟩ hstate
    rw [hlog.writes] at hupdate
    obtain rfl := List.mem_singleton.mp hupdate
    refine ⟨le_refl _, fun pushId hpush => ?_⟩
    simp [ExchangeUpdate.apply, ExchangeFields.over, hclear, hpush]
  · rw [hlog.writes, ← List.singleton_append, replay_concat] at hstored
    refine iff_of_false (fun h => ?_) (not_not.mpr ⟨hlog.stands, hlog.state⟩)
    obtain ⟨row, hrow, hstart, -⟩ := h
    obtain rfl := Option.some.inj (hstored.symm.trans hrow)
    have hback : r.start ≤ r.emx.nextSyncTime := hold ▸ hstart
    exact absurd r.due (not_lt_of_ge hback)

end Renewal

/-! ## A mailbox with a subscription -/

/-- The subscription is known, and the mailbox in its `state`. -/
def pushEnv (state : Option String) : Env :=
  { MailboxOnce.openEnv with
    answer := fun t e => match e with
      | .jmapSession .. =>
        (.ok ⟨"https://jmap.test/api", "a1", true⟩ : Except String JmapSession)
      | .jmapPushGet .. => (.ok (some (.ok none)) :
        Except String (JmapResponse (Option (List String))))
      | .jmapQueryChanges .. =>
        (.ok (some (.ok ⟨["m1"], state⟩)) : Except String (JmapResponse QueryChanges))
      | e => MailboxOnce.openEnv.answer t e }

def pushRow : ExchangeRow :=
  newRow "acc" "emx-1" ⟨⟨.jmap, "me@home.test", "2024-12-01T00:00:00.000Z"⟩, .active,
    "2024-12-31T01:00:00.000Z", { noFields with
      syncCursor := some "s1"
      pushSubscriptionId := some "push-1"
      jmapConfig := some ⟨"https://jmap.test/session", "me", "secret", "", "", "a1", "inbox"⟩ }⟩

def pushRenewal (state : Option String) : Renewal where
  env := pushEnv state
  emx := pushRow
  world := { MailboxOnce.emptyWorld with exchanges := ⟨KeyedTable.empty.put pushRow⟩ }
  turns := []
  start := "2025-01-01T00:00:00.000Z"
  clock _ _ _ := le_refl _
  due := by decide

/-- Nothing has changed in the mailbox, and the new time stays. -/
theorem quiet_lasts : (pushRenewal none).Lasts := by
  have hwrites : (pushRenewal none).calls.any failedWrite = false := by decide +kernel
  have hstate : (pushRenewal none).calls.any newState = false := by decide +kernel
  exact ((pushRenewal none).lasts_iff (by decide +kernel) hwrites).mpr fun h =>
    Bool.false_ne_true (hstate.symm.trans h.2)

/-- A message has come, and the renewal that reports success leaves the old time. -/
theorem changed_due_again : (pushRenewal (some "s2")).result = some (.ok ()) ∧
    (pushRenewal (some "s2")).WritesSucceed ∧
    (pushRenewal (some "s2")).stored.map ExchangeRow.nextSyncTime =
      some "2024-12-31T01:00:00.000Z" ∧
    ¬ (pushRenewal (some "s2")).Lasts := by
  have hwrites : (pushRenewal (some "s2")).calls.any failedWrite = false := by decide +kernel
  have hstored : (pushRenewal (some "s2")).stored.map ExchangeRow.nextSyncTime =
      some "2024-12-31T01:00:00.000Z" := by decide +kernel
  refine ⟨by decide +kernel, hwrites, hstored, fun h => ?_⟩
  obtain ⟨row, hrow, hstart, -⟩ := h
  rw [hrow] at hstored
  have hpast : row.nextSyncTime < (pushRenewal (some "s2")).start := by
    rw [Option.some.inj hstored]
    exact (pushRenewal (some "s2")).due
  exact absurd hpast (not_lt_of_ge hstart)

end SesEmailAdapter.Exchanges.JmapRenewal
