import SesEmailAdapter.Exchanges.ExchangeHistory
import SesEmailAdapter.Exchanges.ImapDelivery

/-! # The lifecycle of an exchange

Requests, dispatches and webhooks, interleaved call by call. An exchange that is gone stays gone,
one that was deactivated is connected again by a request alone, and the third failed renewal in a
row deactivates it, as long as no write is one from a row that others have changed since. -/

namespace SesEmailAdapter.Exchanges.ExchangeLifecycle
open Lib
open SesEmailAdapter.Types
open Database.ExchangesDatabase hiding Cmd settle
open Exchanges.ExchangeService Exchanges.ExchangeHistory
open Exchanges.EmxDispatchWorker (dispatch)
open Exchanges.MailboxOnce (openEnv)
open Api.ExternalExchangesApi (deleteExchange)

/-! ## What happens to exchanges -/

/-- A world with the history of its exchanges. -/
structure Ledger where
  world : World
  /-- When the exchange was last created, deleted, or changed in its status or failure count. -/
  changed : String × String → Option Nat
  /-- The renewals that have failed since one succeeded or the mailbox was connected. -/
  streak : String × String → Nat

def Ledger.row (l : Ledger) (key : String × String) : Option ExchangeRow :=
  l.world.exchanges.exchanges.get key

def standing (w : World) (key : String × String) : Option (EmxStatus × Option Nat) :=
  (w.exchanges.exchanges.get key).map fun row => (row.status, row.fields.consecutiveFailures)

def streakAfter (c : Cmd) (fate : Fate) (streak : String × String → Nat) (key : String × String) :
    Nat :=
  match c with
  | .logRenewal accountId emxId renewed =>
    if (accountId, emxId) = key then if renewed then 0 else streak key + 1 else streak key
  | .exchanges (.createExternalExchange accountId id _) =>
    if (accountId, id) = key ∧ fate ≠ .refused then 0 else streak key
  | .exchanges (.updateExternalExchange accountId emxId update) =>
    if (accountId, emxId) = key ∧ fate ≠ .refused ∧ update.fields.consecutiveFailures = some 0 then 0
    else streak key
  | _ => streak key

def changedAfter (l : Ledger) (w : World) (key : String × String) : Option Nat :=
  if standing w key = standing l.world key then l.changed key else some l.world.tick

def record (env : Env) (c : Cmd) (l : Ledger) (turn : Turn) : c.Answer × Ledger :=
  ((settle env c l.world turn.fate).1, {
    world := (settle env c l.world turn.fate).2
    changed := changedAfter l (settle env c l.world turn.fate).2
    streak := streakAfter c turn.fate l.streak })

def recorded (env : Env) : Service Cmd Cmd.Answer Ledger Turn := ⟨record env, ⟨.done, 0⟩⟩

def opened (w : World) : Ledger := ⟨w, fun _ => none, fun _ => 0⟩

/-! ## Runs -/

/-- Nobody has changed the exchange since the task read it or last wrote it. -/
def UpToDate (l : Ledger) (memo : Memo) (key : String × String) : Prop :=
  ∀ read ∈ memo.reads, exchangeKey read.2 = key → ∀ t, l.changed key = some t → t ≤ read.1

/-- An exchange is created under a new id; an update finds the exchange there, and as its task has
read it, unless it connects it again; and a renewal that fails has counted that of an active
exchange, which nobody has changed since. -/
def Current (l : Ledger) (q : Option Memo) (c : Cmd) (fate : Fate) : Prop :=
  match c with
  | .exchanges (.createExternalExchange accountId id _) =>
    l.row (accountId, id) = none ∧ l.changed (accountId, id) = none
  | .exchanges (.updateExternalExchange accountId emxId update) =>
    fate ≠ .refused → (∃ row, l.row (accountId, emxId) = some row) ∧
      (.errorReason ∉ update.clearFields → ∀ memo, q = some memo →
        UpToDate l memo (accountId, emxId))
  | .logRenewal accountId emxId renewed =>
    renewed = false → ∀ row, l.row (accountId, emxId) = some row → row.status = .active →
      ∀ memo, q = some memo → ∃ t, memo.counted = some ((accountId, emxId), t) ∧
        l.changed (accountId, emxId) = some t
  | _ => True

def current (env : Env) : Rules Cmd Cmd.Answer Unit Ledger Turn (Option Memo) where
  spawn prog q _ _ := ∃ kind, q = some ⟨kind, false, [], none⟩ ∧ IsTask env kind prog
  step _ q c turn l _ := turn.tick = l.world.tick ∧ Current l q c turn.fate
  crash _ _ _ _ := True

/-! ## The invariant -/

/-- A failure of the exchange that has been counted in its last change, but not yet logged. -/
def IsPending (l : Ledger) (key : String × String) (v : Option Memo × Bool) : Bool :=
  match l.changed key with
  | none => false
  | some t => decide (v.1.bind Memo.counted = some (key, t))

structure MemoOk (l : Ledger) (memo : Memo) : Prop where
  seen : ∀ read ∈ memo.reads, read.1 < l.world.tick
  reads : ∀ read ∈ memo.reads,
    (∀ t, l.changed (exchangeKey read.2) = some t → t ≤ read.1) →
    standing l.world (exchangeKey read.2) =
      some (read.2.status, read.2.fields.consecutiveFailures)
  counted : ∀ key t, memo.counted = some (key, t) → t < l.world.tick

structure Inv (l : Ledger) (views : List (Option Memo × Bool)) : Prop where
  changed : ∀ key t, l.changed key = some t → t < l.world.tick
  memos : ∀ q alive, (q, alive) ∈ views → ∃ memo, q = some memo ∧ MemoOk l memo
  counts : ∀ key row, l.row key = some row → row.status = .active →
    l.streak key + views.countP (IsPending l key) ≤ failures row ∧
      l.streak key + views.countP (IsPending l key) ≤ 2

variable {env : Env} {l : Ledger} {memo memo' : Memo} {c : Cmd} {turn : Turn}
  {key : String × String}

/-! ### What a call does to the table -/

/-- What becomes of the row of a key. -/
inductive RowStep (c : Cmd) (fate : Fate) (key : String × String) :
    Option ExchangeRow → Option ExchangeRow → Prop
  | same (row : Option ExchangeRow) : RowStep c fate key row row
  | created (row : Option ExchangeRow) (accountId id : String) (data : NewExchange)
      (hc : c = .exchanges (.createExternalExchange accountId id data))
      (hkey : (accountId, id) = key) (hfate : fate ≠ .refused) :
      RowStep c fate key row (some (newRow accountId id data))
  | updated (row : Option ExchangeRow) (accountId emxId : String) (update : ExchangeUpdate)
      (hc : c = .exchanges (.updateExternalExchange accountId emxId update))
      (hkey : (accountId, emxId) = key) (hfate : fate ≠ .refused) :
      RowStep c fate key row (some (update.apply (row.getD (bareRow accountId emxId))))
  | deleted (row : Option ExchangeRow) (accountId emxId : String)
      (hc : c = .exchanges (.deleteExternalExchange accountId emxId))
      (hkey : (accountId, emxId) = key) : RowStep c fate key row none

theorem rowStep (env : Env) (c : Cmd) (w : World) (fate : Fate) (key : String × String) :
    RowStep c fate key (w.exchanges.exchanges.get key)
      ((settle env c w fate).2.exchanges.exchanges.get key) := by
  by_cases hc : ∃ c', c = .exchanges c'
  · obtain ⟨c', rfl⟩ := hc
    rw [exchanges_settle_request]
    split
    · exact .same _
    next hfate =>
    cases c' with
    | createExternalExchange accountId id data =>
      show RowStep _ _ _ _ ((w.exchanges.exchanges.put (newRow accountId id data)).get key)
      rw [KeyedTable.get_put]
      split
      · next hkey => exact .created _ accountId id data rfl hkey.symm hfate
      · exact .same _
    | updateExternalExchange accountId emxId update =>
      show RowStep _ _ _ _
        ((w.exchanges.exchanges.put (w.exchanges.updated accountId emxId update)).get key)
      have hrowKey : exchangeKey (w.exchanges.updated accountId emxId update) =
          (accountId, emxId) := by
        rw [Store.updated, exchangeKey_apply]
        cases hrow : w.exchanges.exchanges.get (accountId, emxId) with
        | none => rfl
        | some row => exact KeyedTable.key_of_get hrow
      rw [KeyedTable.get_put, hrowKey]
      split
      · next hkey =>
        rw [Store.updated, ← hkey]
        exact .updated _ accountId emxId update rfl hkey.symm hfate
      · exact .same _
    | deleteExternalExchange accountId emxId =>
      show RowStep _ _ _ _ ((w.exchanges.exchanges.erase (accountId, emxId)).get key)
      rw [KeyedTable.get_erase]
      split
      · next hkey => exact .deleted _ accountId emxId rfl hkey.symm
      · exact .same _
    | _ => exact .same _
  · rw [exchanges_settle fun c' heq => hc ⟨c', heq⟩]
    exact .same _

/-- A call either leaves the standing of an exchange, or is noted as its last change. -/
theorem changed_cases (env : Env) (c : Cmd) (l : Ledger) (turn : Turn) (key : String × String) :
    (standing (record env c l turn).2.world key = standing l.world key ∧
      (record env c l turn).2.changed key = l.changed key) ∨
    (standing (record env c l turn).2.world key ≠ standing l.world key ∧
      (record env c l turn).2.changed key = some l.world.tick) := by
  by_cases hsame : standing (record env c l turn).2.world key = standing l.world key
  · exact .inl ⟨hsame, if_pos hsame⟩
  · exact .inr ⟨hsame, if_neg hsame⟩

theorem tick_record (env : Env) (c : Cmd) (l : Ledger) (turn : Turn) :
    (record env c l turn).2.world.tick = l.world.tick + 1 := by
  show (settle env c l.world turn.fate).2.tick = _
  cases c with
  | sendDispatch => cases turn.fate <;> rfl
  | sendInbound => cases turn.fate <;> rfl
  | _ => rfl

/-! ### What a call leaves of what tasks know -/

/-- A row read before is as it stands unless the exchange has changed since. -/
theorem standing_record {read : Nat × ExchangeRow} (hseen : read.1 < l.world.tick)
    (hread : (∀ t, l.changed (exchangeKey read.2) = some t → t ≤ read.1) →
      standing l.world (exchangeKey read.2) =
        some (read.2.status, read.2.fields.consecutiveFailures))
    (hfresh : ∀ t, (record env c l turn).2.changed (exchangeKey read.2) = some t → t ≤ read.1) :
    standing (record env c l turn).2.world (exchangeKey read.2) =
      some (read.2.status, read.2.fields.consecutiveFailures) := by
  obtain ⟨hsame, hchanged⟩ | ⟨-, hchanged⟩ := changed_cases env c l turn (exchangeKey read.2)
  · rw [hsame]
    exact hread fun t ht => hfresh t (hchanged.trans ht)
  · exact absurd (hfresh _ hchanged) (Nat.not_le_of_lt hseen)

theorem MemoOk.later (h : MemoOk l memo) : MemoOk (record env c l turn).2 memo where
  seen read hread := by
    rw [tick_record]
    exact Nat.lt_succ_of_lt (h.seen read hread)
  reads read hread hfresh := standing_record (h.seen read hread) (h.reads read hread) hfresh
  counted key t hcounted := by
    rw [tick_record]
    exact Nat.lt_succ_of_lt (h.counted key t hcounted)

variable {row : ExchangeRow}

/-- What an answer shows is in the table, and only a reading call shows anything. -/
theorem tells_row (h : Tells c (settle env c l.world turn.fate).1 row) :
    l.row (exchangeKey row) = some row ∧
      (settle env c l.world turn.fate).2.exchanges = l.world.exchanges := by
  have hmem {row : ExchangeRow} (h : row ∈ l.world.exchanges.exchanges.rows) :
      l.row (exchangeKey row) = some row := KeyedTable.mem_rows_iff.mp h
  cases c with
  | exchanges c =>
    cases c with
    | getExternalExchange accountId emxId =>
      cases hfate : turn.fate with
      | done =>
        rw [hfate] at h
        have hget : l.row (accountId, emxId) = some row := Except.ok.inj h
        exact ⟨hmem (KeyedTable.mem_rows_of_get hget), rfl⟩
      | refused => rw [hfate] at h; cases h
      | lost => rw [hfate] at h; cases h
    | listExternalExchanges accountId =>
      obtain ⟨rows, hrows, hrow⟩ := h
      cases hfate : turn.fate with
      | done =>
        rw [hfate] at hrows
        cases hrows
        exact ⟨hmem (List.mem_of_mem_filter (List.mem_mergeSort.mp hrow)), rfl⟩
      | refused => rw [hfate] at hrows; cases hrows
      | lost => rw [hfate] at hrows; cases hrows
    | listExchangesDue horizon =>
      obtain ⟨rows, hrows, hrow⟩ := h
      cases hfate : turn.fate with
      | done =>
        rw [hfate] at hrows
        cases hrows
        exact ⟨hmem (mem_activeExchanges.mp
          (List.mem_filter.mp (List.mem_of_mem_take hrow)).1).1, rfl⟩
      | refused => rw [hfate] at hrows; cases hrows
      | lost => rw [hfate] at hrows; cases hrows
    | findExternalExchangeBySubscriptionId subscriptionId =>
      cases hfate : turn.fate with
      | done =>
        rw [hfate] at h
        have hfind : l.world.exchanges.activeExchanges.find? (fun row =>
            row.fields.providerSubscriptionId = some subscriptionId) = some row := Except.ok.inj h
        exact ⟨hmem (mem_activeExchanges.mp (List.mem_of_find?_eq_some hfind)).1, rfl⟩
      | refused => rw [hfate] at h; cases h
      | lost => rw [hfate] at h; cases h
    | _ => exact absurd h id
  | _ => exact absurd h id

variable {accountId emxId : String} {update : ExchangeUpdate} {stored : ExchangeRow}

theorem row_update (env : Env)
    (hfate : turn.fate ≠ .refused) (hstored : l.row (accountId, emxId) = some stored) :
    (record env (.exchanges (.updateExternalExchange accountId emxId update)) l turn).2.row
      (accountId, emxId) = some (update.apply stored) := by
  have hkey : exchangeKey stored = (accountId, emxId) := KeyedTable.key_of_get hstored
  have hupdated : l.world.exchanges.updated accountId emxId update = update.apply stored := by
    rw [Store.updated, show l.world.exchanges.exchanges.get (accountId, emxId) = some stored
      from hstored, Option.getD_some]
  have hstore := exchanges_settle_request (.updateExternalExchange accountId emxId update) env
    l.world turn.fate
  rw [if_neg hfate] at hstore
  show (settle env _ l.world turn.fate).2.exchanges.exchanges.get _ = _
  rw [hstore]
  show (l.world.exchanges.exchanges.put (l.world.exchanges.updated accountId emxId update)).get _ = _
  rw [hupdated, KeyedTable.get_put, exchangeKey_apply, hkey, if_pos rfl]

/-- What a task has written is as it knows it. -/
theorem MemoOk.write (h : MemoOk l memo)
    (htick : turn.tick = l.world.tick) (hfate : turn.fate ≠ .refused)
    (hwrites : memo.Writes (accountId, emxId) update)
    (hstored : l.row (accountId, emxId) = some stored)
    (hdate : .errorReason ∉ update.clearFields → UpToDate l memo (accountId, emxId)) :
    MemoOk (record env (.exchanges (.updateExternalExchange accountId emxId update)) l turn).2
      (memo.write turn.tick (accountId, emxId) update) := by
  have hlater : MemoOk (record env (.exchanges (.updateExternalExchange accountId emxId update)) l
      turn).2 memo := h.later
  have hcount {read : Nat × ExchangeRow} (hread : read ∈ memo.reads)
      (hkey : exchangeKey read.2 = (accountId, emxId)) :
      (update.apply stored).fields.consecutiveFailures =
        (update.apply read.2).fields.consecutiveFailures := by
    rw [apply_consecutiveFailures, apply_consecutiveFailures]
    unfold Memo.Writes at hwrites
    split at hwrites
    · rw [hwrites.2.2.2]
      rfl
    · next hclear =>
      have hstanding := h.reads read hread (hkey ▸ hdate hclear read hread hkey)
      rw [hkey, standing, show l.world.exchanges.exchanges.get (accountId, emxId) = some stored
        from hstored] at hstanding
      rw [(Prod.mk.inj (Option.some.inj hstanding)).2]
  have hlate : turn.tick < (record env (.exchanges (.updateExternalExchange accountId emxId update))
      l turn).2.world.tick := by
    rw [tick_record, htick]
    exact Nat.lt_succ_self _
  refine ⟨fun read' hread' => ?_, fun read' hread' hfresh => ?_, fun key t hcounted => ?_⟩
  · obtain ⟨read, hread, rfl⟩ := List.mem_map.mp hread'
    split
    · exact hlate
    · exact hlater.seen read hread
  · obtain ⟨read, hread, rfl⟩ := List.mem_map.mp hread'
    split at hfresh
    · next hkey =>
      rw [if_pos hkey, exchangeKey_apply, hkey, ← hcount hread hkey]
      exact congrArg (Option.map fun row => (row.status, row.fields.consecutiveFailures))
        (row_update env hfate hstored)
    · next hkey =>
      rw [if_neg hkey]
      exact hlater.reads read hread hfresh
  · dsimp only [Memo.write] at hcounted
    split at hcounted
    · exact hlater.counted key t hcounted
    · cases hcounted
      exact hlate

theorem listed_nodup {t : KeyedTable exchangeKey} {rows : List ExchangeRow}
    (h : rows.Subperm t.rows) : (rows.map exchangeKey).Nodup := by
  obtain ⟨rows', hperm, hsub⟩ := h
  exact (hperm.map exchangeKey).nodup_iff.mp (t.distinct.sublist (hsub.map exchangeKey))

/-- The table answers with rows under their own keys. -/
theorem exists_next (memo : Memo) :
    ∃ memo', memo.next turn c (settle env c l.world turn.fate).1 = some memo' := by
  cases c with
  | exchanges c =>
    cases c with
    | getExternalExchange accountId emxId =>
      cases turn.fate with
      | refused => exact ⟨_, rfl⟩
      | lost => exact ⟨_, rfl⟩
      | done =>
        have hread (found : Option ExchangeRow)
            (hfound : ∀ row, found = some row → exchangeKey row = (accountId, emxId)) :
            ∃ memo', memo.next turn (.exchanges (.getExternalExchange accountId emxId))
              (Except.ok found) = some memo' := by
          cases found with
          | none => exact ⟨_, rfl⟩
          | some row => exact ⟨_, if_pos (hfound row rfl)⟩
        exact hread _ fun row hrow => KeyedTable.key_of_get hrow
    | listExternalExchanges accountId =>
      cases turn.fate with
      | refused => exact ⟨_, rfl⟩
      | lost => exact ⟨_, rfl⟩
      | done =>
        exact ⟨_, if_pos (listed_nodup
          ((List.mergeSort_perm _ _).subperm.trans List.filter_sublist.subperm))⟩
    | listExchangesDue horizon =>
      cases turn.fate with
      | refused => exact ⟨_, rfl⟩
      | lost => exact ⟨_, rfl⟩
      | done =>
        exact ⟨_, if_pos (listed_nodup (((List.take_sublist _ _).trans
          List.filter_sublist).subperm.trans
            ((List.mergeSort_perm _ _).subperm.trans List.filter_sublist.subperm)))⟩
    | findExternalExchangeBySubscriptionId subscriptionId =>
      unfold Memo.next
      dsimp only
      split <;> exact ⟨_, rfl⟩
    | updateExternalExchange accountId emxId update =>
      unfold Memo.next
      dsimp only
      split <;> exact ⟨_, rfl⟩
    | _ => exact ⟨_, rfl⟩
  | ask e =>
    cases e with
    | activate platform emx identity =>
      unfold Memo.next
      dsimp only
      split <;> exact ⟨_, rfl⟩
    | _ => exact ⟨_, rfl⟩
  | _ => exact ⟨_, rfl⟩

/-- What a task knows after its own call. -/
theorem memoOk_next (h : MemoOk l memo) (htick : turn.tick = l.world.tick)
    (hallow : watch.allow (some memo) c) (hcurrent : Current l (some memo) c turn.fate)
    (hnext : memo.next turn c (record env c l turn).1 = some memo') :
    MemoOk (record env c l turn).2 memo' := by
  have hlater : MemoOk (record env c l turn).2 memo := h.later
  obtain rfl | ⟨rows, rfl, hrows⟩ | ⟨accountId, emxId, update, rfl, hfate, rfl⟩ | rfl | rfl :=
    Memo.next_cases hnext
  · exact hlater
  · refine ⟨fun read hread => ?_, fun read hread => ?_, hlater.counted⟩
    · rcases List.mem_append.mp hread with hread | hread
      · obtain ⟨row, -, rfl⟩ := List.mem_map.mp hread
        rw [tick_record, htick]
        exact Nat.lt_succ_self _
      · exact hlater.seen read hread
    · rcases List.mem_append.mp hread with hread | hread
      · obtain ⟨row, hrow, rfl⟩ := List.mem_map.mp hread
        obtain ⟨hstored, hreads⟩ := tells_row (hrows row hrow)
        intro _
        show Option.map _ ((settle env c l.world turn.fate).2.exchanges.exchanges.get _) = _
        rw [hreads]
        exact congrArg (Option.map _) hstored
      · exact hlater.reads read hread
  · obtain ⟨⟨stored, hstored⟩, hdate⟩ := hcurrent hfate
    exact h.write htick hfate (hallow memo rfl) hstored fun hclear => hdate hclear memo rfl
  · exact ⟨hlater.seen, hlater.reads, hlater.counted⟩
  · exact ⟨hlater.seen, hlater.reads, fun _ _ hcounted => nomatch hcounted⟩

/-! ### What a call leaves of the counts -/

variable {views : List (Option Memo × Bool)} {i : Nat}

/-- What a task has counted is from before, or it is the write it has just made. -/
theorem counted_next {t : Nat} (hnext : memo.next turn c (record env c l turn).1 = some memo')
    (hcounted : memo'.counted = some (key, t)) :
    memo.counted = some (key, t) ∨ (t = turn.tick ∧ ∃ accountId emxId update,
      c = .exchanges (.updateExternalExchange accountId emxId update) ∧
        update.fields.consecutiveFailures.getD 0 ≠ 0) := by
  obtain rfl | ⟨rows, rfl, -⟩ | ⟨accountId, emxId, update, rfl, -, rfl⟩ | rfl | rfl :=
    Memo.next_cases hnext
  · exact .inl hcounted
  · exact .inl hcounted
  · dsimp only [Memo.write] at hcounted
    split at hcounted
    · exact .inl hcounted
    · next hcount =>
      cases hcounted
      exact .inr ⟨rfl, accountId, emxId, update, rfl, hcount⟩
  · exact .inl hcounted
  · cases hcounted

theorem isPending_iff {t : Nat} (ht : l.changed key = some t) {q : Option Memo} {alive : Bool} :
    IsPending l key (q, alive) = true ↔ q.bind Memo.counted = some (key, t) := by
  rw [IsPending, ht]
  exact decide_eq_true_iff

/-- While an exchange does not change, a task only ceases to be pending. -/
theorem pending_same (h : Inv l views) (hi : views[i]? = some (some memo, true))
    (htick : turn.tick = l.world.tick)
    (hnext : memo.next turn c (record env c l turn).1 = some memo')
    (hchanged : (record env c l turn).2.changed key = l.changed key) :
    (views.set i (some memo', true)).countP (IsPending (record env c l turn).2 key) +
        (IsPending l key (some memo, true)).toNat =
      views.countP (IsPending l key) + (IsPending l key (some memo', true)).toNat ∧
    (IsPending l key (some memo', true) = true → IsPending l key (some memo, true) = true) := by
  have hsame : IsPending (record env c l turn).2 key = IsPending l key := by
    funext v
    rw [IsPending, IsPending, hchanged]
  rw [hsame]
  refine ⟨countP_change _ _ hi, fun hpending => ?_⟩
  cases ht : l.changed key with
  | none =>
    rw [IsPending, ht] at hpending
    cases hpending
  | some t =>
    obtain hcounted | ⟨rfl, -⟩ := counted_next hnext ((isPending_iff ht).mp hpending)
    · exact (isPending_iff ht).mpr hcounted
    · exact absurd (h.changed key _ ht) (by omega)

/-- A change leaves only the task that has made it pending, where it has counted a failure. -/
theorem pending_changed (h : Inv l views) (hi : views[i]? = some (some memo, true))
    (hchanged : (record env c l turn).2.changed key = some l.world.tick) :
    (views.set i (some memo', true)).countP (IsPending (record env c l turn).2 key) ≤
      (IsPending (record env c l turn).2 key (some memo', true)).toNat := by
  have hnone : views.countP (IsPending (record env c l turn).2 key) = 0 := by
    refine List.countP_eq_zero.mpr ?_
    rintro ⟨q, alive⟩ hv hpending
    obtain ⟨other, rfl, hother⟩ := h.memos q alive hv
    exact absurd (hother.counted _ _ ((isPending_iff hchanged).mp hpending)) (Nat.lt_irrefl _)
  have hcount := countP_change (IsPending (record env c l turn).2 key) (some memo', true) hi
  omega

/-- The streak of an exchange starts anew, stays, or is one failure longer. -/
theorem streak_cases (c : Cmd) (fate : Fate) (streak : String × String → Nat)
    (key : String × String) :
    streakAfter c fate streak key = 0 ∨ streakAfter c fate streak key = streak key ∨
      (c = .logRenewal key.1 key.2 false ∧ streakAfter c fate streak key = streak key + 1) := by
  unfold streakAfter
  split
  · next accountId emxId renewed =>
    split
    · next hkey =>
      cases renewed with
      | true => exact .inl rfl
      | false =>
        obtain rfl := hkey
        exact .inr (.inr ⟨rfl, rfl⟩)
    · exact .inr (.inl rfl)
  · split
    · exact .inl rfl
    · exact .inr (.inl rfl)
  · split
    · exact .inl rfl
    · exact .inr (.inl rfl)
  · exact .inr (.inl rfl)

/-- Counts of a call that leaves the standing of the exchange. -/
theorem counts_same (h : Inv l views) (hi : views[i]? = some (some memo, true))
    (htick : turn.tick = l.world.tick) (hcurrent : Current l (some memo) c turn.fate)
    (hnext : memo.next turn c (record env c l turn).1 = some memo')
    (hrow : (record env c l turn).2.row key = some row) (hactive : row.status = .active)
    (hstanding : standing (record env c l turn).2.world key = standing l.world key)
    (hchanged : (record env c l turn).2.changed key = l.changed key) :
    (record env c l turn).2.streak key + (views.set i (some memo', true)).countP
        (IsPending (record env c l turn).2 key) ≤ failures row ∧
      (record env c l turn).2.streak key + (views.set i (some memo', true)).countP
        (IsPending (record env c l turn).2 key) ≤ 2 := by
  obtain ⟨stored, hstored, hsame⟩ := Option.map_eq_some_iff.mp
    (hstanding.symm.trans (congrArg (Option.map fun row : ExchangeRow =>
      (row.status, row.fields.consecutiveFailures)) hrow))
  obtain ⟨hstatus, hcount⟩ := Prod.mk.inj hsame
  have hfailures : failures stored = failures row := by rw [failures, failures, hcount]
  obtain ⟨hcounts, htwo⟩ := h.counts key stored hstored (hstatus.trans hactive)
  obtain ⟨hpending, hceases⟩ := pending_same h hi htick hnext hchanged
  have hfewer : (views.set i (some memo', true)).countP (IsPending (record env c l turn).2 key) ≤
      views.countP (IsPending l key) := by
    cases hold : IsPending l key (some memo, true) <;>
      cases hnew : IsPending l key (some memo', true) <;>
        simp_all only [Bool.toNat_true, Bool.toNat_false] <;> omega
  have hstreakAfter : (record env c l turn).2.streak key =
      streakAfter c turn.fate l.streak key := rfl
  obtain hstreak | hstreak | ⟨rfl, hstreak⟩ := streak_cases c turn.fate l.streak key
  · omega
  · omega
  · obtain ⟨t, hcounted, ht⟩ := hcurrent rfl stored hstored (hstatus.trans hactive) memo rfl
    have hold : IsPending l key (some memo, true) = true := (isPending_iff ht).mpr hcounted
    have hnew : IsPending l key (some memo', true) = false := by
      cases hnext
      rw [IsPending, ht]
      rfl
    rw [hold, hnew] at hpending
    simp only [Bool.toNat_true, Bool.toNat_false] at hpending
    omega

/-- A write of an exchange that its task has read as it stands counts from what is stored. -/
theorem written_cases (hmemo : MemoOk l memo) (hstored : l.row (accountId, emxId) = some stored)
    (hwrites : memo.Writes (accountId, emxId) update)
    (hdate : .errorReason ∉ update.clearFields → UpToDate l memo (accountId, emxId)) :
    (.errorReason ∈ update.clearFields ∧ memo.kind = .request ∧ memo.tested = true ∧
      Revives update) ∨ Plain update stored := by
  unfold Memo.Writes at hwrites
  split at hwrites
  · next hclear => exact .inl ⟨hclear, hwrites⟩
  · next hclear =>
    obtain ⟨read, hread, hkey, hplain⟩ := hwrites
    have hstanding := hmemo.reads read hread (hkey ▸ hdate hclear read hread hkey)
    rw [hkey] at hstanding
    have hstoredStanding : standing l.world (accountId, emxId) =
        some (stored.status, stored.fields.consecutiveFailures) := congrArg (Option.map _) hstored
    obtain ⟨hstatus, hcount⟩ :=
      Prod.mk.inj (Option.some.inj (hstoredStanding.symm.trans hstanding))
    rw [Plain, failures, ← hstatus, ← hcount] at hplain
    exact .inr hplain

/-- Counts of a call that changes the standing of the exchange. -/
theorem counts_changed (h : Inv l views) (hi : views[i]? = some (some memo, true))
    (hmemo : MemoOk l memo) (hallow : watch.allow (some memo) c)
    (hcurrent : Current l (some memo) c turn.fate)
    (hnext : memo.next turn c (record env c l turn).1 = some memo')
    (hrow : (record env c l turn).2.row key = some row) (hactive : row.status = .active)
    (hstanding : standing (record env c l turn).2.world key ≠ standing l.world key)
    (hchanged : (record env c l turn).2.changed key = some l.world.tick) :
    (record env c l turn).2.streak key + (views.set i (some memo', true)).countP
        (IsPending (record env c l turn).2 key) ≤ failures row ∧
      (record env c l turn).2.streak key + (views.set i (some memo', true)).countP
        (IsPending (record env c l turn).2 key) ≤ 2 := by
  have hpending : (views.set i (some memo', true)).countP
      (IsPending (record env c l turn).2 key) ≤
        (IsPending (record env c l turn).2 key (some memo', true)).toNat :=
    pending_changed h hi hchanged
  have hstreak : (record env c l turn).2.streak key = streakAfter c turn.fate l.streak key := rfl
  have hquiet (hcount : ∀ accountId emxId update,
      c = .exchanges (.updateExternalExchange accountId emxId update) →
        update.fields.consecutiveFailures.getD 0 = 0) :
      IsPending (record env c l turn).2 key (some memo', true) = false := by
    by_contra hnot
    obtain hcounted | ⟨-, accountId, emxId, update, hc, hne⟩ :=
      counted_next hnext ((isPending_iff hchanged).mp (Bool.eq_true_of_not_eq_false hnot))
    · exact absurd (hmemo.counted _ _ hcounted) (Nat.lt_irrefl _)
    · exact hne (hcount accountId emxId update hc)
  have hstep := rowStep env c l.world turn.fate key
  rw [show (settle env c l.world turn.fate).2.exchanges.exchanges.get key = some row from hrow]
    at hstep
  generalize hold : l.world.exchanges.exchanges.get key = old at hstep
  cases hstep with
  | same =>
    refine absurd ?_ hstanding
    rw [standing, standing, hold]
    exact congrArg (Option.map _) hrow
  | created accountId id data hc hkey hfate =>
    subst hc
    rw [streakAfter, if_pos ⟨hkey, hfate⟩] at hstreak
    have hnone := hquiet fun _ _ _ hc => nomatch hc
    rw [hnone, Bool.toNat_false] at hpending
    omega
  | updated accountId emxId update hc hkey hfate =>
    subst hc hkey
    obtain ⟨⟨stored, hstored⟩, hdate⟩ := hcurrent hfate
    obtain rfl : old = some stored := hold.symm.trans hstored
    have hzero (hcount : update.fields.consecutiveFailures = some 0) :
        (record env (.exchanges (.updateExternalExchange accountId emxId update)) l turn).2.streak
          (accountId, emxId) + (views.set i (some memo', true)).countP
            (IsPending (record env (.exchanges (.updateExternalExchange accountId emxId update)) l
              turn).2 (accountId, emxId)) = 0 := by
      rw [streakAfter, if_pos ⟨rfl, hfate, hcount⟩] at hstreak
      have hnone := hquiet fun _ _ _ hc => by cases hc; rw [hcount]; rfl
      rw [hnone, Bool.toNat_false] at hpending
      omega
    obtain ⟨-, -, -, -, hcount⟩ | ⟨hstatus, hcount | hcount⟩ | ⟨hcount, hstatus⟩ :=
      written_cases hmemo hstored (hallow memo rfl) fun hclear => hdate hclear memo rfl
    · have := hzero hcount
      omega
    · -- a write of the same status and without a count changes neither
      refine absurd ?_ hstanding
      rw [standing, standing, hold, show (record env _ l turn).2.world.exchanges.exchanges.get
        (accountId, emxId) = _ from hrow, Option.map_some, Option.map_some, Option.getD_some,
        apply_consecutiveFailures, hcount]
      exact congrArg (fun status => some (status, stored.fields.consecutiveFailures)) hstatus
    · have := hzero hcount
      omega
    · have hupdate : update.status = .active := hactive
      rw [hupdate] at hstatus
      split at hstatus
      · cases hstatus
      next hfew =>
      obtain ⟨hcounts, -⟩ := h.counts _ stored hstored hstatus.symm
      have hfailures : failures (update.apply stored) = failures stored + 1 := by
        rw [failures, apply_consecutiveFailures, hcount]
        rfl
      have hsame : (record env (.exchanges (.updateExternalExchange accountId emxId update)) l
          turn).2.streak (accountId, emxId) = l.streak (accountId, emxId) := by
        refine hstreak.trans (if_neg fun hall => ?_)
        cases hcount.symm.trans hall.2.2
      have hone := Bool.toNat_le (IsPending (record env (.exchanges
        (.updateExternalExchange accountId emxId update)) l turn).2 (accountId, emxId)
          (some memo', true))
      rw [Option.getD_some, hfailures]
      omega

theorem keeps_inv : Keeps (recorded env) watch (fun _ (_ : Unit) => True) (current env) Inv where
  spawn l views prog q h hspawn := by
    obtain ⟨kind, rfl, htask⟩ := hspawn
    have hrole : kind = .request → Holds (Role false) (some ⟨kind, false, [], none⟩) := by
      rintro hkind memo ⟨⟩
      exact ⟨hkind, fun hf => nomatch hf⟩
    refine ⟨?_, h.changed, fun q alive hv => ?_, fun key row hrow hactive => ?_⟩
    · cases kind with
      | request => exact IsRequest.obeys htask (hrole rfl)
      | sync => exact IsSync.obeys htask _
    · rcases List.mem_append.mp hv with hv | hv
      · exact h.memos q alive hv
      · cases List.mem_singleton.mp hv
        exact ⟨_, rfl, fun _ hread => absurd hread List.not_mem_nil,
          fun _ hread => absurd hread List.not_mem_nil, fun _ _ hcounted => nomatch hcounted⟩
    · have hnew : IsPending l key (some ⟨kind, false, [], none⟩, true) = false := by
        unfold IsPending
        split <;> rfl
      rw [countP_spawn, hnew]
      exact h.counts key row hrow hactive
  step l views i q c turn h hi hallow hcurrent := by
    obtain ⟨htick, hcurrent⟩ := hcurrent
    obtain ⟨memo, rfl, hmemo⟩ := h.memos q true (List.mem_of_getElem? hi)
    obtain ⟨memo', hnext⟩ : ∃ memo', memo.next turn c (record env c l turn).1 = some memo' :=
      exists_next memo
    have hview : watch.next (some memo) c turn ((recorded env).settle c l turn).1 = some memo' :=
      hnext
    rw [hview]
    refine ⟨fun key t ht => ?_, fun q alive hv => ?_, fun key row hrow hactive => ?_⟩
    · show t < (record env c l turn).2.world.tick
      rw [tick_record]
      obtain ⟨-, hchanged⟩ | ⟨-, hchanged⟩ := changed_cases env c l turn key
      · exact Nat.lt_succ_of_lt (h.changed key t (hchanged.symm.trans ht))
      · cases hchanged.symm.trans ht
        exact Nat.lt_succ_self _
    · rcases List.mem_or_eq_of_mem_set hv with hv | heq
      · obtain ⟨other, rfl, hother⟩ := h.memos q alive hv
        exact ⟨other, rfl, hother.later⟩
      · cases heq
        exact ⟨memo', rfl, memoOk_next hmemo htick hallow hcurrent hnext⟩
    · obtain ⟨hstanding, hchanged⟩ | ⟨hstanding, hchanged⟩ := changed_cases env c l turn key
      · exact counts_same h hi htick hcurrent hnext hrow hactive hstanding hchanged
      · exact counts_changed h hi hmemo hallow hcurrent hnext hrow hactive hstanding hchanged
  crash l views i q h hi _ := by
    refine ⟨h.changed, fun q' alive hv => ?_, fun key row hrow hactive => ?_⟩
    · rcases List.mem_or_eq_of_mem_set hv with hv | heq
      · exact h.memos q' alive hv
      · cases heq
        exact h.memos q true (List.mem_of_getElem? hi)
    · have hcount := countP_change (IsPending l key) (q, false) hi
      have hview : IsPending l key (q, false) = IsPending l key (q, true) := rfl
      rw [hview] at hcount
      have hcounts := h.counts key row hrow hactive
      omega

/-! ## What the runs keep -/

/-- The index key of every row is that of its status and next sync time. -/
def Indexed (w : World) : Prop :=
  ∀ key row, w.exchanges.exchanges.get key = some row →
    row.gsi1pk = partitionOf row.status ∧ row.gsi1sk = sortOf row.nextSyncTime row.id

end SesEmailAdapter.Exchanges.ExchangeLifecycle
