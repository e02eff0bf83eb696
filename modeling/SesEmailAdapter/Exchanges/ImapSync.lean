import SesEmailAdapter.Exchanges.EmxDispatchWorker
import SesEmailAdapter.Lib.Batches
import SesEmailAdapter.Lib.Pool

/-! # IMAP sync

Dispatches and IDLE sessions around one IMAP exchange, interleaved call by call, over a mailbox
whose messages come and go. A renewal relies on a cursor that it has read before others moved it;
what holds of every cursor ever stored is that the messages up to it have been enqueued. -/

namespace SesEmailAdapter.Exchanges.ImapSync
open Lib Lib.Batches
open Database Database.Shared
open Database.ExchangesDatabase hiding Cmd settle
open Exchanges.ExchangeService Exchanges.ImapAdapter
open Exchanges.EmxDispatchWorker

/-! ## The mailbox -/

/-- The uids in a mailbox over time, as searches of it show them: a new message gets a uid above
those that are there. -/
structure Mailbox (env : Env) (config : ImapConfig) where
  uids : Nat → List Nat
  increasing : ∀ t t' uid, t ≤ t' → uid ∈ uids t' → uid ∉ uids t → ∀ old ∈ uids t, old < uid
  nodup : ∀ t, (uids t).Nodup
  search : ∀ t lastKnownUid found, env.answer t (.imapSearch config lastKnownUid) = .ok found →
    found.Nodup ∧ ∀ uid, lastKnownUid < uid → (uid ∈ found ↔ uid ∈ uids t)

/-- The exchange that is synced: its key, how it is reached, and the uid it began at. -/
structure Synced where
  accountId : String
  id : String
  config : ImapConfig
  initialUid : Nat

def Synced.key (emx : Synced) : String × String := (emx.accountId, emx.id)

def Synced.inbound (emx : Synced) (env : Env) (uid : Nat) : InboundPayload :=
  ⟨.imap, env.uidText uid, emx.id, emx.accountId⟩

/-- A row that this exchange can have. -/
def Synced.IsRow (emx : Synced) (row : ExchangeRow) : Prop :=
  exchangeKey row = emx.key ∧ row.platform = some .imap ∧ row.fields.imapConfig = some emx.config

def batchOf (lastKnownUid : Nat) (found : List Nat) : List Nat :=
  (above lastKnownUid found).take 500

structure Search where
  tick : Nat
  lastKnownUid : Nat
  found : List Nat

def Search.batch (search : Search) : List Nat := batchOf search.lastKnownUid search.found

variable {env : Env} {emx : Synced} (mailbox : Mailbox env emx.config)

/-- Everything up to `uid` that was there at a moment has been enqueued. -/
def EnqueuedUpTo (w : World) (t uid : Nat) : Prop :=
  ∀ m ∈ mailbox.uids t, emx.initialUid < m → m ≤ uid → emx.inbound env m ∈ w.inbound

/-- A search that has been made, and what it has found. -/
def Search.Made (env : Env) (emx : Synced) (w : World) (search : Search) : Prop :=
  search.tick < w.tick ∧
    env.answer search.tick (.imapSearch emx.config search.lastKnownUid) = .ok search.found

/-- The batch of a search ended in the uid, and everything up to it that the mailbox held at the
search has been enqueued; or nothing new has been found yet. -/
def Covered (w : World) (uid : Nat) : Prop :=
  uid ≤ emx.initialUid ∨ ∃ search : Search, search.Made env emx w ∧
    search.batch.getLast? = some uid ∧ EnqueuedUpTo mailbox w search.tick uid

def CoveredRow (w : World) (row : ExchangeRow) : Prop :=
  ∀ state, resolveImapSyncState env row = .ok state → Covered mailbox w state.lastUid

/-! ## What a task knows -/

structure Memo where
  /-- The rows that it has read. -/
  rows : List ExchangeRow
  /-- Its last search with an answer, if that was from a uid that a row it has read goes up to. -/
  found : Option Search
  sent : List InboundPayload

def reaches (env : Env) (emx : Synced) (uid : Nat) (row : ExchangeRow) : Bool :=
  exchangeKey row = emx.key && match resolveImapSyncState env row with
    | .ok state => decide (uid ≤ state.lastUid)
    | .error _ => false

instance (emx : Synced) (row : ExchangeRow) : Decidable (emx.IsRow row) :=
  inferInstanceAs (Decidable (_ ∧ _ ∧ _))

/-- `none` where rows of another kind stand under the key. -/
def Memo.learn (emx : Synced) (rows : List ExchangeRow) (memo : Memo) : Option Memo :=
  if ∀ row ∈ rows, exchangeKey row = emx.key → emx.IsRow row then
    some { memo with rows := rows ++ memo.rows }
  else none

def Memo.next (env : Env) (emx : Synced) (memo : Memo) (tick : Nat) :
    (c : Cmd) → c.Answer → Option Memo
  | .exchanges (.getExternalExchange ..), answer =>
    match (answer : Except DbError (Option ExchangeRow)) with
    | .ok (some row) => memo.learn emx [row]
    | _ => some memo
  | .exchanges (.listExchangesDue _), answer =>
    match (answer : Except DbError (List ExchangeRow)) with
    | .ok rows => memo.learn emx rows
    | _ => some memo
  | .sendInbound chunk, answer =>
    match (answer : Except DbError Unit) with
    | .ok () => some { memo with sent := chunk ++ memo.sent }
    | _ => some memo
  | .ask (.imapSearch config lastKnownUid), answer =>
    match (answer : Except ImapError (List Nat)) with
    | .ok found =>
      if config = emx.config ∧ memo.rows.any (reaches env emx lastKnownUid) then
        some { memo with found := some ⟨tick, lastKnownUid, found⟩ }
      else some { memo with found := none }
    | _ => some memo
  | _, _ => some memo

/-- A write of the exchange leaves its cursor, or moves it to the end of an enqueued batch. -/
def Memo.Stores (env : Env) (emx : Synced) (memo : Memo) (update : ExchangeUpdate) : Prop :=
  update.fields.imapConfig = none ∧
    ((update.fields.syncState = none ∧ update.fields.syncCursor = none) ∨
      ∃ search state, memo.found = some search ∧ update.fields.syncState = some state ∧
        search.batch.getLast? = some state.lastUid ∧
        ∀ uid ∈ search.batch, emx.inbound env uid ∈ memo.sent)

def watch (env : Env) (emx : Synced) : Monitor Cmd Cmd.Answer Turn (Option Memo) where
  allow q c := ∀ memo, q = some memo → match c with
    | .exchanges (.createExternalExchange ..) => False
    | .exchanges (.deleteExternalExchange ..) => False
    | .exchanges (.updateExternalExchange accountId emxId update) =>
      (accountId, emxId) = emx.key → memo.Stores env emx update
    | _ => True
  next q c turn answer := q.bind fun memo => memo.next env emx turn.tick c answer

def timed (env : Env) : Service Cmd Cmd.Answer World Turn :=
  ⟨fun c w turn => settle env c w turn.fate, ⟨.done, 0⟩⟩

abbrev Syncs := Pool Cmd Cmd.Answer Unit (Option Memo) World

/-- A dispatch of one exchange or of all that are due, or an IDLE session. -/
def IsSync (env : Env) (prog : ExchangeProg Unit) : Prop :=
  (∃ payload, prog = dispatch env payload) ∨ ∃ row, prog = idleAndDispatch row

/-- Nothing is known of a task that starts, and any call may fail. -/
def syncing (env : Env) : Rules Cmd Cmd.Answer Unit World Turn (Option Memo) where
  spawn prog q _ _ := q = some ⟨[], none, []⟩ ∧ IsSync env prog
  step _ _ _ turn w _ := turn.tick = w.tick
  crash _ _ _ _ := True

/-! ## The invariant -/

structure MemoOk (w : World) (memo : Memo) : Prop where
  rows : ∀ row ∈ memo.rows, exchangeKey row = emx.key → emx.IsRow row ∧ CoveredRow mailbox w row
  found : ∀ search, memo.found = some search → search.Made env emx w ∧
    EnqueuedUpTo mailbox w search.tick search.lastKnownUid
  sent : ∀ payload ∈ memo.sent, payload ∈ w.inbound

structure Inv (w : World) (views : List (Option Memo × Bool)) : Prop where
  stored : ∃ row, w.exchanges.exchanges.get emx.key = some row ∧ emx.IsRow row ∧
    CoveredRow mailbox w row
  memos : ∀ q alive, (q, alive) ∈ views → ∃ memo, q = some memo ∧ MemoOk mailbox w memo

/-- Time goes on, and what has been sent stays sent. -/
structure Grows (w w' : World) : Prop where
  tick : w.tick ≤ w'.tick
  inbound : ∀ payload ∈ w.inbound, payload ∈ w'.inbound

variable {mailbox} {w w' : World} {fate : Fate} {memo : Memo}

theorem Grows.trans {w'' : World} (h : Grows w w') (h' : Grows w' w'') : Grows w w'' :=
  ⟨h.tick.trans h'.tick, fun payload hpayload => h'.inbound payload (h.inbound payload hpayload)⟩

theorem grows_settle (env : Env) (c : Cmd) (w : World) (fate : Fate) :
    Grows w (settle env c w fate).2 := by
  cases c with
  | sendDispatch => cases fate <;> exact ⟨Nat.le_succ _, fun _ => id⟩
  | sendInbound =>
    cases fate with
    | refused => exact ⟨Nat.le_succ _, fun _ => id⟩
    | done => exact ⟨Nat.le_succ _, fun _ => List.mem_append_right _⟩
    | lost => exact ⟨Nat.le_succ _, fun _ => List.mem_append_right _⟩
  | _ => exact ⟨Nat.le_succ _, fun _ => id⟩

theorem tick_settle (env : Env) (c : Cmd) (w : World) (fate : Fate) :
    (settle env c w fate).2.tick = w.tick + 1 := by
  cases c with
  | sendDispatch => cases fate <;> rfl
  | sendInbound => cases fate <;> rfl
  | _ => rfl

theorem EnqueuedUpTo.mono {t uid : Nat} (hgrows : Grows w w') (h : EnqueuedUpTo mailbox w t uid) :
    EnqueuedUpTo mailbox w' t uid :=
  fun m hm hinitial hle => hgrows.inbound _ (h m hm hinitial hle)

theorem Search.Made.mono {search : Search} (hgrows : Grows w w') (h : search.Made env emx w) :
    search.Made env emx w' :=
  ⟨Nat.lt_of_lt_of_le h.1 hgrows.tick, h.2⟩

theorem Covered.mono {uid : Nat} (hgrows : Grows w w') (h : Covered mailbox w uid) :
    Covered mailbox w' uid := by
  obtain h | ⟨search, hmade, hlast, hup⟩ := h
  · exact .inl h
  · exact .inr ⟨search, hmade.mono hgrows, hlast, hup.mono hgrows⟩

variable {row : ExchangeRow} {rows : List ExchangeRow} {views : List (Option Memo × Bool)}
  {q : Option Memo}

theorem CoveredRow.mono (hgrows : Grows w w') (h : CoveredRow mailbox w row) :
    CoveredRow mailbox w' row :=
  fun state hstate => (h state hstate).mono hgrows

theorem MemoOk.mono (hgrows : Grows w w') (h : MemoOk mailbox w memo) : MemoOk mailbox w' memo where
  rows row hrow hkey := ⟨(h.rows row hrow hkey).1, (h.rows row hrow hkey).2.mono hgrows⟩
  found search hfound :=
    ⟨(h.found search hfound).1.mono hgrows, (h.found search hfound).2.mono hgrows⟩
  sent payload hpayload := hgrows.inbound payload (h.sent payload hpayload)

/-- A message below one that was there earlier was there then. -/
theorem Mailbox.older {t t' uid old : Nat} (ht : t ≤ t') (huid : uid ∈ mailbox.uids t')
    (hold : old ∈ mailbox.uids t) (hle : uid ≤ old) : uid ∈ mailbox.uids t := by
  by_contra hnot
  exact absurd (mailbox.increasing t t' uid ht huid hnot old hold) (Nat.not_lt.mpr hle)

/-- The last uid of a batch was in the mailbox at the search. -/
theorem mem_of_batch {search : Search} {uid : Nat} (hmade : search.Made env emx w)
    (huid : uid ∈ search.batch) :
    uid ∈ mailbox.uids search.tick ∧ search.lastKnownUid < uid := by
  obtain ⟨hfound, hlt⟩ := mem_above.mp (List.mem_of_mem_take huid)
  exact ⟨((mailbox.search _ _ _ hmade.2).2 uid hlt).mp hfound, hlt⟩

/-- What a search from a covered uid leaves below it has been enqueued. -/
theorem Covered.enqueued {uid : Nat} (h : Covered mailbox w uid) {lastKnownUid : Nat}
    (hle : lastKnownUid ≤ uid) : EnqueuedUpTo mailbox w w.tick lastKnownUid := by
  intro m hm hinitial hmle
  obtain h | ⟨search, hmade, hlast, hup⟩ := h
  · omega
  · obtain ⟨hmem, -⟩ : uid ∈ mailbox.uids search.tick ∧ search.lastKnownUid < uid :=
      mem_of_batch hmade (List.mem_of_getLast? hlast)
    have hmuid : m ≤ uid := hmle.trans hle
    exact hup m (mailbox.older (Nat.le_of_lt hmade.1) hm hmem hmuid) hinitial hmuid

/-- A search and the batch it gave, all of it enqueued. -/
theorem enqueuedUpTo_batch {search : Search} {uid : Nat} (hmade : search.Made env emx w)
    (hup : EnqueuedUpTo mailbox w search.tick search.lastKnownUid)
    (hlast : search.batch.getLast? = some uid)
    (hsent : ∀ m ∈ search.batch, emx.inbound env m ∈ w.inbound) :
    EnqueuedUpTo mailbox w search.tick uid := by
  intro m hm hinitial hle
  by_cases hbelow : m ≤ search.lastKnownUid
  · exact hup m hm hinitial hbelow
  · have hlt : search.lastKnownUid < m := Nat.lt_of_not_le hbelow
    have hfound := ((mailbox.search _ _ _ hmade.2).2 m hlt).mpr hm
    exact hsent m (mem_take_of_le_last (above_sorted _ _) hlast (mem_above.mpr ⟨hfound, hlt⟩) hle)

/-! ### What a call keeps of the row -/

/-- A write within what the task may store. -/
theorem covered_apply {update : ExchangeUpdate} (h : CoveredRow mailbox w row)
    (hmemo : MemoOk mailbox w memo) (hstores : memo.Stores env emx update) :
    CoveredRow mailbox w (update.apply row) := by
  intro state hstate
  obtain ⟨-, ⟨hstateNone, hcursorNone⟩ | ⟨search, stored, hfound, hsync, hlast, hsent⟩⟩ := hstores
  · refine h state ?_
    rw [resolveImapSyncState, apply_syncState, apply_syncCursor, hstateNone, hcursorNone] at hstate
    exact hstate
  · rw [resolveImapSyncState, apply_syncState, hsync] at hstate
    cases hstate
    obtain ⟨hmade, hup⟩ := hmemo.found search hfound
    exact .inr ⟨search, hmade, hlast,
      enqueuedUpTo_batch hmade hup hlast fun m hm => hmemo.sent _ (hsent m hm)⟩

theorem stored_settle {c : Cmd} (h : Inv mailbox w views)
    (hmemo : MemoOk mailbox w memo) (hallow : (watch env emx).allow (some memo) c) :
    ∃ row, (settle env c w fate).2.exchanges.exchanges.get emx.key = some row ∧ emx.IsRow row ∧
      CoveredRow mailbox (settle env c w fate).2 row := by
  have hgrows := grows_settle env c w fate
  obtain ⟨row, hrow, hisRow, hcovered⟩ := h.stored
  have hsame (heq : (settle env c w fate).2.exchanges = w.exchanges) :
      ∃ row, (settle env c w fate).2.exchanges.exchanges.get emx.key = some row ∧ emx.IsRow row ∧
        CoveredRow mailbox (settle env c w fate).2 row :=
    ⟨row, heq ▸ hrow, hisRow, hcovered.mono hgrows⟩
  by_cases hc : ∃ c', c = .exchanges c'
  · obtain ⟨c', rfl⟩ := hc
    have hstore := exchanges_settle_request c' env w fate
    have hread (hreads : (ExchangesDatabase.exec (env.page w.tick) c' w.exchanges).2 =
        w.exchanges) := hsame (by rw [hstore, hreads, ite_self])
    cases c' with
    | createExternalExchange => exact absurd (hallow memo rfl) id
    | deleteExternalExchange => exact absurd (hallow memo rfl) id
    | updateExternalExchange accountId emxId update =>
      split at hstore
      · exact hsame hstore
      rw [hstore]
      have hput : (ExchangesDatabase.exec (env.page w.tick)
          (.updateExternalExchange accountId emxId update) w.exchanges).2.exchanges =
            w.exchanges.exchanges.put (w.exchanges.updated accountId emxId update) := rfl
      rw [hput, KeyedTable.get_put]
      by_cases hkey : (accountId, emxId) = emx.key
      · have hupdated : w.exchanges.updated accountId emxId update = update.apply row := by
          rw [Store.updated, hkey, hrow, Option.getD_some]
        have hstores : memo.Stores env emx update := hallow memo rfl hkey
        rw [hupdated, exchangeKey_apply, if_pos hisRow.1.symm]
        refine ⟨_, rfl, ⟨hisRow.1, hisRow.2.1, ?_⟩,
          (covered_apply hcovered hmemo hstores).mono hgrows⟩
        rw [apply_imapConfig, hstores.1, hisRow.2.2]
        rfl
      · have hkey' : emx.key ≠ exchangeKey (w.exchanges.updated accountId emxId update) := by
          intro heq
          refine hkey (heq.trans ?_).symm
          rw [Store.updated, exchangeKey_apply]
          cases hget : w.exchanges.exchanges.get (accountId, emxId) with
          | none => rfl
          | some other => exact KeyedTable.key_of_get hget
        rw [if_neg hkey']
        exact ⟨row, hrow, hisRow, hcovered.mono hgrows⟩
    | _ => exact hread rfl
  · exact hsame (exchanges_settle (fun c' heq => hc ⟨c', heq⟩) env w fate)

/-! ### What a call keeps of what a task knows -/

/-- Rows that come from the table. -/
theorem MemoOk.learn (h : Inv mailbox w views) (hmemo : MemoOk mailbox w memo)
    (hrows : ∀ row ∈ rows, row ∈ w.exchanges.exchanges.rows) :
    ∃ memo', memo.learn emx rows = some memo' ∧ MemoOk mailbox w memo' := by
  obtain ⟨stored, hstored, hisRow, hcovered⟩ := h.stored
  have hthis (row : ExchangeRow) (hrow : row ∈ rows) (hkey : exchangeKey row = emx.key) :
      row = stored := by
    have hget := KeyedTable.mem_rows_iff.mp (hrows row hrow)
    rw [hkey, hstored] at hget
    exact (Option.some.inj hget).symm
  refine ⟨_, if_pos fun row hrow hkey => hthis row hrow hkey ▸ hisRow, ?_, hmemo.found, hmemo.sent⟩
  intro row hrow hkey
  rcases List.mem_append.mp hrow with hrow | hrow
  · exact hthis row hrow hkey ▸ ⟨hisRow, hcovered⟩
  · exact hmemo.rows row hrow hkey

/-- A search from a uid that a row read before goes up to. -/
theorem MemoOk.search (hmemo : MemoOk mailbox w memo) (lastKnownUid : Nat)
    (hgrows : Grows w w') (htick : w.tick < w'.tick) :
    ∃ memo', memo.next env emx w.tick (.ask (.imapSearch config lastKnownUid))
      (env.answer w.tick (.imapSearch config lastKnownUid)) = some memo' ∧
        MemoOk mailbox w' memo' := by
  have hsame := hmemo.mono hgrows
  unfold Memo.next
  dsimp only
  split
  · next found hanswer =>
    split
    · next hreaches =>
      obtain ⟨rfl, hreaches⟩ := hreaches
      refine ⟨_, rfl, hsame.rows, fun search hsearch => ?_, hsame.sent⟩
      cases hsearch
      obtain ⟨row, hrow, hreach⟩ := List.any_eq_true.mp hreaches
      obtain ⟨hkey, hle⟩ := Bool.and_eq_true_iff.mp hreach
      refine ⟨⟨htick, hanswer⟩, ?_⟩
      cases hstate : resolveImapSyncState env row with
      | error => rw [hstate] at hle; cases hle
      | ok state =>
        rw [hstate] at hle
        exact (((hmemo.rows row hrow (of_decide_eq_true hkey)).2 state hstate).enqueued
          (of_decide_eq_true hle)).mono hgrows
    · exact ⟨_, rfl, hsame.rows, fun _ hf => (by cases hf), hsame.sent⟩
  · exact ⟨_, rfl, hsame⟩

theorem memoOk_settle {c : Cmd} (h : Inv mailbox w views) (hmemo : MemoOk mailbox w memo) :
    ∃ memo', memo.next env emx w.tick c (settle env c w fate).1 = some memo' ∧
      MemoOk mailbox (settle env c w fate).2 memo' := by
  have hgrows := grows_settle env c w fate
  have hsame := hmemo.mono hgrows
  have hlearn {rows : List ExchangeRow} (hrows : ∀ row ∈ rows, row ∈ w.exchanges.exchanges.rows) :
      ∃ memo', memo.learn emx rows = some memo' ∧ MemoOk mailbox (settle env c w fate).2 memo' := by
    obtain ⟨memo', hnext, hok⟩ := hmemo.learn h hrows
    exact ⟨memo', hnext, hok.mono hgrows⟩
  cases c with
  | exchanges c =>
    cases c with
    | getExternalExchange accountId emxId =>
      cases fate with
      | refused => exact ⟨_, rfl, hsame⟩
      | lost => exact ⟨_, rfl, hsame⟩
      | done =>
        have hread (found : Option ExchangeRow) (hfound : ∀ row, found = some row →
            row ∈ w.exchanges.exchanges.rows) :
            ∃ memo', memo.next env emx w.tick (.exchanges (.getExternalExchange accountId emxId))
              (Except.ok found) = some memo' ∧
              MemoOk mailbox (settle env (.exchanges (.getExternalExchange accountId emxId)) w
                .done).2 memo' := by
          cases found with
          | none => exact ⟨_, rfl, hsame⟩
          | some row =>
            refine hlearn fun row' hrow' => ?_
            rw [List.mem_singleton.mp hrow']
            exact hfound row rfl
        exact hread _ fun row hrow => KeyedTable.mem_rows_of_get hrow
    | listExchangesDue horizon =>
      cases fate with
      | refused => exact ⟨_, rfl, hsame⟩
      | lost => exact ⟨_, rfl, hsame⟩
      | done =>
        exact hlearn fun row hrow =>
          (mem_activeExchanges.mp (List.mem_filter.mp (List.mem_of_mem_take hrow)).1).1
    | _ => exact ⟨_, rfl, hsame⟩
  | sendInbound chunk =>
    cases fate with
    | refused => exact ⟨_, rfl, hsame⟩
    | lost => exact ⟨_, rfl, hsame⟩
    | done =>
      refine ⟨_, rfl, hsame.rows, hsame.found, fun payload hpayload => ?_⟩
      rcases List.mem_append.mp hpayload with hpayload | hpayload
      · exact List.mem_append_left _ hpayload
      · exact hsame.sent payload hpayload
  | ask e =>
    cases e with
    | imapSearch config lastKnownUid => exact hmemo.search lastKnownUid hgrows (Nat.lt_succ_self _)
    | _ => exact ⟨_, rfl, hsame⟩
  | _ => exact ⟨_, rfl, hsame⟩

/-! ### What the programs do -/

/-- The rows that a task has read, where it knows of them. -/
def Known (emx : Synced) (rows : List ExchangeRow) (q : Option Memo) : Prop :=
  ∀ memo, q = some memo → ∀ row ∈ rows, row ∈ memo.rows ∧
    (exchangeKey row = emx.key → emx.IsRow row)

theorem Known.next {c : Cmd} {turn : Turn} {answer : c.Answer}
    (h : Known emx rows q) : Known emx rows ((watch env emx).next q c turn answer) := by
  cases q with
  | none => exact fun _ hq => nomatch hq
  | some memo =>
    have hmemo := h memo rfl
    have hsame : Known emx rows (some memo) := h
    have hlearn (more : List ExchangeRow) : Known emx rows (memo.learn emx more) := by
      intro memo' hnext row hrow
      unfold Memo.learn at hnext
      split at hnext
      · cases hnext
        exact ⟨List.mem_append_right _ (hmemo row hrow).1, (hmemo row hrow).2⟩
      · cases hnext
    show Known emx rows (memo.next env emx turn.tick c answer)
    unfold Memo.next
    split
    · split
      · exact hlearn _
      · exact hsame
    · split
      · exact hlearn _
      · exact hsame
    · split
      · intro memo' hnext
        cases hnext
        exact hmemo
      · exact hsame
    · split
      · split
        · intro memo' hnext
          cases hnext
          exact hmemo
        · intro memo' hnext
          cases hnext
          exact hmemo
      · exact hsame
    · exact hsame

theorem known_learn {memo : Memo} :
    Known emx rows (memo.learn emx rows) := by
  intro memo' hnext row hrow
  unfold Memo.learn at hnext
  split at hnext
  · next hall =>
    cases hnext
    exact ⟨List.mem_append_left _ hrow, hall row hrow⟩
  · cases hnext

/-- The calls that a task may make whatever it knows. -/
def Anywhere (env : Env) (emx : Synced) (c : Cmd) : Prop := ∀ q, (watch env emx).allow q c

theorem permits_anywhere : Permits (Anywhere env emx) where
  ask _ _ _ _ := trivial
  accounts _ _ _ _ := trivial
  sendDispatch _ _ _ _ := trivial
  sendInbound _ _ _ _ := trivial
  logRenewal _ _ _ _ _ _ := trivial
  getExternalExchange _ _ _ _ _ := trivial
  listExternalExchanges _ _ _ _ := trivial
  listExchangesDue _ _ _ _ := trivial
  findBySubscription _ _ _ _ := trivial

/-- A write that leaves the cursor. -/
theorem anywhere_update {accountId emxId : String} {update : ExchangeUpdate}
    (hstate : update.fields.syncState = none) (hcursor : update.fields.syncCursor = none)
    (hconfig : update.fields.imapConfig = none) :
    Anywhere env emx (.exchanges (.updateExternalExchange accountId emxId update)) :=
  fun _ _ _ _ => ⟨hconfig, .inl ⟨hstate, hcursor⟩⟩

theorem Only.obeys_watch {α : Type} {p : ExchangeProg α} (h : p.Only (Anywhere env emx))
    (q : Option Memo) : p.Obeys (watch env emx) (fun _ _ => True) q :=
  h.obeys_anywhere (fun _ hc q => hc q) q

/-- Chunks that are answered have been sent. -/
theorem obeys_sendChunks (chunks : List (List InboundPayload)) (memo : Memo) :
    (sendChunks chunks).Obeys (watch env emx) (fun q r => ∃ memo', q = some memo' ∧
      memo'.found = memo.found ∧ (∀ payload ∈ memo.sent, payload ∈ memo'.sent) ∧
      (r = .ok () → ∀ payload ∈ chunks.flatten, payload ∈ memo'.sent)) (some memo) := by
  induction chunks generalizing memo with
  | nil => exact ⟨memo, rfl, rfl, fun _ => id, fun _ _ h => absurd h List.not_mem_nil⟩
  | cons chunk chunks ih =>
    refine ⟨fun _ _ => trivial, fun fate answer => ?_⟩
    cases answer with
    | error error => exact ⟨memo, rfl, rfl, fun _ => id, fun h => nomatch h⟩
    | ok =>
      refine Prog.Obeys.mono (ih { memo with sent := chunk ++ memo.sent }) ?_
      rintro q r ⟨memo', rfl, hfound, hsent, hflatten⟩
      refine ⟨memo', rfl, hfound, fun payload h => hsent payload (List.mem_append_right _ h), ?_⟩
      intro hr payload hpayload
      rw [List.flatten_cons] at hpayload
      rcases List.mem_append.mp hpayload with hpayload | hpayload
      · exact hsent payload (List.mem_append_left _ hpayload)
      · exact hflatten hr payload hpayload

/-- The uids of a search are enqueued before their cursor is stored. -/
theorem obeys_enqueueNew (hrow : exchangeKey row = emx.key) {memo : Memo}
    {search : Search} (hfound : memo.found = some search) (uidvalidity : Nat) :
    (enqueueNew env row uidvalidity (above search.lastKnownUid search.found)).Obeys (watch env emx)
      (fun _ _ => True) (some memo) := by
  obtain ⟨hid, haccount⟩ : row.id = emx.id ∧ row.accountId = emx.accountId :=
    ⟨congrArg Prod.snd hrow, congrArg Prod.fst hrow⟩
  unfold enqueueNew
  split
  · next highestUid hlast =>
    rw [sendBatch, Prog.obeys_bind]
    refine Prog.Obeys.mono (obeys_sendChunks _ memo) ?_
    rintro q r ⟨memo', rfl, hfound', -, hflatten⟩
    cases r with
    | error => trivial
    | ok =>
      refine ⟨fun _ _ => trivial, fun _ nextSyncTime => ⟨fun _ _ => trivial, fun _ lastSyncAt =>
        ⟨fun _ _ => trivial, fun _ now => ⟨fun memo'' hmemo _ => ?_, fun _ _ => trivial⟩⟩⟩⟩
      obtain rfl : memo' = memo'' := Option.some.inj hmemo
      refine ⟨rfl, .inr ⟨search, _, hfound'.trans hfound, rfl, hlast, ?_⟩⟩
      intro uid huid
      refine hflatten rfl _ ?_
      rw [flatten_chunkEntries]
      refine List.mem_map.mpr ⟨uid, huid, ?_⟩
      rw [inboundOf, Synced.inbound, hid, haccount]
  · refine Only.obeys_watch ?_ _
    exact .perform (permits_anywhere.ask _) fun _ => .perform (permits_anywhere.ask _) fun _ =>
      (only_updateExternalExchange permits_anywhere fun _ => anywhere_update rfl rfl rfl).bind
        fun _ => trivial

theorem obeys_renew (hisRow : emx.IsRow row) {memo : Memo}
    (hmem : row ∈ memo.rows) (includeOverlap : Bool) :
    (ImapAdapter.renew env row includeOverlap).Obeys (watch env emx) (fun _ _ => True)
      (some memo) := by
  have hfailure (cause : String) (kind : RenewalErrorKind) (q : Option Memo) :
      (handleRenewalFailure row kind cause).Obeys (watch env emx) (fun _ _ => True) q := by
    refine Only.obeys_watch ?_ q
    exact (only_recordFailure permits_anywhere _ fun _ _ _ => anywhere_update rfl rfl rfl).bind
      fun _ => trivial
  unfold ImapAdapter.renew
  rw [hisRow.2.2]
  refine .perform (fun _ _ => trivial) fun _ decryptResult => ?_
  cases decryptResult with
  | error => trivial
  | ok password =>
    have hconnect : (connect emx.config password 5 ⟨.unknown, ""⟩).Only
        ((watch env emx).Idle (some memo)) :=
      only_connect ⟨fun _ _ => trivial, fun _ _ => rfl⟩ _ _
    refine Prog.obeys_bind.mpr (Prog.Obeys.mono hconnect.obeys ?_)
    rintro q connectResult rfl
    cases connectResult with
    | error error => exact hfailure _ _ _
    | ok =>
      refine .perform (fun _ _ => trivial) fun _ stateResult => ?_
      cases stateResult with
      | error error => exact hfailure _ _ _
      | ok currentUidvalidity =>
        dsimp only
        cases hstate : resolveImapSyncState env row with
        | error cause => exact hfailure _ _ _
        | ok syncState =>
          dsimp only
          split
          · exact hfailure _ _ _
          · refine Prog.Obeys.perform (fun _ _ => trivial) fun turn searchResults => ?_
            cases searchResults with
            | error error => exact hfailure _ _ _
            | ok found =>
              have hreaches : memo.rows.any
                  (reaches env emx (searchFrom syncState.lastUid includeOverlap)) := by
                refine List.any_eq_true.mpr ⟨row, hmem, ?_⟩
                have hle : searchFrom syncState.lastUid includeOverlap ≤ syncState.lastUid := by
                  unfold searchFrom
                  split <;> omega
                rw [reaches, hstate]
                simp [hisRow.1, hle]
              let search : Search :=
                ⟨turn.tick, searchFrom syncState.lastUid includeOverlap, found⟩
              have hnext : (watch env emx).next (some memo)
                  (.ask (.imapSearch emx.config search.lastKnownUid)) turn (.ok found) =
                    some { memo with found := some search } :=
                if_pos ⟨rfl, hreaches⟩
              have hobeys : (enqueueNew env row currentUidvalidity
                  (above search.lastKnownUid search.found)).Obeys (watch env emx)
                    (fun _ _ => True) (some { memo with found := some search }) :=
                obeys_enqueueNew hisRow.1 rfl currentUidvalidity
              exact hnext ▸ hobeys

/-- Where rows of another kind stand under the key, everything is allowed. -/
theorem obeys_none {α : Type} (p : ExchangeProg α) :
    p.Obeys (watch env emx) (fun _ _ => True) none := by
  induction p with
  | ret a => trivial
  | call c k ih => exact ⟨fun _ h => (nomatch h), fun _ r => ih r⟩

theorem obeys_processExchange (h : Known emx [row] q)
    (includeOverlap : Bool) :
    (processExchange env row includeOverlap).Obeys (watch env emx) (fun _ _ => True) q := by
  by_cases hkey : exchangeKey row = emx.key
  · cases q with
    | none => exact obeys_none _
    | some memo =>
      obtain ⟨hmem, hisRow⟩ := h memo rfl row List.mem_cons_self
      unfold processExchange renewWith
      rw [(hisRow hkey).2.1]
      refine Prog.obeys_bind.mpr (Prog.Obeys.mono (obeys_renew (hisRow hkey) hmem _) ?_)
      exact fun q r _ => ⟨fun _ _ => trivial, fun _ _ => trivial⟩
  · refine Only.obeys_watch (only_processExchange permits_anywhere (fun update q => ?_) _) q
    exact fun _ _ heq => absurd heq hkey

theorem obeys_processExchanges (h : Known emx rows q) :
    (processExchanges env rows).Obeys (watch env emx) (fun _ _ => True) q := by
  induction rows generalizing q with
  | nil => trivial
  | cons row rows ih =>
    have hrow : Known emx [row] q := fun memo hq r hr =>
      h memo hq r (List.mem_singleton.mp hr ▸ List.mem_cons_self)
    have hrows : Known emx rows q := fun memo hq r hr => h memo hq r (List.mem_cons_of_mem _ hr)
    refine Prog.obeys_bind.mpr (((obeys_processExchange hrow false).keep
      (fun _ _ _ _ hknown => Known.next hknown) hrows).mono ?_)
    exact fun q' _ hq' => ih hq'.2

theorem IsSync.obeys {prog : ExchangeProg Unit} (h : IsSync env prog) :
    prog.Obeys (watch env emx) (fun _ _ => True) q := by
  obtain ⟨payload, rfl⟩ | ⟨row, rfl⟩ := h
  · cases payload with
    | some payload =>
      refine .perform (fun _ _ => trivial) fun fate getResult => ?_
      match getResult with
      | .error _ => trivial
      | .ok none => trivial
      | .ok (some row) =>
        dsimp only
        split
        · refine obeys_processExchange ?_ _
          cases q with
          | none => exact fun _ hq => nomatch hq
          | some memo => exact known_learn
        · trivial
    | none =>
      refine .perform (fun _ _ => trivial) fun _ horizon =>
        .perform (fun _ _ => trivial) fun fate result => ?_
      match result with
      | .error _ => trivial
      | .ok rows =>
        refine obeys_processExchanges ?_
        cases q with
        | none => exact fun _ hq => nomatch hq
        | some memo => exact known_learn
  · exact Only.obeys_watch (only_idleAndDispatch permits_anywhere) q

theorem keeps_inv : Keeps (timed env) (watch env emx) (fun _ (_ : Unit) => True) (syncing env)
    (Inv mailbox) where
  spawn w views prog q h hspawn := by
    obtain ⟨rfl, hsync⟩ := hspawn
    refine ⟨hsync.obeys, h.stored, fun q alive hview => ?_⟩
    rcases List.mem_append.mp hview with hview | hview
    · exact h.memos q alive hview
    · cases List.mem_singleton.mp hview
      exact ⟨_, rfl, fun _ hrow => absurd hrow List.not_mem_nil, fun _ hf => (by cases hf),
        fun _ hpayload => absurd hpayload List.not_mem_nil⟩
  step w views i q c turn h hq hallow htick := by
    obtain ⟨memo, rfl, hmemo⟩ := h.memos q true (List.mem_of_getElem? hq)
    obtain ⟨memo', hnext, hok⟩ : ∃ memo', memo.next env emx turn.tick c
        (settle env c w turn.fate).1 = some memo' ∧
          MemoOk mailbox (settle env c w turn.fate).2 memo' :=
      htick ▸ memoOk_settle h hmemo
    refine ⟨stored_settle h hmemo hallow, fun q' alive hview => ?_⟩
    rcases List.mem_or_eq_of_mem_set hview with hview | heq
    · obtain ⟨memo'', rfl, hok''⟩ := h.memos q' alive hview
      exact ⟨memo'', rfl, hok''.mono (grows_settle env c w turn.fate)⟩
    · cases heq
      exact ⟨memo', hnext, hok⟩
  crash w views i q h hq _ := by
    refine ⟨h.stored, fun q' alive hview => ?_⟩
    rcases List.mem_or_eq_of_mem_set hview with hview | heq
    · exact h.memos q' alive hview
    · cases heq
      exact h.memos q true (List.mem_of_getElem? hq)

/-- The exchange is there and goes no further than the uid that it began at. -/
def Begins (env : Env) (emx : Synced) (w : World) : Prop :=
  ∃ row, w.exchanges.exchanges.get emx.key = some row ∧ emx.IsRow row ∧
    ∀ state, resolveImapSyncState env row = .ok state → state.lastUid ≤ emx.initialUid

/-- Every run of syncs keeps the invariant. -/
theorem reaches_inv {start : World} {pool : Syncs} (hbegins : Begins env emx start)
    (h : Reaches (timed env) (watch env emx) (syncing env) ⟨start, []⟩ pool) :
    pool.Obeys (watch env emx) (fun _ _ => True) ∧ Inv mailbox pool.store pool.views := by
  obtain ⟨row, hrow, hisRow, hinitial⟩ := hbegins
  refine h.invariant keeps_inv (fun t ht => absurd ht List.not_mem_nil) ?_
  exact ⟨⟨row, hrow, hisRow, fun state hstate => .inl (hinitial state hstate)⟩,
    fun _ _ hview => absurd hview List.not_mem_nil⟩

/-- A task of the pool whose next call moves the cursor of the exchange. -/
def AboutToStore (emx : Synced) (pool : Syncs) (q : Option Memo) (state : ImapSyncState) : Prop :=
  ∃ (i : Nat) (update : ExchangeUpdate) (k : Except DbError ExchangeRow → ExchangeProg Unit),
    pool.tasks[i]? = some ⟨.call (.exchanges (.updateExternalExchange emx.accountId emx.id update))
      k, q, true⟩ ∧ update.fields.syncState = some state

/-- What the last search of a task saw up to the uid has been enqueued. -/
def SearchCovers (mailbox : Mailbox env emx.config) (w : World) (q : Option Memo) (uid : Nat) :
    Prop :=
  ∃ memo search, q = some memo ∧ memo.found = some search ∧ search.Made env emx w ∧
    search.batch.getLast? = some uid ∧ EnqueuedUpTo mailbox w search.tick uid

theorem Inv.storing {pool : Syncs} (hobeys : pool.Obeys (watch env emx) fun _ _ => True)
    (h : Inv mailbox pool.store pool.views) {state : ImapSyncState}
    (hstore : AboutToStore emx pool q state) : SearchCovers mailbox pool.store q state.lastUid := by
  obtain ⟨i, update, k, htask, hstate⟩ := hstore
  obtain ⟨memo, rfl, hmemo⟩ := h.memos q true (List.mem_of_getElem? (getElem?_views htask))
  have hstores : memo.Stores env emx update :=
    (hobeys _ (List.mem_of_getElem? htask)).1 memo rfl rfl
  obtain ⟨-, ⟨hnone, -⟩ | ⟨search, stored, hfound, hsync, hlast, hsent⟩⟩ := hstores
  · rw [hnone] at hstate
    cases hstate
  · cases hstate.symm.trans hsync
    obtain ⟨hmade, hup⟩ := hmemo.found search hfound
    exact ⟨memo, search, rfl, hfound, hmade, hlast,
      enqueuedUpTo_batch hmade hup hlast fun m hm => hmemo.sent _ (hsent m hm)⟩

end SesEmailAdapter.Exchanges.ImapSync
