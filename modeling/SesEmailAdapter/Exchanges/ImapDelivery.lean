import Mathlib.Algebra.GroupWithZero.Nat
import Mathlib.Order.Interval.Finset.Nat
import SesEmailAdapter.Exchanges.ImapSync
import SesEmailAdapter.Exchanges.MailboxOnce

/-! # IMAP delivery

Renewals of one IMAP exchange that follow each other while nothing fails. Each of them takes the
lowest uids beyond the cursor, and what arrives meanwhile comes after everything that waits. -/

namespace SesEmailAdapter.Exchanges.ImapDelivery
open Lib Lib.Batches
open Database.Shared
open Database.ExchangesDatabase hiding Cmd settle
open Exchanges.ExchangeService Exchanges.ImapAdapter
open Exchanges.EmxDispatchWorker Exchanges.ImapSync

/-- The password, the server and the mailbox are there from a moment on. -/
structure Healthy (env : Env) (config : ImapConfig) (uidvalidity since : Nat) : Prop where
  decrypt : ∀ t, since ≤ t →
    ∃ password, env.answer t (.decrypt config.encryptedPassword) = .ok password
  connect : ∀ t password, since ≤ t → env.answer t (.imapConnect config password) = .ok ()
  inboxState : ∀ t, since ≤ t → env.answer t (.imapInboxState config) = .ok uidvalidity
  search : ∀ t lastKnownUid, since ≤ t →
    ∃ found, env.answer t (.imapSearch config lastKnownUid) = .ok found

/-- The exchange is active and its cursor stands at a uid. -/
def StandsAt (env : Env) (emx : Synced) (uidvalidity : Nat) (w : World) (uid : Nat) : Prop :=
  ∃ row, w.exchanges.exchanges.get emx.key = some row ∧ emx.IsRow row ∧ row.status = .active ∧
    resolveImapSyncState env row = .ok ⟨uidvalidity, uid⟩

/-- A renewal without faults. -/
def renewal (env : Env) (emx : Synced) (w : World) (includeOverlap : Bool) : World :=
  ((dispatch env (some ⟨emx.id, emx.accountId, some includeOverlap⟩)).eval (service env) w).2

def renewals (env : Env) (emx : Synced) (w : World) (overlaps : List Bool) : World :=
  overlaps.foldl (renewal env emx) w

/-- The uids beyond the cursor that a full batch holds at least. -/
def capacity (includeOverlap : Bool) : Nat := if includeOverlap then 490 else 500

variable {env : Env} {emx : Synced} {mailbox : Mailbox env emx.config} {uidvalidity : Nat}
  {w w' : World}

/-! ## One renewal -/

theorem grows_eval {α : Type} (p : ExchangeProg α) (w : World) :
    Grows w (p.eval (service env) w).2 := by
  induction p generalizing w with
  | ret a => exact ⟨le_refl _, fun _ => id⟩
  | call c k ih => exact (grows_settle env c w .done).trans (ih _ _)

theorem grows_renewals (overlaps : List Bool) (w : World) :
    Grows w (renewals env emx w overlaps) := by
  induction overlaps generalizing w with
  | nil => exact ⟨le_refl _, fun _ => id⟩
  | cons includeOverlap overlaps ih => exact (grows_eval _ w).trans (ih _)

theorem eval_sendChunks (chunks : List (List InboundPayload)) (w : World) :
    ((sendChunks chunks).eval (service env) w).1 = .ok () ∧
      ((sendChunks chunks).eval (service env) w).2.exchanges = w.exchanges ∧
      ∀ payload ∈ chunks.flatten,
        payload ∈ ((sendChunks chunks).eval (service env) w).2.inbound := by
  induction chunks generalizing w with
  | nil => exact ⟨rfl, rfl, fun _ h => absurd h List.not_mem_nil⟩
  | cons chunk chunks ih =>
    obtain ⟨hok, hexchanges, hsent⟩ := ih (settle env (.sendInbound chunk) w .done).2
    refine ⟨hok, hexchanges, fun payload h => ?_⟩
    rw [List.flatten_cons] at h
    rcases List.mem_append.mp h with h | h
    · exact (grows_eval (sendChunks chunks) _).inbound payload (List.mem_append_left _ h)
    · exact hsent payload h

variable {row : ExchangeRow}

/-- The write that a renewal ends with. -/
theorem standsAt_update {uid : Nat} {fields : ExchangeFields}
    (nextSyncTime : String) (hrow : w.exchanges.exchanges.get emx.key = some row)
    (hisRow : emx.IsRow row) (hactive : row.status = .active) (hconfig : fields.imapConfig = none)
    (hstate : ∀ update : ExchangeUpdate, update.fields = fields →
      resolveImapSyncState env (update.apply row) = .ok ⟨uidvalidity, uid⟩) :
    StandsAt env emx uidvalidity ((updateExternalExchange row.accountId row.id row.status
      nextSyncTime fields []).eval (service env) w).2 uid := by
  have hkey : (row.accountId, row.id) = emx.key := hisRow.1
  let update : ExchangeUpdate :=
    ⟨row.status, nextSyncTime, fields, [], env.answer w.tick (.now 0)⟩
  have hupdated : w.exchanges.updated row.accountId row.id update = update.apply row := by
    rw [Store.updated, hkey, hrow, Option.getD_some]
  have hput : ((updateExternalExchange row.accountId row.id row.status nextSyncTime fields []).eval
      (service env) w).2.exchanges.exchanges =
        w.exchanges.exchanges.put (w.exchanges.updated row.accountId row.id update) := rfl
  refine ⟨update.apply row, ?_, ⟨?_, ?_, ?_⟩, hactive, hstate update rfl⟩
  · rw [hput, hupdated, KeyedTable.get_put, exchangeKey_apply, hisRow.1, if_pos rfl]
  · rw [exchangeKey_apply, hisRow.1]
  · rw [apply_platform, hisRow.2.1]
  · rw [apply_imapConfig, hisRow.2.2]
    show (fields.imapConfig <|> _) = _
    rw [hconfig]
    rfl

/-- The world when the batch of a renewal has been sent. -/
def batchSent (env : Env) (row : ExchangeRow) (newUids : List Nat) (w : World) : World :=
  ((sendBatch env ((newUids.take 500).map (inboundOf env row))).eval (service env) w).2

def later (w : World) (n : Nat) : World := { w with tick := w.tick + n }

theorem batchSent_spec (hisRow : emx.IsRow row) (newUids : List Nat) :
    (batchSent env row newUids w).exchanges = w.exchanges ∧
      ∀ m ∈ newUids.take 500, emx.inbound env m ∈ (batchSent env row newUids w).inbound := by
  obtain ⟨hid, haccount⟩ : row.id = emx.id ∧ row.accountId = emx.accountId :=
    ⟨congrArg Prod.snd hisRow.1, congrArg Prod.fst hisRow.1⟩
  obtain ⟨-, hexchanges, hsent⟩ := eval_sendChunks
    (chunkEntries env.entryBytes ((newUids.take 500).map (inboundOf env row))) w
  refine ⟨hexchanges, fun m hm => hsent _ ?_⟩
  rw [flatten_chunkEntries]
  exact List.mem_map.mpr ⟨m, hm, by rw [inboundOf, Synced.inbound, hid, haccount]⟩

/-- The batch is sent, and then one write moves the cursor to its end. -/
theorem eval_enqueueNew (env : Env) (w : World) {uid : Nat} (hisRow : emx.IsRow row)
    (hstate : resolveImapSyncState env row = .ok ⟨uidvalidity, uid⟩) (newUids : List Nat) :
    ∃ w' nextSyncTime fields,
      ((enqueueNew env row uidvalidity newUids).eval (service env) w).2 =
        ((updateExternalExchange row.accountId row.id row.status nextSyncTime fields []).eval
          (service env) w').2 ∧
      w'.exchanges = w.exchanges ∧
      (∀ m ∈ newUids.take 500, emx.inbound env m ∈ w'.inbound) ∧
      fields.imapConfig = none ∧
      ∀ update : ExchangeUpdate, update.fields = fields →
        resolveImapSyncState env (update.apply row) =
          .ok ⟨uidvalidity, (newUids.take 500).getLast?.getD uid⟩ := by
  cases hlast : (newUids.take 500).getLast? with
  | some highestUid =>
    obtain ⟨hexchanges, hsent⟩ :
        (batchSent env row newUids w).exchanges = w.exchanges ∧
          ∀ m ∈ newUids.take 500, emx.inbound env m ∈ (batchSent env row newUids w).inbound :=
      batchSent_spec hisRow newUids
    have heval : ((enqueueNew env row uidvalidity newUids).eval (service env) w).2 =
        ((updateExternalExchange row.accountId row.id row.status
          (env.answer (batchSent env row newUids w).tick (.now POLL_INTERVAL_MINUTES))
          { noFields with
            syncCursor := some (env.formatSyncCursor uidvalidity highestUid)
            syncState := some ⟨uidvalidity, highestUid⟩
            lastSyncAt := some (env.answer ((batchSent env row newUids w).tick + 1) (.now 0))
            consecutiveFailures := some 0 } []).eval (service env)
          (later (batchSent env row newUids w) 2)).2 := by
      rw [enqueueNew, hlast]
      dsimp only
      rw [sendBatch, Prog.eval_bind, (eval_sendChunks _ w).1]
      rfl
    refine ⟨_, _, _, heval, hexchanges, hsent, rfl, ?_⟩
    rintro update hfields
    rw [resolveImapSyncState, apply_syncState, hfields]
    rfl
  | none =>
    have hnil : newUids.take 500 = [] := List.getLast?_eq_none_iff.mp hlast
    have heval : ((enqueueNew env row uidvalidity newUids).eval (service env) w).2 =
        ((updateExternalExchange row.accountId row.id row.status
          (env.answer w.tick (.now POLL_INTERVAL_MINUTES))
          { noFields with
            lastSyncAt := some (env.answer (w.tick + 1) (.now 0))
            consecutiveFailures := some 0 } []).eval (service env) (later w 2)).2 := by
      rw [enqueueNew, hlast]
      rfl
    refine ⟨_, _, _, heval, rfl, by simp [hnil], rfl, ?_⟩
    rintro update hfields
    rw [resolveImapSyncState, apply_syncState, apply_syncCursor, hfields]
    exact hstate

theorem eval_ask {α : Type} {e : External} {answer : e.Answer} (k : e.Answer → ExchangeProg α)
    (h : env.answer w.tick e = answer) :
    (ask e >>= k).eval (service env) w = (k answer).eval (service env) (later w 1) := by
  rw [← h]
  rfl

variable {includeOverlap : Bool}

/-- A renewal that meets no obstacle comes down to what it does with the uids found. -/
theorem eval_renew {since uid : Nat}
    (hhealthy : Healthy env emx.config uidvalidity since) (hsince : since ≤ w.tick)
    (hisRow : emx.IsRow row) (hstate : resolveImapSyncState env row = .ok ⟨uidvalidity, uid⟩)
    {found : List Nat} (hfound : env.answer (w.tick + 3)
      (.imapSearch emx.config (searchFrom uid includeOverlap)) = .ok found) :
    (ImapAdapter.renew env row includeOverlap).eval (service env) w =
      (enqueueNew env row uidvalidity (above (searchFrom uid includeOverlap) found)).eval
        (service env) (later w 4) := by
  obtain ⟨password, hdecrypt⟩ := hhealthy.decrypt w.tick hsince
  have hanswer := hhealthy.connect (later w 1).tick password (hsince.trans (Nat.le_add_right _ _))
  have hinbox := hhealthy.inboxState (later w 2).tick (hsince.trans (Nat.le_add_right _ _))
  have hconnect : (connect emx.config password 5 ⟨.unknown, ""⟩).eval (service env) (later w 1) =
      (.ok (), later w 2) := by
    rw [connect, eval_ask _ hanswer]
    rfl
  rw [ImapAdapter.renew, hisRow.2.2]
  dsimp only
  rw [eval_ask _ hdecrypt]
  dsimp only
  rw [Prog.eval_bind, hconnect]
  dsimp only
  rw [eval_ask _ hinbox]
  dsimp only
  rw [hstate]
  dsimp only
  rw [if_neg (not_not.mpr rfl), Prog.eval_bind, searchNewUids, eval_ask _ hfound]
  rfl

/-- One renewal: a search from the cursor, all of its batch sent, and the cursor at its end. -/
theorem renewal_delivers {since uid : Nat} (hhealthy : Healthy env emx.config uidvalidity since)
    (hsince : since ≤ w.tick) (hstands : StandsAt env emx uidvalidity w uid)
    (includeOverlap : Bool) :
    ∃ search : Search, w.tick ≤ search.tick ∧
      search.Made env emx (renewal env emx w includeOverlap) ∧
      search.lastKnownUid = searchFrom uid includeOverlap ∧
      (∀ m ∈ search.batch, emx.inbound env m ∈ (renewal env emx w includeOverlap).inbound) ∧
      StandsAt env emx uidvalidity (renewal env emx w includeOverlap)
        (search.batch.getLast?.getD uid) := by
  obtain ⟨row, hrow, hisRow, hactive, hstate⟩ := hstands
  obtain ⟨found, hfound⟩ :=
    hhealthy.search (w.tick + 4) (searchFrom uid includeOverlap) (by omega)
  let search : Search := ⟨w.tick + 4, searchFrom uid includeOverlap, found⟩
  let enqueued := (enqueueNew env row uidvalidity (above search.lastKnownUid found)).eval
    (service env) (later w 5)
  obtain ⟨w', nextSyncTime, fields, heval, hexchanges, hsent, hconfig, hresolve⟩ :=
    eval_enqueueNew env (later w 5) hisRow hstate (above search.lastKnownUid found)
  have hkept : w'.exchanges.exchanges.get emx.key = some row := hexchanges ▸ hrow
  have hstands := standsAt_update nextSyncTime hkept hisRow hactive hconfig hresolve
  rw [← heval] at hstands
  have hget : (getExternalExchange emx.accountId emx.id).eval (service env) w =
      (.ok (some row), later w 1) := by
    show ((Except.ok (w.exchanges.exchanges.get emx.key) : Except DbError _), later w 1) = _
    rw [hrow]
  have hrenew : (ImapAdapter.renew env row includeOverlap).eval (service env) (later w 1) =
      enqueued :=
    eval_renew hhealthy (hsince.trans (Nat.le_add_right _ _)) hisRow hstate hfound
  have hrenewal : renewal env emx w includeOverlap =
      (settle env (.logRenewal row.accountId row.id enqueued.1.isOk) enqueued.2 .done).2 := by
    rw [renewal, dispatch, Prog.eval_bind, hget]
    dsimp only
    rw [if_pos hactive, processExchange, renewWith, hisRow.2.1]
    dsimp only [Option.map_some, Option.getD_some]
    rw [Prog.eval_bind, hrenew]
    rfl
  rw [hrenewal]
  have hafter : Grows w' (settle env (.logRenewal row.accountId row.id enqueued.1.isOk)
      enqueued.2 .done).2 := by
    refine Grows.trans ?_ (grows_settle env _ enqueued.2 .done)
    show Grows w' ((enqueueNew env row uidvalidity _).eval (service env) (later w 5)).2
    rw [heval]
    exact grows_eval _ _
  have hsearched : w.tick + 4 < (settle env (.logRenewal row.accountId row.id enqueued.1.isOk)
      enqueued.2 .done).2.tick := by
    rw [tick_settle]
    have hlater : w.tick + 5 ≤ enqueued.2.tick := (grows_eval _ (later w 5)).tick
    omega
  exact ⟨search, Nat.le_add_right _ _, ⟨hsearched, hfound⟩, rfl,
    fun m hm => hafter.inbound _ (hsent m hm), hstands⟩

/-! ## Successive renewals -/

/-- At most ten of the uids in a full batch are not beyond the cursor. -/
theorem capacity_le {search : Search} {uid : Nat}
    (hfrom : search.lastKnownUid = searchFrom uid includeOverlap) (hnodup : search.batch.Nodup)
    (hfull : search.batch.length = 500) :
    capacity includeOverlap ≤ search.batch.countP (uid < ·) := by
  have hlow : search.batch.countP (fun m => ¬ decide (uid < m) = true) ≤
      uid - search.lastKnownUid := by
    rw [List.countP_eq_length_filter, ← List.toFinset_card_of_nodup (hnodup.filter _),
      ← Nat.card_Ioc]
    refine Finset.card_le_card fun m hm => ?_
    obtain ⟨hmem, hle⟩ := List.mem_filter.mp (List.mem_toFinset.mp hm)
    have hlt := (mem_above.mp (List.mem_of_mem_take hmem)).2
    simpa [hlt] using hle
  have hsplit := List.length_eq_countP_add_countP (l := search.batch) (fun m => decide (uid < m))
  cases includeOverlap with
  | false =>
    simp only [searchFrom, capacity, Bool.false_eq_true, if_false] at *
    omega
  | true =>
    simp only [searchFrom, capacity, if_true] at *
    omega

/-- The messages beyond a uid in the mailbox at a moment. -/
def waitingAt (mailbox : Mailbox env emx.config) (t uid : Nat) : List Nat :=
  (mailbox.uids t).filter (uid < ·)

/-- The next batch either has a message that waits, or is full and goes on below it. -/
theorem enqueued_or_advances {since uid t₀ uid₀ m : Nat}
    (hhealthy : Healthy env emx.config uidvalidity since) (hsince : since ≤ w.tick)
    (hstands : StandsAt env emx uidvalidity w uid) (ht₀ : t₀ ≤ w.tick) (huid₀ : uid₀ ≤ uid)
    (hstays : ∀ t, t₀ ≤ t → t < (renewal env emx w includeOverlap).tick → m ∈ mailbox.uids t)
    (hm : uid < m) :
    emx.inbound env m ∈ (renewal env emx w includeOverlap).inbound ∨
      ∃ last, StandsAt env emx uidvalidity (renewal env emx w includeOverlap) last ∧
        uid ≤ last ∧ last < m ∧
        remaining (waitingAt mailbox t₀ uid₀) last ≤
          remaining (waitingAt mailbox t₀ uid₀) uid - capacity includeOverlap := by
  obtain ⟨search, htick, hmade, hfrom, hsent, hnext⟩ :=
    renewal_delivers hhealthy hsince hstands includeOverlap
  have hbelow : search.lastKnownUid ≤ uid := by
    rw [hfrom, searchFrom]
    split <;> omega
  obtain ⟨hnodup, hfound⟩ := mailbox.search _ _ _ hmade.2
  have habove : m ∈ above search.lastKnownUid search.found := by
    have hthere := hstays search.tick (ht₀.trans htick) hmade.1
    exact mem_above.mpr ⟨(hfound m (by omega)).mpr hthere, by omega⟩
  by_cases hbatch : m ∈ search.batch
  · exact .inl (hsent m hbatch)
  have hfull : search.batch.length = 500 := by
    rw [Search.batch, batchOf, List.length_take]
    by_contra hshort
    refine hbatch ?_
    rw [Search.batch, batchOf, List.take_of_length_le (by omega)]
    exact habove
  have hsorted : search.batch.Pairwise (· ≤ ·) :=
    (above_sorted _ _).sublist (List.take_sublist _ _)
  have hcapacity := capacity_le hfrom ((above_nodup hnodup).sublist (List.take_sublist _ _)) hfull
  obtain ⟨last, hlast⟩ : ∃ last, search.batch.getLast? = some last :=
    Option.isSome_iff_exists.mp (by simp [← List.length_pos_iff, hfull])
  have hpast : uid ≤ last := by
    have hsome : 0 < search.batch.countP (uid < ·) := by
      refine Nat.lt_of_lt_of_le ?_ hcapacity
      unfold capacity
      split <;> omega
    obtain ⟨x, hx, hlt⟩ := List.countP_pos_iff.mp hsome
    exact (of_decide_eq_true hlt).le.trans (le_last_of_mem hsorted hlast hx)
  have hnew (x : Nat) (hx : x ∈ search.batch) (hlt : uid < x) :
      x ∈ waitingAt mailbox t₀ uid₀ ∨ ∀ y ∈ waitingAt mailbox t₀ uid₀, y < x := by
    have hthere : x ∈ mailbox.uids search.tick := (mem_of_batch hmade hx).1
    by_cases hold : x ∈ mailbox.uids t₀
    · exact .inl (List.mem_filter.mpr ⟨hold, decide_eq_true (by omega)⟩)
    · exact .inr fun y hy => mailbox.increasing t₀ search.tick x (ht₀.trans htick) hthere hold y
        (List.mem_filter.mp hy).1
  rw [hlast, Option.getD_some] at hnext
  refine .inr ⟨last, hnext, hpast, ?_, ?_⟩
  · by_contra hle
    exact hbatch (mem_take_of_le_last (above_sorted _ _) hlast habove (Nat.le_of_not_lt hle))
  · have hadvance := remaining_advance hsorted
      ((above_nodup hnodup).sublist (List.take_sublist _ _)) hlast hpast hnew
    omega

/-- Renewals with room for all that waits deliver every message that stays. -/
theorem renewals_deliver {since t₀ uid₀ m : Nat}
    (hhealthy : Healthy env emx.config uidvalidity since) (hm : m ∈ waitingAt mailbox t₀ uid₀)
    (overlaps : List Bool) {uid : Nat} (hsince : since ≤ w.tick)
    (hstands : StandsAt env emx uidvalidity w uid) (ht₀ : t₀ ≤ w.tick) (huid₀ : uid₀ ≤ uid)
    (hstays : ∀ t, t₀ ≤ t → t < (renewals env emx w overlaps).tick → m ∈ mailbox.uids t)
    (hbelow : m ≤ uid → emx.inbound env m ∈ w.inbound)
    (hroom : remaining (waitingAt mailbox t₀ uid₀) uid ≤ (overlaps.map capacity).sum) :
    emx.inbound env m ∈ (renewals env emx w overlaps).inbound := by
  induction overlaps generalizing w uid with
  | nil =>
    refine hbelow (Nat.le_of_not_lt fun hlt => ?_)
    have hpos : 0 < remaining (waitingAt mailbox t₀ uid₀) uid :=
      List.countP_pos_iff.mpr ⟨m, hm, decide_eq_true hlt⟩
    simp only [List.map_nil, List.sum_nil] at hroom
    omega
  | cons includeOverlap overlaps ih =>
    have hfirst : Grows w (renewal env emx w includeOverlap) := grows_eval _ w
    have hrest : Grows (renewal env emx w includeOverlap) (renewals env emx w
      (includeOverlap :: overlaps)) := grows_renewals overlaps _
    by_cases hle : m ≤ uid
    · exact hrest.inbound _ (hfirst.inbound _ (hbelow hle))
    obtain hsent | ⟨last, hnext, hpast, hlast, hremaining⟩ := enqueued_or_advances hhealthy hsince
      hstands ht₀ huid₀ (fun t ht hlt => hstays t ht (Nat.lt_of_lt_of_le hlt hrest.tick))
      (Nat.lt_of_not_le hle)
    · exact hrest.inbound _ hsent
    · refine ih (hsince.trans hfirst.tick) hnext (ht₀.trans hfirst.tick) (huid₀.trans hpast) hstays
        (fun h => absurd h (Nat.not_le_of_lt hlast)) ?_
      rw [List.map_cons, List.sum_cons] at hroom
      omega

/-! ## No mail is skipped -/

/-- **No skipped mail.** In every run of overlapping dispatches and IDLE sessions with any failures,
the stored uid covers everything up to it, and whatever task is about to store a uid has enqueued
all that its own search saw up to it. Renewals with room for all that waits deliver it. -/
theorem imap_skips_nothing (mailbox : Mailbox env emx.config) :
    (∀ (start : World) (pool : Syncs), Begins env emx start →
      Reaches (timed env) (watch env emx) (syncing env) ⟨start, []⟩ pool →
      (∃ row, pool.store.exchanges.exchanges.get emx.key = some row ∧ emx.IsRow row ∧
        CoveredRow mailbox pool.store row) ∧
      ∀ q state, AboutToStore emx pool q state →
        SearchCovers mailbox pool.store q state.lastUid) ∧
    ∀ (start : World) (uidvalidity uid : Nat) (overlaps : List Bool),
      Healthy env emx.config uidvalidity start.tick → StandsAt env emx uidvalidity start uid →
      (waitingAt mailbox start.tick uid).length ≤ (overlaps.map capacity).sum →
      ∀ m ∈ waitingAt mailbox start.tick uid,
        (∀ t, start.tick ≤ t → t < (renewals env emx start overlaps).tick → m ∈ mailbox.uids t) →
        emx.inbound env m ∈ (renewals env emx start overlaps).inbound := by
  refine ⟨fun start pool hbegins hreaches => ?_, ?_⟩
  · obtain ⟨hobeys, hinv⟩ :
        pool.Obeys (watch env emx) (fun _ _ => True) ∧ Inv mailbox pool.store pool.views :=
      reaches_inv hbegins hreaches
    exact ⟨hinv.stored, fun q state => hinv.storing hobeys⟩
  · intro start uidvalidity uid overlaps hhealthy hstands hroom m hm hstays
    have hbeyond : uid < m := of_decide_eq_true (List.mem_filter.mp hm).2
    exact renewals_deliver hhealthy hm overlaps (le_refl _) hstands (le_refl _) (le_refl _) hstays
      (fun hle => absurd hbeyond (Nat.not_lt_of_le hle))
      ((List.countP_le_length).trans hroom)

/-! ### A mailbox -/

/-- Three messages that stay. -/
def homeEnv : Env :=
  { MailboxOnce.openEnv with
    answer := fun t e => match e with
      | .imapSearch .. => (.ok [5, 6, 7] : Except ImapError (List Nat))
      | e => MailboxOnce.openEnv.answer t e }

def homeConfig : ImapConfig := ⟨"imap.home.test", .TLS, "me@home.test", "secret"⟩

def homeEmx : Synced := ⟨"acc", "emx-1", homeConfig, 4⟩

def homeMailbox : Mailbox homeEnv homeEmx.config where
  uids _ := [5, 6, 7]
  increasing _ _ _ _ hin hout := absurd hin hout
  nodup _ := by decide
  search t k found h := by
    obtain rfl : [5, 6, 7] = found := Except.ok.inj h
    exact ⟨by decide, fun _ _ => Iff.rfl⟩

def homeRow : ExchangeRow :=
  newRow "acc" "emx-1" ⟨⟨.imap, "me@home.test", "2025-01-01T00:00:00.000Z"⟩, .active,
    "2025-01-01T01:00:00.000Z",
    { noFields with syncState := some ⟨7, 4⟩, imapConfig := some homeConfig }⟩

def homeWorld : World :=
  { MailboxOnce.emptyWorld with exchanges := ⟨KeyedTable.empty.put homeRow⟩ }

/-- A dispatch starts, and one renewal has the three messages enqueued. -/
theorem home_delivered : (∃ pool : Syncs, pool.tasks.length = 1 ∧
    ∃ row, pool.store.exchanges.exchanges.get homeEmx.key = some row ∧
      CoveredRow homeMailbox pool.store row) ∧
    ∀ m ∈ [5, 6, 7], homeEmx.inbound homeEnv m ∈
      (renewals homeEnv homeEmx homeWorld [false]).inbound := by
  obtain ⟨hsafe, hdelivers⟩ := imap_skips_nothing homeMailbox
  have hrow : homeWorld.exchanges.exchanges.get homeEmx.key = some homeRow :=
    (KeyedTable.get_put _ _ _).trans (if_pos rfl)
  have hisRow : homeEmx.IsRow homeRow := ⟨rfl, rfl, rfl⟩
  refine ⟨?_, fun m hm => ?_⟩
  · have hbegins : Begins homeEnv homeEmx homeWorld := by
      refine ⟨homeRow, hrow, hisRow, ?_⟩
      rintro state ⟨⟩
      exact le_refl 4
    have hreach : Reaches (timed homeEnv) (watch homeEnv homeEmx) (syncing homeEnv)
        ⟨homeWorld, []⟩ ⟨homeWorld, [⟨dispatch homeEnv none, some ⟨[], none, []⟩, true⟩]⟩ :=
      .tail (m := .spawn (dispatch homeEnv none) (some ⟨[], none, []⟩)) .refl
        ⟨rfl, .inl ⟨none, rfl⟩⟩ rfl
    obtain ⟨⟨row, hget, -, hcovered⟩, -⟩ := hsafe _ _ hbegins hreach
    exact ⟨_, rfl, row, hget, hcovered⟩
  · have hhealthy : Healthy homeEnv homeEmx.config 7 homeWorld.tick :=
      ⟨fun _ _ => ⟨_, rfl⟩, fun _ _ _ => rfl, fun _ _ => rfl, fun _ _ _ => ⟨_, rfl⟩⟩
    refine hdelivers homeWorld 7 4 [false] hhealthy ⟨homeRow, hrow, hisRow, rfl, rfl⟩ ?_ m ?_ ?_
    · decide
    · exact List.mem_filter.mpr ⟨hm, by revert hm m; decide⟩
    · exact fun _ _ _ => hm

end SesEmailAdapter.Exchanges.ImapDelivery
