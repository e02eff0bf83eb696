import SesEmailAdapter.Database.ThreadDatabase

/-! # Stale sends in every read

The reads that return stored signals. Those of one signal by its id or its lookup id make a draft of
a send that has been pending for too long; the listings return the row as it is stored. -/

namespace SesEmailAdapter.Database.StaleReads
open Lib Lib.QueryPaging
open SesEmailAdapter.Types Database.Shared Database.SignalsTable
open Database.ThreadDatabase

/-! ## Listings with a cursor -/

/-- The order of a partition's listing: newest first, by the keys of the rows. -/
abbrev Position := (String ×ₗ String)ᵒᵈ

def position (signal : Signal) : Position :=
  OrderDual.toDual (toLex (signal.id, signal.signalLookupId))

/-- The rows of a partition. -/
def rowsIn (s : Store) (accountId : String) (partition : SignalPartition) : List Signal :=
  (s.signals.rows.filter fun item =>
    item.signal.accountId = accountId ∧ item.partition = partition).map SignalItem.signal

/-- `listSignals` of a thread, or `listPreThreadSignals`, after the key that a cursor stands for. -/
def listPage (s : Store) (accountId : String) (partition : SignalPartition) (limit : Option Nat)
    (exclusiveStartKey : Option Position) : List Signal :=
  let limit := min (limit.getD 20) 100
  let res := query position (rowsIn s accountId partition) (limit + 1) exclusiveStartKey
  (res.items.map hydrateSignal).take limit

/-! ## The reads -/

inductive Read
  | getSignalById (accountId signalId threadId : String)
  | getSignalByMessageId (accountId signalLookupId : String)
  | findSignalByEmailMessageId (gsi3pk : String)
  | getLinkedCalendarSignal (accountId threadId emailSignalId : String)
  | listSignals (accountId threadId : String) (limit : Option Nat)
      (exclusiveStartKey : Option Position)
  | listPreThreadSignals (accountId : String) (blocked : Bool) (limit : Option Nat)
      (exclusiveStartKey : Option Position)

/-- The signals of an answer. -/
def returned : Except DbError (Option Signal) → List Signal
  | .ok found => found.toList
  | .error _ => []

/-- The signals that a read returns. -/
def Read.answer (stale : String → Bool) (s : Store) : Read → List Signal
  | .getSignalById accountId signalId threadId => returned
    ((ThreadDatabase.getSignalById stale accountId signalId threadId).eval service s).1
  | .getSignalByMessageId accountId signalLookupId => returned
    ((ThreadDatabase.getSignalByMessageId stale accountId signalLookupId).eval service s).1
  | .findSignalByEmailMessageId gsi3pk => returned
    ((ThreadDatabase.findSignalByEmailMessageId gsi3pk).eval service s).1
  | .getLinkedCalendarSignal accountId threadId emailSignalId => returned
    ((ThreadDatabase.getLinkedCalendarSignal accountId threadId emailSignalId).eval service s).1
  | .listSignals accountId threadId limit exclusiveStartKey =>
    listPage s accountId (.thread threadId) limit exclusiveStartKey
  | .listPreThreadSignals accountId blocked limit exclusiveStartKey =>
    listPage s accountId (if blocked then .blocked else .quarantined) limit exclusiveStartKey

def keyOf (signal : Signal) : String × String := (signal.accountId, signal.signalLookupId)

/-- Every read that returns the signal of a row reports the status that `coerceStaleStatus`
gives. -/
def ReadAlike (stale : String → Bool) (s : Store) (key : String × String) : Prop :=
  ∀ item, s.signals.get key = some item → ∀ read : Read, ∀ signal ∈ read.answer stale s,
    keyOf signal = key → signal.status = (coerceStaleStatus stale item.signal).status

/-- The signal waits for a send that was never initiated, or was so too long ago. -/
def StaleSend (stale : String → Bool) (signal : Signal) : Prop :=
  signal.status = .pendingSend ∧
    ∀ sendInitiatedAt, sendInitiatedAtOf signal = some sendInitiatedAt → stale sendInitiatedAt

variable {stale : String → Bool} {s : Store} {signal : Signal}

theorem coerceStaleStatus_stale (h : StaleSend stale signal) :
    (coerceStaleStatus stale signal).status = .draft := by
  unfold coerceStaleStatus
  rw [if_pos h.1]
  split
  · rfl
  · next sendInitiatedAt hsent => rw [if_pos (h.2 sendInitiatedAt hsent)]

theorem coerceStaleStatus_fresh (h : ¬ StaleSend stale signal) :
    coerceStaleStatus stale signal = signal := by
  unfold coerceStaleStatus
  by_cases hpending : signal.status = .pendingSend
  · rw [if_pos hpending]
    split
    · next hsent => exact absurd ⟨hpending, by simp [hsent]⟩ h
    · next sendInitiatedAt hsent =>
      rw [if_neg fun hstale => h ⟨hpending, by simpa [hsent] using hstale⟩]
  · rw [if_neg hpending]

theorem readSignal_status (stale : String → Bool) (item : Signal) :
    (readSignal stale item).status = (coerceStaleStatus stale item).status := by
  have hsent : sendInitiatedAtOf (hydrateSignal item) = sendInitiatedAtOf item := rfl
  have hstatus : (hydrateSignal item).status = item.status := rfl
  unfold readSignal coerceStaleStatus
  rw [hsent, hstatus]
  repeat' split
  all_goals rfl

/-! ## What a read returns -/

/-- The signal of a row as a read shows it, with the status coerced or as it is stored. -/
structure Shows (stale : String → Bool) (row signal : Signal) : Prop where
  key : keyOf signal = keyOf row
  status : signal.status = (coerceStaleStatus stale row).status ∨ signal.status = row.status

theorem shows_readSignal (row : Signal) : Shows stale row (readSignal stale row) where
  key := by
    unfold readSignal coerceStaleStatus
    repeat' split
    all_goals rfl
  status := .inl (readSignal_status stale row)

theorem shows_hydrateSignal (row : Signal) : Shows stale row (hydrateSignal row) :=
  ⟨rfl, .inr rfl⟩

theorem shows_self (row : Signal) : Shows stale row row := ⟨rfl, .inr rfl⟩

/-- The signal is that of a row. -/
def Stored (s : Store) (signal : Signal) : Prop := ∃ item ∈ s.signals.rows, item.signal = signal

variable {partition : SignalPartition}

variable {accountId : String}

theorem stored_of_mem_rowsIn (h : signal ∈ rowsIn s accountId partition) : Stored s signal := by
  obtain ⟨item, hitem, rfl⟩ := List.mem_map.mp h
  exact ⟨item, List.mem_of_mem_filter hitem, rfl⟩

theorem stored_of_mem_signalsIn (h : signal ∈ s.signalsIn accountId partition) : Stored s signal :=
  stored_of_mem_rowsIn (List.mem_mergeSort.mp h)

theorem mem_listPage {limit : Option Nat}
    {start : Option Position} (h : signal ∈ listPage s accountId partition limit start) :
    ∃ row, Stored s row ∧ signal = hydrateSignal row := by
  obtain ⟨row, hrow, rfl⟩ := List.mem_map.mp (List.mem_of_mem_take h)
  have hscan := (remaining_sublist _ _ _).subset (List.mem_of_mem_take hrow)
  exact ⟨row, stored_of_mem_rowsIn (mem_scan.mp hscan), rfl⟩

/-- Every read returns rows of the table. -/
theorem shows_of_mem_answer {read : Read} (h : signal ∈ read.answer stale s) :
    ∃ row, Stored s row ∧ Shows stale row signal := by
  cases read with
  | getSignalById accountId signalId threadId =>
    have hfound := Option.mem_toList.mp h
    obtain ⟨row, hrow, -, rfl⟩ := signalIn_eq_some hfound
    exact ⟨row, stored_of_mem_signalsIn hrow, shows_readSignal row⟩
  | getSignalByMessageId accountId signalLookupId =>
    have hfound := Option.mem_toList.mp h
    obtain ⟨row, hrow, rfl⟩ := Option.map_eq_some_iff.mp hfound
    obtain ⟨item, hget, rfl⟩ := Option.map_eq_some_iff.mp hrow
    exact ⟨item.signal, ⟨item, KeyedTable.mem_rows_of_get hget, rfl⟩, shows_readSignal _⟩
  | findSignalByEmailMessageId gsi3pk =>
    have hfound := Option.mem_toList.mp h
    have hmem := List.mem_mergeSort.mp (List.mem_of_head? hfound)
    obtain ⟨item, hitem, rfl⟩ := List.mem_map.mp hmem
    exact ⟨item.signal, ⟨item, List.mem_of_mem_filter hitem, rfl⟩, shows_self _⟩
  | getLinkedCalendarSignal accountId threadId emailSignalId =>
    have hfound := Option.mem_toList.mp h
    obtain ⟨row, hrow, rfl⟩ := Option.map_eq_some_iff.mp hfound
    exact ⟨row, stored_of_mem_signalsIn (List.mem_of_find?_eq_some hrow), shows_hydrateSignal row⟩
  | listSignals accountId threadId limit start =>
    obtain ⟨row, hrow, rfl⟩ := mem_listPage h
    exact ⟨row, hrow, shows_hydrateSignal row⟩
  | listPreThreadSignals accountId blocked limit start =>
    obtain ⟨row, hrow, rfl⟩ := mem_listPage h
    exact ⟨row, hrow, shows_hydrateSignal row⟩

/-! ## A listing that shows a row -/

theorem position_nodup (s : Store) (accountId : String) (partition : SignalPartition) :
    ((rowsIn s accountId partition).map position).Nodup := by
  unfold rowsIn
  rw [List.map_map]
  refine List.Nodup.map_on ?_ ((List.Nodup.of_map _ s.signals.distinct).filter _)
  intro a ha b hb hposition
  obtain ⟨hrow, hof⟩ := List.mem_filter.mp ha
  obtain ⟨hrow', hof'⟩ := List.mem_filter.mp hb
  have haccount := (of_decide_eq_true hof).1.trans (of_decide_eq_true hof').1.symm
  have hlookup := (Prod.mk.inj (toLex.injective (OrderDual.toDual.injective hposition))).2
  exact List.inj_on_of_nodup_map s.signals.distinct hrow hrow' (Prod.ext haccount hlookup)

/-- Every row is returned by the listing of its partition, as it is stored. -/
theorem exists_listed {item : SignalItem} (h : item ∈ s.signals.rows) :
    ∃ read : Read, hydrateSignal item.signal ∈ read.answer stale s := by
  have hrow : item.signal ∈ rowsIn s item.signal.accountId item.partition :=
    List.mem_map.mpr ⟨item, List.mem_filter.mpr ⟨h, by simp⟩, rfl⟩
  obtain ⟨start, hhead⟩ := exists_page (position_nodup s item.signal.accountId item.partition)
    hrow 1
  have hpage : hydrateSignal item.signal ∈
      listPage s item.signal.accountId item.partition (some 1) start := by
    unfold listPage
    cases hitems : (query position (rowsIn s item.signal.accountId item.partition) 2 start).items with
    | nil =>
      rw [hitems] at hhead
      cases hhead
    | cons first rest =>
      rw [hitems] at hhead
      obtain rfl := Option.some.inj hhead
      simp [hitems]
  cases hpartition : item.partition with
  | thread threadId =>
    rw [hpartition] at hpage
    exact ⟨.listSignals item.signal.accountId threadId (some 1) start, hpage⟩
  | quarantined =>
    rw [hpartition] at hpage
    exact ⟨.listPreThreadSignals item.signal.accountId false (some 1) start, hpage⟩
  | blocked =>
    rw [hpartition] at hpage
    exact ⟨.listPreThreadSignals item.signal.accountId true (some 1) start, hpage⟩

/-- **Reads agree on every signal but a stale send.** That one is a draft by its id, and pending in
the listing of its partition. -/
theorem readAlike_iff (stale : String → Bool) (s : Store) (key : String × String) :
    ReadAlike stale s key ↔
      ∀ item, s.signals.get key = some item → ¬ StaleSend stale item.signal := by
  constructor
  · intro halike item hitem hstale
    obtain ⟨read, hread⟩ := @exists_listed stale _ _ (KeyedTable.mem_rows_of_get hitem)
    have hkey : signalKey item = key := KeyedTable.key_of_get hitem
    have hstatus := halike item hitem read _ hread hkey
    rw [coerceStaleStatus_stale hstale] at hstatus
    have hpending : (hydrateSignal item.signal).status = .pendingSend := hstale.1
    rw [hpending] at hstatus
    cases hstatus
  · intro hfresh item hitem read signal hsignal hkey
    obtain ⟨row, ⟨item', hitem', rfl⟩, hshows⟩ := shows_of_mem_answer hsignal
    have hget := KeyedTable.mem_rows_iff.mp hitem'
    have hkey' : signalKey item' = key := hshows.key.symm.trans hkey
    rw [hkey', hitem] at hget
    obtain rfl := Option.some.inj hget
    have hstatus := hshows.status
    rw [coerceStaleStatus_fresh (hfresh item hitem)] at hstatus ⊢
    exact hstatus.elim id id

/-! ## A send of the day before -/

def staleDraft : Signal where
  id := "sgn-1"
  signalLookupId := "sgn-1"
  threadId := some "thr-1"
  gsi3pk := none
  accountId := "acc"
  status := .pendingSend
  labels := some []
  createdAt := "2026-06-01T08:00:00.000Z"
  retentionDuration := none
  data := .outboundEmail {
    sender := ⟨"me@a.example", none⟩
    toAddresses := [⟨"ann@org.test", none⟩]
    cc := []
    bcc := []
    subject := "Hello"
    attachments := []
    headers := []
    textBody := none
    htmlBody := none
    sesMessageId := none
    sendInitiatedAt := some "2026-06-01T08:00:00.000Z"
    sendFailureReason := none
    linkedSignalId := none }

def draftStore : Store := ⟨KeyedTable.empty.put (signalItem staleDraft), .empty⟩

/-- A day later the draft can be sent anew by its id, and is being sent in its thread. -/
theorem staleDraft_differs :
    ((Read.getSignalById "acc" "sgn-1" "thr-1").answer (fun _ => true) draftStore).map
        Signal.status = [.draft] ∧
      ((Read.listSignals "acc" "thr-1" none none).answer (fun _ => true) draftStore).map
        Signal.status = [.pendingSend] ∧
      ¬ ReadAlike (fun _ => true) draftStore ("acc", "sgn-1") := by
  refine ⟨by decide +kernel, by decide +kernel, fun halike => ?_⟩
  rw [readAlike_iff] at halike
  exact halike (signalItem staleDraft) rfl ⟨rfl, fun _ _ => rfl⟩

end SesEmailAdapter.Database.StaleReads
