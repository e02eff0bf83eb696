import Mathlib.Algebra.BigOperators.Group.List.Basic
import Mathlib.Algebra.Order.Group.Int
import Mathlib.Data.List.Dedup
import Mathlib.Logic.Function.Basic
import SesEmailAdapter.Database.SignalsTable
import SesEmailAdapter.Lib.Pool

/-! # Stats

The counters of an account, one row a day, and the write that adds a delta to one of them. A row
remembers the keys of the writes it has counted, so that a write that is retried on the same day is
counted once. -/

namespace SesEmailAdapter.Database.StatsWriter
open Lib
open Database.Shared
open Database.SignalsTable (WriteError requestFailed)

/-! ## Rows -/

inductive StatsMetric
  | allowed | blocked | quarantined | reported | totalAliases
deriving DecidableEq, Repr

/-- The account and the UTC date of a row. -/
abbrev RowKey := String × String

structure StatsDiffRow where
  accountId : String
  date : String
  metrics : StatsMetric → Option Int
  history : List String

def rowKey (row : StatsDiffRow) : RowKey := (row.accountId, row.date)

abbrev Store := KeyedTable rowKey

/-- A write, made on the day of its date. -/
structure DiffWrite where
  accountId : String
  date : String
  metric : StatsMetric
  delta : Int
  idempotencyKey : String
deriving DecidableEq, Repr

def DiffWrite.row (write : DiffWrite) : RowKey := (write.accountId, write.date)

/-- `ADD #metrics.#metricName :delta SET history = list_append(history, :keyList)` -/
def StatsDiffRow.add (row : StatsDiffRow) (write : DiffWrite) : StatsDiffRow :=
  { row with
    metrics := Function.update row.metrics write.metric
      (some ((row.metrics write.metric).getD 0 + write.delta))
    history := row.history ++ [write.idempotencyKey] }

def newDiffRow (write : DiffWrite) : StatsDiffRow where
  accountId := write.accountId
  date := write.date
  metrics := Function.update (fun _ => none) write.metric (some write.delta)
  history := [write.idempotencyKey]

/-! ## Requests -/

inductive Cmd
  /-- Conditional on the row: it exists and has not counted the key. -/
  | update (write : DiffWrite)
  /-- Conditional on the row: there is none. -/
  | put (write : DiffWrite)
  | getHistory (key : RowKey)
  /-- Removes the ten oldest keys. -/
  | trim (key : RowKey)
deriving DecidableEq, Repr

@[reducible] def Cmd.Answer : Cmd → Type
  | .update _ => Except WriteError Unit
  | .put _ => Except WriteError Unit
  | .getHistory _ => Except DbError (Option (List String))
  | .trim _ => Except DbError Unit

def exec : (c : Cmd) → Store → c.Answer × Store
  | .update write, s => match s.get write.row with
    | none => (.error .conditionFailed, s)
    | some row =>
      if write.idempotencyKey ∈ row.history then (.error .conditionFailed, s)
      else (.ok (), s.put (row.add write))
  | .put write, s => match s.get write.row with
    | some _ => (.error .conditionFailed, s)
    | none => (.ok (), s.put (newDiffRow write))
  | .getHistory key, s => (.ok ((s.get key).map StatsDiffRow.history), s)
  | .trim key, s => match s.get key with
    | none => (.ok (), s)
    | some row => (.ok (), s.put { row with history := row.history.drop 10 })

def failure : (c : Cmd) → c.Answer
  | .update _ => .error (.db requestFailed)
  | .put _ => .error (.db requestFailed)
  | .getHistory _ => .error requestFailed
  | .trim _ => .error requestFailed

/-- The table, and the tables before each of its writes, the newest first. -/
structure World where
  table : Store
  past : List Store

/-- What becomes of a request; a read may be answered from an earlier table. -/
structure Turn where
  fate : Fate
  version : Option Nat
deriving DecidableEq, Repr

def World.seen (w : World) (version : Option Nat) : Store :=
  (version.bind (w.past[·]?)).getD w.table

def settle : (c : Cmd) → World → Turn → c.Answer × World
  | .getHistory key, w, turn =>
    ((settleRequest exec failure (.getHistory key) (w.seen turn.version) turn.fate).1, w)
  | c, w, turn =>
    let (answer, table) := settleRequest exec failure c w.table turn.fate
    (answer, ⟨table, w.table :: w.past⟩)

def service : Service Cmd Cmd.Answer World Turn := ⟨settle, ⟨.done, none⟩⟩

abbrev DbProg (α : Type) := Prog Cmd Cmd.Answer α

@[simp] def request (c : Cmd) : DbProg c.Answer := Prog.perform c

/-! ## The write -/

def HISTORY_LIMIT : Nat := 100

/-- Its failures are logged. -/
def trimHistory (key : RowKey) : DbProg Unit := do
  let res : Except DbError (Option (List String)) ← request (.getHistory key)
  match res with
  | .error _ => return ()
  | .ok history =>
    if (history.getD []).length ≤ HISTORY_LIMIT then return ()
    else do
      let _ ← request (.trim key)
      return ()

/-- The last attempt: when its condition fails, the key has been counted meanwhile. -/
def retryUpdate (write : DiffWrite) : DbProg (Except DbError Unit) := do
  let updated : Except WriteError Unit ← request (.update write)
  match updated with
  | .ok () => do
    trimHistory write.row
    return .ok ()
  | .error .conditionFailed => return .ok ()
  | .error (.db error) => return .error error

def createRow (write : DiffWrite) : DbProg (Except DbError Unit) := do
  let created : Except WriteError Unit ← request (.put write)
  match created with
  | .ok () => return .ok ()
  | .error .conditionFailed => retryUpdate write
  | .error (.db error) => return .error error

def writeDiffMetric (write : DiffWrite) : DbProg (Except DbError Unit) := do
  let updated : Except WriteError Unit ← request (.update write)
  match updated with
  | .ok () => do
    trimHistory write.row
    return .ok ()
  | .error (.db error) => return .error error
  | .error .conditionFailed => do
    let existing : Except DbError (Option (List String)) ← request (.getHistory write.row)
    match existing with
    | .error error => return .error error
    | .ok none => createRow write
    | .ok (some history) =>
      if write.idempotencyKey ∈ history then return .ok () else retryUpdate write

/-! ## Stages -/

/-- How far a write has come. -/
inductive Phase
  | writing (write : DiffWrite)
  | looking (write : DiffWrite)
  | creating (write : DiffWrite)
  | retrying (write : DiffWrite)
  | counted (write : DiffWrite)
  | trimming (write : DiffWrite)
  | closed (write : DiffWrite)

def Phase.write : Phase → DiffWrite
  | .writing write => write
  | .looking write => write
  | .creating write => write
  | .retrying write => write
  | .counted write => write
  | .trimming write => write
  | .closed write => write

def monitor : Monitor Cmd Cmd.Answer Turn Phase where
  allow
    | .writing write, c => c = .update write
    | .looking write, c => c = .getHistory write.row
    | .creating write, c => c = .put write
    | .retrying write, c => c = .update write
    | .counted write, c => c = .getHistory write.row
    | .trimming write, c => c = .trim write.row
    | .closed _, _ => False
  next
    | .writing write, .update _, _, .ok () => .counted write
    | .writing write, .update _, _, .error .conditionFailed => .looking write
    | .looking write, .getHistory _, _, .ok none => .creating write
    | .looking write, .getHistory _, _, .ok (some history) =>
      if write.idempotencyKey ∈ history then .counted write else .retrying write
    | .creating write, .put _, _, .ok () => .counted write
    | .creating write, .put _, _, .error .conditionFailed => .retrying write
    | .retrying write, .update _, _, .ok () => .counted write
    | .retrying write, .update _, _, .error .conditionFailed => .counted write
    | .counted write, .getHistory _, _, .ok history =>
      if (history.getD []).length ≤ HISTORY_LIMIT then .counted write else .trimming write
    | .counted write, _, _, _ => .counted write
    | .trimming write, _, _, _ => .counted write
    | q, _, _, _ => .closed q.write

/-- A write that reports success has been counted, at some time and on some row. -/
def Returns (q : Phase) (result : Except DbError Unit) : Prop :=
  result = .ok () → q = .counted q.write

theorem trimHistory_obeys (write : DiffWrite) :
    (trimHistory write.row).Obeys monitor (fun q _ => q = .counted write) (.counted write) := by
  refine And.intro rfl fun turn answer => ?_
  change Except DbError (Option (List String)) at answer
  match answer with
  | .error _ => exact rfl
  | .ok history =>
    show Prog.Obeys monitor _ (if (history.getD []).length ≤ HISTORY_LIMIT then
      .counted write else .trimming write) (if _ then _ else _)
    split
    · exact rfl
    · exact And.intro rfl fun _ _ => rfl

theorem counted_obeys (write : DiffWrite) :
    (do trimHistory write.row; return .ok () : DbProg (Except DbError Unit)).Obeys monitor Returns
      (.counted write) := by
  refine Prog.obeys_bind.mpr ((trimHistory_obeys write).mono fun q _ hq => ?_)
  rw [hq]
  exact fun _ => rfl

theorem retryUpdate_obeys (write : DiffWrite) :
    (retryUpdate write).Obeys monitor Returns (.retrying write) := by
  refine And.intro rfl fun turn answer => ?_
  change Except WriteError Unit at answer
  match answer with
  | .ok () => exact counted_obeys write
  | .error .conditionFailed => exact fun _ => rfl
  | .error (.db _) => exact nofun

theorem writeDiffMetric_obeys (write : DiffWrite) :
    (writeDiffMetric write).Obeys monitor Returns (.writing write) := by
  refine And.intro rfl fun turn answer => ?_
  change Except WriteError Unit at answer
  match answer with
  | .ok () => exact counted_obeys write
  | .error (.db _) => exact nofun
  | .error .conditionFailed =>
    refine And.intro rfl fun turn answer => ?_
    change Except DbError (Option (List String)) at answer
    match answer with
    | .error _ => exact nofun
    | .ok none =>
      refine And.intro rfl fun turn answer => ?_
      change Except WriteError Unit at answer
      match answer with
      | .ok () => exact fun _ => rfl
      | .error .conditionFailed => exact retryUpdate_obeys write
      | .error (.db _) => exact nofun
    | .ok (some history) =>
      show Prog.Obeys monitor _ (if write.idempotencyKey ∈ history then .counted write
        else .retrying write) (if _ then _ else _)
      split
      · exact fun _ => rfl
      · exact retryUpdate_obeys write

/-! ## What counts -/

/-- The writes of a run: a day has fewer keys than a row keeps, and the writes of an account under
one key are the same write, made again. -/
structure Workload where
  keys : RowKey → List String
  few : ∀ key, (keys key).length < HISTORY_LIMIT
  deltas : String → String → StatsMetric × Int

def Workload.Has (load : Workload) (write : DiffWrite) : Prop :=
  write.idempotencyKey ∈ load.keys write.row ∧
    load.deltas write.accountId write.idempotencyKey = (write.metric, write.delta)

/-- What a key adds to a counter. -/
def Workload.share (load : Workload) (accountId : String) (metric : StatsMetric) (key : String) :
    Int :=
  if (load.deltas accountId key).1 = metric then (load.deltas accountId key).2 else 0

/-- The request adds its delta to a row. -/
def Commits (w : World) (turn : Turn) : Cmd → Prop
  | .update write => turn.fate ≠ .refused ∧
      ∃ row, w.table.get write.row = some row ∧ write.idempotencyKey ∉ row.history
  | .put write => turn.fate ≠ .refused ∧ w.table.get write.row = none
  | _ => False

/-- The row of another day has counted the key. -/
def CountedElsewhere (table : Store) (write : DiffWrite) : Prop :=
  ∃ row ∈ table.rows, row.accountId = write.accountId ∧ row.date ≠ write.date ∧
    write.idempotencyKey ∈ row.history

/-- The runs of writes of a workload. -/
def anyDay (load : Workload) :
    Rules Cmd Cmd.Answer (Except DbError Unit) World Turn Phase where
  spawn prog phase _ _ :=
    ∃ write, load.Has write ∧ prog = writeDiffMetric write ∧ phase = .writing write
  step _ _ _ _ _ _ := True
  crash _ _ _ _ := True

/-- The runs in which no key is counted on a second day. -/
def oneDay (load : Workload) : Rules Cmd Cmd.Answer (Except DbError Unit) World Turn Phase :=
  { anyDay load with
    step := fun _ _ c turn w _ => Commits w turn c →
      ∀ write, c = .update write ∨ c = .put write → ¬ CountedElsewhere w.table write }

/-! ## Tables -/

structure Counted (load : Workload) (table : Store) : Prop where
  metrics : ∀ row ∈ table.rows, ∀ metric, (row.metrics metric).getD 0 =
    (row.history.map (load.share row.accountId metric)).sum
  known : ∀ row ∈ table.rows, ∀ key ∈ row.history, key ∈ load.keys (rowKey row)
  nodup : ∀ row ∈ table.rows, row.history.Nodup
  apart : ∀ row ∈ table.rows, ∀ row' ∈ table.rows, row.accountId = row'.accountId →
    ∀ key ∈ row.history, key ∈ row'.history → row.date = row'.date

/-- The row that a write adds to, which is empty before the first write of a day. -/
def rowOf (table : Store) (write : DiffWrite) : StatsDiffRow :=
  (table.get write.row).getD ⟨write.accountId, write.date, fun _ => none, []⟩

def count (table : Store) (write : DiffWrite) : Store :=
  table.put ((rowOf table write).add write)

variable {load : Workload} {table : Store} {write : DiffWrite}

theorem rowKey_rowOf : rowKey (rowOf table write) = write.row := by
  unfold rowOf
  cases hget : table.get write.row with
  | none => rfl
  | some row => exact KeyedTable.key_of_get hget

theorem rowOf_cases : rowOf table write ∈ table.rows ∨
    rowOf table write = ⟨write.accountId, write.date, fun _ => none, []⟩ := by
  unfold rowOf
  cases hget : table.get write.row with
  | none => exact .inr rfl
  | some row => exact .inl (KeyedTable.mem_rows_of_get hget)

theorem rowOf_accountId : (rowOf table write).accountId = write.accountId :=
  congrArg Prod.fst rowKey_rowOf

theorem rowOf_date : (rowOf table write).date = write.date :=
  congrArg Prod.snd rowKey_rowOf

variable {row : StatsDiffRow}

theorem mem_count : row ∈ (count table write).rows ↔
    row = (rowOf table write).add write ∨ (row ∈ table.rows ∧ rowKey row ≠ write.row) := by
  have hkey : rowKey ((rowOf table write).add write) = write.row := rowKey_rowOf
  rw [count, KeyedTable.mem_put, hkey]

theorem share_self (h : load.Has write) (metric : StatsMetric) :
    load.share write.accountId metric write.idempotencyKey =
      if write.metric = metric then write.delta else 0 := by
  unfold Workload.share
  rw [h.2]

/-- The row that is added to is counted as well as those of the table. -/
theorem Counted.base (h : Counted load table) (write : DiffWrite) :
    (∀ metric, ((rowOf table write).metrics metric).getD 0 =
        ((rowOf table write).history.map (load.share write.accountId metric)).sum) ∧
      (∀ key ∈ (rowOf table write).history, key ∈ load.keys write.row) ∧
      (rowOf table write).history.Nodup := by
  obtain hin | hempty := @rowOf_cases table write
  · refine ⟨fun metric => ?_, fun key hkey => ?_, h.nodup _ hin⟩
    · rw [h.metrics _ hin metric, rowOf_accountId]
    · rw [← @rowKey_rowOf table]
      exact h.known _ hin key hkey
  · rw [hempty]
    exact ⟨fun _ => rfl, fun _ hkey => absurd hkey List.not_mem_nil, List.nodup_nil⟩

theorem metrics_add (hhas : load.Has write) {metric : StatsMetric}
    (haccount : row.accountId = write.accountId)
    (hrow : (row.metrics metric).getD 0 = (row.history.map (load.share write.accountId metric)).sum) :
    ((row.add write).metrics metric).getD 0 =
      ((row.add write).history.map (load.share (row.add write).accountId metric)).sum := by
  show (Function.update row.metrics write.metric _ metric).getD 0 =
    ((row.history ++ [write.idempotencyKey]).map (load.share row.accountId metric)).sum
  rw [List.map_append, List.sum_append, haccount, ← hrow, List.map_singleton, List.sum_singleton,
    share_self hhas]
  by_cases hmetric : write.metric = metric
  · subst hmetric
    simp
  · rw [Function.update_of_ne (Ne.symm hmetric), if_neg hmetric]
    exact (Int.add_zero _).symm

/-- A write of a key that the row has not counted, and no other row of the account. -/
theorem Counted.add (h : Counted load table) (hhas : load.Has write)
    (hfresh : write.idempotencyKey ∉ (rowOf table write).history)
    (hapart : ¬ CountedElsewhere table write) : Counted load (count table write) := by
  have hold {row : StatsDiffRow} (hrow : row ∈ table.rows) (hne : rowKey row ≠ write.row)
      (haccount : row.accountId = write.accountId) : write.idempotencyKey ∉ row.history := by
    intro hkey
    refine hapart ⟨row, hrow, haccount, fun hdate => hne ?_, hkey⟩
    rw [rowKey, haccount, hdate]
    rfl
  have hother {row : StatsDiffRow} (hrow : row ∈ table.rows) (hne : rowKey row ≠ write.row)
      (haccount : row.accountId = write.accountId) :
      ∀ key ∈ row.history, key ∉ (rowOf table write).history ++ [write.idempotencyKey] := by
    intro key hkey hmem
    obtain hmem | hmem := List.mem_append.mp hmem
    · obtain hin | hempty := @rowOf_cases table write
      · have hdate := h.apart row hrow _ hin (haccount.trans rowOf_accountId.symm) key hkey hmem
        rw [rowOf_date] at hdate
        exact hne (by rw [rowKey, haccount, hdate]; rfl)
      · rw [hempty] at hmem
        exact List.not_mem_nil hmem
    · rw [List.mem_singleton.mp hmem] at hkey
      exact hold hrow hne haccount hkey
  obtain ⟨hmetrics, hknown, hnodup⟩ := h.base write
  refine ⟨?_, ?_, ?_, ?_⟩
  · intro row hrow metric
    obtain rfl | ⟨hrow, -⟩ := mem_count.mp hrow
    · exact metrics_add hhas rowOf_accountId (hmetrics metric)
    · exact h.metrics row hrow metric
  · intro row hrow
    obtain rfl | ⟨hrow, -⟩ := mem_count.mp hrow
    · intro key hkey
      show key ∈ load.keys (rowKey (rowOf table write))
      rw [rowKey_rowOf]
      obtain hkey | hkey := List.mem_append.mp hkey
      · exact hknown key hkey
      · rw [List.mem_singleton.mp hkey]
        exact hhas.1
    · exact h.known row hrow
  · intro row hrow
    obtain rfl | ⟨hrow, -⟩ := mem_count.mp hrow
    · refine List.nodup_append.mpr ⟨hnodup, List.nodup_singleton _, ?_⟩
      intro key hkey key' hkey' heq
      rw [List.mem_singleton.mp hkey'] at heq
      exact hfresh (heq ▸ hkey)
    · exact h.nodup row hrow
  · intro row hrow row' hrow' haccount key hkey hkey'
    obtain rfl | ⟨hrow, hne⟩ := mem_count.mp hrow
    · obtain rfl | ⟨hrow', hne'⟩ := mem_count.mp hrow'
      · rfl
      · exact absurd hkey (hother hrow' hne' (haccount.symm.trans rowOf_accountId) key hkey')
    · obtain rfl | ⟨hrow', hne'⟩ := mem_count.mp hrow'
      · exact absurd hkey' (hother hrow hne (haccount.trans rowOf_accountId) key hkey)
      · exact h.apart row hrow row' hrow' haccount key hkey hkey'

/-! ## What a run keeps -/

/-- Every row is still there, with at least the keys it had. -/
def Grows (t t' : Store) : Prop :=
  ∀ key row, t.get key = some row → ∃ row', t'.get key = some row' ∧ row.history <+: row'.history

theorem Grows.refl (t : Store) : Grows t t := fun _ row hrow => ⟨row, hrow, List.prefix_refl _⟩

theorem Grows.trans {t t' t'' : Store} (h : Grows t t') (h' : Grows t' t'') : Grows t t'' := by
  intro key row hrow
  obtain ⟨row', hrow', hmarked⟩ := h key row hrow
  obtain ⟨row'', hrow'', hmarked'⟩ := h' key row' hrow'
  exact ⟨row'', hrow'', hmarked.trans hmarked'⟩

theorem get_count (key : RowKey) : (count table write).get key =
    if key = write.row then some ((rowOf table write).add write) else table.get key := by
  have hkey : rowKey ((rowOf table write).add write) = write.row := rowKey_rowOf
  rw [count, KeyedTable.get_put, hkey]

theorem grows_count : Grows table (count table write) := by
  intro key row hrow
  rw [get_count]
  by_cases hkey : key = write.row
  · rw [if_pos hkey]
    refine ⟨_, rfl, ?_⟩
    have hbase : rowOf table write = row := by
      rw [rowOf, ← hkey, hrow]
      rfl
    show row.history <+: (rowOf table write).history ++ [write.idempotencyKey]
    rw [hbase]
    exact List.prefix_append _ _
  · rw [if_neg hkey]
    exact ⟨row, hrow, List.prefix_refl _⟩

/-- What a write relies on. -/
def Backed (t : Store) : Phase → Prop
  | .retrying write => ∃ row, t.get write.row = some row
  | .counted write => ∃ row, t.get write.row = some row ∧ write.idempotencyKey ∈ row.history
  | .trimming _ => False
  | _ => True

theorem Backed.mono {t t' : Store} {q : Phase} (h : Backed t q) (hgrows : Grows t t') :
    Backed t' q := by
  cases q with
  | writing | looking | creating | closed => trivial
  | retrying write =>
    obtain ⟨row, hrow⟩ := h
    obtain ⟨row', hrow', -⟩ := hgrows _ _ hrow
    exact ⟨row', hrow'⟩
  | counted write =>
    obtain ⟨row, hrow, hkey⟩ := h
    obtain ⟨row', hrow', hmarked⟩ := hgrows _ _ hrow
    exact ⟨row', hrow', hmarked.subset hkey⟩
  | trimming write => exact h.elim

/-- Some write of the run has the key. -/
def Started (views : List (Phase × Bool)) (accountId key : String) : Prop :=
  ∃ view ∈ views, view.1.write.accountId = accountId ∧ view.1.write.idempotencyKey = key

structure Inv (load : Workload) (w : World) (views : List (Phase × Bool)) : Prop where
  counted : Counted load w.table
  past : ∀ t ∈ w.past, Grows t w.table
  backed : ∀ view ∈ views, Backed w.table view.1
  has : ∀ view ∈ views, load.Has view.1.write
  started : ∀ row ∈ w.table.rows, ∀ key ∈ row.history, Started views row.accountId key

variable {w w' : World} {views : List (Phase × Bool)} {i : Nat} {q q' : Phase}

theorem Started.set (hi : views[i]? = some (q, true)) (hwrite : q'.write = q.write)
    {accountId key : String} (h : Started views accountId key) :
    Started (views.set i (q', true)) accountId key := by
  obtain ⟨view, hview, haccount, hkey⟩ := h
  obtain ⟨j, hj⟩ := List.mem_iff_getElem?.mp hview
  by_cases hij : i = j
  · subst hij
    rw [hi] at hj
    cases hj
    refine ⟨(q', true), List.mem_iff_getElem?.mpr ⟨i, ?_⟩, ?_, ?_⟩
    · exact List.getElem?_set_self (List.getElem?_eq_some_iff.mp hi).1
    · rw [hwrite]
      exact haccount
    · rw [hwrite]
      exact hkey
  · refine ⟨view, List.mem_iff_getElem?.mpr ⟨j, ?_⟩, haccount, hkey⟩
    rw [List.getElem?_set_ne hij]
    exact hj

/-- A task that moves on, and the table that it leaves. -/
theorem Inv.next (h : Inv load w views) (hi : views[i]? = some (q, true))
    (hwrite : q'.write = q.write) (hcounted : Counted load w'.table)
    (hgrows : Grows w.table w'.table) (hpast : ∀ t ∈ w'.past, t = w.table ∨ t ∈ w.past)
    (hkeys : ∀ row ∈ w'.table.rows, ∀ key ∈ row.history,
      (∃ row' ∈ w.table.rows, row'.accountId = row.accountId ∧ key ∈ row'.history) ∨
        (q.write.accountId = row.accountId ∧ q.write.idempotencyKey = key))
    (hbacked : Backed w'.table q') : Inv load w' (views.set i (q', true)) := by
  have hview := List.mem_of_getElem? hi
  refine ⟨hcounted, fun t ht => ?_, fun view hmem => ?_, fun view hmem => ?_, ?_⟩
  · obtain rfl | ht := hpast t ht
    · exact hgrows
    · exact (h.past t ht).trans hgrows
  · obtain hmem | rfl := List.mem_or_eq_of_mem_set hmem
    · exact (h.backed view hmem).mono hgrows
    · exact hbacked
  · obtain hmem | rfl := List.mem_or_eq_of_mem_set hmem
    · exact h.has view hmem
    · rw [hwrite]
      exact h.has _ hview
  · intro row hrow key hkey
    refine Started.set hi hwrite ?_
    obtain ⟨row', hrow', haccount, hkey'⟩ | ⟨haccount, hkey'⟩ := hkeys row hrow key hkey
    · rw [← haccount]
      exact h.started row' hrow' key hkey'
    · exact ⟨_, hview, haccount, hkey'⟩

/-- A request that leaves the table as it is. -/
theorem Inv.stay (h : Inv load w views) (hi : views[i]? = some (q, true))
    (hwrite : q'.write = q.write) (htable : w'.table = w.table)
    (hpast : ∀ t ∈ w'.past, t = w.table ∨ t ∈ w.past) (hbacked : Backed w.table q') :
    Inv load w' (views.set i (q', true)) := by
  refine h.next hi hwrite ?_ ?_ hpast ?_ ?_
  · rw [htable]
    exact h.counted
  · rw [htable]
    exact .refl _
  · rw [htable]
    exact fun row hrow key hkey => .inl ⟨row, hrow, rfl, hkey⟩
  · rw [htable]
    exact hbacked

/-- A request that counts the key of its write. -/
theorem Inv.commit (h : Inv load w views) (hi : views[i]? = some (q, true))
    (hwrite : q'.write = q.write)
    (hfresh : q.write.idempotencyKey ∉ (rowOf w.table q.write).history)
    (hapart : ¬ CountedElsewhere w.table q.write)
    (htable : w'.table = count w.table q.write)
    (hpast : ∀ t ∈ w'.past, t = w.table ∨ t ∈ w.past)
    (hbacked : Backed (count w.table q.write) q') :
    Inv load w' (views.set i (q', true)) := by
  refine h.next hi hwrite ?_ ?_ hpast ?_ ?_
  · rw [htable]
    exact h.counted.add (h.has _ (List.mem_of_getElem? hi)) hfresh hapart
  · rw [htable]
    exact grows_count
  · rw [htable]
    intro row hrow key hkey
    obtain rfl | ⟨hrow, -⟩ := mem_count.mp hrow
    · obtain hkey | hkey := List.mem_append.mp hkey
      · obtain hin | hempty := @rowOf_cases w.table q.write
        · exact .inl ⟨_, hin, rfl, hkey⟩
        · rw [hempty] at hkey
          exact absurd hkey List.not_mem_nil
      · exact .inr ⟨rowOf_accountId.symm, (List.mem_singleton.mp hkey).symm⟩
    · exact .inl ⟨row, hrow, rfl, hkey⟩
  · rw [htable]
    exact hbacked

/-! ## Each request -/

theorem newDiffRow_eq (h : table.get write.row = none) :
    newDiffRow write = (rowOf table write).add write := by
  unfold rowOf
  rw [h]
  simp [newDiffRow, StatsDiffRow.add]

theorem rowOf_fresh {turn : Turn} {c : Cmd} (h : Commits w turn c)
    (hc : c = .update write ∨ c = .put write) :
    write.idempotencyKey ∉ (rowOf w.table write).history := by
  unfold rowOf
  obtain rfl | rfl := hc
  · obtain ⟨-, row, hrow, hkey⟩ := h
    rw [hrow]
    exact hkey
  · rw [h.2]
    exact List.not_mem_nil

theorem exec_update (t : Store) (write : DiffWrite) :
    (∃ row, t.get write.row = some row ∧ write.idempotencyKey ∉ row.history ∧
      exec (.update write) t = (.ok (), count t write)) ∨
    ((∀ row, t.get write.row = some row → write.idempotencyKey ∈ row.history) ∧
      exec (.update write) t = (.error .conditionFailed, t)) := by
  cases hget : t.get write.row with
  | none =>
    refine .inr ⟨nofun, ?_⟩
    simp only [exec, hget]
  | some row =>
    by_cases hkey : write.idempotencyKey ∈ row.history
    · refine .inr ⟨fun row' hrow' => ?_, ?_⟩
      · cases hrow'
        exact hkey
      · simp only [exec, hget, if_pos hkey]
    · refine .inl ⟨row, rfl, hkey, ?_⟩
      simp only [exec, hget, if_neg hkey, count, rowOf, Option.getD_some]

theorem exec_put (t : Store) (write : DiffWrite) :
    (t.get write.row = none ∧ exec (.put write) t = (.ok (), count t write)) ∨
    ((∃ row, t.get write.row = some row) ∧
      exec (.put write) t = (.error .conditionFailed, t)) := by
  cases hget : t.get write.row with
  | none =>
    refine .inl ⟨rfl, ?_⟩
    simp only [exec, hget]
    rw [count, ← newDiffRow_eq hget]
  | some row =>
    refine .inr ⟨⟨row, rfl⟩, ?_⟩
    simp only [exec, hget]

/-- What a counting request does to the world. -/
theorem settle_write {turn : Turn} {c : Cmd} (hc : c = .update write ∨ c = .put write) :
    (Commits w turn c ∧ (settle c w turn).2 = ⟨count w.table write, w.table :: w.past⟩) ∨
      (¬ Commits w turn c ∧ (settle c w turn).2 = ⟨w.table, w.table :: w.past⟩) := by
  obtain ⟨fate, version⟩ := turn
  obtain rfl | rfl := hc
  · obtain ⟨row, hget, hkey, hexec⟩ | ⟨hkey, hexec⟩ := exec_update w.table write
    · cases fate with
      | refused => exact .inr ⟨fun h => h.1 rfl, rfl⟩
      | done => exact .inl ⟨⟨nofun, row, hget, hkey⟩, by simp [settle, settleRequest, hexec]⟩
      | lost => exact .inl ⟨⟨nofun, row, hget, hkey⟩, by simp [settle, settleRequest, hexec]⟩
    · refine .inr ⟨fun ⟨_, row, hget, hnot⟩ => hnot (hkey row hget), ?_⟩
      cases fate <;> simp [settle, settleRequest, hexec]
  · obtain ⟨hget, hexec⟩ | ⟨⟨row, hget⟩, hexec⟩ := exec_put w.table write
    · cases fate with
      | refused => exact .inr ⟨fun h => h.1 rfl, rfl⟩
      | done => exact .inl ⟨⟨nofun, hget⟩, by simp [settle, settleRequest, hexec]⟩
      | lost => exact .inl ⟨⟨nofun, hget⟩, by simp [settle, settleRequest, hexec]⟩
    · refine .inr ⟨fun h => ?_, ?_⟩
      · rw [h.2] at hget
        cases hget
      · cases fate <;> simp [settle, settleRequest, hexec]

/-- What the answer to an update tells. -/
theorem answer_update (w : World) (write : DiffWrite) (turn : Turn) :
    ((settle (.update write) w turn).1 = .ok () → Commits w turn (.update write)) ∧
      ((settle (.update write) w turn).1 = .error .conditionFailed →
        ∀ row, w.table.get write.row = some row → write.idempotencyKey ∈ row.history) := by
  obtain ⟨fate, version⟩ := turn
  obtain ⟨row, hget, hkey, hexec⟩ | ⟨hkey, hexec⟩ := exec_update w.table write
  · cases fate with
    | done =>
      refine ⟨fun _ => ⟨nofun, row, hget, hkey⟩, fun h => ?_⟩
      simp [settle, settleRequest, hexec] at h
    | refused => exact ⟨nofun, nofun⟩
    | lost => exact ⟨nofun, nofun⟩
  · refine ⟨fun h => ?_, fun _ => hkey⟩
    cases fate <;> simp [settle, settleRequest, hexec, failure] at h

/-- What the answer to the creation of a row tells. -/
theorem answer_put (w : World) (write : DiffWrite) (turn : Turn) :
    ((settle (.put write) w turn).1 = .ok () → Commits w turn (.put write)) ∧
      ((settle (.put write) w turn).1 = .error .conditionFailed →
        ∃ row, w.table.get write.row = some row) := by
  obtain ⟨fate, version⟩ := turn
  obtain ⟨hget, hexec⟩ | ⟨hrow, hexec⟩ := exec_put w.table write
  · cases fate with
    | done =>
      refine ⟨fun _ => ⟨nofun, hget⟩, fun h => ?_⟩
      simp [settle, settleRequest, hexec] at h
    | refused => exact ⟨nofun, nofun⟩
    | lost => exact ⟨nofun, nofun⟩
  · refine ⟨fun h => ?_, fun _ => hrow⟩
    cases fate <;> simp [settle, settleRequest, hexec, failure] at h

theorem backed_counted : Backed (count table write) (.counted write) := by
  refine ⟨(rowOf table write).add write, ?_, ?_⟩
  · rw [get_count, if_pos rfl]
  · exact List.mem_append_right _ (List.mem_singleton_self _)

theorem Inv.writes (h : Inv load w views) (hi : views[i]? = some (q, true)) {turn : Turn} {c : Cmd}
    (hc : c = .update q.write ∨ c = .put q.write) (hwrite : q'.write = q.write)
    (hrule : Commits w turn c → ¬ CountedElsewhere w.table q.write)
    (hyes : Commits w turn c → Backed (count w.table q.write) q')
    (hno : ¬ Commits w turn c → Backed w.table q') :
    Inv load (settle c w turn).2 (views.set i (q', true)) := by
  obtain ⟨hcommits, hworld⟩ | ⟨hnot, hworld⟩ := settle_write hc
  · rw [hworld]
    exact h.commit hi hwrite (rowOf_fresh hcommits hc) (hrule hcommits) rfl
      (fun t ht => List.mem_cons.mp ht) (hyes hcommits)
  · rw [hworld]
    exact h.stay hi hwrite rfl (fun t ht => List.mem_cons.mp ht) (hno hnot)

theorem Inv.writing (h : Inv load w views) (hi : views[i]? = some (.writing write, true))
    (turn : Turn)
    (hrule : Commits w turn (.update write) → ¬ CountedElsewhere w.table write) :
    Inv load (settle (.update write) w turn).2 (views.set i (monitor.next (.writing write)
      (.update write) turn (settle (.update write) w turn).1, true)) := by
  have hanswer := answer_update w write turn
  generalize (settle (.update write) w turn).1 = answer at hanswer ⊢
  change Except WriteError Unit at answer
  match answer with
  | .ok () =>
    exact h.writes hi (.inl rfl) rfl hrule (fun _ => backed_counted)
      fun hnot => absurd (hanswer.1 rfl) hnot
  | .error .conditionFailed =>
    exact h.writes hi (.inl rfl) rfl hrule (fun _ => trivial) fun _ => trivial
  | .error (.db _) => exact h.writes hi (.inl rfl) rfl hrule (fun _ => trivial) fun _ => trivial

theorem Inv.retrying (h : Inv load w views) (hi : views[i]? = some (.retrying write, true))
    (turn : Turn)
    (hrule : Commits w turn (.update write) → ¬ CountedElsewhere w.table write) :
    Inv load (settle (.update write) w turn).2 (views.set i (monitor.next (.retrying write)
      (.update write) turn (settle (.update write) w turn).1, true)) := by
  have hanswer := answer_update w write turn
  generalize (settle (.update write) w turn).1 = answer at hanswer ⊢
  change Except WriteError Unit at answer
  match answer with
  | .ok () =>
    exact h.writes hi (.inl rfl) rfl hrule (fun _ => backed_counted)
      fun hnot => absurd (hanswer.1 rfl) hnot
  | .error .conditionFailed =>
    refine h.writes hi (.inl rfl) rfl hrule (fun _ => backed_counted) fun _ => ?_
    obtain ⟨row, hrow⟩ := h.backed _ (List.mem_of_getElem? hi)
    exact ⟨row, hrow, hanswer.2 rfl row hrow⟩
  | .error (.db _) => exact h.writes hi (.inl rfl) rfl hrule (fun _ => trivial) fun _ => trivial

theorem Inv.creating (h : Inv load w views) (hi : views[i]? = some (.creating write, true))
    (turn : Turn)
    (hrule : Commits w turn (.put write) → ¬ CountedElsewhere w.table write) :
    Inv load (settle (.put write) w turn).2 (views.set i (monitor.next (.creating write)
      (.put write) turn (settle (.put write) w turn).1, true)) := by
  have hanswer := answer_put w write turn
  generalize (settle (.put write) w turn).1 = answer at hanswer ⊢
  change Except WriteError Unit at answer
  match answer with
  | .ok () =>
    exact h.writes hi (.inr rfl) rfl hrule (fun _ => backed_counted)
      fun hnot => absurd (hanswer.1 rfl) hnot
  | .error .conditionFailed =>
    refine h.writes hi (.inr rfl) rfl hrule (fun _ => ?_) fun _ => hanswer.2 rfl
    obtain ⟨row, hrow, -⟩ := @backed_counted w.table write
    exact ⟨row, hrow⟩
  | .error (.db _) => exact h.writes hi (.inr rfl) rfl hrule (fun _ => trivial) fun _ => trivial

/-- A history that is read, be it an earlier one, is short and of a row that is still there. -/
theorem Inv.history (h : Inv load w views) (version : Option Nat) {key : RowKey}
    (hrow : (w.seen version).get key = some row) :
    ∃ row', w.table.get key = some row' ∧ row.history ⊆ row'.history ∧
      row.history.length ≤ HISTORY_LIMIT := by
  have hgrows : Grows (w.seen version) w.table := by
    unfold World.seen
    cases hpast : version.bind (w.past[·]?) with
    | none => exact .refl _
    | some t =>
      obtain ⟨n, -, hn⟩ := Option.bind_eq_some_iff.mp hpast
      exact h.past t (List.mem_of_getElem? hn)
  obtain ⟨row', hrow', hmarked⟩ := hgrows key row hrow
  have hmem := KeyedTable.mem_rows_of_get hrow'
  have hsubset : row'.history ⊆ load.keys (rowKey row') := h.counted.known row' hmem
  have hlength := ((h.counted.nodup row' hmem).subperm hsubset).length_le
  have hfew := load.few (rowKey row')
  have hprior := hmarked.length_le
  exact ⟨row', hrow', hmarked.subset, by omega⟩

/-- What a read of a history answers. -/
theorem answer_history {version : Option Nat} {fate : Fate} {key : RowKey}
    {history : Option (List String)}
    (h : (settle (.getHistory key) w ⟨fate, version⟩).1 = .ok history) :
    ((w.seen version).get key).map StatsDiffRow.history = history := by
  cases fate with
  | done => exact Except.ok.inj h
  | refused => cases h
  | lost => cases h

theorem Inv.looking (h : Inv load w views) (hi : views[i]? = some (.looking write, true))
    (turn : Turn) :
    Inv load (settle (.getHistory write.row) w turn).2 (views.set i (monitor.next (.looking write)
      (.getHistory write.row) turn (settle (.getHistory write.row) w turn).1, true)) := by
  obtain ⟨fate, version⟩ := turn
  have hanswer := @answer_history w version fate write.row
  generalize (settle (.getHistory write.row) w ⟨fate, version⟩).1 = answer at hanswer ⊢
  change Except DbError (Option (List String)) at answer
  match answer with
  | .error _ => exact h.stay hi rfl rfl (fun _ ht => .inr ht) trivial
  | .ok none => exact h.stay hi rfl rfl (fun _ ht => .inr ht) trivial
  | .ok (some history) =>
    obtain ⟨row, hrow, hhistory⟩ := Option.map_eq_some_iff.mp (hanswer rfl)
    obtain ⟨row', hrow', hsubset, -⟩ := h.history version hrow
    show Inv load w (views.set i (if write.idempotencyKey ∈ history then .counted write
      else .retrying write, true))
    by_cases hkey : write.idempotencyKey ∈ history
    · rw [if_pos hkey]
      rw [← hhistory] at hkey
      exact h.stay hi rfl rfl (fun _ ht => .inr ht) ⟨row', hrow', hsubset hkey⟩
    · rw [if_neg hkey]
      exact h.stay hi rfl rfl (fun _ ht => .inr ht) ⟨row', hrow'⟩

theorem Inv.trims (h : Inv load w views) (hi : views[i]? = some (.counted write, true))
    (turn : Turn) :
    Inv load (settle (.getHistory write.row) w turn).2 (views.set i (monitor.next (.counted write)
      (.getHistory write.row) turn (settle (.getHistory write.row) w turn).1, true)) := by
  obtain ⟨fate, version⟩ := turn
  have hbacked := h.backed _ (List.mem_of_getElem? hi)
  have hanswer := @answer_history w version fate write.row
  generalize (settle (.getHistory write.row) w ⟨fate, version⟩).1 = answer at hanswer ⊢
  change Except DbError (Option (List String)) at answer
  match answer with
  | .error _ => exact h.stay hi rfl rfl (fun _ ht => .inr ht) hbacked
  | .ok history =>
    have hlength : (history.getD []).length ≤ HISTORY_LIMIT := by
      cases history with
      | none => exact Nat.zero_le _
      | some history =>
        obtain ⟨row, hrow, hhistory⟩ := Option.map_eq_some_iff.mp (hanswer rfl)
        obtain ⟨-, -, -, hlength⟩ := h.history version hrow
        rw [← hhistory]
        exact hlength
    show Inv load w (views.set i (if (history.getD []).length ≤ HISTORY_LIMIT then .counted write
      else .trimming write, true))
    rw [if_pos hlength]
    exact h.stay hi rfl rfl (fun _ ht => .inr ht) hbacked

theorem inv_keeps (load : Workload) :
    Keeps service monitor Returns (oneDay load) (Inv load) where
  spawn := by
    intro w ts prog q h hspawn
    obtain ⟨write, hhas, rfl, rfl⟩ := hspawn
    refine ⟨writeDiffMetric_obeys write, h.counted, h.past, fun view hview => ?_,
      fun view hview => ?_, fun row hrow key hkey => ?_⟩
    · obtain hview | hview := List.mem_append.mp hview
      · exact h.backed view hview
      · obtain rfl := List.mem_singleton.mp hview
        trivial
    · obtain hview | hview := List.mem_append.mp hview
      · exact h.has view hview
      · obtain rfl := List.mem_singleton.mp hview
        exact hhas
    · obtain ⟨view, hview, hstarted⟩ := h.started row hrow key hkey
      exact ⟨view, List.mem_append_left _ hview, hstarted⟩
  step := by
    intro w ts i q c turn h hi hallow hrule
    cases q with
    | writing write =>
      obtain rfl : c = .update write := hallow
      exact h.writing hi turn fun hcommits => hrule hcommits write (.inl rfl)
    | looking write =>
      obtain rfl : c = .getHistory write.row := hallow
      exact h.looking hi turn
    | creating write =>
      obtain rfl : c = .put write := hallow
      exact h.creating hi turn fun hcommits => hrule hcommits write (.inr rfl)
    | retrying write =>
      obtain rfl : c = .update write := hallow
      exact h.retrying hi turn fun hcommits => hrule hcommits write (.inl rfl)
    | counted write =>
      obtain rfl : c = .getHistory write.row := hallow
      exact h.trims hi turn
    | trimming write => exact (h.backed _ (List.mem_of_getElem? hi)).elim
    | closed write => exact hallow.elim
  crash := by
    intro w ts i q h hi _
    have hsame : ∀ view ∈ ts.set i (q, false), ∃ view' ∈ ts, view'.1 = view.1 := by
      intro view hview
      obtain hview | rfl := List.mem_or_eq_of_mem_set hview
      · exact ⟨view, hview, rfl⟩
      · exact ⟨_, List.mem_of_getElem? hi, rfl⟩
    refine ⟨h.counted, h.past, fun view hview => ?_, fun view hview => ?_, ?_⟩
    · obtain ⟨view', hview', heq⟩ := hsame view hview
      rw [← heq]
      exact h.backed view' hview'
    · obtain ⟨view', hview', heq⟩ := hsame view hview
      rw [← heq]
      exact h.has view' hview'
    · intro row hrow key hkey
      obtain ⟨view, hview, hstarted⟩ := h.started row hrow key hkey
      obtain ⟨j, hj⟩ := List.mem_iff_getElem?.mp hview
      by_cases hij : i = j
      · subst hij
        rw [hi] at hj
        cases hj
        exact ⟨_, List.mem_iff_getElem?.mpr
          ⟨i, List.getElem?_set_self (List.getElem?_eq_some_iff.mp hi).1⟩, hstarted⟩
      · refine ⟨view, List.mem_iff_getElem?.mpr ⟨j, ?_⟩, hstarted⟩
        rw [List.getElem?_set_ne hij]
        exact hj

/-! ## Counters -/

abbrev WritePool := Pool Cmd Cmd.Answer (Except DbError Unit) Phase World

def noStats : WritePool := ⟨⟨.empty, []⟩, []⟩

/-- The sum of a counter over the rows of an account. -/
def total (table : Store) (accountId : String) (metric : StatsMetric) : Int :=
  ((table.rows.filter fun row => row.accountId = accountId).map fun row =>
    (row.metrics metric).getD 0).sum

/-- The distinct keys of an account's writes. -/
def keysOf (pool : WritePool) (accountId : String) : List String :=
  (((pool.tasks.map fun task => task.phase.write).filter fun write =>
    write.accountId = accountId).map DiffWrite.idempotencyKey).dedup

/-- Every write has returned ok, if not at first, then when it was made again. -/
def AllReturned (pool : WritePool) : Prop :=
  ∀ task ∈ pool.tasks, ∃ again ∈ pool.tasks, again.prog = .ret (.ok ()) ∧
    again.phase.write.accountId = task.phase.write.accountId ∧
    again.phase.write.idempotencyKey = task.phase.write.idempotencyKey

def CountsOnce (load : Workload) (pool : WritePool) : Prop :=
  ∀ accountId metric, total pool.store.table accountId metric =
    ((keysOf pool accountId).map (load.share accountId metric)).sum

/-- The keys that the rows of an account have counted. -/
def countedKeys (table : Store) (accountId : String) : List String :=
  (table.rows.filter fun row => row.accountId = accountId).flatMap StatsDiffRow.history

theorem mem_countedKeys {accountId key : String} : key ∈ countedKeys table accountId ↔
    ∃ row ∈ table.rows, row.accountId = accountId ∧ key ∈ row.history := by
  simp [countedKeys, and_assoc]

theorem Counted.total_eq (h : Counted load table) (accountId : String) (metric : StatsMetric) :
    total table accountId metric =
      ((countedKeys table accountId).map (load.share accountId metric)).sum := by
  have hrows : ∀ row ∈ table.rows.filter fun row => row.accountId = accountId,
      (row.metrics metric).getD 0 = (row.history.map (load.share accountId metric)).sum := by
    intro row hrow
    obtain ⟨hrow, haccount⟩ := List.mem_filter.mp hrow
    rw [h.metrics row hrow metric, of_decide_eq_true haccount]
  unfold total countedKeys
  rw [List.map_congr_left hrows, List.map_flatMap, List.flatMap_def, List.sum_flatten, List.map_map]
  rfl

theorem Counted.countedKeys_nodup (h : Counted load table) (accountId : String) :
    (countedKeys table accountId).Nodup := by
  refine List.nodup_flatMap.mpr ⟨fun row hrow => h.nodup row (List.mem_filter.mp hrow).1, ?_⟩
  have hdistinct := List.pairwise_map.mp table.distinct
  refine (hdistinct.filter _).imp_of_mem fun {row row'} hrow hrow' hne => ?_
  obtain ⟨hrow, haccount⟩ := List.mem_filter.mp hrow
  obtain ⟨hrow', haccount'⟩ := List.mem_filter.mp hrow'
  have hsame : row.accountId = row'.accountId :=
    (of_decide_eq_true haccount).trans (of_decide_eq_true haccount').symm
  intro key hkey hkey'
  have hdate := h.apart row hrow row' hrow' hsame key hkey hkey'
  exact hne (by rw [rowKey, rowKey, hsame, hdate])

/-- **Every key is counted once.** In every run of writes, whatever fails, crashes or reads an
earlier table, the sum of each counter is that of the deltas of the distinct keys once every write
has returned ok, provided that no key is counted on a second day. -/
theorem counted_once (load : Workload) (pool : WritePool)
    (h : Reaches service monitor (oneDay load) noStats pool) (hok : AllReturned pool) :
    CountsOnce load pool := by
  intro accountId metric
  have hstart : Inv load noStats.store noStats.views := by
    refine ⟨⟨?_, ?_, ?_, ?_⟩, ?_, ?_, ?_, ?_⟩ <;> exact fun _ hmem => absurd hmem List.not_mem_nil
  obtain ⟨hobeys, hinv⟩ := Reaches.invariant (inv_keeps load)
    (fun _ hmem => absurd hmem List.not_mem_nil) hstart h
  rw [hinv.counted.total_eq]
  refine List.Perm.sum_eq (List.Perm.map _ ?_)
  refine (List.perm_ext_iff_of_nodup (hinv.counted.countedKeys_nodup accountId)
    (List.nodup_dedup _)).mpr fun key => ?_
  rw [mem_countedKeys]
  constructor
  · intro ⟨row, hrow, haccount, hkey⟩
    obtain ⟨view, hview, haccount', rfl⟩ := hinv.started row hrow key hkey
    obtain ⟨task, htask, rfl⟩ := List.mem_map.mp hview
    refine List.mem_dedup.mpr (List.mem_map_of_mem (List.mem_filter.mpr ⟨?_, ?_⟩))
    · exact List.mem_map_of_mem (f := fun task : Task _ _ _ Phase => task.phase.write) htask
    · exact decide_eq_true (haccount'.trans haccount)
  · intro hkey
    obtain ⟨write, hwrite, rfl⟩ := List.mem_map.mp (List.mem_dedup.mp hkey)
    obtain ⟨hwrite, haccount⟩ := List.mem_filter.mp hwrite
    obtain ⟨task, htask, rfl⟩ := List.mem_map.mp hwrite
    obtain ⟨again, hagain, hret, hsame, hkey⟩ := hok task htask
    have hcounted := hobeys again hagain
    rw [hret] at hcounted
    have hbacked := hinv.backed again.view (List.mem_map_of_mem hagain)
    rw [Task.view, hcounted rfl] at hbacked
    obtain ⟨row, hrow, hmem⟩ := hbacked
    refine ⟨row, KeyedTable.mem_rows_of_get hrow, ?_, hkey ▸ hmem⟩
    have hrowKey := congrArg Prod.fst (KeyedTable.key_of_get hrow)
    exact (hrowKey.trans hsame).trans (of_decide_eq_true haccount)

/-! ## A redelivery after midnight -/

def oneMessage : Workload where
  keys := fun _ => ["msg-1"]
  few := fun _ => by decide
  deltas := fun _ _ => (.allowed, 1)

def writeOn (date : String) : DiffWrite := ⟨"acct-1", date, .allowed, 1, "msg-1"⟩

theorem oneMessage_has (date : String) : oneMessage.Has (writeOn date) :=
  ⟨List.mem_singleton_self _, rfl⟩

def deliver (date : String) : Move Cmd Cmd.Answer (Except DbError Unit) Turn Phase :=
  .spawn (writeDiffMetric (writeOn date)) (.writing (writeOn date))

def done : Turn := ⟨.done, none⟩

/-- A write that has returned ok. -/
def returned (date : String) : Task Cmd Cmd.Answer (Except DbError Unit) Phase :=
  ⟨.ret (.ok ()), .counted (writeOn date), true⟩

theorem allReturned {pool : WritePool} {date date' : String}
    (h : pool.tasks = [returned date, returned date']) : AllReturned pool := by
  intro task htask
  refine ⟨task, htask, ?_, rfl, rfl⟩
  rw [h] at htask
  obtain rfl | htask := List.mem_cons.mp htask
  · rfl
  · rw [List.mem_singleton.mp htask]
    rfl

/-- The first write of a day creates the row, and its redelivery finds the key there. -/
theorem counted_once_redelivered : ∃ pool : WritePool,
    pool.tasks = [returned "2026-03-01", returned "2026-03-01"] ∧
      total pool.store.table "acct-1" .allowed = 1 ∧ CountsOnce oneMessage pool := by
  have hfirst : Reaches service monitor (oneDay oneMessage) noStats _ :=
    .tail .refl (m := deliver "2026-03-01") ⟨_, oneMessage_has _, rfl, rfl⟩ rfl
  have hmissed := hfirst.step (i := 0) (f := done) rfl fun hcommits => by
    obtain ⟨-, row, hrow, -⟩ := hcommits
    cases hrow
  have hlooked := hmissed.step (i := 0) (f := done) rfl fun hcommits => hcommits.elim
  have hcreated := hlooked.step (i := 0) (f := done) rfl fun _ _ _ => by
    intro ⟨row, hrow, _⟩
    cases hrow
  have hsecond : Reaches service monitor (oneDay oneMessage) noStats _ :=
    .tail hcreated (m := deliver "2026-03-01") ⟨_, oneMessage_has _, rfl, rfl⟩ rfl
  have hcounted := hsecond.step (i := 1) (f := done) rfl fun hcommits => by
    obtain ⟨-, row, hrow, hkey⟩ := hcommits
    cases hrow
    exact absurd (List.mem_singleton_self _) hkey
  have hfound := hcounted.step (i := 1) (f := done) rfl fun hcommits => hcommits.elim
  exact ⟨_, rfl, rfl, counted_once _ _ hfound (allReturned rfl)⟩

/-- The write is counted on one day, and its redelivery after midnight on the next. -/
theorem midnight_counts_twice : ¬ ∀ load pool,
    Reaches service monitor (anyDay load) noStats pool → AllReturned pool → CountsOnce load pool := by
  intro hall
  have hfirst : Reaches service monitor (anyDay oneMessage) noStats _ :=
    .tail .refl (m := deliver "2026-03-01") ⟨_, oneMessage_has _, rfl, rfl⟩ rfl
  have hmissed := hfirst.step (i := 0) (f := done) rfl trivial
  have hlooked := hmissed.step (i := 0) (f := done) rfl trivial
  have hcreated := hlooked.step (i := 0) (f := done) rfl trivial
  have hsecond : Reaches service monitor (anyDay oneMessage) noStats _ :=
    .tail hcreated (m := deliver "2026-03-02") ⟨_, oneMessage_has _, rfl, rfl⟩ rfl
  have hmissed' := hsecond.step (i := 1) (f := done) rfl trivial
  have hlooked' := hmissed'.step (i := 1) (f := done) rfl trivial
  have hcreated' := hlooked'.step (i := 1) (f := done) rfl trivial
  have htotal := hall _ _ hcreated' (@allReturned _ "2026-03-01" "2026-03-02" rfl) "acct-1" .allowed
  exact absurd htotal (by decide)

end SesEmailAdapter.Database.StatsWriter
