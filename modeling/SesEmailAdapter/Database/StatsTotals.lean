import SesEmailAdapter.Database.StatsWriter

/-! # Totals

The running total of a metric over the rows of an account, and what a write that meets no failure
adds to it: its delta, unless the row of its day has counted its key. -/

namespace SesEmailAdapter.Database.StatsTotals
open Lib
open Database.SignalsTable (WriteError)
open Database.StatsWriter

/-! ## Totals of tables -/

def share (accountId : String) (metric : StatsMetric) (row : StatsDiffRow) : Int :=
  if row.accountId = accountId then (row.metrics metric).getD 0 else 0

def total (table : Store) (accountId : String) (metric : StatsMetric) : Int :=
  table.sum (share accountId metric)

/-- What a write adds, where it counts. -/
def added (accountId : String) (metric : StatsMetric) (write : DiffWrite) : Int :=
  if write.accountId = accountId ∧ write.metric = metric then write.delta else 0

/-- The row of the day has not counted the key. -/
def Fresh (table : Store) (write : DiffWrite) : Prop :=
  write.idempotencyKey ∉ (rowOf table write).history

instance (table : Store) (write : DiffWrite) : Decidable (Fresh table write) :=
  inferInstanceAs (Decidable (_ ∉ _))

variable {write : DiffWrite}

theorem share_add {row : StatsDiffRow}
    (haccount : row.accountId = write.accountId) (accountId : String) (metric : StatsMetric) :
    share accountId metric (row.add write) =
      share accountId metric row + added accountId metric write := by
  have hsame : (row.add write).accountId = row.accountId := rfl
  simp only [share, added, hsame, haccount]
  by_cases hin : write.accountId = accountId
  · rw [if_pos hin, if_pos hin]
    by_cases hmetric : write.metric = metric
    · subst hmetric
      simp [hin, StatsDiffRow.add]
    · simp [StatsDiffRow.add, Function.update_of_ne (Ne.symm hmetric), hmetric]
  · simp [hin]

theorem share_rowOf (table : Store) (write : DiffWrite) (accountId : String)
    (metric : StatsMetric) :
    (table.get write.row).elim 0 (share accountId metric) =
      share accountId metric (rowOf table write) := by
  unfold rowOf
  cases table.get write.row with
  | none => simp [share]
  | some row => rfl

theorem total_count (table : Store) (write : DiffWrite) (accountId : String)
    (metric : StatsMetric) :
    total (count table write) accountId metric =
      total table accountId metric + added accountId metric write := by
  have hkey : rowKey ((rowOf table write).add write) = write.row := rowKey_rowOf
  rw [total, count, KeyedTable.sum_put, hkey, share_rowOf, share_add rowOf_accountId, total]
  omega

/-- Forgetting keys leaves the counters. -/
theorem total_trim (table : Store) (key : RowKey) (accountId : String) (metric : StatsMetric) :
    total (exec (.trim key) table).2 accountId metric = total table accountId metric := by
  simp only [exec]
  cases hget : table.get key with
  | none => rfl
  | some row =>
    obtain rfl := KeyedTable.key_of_get hget
    have hkey : rowKey { row with history := row.history.drop 10 } = rowKey row := rfl
    have hshare : share accountId metric { row with history := row.history.drop 10 } =
        share accountId metric row := rfl
    simp only [total]
    rw [KeyedTable.sum_put, hkey, hget, hshare, Option.elim_some]
    omega

/-! ## The write without failures -/

/-- The totals of one table are those of another with the delta of a write that counts there. -/
def Adds (write : DiffWrite) (table table' : Store) : Prop :=
  ∀ accountId metric, total table' accountId metric =
    total table accountId metric + if Fresh table write then added accountId metric write else 0

theorem trimHistory_totals (key : RowKey) (w : World) (accountId : String)
    (metric : StatsMetric) :
    total ((trimHistory key).eval service w).2.table accountId metric =
      total w.table accountId metric := by
  show total (((if _ ≤ HISTORY_LIMIT then _ else _ : DbProg Unit).eval service w).2.table) _ _ = _
  split
  · rfl
  · exact total_trim w.table key accountId metric

theorem update_usual (w : World) (write : DiffWrite) :
    (Fresh w.table write ∧ (∃ row, w.table.get write.row = some row) ∧
      service.settle (.update write) w service.usual =
        (.ok (), ⟨count w.table write, w.table :: w.past⟩)) ∨
    ((∀ row, w.table.get write.row = some row → write.idempotencyKey ∈ row.history) ∧
      service.settle (.update write) w service.usual =
        (.error .conditionFailed, ⟨w.table, w.table :: w.past⟩)) := by
  rcases exec_update w.table write with ⟨row, hrow, hfresh, hexec⟩ | ⟨hkey, hexec⟩
  · refine .inl ⟨?_, ⟨row, hrow⟩, by simp [service, settle, settleRequest, hexec]⟩
    rw [Fresh, rowOf, hrow]
    exact hfresh
  · exact .inr ⟨hkey, by simp [service, settle, settleRequest, hexec]⟩

theorem history_usual (w : World) (key : RowKey) :
    service.settle (.getHistory key) w service.usual =
      (.ok ((w.table.get key).map StatsDiffRow.history), w) := rfl

theorem put_usual {w : World} (hnone : w.table.get write.row = none) :
    service.settle (.put write) w service.usual =
      (.ok (), ⟨count w.table write, w.table :: w.past⟩) := by
  rcases exec_put w.table write with ⟨-, hexec⟩ | ⟨⟨row, hrow⟩, -⟩
  · simp [service, settle, settleRequest, hexec]
  · rw [hnone] at hrow
    cases hrow

theorem fresh_of_none {table : Store} (hnone : table.get write.row = none) :
    Fresh table write := by
  simp [Fresh, rowOf, hnone]

theorem adds_count {table : Store} (hfresh : Fresh table write) :
    Adds write table (count table write) := by
  intro accountId metric
  rw [total_count, if_pos hfresh]

theorem adds_same {table : Store} (hseen : ¬ Fresh table write) :
    Adds write table table := by
  intro accountId metric
  rw [if_neg hseen]
  omega

/-- **A write without failures** adds its delta once a day for each key. -/
theorem writeDiffMetric_adds (write : DiffWrite) (w : World) :
    Adds write w.table ((writeDiffMetric write).eval service w).2.table := by
  rcases update_usual w write with ⟨hfresh, -, hstep⟩ | ⟨hkey, hstep⟩
  · simp only [writeDiffMetric, request, Prog.perform, Prog.call_bind, Prog.ret_bind,
      Prog.eval_call, hstep]
    intro accountId metric
    rw [Prog.eval_bind, Prog.pure_eq, Prog.eval_ret, trimHistory_totals]
    exact adds_count hfresh accountId metric
  · simp only [writeDiffMetric, request, Prog.perform, Prog.call_bind, Prog.ret_bind,
      Prog.eval_call, hstep, history_usual]
    -- The update fails where there is no row or where the key is counted.
    cases hrow : w.table.get write.row with
    | none =>
      have hput := put_usual (w := ⟨w.table, w.table :: w.past⟩) hrow
      simp only [Option.map_none, createRow, request, Prog.perform, Prog.call_bind, Prog.ret_bind,
        Prog.eval_call, hput, Prog.pure_eq, Prog.eval_ret]
      exact adds_count (fresh_of_none hrow)
    | some row =>
      have hseen := hkey row hrow
      simp only [Option.map_some, if_pos hseen, Prog.pure_eq, Prog.eval_ret]
      refine adds_same fun hfresh => hfresh ?_
      rw [rowOf, hrow]
      exact hseen

end SesEmailAdapter.Database.StatsTotals
