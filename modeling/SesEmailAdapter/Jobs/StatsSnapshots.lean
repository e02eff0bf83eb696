import SesEmailAdapter.Database.StatsAggregation
import SesEmailAdapter.Lib.DigitText
import SesEmailAdapter.Lib.Runs

/-! # Monthly snapshots

The job that writes the snapshot of a month, over the stats rows of one account. It adds up the rows
from the previous month on, so that it relies on the snapshot of that month for everything before. -/

namespace SesEmailAdapter.Jobs.StatsSnapshots
open Lib Lib.DigitText
open Database.StatsWriter (StatsMetric StatsDiffRow DiffWrite newDiffRow)
open Database.StatsAggregation

/-! ## Dates -/

/-- Months are counted from the first one of the year 0. -/
structure Month where
  index : Nat
  bound : index < 120000
deriving DecidableEq, Repr

def Month.chars (m : Month) : List Char :=
  digits 4 (m.index / 12) ++ '-' :: digits 2 (m.index % 12 + 1)

/-- `toFormat("yyyy-MM")` -/
def Month.text (m : Month) : String := String.ofList m.chars

/-- `minus({ months: 1 })` -/
def Month.previous (m : Month) : Month := ⟨m.index - 1, by have := m.bound; omega⟩

structure Day where
  month : Month
  day : Nat
  bound : 1 ≤ day ∧ day ≤ 31
deriving DecidableEq, Repr

def Day.chars (d : Day) : List Char := d.month.chars ++ '-' :: digits 2 d.day

/-- `toISODate()` -/
def Day.text (d : Day) : String := String.ofList d.chars

theorem place_digits {width n : Nat} (h : n < 10 ^ width) :
    List.Forall₂ Place (List.replicate width '9') (digits width n) := by
  refine List.forall₂_iff_get.mpr ⟨by simp, fun i hi hj => ?_⟩
  have hdigit := isDigit_of_mem h _ (List.get_mem (digits width n) ⟨i, hj⟩)
  rw [List.get_eq_getElem, List.getElem_replicate, Place, if_pos rfl]
  exact hdigit

theorem Month.year_lt (m : Month) : m.index / 12 < 10 ^ 4 := by
  have := m.bound
  omega

theorem Month.month_lt (m : Month) : m.index % 12 + 1 < 10 ^ 2 := by omega

theorem Day.day_lt (d : Day) : d.day < 10 ^ 2 := by
  have := d.bound
  omega

@[simp] theorem Month.toList_text (m : Month) : m.text.toList = m.chars := String.toList_ofList

@[simp] theorem Day.toList_text (d : Day) : d.text.toList = d.chars := String.toList_ofList

theorem Month.fits (m : Month) : Fits "9999-99" m.text := by
  unfold Fits
  rw [m.toList_text]
  exact List.rel_append (place_digits m.year_lt) (.cons rfl (place_digits m.month_lt))

theorem Day.fits (d : Day) : Fits "9999-99-99" d.text := by
  have hmonth := d.month.fits
  unfold Fits at hmonth ⊢
  rw [d.month.toList_text] at hmonth
  rw [d.toList_text]
  exact List.rel_append hmonth (.cons rfl (place_digits d.day_lt))

/-- Months are in the order of their texts, and then comes what follows. -/
theorem Month.chars_append_lt_iff (m m' : Month) (s t : List Char) :
    m.chars ++ s < m'.chars ++ t ↔ m.index < m'.index ∨ (m = m' ∧ s < t) := by
  have hsame : m = m' ↔ m.index = m'.index := by
    cases m
    cases m'
    simp
  rw [Month.chars, Month.chars, List.append_assoc, List.append_assoc,
    digits_append_lt_iff m.year_lt m'.year_lt, List.cons_append, List.cons_append,
    List.cons_lt_cons_iff, digits_append_lt_iff m.month_lt m'.month_lt, hsame]
  simp only [Char.lt_irrefl, false_or, true_and]
  constructor
  · rintro (h | ⟨h, h' | ⟨h', hst⟩⟩)
    · left; omega
    · left; omega
    · right; exact ⟨by omega, hst⟩
  · rintro (h | ⟨h, hst⟩)
    · by_cases hyear : m.index / 12 < m'.index / 12
      · exact .inl hyear
      · exact .inr ⟨by omega, .inl (by omega)⟩
    · exact .inr ⟨by omega, .inr ⟨by omega, hst⟩⟩

theorem Month.text_lt_iff (m m' : Month) : m.text < m'.text ↔ m.index < m'.index := by
  have h := m.chars_append_lt_iff m' [] []
  rw [String.lt_iff_toList_lt]
  simpa using h

theorem Month.text_le_iff (m m' : Month) : m.text ≤ m'.text ↔ m.index ≤ m'.index := by
  have h := m'.text_lt_iff m
  rw [← not_lt, h, not_lt]

theorem Month.text_injective {m m' : Month} (h : m.text = m'.text) : m = m' := by
  have hle := (m.text_le_iff m').mp h.le
  have hge := (m'.text_le_iff m).mp h.ge
  cases m
  cases m'
  simp only [Month.mk.injEq]
  exact Nat.le_antisymm hle hge

theorem Month.length_chars (m : Month) : m.chars.length = 7 := by simp [Month.chars]

@[simp] theorem Day.monthOf_text (d : Day) : monthOf d.text = d.month.text := by
  rw [monthOf, d.toList_text, Day.chars, ← d.month.length_chars, List.take_left, Month.text]

/-! ## Keys -/

theorem stats_lt_iff (s t : String) : "STATS#" ++ s < "STATS#" ++ t ↔ s.toList < t.toList := by
  have hfront : "STATS#".toList = ['S', 'T', 'A', 'T', 'S', '#'] := by decide
  rw [String.lt_iff_toList_lt, String.toList_append, String.toList_append, hfront]
  simp

/-- The snapshot of a month comes right before its days. -/
theorem snapshotSk_lt_diffSk (m : Month) (d : Day) :
    buildSnapshotSk m.text < buildDiffSk d.text ↔ m.index ≤ d.month.index := by
  have hzero : "-00-SNAPSHOT".toList = '-' :: (digits 2 0 ++ "-SNAPSHOT".toList) := by decide
  have hfirst : "-00-SNAPSHOT".toList < '-' :: digits 2 d.day := by
    rw [hzero, List.cons_lt_cons_iff]
    refine .inr ⟨rfl, ?_⟩
    have hday := digits_append_lt_iff (n := 0) (m := d.day) (by decide) d.day_lt
      "-SNAPSHOT".toList []
    rw [List.append_nil] at hday
    exact hday.mpr (.inl d.bound.1)
  rw [buildSnapshotSk, buildDiffSk, String.append_assoc, stats_lt_iff, String.toList_append,
    m.toList_text, d.toList_text, Day.chars, m.chars_append_lt_iff]
  constructor
  · rintro (h | ⟨rfl, -⟩)
    · exact h.le
    · exact le_rfl
  · intro h
    obtain h | h := h.lt_or_eq
    · exact .inl h
    · refine .inr ⟨?_, hfirst⟩
      cases m
      cases hd : d.month
      simp_all

theorem snapshotSk_lt_iff (m m' : Month) :
    buildSnapshotSk m.text < buildSnapshotSk m'.text ↔ m.index < m'.index := by
  rw [buildSnapshotSk, buildSnapshotSk, String.append_assoc, String.append_assoc, stats_lt_iff,
    String.toList_append, String.toList_append, m.toList_text, m'.toList_text,
    m.chars_append_lt_iff]
  simp

theorem snapshotSk_le_iff (m m' : Month) :
    buildSnapshotSk m.text ≤ buildSnapshotSk m'.text ↔ m.index ≤ m'.index := by
  rw [← not_lt, snapshotSk_lt_iff, not_lt]

/-! ## The rows of an account -/

/-- The row of a day or of a month that there is. -/
def Dated (row : StatsRow) : Prop :=
  (∃ d : Day, row.sk = buildDiffSk d.text) ∨ ∃ m : Month, row.sk = buildSnapshotSk m.text

abbrev Rows := KeyedTable StatsRow.sk

def dayRow (d : Day) (metrics : StatsMetric → Option Int) : StatsRow where
  sk := buildDiffSk d.text
  metrics := metrics
  keyed := .inl ⟨d.text, d.fits, rfl⟩

def snapshotRow (m : Month) (metrics : StatsMetric → Int) : StatsRow where
  sk := buildSnapshotSk m.text
  metrics metric := some (metrics metric)
  keyed := .inr ⟨m.text, m.fits, rfl⟩

def addMetric (metrics : StatsMetric → Option Int) (metric : StatsMetric) (delta : Int) :
    StatsMetric → Option Int :=
  Function.update metrics metric (some ((metrics metric).getD 0 + delta))

/-- What a write that is counted does to the row of its day. -/
def count (rows : Rows) (d : Day) (metric : StatsMetric) (delta : Int) : Rows :=
  let metrics := ((rows.get (buildDiffSk d.text)).map StatsRow.metrics).getD fun _ => none
  rows.put (dayRow d (addMetric metrics metric delta))

/-- The rows from a key on, in the order of the keys and up to the end of a page. -/
def getStats (rows : Rows) (fromSk : String) (page : Nat) : List StatsRow :=
  (sortBy StatsRow.sk (rows.rows.filter fun row => fromSk ≤ row.sk)).take page

/-! ## The job -/

/-- What the loop of the job has gathered. -/
structure Gathered where
  latestSnapshot : Option (StatsMetric → Option Int)
  snapshotMonth : Option String
  diffs : List (StatsMetric → Option Int)

/-- A day before the current month, and not before that of the snapshot. -/
def counted (currentMonth : String) (snapshotMonth : Option String) (row : StatsRow) : Bool :=
  rowMonth row < currentMonth && snapshotMonth.all fun month => month ≤ rowMonth row

def gather (currentMonth : String) (gathered : Gathered) (row : StatsRow) : Gathered :=
  if isSnapshotRow row then
    { gathered with
      latestSnapshot := some row.metrics
      snapshotMonth := some (monthFromSnapshotSk row.sk) }
  else if counted currentMonth gathered.snapshotMonth row then
    { gathered with diffs := gathered.diffs ++ [row.metrics] }
  else gathered

/-- The metrics of the snapshot that is to be written; none if it is there. -/
def ensureStatsSnapshot (currentMonth : String) (rows : List StatsRow) :
    Option (StatsMetric → Int) :=
  if rows.any fun row => row.sk = buildSnapshotSk currentMonth then none
  else
    let gathered := rows.foldl (gather currentMonth) ⟨none, none, []⟩
    some (computeSnapshot gathered.latestSnapshot gathered.diffs)

structure Stats where
  rows : Rows
  today : Month

inductive Event
  /-- A write that is counted, on a day of its own. -/
  | write (d : Day) (metric : StatsMetric) (delta : Int)
  | month (next : Month)
  /-- A run of the job, with the page that its query returns, if it does. -/
  | job (page : Option Nat) (fate : Fate)

def Stats.fetched (s : Stats) (page : Nat) : List StatsRow :=
  getStats s.rows (buildSnapshotSk s.today.previous.text) page

def Stats.step (s : Stats) : Event → Stats
  | .write d metric delta => { s with rows := count s.rows d metric delta }
  | .month next => if s.today.index ≤ next.index then { s with today := next } else s
  | .job page fate => match page with
    | none => s
    | some page => match ensureStatsSnapshot s.today.text (s.fetched page) with
      | none => s
      | some metrics =>
        if fate = .refused then s else { s with rows := s.rows.put (snapshotRow s.today metrics) }

/-! ## What is to hold -/

def sumOf (rows : List StatsRow) (p : String → Bool) (metric : StatsMetric) : Int :=
  ((rows.filter fun row => !isSnapshotRow row && p (rowMonth row)).map (value metric)).sum

/-- The sum of the days before a month. -/
def before (rows : List StatsRow) (m : Month) : StatsMetric → Int :=
  sumOf rows fun month => month < m.text

def allTime (rows : List StatsRow) : StatsMetric → Int := sumOf rows fun _ => true

/-- A suffix of the rows in which the latest snapshot is. -/
def Served (rows : List StatsRow) (served : List StatsRow) : Prop :=
  served <:+ sortBy StatsRow.sk rows ∧ ∃ snapshot ∈ served, isSnapshotRow snapshot = true ∧
    ∀ row ∈ rows, isSnapshotRow row = true → row.sk ≤ snapshot.sk

structure Lossless (s : Stats) : Prop where
  snapshots : ∀ (m : Month) row, s.rows.get (buildSnapshotSk m.text) = some row →
    ∀ metric, row.metrics metric = some (before s.rows.rows m metric)
  totals : ∀ served, Served s.rows.rows served → (aggregateStatsRows served).totals =
    ⟨allTime s.rows.rows .allowed, allTime s.rows.rows .quarantined, allTime s.rows.rows .blocked,
      allTime s.rows.rows .totalAliases⟩

/-- Writes are not dated before the month of a snapshot, and the job sees all rows it asks for and
has the snapshot of the previous month, or nothing is dated before it. -/
def InOrder (s : Stats) : Event → Prop
  | .write d _ _ => ∀ (m : Month) row, s.rows.get (buildSnapshotSk m.text) = some row →
      m.index ≤ d.month.index
  | .month _ => True
  | .job page fate => ∀ n, page = some n → fate ≠ .refused →
      (s.rows.rows.filter fun row => buildSnapshotSk s.today.previous.text ≤ row.sk).length ≤ n ∧
      ((s.rows.get (buildSnapshotSk s.today.previous.text)).isSome ∨
        ∀ row ∈ s.rows.rows, ¬ isSnapshotRow row → s.today.previous.text ≤ rowMonth row)

structure Inv (s : Stats) : Prop where
  dated : ∀ row ∈ s.rows.rows, Dated row
  past : ∀ (m : Month) row, s.rows.get (buildSnapshotSk m.text) = some row →
    m.index ≤ s.today.index
  exact : ∀ (m : Month) row, s.rows.get (buildSnapshotSk m.text) = some row →
    ∀ metric, row.metrics metric = some (before s.rows.rows m metric)

/-! ## Days and snapshots -/

variable {s : Stats} {rows : Rows} {row : StatsRow} {d : Day} {m : Month}

theorem not_isSnapshotRow_of_sk (h : row.sk = buildDiffSk d.text) : ¬ isSnapshotRow row = true := by
  intro hsnapshot
  obtain ⟨hfits, hsk⟩ := snapshotSk_of_isSnapshotRow hsnapshot
  have htext := congrArg (fun text => text.toList.length) (h.symm.trans hsk)
  simp [buildDiffSk, buildSnapshotSk, Day.chars, Month.length_chars] at htext

theorem rowMonth_of_sk (h : row.sk = buildDiffSk d.text) : rowMonth row = d.month.text := by
  have hdate : dateFromDiffSk row.sk = d.text := by
    rw [h, dateFromDiffSk, buildDiffSk, String.toList_append,
      show "STATS#".toList = ['S', 'T', 'A', 'T', 'S', '#'] by decide]
    simp [Day.text]
  rw [rowMonth, hdate, d.monthOf_text]

theorem Dated.day (h : Dated row) (hday : ¬ isSnapshotRow row = true) :
    ∃ d : Day, row.sk = buildDiffSk d.text ∧ rowMonth row = d.month.text := by
  obtain ⟨d, hsk⟩ | ⟨m, hsk⟩ := h
  · exact ⟨d, hsk, rowMonth_of_sk hsk⟩
  · exact absurd (isSnapshotRow_of_sk hsk) hday

theorem Dated.month (h : Dated row) (hsnapshot : isSnapshotRow row = true) :
    ∃ m : Month, row.sk = buildSnapshotSk m.text := by
  obtain ⟨d, hsk⟩ | hmonth := h
  · exact absurd hsnapshot (not_isSnapshotRow_of_sk hsk)
  · exact hmonth

theorem mem_of_get {sk : String} (h : rows.get sk = some row) : row ∈ rows.rows ∧ row.sk = sk :=
  ⟨KeyedTable.mem_rows_of_get h, KeyedTable.key_of_get h⟩

theorem get_of_mem (h : row ∈ rows.rows) {sk : String} (hsk : row.sk = sk) :
    rows.get sk = some row := hsk ▸ KeyedTable.mem_rows_iff.mp h

/-! ## Writes -/

variable {metric : StatsMetric} {days : List StatsRow}

/-- A row counts for nothing in a sum that leaves out the rows of its key. -/
theorem sumOf_put {p : String → Bool}
    (h : ∀ other, other.sk = row.sk → isSnapshotRow other = true ∨ p (rowMonth other) = false) :
    sumOf (rows.put row).rows p metric = sumOf rows.rows p metric := by
  have hout (other : StatsRow) (hsk : other.sk = row.sk) :
      (!isSnapshotRow other && p (rowMonth other)) = false := by
    obtain hsnapshot | hp := h other hsk
    · simp [hsnapshot]
    · simp [hp]
  have hfilter : (rows.put row).rows.filter (fun row => !isSnapshotRow row && p (rowMonth row)) =
      rows.rows.filter (fun row => !isSnapshotRow row && p (rowMonth row)) := by
    show (row :: rows.rows.filter _).filter _ = _
    rw [List.filter_cons, hout row rfl, List.filter_filter]
    refine List.filter_congr fun other _ => ?_
    by_cases hsk : other.sk = row.sk
    · rw [hout other hsk]
      rfl
    · simp [hsk]
  rw [sumOf, hfilter, sumOf]

theorem before_put_day {metrics : StatsMetric → Option Int} (h : m.index ≤ d.month.index) :
    before (rows.put (dayRow d metrics)).rows m = before rows.rows m := by
  funext metric
  refine sumOf_put fun other hsk => .inr (decide_eq_false fun hlt => ?_)
  rw [rowMonth_of_sk hsk, Month.text_lt_iff] at hlt
  exact absurd h (not_le.mpr hlt)

variable {metrics : StatsMetric → Int}

theorem before_put_snapshot {m' : Month} :
    before (rows.put (snapshotRow m' metrics)).rows m = before rows.rows m := by
  funext metric
  exact sumOf_put fun other hsk => .inl (isSnapshotRow_of_sk hsk)

/-- A write on a day keeps the snapshots of the months up to it. -/
theorem Inv.write (h : Inv s) {delta : Int}
    (horder : ∀ (m : Month) row, s.rows.get (buildSnapshotSk m.text) = some row →
      m.index ≤ d.month.index) : Inv (s.step (.write d metric delta)) := by
  obtain ⟨metrics, hput⟩ : ∃ metrics, (s.step (.write d metric delta)).rows =
      s.rows.put (dayRow d metrics) := ⟨_, rfl⟩
  have hget (m : Month) : (s.step (.write d metric delta)).rows.get (buildSnapshotSk m.text) =
      s.rows.get (buildSnapshotSk m.text) := by
    rw [hput]
    refine KeyedTable.get_put_ne _ _ fun hsk => ?_
    have hnot : ¬ isSnapshotRow (dayRow d metrics) = true := not_isSnapshotRow_of_sk rfl
    exact hnot (isSnapshotRow_of_sk hsk.symm)
  refine ⟨fun row hrow => ?_, fun m row hrow => ?_, fun m row hrow metric => ?_⟩
  · rw [hput] at hrow
    obtain rfl | ⟨hrow, -⟩ := KeyedTable.mem_put.mp hrow
    · exact .inl ⟨d, rfl⟩
    · exact h.dated row hrow
  · rw [hget] at hrow
    exact h.past m row hrow
  · rw [hget] at hrow
    rw [hput, before_put_day (horder m row hrow)]
    exact h.exact m row hrow metric

/-! ## Runs of the job -/

/-- What the loop gathers from days. -/
theorem foldl_gather {currentMonth : String}
    (h : ∀ row ∈ days, ¬ isSnapshotRow row = true) (gathered : Gathered) :
    days.foldl (gather currentMonth) gathered =
      { gathered with
        diffs := gathered.diffs ++
          (days.filter (counted currentMonth gathered.snapshotMonth)).map StatsRow.metrics } := by
  induction days generalizing gathered with
  | nil => simp
  | cons row days ih =>
    obtain ⟨hrow, hdays⟩ := List.forall_mem_cons.mp h
    rw [List.foldl_cons, ih hdays, gather, if_neg hrow]
    split
    · next hcond => simp [hcond]
    · next hcond => rw [List.filter_cons_of_neg hcond]

theorem sum_values (days : List StatsRow) (metric : StatsMetric) :
    ((days.map StatsRow.metrics).map fun diff => (diff metric).getD 0).sum =
      (days.map (value metric)).sum := by
  rw [List.map_map]
  rfl

/-- The rows that the job asks for. -/
def requested (s : Stats) : List StatsRow :=
  s.rows.rows.filter fun row => buildSnapshotSk s.today.previous.text ≤ row.sk

theorem requested_nodup (s : Stats) : ((requested s).map StatsRow.sk).Nodup :=
  s.rows.distinct.sublist (List.filter_sublist.map _)

theorem fetched_eq {page : Nat} (h : (requested s).length ≤ page) :
    s.fetched page = sortBy StatsRow.sk (requested s) := by
  refine List.take_of_length_le ?_
  rwa [(sortBy_perm _ _).length_eq]

/-- A snapshot among the requested rows is that of the previous month. -/
theorem Inv.requested_snapshot (h : Inv s)
    (habsent : s.rows.get (buildSnapshotSk s.today.text) = none) (hrow : row ∈ requested s)
    (hsnapshot : isSnapshotRow row = true) :
    row.sk = buildSnapshotSk s.today.previous.text := by
  obtain ⟨hmem, hle⟩ := List.mem_filter.mp hrow
  obtain ⟨m, hsk⟩ := (h.dated row hmem).month hsnapshot
  have hget := get_of_mem hmem hsk
  have hpast := h.past m row hget
  have hfrom : s.today.previous.index ≤ m.index := by
    rw [decide_eq_true_eq, hsk, snapshotSk_le_iff] at hle
    exact hle
  have hne : m ≠ s.today := by
    rintro rfl
    rw [hget] at habsent
    cases habsent
  have hindex : m.index ≠ s.today.index := fun heq => hne (by cases m; cases ht : s.today; simp_all)
  have hprevious : s.today.previous.index = s.today.index - 1 := rfl
  have heq : m = s.today.previous := by
    have : m.index = s.today.previous.index := by omega
    cases m
    cases ht : s.today.previous
    simp_all
  rw [hsk, heq]

/-- A day is requested just when it is not before the previous month. -/
theorem Inv.requested_day (h : Inv s) (hrow : row ∈ s.rows.rows)
    (hday : isSnapshotRow row = false) :
    buildSnapshotSk s.today.previous.text ≤ row.sk ↔ s.today.previous.text ≤ rowMonth row := by
  obtain ⟨d, hsk, hmonth⟩ := (h.dated row hrow).day (by simp [hday])
  have hlt := snapshotSk_lt_diffSk s.today.previous d
  rw [hmonth, Month.text_le_iff, ← hlt, ← hsk]
  refine ⟨fun hle => hle.lt_of_ne fun heq => ?_, le_of_lt⟩
  rw [isSnapshotRow_of_sk heq.symm] at hday
  cases hday

/-- The days of a list, up to their order. -/
def sumDays (days : List StatsRow) (p : StatsRow → Bool) (metric : StatsMetric) : Int :=
  (((days.filter fun row => !isSnapshotRow row).filter p).map (value metric)).sum

theorem Inv.sum_requested (h : Inv s) (p : String → Bool) (metric : StatsMetric) :
    sumDays (sortBy StatsRow.sk (requested s)) (fun row => p (rowMonth row)) metric =
      sumOf s.rows.rows (fun month => decide (s.today.previous.text ≤ month) && p month) metric := by
  have hperm := ((sortBy_perm StatsRow.sk (requested s)).filter
    fun row => !isSnapshotRow row).filter fun row => p (rowMonth row)
  have hfilter : ((requested s).filter fun row => !isSnapshotRow row).filter
      (fun row => p (rowMonth row)) = s.rows.rows.filter fun row => !isSnapshotRow row &&
        (decide (s.today.previous.text ≤ rowMonth row) && p (rowMonth row)) := by
    rw [requested, List.filter_filter, List.filter_filter]
    refine List.filter_congr fun row hrow => ?_
    cases hday : isSnapshotRow row with
    | true => simp
    | false =>
      have hrequested : decide (buildSnapshotSk s.today.previous.text ≤ row.sk) =
          decide (s.today.previous.text ≤ rowMonth row) :=
        decide_eq_decide.mpr (h.requested_day hrow hday)
      rw [hrequested]
      cases p (rowMonth row) <;> simp
  rw [sumDays, (hperm.map (value metric)).sum_eq, hfilter, sumOf]

theorem sumOf_congr {p q : String → Bool} {rows : List StatsRow}
    (h : ∀ row ∈ rows, isSnapshotRow row = false → p (rowMonth row) = q (rowMonth row)) :
    sumOf rows p metric = sumOf rows q metric := by
  rw [sumOf, sumOf]
  congr 2
  refine List.filter_congr fun row hrow => ?_
  cases hday : isSnapshotRow row with
  | true => rfl
  | false => rw [h row hrow hday]

theorem sumOf_split {p q : String → Bool} (hnarrow : ∀ month, q month = true → p month = true)
    (rows : List StatsRow) (metric : StatsMetric) :
    sumOf rows (fun month => p month && !q month) metric + sumOf rows q metric =
      sumOf rows p metric := by
  have hsplit := sum_filter_split (p := fun row => !isSnapshotRow row && p (rowMonth row))
    (q := fun row => !isSnapshotRow row && q (rowMonth row))
    (fun row hrow => by
      rw [Bool.and_eq_true_iff] at hrow ⊢
      exact hrow.imp_right (hnarrow _)) (value metric) rows
  rw [sumOf, sumOf, sumOf, ← hsplit]
  congr 4
  funext row
  cases isSnapshotRow row <;> simp

theorem sumDays_of_days (h : ∀ row ∈ days, ¬ isSnapshotRow row = true)
    (p : StatsRow → Bool) (metric : StatsMetric) :
    sumDays days p metric = ((days.filter p).map (value metric)).sum := by
  have hdays : (days.filter fun row => !isSnapshotRow row) = days := by
    refine List.filter_eq_self.mpr fun row hrow => ?_
    simpa using h row hrow
  rw [sumDays, hdays]

theorem sum_gathered (base : Option (StatsMetric → Option Int))
    (h : ∀ row ∈ days, ¬ isSnapshotRow row = true) (p : StatsRow → Bool) (metric : StatsMetric) :
    computeSnapshot base ((days.filter p).map StatsRow.metrics) metric =
      (base.bind fun metrics => metrics metric).getD 0 + sumDays days p metric := by
  rw [computeSnapshot_apply, sum_values, sumDays_of_days h]

/-- The snapshot of the previous month comes first. -/
theorem sortBy_requested {base : StatsRow}
    (hbase : s.rows.get (buildSnapshotSk s.today.previous.text) = some base) :
    sortBy StatsRow.sk (requested s) =
      base :: sortBy StatsRow.sk ((requested s).filter fun row => row.sk ≠ base.sk) := by
  obtain ⟨hmem, hsk⟩ := mem_of_get hbase
  have hrequested : base ∈ requested s :=
    List.mem_filter.mpr ⟨hmem, decide_eq_true (le_of_eq hsk.symm)⟩
  refine (sortBy_unique (requested_nodup s) ?_ ?_).symm
  · refine (List.Perm.cons base (sortBy_perm _ _)).trans ?_
    refine ((List.perm_ext_iff_of_nodup ?_ (requested_nodup s).of_map).mpr fun row => ?_)
    · refine List.nodup_cons.mpr ⟨fun h => ?_, ((requested_nodup s).of_map).filter _⟩
      simp at h
    · rw [List.mem_cons, List.mem_filter]
      constructor
      · rintro (rfl | ⟨hrow, -⟩)
        · exact hrequested
        · exact hrow
      · intro hrow
        by_cases heq : row.sk = base.sk
        · exact .inl (List.inj_on_of_nodup_map (requested_nodup s) hrow hrequested heq)
        · exact .inr ⟨hrow, decide_eq_true heq⟩
  · refine List.pairwise_cons.mpr ⟨fun row hrow => ?_, pairwise_sortBy _ _⟩
    have hrow := (List.mem_filter.mp ((mem_sortBy _).mp hrow)).1
    rw [hsk]
    exact of_decide_eq_true (List.mem_filter.mp hrow).2

theorem absent_of_not_any {rows : List StatsRow}
    (hrows : ∀ row, row ∈ rows ↔ row ∈ requested s)
    (hnot : ¬ (rows.any fun row => row.sk = buildSnapshotSk s.today.text) = true) :
    s.rows.get (buildSnapshotSk s.today.text) = none := by
  cases hget : s.rows.get (buildSnapshotSk s.today.text) with
  | none => rfl
  | some row =>
    obtain ⟨hmem, hsk⟩ := mem_of_get hget
    refine absurd (List.any_eq_true.mpr ⟨row, (hrows row).mpr ?_, decide_eq_true hsk⟩) hnot
    refine List.mem_filter.mpr ⟨hmem, decide_eq_true ?_⟩
    rw [hsk, snapshotSk_le_iff]
    exact Nat.sub_le _ _

theorem previous_le (m : Month) : m.previous.text ≤ m.text :=
  (Month.text_le_iff _ _).mpr (Nat.sub_le _ _)

/-- The metrics that the job writes are the sums of the days before the month. -/
theorem Inv.ensure (h : Inv s) {page : Nat} (hpage : (requested s).length ≤ page)
    (hbase : (s.rows.get (buildSnapshotSk s.today.previous.text)).isSome ∨
      ∀ row ∈ s.rows.rows, ¬ isSnapshotRow row → s.today.previous.text ≤ rowMonth row)
    (hsome : ensureStatsSnapshot s.today.text (s.fetched page) = some metrics) :
    metrics = before s.rows.rows s.today := by
  rw [fetched_eq hpage, ensureStatsSnapshot] at hsome
  split at hsome
  · cases hsome
  next hnot =>
  have habsent := absent_of_not_any (fun row => mem_sortBy _) hnot
  rw [← Option.some.inj hsome]
  funext metric
  cases hget : s.rows.get (buildSnapshotSk s.today.previous.text) with
  | none =>
    have hdays : ∀ row ∈ sortBy StatsRow.sk (requested s), ¬ isSnapshotRow row = true := by
      intro row hrow hsnapshot
      have hrow := (mem_sortBy _).mp hrow
      have hsk := h.requested_snapshot habsent hrow hsnapshot
      rw [get_of_mem (List.mem_filter.mp hrow).1 hsk] at hget
      cases hget
    have hnone := hbase.resolve_left (by simp [hget])
    rw [foldl_gather hdays, List.nil_append, sum_gathered none hdays]
    have hsum := h.sum_requested (fun month => decide (month < s.today.text) && true) metric
    refine (congrArg (0 + ·) hsum).trans ?_
    rw [zero_add, before]
    refine sumOf_congr fun row hrow hday => ?_
    rw [decide_eq_true (hnone row hrow (by simp [hday])), Bool.true_and, Bool.and_true]
  | some base =>
    obtain ⟨hmem, hsk⟩ := mem_of_get hget
    have hsnapshot : isSnapshotRow base = true := isSnapshotRow_of_sk hsk
    have hmonth : monthFromSnapshotSk base.sk = s.today.previous.text := by
      rw [hsk, monthFromSnapshotSk_build (Month.fits _)]
    have hdays : ∀ row ∈ sortBy StatsRow.sk ((requested s).filter fun row => row.sk ≠ base.sk),
        ¬ isSnapshotRow row = true := by
      intro row hrow hsnapshot
      obtain ⟨hrow, hne⟩ := List.mem_filter.mp ((mem_sortBy _).mp hrow)
      exact of_decide_eq_true hne ((h.requested_snapshot habsent hrow hsnapshot).trans hsk.symm)
    have hfirst : gather s.today.text ⟨none, none, []⟩ base =
        ⟨some base.metrics, some s.today.previous.text, []⟩ := by
      rw [gather, if_pos hsnapshot, hmonth]
    have hall := h.sum_requested (fun month => decide (month < s.today.text) &&
      decide (s.today.previous.text ≤ month)) metric
    rw [sortBy_requested hget] at hall ⊢
    have hcons (p : StatsRow → Bool) (days : List StatsRow) :
        sumDays (base :: days) p metric = sumDays days p metric := by
      rw [sumDays, List.filter_cons_of_neg (by simp [hsnapshot]), sumDays]
    rw [hcons] at hall
    rw [List.foldl_cons, hfirst, foldl_gather hdays, List.nil_append, sum_gathered _ hdays]
    have hbefore : (((some base.metrics).bind fun metrics => metrics metric).getD 0 : Int) =
        before s.rows.rows s.today.previous metric := by
      rw [Option.bind_some, h.exact _ base hget metric, Option.getD_some]
    have hsplit := sumOf_split (p := fun month => decide (month < s.today.text))
      (q := fun month => decide (month < s.today.previous.text))
      (fun month hlt => decide_eq_true ((of_decide_eq_true hlt).trans_le (previous_le _)))
      s.rows.rows metric
    have hbetween : sumOf s.rows.rows (fun month => decide (s.today.previous.text ≤ month) &&
        (decide (month < s.today.text) && decide (s.today.previous.text ≤ month))) metric =
        sumOf s.rows.rows (fun month => decide (month < s.today.text) &&
          !decide (month < s.today.previous.text)) metric := by
      refine sumOf_congr fun row _ _ => ?_
      rw [← decide_not]
      by_cases hle : s.today.previous.text ≤ rowMonth row
      · rw [decide_eq_true hle, decide_eq_true (not_lt.mpr hle), Bool.true_and]
      · rw [decide_eq_false hle, decide_eq_false (not_not.mpr (not_le.mp hle)), Bool.false_and,
          Bool.and_false]
    have hcounted : counted s.today.text (some s.today.previous.text) = fun row =>
        decide (rowMonth row < s.today.text) && decide (s.today.previous.text ≤ rowMonth row) := by
      funext row
      rw [counted, Option.all_some]
    rw [hcounted, hall, hbetween, hbefore, before, before, ← hsplit, add_comm]

theorem snapshotRow_sk (m : Month) (metrics : StatsMetric → Int) :
    (snapshotRow m metrics).sk = buildSnapshotSk m.text := rfl

theorem Inv.putSnapshot (h : Inv s) (hmetrics : metrics = before s.rows.rows s.today) :
    Inv { s with rows := s.rows.put (snapshotRow s.today metrics) } := by
  have hget {m : Month} {row : StatsRow}
      (hrow : (s.rows.put (snapshotRow s.today metrics)).get (buildSnapshotSk m.text) = some row) :
      (m = s.today ∧ row = snapshotRow s.today metrics) ∨
        s.rows.get (buildSnapshotSk m.text) = some row := by
    rw [KeyedTable.get_put, snapshotRow_sk] at hrow
    split at hrow
    · next hsk =>
      exact .inl ⟨Month.text_injective (buildSnapshotSk_injective hsk), (Option.some.inj hrow).symm⟩
    · exact .inr hrow
  refine ⟨fun row hrow => ?_, fun m row hrow => ?_, fun m row hrow metric => ?_⟩
  · obtain hnew | ⟨hold, -⟩ := KeyedTable.mem_put.mp hrow
    · exact .inr ⟨s.today, by rw [hnew, snapshotRow_sk]⟩
    · exact h.dated row hold
  · obtain ⟨hm, -⟩ | hold := hget hrow
    · exact le_of_eq (congrArg Month.index hm)
    · exact h.past m row hold
  · rw [before_put_snapshot]
    obtain ⟨hm, hnew⟩ | hold := hget hrow
    · rw [hnew, hm, ← hmetrics]
      rfl
    · exact h.exact m row hold metric

theorem Inv.job (h : Inv s) {page : Option Nat} {fate : Fate}
    (horder : InOrder s (.job page fate)) : Inv (s.step (.job page fate)) := by
  unfold Stats.step
  cases page with
  | none => exact h
  | some page =>
    dsimp only
    cases hsome : ensureStatsSnapshot s.today.text (s.fetched page) with
    | none => exact h
    | some metrics =>
      dsimp only
      split
      · exact h
      · next hfate =>
        obtain ⟨hpage, hbase⟩ := horder page rfl hfate
        exact h.putSnapshot (h.ensure hpage hbase hsome)

theorem Inv.step (h : Inv s) {e : Event} (horder : InOrder s e) : Inv (s.step e) := by
  cases e with
  | write d metric delta => exact h.write horder
  | month next =>
    unfold Stats.step
    dsimp only
    split
    · next hle => exact ⟨h.dated, fun m row hrow => (h.past m row hrow).trans hle, h.exact⟩
    · exact h
  | job page fate => exact h.job horder

/-! ## Totals -/

theorem sumOf_perm {rows rows' : List StatsRow} (h : rows'.Perm rows) (p : String → Bool)
    (metric : StatsMetric) : sumOf rows' p metric = sumOf rows p metric :=
  ((h.filter _).map (value metric)).sum_eq

theorem sumOf_append (rows rows' : List StatsRow) (p : String → Bool) (metric : StatsMetric) :
    sumOf (rows ++ rows') p metric = sumOf rows p metric + sumOf rows' p metric := by
  rw [sumOf, List.filter_append, List.map_append, List.sum_append, sumOf, sumOf]

/-- Before a suffix with the snapshot of a month there are only earlier days. -/
theorem Inv.sum_suffix (h : Inv s) {front served : List StatsRow}
    (hsplit : front ++ served = sortBy StatsRow.sk s.rows.rows) {snapshot : StatsRow}
    (hmem : snapshot ∈ served) (hsk : snapshot.sk = buildSnapshotSk m.text) (metric : StatsMetric) :
    sumOf served (fun month => decide (m.text ≤ month)) metric =
      sumOf s.rows.rows (fun month => decide (m.text ≤ month)) metric := by
  have hperm : (front ++ served).Perm s.rows.rows := hsplit ▸ sortBy_perm _ _
  have hsorted := pairwise_sortBy StatsRow.sk s.rows.rows
  rw [← hsplit] at hsorted
  have hfront : sumOf front (fun month => decide (m.text ≤ month)) metric = 0 := by
    have hnone : front.filter (fun row => !isSnapshotRow row && decide (m.text ≤ rowMonth row)) =
        [] := by
      refine List.filter_eq_nil_iff.mpr fun row hrow hkept => ?_
      obtain ⟨hday, hle⟩ := Bool.and_eq_true_iff.mp hkept
      obtain ⟨d, hrowSk, hmonth⟩ := (h.dated row (hperm.mem_iff.mp
        (List.mem_append_left _ hrow))).day (by simpa using hday)
      have hbefore := (List.pairwise_append.mp hsorted).2.2 row hrow snapshot hmem
      have hlt := (snapshotSk_lt_diffSk m d).mpr ((Month.text_le_iff _ _).mp
        (hmonth ▸ of_decide_eq_true hle))
      rw [hsk, hrowSk] at hbefore
      exact absurd hbefore (not_le.mpr hlt)
    rw [sumOf, hnone]
    rfl
  rw [← sumOf_perm hperm, sumOf_append, hfront, zero_add]

/-- The rows from the latest snapshot on give the totals of all days. -/
theorem Inv.totals (h : Inv s) {served : List StatsRow} (hserved : Served s.rows.rows served)
    (metric : StatsMetric) :
    computeSnapshot ((latest served).map StatsRow.metrics) ((diffsAfterSnapshot
      ((latest served).map fun row => monthFromSnapshotSk row.sk)
        ((ascending (diffRows served)).map diffOf)).map Diff.metrics) metric =
      allTime s.rows.rows metric := by
  obtain ⟨⟨front, hsplit⟩, snapshot, hmem, hsnapshot, hlatest⟩ := hserved
  have hperm : (front ++ served).Perm s.rows.rows := hsplit ▸ sortBy_perm _ _
  have hin {row : StatsRow} (hrow : row ∈ served) : row ∈ s.rows.rows :=
    hperm.mem_iff.mp (List.mem_append_right _ hrow)
  have hdistinct : (served.map StatsRow.sk).Nodup :=
    ((hperm.map StatsRow.sk).nodup_iff.mpr s.rows.distinct).sublist
      ((List.sublist_append_right front served).map _)
  obtain ⟨m, hsk⟩ := (h.dated snapshot (hin hmem)).month hsnapshot
  have hmonth : monthFromSnapshotSk snapshot.sk = m.text := by
    rw [hsk, monthFromSnapshotSk_build m.fits]
  have hlast : latest served = some snapshot := by
    refine (latest_eq_some_iff hdistinct).mpr ⟨⟨hmem, hsnapshot⟩, fun other hother hkind => ?_⟩
    obtain ⟨m', hsk'⟩ := (h.dated other (hin hother)).month hkind
    have hle := hlatest other (hin hother) hkind
    rw [hsk, hsk', snapshotSk_le_iff, ← Month.text_le_iff] at hle
    rw [hmonth, hsk', monthFromSnapshotSk_build m'.fits]
    exact hle
  have hfound := sum_found served (fun month => decide (m.text ≤ month)) metric
  have hserved : ((served.filter fun row => decide (m.text ≤ rowMonth row) &&
      !isSnapshotRow row).map (value metric)).sum =
        sumOf served (fun month => decide (m.text ≤ month)) metric := by
    have hfilter : (served.filter fun row => decide (m.text ≤ rowMonth row) &&
        !isSnapshotRow row) =
          served.filter fun row => !isSnapshotRow row && decide (m.text ≤ rowMonth row) :=
      List.filter_congr fun row _ => Bool.and_comm _ _
    rw [hfilter, sumOf]
  have hbase : (((some snapshot.metrics).bind fun metrics => metrics metric).getD 0 : Int) =
      before s.rows.rows m metric := by
    rw [Option.bind_some, h.exact m _ (get_of_mem (hin hmem) hsk) metric, Option.getD_some]
  have hall := sumOf_split (p := fun _ => true) (q := fun month => decide (month < m.text))
    (fun _ _ => rfl) s.rows.rows metric
  have hrest : sumOf s.rows.rows (fun month => true && !decide (month < m.text)) metric =
      sumOf s.rows.rows (fun month => decide (m.text ≤ month)) metric := by
    refine sumOf_congr fun row _ _ => ?_
    rw [Bool.true_and, ← decide_not, decide_eq_decide.mpr not_lt]
  rw [hlast, Option.map_some, Option.map_some, hmonth, computeSnapshot_apply, hbase, List.map_map,
    diffsAfterSnapshot_eq]
  simp only [Option.all_some]
  rw [List.map_map] at hfound
  rw [hfound, hserved, h.sum_suffix hsplit hmem hsk, allTime, ← hall, hrest, add_comm]
  rfl

theorem Inv.lossless (h : Inv s) : Lossless s where
  snapshots := h.exact
  totals served hserved := by
    have hdistinct : (served.map StatsRow.sk).Nodup := by
      obtain ⟨⟨front, hsplit⟩, -⟩ := hserved
      have hperm : (front ++ served).Perm s.rows.rows := hsplit ▸ sortBy_perm _ _
      exact ((hperm.map StatsRow.sk).nodup_iff.mpr s.rows.distinct).sublist
        ((List.sublist_append_right front served).map _)
    rw [aggregateStatsRows, found_eq hdistinct]
    have htotals := funext (h.totals hserved)
    simp only [respond, htotals]

/-! ## Histories -/

def newAccount (today : Month) : Stats := ⟨.empty, today⟩

theorem inv_newAccount (today : Month) : Inv (newAccount today) where
  dated row hrow := absurd hrow List.not_mem_nil
  past m row hrow := by cases hrow
  exact m row hrow := by cases hrow

/-- **Snapshots lose nothing** in a history whose writes are not dated before a month with a
snapshot, and in which the job never skips a month that has days before it. -/
theorem snapshots_lossless (today : Month) (events : List Event)
    (h : EachFits Stats.step InOrder (newAccount today) events) :
    Always Stats.step Lossless (newAccount today) events :=
  (always_of_eachFits (fun _ _ hinv horder => hinv.step horder) (inv_newAccount today) h).imp
    fun _ hinv => hinv.lossless

def january : Month := ⟨24312, by decide⟩

def february : Month := ⟨24313, by decide⟩

def march : Month := ⟨24314, by decide⟩

def janDay : Day := ⟨january, 15, by decide⟩

/-- A mail in January, and the job in the two months after. -/
theorem snapshots_lossless_monthly : Always Stats.step Lossless (newAccount january)
    [.write janDay .allowed 1, .month february, .job (some 400) .done] := by
  refine snapshots_lossless january _ ⟨fun m row hrow => (by cases hrow), trivial, ?_, trivial⟩
  rintro n hn -
  cases hn
  exact ⟨by decide +kernel, .inr (by decide +kernel)⟩

/-- The job does not run in February, for an account without domains. -/
def skipping : List Event :=
  [.write janDay .allowed 1, .month march, .job (some 400) .done]

/-- The snapshot of March has lost the mail of January. -/
theorem skipping_loses : ¬ Always Stats.step Lossless (newAccount january) skipping := by
  have hmarch : ((skipping.foldl Stats.step (newAccount january)).rows.get
      (buildSnapshotSk march.text)).bind (fun row => row.metrics .allowed) = some 0 := by
    decide +kernel
  have hsum : before (skipping.foldl Stats.step (newAccount january)).rows.rows march .allowed =
      1 := by
    decide +kernel
  rintro ⟨-, -, -, hlast⟩
  obtain ⟨row, hget, hmetrics⟩ := Option.bind_eq_some_iff.mp hmarch
  have hsnapshot : some 0 = some
      (before (skipping.foldl Stats.step (newAccount january)).rows.rows march .allowed) :=
    hmetrics.symm.trans (hlast.snapshots march row hget .allowed)
  rw [hsum] at hsnapshot
  cases hsnapshot

end SesEmailAdapter.Jobs.StatsSnapshots
