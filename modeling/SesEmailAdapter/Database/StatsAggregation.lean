import Mathlib.Data.String.Basic
import Mathlib.Tactic.Ring
import SesEmailAdapter.Database.StatsWriter
import SesEmailAdapter.Lib.KeySort
import SesEmailAdapter.Lib.OrderedMap

/-! # Aggregated stats

The totals, days and months that an account sees of its stats rows. A monthly snapshot stands for
the rows before its month, so that it changes no total. -/

namespace SesEmailAdapter.Database.StatsAggregation
open Lib
open Database.StatsWriter (StatsMetric)

/-! ## Sort keys -/

/-- A `9` stands for any digit, another character for itself. -/
def Place (p c : Char) : Prop := if p = '9' then c.isDigit = true else c = p

/-- The text has the shape of the pattern. -/
def Fits (pattern text : String) : Prop := List.Forall₂ Place pattern.toList text.toList

def buildDiffSk (date : String) : String := "STATS#" ++ date

def buildSnapshotSk (yearMonth : String) : String := "STATS#" ++ yearMonth ++ "-00-SNAPSHOT"

/-- A row of a day or of a month. -/
structure StatsRow where
  sk : String
  metrics : StatsMetric → Option Int
  keyed : (∃ date, Fits "9999-99-99" date ∧ sk = buildDiffSk date) ∨
    ∃ yearMonth, Fits "9999-99" yearMonth ∧ sk = buildSnapshotSk yearMonth

def isSnapshotRow (row : StatsRow) : Bool := "-SNAPSHOT".toList.isSuffixOf row.sk.toList

def dateFromDiffSk (sk : String) : String := String.ofList (sk.toList.drop 6)

def monthFromSnapshotSk (sk : String) : String := String.ofList ((sk.toList.drop 6).take 7)

/-- `date.slice(0, 7)` -/
def monthOf (date : String) : String := String.ofList (date.toList.take 7)

/-- The order of `localeCompare` on the characters of sort keys: punctuation, `-` first, comes
before the digits and these before the letters. -/
def collation (c : Char) : Nat :=
  if c = '-' then 0 else if c = '#' then 1 else c.toNat + 2

def collationKey (text : String) : List Nat := text.toList.map collation

/-! ## Snapshots -/

def emptyMetrics : StatsMetric → Int := fun _ => 0

def addDiff (result : StatsMetric → Int) (diff : StatsMetric → Option Int) : StatsMetric → Int :=
  fun metric => match diff metric with
    | some value => result metric + value
    | none => result metric

/-- A metric that the base snapshot lacks starts from zero. -/
def computeSnapshot (baseSnapshot : Option (StatsMetric → Option Int))
    (diffs : List (StatsMetric → Option Int)) : StatsMetric → Int :=
  let result := match baseSnapshot with
    | some base => fun metric => (base metric).getD 0
    | none => emptyMetrics
  diffs.foldl addDiff result

/-! ## The response -/

@[ext]
structure ApiStatsTotals where
  allowed : Int
  quarantined : Int
  blocked : Int
  aliases : Int
deriving DecidableEq

structure ApiStatsDailyBucket extends ApiStatsTotals where
  date : String
deriving DecidableEq

structure ApiStatsResponse where
  totals : ApiStatsTotals
  daily : List ApiStatsDailyBucket
  monthly : List ApiStatsDailyBucket
deriving DecidableEq

instance : Zero ApiStatsTotals := ⟨⟨0, 0, 0, 0⟩⟩

instance : Add ApiStatsTotals where
  add a b := ⟨a.allowed + b.allowed, a.quarantined + b.quarantined, a.blocked + b.blocked,
    a.aliases + b.aliases⟩

instance : AddCommMonoid ApiStatsTotals where
  nsmul := nsmulRec
  add_assoc a b c := ApiStatsTotals.ext (add_assoc ..) (add_assoc ..) (add_assoc ..) (add_assoc ..)
  add_comm a b := ApiStatsTotals.ext (add_comm ..) (add_comm ..) (add_comm ..) (add_comm ..)
  zero_add a := ApiStatsTotals.ext (zero_add _) (zero_add _) (zero_add _) (zero_add _)
  add_zero a := ApiStatsTotals.ext (add_zero _) (add_zero _) (add_zero _) (add_zero _)

structure Diff where
  date : String
  metrics : StatsMetric → Option Int

def Diff.counts (d : Diff) : ApiStatsTotals where
  allowed := (d.metrics .allowed).getD 0
  quarantined := (d.metrics .quarantined).getD 0
  blocked := (d.metrics .blocked).getD 0
  aliases := (d.metrics .totalAliases).getD 0

/-- What the loop over the sorted rows has found. -/
structure Found where
  latestSnapshot : Option (StatsMetric → Option Int)
  snapshotMonth : Option String
  diffs : List Diff

def find (found : Found) (row : StatsRow) : Found :=
  if isSnapshotRow row then
    { found with
      latestSnapshot := some row.metrics
      snapshotMonth := some (monthFromSnapshotSk row.sk) }
  else { found with diffs := found.diffs ++ [⟨dateFromDiffSk row.sk, row.metrics⟩] }

def diffsAfterSnapshot (snapshotMonth : Option String) (diffs : List Diff) : List Diff :=
  match snapshotMonth with
  | some month => diffs.filter fun d => month ≤ monthOf d.date
  | none => diffs

def addToMonth (monthlyMap : OrderedMap String ApiStatsTotals) (d : Diff) :
    OrderedMap String ApiStatsTotals :=
  let existing := (monthlyMap.get (monthOf d.date)).getD 0
  monthlyMap.set (monthOf d.date) (existing + d.counts)

def sortDescending (buckets : List ApiStatsDailyBucket) : List ApiStatsDailyBucket :=
  sortBy (fun bucket => OrderDual.toDual (collationKey bucket.date)) buckets

def respond (found : Found) : ApiStatsResponse :=
  let totals := computeSnapshot found.latestSnapshot
    ((diffsAfterSnapshot found.snapshotMonth found.diffs).map Diff.metrics)
  let monthlyMap := found.diffs.foldl addToMonth .empty
  { totals := ⟨totals .allowed, totals .quarantined, totals .blocked, totals .totalAliases⟩
    daily := sortDescending (found.diffs.map fun d => ⟨d.counts, d.date⟩)
    monthly := sortDescending (monthlyMap.entries.map fun entry => ⟨entry.2, entry.1⟩) }

def ascending (rows : List StatsRow) : List StatsRow := sortBy (fun row => collationKey row.sk) rows

def aggregateStatsRows (rows : List StatsRow) : ApiStatsResponse :=
  respond ((ascending rows).foldl find ⟨none, none, []⟩)

/-! ## What a snapshot stands for -/

/-- The latest snapshot before a month, if there is one. -/
def LatestBefore (rows : List StatsRow) (yearMonth : String) : Option StatsRow → Prop
  | none => ∀ row ∈ rows, isSnapshotRow row → yearMonth ≤ monthFromSnapshotSk row.sk
  | some base => base ∈ rows ∧ isSnapshotRow base ∧ monthFromSnapshotSk base.sk < yearMonth ∧
    ∀ row ∈ rows, isSnapshotRow row → monthFromSnapshotSk row.sk < yearMonth →
      monthFromSnapshotSk row.sk ≤ monthFromSnapshotSk base.sk

def rowMonth (row : StatsRow) : String := monthOf (dateFromDiffSk row.sk)

/-- The diff rows from the month of the base up to, and without, another month. -/
def diffsBetween (rows : List StatsRow) (base : Option StatsRow) (yearMonth : String) :
    List StatsRow :=
  rows.filter fun row => !isSnapshotRow row &&
    base.all (fun base => monthFromSnapshotSk base.sk ≤ rowMonth row) && rowMonth row < yearMonth

/-- The snapshot of a month that the rows give. -/
structure TakenFor (rows : List StatsRow) (yearMonth : String) (snapshot : StatsRow) : Prop where
  sk : snapshot.sk = buildSnapshotSk yearMonth
  metrics : ∃ base, LatestBefore rows yearMonth base ∧ ∀ metric, snapshot.metrics metric =
    some (computeSnapshot (base.map StatsRow.metrics)
      ((diffsBetween rows base yearMonth).map StatsRow.metrics) metric)

/-- Every month of a day has one bucket, the sum of the buckets of its days. -/
structure MonthsSumDays (response : ApiStatsResponse) : Prop where
  distinct : (response.monthly.map ApiStatsDailyBucket.date).Nodup
  covered : ∀ day ∈ response.daily, ∃ month ∈ response.monthly, month.date = monthOf day.date
  sums : ∀ month ∈ response.monthly, month.toApiStatsTotals =
    ((response.daily.filter fun day => monthOf day.date = month.date).map
      ApiStatsDailyBucket.toApiStatsTotals).sum

/-! ## Keys in order -/

theorem collation_injective : Function.Injective collation := by
  intro c d h
  have htoNat : ∀ {a b : Char}, a.toNat = b.toNat → a = b := Char.toNat_inj.mp
  grind [collation]

theorem collationKey_injective : Function.Injective collationKey := by
  intro a b h
  exact String.toList_injective (List.map_injective_iff.mpr collation_injective h)

theorem collation_lt {p c d : Char} (hc : Place p c) (hd : Place p d) (h : c < d) :
    collation c < collation d := by
  unfold Place at hc hd
  by_cases hp : p = '9'
  · rw [if_pos hp] at hc hd
    have hne : ∀ {e : Char}, e.isDigit = true → e ≠ '-' ∧ e ≠ '#' := fun he =>
      ⟨fun heq => by simp [heq] at he, fun heq => by simp [heq] at he⟩
    simp only [collation, hne hc, hne hd, if_false]
    exact Nat.add_lt_add_right h 2
  · rw [if_neg hp] at hc hd
    exact absurd (hc.trans hd.symm) h.ne

/-- The order of two texts of one shape is that of their keys, whatever follows. -/
theorem map_collation_lt {pattern a b : List Char} (ha : List.Forall₂ Place pattern a)
    (hb : List.Forall₂ Place pattern b) (h : a < b) (s t : List Nat) :
    a.map collation ++ s < b.map collation ++ t := by
  induction ha generalizing b with
  | nil =>
    cases hb
    exact absurd h (lt_irrefl _)
  | cons hc hcs ih =>
    cases hb with
    | cons hd hds =>
      obtain hlt | ⟨rfl, hlt⟩ := List.cons_lt_cons_iff.mp h
      · exact List.cons_lt_cons_iff.mpr (.inl (collation_lt hc hd hlt))
      · exact List.cons_lt_cons_iff.mpr (.inr ⟨rfl, ih hds hlt⟩)

theorem snapshotSk_lt {yearMonth yearMonth' : String} (h : Fits "9999-99" yearMonth)
    (h' : Fits "9999-99" yearMonth') (hlt : yearMonth < yearMonth') :
    collationKey (buildSnapshotSk yearMonth) < collationKey (buildSnapshotSk yearMonth') := by
  simp only [collationKey, buildSnapshotSk, String.toList_append, List.map_append,
    List.append_assoc]
  exact List.Lex.append_left _ (map_collation_lt h h' (String.lt_iff_toList_lt.mp hlt) _ _) _

@[simp] theorem monthFromSnapshotSk_build {yearMonth : String} (h : Fits "9999-99" yearMonth) :
    monthFromSnapshotSk (buildSnapshotSk yearMonth) = yearMonth := by
  have hlength : yearMonth.toList.length = 7 := h.length_eq.symm
  refine String.toList_injective ?_
  simp [monthFromSnapshotSk, buildSnapshotSk, ← hlength]

theorem isSnapshotRow_of_sk {row : StatsRow} {yearMonth : String}
    (h : row.sk = buildSnapshotSk yearMonth) : isSnapshotRow row = true := by
  refine List.isSuffixOf_iff_suffix.mpr ⟨("STATS#" ++ yearMonth ++ "-00").toList, ?_⟩
  rw [h]
  simp [buildSnapshotSk]

/-- A key that ends as that of a snapshot is one. -/
theorem snapshotSk_of_isSnapshotRow {row : StatsRow} (h : isSnapshotRow row = true) :
    Fits "9999-99" (monthFromSnapshotSk row.sk) ∧
      row.sk = buildSnapshotSk (monthFromSnapshotSk row.sk) := by
  obtain ⟨date, hdate, hsk⟩ | ⟨yearMonth, hfits, hsk⟩ := row.keyed
  · have hpattern : "9999-99-99".toList.reverse = '9' :: "9-99-9999".toList := by decide
    have hrev := List.forall₂_reverse_iff.mpr hdate
    rw [hpattern] at hrev
    obtain ⟨c, cs, hc, -, hcs⟩ := List.forall₂_cons_left_iff.mp hrev
    obtain ⟨front, hfront⟩ := List.isSuffixOf_iff_suffix.mp h
    have hlast : ("-SNAPSHOT".toList.reverse ++ front.reverse).head? = some c := by
      rw [← List.reverse_append, hfront, hsk, buildDiffSk, String.toList_append,
        List.reverse_append, hcs]
      rfl
    have hT : c = 'T' := (Option.some.inj hlast).symm
    rw [hT, Place, if_pos rfl] at hc
    exact absurd hc (by decide)
  · rw [hsk, monthFromSnapshotSk_build hfits]
    exact ⟨hfits, rfl⟩

theorem buildSnapshotSk_injective : Function.Injective buildSnapshotSk := by
  intro a b h
  have htext := congrArg String.toList h
  simp only [buildSnapshotSk, String.toList_append, List.append_cancel_right_eq,
    List.append_cancel_left_eq] at htext
  exact String.toList_injective htext

/-- Snapshots are in the order of their months. -/
theorem snapshot_le_iff {row row' : StatsRow} (h : isSnapshotRow row = true)
    (h' : isSnapshotRow row' = true) :
    collationKey row.sk ≤ collationKey row'.sk ↔
      monthFromSnapshotSk row.sk ≤ monthFromSnapshotSk row'.sk := by
  obtain ⟨hfits, hsk⟩ := snapshotSk_of_isSnapshotRow h
  obtain ⟨hfits', hsk'⟩ := snapshotSk_of_isSnapshotRow h'
  constructor
  · intro hle
    by_contra hnot
    have hlt := snapshotSk_lt hfits' hfits (not_le.mp hnot)
    rw [← hsk, ← hsk'] at hlt
    exact absurd hle (not_le.mpr hlt)
  · intro hle
    obtain hlt | heq := hle.lt_or_eq
    · have hlt := snapshotSk_lt hfits hfits' hlt
      rw [← hsk, ← hsk'] at hlt
      exact hlt.le
    · rw [hsk, hsk', heq]

/-! ## The loop over the rows -/

def diffOf (row : StatsRow) : Diff := ⟨dateFromDiffSk row.sk, row.metrics⟩

def diffRows (rows : List StatsRow) : List StatsRow := rows.filter fun row => !isSnapshotRow row

def latest (rows : List StatsRow) : Option StatsRow :=
  (ascending (rows.filter isSnapshotRow)).getLast?

theorem foldl_find (rows : List StatsRow) : rows.foldl find ⟨none, none, []⟩ =
    ⟨(rows.filter isSnapshotRow).getLast?.map StatsRow.metrics,
      (rows.filter isSnapshotRow).getLast?.map fun row => monthFromSnapshotSk row.sk,
      (diffRows rows).map diffOf⟩ := by
  induction rows using List.reverseRecOn with
  | nil => rfl
  | append_singleton rows row ih =>
    rw [List.foldl_append, ih]
    by_cases hrow : isSnapshotRow row = true
    · simp [find, diffRows, hrow]
    · simp [find, diffRows, diffOf, hrow]

section Distinct

variable {rows : List StatsRow} (hdistinct : (rows.map StatsRow.sk).Nodup)
include hdistinct

theorem keys_nodup : (rows.map fun row => collationKey row.sk).Nodup := by
  have hkeys := hdistinct.map collationKey_injective
  rwa [List.map_map] at hkeys

theorem filter_keys_nodup (p : StatsRow → Bool) :
    ((rows.filter p).map fun row => collationKey row.sk).Nodup :=
  (keys_nodup hdistinct).sublist (List.filter_sublist.map _)

/-- What the loop finds in the rows, in whatever order they are. -/
theorem found_eq : (ascending rows).foldl find ⟨none, none, []⟩ =
    ⟨(latest rows).map StatsRow.metrics, (latest rows).map fun row => monthFromSnapshotSk row.sk,
      (ascending (diffRows rows)).map diffOf⟩ := by
  have hsnapshots : (ascending rows).filter isSnapshotRow = ascending (rows.filter isSnapshotRow) :=
    filter_sortBy (keys_nodup hdistinct) _
  have hdiffs : diffRows (ascending rows) = ascending (diffRows rows) :=
    filter_sortBy (keys_nodup hdistinct) _
  rw [foldl_find, hsnapshots, hdiffs, latest]

theorem latest_eq_some_iff {row : StatsRow} : latest rows = some row ↔
    (row ∈ rows ∧ isSnapshotRow row = true) ∧ ∀ other ∈ rows, isSnapshotRow other = true →
      monthFromSnapshotSk other.sk ≤ monthFromSnapshotSk row.sk := by
  unfold latest ascending
  rw [getLast?_sortBy_iff (filter_keys_nodup hdistinct _), List.mem_filter]
  refine and_congr_right fun hrow => ?_
  simp only [List.mem_filter, and_imp]
  exact forall₂_congr fun other hother => forall_congr' fun h => snapshot_le_iff h hrow.2

omit hdistinct in
theorem latest_eq_none_iff : latest rows = none ↔ ∀ row ∈ rows, ¬ isSnapshotRow row = true := by
  unfold latest ascending
  rw [List.getLast?_eq_none_iff, ← List.length_eq_zero_iff, (sortBy_perm _ _).length_eq,
    List.length_eq_zero_iff, List.filter_eq_nil_iff]

theorem aggregate_of_perm {rows' : List StatsRow} (hperm : rows'.Perm rows) :
    aggregateStatsRows rows' = aggregateStatsRows rows := by
  rw [aggregateStatsRows, ascending, sortBy_eq_of_perm (keys_nodup hdistinct) hperm]
  rfl

end Distinct

/-! ## Sums -/

theorem foldl_addDiff (diffs : List (StatsMetric → Option Int)) (result : StatsMetric → Int)
    (metric : StatsMetric) : diffs.foldl addDiff result metric =
      result metric + (diffs.map fun diff => (diff metric).getD 0).sum := by
  induction diffs generalizing result with
  | nil => simp
  | cons diff diffs ih =>
    have hadd : addDiff result diff metric = result metric + (diff metric).getD 0 := by
      unfold addDiff
      cases diff metric <;> simp
    rw [List.foldl_cons, ih, hadd, List.map_cons, List.sum_cons, add_assoc]

theorem computeSnapshot_apply (base : Option (StatsMetric → Option Int))
    (diffs : List (StatsMetric → Option Int)) (metric : StatsMetric) :
    computeSnapshot base diffs metric = (base.bind fun metrics => metrics metric).getD 0 +
      (diffs.map fun diff => (diff metric).getD 0).sum := by
  unfold computeSnapshot
  rw [foldl_addDiff]
  cases base <;> rfl

/-- A filter splits into the part that a narrower one keeps and the rest. -/
theorem sum_filter_split {α : Type} {p q : α → Bool} (hnarrow : ∀ a, q a = true → p a = true)
    (f : α → Int) (l : List α) :
    ((l.filter fun a => p a && !q a).map f).sum + ((l.filter q).map f).sum =
      ((l.filter p).map f).sum := by
  induction l with
  | nil => rfl
  | cons a l ih =>
    by_cases hq : q a = true
    · simp [hq, hnarrow a hq, ← ih]
      ring
    · by_cases hp : p a = true
      · simp [hq, hp, ← ih]
        ring
      · simp [hq, hp, ih]

theorem diffsAfterSnapshot_eq (snapshotMonth : Option String) (diffs : List Diff) :
    diffsAfterSnapshot snapshotMonth diffs =
      diffs.filter fun d => snapshotMonth.all fun month => month ≤ monthOf d.date := by
  cases snapshotMonth with
  | none => simp [diffsAfterSnapshot]
  | some month => rfl

def value (metric : StatsMetric) (row : StatsRow) : Int := (row.metrics metric).getD 0

/-- The sums of the found diffs are those of the rows. -/
theorem sum_found (rows : List StatsRow) (p : String → Bool) (metric : StatsMetric) :
    (((((ascending (diffRows rows)).map diffOf).filter fun d => p (monthOf d.date)).map
      Diff.metrics).map fun diff => (diff metric).getD 0).sum =
      ((rows.filter fun row => p (rowMonth row) && !isSnapshotRow row).map (value metric)).sum := by
  have hperm := (sortBy_perm (fun row => collationKey row.sk) (diffRows rows)).filter
    fun row => p (rowMonth row)
  rw [← List.filter_filter]
  refine Eq.trans ?_ (hperm.map (value metric)).sum_eq
  rw [List.filter_map, List.map_map, List.map_map]
  rfl

section Insertion

variable {rows : List StatsRow} {yearMonth : String} {base : Option StatsRow} {snapshot : StatsRow}

theorem LatestBefore.all_le (h : LatestBefore rows yearMonth base) {month : String}
    (hle : yearMonth ≤ month) : base.all (fun base => monthFromSnapshotSk base.sk ≤ month) = true := by
  match base with
  | none => rfl
  | some base =>
    have hlt : monthFromSnapshotSk base.sk < yearMonth := h.2.2.1
    exact decide_eq_true (hlt.le.trans hle)

theorem LatestBefore.latest_eq (h : LatestBefore rows yearMonth base)
    (hdistinct : (rows.map StatsRow.sk).Nodup) (hbefore : ∀ row ∈ rows, isSnapshotRow row = true →
      monthFromSnapshotSk row.sk < yearMonth) : latest rows = base := by
  match base with
  | none =>
    refine latest_eq_none_iff.mpr fun row hrow hsnapshot => ?_
    exact absurd (hbefore row hrow hsnapshot) (not_lt.mpr (h row hrow hsnapshot))
  | some row =>
    obtain ⟨hrow, hsnapshot, -, hmax⟩ := h
    refine (latest_eq_some_iff hdistinct).mpr ⟨⟨hrow, hsnapshot⟩, fun other hother hsnapshot => ?_⟩
    exact hmax other hother hsnapshot (hbefore other hother hsnapshot)

/-- The rows from the month of the base are those before another month and those from it. -/
theorem LatestBefore.sum_rows (h : LatestBefore rows yearMonth base) (metric : StatsMetric) :
    ((diffsBetween rows base yearMonth).map (value metric)).sum +
        ((rows.filter fun row => decide (yearMonth ≤ rowMonth row) && !isSnapshotRow row).map
          (value metric)).sum =
      ((rows.filter fun row => base.all (fun base => monthFromSnapshotSk base.sk ≤ rowMonth row) &&
        !isSnapshotRow row).map (value metric)).sum := by
  have hbetween : diffsBetween rows base yearMonth = rows.filter fun row =>
      (base.all (fun base => monthFromSnapshotSk base.sk ≤ rowMonth row) && !isSnapshotRow row) &&
        !(decide (yearMonth ≤ rowMonth row) && !isSnapshotRow row) := by
    unfold diffsBetween
    congr 1
    funext row
    by_cases hlt : rowMonth row < yearMonth
    · simp [hlt, hlt.not_ge, Bool.and_comm]
    · cases hsnapshot : isSnapshotRow row <;> simp [hlt, not_lt.mp hlt]
  rw [hbetween]
  refine sum_filter_split (fun row hrow => ?_) (value metric) rows
  simp only [Bool.and_eq_true, decide_eq_true_eq] at hrow ⊢
  exact ⟨h.all_le hrow.1, hrow.2⟩

/-- Beyond its month, a snapshot adds up to what its base and the rows between do. -/
theorem TakenFor.totals (h : TakenFor rows yearMonth snapshot)
    (hdistinct : (rows.map StatsRow.sk).Nodup) (hbefore : ∀ row ∈ rows, isSnapshotRow row = true →
      monthFromSnapshotSk row.sk < yearMonth) :
    computeSnapshot (some snapshot.metrics) ((diffsAfterSnapshot (some yearMonth)
        ((ascending (diffRows rows)).map diffOf)).map Diff.metrics) =
      computeSnapshot ((latest rows).map StatsRow.metrics) ((diffsAfterSnapshot
        ((latest rows).map fun row => monthFromSnapshotSk row.sk)
          ((ascending (diffRows rows)).map diffOf)).map Diff.metrics) := by
  obtain ⟨base, hbase, hmetrics⟩ := h.metrics
  rw [hbase.latest_eq hdistinct hbefore]
  funext metric
  have hsum := hbase.sum_rows metric
  have htaken := sum_found rows (fun month => decide (yearMonth ≤ month)) metric
  have hbased := sum_found rows
    (fun month => base.all fun base => monthFromSnapshotSk base.sk ≤ month) metric
  rw [computeSnapshot_apply, computeSnapshot_apply, diffsAfterSnapshot_eq, diffsAfterSnapshot_eq,
    Option.bind_some, hmetrics, Option.getD_some, computeSnapshot_apply, add_assoc, List.map_map]
  have hall : ∀ d : Diff, (base.map fun row => monthFromSnapshotSk row.sk).all
      (fun month => month ≤ monthOf d.date) =
        base.all fun base => monthFromSnapshotSk base.sk ≤ monthOf d.date := fun d => by
    cases base <;> rfl
  simp only [hall, Option.all_some, Option.bind_map]
  rw [htaken, hbased, ← hsum]
  rfl

theorem diffRows_cons (h : isSnapshotRow snapshot = true) :
    diffRows (snapshot :: rows) = diffRows rows := by
  simp [diffRows, h]

theorem aggregate_cons (hdistinct : (rows.map StatsRow.sk).Nodup)
    (hinserted : ((snapshot :: rows).map StatsRow.sk).Nodup)
    (h : TakenFor rows yearMonth snapshot) :
    aggregateStatsRows (snapshot :: rows) = aggregateStatsRows rows := by
  have hsnapshot : isSnapshotRow snapshot = true := isSnapshotRow_of_sk h.sk
  have hmonth : monthFromSnapshotSk snapshot.sk = yearMonth :=
    buildSnapshotSk_injective ((snapshotSk_of_isSnapshotRow hsnapshot).2.symm.trans h.sk)
  rw [aggregateStatsRows, aggregateStatsRows, found_eq hdistinct, found_eq hinserted,
    diffRows_cons hsnapshot]
  by_cases hbefore : ∀ row ∈ rows, isSnapshotRow row = true →
      monthFromSnapshotSk row.sk < yearMonth
  · have hlatest : latest (snapshot :: rows) = some snapshot := by
      refine (latest_eq_some_iff hinserted).mpr ⟨⟨List.mem_cons_self, hsnapshot⟩, ?_⟩
      intro other hother hsnapshot
      obtain rfl | hother := List.mem_cons.mp hother
      · exact le_rfl
      · rw [hmonth]
        exact (hbefore other hother hsnapshot).le
    have htotals := h.totals hdistinct hbefore
    rw [hlatest, Option.map_some, Option.map_some, hmonth]
    simp only [respond, htotals]
  · -- A later snapshot stays the base of the totals.
    push Not at hbefore
    obtain ⟨later, hlater, hlaterSnapshot, hge⟩ := hbefore
    cases hlatest : latest rows with
    | none => exact absurd hlaterSnapshot (latest_eq_none_iff.mp hlatest later hlater)
    | some row =>
      obtain ⟨⟨hrow, hrowSnapshot⟩, hmax⟩ := (latest_eq_some_iff hdistinct).mp hlatest
      have hsame : latest (snapshot :: rows) = some row := by
        refine (latest_eq_some_iff hinserted).mpr ⟨⟨List.mem_cons_of_mem _ hrow, hrowSnapshot⟩, ?_⟩
        intro other hother hsnapshot
        obtain rfl | hother := List.mem_cons.mp hother
        · rw [hmonth]
          exact hge.trans (hmax later hlater hlaterSnapshot)
        · exact hmax other hother hsnapshot
      rw [hsame]

end Insertion

/-! ## Months -/

theorem get_foldl_addToMonth (diffs : List Diff) (month : String) :
    (diffs.foldl addToMonth .empty).get month =
      if month ∈ diffs.map fun d => monthOf d.date then
        some ((diffs.filter fun d => monthOf d.date = month).map Diff.counts).sum
      else none := by
  induction diffs using List.reverseRecOn with
  | nil => rfl
  | append_singleton diffs d ih =>
    rw [List.foldl_append, List.foldl_cons, List.foldl_nil, addToMonth, OrderedMap.get_set]
    by_cases hmonth : month = monthOf d.date
    · have hexisting : ((diffs.foldl addToMonth .empty).get month).getD 0 =
          ((diffs.filter fun d => monthOf d.date = month).map Diff.counts).sum := by
        rw [ih]
        split
        · rfl
        · next hnot =>
          have hnil : diffs.filter (fun d => monthOf d.date = month) = [] := by
            refine List.filter_eq_nil_iff.mpr fun d hd heq => hnot ?_
            exact List.mem_map.mpr ⟨d, hd, of_decide_eq_true heq⟩
          rw [hnil]
          rfl
      rw [if_pos hmonth, ← hmonth, hexisting]
      simp [hmonth]
    · rw [if_neg hmonth, ih]
      simp [hmonth, Ne.symm hmonth]

theorem sortDescending_perm (buckets : List ApiStatsDailyBucket) :
    (sortDescending buckets).Perm buckets := sortBy_perm _ buckets

theorem mem_monthly {found : Found} {month : ApiStatsDailyBucket} :
    month ∈ (respond found).monthly ↔
      month.date ∈ (found.diffs.map fun d => monthOf d.date) ∧ month.toApiStatsTotals =
        ((found.diffs.filter fun d => monthOf d.date = month.date).map Diff.counts).sum := by
  have hentry : month ∈ (respond found).monthly ↔
      (month.date, month.toApiStatsTotals) ∈ (found.diffs.foldl addToMonth .empty).entries := by
    refine (sortDescending_perm _).mem_iff.trans ⟨fun hmem => ?_, fun hmem => ?_⟩
    · obtain ⟨entry, hentry, rfl⟩ := List.mem_map.mp hmem
      exact hentry
    · exact List.mem_map.mpr ⟨_, hmem, rfl⟩
  rw [hentry, OrderedMap.mem_entries_iff, get_foldl_addToMonth]
  split
  · next hmonth => simp only [Option.some.injEq, hmonth, true_and, eq_comm]
  · next hmonth => simp [hmonth]

theorem respond_months (found : Found) : MonthsSumDays (respond found) := by
  have hdaily : (respond found).daily.Perm (found.diffs.map fun d => ⟨d.counts, d.date⟩) :=
    sortDescending_perm _
  constructor
  · have hdates := (sortDescending_perm ((found.diffs.foldl addToMonth .empty).entries.map
      fun entry => ⟨entry.2, entry.1⟩)).map ApiStatsDailyBucket.date
    refine hdates.nodup_iff.mpr ?_
    rw [List.map_map]
    exact (found.diffs.foldl addToMonth .empty).distinct
  · intro day hday
    obtain ⟨d, hd, rfl⟩ := List.mem_map.mp (hdaily.mem_iff.mp hday)
    refine ⟨⟨((found.diffs.filter fun other => monthOf other.date = monthOf d.date).map
      Diff.counts).sum, monthOf d.date⟩, mem_monthly.mpr ⟨?_, ?_⟩, ?_⟩
    · exact List.mem_map.mpr ⟨d, hd, rfl⟩
    · simp only
    · simp only
  · intro month hmonth
    have hdays := (hdaily.filter fun day => monthOf day.date = month.date).map
      ApiStatsDailyBucket.toApiStatsTotals
    rw [(mem_monthly.mp hmonth).2, hdays.sum_eq, List.filter_map, List.map_map]
    rfl

/-! ## Aggregation -/

/-- **Snapshots change nothing.** The response is that of the rows in any order, with the snapshot
of any month or without it, and its months are the sums of their days. -/
theorem aggregate_rows (rows : List StatsRow) (hdistinct : (rows.map StatsRow.sk).Nodup) :
    (∀ before snapshot after yearMonth, rows = before ++ after →
      TakenFor rows yearMonth snapshot →
      ((before ++ snapshot :: after).map StatsRow.sk).Nodup →
      aggregateStatsRows (before ++ snapshot :: after) = aggregateStatsRows rows) ∧
    (∀ rows' : List StatsRow, rows'.Perm rows →
      aggregateStatsRows rows' = aggregateStatsRows rows) ∧
    MonthsSumDays (aggregateStatsRows rows) := by
  refine ⟨fun before snapshot after yearMonth hrows htaken hinserted => ?_,
    fun rows' hperm => aggregate_of_perm hdistinct hperm, respond_months _⟩
  subst hrows
  have hperm : (before ++ snapshot :: after).Perm (snapshot :: (before ++ after)) :=
    List.perm_middle
  have hcons : ((snapshot :: (before ++ after)).map StatsRow.sk).Nodup :=
    (hperm.map StatsRow.sk).nodup_iff.mp hinserted
  rw [aggregate_of_perm hcons hperm, aggregate_cons hdistinct hcons htaken]

instance (p c : Char) : Decidable (Place p c) :=
  inferInstanceAs (Decidable (if p = '9' then c.isDigit = true else c = p))

instance (pattern text : String) : Decidable (Fits pattern text) :=
  inferInstanceAs (Decidable (List.Forall₂ _ _ _))

def mayDay : StatsRow where
  sk := buildDiffSk "2026-05-10"
  metrics metric := if metric = .allowed then some 3 else none
  keyed := .inl ⟨"2026-05-10", by decide, rfl⟩

def juneDay : StatsRow where
  sk := buildDiffSk "2026-06-02"
  metrics metric := if metric = .allowed then some 1 else none
  keyed := .inl ⟨"2026-06-02", by decide, rfl⟩

def juneSnapshot : StatsRow where
  sk := buildSnapshotSk "2026-06"
  metrics metric := some (if metric = .allowed then 3 else 0)
  keyed := .inr ⟨"2026-06", by decide, rfl⟩

/-- The snapshot of June, taken of the day in May that comes after it in the list. -/
theorem aggregate_rows_june : aggregateStatsRows [juneDay, juneSnapshot, mayDay] =
    aggregateStatsRows [juneDay, mayDay] := by
  refine (aggregate_rows [juneDay, mayDay] (by decide)).1 [juneDay] juneSnapshot [mayDay] "2026-06"
    rfl ⟨rfl, none, ?_, ?_⟩ (by decide)
  · intro row hrow
    simp at hrow
    obtain rfl | rfl := hrow <;> decide
  · intro metric
    cases metric <;> decide

end SesEmailAdapter.Database.StatsAggregation
