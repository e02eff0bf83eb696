import SesEmailAdapter.Database.ThreadRows
import SesEmailAdapter.Lib.SortKey

/-! # Active threads around an instant

The two range queries over the activity index of an account, whose sort key holds the status, the
time and the id of a thread. The query for the threads from an instant on has no upper bound, so it
goes on into every status that sorts behind the active one. -/

namespace SesEmailAdapter.Database.ActiveThreads
open Lib Lib.QueryPaging Lib.SortKey
open SesEmailAdapter.Types Database.SignalsTable
open Database.ThreadRows

/-! ## The index -/

/-- The texts of instants: in the order of the instants, and without a character up to the
separator of a sort key. -/
structure IsoTexts (Instant : Type) [LinearOrder Instant] where
  toISO : Instant → String
  strictMono : StrictMono toISO
  plain : ∀ t, Above '#' (toISO t).toList

variable {Instant : Type} [LinearOrder Instant] {iso : IsoTexts Instant}

/-- The threads of all accounts. -/
structure Content (iso : IsoTexts Instant) where
  threads : KeyedTable threadKey
  timed : ∀ thread ∈ threads.rows, ∃ t, thread.lastSignalAt = iso.toISO t
  named : ∀ thread ∈ threads.rows, thread.id ≠ ""

/-- How many of the rows that a query selects its one answer holds: it ends at a size, and holds
one row at least. -/
structure Answers where
  count : List Thread → Nat
  pos : ∀ rows, rows ≠ [] → 0 < count rows

/-- The index key of a thread's item. -/
def gsi1 (thread : Thread) : String × String :=
  let item := buildThreadItem thread none
  (item.gsi1pk.getD "", item.gsi1sk.getD "")

theorem gsi1_eq (thread : Thread) : gsi1 thread = ("ACCT#" ++ thread.accountId,
    lastActivityKey thread.status thread.lastSignalAt thread.id) := rfl

/-- The order of the index. -/
def position (thread : Thread) : String ×ₗ String := toLex ((gsi1 thread).2, thread.id)

/-- The rows of a partition with a condition on the sort key. -/
def select (content : Content iso) (accountId : String) (range : String → Bool) : List Thread :=
  content.threads.rows.filter fun thread =>
    (gsi1 thread).1 = "ACCT#" ++ accountId && range (gsi1 thread).2

/-- `gsi1sk BETWEEN :start AND :end` -/
def rangeBefore (beforeDate gsi1sk : String) : Bool :=
  "LASTACT#active#" ≤ gsi1sk && gsi1sk ≤ "LASTACT#active#" ++ beforeDate ++ "#"

/-- `gsi1sk >= :start` -/
def rangeSince (sinceDate gsi1sk : String) : Bool := "LASTACT#active#" ++ sinceDate ≤ gsi1sk

/-- What the query before an instant selects, oldest first. -/
def rowsBefore (content : Content iso) (accountId beforeDate : String) : List Thread :=
  scan position (select content accountId (rangeBefore beforeDate))

/-- What the query from an instant on selects, newest first. -/
def rowsSince (content : Content iso) (accountId sinceDate : String) : List Thread :=
  scan (fun thread => OrderDual.toDual (position thread))
    (select content accountId (rangeSince sinceDate))

def listActiveThreadsBefore (answers : Answers) (content : Content iso)
    (accountId beforeDate : String) : List Thread :=
  let items := rowsBefore content accountId beforeDate
  items.take (answers.count items)

def listActiveThreadsSince (answers : Answers) (content : Content iso)
    (accountId sinceDate : String) : List Thread :=
  let items := rowsSince content accountId sinceDate
  items.take (answers.count items)

/-! ## What the ranges select -/

theorem lastActivityKey_toList (status : ThreadStatus) (lastSignalAt id : String) :
    (lastActivityKey status lastSignalAt id).toList = "LASTACT#".toList ++
      (status.text.toList ++ '#' :: (lastSignalAt.toList ++ '#' :: id.toList)) := by
  simp [lastActivityKey]

theorem status_plain (status : ThreadStatus) : Above '#' status.text.toList := by
  cases status <;> decide

theorem active_lt_iff (status : ThreadStatus) :
    "active".toList < status.text.toList ↔ status ≠ .active := by
  cases status <;> decide

theorem active_le (status : ThreadStatus) : ¬ status.text.toList < "active".toList := by
  cases status <;> decide

theorem active_eq_iff (status : ThreadStatus) :
    "active".toList = status.text.toList ↔ status = .active := by
  cases status <;> decide

variable {content : Content iso} {accountId : String} {thread : Thread} {t at' : Instant}

/-- From the instant on come the active threads since then, and all that are not active. -/
theorem rangeSince_iff (h : thread.lastSignalAt = iso.toISO at') :
    rangeSince (iso.toISO t) (gsi1 thread).2 = true ↔ thread.status = .active → t ≤ at' := by
  have hstart : ("LASTACT#active#" ++ iso.toISO t).toList =
      "LASTACT#".toList ++ ("active".toList ++ '#' :: (iso.toISO t).toList) := by simp
  rw [gsi1_eq, rangeSince, decide_eq_true_eq, String.le_iff_toList_le, hstart,
    lastActivityKey_toList, append_le_append_iff,
    field_le_field_iff (by decide) (status_plain thread.status), active_lt_iff,
    active_eq_iff, le_field_iff (iso.plain t), h, ← String.le_iff_toList_le,
    iso.strictMono.le_iff_le]
  tauto

/-- Before the instant come just the active threads before it. -/
theorem rangeBefore_iff (h : thread.lastSignalAt = iso.toISO at') (hid : thread.id ≠ "") :
    rangeBefore (iso.toISO t) (gsi1 thread).2 = true ↔ thread.status = .active ∧ at' < t := by
  have hstart : "LASTACT#active#".toList =
      "LASTACT#".toList ++ ("active".toList ++ '#' :: []) := by decide
  have hend : ("LASTACT#active#" ++ iso.toISO t ++ "#").toList =
      "LASTACT#".toList ++ ("active".toList ++ '#' :: ((iso.toISO t).toList ++ '#' :: [])) := by
    simp
  have hactive : Above '#' "active".toList := by decide
  have hlast : ¬ thread.id.toList ≤ [] := by simpa [← not_lt] using hid
  have htime : (iso.toISO at').toList < (iso.toISO t).toList ↔ at' < t :=
    String.lt_iff_toList_lt.symm.trans iso.strictMono.lt_iff_lt
  rw [gsi1_eq, rangeBefore, Bool.and_eq_true, decide_eq_true_eq, decide_eq_true_eq,
    String.le_iff_toList_le, String.le_iff_toList_le, hstart, hend, lastActivityKey_toList,
    append_le_append_iff, append_le_append_iff,
    field_le_field_iff hactive (status_plain thread.status),
    field_le_field_iff (status_plain thread.status) hactive, h,
    field_le_field_iff (iso.plain at') (iso.plain t), htime]
  constructor
  · intro hrange
    rcases hrange.2 with hbelow | ⟨hsame, hat | ⟨-, hempty⟩⟩
    · exact absurd hbelow (active_le thread.status)
    · exact ⟨(active_eq_iff thread.status).mp hsame.symm, hat⟩
    · exact absurd hempty hlast
  · intro hbefore
    have hsame := (active_eq_iff thread.status).mpr hbefore.1
    exact ⟨.inr ⟨hsame, by simp [← not_lt]⟩, .inr ⟨hsame.symm, .inl hbefore.2⟩⟩

theorem mem_select {range : String → Bool} : thread ∈ select content accountId range ↔
    thread ∈ content.threads.rows ∧ thread.accountId = accountId ∧
      range (gsi1 thread).2 = true := by
  have haccount : "ACCT#" ++ thread.accountId = "ACCT#" ++ accountId ↔
      thread.accountId = accountId := by
    simp [← String.toList_inj]
  simp only [select, List.mem_filter, Bool.and_eq_true, decide_eq_true_eq, gsi1_eq, haccount]

theorem select_nodup (range : String → Bool) : (select content accountId range).Nodup :=
  (List.Nodup.of_map _ content.threads.distinct).filter _

/-! ## The partition -/

/-- The thread is an active one of the account. -/
def ActiveIn (content : Content iso) (accountId : String) (thread : Thread) : Prop :=
  thread ∈ content.threads.rows ∧ thread.accountId = accountId ∧ thread.status = .active

def AtOrAfter (iso : IsoTexts Instant) (t : Instant) (thread : Thread) : Prop :=
  ∃ at', thread.lastSignalAt = iso.toISO at' ∧ t ≤ at'

def Before (iso : IsoTexts Instant) (t : Instant) (thread : Thread) : Prop :=
  ∃ at', thread.lastSignalAt = iso.toISO at' ∧ at' < t

/-- The list holds just the threads of a kind, each once. -/
def Exactly (threads : List Thread) (kind : Thread → Prop) : Prop :=
  threads.Nodup ∧ ∀ thread, thread ∈ threads ↔ kind thread

/-- The two queries part the active threads of the account at the instant. -/
structure Parts (answers : Answers) (content : Content iso) (accountId : String) (t : Instant) :
    Prop where
  since : Exactly (listActiveThreadsSince answers content accountId (iso.toISO t)) fun thread =>
    ActiveIn content accountId thread ∧ AtOrAfter iso t thread
  before : Exactly (listActiveThreadsBefore answers content accountId (iso.toISO t)) fun thread =>
    ActiveIn content accountId thread ∧ Before iso t thread

/-- The account has active threads only, and one answer holds what each of the queries selects. -/
structure AllActive (answers : Answers) (content : Content iso) (accountId : String)
    (t : Instant) : Prop where
  active : ∀ thread ∈ content.threads.rows, thread.accountId = accountId → thread.status = .active
  since : (rowsSince content accountId (iso.toISO t)).length ≤
    answers.count (rowsSince content accountId (iso.toISO t))
  before : (rowsBefore content accountId (iso.toISO t)).length ≤
    answers.count (rowsBefore content accountId (iso.toISO t))

theorem mem_rowsSince : thread ∈ rowsSince content accountId (iso.toISO t) ↔
    (thread ∈ content.threads.rows ∧ thread.accountId = accountId) ∧
      (thread.status = .active → AtOrAfter iso t thread) := by
  rw [rowsSince, mem_scan, mem_select, and_assoc]
  refine and_congr_right fun hrow => and_congr_right fun _ => ?_
  obtain ⟨at', hat⟩ := content.timed thread hrow
  rw [rangeSince_iff hat]
  refine imp_congr_right fun _ => ⟨fun hle => ⟨at', hat, hle⟩, ?_⟩
  rintro ⟨at'', hat', hle⟩
  rwa [iso.strictMono.injective (hat.symm.trans hat')]

theorem mem_rowsBefore : thread ∈ rowsBefore content accountId (iso.toISO t) ↔
    ActiveIn content accountId thread ∧ Before iso t thread := by
  rw [rowsBefore, mem_scan, mem_select, ActiveIn, and_assoc, and_assoc]
  refine and_congr_right fun hrow => and_congr_right fun _ => ?_
  obtain ⟨at', hat⟩ := content.timed thread hrow
  rw [rangeBefore_iff hat (content.named thread hrow)]
  refine and_congr_right fun _ => ⟨fun hlt => ⟨at', hat, hlt⟩, ?_⟩
  rintro ⟨at'', hat', hlt⟩
  rwa [iso.strictMono.injective (hat.symm.trans hat')]

theorem rowsSince_nodup : (rowsSince content accountId (iso.toISO t)).Nodup :=
  (scan_perm _ _).nodup_iff.mpr (select_nodup _)

theorem rowsBefore_nodup : (rowsBefore content accountId (iso.toISO t)).Nodup :=
  (scan_perm _ _).nodup_iff.mpr (select_nodup _)

/-- The first rows of a list without repetition are all of it only where none follow. -/
theorem exactly_take_iff {rows : List Thread} (hrows : rows.Nodup) {kind : Thread → Prop}
    (hkind : ∀ thread, thread ∈ rows ↔ kind thread) (count : Nat) :
    Exactly (rows.take count) kind ↔ rows.length ≤ count := by
  constructor
  · intro hexact
    by_contra hlong
    have hlast := List.getElem_mem (l := rows) (n := count) (by omega)
    have htaken := (hexact.2 _).mpr ((hkind _).mp hlast)
    obtain ⟨i, hi, heq⟩ := List.mem_take_iff_getElem.mp htaken
    have hsame := (List.Nodup.getElem_inj_iff hrows).mp heq
    omega
  · intro hall
    rw [List.take_of_length_le hall]
    exact ⟨hrows, hkind⟩

/-- Every other status sorts behind the active one. -/
theorem position_lt {other : Thread} (hactive : thread.status = .active)
    (hother : other.status ≠ .active) : (gsi1 thread).2 < (gsi1 other).2 := by
  have hlt := (active_lt_iff other.status).mpr hother
  rw [gsi1_eq, gsi1_eq, String.lt_iff_toList_lt, lastActivityKey_toList, lastActivityKey_toList,
    append_lt_append_iff,
    field_lt_field_iff (status_plain thread.status) (status_plain other.status), hactive]
  exact .inl hlt

/-- A thread that is not active comes first in the query from the instant on. -/
theorem active_of_since {answers : Answers}
    (h : Exactly (listActiveThreadsSince answers content accountId (iso.toISO t)) fun thread =>
      ActiveIn content accountId thread ∧ AtOrAfter iso t thread)
    (hrow : thread ∈ content.threads.rows) (haccount : thread.accountId = accountId) :
    thread.status = .active := by
  by_contra hother
  have hselected : thread ∈ rowsSince content accountId (iso.toISO t) :=
    mem_rowsSince.mpr ⟨⟨hrow, haccount⟩, fun hactive => absurd hactive hother⟩
  cases hrows : rowsSince content accountId (iso.toISO t) with
  | nil =>
    rw [hrows] at hselected
    cases hselected
  | cons first rest =>
    have hcount := answers.pos _ (List.cons_ne_nil first rest)
    have hfirst : first ∈ listActiveThreadsSince answers content accountId (iso.toISO t) := by
      unfold listActiveThreadsSince
      dsimp only
      rw [hrows]
      obtain ⟨count, hcount⟩ := Nat.exists_eq_succ_of_ne_zero hcount.ne'
      rw [hcount]
      exact List.mem_cons_self
    have hactive := ((h.2 first).mp hfirst).1.2.2
    have hsorted := scan_pairwise_le (fun thread => OrderDual.toDual (position thread))
      (select content accountId (rangeSince (iso.toISO t)))
    change (rowsSince content accountId (iso.toISO t)).Pairwise _ at hsorted
    rw [hrows] at hsorted hselected
    rcases List.mem_cons.mp hselected with rfl | hlater
    · exact hother hactive
    · have hle : position thread ≤ position first := (List.pairwise_cons.mp hsorted).1 _ hlater
      have hlt : position first < position thread :=
        Prod.Lex.toLex_lt_toLex.mpr (.inl (position_lt hactive hother))
      exact absurd hlt hle.not_gt

theorem exactly_before_iff (answers : Answers) :
    Exactly (listActiveThreadsBefore answers content accountId (iso.toISO t)) (fun thread =>
        ActiveIn content accountId thread ∧ Before iso t thread) ↔
      (rowsBefore content accountId (iso.toISO t)).length ≤
        answers.count (rowsBefore content accountId (iso.toISO t)) :=
  exactly_take_iff rowsBefore_nodup (fun _ => mem_rowsBefore) _

theorem exactly_since_iff (answers : Answers) (hactive : ∀ thread ∈ content.threads.rows,
    thread.accountId = accountId → thread.status = .active) :
    Exactly (listActiveThreadsSince answers content accountId (iso.toISO t)) (fun thread =>
        ActiveIn content accountId thread ∧ AtOrAfter iso t thread) ↔
      (rowsSince content accountId (iso.toISO t)).length ≤
        answers.count (rowsSince content accountId (iso.toISO t)) := by
  refine exactly_take_iff rowsSince_nodup (fun thread => ?_) _
  rw [mem_rowsSince, ActiveIn]
  constructor
  · intro hin
    have hstatus := hactive thread hin.1.1 hin.1.2
    exact ⟨⟨hin.1.1, hin.1.2, hstatus⟩, hin.2 hstatus⟩
  · intro hin
    exact ⟨⟨hin.1.1, hin.1.2.1⟩, fun _ => hin.2⟩

/-- **The queries part the active threads just of an account that has no others.** From the
instant on, every thread that is not active is listed, and before the active ones. -/
theorem parts_iff (answers : Answers) (content : Content iso) (accountId : String) (t : Instant) :
    Parts answers content accountId t ↔ AllActive answers content accountId t := by
  constructor
  · intro hparts
    have hactive : ∀ thread ∈ content.threads.rows, thread.accountId = accountId →
        thread.status = .active :=
      fun _ hrow haccount => active_of_since hparts.since hrow haccount
    exact ⟨hactive, (exactly_since_iff answers hactive).mp hparts.since,
      (exactly_before_iff answers).mp hparts.before⟩
  · intro hall
    exact ⟨(exactly_since_iff answers hall.active).mpr hall.since,
      (exactly_before_iff answers).mpr hall.before⟩

/-! ## An archived thread -/

/-- Texts without low characters stand for themselves. -/
def plainTexts : IsoTexts { text : String // Above '#' text.toList } where
  toISO := Subtype.val
  strictMono := fun _ _ h => h
  plain := fun t => t.2

def wholeAnswers : Answers := ⟨List.length, fun _ => List.length_pos_of_ne_nil⟩

/-- An account whose one thread is of March, and archived. -/
def archivedContent : Content plainTexts where
  threads := KeyedTable.empty.put { newThread with status := .archived }
  timed := by
    intro thread hthread
    obtain rfl := List.mem_singleton.mp hthread
    exact ⟨⟨newThread.lastSignalAt, by decide⟩, rfl⟩
  named := by
    intro thread hthread
    obtain rfl := List.mem_singleton.mp hthread
    decide

def julyFirst : { text : String // Above '#' text.toList } :=
  ⟨"2026-07-01T00:00:00.000Z", by decide⟩

/-- The archived thread of March is listed as active since July. -/
theorem archived_listed :
    listActiveThreadsSince wholeAnswers archivedContent "acct-1" "2026-07-01T00:00:00.000Z" =
        [{ newThread with status := .archived }] ∧
      ¬ Parts wholeAnswers archivedContent "acct-1" julyFirst := by
  refine ⟨by decide +kernel, fun hparts => ?_⟩
  have hactive := ((parts_iff _ _ _ _).mp hparts).active _ List.mem_cons_self rfl
  cases hactive

end SesEmailAdapter.Database.ActiveThreads
