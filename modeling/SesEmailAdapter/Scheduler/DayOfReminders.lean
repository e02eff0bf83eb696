import SesEmailAdapter.Calendar.Cancellations
import SesEmailAdapter.Lib.CivilDate
import SesEmailAdapter.Scheduler.Snooze

/-! # Reminders on the day of an event

An invite that is ingested before its event starts schedules a reminder for the morning of that
day. The reminder is sent as a followup of the thread, and the worker discards it when the thread
has no followup: only a thread that was snoozed, and has not been written to since, gets it. -/

namespace SesEmailAdapter.Scheduler.DayOfReminders
open Lib Lib.CivilDate
open SesEmailAdapter.Types Database Database.Shared
open Database.ThreadDatabase
open Calendar.Cancellations (CancelledAtIngest)
open Scheduler.Followups Scheduler.Snooze

/-! ## Scheduling at ingest -/

/-- The date library: the instant of a start time, read in UTC, where it is valid, and the day of
an instant as `yyyyMMdd`. -/
structure Dates where
  fromISO : String → Option Nat
  toFormat : Nat → String

structure Reminder where
  fireAt : Nat
  suffix : String
deriving DecidableEq, Repr

/-- `startOf("day").set({ hour: 8 })`, in UTC -/
def morningOf (eventStart : Nat) : Nat := eventStart / DAY * DAY + 8 * (60 * MINUTE)

/-- An event that is still to come has a reminder. -/
def reminderOf (dates : Dates) (now : Nat) (startTime : String) : Option Reminder :=
  if startTime = "" then none
  else match dates.fromISO startTime with
    | none => none
    | some eventStart =>
      if now < eventStart then
        some ⟨morningOf eventStart, "calendar." ++ dates.toFormat eventStart⟩
      else none

/-- A reminder that cannot be scheduled is logged. -/
def scheduleReminder (env : Env) (dates : Dates) (now : Nat)
    (accountId threadId calendarSignalId startTime : String) : FollowupProg Unit :=
  match reminderOf dates now startTime with
  | none => return ()
  | some reminder => do
    let _ ← createFollowupSchedule env accountId threadId calendarSignalId reminder.suffix
      reminder.fireAt
    return ()

/-! ## Histories -/

/-- A snapshot of an event that ingest saved, with the time of its reminder. -/
structure Snapshot where
  accountId : String
  threadId : String
  event : CalendarEventData
  savedAt : Nat
  reminder : Option Nat

structure State where
  world : World
  snapshots : List Snapshot

inductive Op
  /-- An invite of a mail of the thread, a cancellation among them. -/
  | ingest (accountId threadId calendarSignalId : String) (event : CalendarEventData)
      (faults : Faults Fate)
  | other (op : Snooze.Op)

def ingest (env : Env) (dates : Dates) (accountId threadId calendarSignalId : String)
    (event : CalendarEventData) (faults : Faults Fate) (s : State) : State where
  world := run (scheduleReminder env dates s.world.now accountId threadId calendarSignalId
    event.startTime) faults s.world
  snapshots := {
    accountId, threadId, event
    savedAt := s.world.now
    reminder := (reminderOf dates s.world.now event.startTime).map fun reminder =>
      atSecond reminder.fireAt } :: s.snapshots

def step (env : Env) (dates : Dates) (s : State) : Op → State
  | .ingest accountId threadId calendarSignalId event faults =>
    ingest env dates accountId threadId calendarSignalId event faults s
  | .other op => { s with world := Snooze.step env s.world op }

def initial (now : Nat) : State := ⟨Snooze.initial now, []⟩

/-! ## The property -/

def SameEvent (a b : Snapshot) : Prop :=
  a.accountId = b.accountId ∧ a.event.veventUid = b.event.veventUid

/-- The snapshot has the higher sequence number, or the same one and was saved no earlier. -/
def Outranks (a b : Snapshot) : Prop :=
  b.event.sequence < a.event.sequence ∨
    (b.event.sequence = a.event.sequence ∧ b.savedAt ≤ a.savedAt)

/-- The last word on the event is not that it is cancelled. -/
def Standing (s : State) (snapshot : Snapshot) : Prop :=
  ∃ last ∈ s.snapshots, SameEvent snapshot last ∧ ¬ CancelledAtIngest last.event ∧
    ∀ other ∈ s.snapshots, SameEvent snapshot other → Outranks last other

def threadOf (w : World) (message : FollowupMessage) : Option Thread :=
  w.table.threads.get (message.accountId, message.threadId)

/-- The message is the reminder of an event that is not cancelled, in a thread that is not
deleted. -/
structure LiveReminder (s : State) (queued : Queued) : Prop where
  event : ∃ snapshot ∈ s.snapshots, Standing s snapshot ∧
    queued.message = ⟨snapshot.accountId, snapshot.threadId⟩ ∧ snapshot.reminder = some queued.due
  thread : ∃ thread, threadOf s.world queued.message = some thread ∧ thread.status ≠ .deleted

/-- Once the message is handled, whatever failed before, the user has been notified. -/
def Notifies (env : Env) (w : World) (message : FollowupMessage) : Prop :=
  ∀ faults, ((process (env.toISOString w.now) message).run service faults w).result =
      some (.ok ()) →
    (run (process (env.toISOString w.now) message) faults w).notified =
      (message.accountId, message.threadId) :: w.notified

/-- A reminder that is delivered while its event is live notifies the user. -/
def Reminds (env : Env) (s : State) : Op → Prop
  | .other (.deliver i _) => ∀ queued, s.world.queue[i]? = some queued →
      queued.due ≤ s.world.now → LiveReminder s queued → Notifies env s.world queued.message
  | _ => True

/-! ## The condition -/

/-- The thread has a followup, and is active or archived. -/
def Snoozed (w : World) (message : FollowupMessage) : Prop :=
  ∃ thread, threadOf w message = some thread ∧ followupOf thread ≠ none ∧
    (thread.status = .active ∨ thread.status = .archived)

/-- A reminder that is delivered while its event is live finds a snoozed thread. -/
def FindsSnooze (s : State) : Op → Prop
  | .other (.deliver i _) => ∀ queued, s.world.queue[i]? = some queued →
      queued.due ≤ s.world.now → LiveReminder s queued → Snoozed s.world queued.message
  | _ => True

variable {env : Env} {dates : Dates} {w : World} {message : FollowupMessage} {s : State}

/-! ### What ingest schedules -/

variable {accountId threadId calendarSignalId : String}

/-- The reminder of an invite is the one of the histories of followups. -/
theorem world_ingest {event : CalendarEventData}
    {reminder : Reminder} (h : reminderOf dates s.world.now event.startTime = some reminder) :
    (step env dates s (.ingest accountId threadId calendarSignalId event [])).world =
      Snooze.step env s.world
        (.calendarReminder accountId threadId calendarSignalId reminder.suffix reminder.fireAt []) := by
  have hprogram : scheduleReminder env dates s.world.now accountId threadId calendarSignalId
      event.startTime = (fun _ => ()) <$> createFollowupSchedule env accountId threadId
        calendarSignalId reminder.suffix reminder.fireAt := by
    rw [scheduleReminder, h]
    rfl
  simp only [step, ingest, Snooze.step, run, hprogram, Prog.run_nil, Prog.eval_map]

/-- A schedule of the thread stands for the reminder, at the time that its snapshot has. -/
theorem ingest_schedules {event : CalendarEventData}
    {reminder : Reminder} (h : reminderOf dates s.world.now event.startTime = some reminder) :
    (step env dates s (.ingest accountId threadId calendarSignalId event [])).world.schedules.get
        (env.buildScheduleName accountId calendarSignalId reminder.suffix) =
      some ⟨env.buildScheduleName accountId calendarSignalId reminder.suffix,
        atSecond reminder.fireAt, ⟨accountId, threadId⟩⟩ := by
  rw [world_ingest h]
  have hreached := (leads_createSchedule (T := (· = some Fate.done)) (w := s.world)
    (followupSchedule env accountId threadId calendarSignalId reminder.suffix
      reminder.fireAt)).run rfl [] fun turn hturn => absurd hturn List.not_mem_nil
  obtain ⟨-, hworld⟩ | ⟨⟨turn, hdone, hne⟩, -⟩ := hreached
  · show (Prog.run service _ [] s.world).store.schedules.get _ = _
    rw [createFollowupSchedule, hworld, withSchedule]
    exact KeyedTable.get_put_self ..
  · exact absurd hdone hne

/-! ### What the worker does -/

/-- The user is told of the thread, or the message is not handled. -/
def Told (w : World) (message : FollowupMessage) (result : Option (Except DbError Unit))
    (w' : World) : Prop :=
  result = some (.ok ()) → w'.notified = (message.accountId, message.threadId) :: w.notified

theorem told_none {w' : World} : Told w message none w' := fun h => by cases h

theorem told_error {error : DbError} {w' : World} :
    Told w message (some (.error error)) w' := fun h => by cases h

theorem leads_notifyThread {T : Option Fate → Prop} {thread : Thread} {w₁ : World}
    (hid : thread.id = message.threadId) (hsame : w₁.notified = w.notified) :
    (notifyThread message.accountId thread).Leads service T (Told w message) w₁ := by
  refine ⟨fun _ => told_none, fun turn _ => ?_⟩
  cases turn with
  | done =>
    refine ⟨fun _ => ?_, fun _ => told_none⟩
    show (message.accountId, thread.id) :: w₁.notified = _
    rw [hid, hsame]
  | refused => exact ⟨told_error, fun _ => told_none⟩
  | lost => exact ⟨told_error, fun _ => told_none⟩

/-- A snoozed thread is notified of, or the message is handled again. -/
theorem notifies_of_snoozed (h : Snoozed w message) : Notifies env w message := by
  obtain ⟨thread, hget, hfollowup, hstatus⟩ := h
  obtain ⟨followupAt, hfollowup⟩ := Option.ne_none_iff_exists'.mp hfollowup
  have hid : thread.id = message.threadId := by
    have hkey : SignalsTable.threadKey thread = (message.accountId, message.threadId) :=
      KeyedTable.key_of_get hget
    exact (Prod.mk.inj hkey).2
  have hleads : (process (env.toISOString w.now) message).Leads service (fun _ => True)
      (Told w message) w := by
    refine leads_getThread told_none ⟨told_error, fun _ => told_none⟩ ?_
    rw [show w.table.threads.get (message.accountId, message.threadId) = some thread from hget]
    dsimp only
    obtain hactive | harchived := hstatus
    · rw [if_neg (by rw [hactive]; decide), hfollowup, hactive]
      exact leads_notifyThread hid rfl
    · rw [if_neg (by rw [harchived]; decide), hfollowup, harchived]
      refine ⟨fun _ => told_none, fun turn _ => ?_⟩
      cases turn with
      | done => exact leads_notifyThread hid rfl
      | refused => exact ⟨told_error, fun _ => told_none⟩
      | lost => exact ⟨told_error, fun _ => told_none⟩
  exact fun faults => hleads.run trivial faults fun _ _ => trivial

/-- Without a followup, or in a thread that is neither active nor archived, nothing is sent. -/
theorem process_idle (h : ¬ Snoozed w message) (now : String) :
    (process now message).eval service w = (.ok (), w) := by
  have hread : (db (getThread message.accountId message.threadId)).eval service w =
      (.ok (threadOf w message), w) := rfl
  rw [process, Prog.eval_bind, hread]
  cases hget : threadOf w message with
  | none => rfl
  | some thread =>
    dsimp only
    by_cases hdeleted : thread.status = .deleted
    · rw [if_pos hdeleted]
      rfl
    · rw [if_neg hdeleted]
      cases hfollowup : followupOf thread with
      | none => rfl
      | some followupAt =>
        have hsome : followupOf thread ≠ none := by rw [hfollowup]; exact Option.some_ne_none _
        cases hstatus : thread.status with
        | active => exact absurd ⟨thread, hget, hsome, .inl hstatus⟩ h
        | archived => exact absurd ⟨thread, hget, hsome, .inr hstatus⟩ h
        | deleted => rfl
        | reportViolation => rfl

theorem not_notifies (h : ¬ Snoozed w message) : ¬ Notifies env w message := by
  intro hnotifies
  have hrun := @Prog.run_nil _ _ _ _ _ service (process (env.toISOString w.now) message) w
  rw [process_idle h] at hrun
  have htold := hnotifies [] hrun.1
  rw [run, hrun.2] at htold
  exact absurd htold.symm (List.cons_ne_self _ _)

theorem notifies_iff : Notifies env w message ↔ Snoozed w message :=
  ⟨fun h => by_contra fun hnot => not_notifies hnot h, notifies_of_snoozed⟩

/-- **When reminders reach the user.** In a run, every reminder of a live event notifies just when
each of them finds its thread snoozed. -/
theorem reminders_fire_iff (env : Env) (dates : Dates) (now : Nat) (ops : List Op) :
    EachFits (step env dates) (Reminds env) (initial now) ops ↔
      EachFits (step env dates) FindsSnooze (initial now) ops := by
  refine eachFits_congr (fun s op => ?_) _ ops
  cases op with
  | ingest => exact Iff.rfl
  | other op =>
    cases op with
    | deliver i faults =>
      exact forall_congr' fun queued => forall_congr' fun _ => forall_congr' fun _ =>
        forall_congr' fun _ => notifies_iff
    | _ => exact Iff.rfl

/-! ### An invite in a thread that was never snoozed -/

def sampleDates : Dates where
  fromISO startTime :=
    if startTime = "2026-03-02T15:00:00.000Z" then some (nine + minutes 1800) else none
  toFormat _ := "20260302"

def sampleEvent : CalendarEventData where
  title := "Review"
  startTime := "2026-03-02T15:00:00.000Z"
  organizer := "ann@org.test"
  organizerCn := none
  veventUid := "uid-1"
  method := "REQUEST"
  sequence := 0
  status := none
  recurrenceId := none
  linkedSignalId := "sgn-1"
  rsvpResponse := none
  sesMessageId := none

/-- The invite comes the day before, and its reminder is sent at eight in the morning. -/
def invited : List Op :=
  [.other (.newThread sampleThread []), .ingest "acct-1" "thr-1" "sgn-2" sampleEvent [],
    .other (.tick (minutes 1380)), .other (.fire "acct-1.sgn-2.calendar.20260302")]

def eightNextDay : State := invited.foldl (step sampleEnv sampleDates) (initial nine)

def sampleSnapshot : Snapshot :=
  ⟨"acct-1", "thr-1", sampleEvent, nine, some (nine + minutes 1380)⟩

theorem snapshots_eightNextDay : eightNextDay.snapshots = [sampleSnapshot] := by rfl

theorem not_cancelled_sample : ¬ CancelledAtIngest sampleEvent := by
  intro h
  cases h with
  | inl hstatus => cases hstatus
  | inr hmethod => exact absurd hmethod (by decide +kernel)

theorem standing_sample : Standing eightNextDay sampleSnapshot := by
  refine ⟨sampleSnapshot, ?_, ⟨rfl, rfl⟩, not_cancelled_sample, fun other hother _ => ?_⟩
  · rw [snapshots_eightNextDay]
    exact List.mem_singleton_self _
  · rw [snapshots_eightNextDay, List.mem_singleton] at hother
    rw [hother]
    exact .inr ⟨rfl, le_rfl⟩

theorem live_sample : LiveReminder eightNextDay ⟨⟨"acct-1", "thr-1"⟩, nine + minutes 1380⟩ where
  event := ⟨sampleSnapshot, by rw [snapshots_eightNextDay]; exact List.mem_singleton_self _,
    standing_sample, rfl, rfl⟩
  thread := ⟨{ sampleThread with followupAt := none }, by decide +kernel, by decide⟩

/-- The reminder of a live event is discarded. -/
theorem invited_not_reminded :
    ¬ EachFits (step sampleEnv sampleDates) (Reminds sampleEnv) (initial nine)
      (invited ++ [.other (.deliver 0 [])]) := by
  intro h
  obtain ⟨-, -, -, -, hlast, -⟩ := h
  have hnotifies := hlast ⟨⟨"acct-1", "thr-1"⟩, nine + minutes 1380⟩ (by decide +kernel)
    (by decide +kernel) live_sample
  obtain ⟨thread, hget, hfollowup, -⟩ := notifies_iff.mp hnotifies
  have hthread : threadOf eightNextDay.world ⟨"acct-1", "thr-1"⟩ =
      some { sampleThread with followupAt := none } := by decide +kernel
  obtain rfl := Option.some.inj (hthread.symm.trans hget)
  exact hfollowup rfl

end SesEmailAdapter.Scheduler.DayOfReminders
