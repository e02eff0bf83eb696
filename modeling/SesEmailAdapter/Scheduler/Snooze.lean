import SesEmailAdapter.Lib.Runs
import SesEmailAdapter.Scheduler.Followups

/-! # Snoozes

The followups of threads over time: they are set, changed and cleared, reminders of calendar days
are scheduled beside them, and the messages arrive in any order. A message acts on the thread it
names whatever followup the thread has by then. -/

namespace SesEmailAdapter.Scheduler.Snooze
open Lib
open SesEmailAdapter.Types Database Database.Shared
open Database.SignalsTable (Store)
open Database.ThreadDatabase
open Processor.InboundMessage (threadDelta)
open Scheduler.Followups

/-! ## Histories -/

inductive Op
  | tick (ms : Nat)
  | newThread (thread : Thread) (faults : Faults Fate)
  /-- New mail in a thread, as it was read and as it is to be. -/
  | newMail (matchedThread thread : Thread) (now : String) (faults : Faults Fate)
  /-- A write of the status alone. -/
  | setStatus (accountId id : String) (status : ThreadStatus) (lastSignalAt now : String)
      (faults : Faults Fate)
  | patch (accountId threadId : String) (body : UpdateThreadRequest) (faults : Faults Fate)
  | calendarReminder (accountId threadId calendarSignalId suffix : String) (fireAt : Nat)
      (faults : Faults Fate)
  /-- A schedule sends its message. -/
  | fire (name : String)
  /-- A message arrives, not always for the last time. -/
  | deliver (i : Nat) (faults : Faults Fate)
  | acknowledge (i : Nat)
  /-- The row of a thread expires. -/
  | expire (accountId id : String)

def run {α : Type} (p : FollowupProg α) (faults : Faults Fate) (w : World) : World :=
  (p.run service faults w).store

def fire (name : String) (w : World) : World :=
  match w.schedules.get name with
  | none => w
  | some schedule =>
    if schedule.fireAt ≤ w.now then { w with
      queue := w.queue ++ [⟨schedule.message, schedule.fireAt⟩]
      schedules := w.schedules.erase name }
    else w

def deliver (env : Env) (i : Nat) (faults : Faults Fate) (w : World) : World :=
  match w.queue[i]? with
  | none => w
  | some queued =>
    if queued.due ≤ w.now then run (process (env.toISOString w.now) queued.message) faults w else w

def step (env : Env) (w : World) : Op → World
  | .tick ms => { w with now := w.now + ms }
  | .newThread thread faults => run (db (createThread { thread with followupAt := none })) faults w
  | .newMail matchedThread thread now faults =>
    run (db (updateThread matchedThread.accountId matchedThread.id thread.status
      thread.lastSignalAt now (threadDelta matchedThread thread))) faults w
  | .setStatus accountId id status lastSignalAt now faults =>
    run (db (updateThread accountId id status lastSignalAt now noFields)) faults w
  | .patch accountId threadId body faults =>
    run (patchThread env w.now accountId threadId body) faults w
  | .calendarReminder accountId threadId calendarSignalId suffix fireAt faults =>
    run (createFollowupSchedule env accountId threadId calendarSignalId suffix fireAt) faults w
  | .fire name => fire name w
  | .deliver i faults => deliver env i faults w
  | .acknowledge i => { w with queue := w.queue.eraseIdx i }
  | .expire accountId id =>
    { w with table := { w.table with threads := w.table.threads.erase (accountId, id) } }

def initial (now : Nat) : World := ⟨now, ⟨.empty, .empty⟩, [], .empty, []⟩

/-! ## The property -/

def currentFollowup (w : World) (message : FollowupMessage) : Option String :=
  (w.table.threads.get (message.accountId, message.threadId)).bind followupOf

/-- The thread has a followup, and its time has come. -/
def Due (env : Env) (w : World) (message : FollowupMessage) : Prop :=
  ∃ followupAt, currentFollowup w message = some followupAt ∧ env.getTime followupAt ≤ w.now

/-- No notification was sent, and no thread was written. -/
def Idle (w w' : World) : Prop := w'.notified = w.notified ∧ w'.table = w.table

/-- A message acts only on a thread whose followup has come. -/
def Timely (env : Env) (w : World) : Op → Prop
  | .deliver i faults => ∀ queued, w.queue[i]? = some queued →
      Idle w (deliver env i faults w) ∨ Due env w queued.message
  | _ => True

/-! ## The condition -/

/-- The schedule is the one that a followup of the thread at the given time replaces. -/
def Superseded (env : Env) (w : World) (accountId threadId : String) (time : Nat)
    (schedule : Schedule) : Prop :=
  900000 < time - w.now ∧ schedule.name = env.buildScheduleName accountId threadId "followup"

/-- No message that stays behind arrives before the time, a schedule loses no fraction of it, and
a request that fails on the way leaves no followup that is later still. -/
structure Settable (env : Env) (w : World) (message : FollowupMessage) (time : Nat)
    (faults : Faults Fate) : Prop where
  queue : ∀ queued ∈ w.queue, queued.message = message → time ≤ queued.due
  schedules : ∀ schedule ∈ w.schedules.rows, schedule.message = message →
    ¬ Superseded env w message.accountId message.threadId time schedule → time ≤ schedule.fireAt
  wholeSecond : 900000 < time - w.now → time % 1000 = 0
  completes : (∀ turn ∈ faults, turn = some .done) ∨
    ∀ followupAt, currentFollowup w message = some followupAt → env.getTime followupAt ≤ time

/-- A request sets a followup only where no message of its thread comes earlier, and a reminder is
scheduled no earlier than the followup. -/
def Fits (env : Env) (w : World) : Op → Prop
  | .patch accountId threadId body faults => ∀ thread followupAt,
      w.table.threads.get (accountId, threadId) = some thread →
      body.status ≠ some .reportViolation → body.followup = some followupAt →
      followupError env w.now thread (env.getTime followupAt) = none →
      Settable env w ⟨accountId, threadId⟩ (env.getTime followupAt) faults
  | .calendarReminder accountId threadId _ _ fireAt _ => ∀ followupAt,
      currentFollowup w ⟨accountId, threadId⟩ = some followupAt →
      env.getTime followupAt ≤ atSecond fireAt
  | _ => True

/-! ## The invariant -/

/-- The messages under way, with the time from which each can arrive. -/
def pending (w : World) : List (FollowupMessage × Nat) :=
  w.queue.map (fun queued => (queued.message, queued.due)) ++
    w.schedules.rows.map (fun schedule => (schedule.message, schedule.fireAt))

/-- No message under way comes before the followup of its thread. -/
def Respected (env : Env) (w : World) : Prop :=
  ∀ message due, (message, due) ∈ pending w → ∀ followupAt,
    currentFollowup w message = some followupAt → env.getTime followupAt ≤ due

variable {env : Env} {w w' : World} {message : FollowupMessage} {time : Nat}
  {T : Option Fate → Prop}

theorem mem_pending {due : Nat} : (message, due) ∈ pending w ↔
    (∃ queued ∈ w.queue, queued.message = message ∧ queued.due = due) ∨
      ∃ schedule ∈ w.schedules.rows, schedule.message = message ∧ schedule.fireAt = due := by
  simp [pending]

theorem Respected.mono (h : Respected env w) (hpending : pending w' ⊆ pending w)
    (hfollowup : ∀ message followupAt, currentFollowup w' message = some followupAt →
      currentFollowup w message = some followupAt) : Respected env w' := by
  intro message due hmem followupAt hcurrent
  exact h message due (hpending hmem) followupAt (hfollowup _ _ hcurrent)

/-! ### Writes of threads -/

def withTable (w : World) (c : SignalsTable.Cmd) : World :=
  { w with table := (SignalsTable.exec c w.table).2 }

/-- The followup that an update leaves a thread with. -/
theorem currentFollowup_updateThread (w : World) (accountId id : String) (status : ThreadStatus)
    (lastSignalAt now : String) (fields : SignalsTable.UpdateThreadFields)
    (message : FollowupMessage) :
    currentFollowup (withTable w (.updateThread accountId id status lastSignalAt now fields))
        message =
      if message = ⟨accountId, id⟩ then
        match fields.followupAt with
        | some followupAt => (some followupAt).filter (· ≠ "")
        | none => currentFollowup w message
      else currentFollowup w message := by
  obtain ⟨account, threadId⟩ := message
  have hkey : SignalsTable.threadKey (fields.apply status lastSignalAt now
      ((w.table.threads.get (accountId, id)).getD (SignalsTable.bareThread accountId id now))) =
        (accountId, id) := by
    cases hget : w.table.threads.get (accountId, id) with
    | none => rfl
    | some thread =>
      have hstored : SignalsTable.threadKey thread = (accountId, id) := KeyedTable.key_of_get hget
      exact hstored
  simp only [currentFollowup, withTable, SignalsTable.exec, KeyedTable.get_put, hkey,
    Prod.mk.injEq, FollowupMessage.mk.injEq]
  by_cases hsame : account = accountId ∧ threadId = id
  · obtain ⟨rfl, rfl⟩ := hsame
    simp only [and_self, if_true, Option.bind_some]
    cases hfield : fields.followupAt with
    | some followupAt => simp [followupOf, SignalsTable.UpdateThreadFields.apply, hfield]
    | none =>
      cases hget : w.table.threads.get (account, threadId) with
      | none => simp [followupOf, SignalsTable.UpdateThreadFields.apply, hfield,
          SignalsTable.bareThread]
      | some thread => simp [followupOf, SignalsTable.UpdateThreadFields.apply, hfield]
  · rw [if_neg hsame, if_neg hsame]

/-- An update that sets a followup sets one that no message of its thread precedes. -/
theorem Respected.updateThread (h : Respected env w) (accountId id : String)
    (status : ThreadStatus) (lastSignalAt now : String) (fields : SignalsTable.UpdateThreadFields)
    (hset : ∀ followupAt, fields.followupAt = some followupAt → followupAt ≠ "" →
      ∀ due, (⟨accountId, id⟩, due) ∈ pending w → env.getTime followupAt ≤ due) :
    Respected env
      (withTable w (.updateThread accountId id status lastSignalAt now fields)) := by
  intro message due hmem followupAt hcurrent
  change (message, due) ∈ pending w at hmem
  rw [currentFollowup_updateThread] at hcurrent
  by_cases hsame : message = ⟨accountId, id⟩
  · rw [if_pos hsame] at hcurrent
    cases hfield : fields.followupAt with
    | none =>
      rw [hfield] at hcurrent
      exact h message due hmem followupAt hcurrent
    | some newFollowup =>
      rw [hfield] at hcurrent
      obtain ⟨heq, hne⟩ := Option.filter_eq_some_iff.mp hcurrent
      cases heq
      exact hset _ hfield (of_decide_eq_true hne) due (hsame ▸ hmem)
  · rw [if_neg hsame] at hcurrent
    exact h message due hmem followupAt hcurrent

theorem leads_getThread {α : Type} {Q : Option α → World → Prop} {accountId id : String}
    {k : Except DbError (Option Thread) → FollowupProg α} (hcrash : Q none w)
    (herror : (k (.error SignalsTable.requestFailed)).Leads service T Q w)
    (hok : (k (.ok (w.table.threads.get (accountId, id)))).Leads service T Q w) :
    (db (getThread accountId id) >>= k).Leads service T Q w := by
  refine ⟨fun _ => hcrash, fun turn _ => ?_⟩
  cases turn with
  | done => exact hok
  | refused => exact herror
  | lost => exact herror

/-- A new thread has no followup. -/
theorem Respected.putNewThread (h : Respected env w) (thread : Thread)
    (hnone : thread.followupAt = none) : Respected env (withTable w (.putNewThread thread)) := by
  simp only [withTable, SignalsTable.exec]
  split
  · exact h
  · refine h.mono (fun _ hmem => hmem) fun message followupAt hcurrent => ?_
    simp only [currentFollowup, KeyedTable.get_put] at hcurrent
    split at hcurrent
    · simp [followupOf, hnone] at hcurrent
    · exact hcurrent

/-- A call that sends no message and sets no followup. -/
def Quiet : Cmd → Prop
  | .db (.getThread ..) => True
  | .db (.querySignals ..) => True
  | .db (.putNewThread thread) => thread.followupAt = none
  | .db (.updateThread _ _ _ _ _ fields) =>
    ∀ followupAt, fields.followupAt = some followupAt → followupAt = ""
  | .saveSender .. => True
  | .notifyThread .. => True
  | _ => False

theorem Respected.exec {c : Cmd} (hquiet : Quiet c) (h : Respected env w) :
    Respected env (Followups.exec c w).2 := by
  cases c with
  | send message delaySeconds => exact hquiet.elim
  | createSchedule schedule => exact hquiet.elim
  | updateSchedule schedule => exact hquiet.elim
  | saveSender accountId recipientAddress senderETLD1 => exact h
  | notifyThread accountId thread urgency => exact h
  | db c =>
    cases c with
    | getThread accountId id => exact h
    | querySignals accountId partition => exact h
    | putNewThread thread => exact h.putNewThread thread hquiet
    | updateThread accountId id status lastSignalAt now fields =>
      exact h.updateThread accountId id status lastSignalAt now fields
        fun followupAt hfield hne => absurd (hquiet followupAt hfield) hne
    | _ => exact hquiet.elim

theorem Respected.quiet {c : Cmd} (hquiet : Quiet c) (h : Respected env w) (turn : Fate) :
    Respected env (service.settle c w turn).2 := by
  show Respected env (settleRequest Followups.exec failure c w turn).2
  obtain hstore | hstore := settleRequest_store Followups.exec failure c w turn
  · rw [hstore]
    exact h
  · rw [hstore]
    exact h.exec hquiet

theorem Respected.leads (h : Respected env w) {α : Type} {p : FollowupProg α}
    (hp : p.Only Quiet) : p.Leads service T (fun _ => Respected env) w :=
  Prog.Only.leads (fun _ _ turn hquiet h => Respected.quiet hquiet h turn) hp h

theorem Respected.run (h : Respected env w) {α : Type} {p : FollowupProg α} (hp : p.Only Quiet)
    (faults : Faults Fate) : Respected env (run p faults w) :=
  (h.leads (T := fun _ => True) hp).run trivial faults fun _ _ => trivial

variable {faults : Faults Fate} {fields : SignalsTable.UpdateThreadFields}

theorem quiet_updateThread {accountId id : String} {status : ThreadStatus}
    {lastSignalAt now : String}
    (hset : ∀ followupAt, fields.followupAt = some followupAt → followupAt = "") :
    (db (updateThread accountId id status lastSignalAt now fields)).Only Quiet :=
  ⟨hset, fun _ => trivial⟩

theorem quiet_createThread {thread : Thread} (hnone : thread.followupAt = none) :
    (db (createThread thread)).Only Quiet := by
  refine Prog.Only.embed (And.intro hnone fun put => ?_)
  change Except SignalsTable.WriteError Unit at put
  match put with
  | .ok () => exact trivial
  | .error (.db error) => exact trivial
  | .error .conditionFailed =>
    refine And.intro trivial fun existing => ?_
    change Except DbError (Option Thread) at existing
    match existing with
    | .error error => exact trivial
    | .ok none => exact trivial
    | .ok (some existing) =>
      simp only [Prog.bind]
      split
      · exact trivial
      · exact trivial

/-! ### Delivery -/

theorem quiet_process (now : String) (message : FollowupMessage) :
    (process now message).Only Quiet := by
  refine And.intro trivial fun threadResult => ?_
  change Except DbError (Option Thread) at threadResult
  obtain error | _ | thread := threadResult
  · exact trivial
  · exact trivial
  · simp only [Prog.embed, Prog.bind]
    split
    · exact trivial
    · cases hfollowup : followupOf thread with
      | none => exact trivial
      | some followupAt =>
        cases hstatus : thread.status with
        | active => exact ⟨trivial, fun _ => trivial⟩
        | archived =>
          refine And.intro (fun followupAt hfield => by cases hfield) fun updateResult => ?_
          change Except DbError Unit at updateResult
          cases updateResult with
          | error error => exact trivial
          | ok => exact ⟨trivial, fun _ => trivial⟩
        | deleted => exact trivial
        | reportViolation => exact trivial

/-- A message about a thread without a followup is discarded. -/
theorem process_discards (hnone : currentFollowup w message = none) (now : String)
    (faults : Faults Fate) : run (process now message) faults w = w := by
  have hleads : (process now message).Leads service (fun _ => True) (fun _ w' => w' = w) w := by
    refine leads_getThread rfl ⟨rfl, fun _ => rfl⟩ ?_
    cases hget : w.table.threads.get (message.accountId, message.threadId) with
    | none => exact ⟨rfl, fun _ => rfl⟩
    | some thread =>
      have hfollowup : followupOf thread = none := by
        simpa [currentFollowup, hget] using hnone
      simp only [hfollowup]
      split
      · exact ⟨rfl, fun _ => rfl⟩
      · exact ⟨rfl, fun _ => rfl⟩
  exact hleads.run trivial faults fun _ _ => trivial

theorem Respected.deliver (h : Respected env w) (i : Nat) (faults : Faults Fate) :
    Respected env (deliver env i faults w) := by
  unfold Snooze.deliver
  cases hqueued : w.queue[i]? with
  | none => exact h
  | some queued =>
    dsimp only
    split
    · exact h.run (quiet_process _ _) faults
    · exact h

/-- A message that arrives finds a followup whose time has come, or does nothing. -/
theorem Respected.timely (h : Respected env w) (op : Op) : Timely env w op := by
  cases op with
  | deliver i faults =>
    intro queued hqueued
    simp only [Snooze.deliver, hqueued]
    by_cases hdue : queued.due ≤ w.now
    · rw [if_pos hdue]
      cases hcurrent : currentFollowup w queued.message with
      | none =>
        left
        rw [process_discards hcurrent]
        exact ⟨rfl, rfl⟩
      | some followupAt =>
        right
        have hmem : (queued.message, queued.due) ∈ pending w :=
          mem_pending.mpr (.inl ⟨queued, List.mem_of_getElem? hqueued, rfl, rfl⟩)
        exact ⟨followupAt, hcurrent, (h _ _ hmem followupAt hcurrent).trans hdue⟩
    · rw [if_neg hdue]
      exact .inl ⟨rfl, rfl⟩
  | _ => exact trivial

/-! ### Messages -/

/-- A message more under way, and no thread changed. -/
theorem Respected.add (h : Respected env w) {due : Nat} (htable : w'.table = w.table)
    (hpending : ∀ entry ∈ pending w', entry = (message, due) ∨ entry ∈ pending w)
    (hdue : ∀ followupAt, currentFollowup w message = some followupAt →
      env.getTime followupAt ≤ due) : Respected env w' := by
  intro other otherDue hmem followupAt hcurrent
  have hsame : currentFollowup w' other = currentFollowup w other := by
    simp only [currentFollowup, htable]
  rw [hsame] at hcurrent
  obtain heq | hmem := hpending _ hmem
  · cases heq
    exact hdue followupAt hcurrent
  · exact h other otherDue hmem followupAt hcurrent

/-- A request of the program went wrong. -/
def Faulty (T : Option Fate → Prop) : Prop := ∃ turn, T turn ∧ turn ≠ some .done

/-- The program succeeded and took one world to the other, or a request of it went wrong. -/
def Reaches {ε : Type} (T : Option Fate → Prop) (w w₁ : World) (result : Option (Except ε Unit))
    (w' : World) : Prop :=
  (result = some (.ok ()) ∧ w' = w₁) ∨
    (Faulty T ∧ result ≠ some (.ok ()) ∧ (w' = w ∨ w' = w₁))

def withQueued (w : World) (queued : Queued) : World := { w with queue := w.queue ++ [queued] }

def withSchedule (w : World) (schedule : Schedule) : World :=
  { w with schedules := w.schedules.put schedule }

theorem faulty_none (h : T none) : Faulty T := ⟨none, h, nofun⟩

theorem Faulty.turn {turn : Fate} (h : T (some turn)) (hne : turn ≠ .done) : Faulty T :=
  ⟨some turn, h, fun heq => hne (Option.some.inj heq)⟩

/-- After the last answer of a program that reports success. -/
theorem leads_reached {ε : Type} (w w₁ : World) :
    (.ret (.ok ()) : FollowupProg (Except ε Unit)).Leads service T (Reaches T w w₁) w₁ :=
  ⟨.inl ⟨rfl, rfl⟩, fun hcrash => .inr ⟨faulty_none hcrash, nofun, .inr rfl⟩⟩

theorem leads_failed {ε : Type} {w₁ : World} (hfaulty : Faulty T) (hw : w' = w ∨ w' = w₁)
    (error : ε) :
    (.ret (.error error) : FollowupProg (Except ε Unit)).Leads service T (Reaches T w w₁) w' :=
  ⟨.inr ⟨hfaulty, nofun, hw⟩, fun hcrash => .inr ⟨faulty_none hcrash, nofun, hw⟩⟩

theorem leads_createSchedule (schedule : Schedule) :
    (createSchedule schedule).Leads service T (Reaches T w (withSchedule w schedule)) w := by
  refine ⟨fun hcrash => .inr ⟨faulty_none hcrash, nofun, .inl rfl⟩, fun turn hturn => ?_⟩
  cases hget : w.schedules.get schedule.name with
  | none =>
    cases turn with
    | done =>
      simp only [service, settleRequest, Followups.exec, hget]
      exact leads_reached w _
    | refused => exact leads_failed (.turn hturn nofun) (.inl rfl) _
    | lost =>
      simp only [service, settleRequest, Followups.exec, hget]
      exact leads_failed (.turn hturn nofun) (.inr rfl) _
  | some existing =>
    cases turn with
    | done =>
      simp only [service, settleRequest, Followups.exec, hget]
      refine ⟨fun hcrash => .inr ⟨faulty_none hcrash, nofun, .inl rfl⟩, fun turn hturn => ?_⟩
      cases turn with
      | done =>
        simp only [settleRequest, Followups.exec, hget]
        exact leads_reached w _
      | refused => exact leads_failed (.turn hturn nofun) (.inl rfl) _
      | lost =>
        simp only [settleRequest, Followups.exec, hget]
        exact leads_failed (.turn hturn nofun) (.inr rfl) _
    | refused => exact leads_failed (.turn hturn nofun) (.inl rfl) _
    | lost =>
      simp only [service, settleRequest, Followups.exec, hget]
      exact leads_failed (.turn hturn nofun) (.inl rfl) _

/-- The world with the message or the schedule of a followup. -/
def withFollowup (env : Env) (w : World) (message : FollowupMessage) (time : Nat) : World :=
  if time - w.now ≤ 900000 then
    withQueued w ⟨message, w.now + (time - w.now + 999) / 1000 * 1000⟩
  else withSchedule w
    (followupSchedule env message.accountId message.threadId message.threadId "followup" time)

theorem leads_scheduleFollowup (message : FollowupMessage) (time : Nat) :
    (scheduleFollowup env w.now message.accountId message.threadId time).Leads service T
      (Reaches T w (withFollowup env w message time)) w := by
  unfold scheduleFollowup withFollowup
  by_cases hnear : time - w.now ≤ 900000
  · rw [if_pos hnear, if_pos hnear]
    refine ⟨fun hcrash => .inr ⟨faulty_none hcrash, nofun, .inl rfl⟩, fun turn hturn => ?_⟩
    cases turn with
    | done => exact leads_reached w _
    | refused => exact leads_failed (.turn hturn nofun) (.inl rfl) _
    | lost => exact leads_failed (.turn hturn nofun) (.inr rfl) _
  · rw [if_neg hnear, if_neg hnear]
    refine Prog.Leads.bind ((leads_createSchedule _).mono fun result w' hreached => ?_)
    obtain ⟨rfl, rfl⟩ | ⟨hfaulty, hne, hw⟩ := hreached
    · exact leads_reached w _
    · cases result with
      | none => exact .inr ⟨hfaulty, nofun, hw⟩
      | some result =>
        cases result with
        | ok => exact absurd rfl hne
        | error error => exact leads_failed hfaulty hw _

/-- Every message of the thread then comes no earlier than the new followup. -/
theorem Settable.pending (hset : Settable env w message time faults)
    {due : Nat} (hmem : (message, due) ∈ pending (withFollowup env w message time)) :
    time ≤ due := by
  unfold withFollowup at hmem
  by_cases hnear : time - w.now ≤ 900000
  · rw [if_pos hnear] at hmem
    obtain ⟨queued, hqueued, hmessage, rfl⟩ | ⟨schedule, hrow, hmessage, rfl⟩ :=
      mem_pending.mp hmem
    · obtain hqueued | hqueued := List.mem_append.mp hqueued
      · exact hset.queue queued hqueued hmessage
      · cases List.mem_singleton.mp hqueued
        show time ≤ w.now + (time - w.now + 999) / 1000 * 1000
        omega
    · exact hset.schedules schedule hrow hmessage fun h => absurd h.1 (by omega)
  · rw [if_neg hnear] at hmem
    obtain ⟨queued, hqueued, hmessage, rfl⟩ | ⟨schedule, hrow, hmessage, rfl⟩ :=
      mem_pending.mp hmem
    · exact hset.queue queued hqueued hmessage
    · obtain rfl | ⟨hrow, hname⟩ := KeyedTable.mem_put.mp hrow
      · show time ≤ atSecond time
        have hwhole := hset.wholeSecond (by omega)
        unfold atSecond
        omega
      · exact hset.schedules schedule hrow hmessage fun h => hname h.2

/-- The messages of other threads were there before, but for schedules that are gone. -/
theorem pending_withFollowup {other : FollowupMessage} {due : Nat}
    (hmem : (other, due) ∈ pending (withFollowup env w message time)) :
    other = message ∨ (other, due) ∈ pending w := by
  unfold withFollowup at hmem
  by_cases hnear : time - w.now ≤ 900000
  · rw [if_pos hnear] at hmem
    obtain ⟨queued, hqueued, hmessage, hdue⟩ | hschedule := mem_pending.mp hmem
    · obtain hqueued | hqueued := List.mem_append.mp hqueued
      · exact .inr (mem_pending.mpr (.inl ⟨queued, hqueued, hmessage, hdue⟩))
      · cases List.mem_singleton.mp hqueued
        exact .inl hmessage.symm
    · exact .inr (mem_pending.mpr (.inr hschedule))
  · rw [if_neg hnear] at hmem
    obtain hqueued | ⟨schedule, hrow, hmessage, hdue⟩ := mem_pending.mp hmem
    · exact .inr (mem_pending.mpr (.inl hqueued))
    · obtain rfl | ⟨hrow, -⟩ := KeyedTable.mem_put.mp hrow
      · exact .inl hmessage.symm
      · exact .inr (mem_pending.mpr (.inr ⟨schedule, hrow, hmessage, hdue⟩))

theorem currentFollowup_withFollowup (other : FollowupMessage) :
    currentFollowup (withFollowup env w message time) other = currentFollowup w other := by
  unfold withFollowup
  split
  · rfl
  · rfl

/-- A followup is under way, and the thread still has an earlier one. -/
theorem Respected.withFollowup (h : Respected env w) (hset : Settable env w message time faults)
    (hle : ∀ followupAt, currentFollowup w message = some followupAt →
      env.getTime followupAt ≤ time) :
    Respected env (withFollowup env w message time) := by
  intro other due hmem followupAt hcurrent
  rw [currentFollowup_withFollowup] at hcurrent
  obtain rfl | hold := pending_withFollowup hmem
  · exact (hle followupAt hcurrent).trans (hset.pending hmem)
  · exact h other due hold followupAt hcurrent

/-- The followup is set once a message of it is under way. -/
theorem Respected.set (h : Respected env w) {followupAt : String}
    (hset : Settable env w message (env.getTime followupAt) faults) (status : ThreadStatus)
    (lastSignalAt now : String) (hfield : fields.followupAt = some followupAt) :
    Respected env (withTable (Snooze.withFollowup env w message (env.getTime followupAt))
      (.updateThread message.accountId message.threadId status lastSignalAt now fields)) := by
  intro other due hmem otherFollowup hcurrent
  change (other, due) ∈ Snooze.pending (Snooze.withFollowup env w message _) at hmem
  rw [currentFollowup_updateThread, currentFollowup_withFollowup, hfield] at hcurrent
  by_cases hsame : other = message
  · subst hsame
    rw [if_pos rfl] at hcurrent
    obtain ⟨heq, -⟩ := Option.filter_eq_some_iff.mp hcurrent
    cases heq
    exact hset.pending hmem
  · rw [if_neg hsame] at hcurrent
    obtain heq | hold := pending_withFollowup hmem
    · exact absurd heq hsame
    · exact h other due hold otherFollowup hcurrent

/-! ### Requests -/

theorem quiet_writeThread {accountId threadId : String} {status : ThreadStatus}
    {lastSignalAt now : String}
    (hfield : ∀ followupAt, fields.followupAt = some followupAt → followupAt = "") :
    (writeThread accountId threadId status lastSignalAt now fields).Only Quiet :=
  And.intro hfield fun _ => trivial

theorem quiet_reportViolation (accountId now : String) (thread : Thread) :
    (reportViolation env accountId now thread).Only Quiet := by
  have hwrite : (writeThread accountId thread.id .deleted thread.lastSignalAt now noFields).Only
      Quiet := quiet_writeThread fun followupAt hfield => (nomatch hfield)
  refine And.intro trivial fun signalsResult => ?_
  change Except DbError (List Signal) at signalsResult
  match signalsResult with
  | .error error => exact trivial
  | .ok signals =>
    simp only [Prog.embed, Prog.bind]
    cases signals.head?.bind emailParties with
    | none => exact hwrite
    | some parties =>
      refine And.intro trivial fun saveSenderResult => ?_
      change Except DbError Unit at saveSenderResult
      cases saveSenderResult with
      | error error => exact trivial
      | ok => exact hwrite

/-- The turns of a request that may fail as the faults have it. -/
def turnsOf (faults : Faults Fate) (turn : Option Fate) : Prop := turn = some .done ∨ turn ∈ faults

theorem Settable.earlier (hset : Settable env w message time faults)
    (hfaulty : Faulty (turnsOf faults)) :
    ∀ followupAt, currentFollowup w message = some followupAt → env.getTime followupAt ≤ time := by
  obtain ⟨turn, hturn, hne⟩ := hfaulty
  obtain hdone | hearlier := hset.completes
  · obtain heq | hmem := hturn
    · exact absurd heq hne
    · exact absurd (hdone turn hmem) hne
  · exact hearlier

theorem leads_write (h : Respected env w) {followupAt : String}
    (hset : Settable env w message (env.getTime followupAt) faults) (status : ThreadStatus)
    (lastSignalAt now : String) (hfield : fields.followupAt = some followupAt) :
    (writeThread message.accountId message.threadId status lastSignalAt now fields).Leads service
      (turnsOf faults) (fun _ => Respected env)
      (withFollowup env w message (env.getTime followupAt)) := by
  have hbefore (hfaulty : Faulty (turnsOf faults)) := h.withFollowup hset (hset.earlier hfaulty)
  have hafter := h.set hset status lastSignalAt now hfield
  refine ⟨fun hcrash => hbefore (faulty_none hcrash), fun turn hturn => ?_⟩
  cases turn with
  | done => exact ⟨hafter, fun _ => hafter⟩
  | refused =>
    have hunchanged := hbefore (.turn hturn nofun)
    exact ⟨hunchanged, fun _ => hunchanged⟩
  | lost => exact ⟨hafter, fun _ => hafter⟩

theorem leads_updateWith (h : Respected env w) {thread : Thread}
    (hthread : (thread.accountId, thread.id) = (message.accountId, message.threadId))
    (body : UpdateThreadRequest) (faults : Faults Fate)
    (hset : ∀ followupAt, body.followup = some followupAt →
      followupError env w.now thread (env.getTime followupAt) = none →
      Settable env w message (env.getTime followupAt) faults) :
    (updateWith env w.now message.accountId thread body).Leads service (turnsOf faults)
      (fun _ => Respected env) w := by
  obtain ⟨-, hid⟩ := Prod.mk.inj hthread
  unfold updateWith
  cases hfollowup : body.followup with
  | none =>
    refine h.leads (quiet_writeThread fun followupAt hfield => ?_)
    by_contra hne
    have hsome : body.followup = some followupAt :=
      Option.filter_eq_some_iff.mpr ⟨hfield, decide_eq_true hne⟩
    rw [hfollowup] at hsome
    cases hsome
  | some followupAt =>
    obtain ⟨hfield, -⟩ := Option.filter_eq_some_iff.mp hfollowup
    dsimp only
    cases herror : followupError env w.now thread (env.getTime followupAt) with
    | some error => exact ⟨h, fun _ => h⟩
    | none =>
      have hset := hset followupAt hfollowup herror
      rw [hid]
      refine Prog.Leads.bind ((leads_scheduleFollowup message _).mono fun result w' hreached => ?_)
      obtain ⟨rfl, rfl⟩ | ⟨hfaulty, hne, hw⟩ := hreached
      · exact leads_write h hset _ _ _ hfield
      · have hrespected : Respected env w' := by
          obtain rfl | rfl := hw
          · exact h
          · exact h.withFollowup hset (hset.earlier hfaulty)
        cases result with
        | none => exact hrespected
        | some result =>
          cases result with
          | ok => exact absurd rfl hne
          | error error => exact ⟨hrespected, fun _ => hrespected⟩

theorem Respected.patch (h : Respected env w) {accountId threadId : String}
    {body : UpdateThreadRequest} (hfits : Fits env w (.patch accountId threadId body faults)) :
    Respected env (step env w (.patch accountId threadId body faults)) := by
  have hleads : (patchThread env w.now accountId threadId body).Leads service (turnsOf faults)
      (fun _ => Respected env) w := by
    refine leads_getThread h ⟨h, fun _ => h⟩ ?_
    cases hget : w.table.threads.get (accountId, threadId) with
    | none => exact ⟨h, fun _ => h⟩
    | some thread =>
      dsimp only
      split
      · exact h.leads (quiet_reportViolation _ _ _)
      · rename_i hreport
        have hthread : SignalsTable.threadKey thread = (accountId, threadId) :=
          KeyedTable.key_of_get hget
        exact @leads_updateWith _ _ ⟨accountId, threadId⟩ h _ hthread body faults
          fun followupAt hfollowup herror => hfits thread followupAt hget hreport hfollowup herror
  exact hleads.run (.inl rfl) faults fun turn hturn => .inr hturn

/-- A reminder no earlier than the followup of its thread. -/
theorem Respected.reminder (h : Respected env w) {accountId threadId calendarSignalId : String}
    {suffix : String} {fireAt : Nat}
    (hfits : Fits env w (.calendarReminder accountId threadId calendarSignalId suffix fireAt
      faults)) :
    Respected env (step env w (.calendarReminder accountId threadId calendarSignalId suffix fireAt
      faults)) := by
  have hscheduled : Respected env (withSchedule w
      (followupSchedule env accountId threadId calendarSignalId suffix fireAt)) := by
    refine h.add rfl (fun entry hmem => ?_) hfits
    obtain hqueued | ⟨schedule, hrow, hmessage, hdue⟩ := mem_pending.mp hmem
    · exact .inr (mem_pending.mpr (.inl hqueued))
    · obtain rfl | ⟨hrow, -⟩ := KeyedTable.mem_put.mp hrow
      · exact .inl (Prod.ext hmessage.symm hdue.symm)
      · exact .inr (mem_pending.mpr (.inr ⟨schedule, hrow, hmessage, hdue⟩))
  have hreached := (leads_createSchedule (T := fun _ => True) (w := w) (followupSchedule env
    accountId threadId calendarSignalId suffix fireAt)).run trivial faults fun _ _ => trivial
  show Respected env (createSchedule _ |>.run service faults w).store
  obtain ⟨-, hw⟩ | ⟨-, -, hw | hw⟩ := hreached
  · rw [hw]
    exact hscheduled
  · rw [hw]
    exact h
  · rw [hw]
    exact hscheduled

theorem Respected.fire (h : Respected env w) (name : String) :
    Respected env (Snooze.fire name w) := by
  unfold Snooze.fire
  cases hget : w.schedules.get name with
  | none => exact h
  | some schedule =>
    dsimp only
    split
    · refine h.mono (fun entry hmem => ?_) fun _ _ hcurrent => hcurrent
      obtain ⟨queued, hqueued, heq⟩ | ⟨other, hrow, heq⟩ := mem_pending.mp hmem
      · obtain hqueued | hqueued := List.mem_append.mp hqueued
        · exact mem_pending.mpr (.inl ⟨queued, hqueued, heq⟩)
        · cases List.mem_singleton.mp hqueued
          exact mem_pending.mpr (.inr ⟨schedule, KeyedTable.mem_rows_of_get hget, heq⟩)
      · exact mem_pending.mpr (.inr ⟨other, (List.mem_filter.mp hrow).1, heq⟩)
    · exact h

theorem Respected.expire (h : Respected env w) (accountId id : String) :
    Respected env (step env w (.expire accountId id)) := by
  refine h.mono (fun _ hmem => hmem) fun message followupAt hcurrent => ?_
  simp only [currentFollowup, step, KeyedTable.get_erase] at hcurrent
  split at hcurrent
  · cases hcurrent
  · exact hcurrent

/-- One operation. -/
theorem Respected.step (op : Op) (h : Respected env w) (hfits : Fits env w op) :
    Respected env (step env w op) := by
  cases op with
  | tick ms => exact h
  | newThread thread faults => exact h.run (quiet_createThread rfl) faults
  | newMail matchedThread thread now faults =>
    refine h.run (quiet_updateThread fun followupAt hfield => ?_) faults
    simp only [threadDelta] at hfield
    split at hfield
    · exact (Option.some.inj hfield).symm
    · cases hfield
  | setStatus accountId id status lastSignalAt now faults =>
    exact h.run (quiet_updateThread fun followupAt hfield => by cases hfield) faults
  | patch accountId threadId body faults => exact h.patch hfits
  | calendarReminder accountId threadId calendarSignalId suffix fireAt faults =>
    exact h.reminder hfits
  | fire name => exact h.fire name
  | deliver i faults => exact h.deliver i faults
  | acknowledge i =>
    refine h.mono (fun entry hmem => ?_) fun _ _ hcurrent => hcurrent
    obtain ⟨queued, hqueued, heq⟩ | hschedule := mem_pending.mp hmem
    · exact mem_pending.mpr (.inl ⟨queued, List.mem_of_mem_eraseIdx hqueued, heq⟩)
    · exact mem_pending.mpr (.inr hschedule)
  | expire accountId id => exact h.expire accountId id

/-! ## Runs -/

/-- **Snoozes are respected.** In every history in which followups are set only where no message of
the thread comes earlier, and reminders scheduled no earlier than the followup, no message acts on
a thread before the followup that it has by then, or without one. -/
theorem snooze_respected (env : Env) (now : Nat) (ops : List Op)
    (h : EachFits (step env) (Fits env) (initial now) ops) :
    EachFits (step env) (Timely env) (initial now) ops := by
  have hinitial : Respected env (initial now) := fun _ _ hmem => absurd hmem List.not_mem_nil
  exact eachFits_of_invariant (fun w op hw hfits => ⟨hw.step op hfits, hw.timely op⟩) hinitial h

/-! ### A snooze that is changed -/

def minutes (n : Nat) : Nat := n * 60000

/-- 2026-03-01T09:00:00Z -/
def nine : Nat := 1772355600000

def times : List (String × Nat) :=
  [("2026-03-01T09:10:00Z", nine + minutes 10), ("2026-03-01T18:00:00Z", nine + minutes 540)]

def sampleEnv : Env where
  getTime text := ((times.find? fun entry => entry.1 = text).map Prod.snd).getD 0
  toISOString _ := "2026-03-01T09:10:00.000Z"
  buildScheduleName accountId scheduleKeyId suffix :=
    accountId ++ "." ++ scheduleKeyId ++ "." ++ suffix
  getDomain domain := some domain
  expiresAt _ := none

def sampleThread : Thread where
  id := "thr-1"
  accountId := "acct-1"
  groupingKey := none
  workflow := .conversation
  labels := []
  status := .active
  summary := "Lunch"
  lastSignalAt := "2026-03-01T08:00:00.000Z"
  createdAt := "2026-03-01T08:00:00.000Z"
  updatedAt := "2026-03-01T08:00:00.000Z"
  retentionDuration := none
  sentMessageIds := none
  urgency := none
  followupAt := none
  sender := ⟨"ann@org.test", none⟩
  recipientAddress := "me@home.test"
  subject := "Lunch"

def snoozeUntil (followupAt : String) : Op :=
  .patch "acct-1" "thr-1" ⟨none, none, none, none, some followupAt⟩ []

/-- Snoozed for ten minutes and then until the evening. -/
def snoozedTwice : List Op :=
  [.newThread sampleThread [], snoozeUntil "2026-03-01T09:10:00Z",
    snoozeUntil "2026-03-01T18:00:00Z", .tick (minutes 10)]

def tenPastNine : World := snoozedTwice.foldl (step sampleEnv) (initial nine)

/-- The message of the first snooze reactivates the thread at ten past nine. -/
theorem snoozedTwice_reactivates_early :
    ((deliver sampleEnv 0 [] tenPastNine).table.threads.get ("acct-1", "thr-1")).map
        (fun thread => (thread.status, thread.followupAt)) =
      some (.active, some "2026-03-01T18:00:00Z") ∧
      ¬ EachFits (step sampleEnv) (Timely sampleEnv) (initial nine)
        (snoozedTwice ++ [.deliver 0 []]) := by
  refine ⟨by decide +kernel, fun h => ?_⟩
  obtain ⟨-, -, -, -, hlast, -⟩ := h
  have htimely := hlast ⟨⟨"acct-1", "thr-1"⟩, nine + minutes 10⟩ (by decide +kernel)
  obtain ⟨hsilent, -⟩ | ⟨followupAt, hcurrent, hdue⟩ := htimely
  · exact absurd hsilent (by decide +kernel)
  · have hevening : currentFollowup tenPastNine ⟨"acct-1", "thr-1"⟩ =
        some "2026-03-01T18:00:00Z" := by decide +kernel
    cases hevening.symm.trans hcurrent
    exact absurd hdue (by decide +kernel)

/-- A thread that is snoozed once, and its message ten minutes later. -/
theorem snooze_respected_once :
    EachFits (step sampleEnv) (Timely sampleEnv) (initial nine)
      [.newThread sampleThread [], snoozeUntil "2026-03-01T09:10:00Z", .tick (minutes 10),
        .deliver 0 []] := by
  refine snooze_respected sampleEnv nine _ ⟨trivial, ?_, trivial, trivial, trivial⟩
  intro thread followupAt hget hreport hfollowup herror
  have hten : followupAt = "2026-03-01T09:10:00Z" := by
    have hsome := Option.filter_eq_some_iff.mp hfollowup
    exact (Option.some.inj hsome.1).symm
  subst hten
  exact {
    queue := fun queued hqueued => absurd hqueued List.not_mem_nil
    schedules := fun schedule hrow => absurd hrow List.not_mem_nil
    wholeSecond := fun hfar => absurd hfar (by decide +kernel)
    completes := .inl fun turn hturn => absurd hturn List.not_mem_nil }

end SesEmailAdapter.Scheduler.Snooze
