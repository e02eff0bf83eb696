import Mathlib.Data.List.Pairwise
import SesEmailAdapter.Database.ThreadDatabase

/-! # The stored snapshot of a calendar event

Every snapshot of an event is saved in one row, which keeps the one saved last. It is the latest
state of the event, by SEQUENCE and then by time, just when the latest snapshot came last. -/

namespace SesEmailAdapter.Calendar.EventStore
open Lib
open SesEmailAdapter.Types Database.SignalsTable
open Database.ThreadDatabase

def buildCalendarSignalLookupId (organizerEmail veventUid : String)
    (recurrenceId : Option String) : String :=
  "cal-" ++ organizerEmail ++ "-" ++ veventUid ++
    match recurrenceId with
    | none => ""
    | some "" => ""
    | some recurrenceId => "-" ++ recurrenceId

/-- The sign of the order of two timestamps of one layout. -/
def localeCompare (a b : String) : Int :=
  if a < b then -1 else if b < a then 1 else 0

/-- Higher SEQUENCE wins; ties are broken by `createdAt`. -/
def orderInGroup (a b : CalendarEventSignal) : Int :=
  if a.data.sequence ≠ b.data.sequence then a.data.sequence - b.data.sequence
  else localeCompare a.signal.createdAt b.signal.createdAt

/-- No snapshot of the list comes after `latest`. -/
def IsLatest (snapshots : List CalendarEventSignal) (latest : CalendarEventSignal) : Prop :=
  ∀ snapshot ∈ snapshots, orderInGroup snapshot latest ≤ 0

/-- The row is this snapshot, up to the RSVP it keeps. -/
def Carries (row : Signal) (snapshot : CalendarEventSignal) : Prop :=
  row = snapshot.withRsvp (rsvpOf row)

/-- The store after the snapshots were saved one after the other. -/
def saveAll (s : Store) (snapshots : List CalendarEventSignal) : Store :=
  snapshots.foldl (fun s snapshot =>
    ((saveCalendarEventSignal snapshot).run service [] s).store) s

/-- Snapshots of one event: they are saved under one key, and no two of them tie. -/
structure OneEvent (accountId lookupId : String) (snapshots : List CalendarEventSignal) : Prop where
  key : ∀ snapshot ∈ snapshots,
    snapshot.signal.accountId = accountId ∧ snapshot.signal.signalLookupId = lookupId
  distinct : snapshots.Pairwise fun a b =>
    ¬ (a.data.sequence = b.data.sequence ∧ a.signal.createdAt = b.signal.createdAt)

/-- The row of the event finally carries the latest of the snapshots. -/
def Converges (s : Store) (accountId lookupId : String) (snapshots : List CalendarEventSignal) :
    Prop :=
  ∃ latest ∈ snapshots, IsLatest snapshots latest ∧
    ∃ item, (saveAll s snapshots).signals.get (accountId, lookupId) = some item ∧
      Carries item.signal latest

/-! ## One save -/

/-- The RSVP of the row a snapshot is about to replace. -/
def storedRsvp (s : Store) (event : CalendarEventSignal) : Option CalendarRsvpResponse :=
  ((s.signals.get (event.signal.accountId, event.signal.signalLookupId)).map
    SignalItem.signal).bind rsvpOf

theorem exec_putCalendarEvent (s : Store) (event : CalendarEventSignal) :
    exec (.putCalendarEvent (event.withRsvp (storedRsvp s event))
        ((storedRsvp s event).map CalendarRsvpResponse.respondedAt)) s =
      (.ok (), s.saveItem (event.withRsvp (storedRsvp s event))) := by
  have hread : (s.signals.get (event.signal.accountId, event.signal.signalLookupId)).bind
      (fun item => rsvpOf item.signal) = storedRsvp s event := by
    rw [storedRsvp, Option.bind_map]
    rfl
  exact if_pos (congrArg (Option.map CalendarRsvpResponse.respondedAt) hread)

/-- A save that nothing disturbs writes at its first attempt. -/
theorem saveCalendarEventSignal_store (s : Store) (event : CalendarEventSignal) :
    ((saveCalendarEventSignal event).run service [] s).store =
      s.saveItem (event.withRsvp (storedRsvp s event)) := by
  have hget : exec (.getSignal event.signal.accountId event.signal.signalLookupId) s =
      (.ok ((s.signals.get (event.signal.accountId, event.signal.signalLookupId)).map
        SignalItem.signal), s) := rfl
  have hput := exec_putCalendarEvent s event
  unfold storedRsvp at hput ⊢
  simp only [saveCalendarEventSignal, saveCalendarEventAttempts, request, Prog.perform,
    Prog.call_bind, Prog.ret_bind, Prog.run, service, settle, settleRequest]
  rw [hget]
  simp only [Prog.run, settleRequest]
  rw [hput]
  rfl

theorem saveCalendarEventSignal_get (s : Store) (event : CalendarEventSignal) :
    ((saveCalendarEventSignal event).run service [] s).store.signals.get
        (event.signal.accountId, event.signal.signalLookupId) =
      some (signalItem (event.withRsvp (storedRsvp s event))) := by
  rw [saveCalendarEventSignal_store]
  exact KeyedTable.get_put_self _ _

theorem carries_withRsvp (event : CalendarEventSignal) (prior : Option CalendarRsvpResponse) :
    Carries (event.withRsvp prior) event := rfl

/-- A row carries snapshots of one SEQUENCE and one `createdAt` only. -/
theorem Carries.unique {row : Signal} {a b : CalendarEventSignal} (ha : Carries row a)
    (hb : Carries row b) :
    a.data.sequence = b.data.sequence ∧ a.signal.createdAt = b.signal.createdAt := by
  have h : a.withRsvp (rsvpOf row) = b.withRsvp (rsvpOf row) := ha.symm.trans hb
  have hdata := congrArg Signal.data h
  simp only [CalendarEventSignal.withRsvp, SignalData.calendarEvent.injEq,
    CalendarEventData.mk.injEq] at hdata
  have htime := congrArg Signal.createdAt h
  exact ⟨hdata.2.2.2.2.2.2.1, htime⟩

/-! ## All saves -/

variable {snapshots : List CalendarEventSignal} {accountId lookupId : String}

/-- After a sequence of saves the row carries the snapshot saved last. -/
theorem saveAll_carries (s : Store) {last : CalendarEventSignal}
    (hkey : last.signal.accountId = accountId ∧ last.signal.signalLookupId = lookupId)
    (hlast : snapshots.getLast? = some last) :
    ∃ item, (saveAll s snapshots).signals.get (accountId, lookupId) = some item ∧
      Carries item.signal last := by
  obtain ⟨before, rfl⟩ := List.getLast?_eq_some_iff.mp hlast
  obtain ⟨rfl, rfl⟩ := hkey
  refine ⟨signalItem (last.withRsvp (storedRsvp (saveAll s before) last)), ?_,
    carries_withRsvp last _⟩
  rw [saveAll, List.foldl_append]
  exact saveCalendarEventSignal_get _ _

theorem OneEvent.eq_of_tie
    (h : OneEvent accountId lookupId snapshots) {a b : CalendarEventSignal} (ha : a ∈ snapshots)
    (hb : b ∈ snapshots) (hsequence : a.data.sequence = b.data.sequence)
    (htime : a.signal.createdAt = b.signal.createdAt) : a = b := by
  by_contra hne
  have hsymm : Std.Symm fun a b : CalendarEventSignal =>
      ¬ (a.data.sequence = b.data.sequence ∧ a.signal.createdAt = b.signal.createdAt) :=
    ⟨fun _ _ hab hba => hab ⟨hba.1.symm, hba.2.symm⟩⟩
  exact h.distinct.forall ha hb hne ⟨hsequence, htime⟩

/-- A store that has converged carries the snapshot saved last, which is then the latest. -/
theorem Converges.last {s : Store} (hc : Converges s accountId lookupId snapshots)
    (h : OneEvent accountId lookupId snapshots) :
    ∃ last, snapshots.getLast? = some last ∧ IsLatest snapshots last := by
  obtain ⟨latest, hmem, hlatest, item, hget, hcarries⟩ := hc
  cases hlast : snapshots.getLast? with
  | none =>
    rw [List.getLast?_eq_none_iff.mp hlast] at hmem
    cases hmem
  | some last =>
    have hin := List.mem_of_getLast? hlast
    obtain ⟨item', hget', hcarries'⟩ := saveAll_carries s (h.key last hin) hlast
    rw [hget'] at hget
    cases hget
    obtain ⟨hsequence, htime⟩ := hcarries'.unique hcarries
    obtain rfl := h.eq_of_tie hin hmem hsequence htime
    exact ⟨last, rfl, hlatest⟩

/-- **The store converges only to the last delivery.** Whatever the row held before, it finally
carries the latest snapshot of the event just when the latest snapshot was saved last. -/
theorem converges_iff (s : Store) (accountId lookupId : String)
    (snapshots : List CalendarEventSignal) (h : OneEvent accountId lookupId snapshots) :
    Converges s accountId lookupId snapshots ↔
      ∃ last, snapshots.getLast? = some last ∧ IsLatest snapshots last := by
  constructor
  · exact fun hc => hc.last h
  · rintro ⟨last, hlast, hlatest⟩
    have hin := List.mem_of_getLast? hlast
    exact ⟨last, hin, hlatest, saveAll_carries s (h.key last hin) hlast⟩

/-! ## A late update -/

def calendarLookupId : String := buildCalendarSignalLookupId "ann@org.test" "uid-1" none

def snapshotData (method : String) (sequence : Int) : CalendarEventData where
  title := "Review"
  startTime := "2026-03-02T09:00:00.000Z"
  organizer := "ann@org.test"
  organizerCn := none
  veventUid := "uid-1"
  method := method
  sequence := sequence
  status := none
  recurrenceId := none
  linkedSignalId := "sgn-1"
  rsvpResponse := none
  sesMessageId := none

def snapshot (method : String) (sequence : Int) (createdAt : String) : CalendarEventSignal where
  signal :=
    { id := "sgn-2", signalLookupId := calendarLookupId, threadId := some "thr-1", gsi3pk := none,
      accountId := "acct-1", status := .active, labels := some [], createdAt := createdAt,
      retentionDuration := none, data := .calendarEvent (snapshotData method sequence) }
  data := snapshotData method sequence
  isEvent := rfl

/-- The cancellation of an event, and an older update of it that is delivered after it. -/
def lateUpdate : List CalendarEventSignal :=
  [snapshot "CANCEL" 2 "2026-03-01T08:00:00.000Z", snapshot "REQUEST" 1 "2026-03-01T09:00:00.000Z"]

theorem lateUpdate_oneEvent : OneEvent "acct-1" calendarLookupId lateUpdate where
  key := by simp [lateUpdate, snapshot]
  distinct := by simp [lateUpdate, snapshot, snapshotData]

/-- A late older update replaces the cancellation in the row. -/
theorem lateUpdate_replaces_cancellation :
    OneEvent "acct-1" calendarLookupId lateUpdate ∧
      ¬ Converges ⟨.empty, .empty⟩ "acct-1" calendarLookupId lateUpdate := by
  refine ⟨lateUpdate_oneEvent, fun hc => ?_⟩
  obtain ⟨last, hlast, hlatest⟩ := hc.last lateUpdate_oneEvent
  obtain rfl := Option.some.inj hlast
  have hcancel := hlatest (snapshot "CANCEL" 2 "2026-03-01T08:00:00.000Z") (by simp [lateUpdate])
  revert hcancel
  decide

/-- In order, the cancellation stays. -/
theorem converges_in_order :
    Converges ⟨.empty, .empty⟩ "acct-1" calendarLookupId lateUpdate.reverse := by
  have hone : OneEvent "acct-1" calendarLookupId lateUpdate.reverse :=
    ⟨by simp [lateUpdate, snapshot], by simp [lateUpdate, snapshot, snapshotData]⟩
  refine (converges_iff _ _ _ _ hone).mpr
    ⟨snapshot "CANCEL" 2 "2026-03-01T08:00:00.000Z", rfl, fun other hother => ?_⟩
  simp only [lateUpdate, List.reverse_cons, List.reverse_nil, List.nil_append, List.cons_append,
    List.mem_cons, List.not_mem_nil, or_false] at hother
  rcases hother with rfl | rfl <;> decide

end SesEmailAdapter.Calendar.EventStore
