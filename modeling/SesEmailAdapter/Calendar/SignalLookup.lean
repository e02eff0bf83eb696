import SesEmailAdapter.Lib.JoinedText
import SesEmailAdapter.Calendar.CalendarCollapse

/-! # The lookup id of an event

The row of an event is found by its organizer, its UID and its occurrence, joined by a "-". All
three come from the sender and may hold a "-" themselves. -/

namespace SesEmailAdapter.Calendar.SignalLookup
open Lib Lib.JoinedText
open SesEmailAdapter.Types Database.SignalsTable
open Database.ThreadDatabase
open Calendar.EventStore Calendar.IcsParser
open Calendar.CalendarCollapse (review recordsOf inviteMail)
open Processor.IncomingEmail
open Resource.ResourceDatabase (truthy)

/-- The lookup id that an event is saved under. -/
def lookupIdOf (event : CalendarEventData) : String :=
  buildCalendarSignalLookupId event.organizer event.veventUid event.recurrenceId

/-- What a lookup id says after the organizer. -/
def eventPart (event : CalendarEventData) : String :=
  joined '-' event.veventUid (truthy event.recurrenceId)

/-- The organizer of one event runs on into the UID or the occurrence of the other. -/
def OrganizerRunsOn (a b : CalendarEventData) : Prop :=
  RunsOn '-' a.organizer (some (eventPart a)) b.organizer (some (eventPart b))

/-- The UID of one event runs on into the occurrence of the other. -/
def UidRunsOn (a b : CalendarEventData) : Prop :=
  RunsOn '-' a.veventUid (truthy a.recurrenceId) b.veventUid (truthy b.recurrenceId)

def OrganizersOverlap (a b : CalendarEventData) : Prop :=
  OrganizerRunsOn a b ∨ OrganizerRunsOn b a

def Overlap (a b : CalendarEventData) : Prop :=
  OrganizersOverlap a b ∨ (a.organizer = b.organizer ∧ (UidRunsOn a b ∨ UidRunsOn b a))

/-- The events are kept distinct, or are of different organizers. -/
def Different (a b : CalendarEventData) : Prop :=
  eventGroupKey a ≠ eventGroupKey b ∨ a.organizer ≠ b.organizer

variable {a b : CalendarEventData}

/-! ## Lookup ids -/

theorem truthy_of_ne {text : String} (h : text ≠ "") : truthy (some text) = some text := by
  simp [truthy, Option.filter_some, h]

theorem lookupIdOf_eq (event : CalendarEventData) :
    lookupIdOf event = "cal-" ++ joined '-' event.organizer (some (eventPart event)) := by
  have happ (rest : String) : "cal-" ++ event.organizer ++ "-" ++ rest =
      "cal-" ++ joined '-' event.organizer (some rest) := by
    simp [joined, String.append_assoc]
  rw [← happ, lookupIdOf]
  unfold buildCalendarSignalLookupId
  rw [@String.append_assoc _ event.veventUid, eventPart]
  refine congrArg ("cal-" ++ event.organizer ++ "-" ++ ·) ?_
  split
  next heq => rw [heq]; exact String.append_empty
  next heq => rw [heq]; exact String.append_empty
  next recurrenceId hne heq =>
    rw [heq, truthy_of_ne hne, joined, String.append_assoc]
    rfl

theorem eventPart_eq_iff : eventPart a = eventPart b ↔
    (a.veventUid = b.veventUid ∧ truthy a.recurrenceId = truthy b.recurrenceId) ∨
      UidRunsOn a b ∨ UidRunsOn b a :=
  joined_eq_iff

/-- Two lookup ids agree just when all parts do, or some part of one runs on. -/
theorem lookupIdOf_eq_iff : lookupIdOf a = lookupIdOf b ↔
    (a.organizer = b.organizer ∧ a.veventUid = b.veventUid ∧
      truthy a.recurrenceId = truthy b.recurrenceId) ∨ Overlap a b := by
  rw [lookupIdOf_eq, lookupIdOf_eq, String.append_right_inj, joined_eq_iff, Option.some.injEq,
    eventPart_eq_iff]
  unfold Overlap OrganizersOverlap OrganizerRunsOn
  tauto

/-- Where a UID runs on, the other group key goes on with "::". -/
theorem UidRunsOn.key_ne (h : UidRunsOn a b) : eventGroupKey a ≠ eventGroupKey b := by
  obtain ⟨middle, huid, hrecurrence⟩ := h
  intro hkey
  have hchars := congrArg String.toList hkey
  cases hb : truthy b.recurrenceId <;>
    simp [eventGroupKey, hrecurrence, huid, hb, joined] at hchars

theorem Overlap.different (h : Overlap a b) : Different a b := by
  obtain (h | h) | ⟨-, h | h⟩ := h
  · exact .inr h.head_ne
  · exact .inr h.head_ne.symm
  · exact .inl h.key_ne
  · exact .inl h.key_ne.symm

/-- Different events share a lookup id just when they overlap. -/
theorem lookupIdOf_ne_iff :
    (Different a b → lookupIdOf a ≠ lookupIdOf b) ↔ ¬ Overlap a b := by
  constructor
  · intro h hoverlap
    exact h hoverlap.different (lookupIdOf_eq_iff.mpr (.inr hoverlap))
  · intro hapart hdifferent heq
    obtain ⟨horganizer, huid, hrecurrence⟩ | hoverlap := lookupIdOf_eq_iff.mp heq
    · have hkey : eventGroupKey a = eventGroupKey b := by
        rw [eventGroupKey, eventGroupKey, huid, hrecurrence]
      exact hdifferent.elim (· hkey) (· horganizer)
    · exact hapart hoverlap

/-! ## The rows of a batch -/

def snapshotKey (snapshot : CalendarEventSignal) : String × String :=
  (snapshot.signal.accountId, snapshot.signal.signalLookupId)

/-- The signals that ingest saves for the events kept, with the ids and times they get. -/
def snapshotsOf (email : Signal) (threadId : String) (id now : CollapsedCalendarEvent → String)
    (events : List CollapsedCalendarEvent) : List CalendarEventSignal :=
  events.map fun event =>
    calendarSignal email threadId event.data.toCalendarEventData (id event) (now event)

/-- The rows under the keys of the snapshots. -/
def rowsOf (s : Store) (snapshots : List CalendarEventSignal) : List SignalItem :=
  s.signals.rows.filter fun item => signalKey item ∈ snapshots.map snapshotKey

/-- Saving the events kept for a batch makes as many rows as there are events. -/
def RowPerEvent (s : Store) (records : List CalendarEventRecord) (email : Signal)
    (threadId : String) (id now : CollapsedCalendarEvent → String) : Prop :=
  let events := (collapseCalendarEvents records).collapsed
  let snapshots := snapshotsOf email threadId id now events
  (rowsOf (saveAll s snapshots) snapshots).length = events.length

variable {s : Store} {snapshots : List CalendarEventSignal} {email : Signal} {threadId : String}
  {id now : CollapsedCalendarEvent → String} {records : List CalendarEventRecord}

theorem saveAll_cons (s : Store) (snapshot : CalendarEventSignal)
    (snapshots : List CalendarEventSignal) :
    saveAll s (snapshot :: snapshots) =
      saveAll (s.saveItem (snapshot.withRsvp (storedRsvp s snapshot))) snapshots := by
  rw [saveAll, List.foldl_cons, saveCalendarEventSignal_store, saveAll]

/-- A save leaves the rows under other keys as they are. -/
theorem saveItem_get_of_ne {snapshot : CalendarEventSignal} {key : String × String}
    (h : key ≠ snapshotKey snapshot) (prior : Option CalendarRsvpResponse) :
    (s.saveItem (snapshot.withRsvp prior)).signals.get key = s.signals.get key :=
  KeyedTable.get_put_ne _ _ h

/-- Once there is a row under a key, saves keep one there. -/
theorem saveAll_get_some {key : String × String} (h : ∃ item, s.signals.get key = some item) :
    ∃ item, (saveAll s snapshots).signals.get key = some item := by
  induction snapshots generalizing s with
  | nil => exact h
  | cons snapshot snapshots ih =>
    rw [saveAll_cons]
    refine ih ?_
    by_cases hkey : key = snapshotKey snapshot
    · subst hkey
      exact ⟨_, KeyedTable.get_put_self _ _⟩
    · rwa [saveItem_get_of_ne hkey]

theorem saveAll_get_key : ∀ key ∈ snapshots.map snapshotKey,
    ∃ item, (saveAll s snapshots).signals.get key = some item := by
  induction snapshots generalizing s with
  | nil => intro key hkey; cases hkey
  | cons snapshot snapshots ih =>
    intro key hkey
    rw [saveAll_cons]
    rcases List.mem_cons.mp hkey with rfl | hkey
    · exact saveAll_get_some ⟨_, KeyedTable.get_put_self _ _⟩
    · exact ih key hkey

/-- There is a row for each snapshot just when no two of them share a key. -/
theorem rowsOf_length_iff (s : Store) (snapshots : List CalendarEventSignal) :
    (rowsOf (saveAll s snapshots) snapshots).length = snapshots.length ↔
      (snapshots.map snapshotKey).Nodup := by
  rw [rowsOf, KeyedTable.length_rows_under _ (fun _ => decide_eq_true_iff) saveAll_get_key,
    ← List.length_map (f := snapshotKey)]
  constructor
  · intro h
    rw [← (List.dedup_sublist _).eq_of_length h]
    exact List.nodup_dedup _
  · intro h
    rw [h.dedup]

theorem eventGroupKey_of_mem {event : CollapsedCalendarEvent}
    (h : event ∈ (collapseCalendarEvents records).collapsed) :
    eventGroupKey event.data.toCalendarEventData = event.key := by
  obtain ⟨key, -, hgroup⟩ := mem_collapsed.mp h
  rw [key_of_collapseGroup hgroup]
  obtain ⟨winner, hwinner, rfl⟩ := Option.map_eq_some_iff.mp hgroup
  have hmem := (List.mem_filter.mp (mem_of_lastBy _ hwinner)).1
  exact of_decide_eq_true (List.mem_filter.mp hmem).2

/-- The events kept are pairwise different. -/
theorem collapsed_different (records : List CalendarEventRecord) :
    (collapseCalendarEvents records).collapsed.Pairwise fun a b =>
      Different a.data.toCalendarEventData b.data.toCalendarEventData := by
  refine (List.pairwise_map.mp (collapsed_keys_nodup records)).imp_of_mem ?_
  intro a b ha hb hne
  refine .inl ?_
  rwa [eventGroupKey_of_mem ha, eventGroupKey_of_mem hb]

/-- Every event of a batch gets a row just when no two of the events kept overlap. -/
theorem rowPerEvent_iff : RowPerEvent s records email threadId id now ↔
    (collapseCalendarEvents records).collapsed.Pairwise fun a b =>
      ¬ Overlap a.data.toCalendarEventData b.data.toCalendarEventData := by
  have hlength : (snapshotsOf email threadId id now
      (collapseCalendarEvents records).collapsed).length =
        (collapseCalendarEvents records).collapsed.length := List.length_map _
  rw [RowPerEvent, ← hlength, rowsOf_length_iff, snapshotsOf, List.map_map, List.Nodup,
    List.pairwise_map]
  have hkey (a b : CollapsedCalendarEvent) :
      (snapshotKey ∘ fun event : CollapsedCalendarEvent =>
          calendarSignal email threadId event.data.toCalendarEventData (id event) (now event)) a ≠
        (snapshotKey ∘ fun event : CollapsedCalendarEvent =>
          calendarSignal email threadId event.data.toCalendarEventData (id event) (now event)) b ↔
      lookupIdOf a.data.toCalendarEventData ≠ lookupIdOf b.data.toCalendarEventData := by
    simp [snapshotKey, calendarSignal, lookupIdOf]
  constructor
  · intro h
    refine ((collapsed_different records).and h).imp fun {a b} hab => ?_
    exact lookupIdOf_ne_iff.mp fun _ => (hkey a b).mp hab.2
  · intro h
    refine ((collapsed_different records).and h).imp fun {a b} hab => ?_
    exact (hkey a b).mpr (lookupIdOf_ne_iff.mpr hab.2 hab.1)

/-! ## The row of another organizer -/

/-- An event of another organizer, saved later, leaves the row as it is. -/
def RowKept (s : Store) (known later : CalendarEventSignal) : Prop :=
  known.data.organizer ≠ later.data.organizer →
    (saveAll s [known, later]).signals.get (snapshotKey known) =
      (saveAll s [known]).signals.get (snapshotKey known)

theorem saveAll_one_get (s : Store) (known : CalendarEventSignal) :
    (saveAll s [known]).signals.get (snapshotKey known) =
      some (signalItem (known.withRsvp (storedRsvp s known))) := by
  rw [saveAll_cons]
  exact KeyedTable.get_put_self _ _

theorem rowKept_iff {known later : CalendarEventSignal} :
    RowKept s known later ↔
      (known.data.organizer ≠ later.data.organizer → snapshotKey known ≠ snapshotKey later) := by
  refine imp_congr_right fun horganizer => ?_
  have htwo : saveAll s [known, later] =
      (saveAll s [known]).saveItem (later.withRsvp (storedRsvp (saveAll s [known]) later)) := by
    simp only [saveAll_cons]
    rfl
  rw [htwo]
  constructor
  · intro hkept hkey
    rw [saveAll_one_get, hkey] at hkept
    have hitem := Option.some.inj ((KeyedTable.get_put_self _ _).symm.trans hkept)
    have hdata := congrArg (fun item => item.signal.data) hitem
    simp only [signalItem, CalendarEventSignal.withRsvp, SignalData.calendarEvent.injEq,
      CalendarEventData.mk.injEq] at hdata
    exact horganizer hdata.2.2.1.symm
  · intro hne
    exact saveItem_get_of_ne hne _

/-- **Lookup ids are apart just when no part of one runs on into the other.** So are the rows of a
batch, and the row of an event from what other organizers send. -/
theorem lookupIds_apart_iff (a b : CalendarEventData) (s : Store) (email laterMail : Signal)
    (threadId laterThread : String) :
    ((Different a b → lookupIdOf a ≠ lookupIdOf b) ↔ ¬ Overlap a b) ∧
      (∀ records id now, RowPerEvent s records email threadId id now ↔
        (collapseCalendarEvents records).collapsed.Pairwise fun a b =>
          ¬ Overlap a.data.toCalendarEventData b.data.toCalendarEventData) ∧
      ∀ id now laterId laterNow,
        RowKept s (calendarSignal email threadId a id now)
            (calendarSignal laterMail laterThread b laterId laterNow) ↔
          ¬ (email.accountId = laterMail.accountId ∧ OrganizersOverlap a b) := by
  refine ⟨lookupIdOf_ne_iff, fun _ _ _ => rowPerEvent_iff, ?_⟩
  intro id now laterId laterNow
  refine rowKept_iff.trans ?_
  have hkey : snapshotKey (calendarSignal email threadId a id now) =
      snapshotKey (calendarSignal laterMail laterThread b laterId laterNow) ↔
        email.accountId = laterMail.accountId ∧ lookupIdOf a = lookupIdOf b := by
    simp [snapshotKey, calendarSignal, lookupIdOf]
  constructor
  · rintro h ⟨haccount, hoverlap⟩
    have horganizer : a.organizer ≠ b.organizer :=
      hoverlap.elim RunsOn.head_ne fun h => h.head_ne.symm
    exact h horganizer (hkey.mpr ⟨haccount, lookupIdOf_eq_iff.mpr (.inr (.inl hoverlap))⟩)
  · intro h horganizer hsame
    obtain ⟨haccount, hid⟩ := hkey.mp hsame
    obtain ⟨heq, -⟩ | hoverlap | ⟨heq, -⟩ := lookupIdOf_eq_iff.mp hid
    · exact horganizer heq
    · exact h ⟨haccount, hoverlap⟩
    · exact horganizer heq

/-! ## Events that overlap -/

/-- An occurrence of one series, and an event of another UID that reads like it. -/
def lookalikes : List CalendarEventRecord :=
  recordsOf [review "REQUEST" 0 "uid" (some "1"), review "REQUEST" 0 "uid-1" none]

def reviewOf (organizer veventUid : String) : CalendarEventData :=
  { (review "REQUEST" 0 veventUid none).toCalendarEventData with organizer := organizer }

/-- The two events share a row, and one organizer overwrites the event of another. -/
theorem lookalikes_share_a_row :
    ¬ RowPerEvent ⟨.empty, .empty⟩ lookalikes inviteMail "thr-1" CollapsedCalendarEvent.key
        CollapsedCalendarEvent.key ∧
      ¬ RowKept ⟨.empty, .empty⟩
        (calendarSignal inviteMail "thr-1" (reviewOf "ann@org.test" "b-1") "sgn-2" "1")
        (calendarSignal inviteMail "thr-2" (reviewOf "ann@org.test-b" "1") "sgn-3" "2") := by
  constructor
  · unfold RowPerEvent
    decide +kernel
  · rw [rowKept_iff]
    decide +kernel

end SesEmailAdapter.Calendar.SignalLookup
