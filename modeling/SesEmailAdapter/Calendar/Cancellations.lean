import SesEmailAdapter.Calendar.CalendarCollapse

/-! # Cancelled events

An event is cancelled at ingest by its METHOD or its STATUS, in any letter case. The card of a
thread and the invite that is forwarded look at the METHOD alone. -/

namespace SesEmailAdapter.Calendar.Cancellations
open Lib
open SesEmailAdapter.Types Calendar.EventStore
open Calendar.IcsParser Calendar.CalendarCollapse

/-! ## The forwarded invite -/

structure IcalProperty where
  name : String
  value : String
  parameters : List (String × String)
deriving DecidableEq, Repr

/-- A calendar component with its one event. -/
structure ForwardIcs where
  calendar : List IcalProperty
  vevent : List IcalProperty
deriving DecidableEq, Repr

def property (name value : String) : IcalProperty := ⟨name, value, []⟩

def getFirstPropertyValue (properties : List IcalProperty) (name : String) : Option String :=
  (properties.find? fun property => property.name = name).map IcalProperty.value

structure ForwardOpts where
  proxyUid : String
  proxyOrganizer : String
  organizerCn : String
  attendeeAddress : String

def isCancel (calendarData : CalendarEventData) : Bool := calendarData.method = "CANCEL"

/-- Forced for a cancel, since the source often omits it. -/
def forwardStatus (calendarData : CalendarEventData) : Option String :=
  if isCancel calendarData then some "CANCELLED" else calendarData.status

def buildForwardIcs (isoToIcalTime : String → String) (now : String) (event : EventSignal)
    (opts : ForwardOpts) : ForwardIcs where
  calendar :=
    [property "version" "2.0", property "prodid" "-//Numaeel//Calendar Proxy//EN",
      property "method" event.data.method]
  vevent :=
    [property "uid" opts.proxyUid, property "sequence" (toString event.data.sequence),
      property "dtstart" (isoToIcalTime event.data.startTime)] ++
    (event.details.endTime.map fun endTime => property "dtend" (isoToIcalTime endTime)).toList ++
    [property "summary" event.data.title] ++
    (event.details.location.map (property "location")).toList ++
    (event.details.description.map (property "description")).toList ++
    ((forwardStatus event.data).map (property "status")).toList ++
    [property "dtstamp" now,
      ⟨"organizer", opts.proxyOrganizer, [("cn", opts.organizerCn)]⟩,
      ⟨"attendee", "mailto:" ++ opts.attendeeAddress,
        if isCancel event.data then [] else [("partstat", "NEEDS-ACTION"), ("rsvp", "TRUE")]⟩]

variable {isoToIcalTime : String → String} {now : String} {event : EventSignal} {opts : ForwardOpts}

theorem forward_method :
    getFirstPropertyValue (buildForwardIcs isoToIcalTime now event opts).calendar "method" =
      some event.data.method := rfl

theorem find_option {value : Option String} {name other : String} (h : name ≠ other) :
    ((value.map (property name)).toList).find? (fun property => property.name = other) = none := by
  cases value <;> simp [property, h]

theorem forward_status :
    getFirstPropertyValue (buildForwardIcs isoToIcalTime now event opts).vevent "status" =
      forwardStatus event.data := by
  have hdtend : ((event.details.endTime.map fun endTime =>
      property "dtend" (isoToIcalTime endTime)).toList).find?
        (fun property => property.name = "status") = none := by
    cases event.details.endTime <;> simp [property]
  have hlocation := @find_option event.details.location "location" "status" (by decide)
  have hdescription := @find_option event.details.description "description" "status" (by decide)
  simp only [getFirstPropertyValue, buildForwardIcs, List.find?_append, hdtend, hlocation,
    hdescription]
  cases forwardStatus event.data <;> simp [property]

/-! ## Agreement -/

/-- The event is cancelled by its STATUS or by its METHOD. -/
def CancelledAtIngest (event : CalendarEventData) : Prop :=
  event.status.map String.toUpper = some "CANCELLED" ∨ event.method.toUpper = "CANCEL"

/-- The calendar that receives the invite removes the event. -/
structure IsCancel (ics : ForwardIcs) : Prop where
  method : (getFirstPropertyValue ics.calendar "method").map String.toUpper = some "CANCEL"
  status : (getFirstPropertyValue ics.vevent "status").map String.toUpper = some "CANCELLED"

/-- The invite reads as a cancellation by one of the two. -/
def ShowsCancelled (ics : ForwardIcs) : Prop :=
  (getFirstPropertyValue ics.calendar "method").map String.toUpper = some "CANCEL" ∨
    (getFirstPropertyValue ics.vevent "status").map String.toUpper = some "CANCELLED"

/-- The card of the signal and the invite forwarded for it say what ingest made of the event. -/
structure Agrees (thread : List EventSignal) (signal : EventSignal) (event : CalendarEventData)
    (ics : ForwardIcs) : Prop where
  cancelled : CancelledAtIngest event → (∃ enrichment,
    (collapseCalendarSignals thread).winners.get signal.id = some enrichment ∧
      enrichment.cancelledAt.isSome ∧ enrichment.rsvpable = false) ∧ IsCancel ics
  standing : ¬ CancelledAtIngest event → (∀ enrichment,
    (collapseCalendarSignals thread).winners.get signal.id = some enrichment →
      enrichment.cancelledAt = none) ∧ ¬ ShowsCancelled ics

/-- No signal of the event's UID listed before this one is later, and none listed after it is as
late. -/
def NotOutranked (thread : List EventSignal) (signal : EventSignal) : Prop :=
  ∃ before after, groupOf thread (uidOf signal) = before ++ signal :: after ∧
    (∀ other ∈ before, orderInGroup other.stored signal.stored ≤ 0) ∧
    ∀ other ∈ after, 0 < orderInGroup signal.stored other.stored

theorem localeCompare_nonpos {a b : String} : localeCompare a b ≤ 0 ↔ a ≤ b := by
  rw [localeCompare]
  by_cases hlt : a < b
  · rw [if_pos hlt]
    exact iff_of_true (by decide) hlt.le
  · rw [if_neg hlt]
    by_cases hgt : b < a
    · rw [if_pos hgt]
      exact iff_of_false (by decide) hgt.not_ge
    · rw [if_neg hgt]
      exact iff_of_true le_rfl (not_lt.mp hgt)

theorem inOrder_iff {a b : EventSignal} : inOrder a b = true ↔
    a.data.sequence < b.data.sequence ∨
      (a.data.sequence = b.data.sequence ∧ a.createdAt ≤ b.createdAt) := by
  have hlocale : localeCompare a.createdAt b.createdAt ≤ 0 ↔ a.createdAt ≤ b.createdAt :=
    localeCompare_nonpos
  have horder : orderInGroup a.stored b.stored =
      if a.data.sequence ≠ b.data.sequence then a.data.sequence - b.data.sequence
      else localeCompare a.createdAt b.createdAt := rfl
  rw [inOrder, decide_eq_true_eq, horder]
  by_cases hsequence : a.data.sequence = b.data.sequence
  · rw [if_neg (not_not.mpr hsequence), hlocale]
    simp [hsequence]
  · rw [if_pos hsequence]
    simp only [hsequence, false_and, or_false]
    omega

theorem inOrder_trans (a b c : EventSignal) (hab : inOrder a b) (hbc : inOrder b c) :
    inOrder a c := by
  rw [inOrder_iff] at hab hbc ⊢
  rcases hab with hab | ⟨hab, habTime⟩ <;> rcases hbc with hbc | ⟨hbc, hbcTime⟩
  · exact .inl (hab.trans hbc)
  · exact .inl (hbc ▸ hab)
  · exact .inl (hab ▸ hbc)
  · exact .inr ⟨hab.trans hbc, habTime.trans hbcTime⟩

theorem inOrder_total (a b : EventSignal) : inOrder a b || inOrder b a := by
  rw [Bool.or_eq_true, inOrder_iff, inOrder_iff]
  rcases lt_trichotomy a.data.sequence b.data.sequence with h | h | h
  · exact .inl (.inl h)
  · exact (le_total a.createdAt b.createdAt).imp (fun ht => .inr ⟨h, ht⟩)
      fun ht => .inr ⟨h.symm, ht⟩
  · exact .inr (.inl h)

theorem latest_iff_notOutranked {thread : List EventSignal} {signal : EventSignal} :
    Latest thread signal ↔ NotOutranked thread signal := by
  rw [Latest, lastBy_eq_some_iff inOrder inOrder_trans inOrder_total, NotOutranked]
  simp [inOrder]

/-! ## When they agree -/

variable {thread : List EventSignal} {signal : EventSignal} {data : CalendarEventData}

/-- A signal that shows its event. -/
structure Shows (signal : EventSignal) (data : CalendarEventData) : Prop where
  method : signal.data.method = data.method
  status : signal.data.status = data.status

theorem toUpper_cancel : "CANCEL".toUpper = "CANCEL" :=
  String.toList_inj.mp (by rw [String.toUpper, String.toList_map]; rfl)

theorem toUpper_cancelled : "CANCELLED".toUpper = "CANCELLED" :=
  String.toList_inj.mp (by rw [String.toUpper, String.toList_map]; rfl)

/-- The card of a signal is cancelled just when it shows a CANCEL. -/
theorem cancelledAt_isSome {prior : Option EventSignal} :
    (enrichmentOf signal prior).cancelledAt.isSome ↔ signal.data.method = "CANCEL" := by
  by_cases h : signal.data.method = "CANCEL"
  · simp [enrichmentOf, winnerIsCancel, h]
  · simp [enrichmentOf, winnerIsCancel, h]

theorem cancel_not_rsvpable {prior : Option EventSignal} (h : signal.data.method = "CANCEL") :
    (enrichmentOf signal prior).rsvpable = false := by
  have hne : ¬ ("CANCEL" = "REQUEST") := by decide
  simp [enrichmentOf, h, toUpper_cancel, hne]

theorem cancel_forwards (h : signal.data.method = "CANCEL") :
    IsCancel (buildForwardIcs isoToIcalTime now signal opts) := by
  have hcancel : Cancellations.isCancel signal.data = true := decide_eq_true h
  constructor
  · rw [forward_method, h, Option.map_some, toUpper_cancel]
  · rw [forward_status, forwardStatus, if_pos hcancel, Option.map_some, toUpper_cancelled]

/-- An event that stands is neither shown nor forwarded as cancelled. -/
theorem standing_agrees (hids : (thread.map EventSignal.id).Nodup) (hsignal : signal ∈ thread)
    (hshows : Shows signal data) (hstanding : ¬ CancelledAtIngest data) :
    (∀ enrichment, (collapseCalendarSignals thread).winners.get signal.id = some enrichment →
      enrichment.cancelledAt = none) ∧
      ¬ ShowsCancelled (buildForwardIcs isoToIcalTime now signal opts) := by
  obtain ⟨hstatus, hmethod⟩ := not_or.mp hstanding
  rw [← hshows.status] at hstatus
  rw [← hshows.method] at hmethod
  have hnot : signal.data.method ≠ "CANCEL" := by
    intro heq
    exact hmethod (by rw [heq, toUpper_cancel])
  constructor
  · intro enrichment hget
    obtain ⟨-, rfl⟩ := (winners_get hids hsignal enrichment).mp hget
    rw [← Option.not_isSome_iff_eq_none, cancelledAt_isSome]
    exact hnot
  · rintro (hcancel | hcancelled)
    · rw [forward_method, Option.map_some, Option.some.injEq] at hcancel
      exact hmethod hcancel
    · have hforced : ¬ Cancellations.isCancel signal.data = true := by
        simpa [Cancellations.isCancel] using hnot
      rw [forward_status, forwardStatus, if_neg hforced] at hcancelled
      exact hstatus hcancelled

/-- A cancelled event is shown and forwarded as such just when it is a CANCEL in this spelling and
no signal of its UID outranks it. -/
theorem agrees_signal_iff (hids : (thread.map EventSignal.id).Nodup) (hsignal : signal ∈ thread)
    (hshows : Shows signal data) :
    Agrees thread signal data (buildForwardIcs isoToIcalTime now signal opts) ↔
      (CancelledAtIngest data → data.method = "CANCEL" ∧ NotOutranked thread signal) := by
  constructor
  · intro h hcancelled
    obtain ⟨⟨enrichment, hget, hcancelledAt, -⟩, -⟩ := h.cancelled hcancelled
    obtain ⟨hlatest, rfl⟩ := (winners_get hids hsignal enrichment).mp hget
    have hmethod := cancelledAt_isSome.mp hcancelledAt
    exact ⟨hshows.method.symm.trans hmethod, latest_iff_notOutranked.mp hlatest⟩
  · intro h
    refine ⟨fun hcancelled => ?_, standing_agrees hids hsignal hshows⟩
    obtain ⟨hmethod, hrank⟩ := h hcancelled
    have hcancel : signal.data.method = "CANCEL" := hshows.method.trans hmethod
    have hget := (winners_get hids hsignal _).mpr ⟨latest_iff_notOutranked.mpr hrank, rfl⟩
    exact ⟨⟨_, hget, cancelledAt_isSome.mpr hcancel, cancel_not_rsvpable hcancel⟩,
      cancel_forwards hcancel⟩

/-- **Cancellations agree just when every cancelled event is a plain CANCEL.** Whatever is
forwarded with whichever options, the cards of a batch and the invites forwarded say what ingest
made of its events just when each one cancelled has the METHOD "CANCEL" itself and no other event
of its UID is later. -/
theorem agrees_iff {records : List CalendarEventRecord} {email : Signal} {threadId : String}
    {stamped : List StampedEvent} (h : Ingested records email threadId stamped thread)
    (isoToIcalTime : String → String) (now : String) (opts : EventSignal → ForwardOpts) :
    (∀ stampedEvent ∈ stamped, Agrees thread (storedEvent email threadId stampedEvent)
        stampedEvent.event.data.toCalendarEventData
        (buildForwardIcs isoToIcalTime now (storedEvent email threadId stampedEvent)
          (opts (storedEvent email threadId stampedEvent)))) ↔
      ∀ stampedEvent ∈ stamped,
        CancelledAtIngest stampedEvent.event.data.toCalendarEventData →
          stampedEvent.event.data.method = "CANCEL" ∧
            NotOutranked thread (storedEvent email threadId stampedEvent) := by
  refine forall₂_congr fun stampedEvent hmem => ?_
  have hsignal : storedEvent email threadId stampedEvent ∈ thread :=
    h.listed.mem_iff.mpr (List.mem_map_of_mem hmem)
  exact agrees_signal_iff h.nodup_ids hsignal ⟨rfl, rfl⟩

/-! ## A cancellation beside a later request -/

/-- A mail with a cancellation and a request of a higher SEQUENCE. -/
def cancelAndRequest : List CalendarEventRecord :=
  recordsOf [review "CANCEL" 0 "uid-1" none, review "REQUEST" 1 "uid-1" none]

/-- The event that is kept: the request, marked as cancelled. -/
def cancelledRequest : CollapsedCalendarEvent where
  key := "uid-1"
  data := { review "REQUEST" 1 "uid-1" none with status := some "CANCELLED" }
  rawIcsContent := "ics"

def requestStamps : List StampedEvent := [⟨cancelledRequest, "sgn-2", "2026-03-01T08:00:01.000Z"⟩]

theorem cancelAndRequest_ingested :
    Ingested cancelAndRequest inviteMail "thr-1" requestStamps
      (requestStamps.map (storedEvent inviteMail "thr-1")) where
  events := by
    have hwinner : winnerRecord cancelAndRequest =
        some ⟨review "REQUEST" 1 "uid-1" none, "ics"⟩ := by
      refine (lastBy_eq_some_iff _ ?_ ?_).mpr
        ⟨[⟨review "CANCEL" 0 "uid-1" none, "ics"⟩], [], rfl, ?_, ?_⟩
      · intro a b c hab hbc
        simp only [decide_eq_true_eq] at hab hbc ⊢
        exact hab.trans hbc
      · intro a b
        simpa using le_total a.event.sequence b.event.sequence
      · simp [review]
      · simp
    have hgroup : collapseGroup "uid-1" cancelAndRequest = some cancelledRequest := by
      rw [collapseGroup, hwinner]
      rfl
    have hgroups : (groups (fun record : CalendarEventRecord =>
        eventGroupKey record.event.toCalendarEventData) cancelAndRequest).entries =
          [("uid-1", cancelAndRequest)] := by decide +kernel
    simp only [collapseCalendarEvents, hgroups, List.filterMap_cons, hgroup, List.filterMap_nil]
    rfl
  ids := by decide
  listed := .refl _

/-- The event kept is cancelled, but its card and its invite ask for an answer. -/
theorem cancelAndRequest_disagrees :
    Ingested cancelAndRequest inviteMail "thr-1" requestStamps
        (requestStamps.map (storedEvent inviteMail "thr-1")) ∧
      CancelledAtIngest cancelledRequest.data.toCalendarEventData ∧
      ¬ ∀ stampedEvent ∈ requestStamps,
        Agrees (requestStamps.map (storedEvent inviteMail "thr-1"))
          (storedEvent inviteMail "thr-1" stampedEvent)
          stampedEvent.event.data.toCalendarEventData
          (buildForwardIcs (fun time => time) "2026-03-01T08:00:02.000Z"
            (storedEvent inviteMail "thr-1" stampedEvent)
            ⟨"uid", "me@mail.test", "Ann", "me"⟩) := by
  have hcancelled : CancelledAtIngest cancelledRequest.data.toCalendarEventData :=
    .inl (congrArg some toUpper_cancelled)
  refine ⟨cancelAndRequest_ingested, hcancelled, fun h => ?_⟩
  have hshows : Shows (storedEvent inviteMail "thr-1" (requestStamps.head (by decide)))
      cancelledRequest.data.toCalendarEventData := ⟨rfl, rfl⟩
  have hmethod := ((agrees_signal_iff cancelAndRequest_ingested.nodup_ids List.mem_cons_self
    hshows).mp (h _ List.mem_cons_self) hcancelled).1
  revert hmethod
  decide

/-- A plain cancellation. -/
def cancelStamp : StampedEvent :=
  ⟨⟨"uid-1", { review "CANCEL" 1 "uid-1" none with status := some "CANCELLED" }, "ics"⟩, "sgn-2",
    "2026-03-01T08:00:01.000Z"⟩

theorem agrees_cancel : Agrees [storedEvent inviteMail "thr-1" cancelStamp]
    (storedEvent inviteMail "thr-1" cancelStamp) cancelStamp.event.data.toCalendarEventData
    (buildForwardIcs (fun time => time) "2026-03-01T08:00:02.000Z"
      (storedEvent inviteMail "thr-1" cancelStamp) ⟨"uid", "me@mail.test", "Ann", "me"⟩) :=
  (@agrees_iff _ (recordsOf [review "CANCEL" 1 "uid-1" none]) inviteMail "thr-1" [cancelStamp]
    ⟨by decide +kernel, by decide, .refl _⟩ (fun time => time) "2026-03-01T08:00:02.000Z"
    fun _ => ⟨"uid", "me@mail.test", "Ann", "me"⟩).mpr
    (by
      intro stampedEvent hmem _
      obtain rfl := List.mem_singleton.mp hmem
      exact ⟨rfl, [], [], rfl, by simp, by simp⟩)
    cancelStamp List.mem_cons_self

end SesEmailAdapter.Calendar.Cancellations
