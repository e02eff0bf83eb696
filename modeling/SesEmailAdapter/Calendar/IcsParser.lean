import SesEmailAdapter.Lib.OrderedMap
import SesEmailAdapter.Processor.IncomingEmail

/-! # IcsParser

The events of the calendar attachments of a mail. The records of one event, which may come from
several attachments, are collapsed into the one snapshot that is stored. -/

namespace SesEmailAdapter.Calendar.IcsParser
open Lib
open SesEmailAdapter.Types Email.Address
open Resource.ResourceDatabase (truthy)

/-! ## Events -/

structure CalendarAttendee where
  address : String
  cn : Option String
  partstat : Option String
  role : Option String
deriving DecidableEq, Repr

/-- What an event shows beside the data that its row is kept by. -/
structure EventDetails where
  description : Option String
  endTime : Option String
  location : Option String
  attendees : List CalendarAttendee
deriving DecidableEq, Repr

structure CalendarEvent extends CalendarEventData, EventDetails
deriving DecidableEq, Repr

structure CalendarEventRecord where
  event : CalendarEvent
  rawIcsContent : String
deriving DecidableEq, Repr

structure CollapsedCalendarEvent where
  key : String
  data : CalendarEvent
  rawIcsContent : String
deriving DecidableEq, Repr

structure CollapseCalendarEventsResult where
  collapsed : List CollapsedCalendarEvent
  skippedReplyOnly : Nat
deriving DecidableEq, Repr

/-! ## Collapse -/

/-- `REPLY_LIKE_METHODS` -/
def isReplyLike (method : String) : Bool := method = "REPLY" ∨ method = "COUNTER"

def eventGroupKey (event : CalendarEventData) : String :=
  match truthy event.recurrenceId with
  | some recurrenceId => event.veventUid ++ "::" ++ recurrenceId
  | none => event.veventUid

/-- The status of a reply goes to the attendee of its address. -/
def overlayPartstat (attendees : List CalendarAttendee) (incoming : CalendarAttendee) :
    List CalendarAttendee :=
  match truthy incoming.partstat with
  | none => attendees
  | some partstat =>
    match attendees.findIdx? fun attendee =>
        toLowerCase attendee.address.toList = toLowerCase incoming.address.toList with
    | none => attendees
    | some idx => attendees.modify idx fun attendee => { attendee with partstat := some partstat }

def overlayReplies (attendees : List CalendarAttendee) (replies : List CalendarEventRecord) :
    List CalendarAttendee :=
  replies.foldl (fun attendees reply => reply.event.attendees.foldl overlayPartstat attendees)
    attendees

def fullRecords (group : List CalendarEventRecord) : List CalendarEventRecord :=
  group.filter fun record => ¬ isReplyLike record.event.method

def replyRecords (group : List CalendarEventRecord) : List CalendarEventRecord :=
  group.filter fun record => isReplyLike record.event.method

/-- The record of the highest SEQUENCE, the last one of ties. -/
def winnerRecord (group : List CalendarEventRecord) : Option CalendarEventRecord :=
  lastBy (fun a b => decide (a.event.sequence ≤ b.event.sequence)) (fullRecords group)

def groupCancelled (group : List CalendarEventRecord) : Bool :=
  (fullRecords group).any fun record => record.event.method = "CANCEL"

/-- Replies alone make no event. -/
def collapseGroup (key : String) (group : List CalendarEventRecord) :
    Option CollapsedCalendarEvent :=
  (winnerRecord group).map fun winner => {
    key := key
    data := { winner.event with
      attendees := overlayReplies winner.event.attendees (replyRecords group)
      status := if groupCancelled group then some "CANCELLED" else winner.event.status }
    rawIcsContent := winner.rawIcsContent }

def collapseCalendarEvents (records : List CalendarEventRecord) : CollapseCalendarEventsResult :=
  let grouped :=
    (groups (fun record => eventGroupKey record.event.toCalendarEventData) records).entries
  { collapsed := grouped.filterMap fun group => collapseGroup group.1 group.2
    skippedReplyOnly := (grouped.filter fun group => fullRecords group.2 = []).length }

variable {records : List CalendarEventRecord} {event : CollapsedCalendarEvent}

/-! ## What is kept -/

theorem mem_collapsed : event ∈ (collapseCalendarEvents records).collapsed ↔
    ∃ key, key ∈ records.map (fun record => eventGroupKey record.event.toCalendarEventData) ∧
      collapseGroup key (records.filter fun record =>
        eventGroupKey record.event.toCalendarEventData = key) = some event := by
  simp only [collapseCalendarEvents, List.mem_filterMap, Prod.exists]
  constructor
  · rintro ⟨key, group, hgroup, hevent⟩
    obtain ⟨hkey, rfl⟩ := (mem_groups _).mp hgroup
    exact ⟨key, hkey, hevent⟩
  · rintro ⟨key, hkey, hevent⟩
    exact ⟨key, _, (mem_groups _).mpr ⟨hkey, rfl⟩, hevent⟩

theorem key_of_collapseGroup {key : String} {group : List CalendarEventRecord}
    (h : collapseGroup key group = some event) : event.key = key := by
  obtain ⟨winner, -, rfl⟩ := Option.map_eq_some_iff.mp h
  rfl

/-- The keys of the events kept are distinct. -/
theorem collapsed_keys_nodup (records : List CalendarEventRecord) :
    ((collapseCalendarEvents records).collapsed.map CollapsedCalendarEvent.key).Nodup := by
  exact (groups _ records).nodup_filterMap fun entry _ event hevent => key_of_collapseGroup hevent

end SesEmailAdapter.Calendar.IcsParser
