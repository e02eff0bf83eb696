import SesEmailAdapter.Calendar.IcsParser

/-! # CalendarExtraction

The calendar attachments of a signal, and the events that are read from them. -/

namespace SesEmailAdapter.Calendar.CalendarExtraction
open SesEmailAdapter.Types Email.Address
open Calendar.IcsParser

/-- `filename.toLowerCase().endsWith(".ics")` -/
def hasIcsExtension (a : Attachment) : Bool := ".ics".toList <:+ toLowerCase a.filename.toList

def isCalendarAttachment (a : Attachment) : Bool :=
  "text/calendar".toList <+: a.mimeType.toList ∨ hasIcsExtension a

def hasCalendarAttachment (attachments : List Attachment) : Bool :=
  attachments.any isCalendarAttachment

def findCalendarAttachments (attachments : List Attachment) : List Attachment :=
  attachments.filter isCalendarAttachment

/-- The events of one attachment and its text, or the reason why there are none. -/
abbrev ParseResult := Except String (List CalendarEvent × String)

structure InvalidCalendarAttachment where
  attachment : Attachment
  reason : String
deriving DecidableEq, Repr

structure CalendarAttachmentExtractionResult where
  validEvents : List CollapsedCalendarEvent
  invalidAttachments : List InvalidCalendarAttachment
deriving DecidableEq, Repr

def recordsOf : ParseResult → List CalendarEventRecord
  | .ok (events, rawIcsContent) => events.map fun event => ⟨event, rawIcsContent⟩
  | .error _ => []

def invalidOf (a : Attachment) : ParseResult → List InvalidCalendarAttachment
  | .ok _ => []
  | .error reason => [⟨a, reason⟩]

/-- `parseAt` is what `parseIcsEvents` says of the content under a key of the content store. -/
def extract (parseAt : String → ParseResult) (attachments : List Attachment) :
    Option CalendarAttachmentExtractionResult :=
  let calendarAttachments := findCalendarAttachments attachments
  if calendarAttachments = [] then none
  else
    let records := calendarAttachments.flatMap fun a => recordsOf (parseAt a.s3Key)
    some {
      validEvents := (collapseCalendarEvents records).collapsed
      invalidAttachments := calendarAttachments.flatMap fun a => invalidOf a (parseAt a.s3Key) }

variable {attachments : List Attachment} {a : Attachment}

theorem mem_findCalendarAttachments :
    a ∈ findCalendarAttachments attachments ↔
      a ∈ attachments ∧ isCalendarAttachment a = true := by
  simp [findCalendarAttachments]

end SesEmailAdapter.Calendar.CalendarExtraction
