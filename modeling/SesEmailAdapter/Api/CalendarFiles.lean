import SesEmailAdapter.Calendar.CalendarExtraction

/-! # Calendar files in the attachment list

The events of an invite are shown as signals of their own, so its file is left out of the
attachments that the client sees. Which files these are is decided a second time here, and the
letter case of a content type counts for the extraction only. -/

namespace SesEmailAdapter.Api.CalendarFiles
open SesEmailAdapter.Types Email.Address
open Calendar.CalendarExtraction
  (hasIcsExtension findCalendarAttachments mem_findCalendarAttachments)

/-- An attachment as the client sees it. -/
structure ApiAttachment where
  filename : String
  mimeType : String
  sizeBytes : Nat
  url : String
deriving DecidableEq, Repr

/-- The predicate of the presentation. -/
def isCalendarAttachment (a : Attachment) : Bool :=
  "text/calendar".toList <+: toLowerCase a.mimeType.toList ∨ hasIcsExtension a

def toApiAttachment (cdnBase : String) (a : Attachment) : ApiAttachment where
  filename := a.filename
  mimeType := a.mimeType
  sizeBytes := a.sizeBytes
  url := cdnBase ++ "/" ++ a.s3Key

def toApiAttachments (attachments : List Attachment) (cdnBase : String) : List ApiAttachment :=
  (attachments.filter fun a => !isCalendarAttachment a).map (toApiAttachment cdnBase)

/-- An attachment that the client does not see. -/
def Hidden (cdnBase : String) (attachments : List Attachment) (a : Attachment) : Prop :=
  toApiAttachment cdnBase a ∉ toApiAttachments attachments cdnBase

/-- The attachments of a signal are hidden just where their events are extracted. -/
def HiddenExactly (cdnBase : String) (attachments : List Attachment) : Prop :=
  ∀ a ∈ attachments, Hidden cdnBase attachments a ↔ a ∈ findCalendarAttachments attachments

/-- A content type of calendars is in lower case, or the name of the file says what it is. -/
def PlainlyTyped (a : Attachment) : Prop :=
  "text/calendar".toList <+: toLowerCase a.mimeType.toList →
    "text/calendar".toList <+: a.mimeType.toList ∨ hasIcsExtension a = true

variable {cdnBase : String} {attachments : List Attachment} {a : Attachment}

/-- The client sees the name and the type that the attachment is judged by. -/
theorem hidden_iff (hmem : a ∈ attachments) :
    Hidden cdnBase attachments a ↔ isCalendarAttachment a = true := by
  constructor
  · intro hhidden
    by_contra hshown
    exact hhidden (List.mem_map.mpr ⟨a, List.mem_filter.mpr ⟨hmem, by simpa using hshown⟩, rfl⟩)
  · intro hcalendar hshown
    obtain ⟨b, hb, hsame⟩ := List.mem_map.mp hshown
    have hname : b.filename = a.filename := congrArg ApiAttachment.filename hsame
    have htype : b.mimeType = a.mimeType := congrArg ApiAttachment.mimeType hsame
    have hjudged : isCalendarAttachment b = isCalendarAttachment a := by
      simp [isCalendarAttachment, hasIcsExtension, hname, htype]
    rw [List.mem_filter, hjudged, hcalendar] at hb
    simp at hb

/-- What the extraction recognises, the presentation recognises. -/
theorem lower_of_calendar (h : "text/calendar".toList <+: a.mimeType.toList) :
    "text/calendar".toList <+: toLowerCase a.mimeType.toList := by
  have hlower : "text/calendar".toList = toLowerCase "text/calendar".toList := by decide
  rw [hlower]
  exact h.map Char.toLower

theorem agree_iff : (isCalendarAttachment a = true ↔
    Calendar.CalendarExtraction.isCalendarAttachment a = true) ↔ PlainlyTyped a := by
  have hlower := @lower_of_calendar a
  simp only [isCalendarAttachment, Calendar.CalendarExtraction.isCalendarAttachment, PlainlyTyped,
    decide_eq_true_eq]
  tauto

/-- **A hidden file is one whose events are extracted**, unless its type has other letters than
lower-case ones and its name does not end in `.ics`. -/
theorem hiddenExactly_iff (cdnBase : String) (attachments : List Attachment) :
    HiddenExactly cdnBase attachments ↔ ∀ a ∈ attachments, PlainlyTyped a := by
  have heach {a : Attachment} (hmem : a ∈ attachments) :
      (Hidden cdnBase attachments a ↔ a ∈ findCalendarAttachments attachments) ↔
        PlainlyTyped a := by
    rw [hidden_iff hmem, mem_findCalendarAttachments, ← agree_iff]
    simp [hmem]
  constructor
  · intro hexactly a hmem
    exact (heach hmem).mp (hexactly a hmem)
  · intro hplain a hmem
    exact (heach hmem).mpr (hplain a hmem)

/-- An invite of a sender that writes its content type with capitals. -/
def capitalInvite : Attachment where
  filename := "invite.txt"
  mimeType := "Text/Calendar; method=REQUEST"
  sizeBytes := 812
  s3Key := "attachments/acc/sgn-1/0"

/-- The file is hidden, and no event is extracted from it. -/
theorem capitalInvite_lost :
    Hidden "https://cdn.example" [capitalInvite] capitalInvite ∧
      Calendar.CalendarExtraction.extract (fun _ => .ok ([], "")) [capitalInvite] = none ∧
      ¬ HiddenExactly "https://cdn.example" [capitalInvite] := by
  refine ⟨(hidden_iff (by simp)).mpr (by decide), by decide +kernel, fun hexactly => ?_⟩
  have hrecognised := (hexactly capitalInvite (by simp)).mp
    ((hidden_iff (by simp)).mpr (by decide))
  rw [mem_findCalendarAttachments] at hrecognised
  exact absurd hrecognised.2 (by decide)

end SesEmailAdapter.Api.CalendarFiles
