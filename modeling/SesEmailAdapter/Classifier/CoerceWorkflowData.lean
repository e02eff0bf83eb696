import Mathlib.Data.List.AList
import SesEmailAdapter.Email.Address
import SesEmailAdapter.Lib.Json

/-! # Coercion of workflow data

The record that the language model gives for a workflow, with any names and any values in it, and
what the registry of workflows makes of it. A field of a date is stored with its instant beside
it, under the name of the field with `Instant` behind it. -/

namespace SesEmailAdapter.Classifier.CoerceWorkflowData
open Lib
open SesEmailAdapter.Types
open Email.Address (trim toLowerCase)

/-! ## Records -/

/-- An object of the model: at most one value under a name. -/
abbrev Record := AList fun _ : String => Json

/-- The value under a name; one that is missing reads as a null everywhere. -/
def Record.read (record : Record) (name : String) : Json := (record.lookup name).getD .null

/-! ## The registry -/

inductive FieldType
  | string | enum | number | boolean | date | array
deriving DecidableEq, Repr

structure FieldSpec where
  name : String
  type : FieldType
  enumValues : List String
deriving DecidableEq, Repr

def FieldSpec.of (type : FieldType) (name : String) : FieldSpec := ⟨name, type, []⟩

def FieldSpec.oneOf (name : String) (enumValues : List String) : FieldSpec :=
  ⟨name, .enum, enumValues⟩

open FieldSpec in
/-- `CLASSIFIER_WORKFLOW_REGISTRY` -/
def workflowFields : Workflow → Option (List FieldSpec)
  | .auth => some [
    oneOf "authType" ["verification", "password_reset", "two_factor", "security_alert", "other"],
    of .string "code", of .string "actionUrl", of .number "expiresInMinutes", of .string "service"]
  | .conversation => some [
    oneOf "sentiment" ["positive", "neutral", "negative", "urgent"],
    of .boolean "requiresReply", of .string "muteUrl"]
  | .crm => some [of .string "senderCompany", of .string "senderRole"]
  | .package => some [
    oneOf "packageType" ["confirmation", "shipping", "out_for_delivery", "delivered", "return",
      "refund", "cancellation"],
    of .string "retailer", of .string "orderNumber", of .string "trackingNumber",
    of .string "trackingUrl", of .date "estimatedDelivery", of .array "items",
    of .number "totalAmount", of .string "currency"]
  | .travel => some [
    oneOf "travelType" ["flight", "hotel", "car_rental", "train", "cruise", "activity",
      "itinerary", "check_in_reminder", "boarding_pass"],
    of .string "provider", of .string "confirmationNumber", of .date "departureDate",
    of .date "returnDate", of .string "origin", of .string "destination", of .array "passengers",
    of .number "totalAmount", of .string "currency", of .string "flightNumber",
    of .string "seatNumber", of .date "boardingTime"]
  | .payments => some [
    oneOf "paymentType" ["invoice", "receipt", "subscription_renewal", "payment_failed",
      "plan_changed", "tax", "wire_transfer", "refund", "statement", "other"],
    of .string "vendor", of .date "date", of .number "amount", of .string "currency",
    of .date "dueDate", of .string "invoiceNumber", of .string "accountLastFour",
    of .string "downloadUrl", of .string "managementUrl", of .string "paymentUrl"]
  | .content => some [
    oneOf "contentType" ["newsletter", "promotion", "social_digest", "product_update",
      "announcement"],
    of .string "publisher", of .array "topics", of .string "discountCode",
    of .string "discountAmount", of .date "expiryDate"]
  | .onboarding => some [
    oneOf "onboardingType" ["welcome", "verification", "getting_started", "trial_started",
      "other"],
    of .string "service"]
  | .notice => some [
    oneOf "noticeType" ["terms_update", "privacy_policy", "data_processor", "cookie_policy",
      "compliance", "service_notice", "government", "account_notification", "security_awareness",
      "bounce", "other"],
    of .string "provider", of .date "effectiveDate", of .string "referenceNumber",
    of .string "documentUrl", of .string "failedAddress", of .string "bounceReason"]
  | .healthcare => some [
    oneOf "eventType" ["appointment_reminder", "appointment_confirmation", "test_results",
      "prescription", "insurance_update", "billing", "referral"],
    of .string "provider", of .date "appointmentDate", of .string "location",
    of .boolean "requiresAction", of .string "portalUrl", of .string "patientName"]
  | .job => some [
    oneOf "jobType" ["application_status", "recruiter_outreach", "interview_request", "offer",
      "rejection", "job_posting"],
    of .string "company", of .string "role", of .string "location", of .string "salary",
    of .date "interviewDate",
    oneOf "applicationStatus" ["submitted", "reviewing", "interview", "offer", "rejected"],
    of .string "contactName", of .string "contactEmail", of .string "actionUrl"]
  | .support => some [
    oneOf "eventType" ["ticket_opened", "ticket_updated", "ticket_resolved", "ticket_closed",
      "awaiting_response", "status_update"],
    of .string "ticketId", of .string "service",
    oneOf "priority" ["low", "normal", "high", "urgent"],
    of .string "agentName", of .string "responseUrl"]
  | .events => some [
    oneOf "eventType" ["save_the_date", "ticket_confirmation", "reminder", "update",
      "cancellation", "venue_change"],
    of .string "eventName", of .string "venueName", of .string "venueAddress",
    of .date "eventDate", of .date "eventStartDatetime", of .date "eventEndDate",
    of .date "eventEndDatetime", of .string "description", of .string "performer",
    of .string "ticketReference", of .string "seatDetails", of .number "ticketCount",
    of .string "ticketUrl", of .string "eventUrl", of .number "totalAmount",
    of .string "currency"]
  | .healthcheck => some []
  | .test => some []
  | .unspecified => some []
  | .custom _ => none

/-! ## Values -/

inductive AmbiguousDateFormat
  | monthThenDay | dayThenMonth | skip
deriving DecidableEq, Repr

/-- What a record is coerced under. -/
structure CoercionContext where
  receivedAt : String
  localeHints : List String
  ambiguousDateFormat : AmbiguousDateFormat
  accountTimezone : String
deriving DecidableEq, Repr

/-- The functions of the date library and of the numbers of the language. -/
structure Env where
  /-- `String` of a number, when it is finite. -/
  numberText : Decimal → Option String
  /-- `String(Number(text))`, when the number is finite. -/
  numericText : List Char → Option String
  /-- `coerceDate` of a text without white space around it. -/
  displayDate : CoercionContext → List Char → Option String
  /-- The instant of a text, in UTC: `DateTime.fromISO`, with the zone for a text without one. -/
  fromISO : String → Option String → Option String
  /-- The day of an instant, in UTC. -/
  utcDay : String → Option String

variable (env : Env) (ctx : CoercionContext)

def coerceNumericToString : Json → Option String
  | .num d => env.numberText d
  | .str s =>
    let trimmed := trim s.toList
    if trimmed = [] then none else env.numericText (trimmed.filter (· ≠ ','))
  | _ => none

def coerceBoolean : Json → Option Bool
  | .bool b => some b
  | .num d => match env.numberText d with
    | some "1" => some true
    | some "0" => some false
    | _ => none
  | .str s =>
    let lower := String.ofList (toLowerCase (trim s.toList))
    if lower = "true" ∨ lower = "yes" ∨ lower = "1" then some true
    else if lower = "false" ∨ lower = "no" ∨ lower = "0" then some false
    else none
  | _ => none

def coerceString : Json → Option String
  | .str s => some s
  | .num d => env.numberText d
  | .bool b => some (if b then "true" else "false")
  | _ => none

def coerceEnumValue (enumValues : List String) : Json → Option String
  | .str s => enumValues.find? fun value =>
    toLowerCase value.toList = toLowerCase (trim s.toList)
  | _ => none

def coerceDate : Json → Option String
  | .str s =>
    let trimmed := trim s.toList
    if trimmed = [] then none else env.displayDate ctx trimmed
  | _ => none

/-- `/[Zz]$/` or `/[+-]\d{2}:\d{2}$/` -/
def hasOffset (text : List Char) : Bool :=
  match text.reverse with
  | 'Z' :: _ => true
  | 'z' :: _ => true
  | d :: c :: ':' :: b :: a :: sign :: _ =>
    a.isDigit ∧ b.isDigit ∧ c.isDigit ∧ d.isDigit ∧ (sign = '+' ∨ sign = '-')
  | _ => false

/-- The instant of a display date; the account's time zone is for a date without an offset. -/
def displayToInstant (displayDate accountTimezone : String) : Option String :=
  if 'T' ∉ displayDate.toList then
    env.fromISO (displayDate ++ "T00:00:00") (some accountTimezone)
  else match env.fromISO displayDate none with
    | none => none
    | some instant =>
      if hasOffset displayDate.toList then some instant
      else env.fromISO displayDate (some accountTimezone)

/-! ## Records of a workflow -/

/-- A value that could be coerced, or a null in its place. -/
def orNull : Option String → Json
  | some text => .str text
  | none => .null

/-- The name of the instant beside a date. -/
def instantKey (name : String) : String := name ++ "Instant"

/-- A value that is there and no null. -/
def coerceValue (record : Record) (field : FieldSpec) (raw : Json) : Record :=
  match field.type with
  | .string => record.insert field.name (orNull (coerceString env raw))
  | .enum => record.insert field.name (orNull (coerceEnumValue field.enumValues raw))
  | .number => record.insert field.name (orNull (coerceNumericToString env raw))
  | .boolean => record.insert field.name (((coerceBoolean env raw).map Json.bool).getD .null)
  | .date =>
    let coerced := coerceDate env ctx raw
    (record.insert field.name (orNull coerced)).insert (instantKey field.name)
      (orNull (coerced.bind fun display => displayToInstant env display ctx.accountTimezone))
  | .array => match raw with
    | .arr _ => record
    | _ => record.insert field.name .null

def coerceField (record : Record) (field : FieldSpec) : Record :=
  match record.lookup field.name with
  | none => record
  | some .null => record
  | some raw => coerceValue env ctx record field raw

/-- A payment has a date: the day it was received on, when the mail states none. -/
def defaultPaymentDate (workflow : Workflow) (record : Record) : Record :=
  if workflow = .payments ∧ ¬ (record.read "date").truthy then
    match env.utcDay ctx.receivedAt with
    | some day => record.insert "date" (.str day)
    | none => record
  else record

def coerceWorkflowData (workflow : Workflow) (workflowData : Record) : Record :=
  match workflowFields workflow with
  | none => workflowData
  | some fields =>
    defaultPaymentDate env ctx workflow (fields.foldl (coerceField env ctx) workflowData)

/-! ## What a field is coerced to -/

variable {env ctx} {record : Record} {field : FieldSpec} {fields : List FieldSpec} {key name : String}

/-- The names that the coercion of a field may write. -/
def Spares (key : String) (field : FieldSpec) : Prop :=
  key ≠ field.name ∧ (field.type = .date → key ≠ instantKey field.name)

theorem lookup_coerceValue (h : Spares key field) (raw : Json) :
    (coerceValue env ctx record field raw).lookup key = record.lookup key := by
  obtain ⟨hname, hinstant⟩ := h
  unfold coerceValue
  split
  case h_5 hdate =>
    rw [AList.lookup_insert_ne (hinstant hdate), AList.lookup_insert_ne hname]
  case h_6 =>
    split
    · rfl
    · exact AList.lookup_insert_ne hname
  all_goals exact AList.lookup_insert_ne hname

theorem lookup_coerceField (h : Spares key field) :
    (coerceField env ctx record field).lookup key = record.lookup key := by
  unfold coerceField
  split
  · rfl
  · rfl
  · exact lookup_coerceValue h _

theorem lookup_coerceFields (h : ∀ field ∈ fields, Spares key field) :
    (fields.foldl (coerceField env ctx) record).lookup key = record.lookup key := by
  induction fields generalizing record with
  | nil => rfl
  | cons field fields ih =>
    obtain ⟨hfield, hfields⟩ := List.forall_mem_cons.mp h
    rw [List.foldl_cons, ih hfields, lookup_coerceField hfield]

/-- No two fields of a workflow share a name, and none has the name of an instant. -/
def Separate (fields : List FieldSpec) : Prop :=
  (fields.map FieldSpec.name).Nodup ∧ ∀ field ∈ fields, ∀ other ∈ fields,
    other.name ≠ instantKey field.name

instance (fields : List FieldSpec) : Decidable (Separate fields) :=
  inferInstanceAs (Decidable (_ ∧ _))

variable {workflow : Workflow}

theorem separate_workflowFields (h : workflowFields workflow = some fields) :
    Separate fields := by
  cases workflow with
  | custom => cases h
  | _ =>
    obtain rfl := Option.some.inj h
    decide +kernel

theorem instantKey_injective {name name' : String} (h : instantKey name = instantKey name') :
    name = name' := by
  have hlist := congrArg String.toList h
  simp only [instantKey, String.toList_append] at hlist
  exact String.toList_inj.mp (List.append_cancel_right hlist)

/-- The other fields leave a date and its instant alone. -/
theorem Separate.spares (hsep : Separate fields) {other : FieldSpec} (hfield : field ∈ fields)
    (hother : other ∈ fields) (hne : other.name ≠ field.name) :
    Spares field.name other ∧ Spares (instantKey field.name) other := by
  refine ⟨⟨hne.symm, fun _ => hsep.2 other hother field hfield⟩, ?_, fun _ heq => ?_⟩
  · exact (hsep.2 field hfield other hother).symm
  · exact hne (instantKey_injective heq).symm

/-- A date that is no null is a display date, with its instant beside it. -/
def Dated (env : Env) (ctx : CoercionContext) (record : Record) (name : String) : Prop :=
  record.read name = .null ∨ ∃ display, record.read name = .str display ∧
    record.read (instantKey name) = orNull (displayToInstant env display ctx.accountTimezone)

theorem instantKey_ne (name : String) : instantKey name ≠ name := by
  intro h
  have hlist := congrArg (fun text : String => text.toList.length) h
  simp [instantKey] at hlist

theorem dated_coerceField (hdate : field.type = .date) :
    Dated env ctx (coerceField env ctx record field) field.name := by
  unfold coerceField
  split
  case h_1 hmissing => exact .inl (by rw [Record.read, hmissing]; rfl)
  case h_2 hnull => exact .inl (by rw [Record.read, hnull]; rfl)
  case h_3 raw hnull hraw =>
    unfold coerceValue Dated Record.read
    rw [hdate]
    dsimp only
    rw [AList.lookup_insert, AList.lookup_insert_ne (instantKey_ne field.name).symm,
      AList.lookup_insert]
    cases coerceDate env ctx raw with
    | none => exact .inl rfl
    | some display => exact .inr ⟨display, rfl, rfl⟩

theorem Dated.congr {record' : Record} (h : Dated env ctx record name)
    (hname : record'.lookup name = record.lookup name)
    (hinstant : record'.lookup (instantKey name) = record.lookup (instantKey name)) :
    Dated env ctx record' name := by
  unfold Dated Record.read at h ⊢
  rw [hname, hinstant]
  exact h

/-- The fields around a field leave its value and its instant alone. -/
theorem Separate.around (hsep : Separate fields) (hfield : field ∈ fields) :
    ∃ before after, fields = before ++ field :: after ∧ ∀ other, other ∈ before ∨ other ∈ after →
      Spares field.name other ∧ Spares (instantKey field.name) other := by
  obtain ⟨before, after, hfields⟩ := List.append_of_mem hfield
  refine ⟨before, after, hfields, fun other hother => ?_⟩
  have hnodup := hsep.1
  rw [hfields, List.map_append, List.map_cons] at hnodup
  obtain ⟨-, hrest, hdisjoint⟩ := List.nodup_append.mp hnodup
  rcases hother with hbefore | hafter
  · refine hsep.spares hfield (hfields ▸ by simp [hbefore]) ?_
    exact hdisjoint _ (List.mem_map.mpr ⟨other, hbefore, rfl⟩) _ List.mem_cons_self
  · refine hsep.spares hfield (hfields ▸ by simp [hafter]) fun heq => ?_
    exact (List.nodup_cons.mp hrest).1 (List.mem_map.mpr ⟨other, hafter, heq⟩)

/-- After the coercion of all fields a date is one, whatever the record said. -/
theorem dated_coerceFields (hsep : Separate fields) (hfield : field ∈ fields)
    (hdate : field.type = .date) (record : Record) :
    Dated env ctx (fields.foldl (coerceField env ctx) record) field.name := by
  obtain ⟨before, after, rfl, haround⟩ := hsep.around hfield
  rw [List.foldl_append, List.foldl_cons]
  have hdated : Dated env ctx (coerceField env ctx (before.foldl (coerceField env ctx) record) field)
      field.name := dated_coerceField hdate
  refine hdated.congr ?_ ?_
  · exact lookup_coerceFields fun other hother => (haround other (.inr hother)).1
  · exact lookup_coerceFields fun other hother => (haround other (.inr hother)).2

/-- A string, or nothing. -/
def IsText (value : Json) : Prop := value = .null ∨ ∃ text, value = .str text

theorem isText_orNull (text : Option String) : IsText (orNull text) := by
  cases text with
  | none => exact .inl rfl
  | some text => exact .inr ⟨text, rfl⟩

theorem Dated.isText (h : Dated env ctx record name) : IsText (record.read name) :=
  h.imp id fun ⟨display, hdisplay, _⟩ => ⟨display, hdisplay⟩

theorem isText_coerceField (hstring : field.type = .string) :
    IsText ((coerceField env ctx record field).read field.name) := by
  unfold coerceField
  split
  case h_1 hmissing => exact .inl (by rw [Record.read, hmissing]; rfl)
  case h_2 hnull => exact .inl (by rw [Record.read, hnull]; rfl)
  case h_3 raw _ _ =>
    unfold coerceValue Record.read
    rw [hstring]
    dsimp only
    rw [AList.lookup_insert]
    exact isText_orNull _

theorem isText_coerceFields (hsep : Separate fields) (hfield : field ∈ fields)
    (hstring : field.type = .string) (record : Record) :
    IsText ((fields.foldl (coerceField env ctx) record).read field.name) := by
  obtain ⟨before, after, rfl, haround⟩ := hsep.around hfield
  rw [List.foldl_append, List.foldl_cons, Record.read,
    lookup_coerceFields fun other hother => (haround other (.inr hother)).1]
  exact isText_coerceField hstring

theorem lookup_defaultPaymentDate (h : key ≠ "date") :
    (defaultPaymentDate env ctx workflow record).lookup key = record.lookup key := by
  unfold defaultPaymentDate
  split
  · split
    · exact AList.lookup_insert_ne h
    · rfl
  · rfl

/-- Every date of a workflow is one after its coercion, but for the date of a payment. -/
theorem dated_coerceWorkflowData (hfields : workflowFields workflow = some fields)
    (hfield : field ∈ fields) (hdate : field.type = .date) (hname : field.name ≠ "date")
    (workflowData : Record) :
    Dated env ctx (coerceWorkflowData env ctx workflow workflowData) field.name := by
  unfold coerceWorkflowData
  rw [hfields]
  have hdated : Dated env ctx (fields.foldl (coerceField env ctx) workflowData) field.name :=
    dated_coerceFields (separate_workflowFields hfields) hfield hdate workflowData
  refine hdated.congr (lookup_defaultPaymentDate hname) (lookup_defaultPaymentDate fun heq => ?_)
  have hlast := congrArg (fun text : String => text.toList.reverse.head?) heq
  simp [instantKey] at hlast

theorem isText_coerceWorkflowData
    (hfields : workflowFields workflow = some fields) (hfield : field ∈ fields)
    (hstring : field.type = .string) (hname : field.name ≠ "date") (workflowData : Record) :
    IsText ((coerceWorkflowData env ctx workflow workflowData).read field.name) := by
  unfold coerceWorkflowData
  rw [hfields]
  dsimp only
  rw [Record.read, lookup_defaultPaymentDate hname]
  exact isText_coerceFields (separate_workflowFields hfields) hfield hstring workflowData

end SesEmailAdapter.Classifier.CoerceWorkflowData
