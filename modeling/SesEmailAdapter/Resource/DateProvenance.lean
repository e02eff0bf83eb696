import SesEmailAdapter.Classifier.CoerceWorkflowData
import SesEmailAdapter.Resource.ResourceDatabase

/-! # Where the date of a resource comes from

What a resource is derived from is read off a coerced record, in which anything can stand under a
name that is no field of the workflow. The date of a resource is the instant of a display date all
the same, and the resource is the one that the texts of the record give. -/

namespace SesEmailAdapter.Resource.DateProvenance
open Lib
open SesEmailAdapter.Types
open Classifier.CoerceWorkflowData
open Resource.ResourceDatabase (ResourceInfo)

/-! ## Derivation from values -/

/-- What is derived from a record, with the values as they stand in it. -/
structure ResourceValues where
  expectedResolutionDate : Json
  displayDate : Json
  displayDateEnd : Option Json
  resourceKey : Json
  title : Option Json
  description : Option Json

/-- `a ?? b` -/
def nullish (a b : Json) : Json :=
  match a with
  | .null => b
  | value => value

def whenTruthy (value : Json) : Option Json := if value.truthy then some value else none

def datedResource (date instant key : Json) : Option ResourceValues :=
  if date.truthy ∧ instant.truthy ∧ key.truthy then some ⟨instant, date, none, key, none, none⟩
  else none

/-- A value in a template; `other` is how one that is no string is written there. -/
def templateText (other : Json → String) : Json → String
  | .str s => s
  | value => other value

def eventResource (d : Record) : Option ResourceValues :=
  let key := nullish (d.read "ticketReference") (d.read "eventName")
  let display := nullish (d.read "eventStartDatetime") (d.read "eventDate")
  let endDisplay := nullish (d.read "eventEndDatetime") (d.read "eventEndDate")
  let instant :=
    if (d.read "eventEndDatetime").truthy then d.read "eventEndDatetimeInstant"
    else if (d.read "eventEndDate").truthy then d.read "eventEndDateInstant"
    else if (d.read "eventStartDatetime").truthy then d.read "eventStartDatetimeInstant"
    else d.read "eventDateInstant"
  (datedResource display instant key).map fun info => { info with
    displayDateEnd := whenTruthy endDisplay
    title := some (d.read "eventName")
    description := whenTruthy (d.read "description") }

def deriveResourceInfo (other : Json → String) (workflow : Workflow) (d : Record) :
    Option ResourceValues :=
  match workflow with
  | .package =>
    datedResource (d.read "estimatedDelivery") (d.read "estimatedDeliveryInstant")
      (d.read "orderNumber")
  | .travel =>
    let date := nullish (d.read "returnDate") (d.read "departureDate")
    let instant :=
      if (d.read "returnDate").truthy then d.read "returnDateInstant"
      else d.read "departureDateInstant"
    datedResource date instant (nullish (d.read "flightNumber") (d.read "confirmationNumber"))
  | .payments =>
    datedResource (d.read "dueDate") (d.read "dueDateInstant") (d.read "invoiceNumber")
  | .healthcare =>
    datedResource (d.read "appointmentDate") (d.read "appointmentDateInstant")
      (d.read "provider")
  | .job =>
    if (d.read "company").truthy ∧ (d.read "role").truthy then
      datedResource (d.read "interviewDate") (d.read "interviewDateInstant")
        (.str (templateText other (d.read "company") ++ ":" ++ templateText other (d.read "role")))
    else none
  | .events => eventResource d
  | _ => none

/-! ## The date that a resource resolves on -/

/-- The field of the date that a resource of a workflow resolves on: an event is over at its end,
where one is stated. -/
def resolutionField (workflow : Workflow) (d : Record) : Option String :=
  match workflow with
  | .package => some "estimatedDelivery"
  | .travel => some (if (d.read "returnDate").truthy then "returnDate" else "departureDate")
  | .payments => some "dueDate"
  | .healthcare => some "appointmentDate"
  | .job => some "interviewDate"
  | .events => some
    (if (d.read "eventEndDatetime").truthy then "eventEndDatetime"
    else if (d.read "eventEndDate").truthy then "eventEndDate"
    else if (d.read "eventStartDatetime").truthy then "eventStartDatetime"
    else "eventDate")
  | _ => none

variable {env : Env} {ctx : CoercionContext} {other : Json → String} {workflow : Workflow}
  {workflowData record : Record} {info : ResourceValues} {name : String}
  {date instant key : Json}

theorem datedResource_eq_some (h : datedResource date instant key = some info) :
    date.truthy ∧ instant.truthy ∧ info.expectedResolutionDate = instant := by
  unfold datedResource at h
  split at h
  · next hall =>
    obtain rfl := Option.some.inj h
    exact ⟨hall.1, hall.2.1, rfl⟩
  · cases h

/-- The value is the instant of the display date under a name. -/
def InstantOf (env : Env) (ctx : CoercionContext) (record : Record) (name : String)
    (value : Json) : Prop :=
  ∃ display instant, record.read name = .str display ∧
    displayToInstant env display ctx.accountTimezone = some instant ∧ value = .str instant

theorem instantOf_of_dated (h : Dated env ctx record name) (hdate : (record.read name).truthy)
    (hinstant : (record.read (instantKey name)).truthy) :
    InstantOf env ctx record name (record.read (instantKey name)) := by
  rcases h with hnull | ⟨display, hdisplay, hsibling⟩
  · rw [hnull] at hdate
    cases hdate
  · rw [hsibling] at hinstant ⊢
    cases hconvert : displayToInstant env display ctx.accountTimezone with
    | none =>
      rw [hconvert] at hinstant
      cases hinstant
    | some instant => exact ⟨display, instant, hdisplay, hconvert, rfl⟩

theorem nullish_of_null (h : date = .null) (value : Json) : nullish date value = value := by
  rw [h]
  rfl

variable {value : Json}

/-- A date that yields to another is a null: no date is an empty text and shown. -/
theorem nullish_of_dated (h : Dated env ctx record name)
    (hfalsy : ¬ (record.read name).truthy) (hshown : (nullish (record.read name) value).truthy) :
    nullish (record.read name) value = value := by
  rcases h with hnull | ⟨display, hdisplay, -⟩
  · exact nullish_of_null hnull value
  · rw [hdisplay] at hfalsy hshown
    exact absurd hshown hfalsy

variable {sibling : String}

/-- A value beside a date, under the name of its instant. -/
theorem instantOf_sibling (hdated : Dated env ctx record name)
    (hsibling : instantKey name = sibling) (hdate : (record.read name).truthy)
    (hinstant : (record.read sibling).truthy) :
    InstantOf env ctx record name (record.read sibling) := by
  subst hsibling
  exact instantOf_of_dated hdated hdate hinstant

/-- A resource of one date. -/
theorem instantOf_dated (hdated : Dated env ctx record name) (hsibling : instantKey name = sibling)
    (h : datedResource (record.read name) (record.read sibling) key = some info) :
    InstantOf env ctx record name info.expectedResolutionDate := by
  obtain ⟨hdate, hinstant, hinfo⟩ := datedResource_eq_some h
  rw [hinfo]
  exact instantOf_sibling hdated hsibling hdate hinstant

theorem instantOf_travel (hreturn : Dated env ctx record "returnDate")
    (hdeparture : Dated env ctx record "departureDate")
    (h : deriveResourceInfo other .travel record = some info) :
    InstantOf env ctx record
      (if (record.read "returnDate").truthy then "returnDate" else "departureDate")
      info.expectedResolutionDate := by
  obtain ⟨hdate, hinstant, hinfo⟩ := datedResource_eq_some h
  rw [hinfo]
  by_cases hback : (record.read "returnDate").truthy
  · simp only [if_pos hback] at hinstant ⊢
    exact instantOf_sibling hreturn (by simp [instantKey]) hback hinstant
  · simp only [if_neg hback] at hinstant ⊢
    rw [nullish_of_dated hreturn hback hdate] at hdate
    exact instantOf_sibling hdeparture (by simp [instantKey]) hdate hinstant

theorem instantOf_events (hstart : Dated env ctx record "eventStartDatetime")
    (hday : Dated env ctx record "eventDate") (hendDay : Dated env ctx record "eventEndDate")
    (hend : Dated env ctx record "eventEndDatetime")
    (h : deriveResourceInfo other .events record = some info) :
    ∃ name, resolutionField .events record = some name ∧
      InstantOf env ctx record name info.expectedResolutionDate := by
  obtain ⟨dates, hdates, rfl⟩ := Option.map_eq_some_iff.mp h
  obtain ⟨hdate, hinstant, hinfo⟩ := datedResource_eq_some hdates
  refine ⟨_, rfl, ?_⟩
  dsimp only
  rw [hinfo]
  by_cases hends : (record.read "eventEndDatetime").truthy
  · simp only [if_pos hends] at hinstant ⊢
    exact instantOf_sibling hend (by simp [instantKey]) hends hinstant
  simp only [if_neg hends] at hinstant ⊢
  by_cases hendsOn : (record.read "eventEndDate").truthy
  · simp only [if_pos hendsOn] at hinstant ⊢
    exact instantOf_sibling hendDay (by simp [instantKey]) hendsOn hinstant
  simp only [if_neg hendsOn] at hinstant ⊢
  by_cases hstarts : (record.read "eventStartDatetime").truthy
  · simp only [if_pos hstarts] at hinstant ⊢
    exact instantOf_sibling hstart (by simp [instantKey]) hstarts hinstant
  · simp only [if_neg hstarts] at hinstant ⊢
    rw [nullish_of_dated hstart hstarts hdate] at hdate
    exact instantOf_sibling hday (by simp [instantKey]) hdate hinstant

/-- The dates of a workflow, but for the date of a payment, which has a default. -/
def datesOf (workflow : Workflow) : List String :=
  (((workflowFields workflow).getD []).filter fun field =>
    field.type = .date ∧ field.name ≠ "date").map FieldSpec.name

/-- A resource is derived from dates and their instants only. -/
theorem resolution_of_dated (hdated : ∀ name ∈ datesOf workflow, Dated env ctx record name)
    (h : deriveResourceInfo other workflow record = some info) :
    ∃ name, resolutionField workflow record = some name ∧
      InstantOf env ctx record name info.expectedResolutionDate := by
  cases workflow with
  | package => exact ⟨_, rfl, instantOf_dated (hdated _ (by decide)) (by simp [instantKey]) h⟩
  | payments => exact ⟨_, rfl, instantOf_dated (hdated _ (by decide)) (by simp [instantKey]) h⟩
  | healthcare => exact ⟨_, rfl, instantOf_dated (hdated _ (by decide)) (by simp [instantKey]) h⟩
  | job =>
    change (if _ then _ else none) = some info at h
    split at h
    · exact ⟨_, rfl, instantOf_dated (hdated _ (by decide)) (by simp [instantKey]) h⟩
    · cases h
  | travel =>
    exact ⟨_, rfl, instantOf_travel (hdated _ (by decide)) (hdated _ (by decide)) h⟩
  | events =>
    exact instantOf_events (hdated _ (by decide)) (hdated _ (by decide)) (hdated _ (by decide))
      (hdated _ (by decide)) h
  | _ => cases h

theorem dated_of_mem (hname : name ∈ datesOf workflow) (workflowData : Record) :
    Dated env ctx (coerceWorkflowData env ctx workflow workflowData) name := by
  obtain ⟨field, hfield, rfl⟩ := List.mem_map.mp hname
  obtain ⟨hmem, hdate⟩ := List.mem_filter.mp hfield
  rw [decide_eq_true_eq] at hdate
  cases hfields : workflowFields workflow with
  | none =>
    rw [hfields] at hmem
    cases hmem
  | some fields =>
    rw [hfields] at hmem
    exact dated_coerceWorkflowData hfields hmem hdate.1 hdate.2 workflowData

/-- **Provenance.** The date of a resource that is derived from a coerced record is the instant of
the display date of its workflow, whatever the record had under the name of an instant. -/
theorem resolution_of_display (env : Env) (ctx : CoercionContext) (other : Json → String)
    (workflow : Workflow) (workflowData : Record) (info : ResourceValues)
    (h : deriveResourceInfo other workflow (coerceWorkflowData env ctx workflow workflowData) =
      some info) :
    ∃ name, resolutionField workflow (coerceWorkflowData env ctx workflow workflowData) =
        some name ∧
      InstantOf env ctx (coerceWorkflowData env ctx workflow workflowData) name
        info.expectedResolutionDate :=
  resolution_of_dated (fun _ hname => dated_of_mem hname workflowData) h

/-! ### An invoice with an instant of its own -/

/-- Dates of days, in UTC. -/
def plainDates : Env where
  numberText := fun d => if d = ⟨false, 42, 0⟩ then some "42" else none
  numericText := fun _ => none
  displayDate := fun _ text => some (String.ofList text)
  fromISO := fun text _ => some (text ++ ".000Z")
  utcDay := fun _ => none

def londonContext : CoercionContext := ⟨"2027-03-01T00:00:00.000Z", [], .skip, "Europe/London"⟩

/-- The model states a due date, and an instant that it does not have. -/
def invoice : Record :=
  (((∅ : Record).insert "dueDateInstant" (.str "2999-01-01T00:00:00.000Z")).insert "dueDate"
    (.str " 2027-03-15 ")).insert "invoiceNumber" (.num ⟨false, 42, 0⟩)

def invoiceInfo : ResourceValues :=
  ⟨.str "2027-03-15T00:00:00.000Z", .str "2027-03-15", none, .str "42", none, none⟩

theorem resolution_of_display_invoice :
    ∃ name, resolutionField .payments (coerceWorkflowData plainDates londonContext .payments
        invoice) = some name ∧
      InstantOf plainDates londonContext (coerceWorkflowData plainDates londonContext .payments
        invoice) name (.str "2027-03-15T00:00:00.000Z") :=
  resolution_of_display plainDates londonContext (fun _ => "") .payments invoice invoiceInfo rfl

/-! ## The texts of a record -/

def asText : Json → Option String
  | .str text => some text
  | _ => none

/-- The strings of a record. -/
def textFields (record : Record) : Fields :=
  record.entries.filterMap fun entry => (asText entry.2).map fun text => (entry.1, text)

theorem get_textFields (record : Record) (name : String) :
    (textFields record).get name = asText (record.read name) := by
  obtain ⟨entries, hkeys⟩ := record
  unfold textFields Fields.get Record.read AList.lookup
  induction entries with
  | nil => rfl
  | cons entry entries ih =>
    obtain ⟨k, value⟩ := entry
    obtain ⟨hfresh, hrest⟩ := List.nodupKeys_cons.mp hkeys
    have ih := ih hrest
    dsimp only at ih ⊢
    by_cases hk : k = name
    · subst hk
      rw [List.dlookup_cons_eq, List.filterMap_cons]
      cases htext : asText value with
      | some text => simp [htext]
      | none =>
        rw [List.dlookup_eq_none.mpr hfresh] at ih
        simp only [htext, Option.map_none, Option.getD_some]
        exact ih
    · rw [List.dlookup_cons_ne _ _ (Ne.symm hk), ← ih, List.filterMap_cons]
      cases asText value with
      | some text => simp [hk]
      | none => rfl

def ResourceValues.texts (info : ResourceValues) : ResourceInfo where
  expectedResolutionDate := (asText info.expectedResolutionDate).getD ""
  displayDate := (asText info.displayDate).getD ""
  displayDateEnd := info.displayDateEnd.bind asText
  resourceKey := (asText info.resourceKey).getD ""
  assets := []
  title := info.title.bind asText
  description := info.description.bind asText

theorem truthy_asText (h : IsText value) :
    ResourceDatabase.truthy (asText value) = if value.truthy then asText value else none := by
  rcases h with rfl | ⟨text, rfl⟩
  · rfl
  · by_cases hempty : text = ""
    · subst hempty
      rfl
    · simp [ResourceDatabase.truthy, asText, Json.truthy, hempty]

theorem asText_nullish (h : IsText date) :
    asText (nullish date value) = (asText date <|> asText value) := by
  rcases h with rfl | ⟨text, rfl⟩
  · rfl
  · rfl

theorem isText_nullish (h : IsText date) (h' : IsText value) :
    IsText (nullish date value) := by
  rcases h with rfl | ⟨text, rfl⟩
  · exact h'
  · exact .inr ⟨text, rfl⟩

theorem exists_text (h : IsText value) (htruthy : value.truthy) :
    ∃ text, value = .str text := by
  rcases h with rfl | htext
  · cases htruthy
  · exact htext

theorem isSome_truthy (h : IsText value) :
    (ResourceDatabase.truthy (asText value)).isSome = value.truthy := by
  rw [truthy_asText h]
  by_cases hvalue : value.truthy
  · obtain ⟨text, rfl⟩ := exists_text h hvalue
    rw [if_pos hvalue, hvalue]
    rfl
  · rw [if_neg hvalue, Bool.eq_false_iff.mpr hvalue]
    rfl

/-- The resource of texts, where the instant is one if it is asked for. -/
theorem datedResource_texts (hdate : IsText date) (hkey : IsText key)
    (hinstant : date.truthy → IsText instant) :
    ResourceDatabase.datedResource (asText date) (asText instant) (asText key) =
      (datedResource date instant key).map ResourceValues.texts := by
  unfold datedResource ResourceDatabase.datedResource
  rw [truthy_asText hdate, truthy_asText hkey]
  by_cases hdated : date.truthy
  · obtain ⟨display, rfl⟩ := exists_text hdate hdated
    rw [truthy_asText (hinstant hdated)]
    by_cases hinstants : instant.truthy
    · obtain ⟨text, rfl⟩ := exists_text (hinstant hdated) hinstants
      by_cases hkeyed : key.truthy
      · obtain ⟨name, rfl⟩ := exists_text hkey hkeyed
        simp [hdated, hinstants, hkeyed, asText, ResourceValues.texts]
      · simp [hkeyed]
    · simp [hinstants]
  · simp [hdated]

theorem isText_instant (h : Dated env ctx record name)
    (hsibling : instantKey name = sibling) (hdate : (record.read name).truthy) :
    IsText (record.read sibling) := by
  subst hsibling
  rcases h with hnull | ⟨display, -, hinstant⟩
  · rw [hnull] at hdate
    cases hdate
  · rw [hinstant]
    exact isText_orNull _

theorem travel_texts (hreturn : Dated env ctx record "returnDate")
    (hdeparture : Dated env ctx record "departureDate") (hflight : IsText (record.read "flightNumber"))
    (hconfirmation : IsText (record.read "confirmationNumber")) (requiresReply : Bool) :
    ResourceDatabase.deriveResourceInfo .travel ⟨.travel, requiresReply, textFields record⟩ =
      (deriveResourceInfo other .travel record).map ResourceValues.texts := by
  simp only [ResourceDatabase.deriveResourceInfo, deriveResourceInfo, get_textFields]
  rw [isSome_truthy hreturn.isText, ← apply_ite asText, ← asText_nullish hreturn.isText,
    ← asText_nullish hflight]
  refine datedResource_texts (isText_nullish hreturn.isText hdeparture.isText)
    (isText_nullish hflight hconfirmation) fun hdate => ?_
  by_cases hback : (record.read "returnDate").truthy
  · rw [if_pos hback]
    exact isText_instant hreturn (by simp [instantKey]) hback
  · rw [if_neg hback]
    rw [nullish_of_dated hreturn hback hdate] at hdate
    exact isText_instant hdeparture (by simp [instantKey]) hdate

theorem job_texts (hinterview : Dated env ctx record "interviewDate")
    (hcompany : IsText (record.read "company")) (hrole : IsText (record.read "role"))
    (requiresReply : Bool) :
    ResourceDatabase.deriveResourceInfo .job ⟨.job, requiresReply, textFields record⟩ =
      (deriveResourceInfo other .job record).map ResourceValues.texts := by
  simp only [ResourceDatabase.deriveResourceInfo, deriveResourceInfo, get_textFields]
  rw [truthy_asText hcompany, truthy_asText hrole]
  by_cases hnamed : (record.read "company").truthy
  · obtain ⟨company, hcompanyText⟩ := exists_text hcompany hnamed
    by_cases hroled : (record.read "role").truthy
    · obtain ⟨role, hroleText⟩ := exists_text hrole hroled
      rw [if_pos hnamed, if_pos hroled, if_pos ⟨hnamed, hroled⟩, hcompanyText, hroleText]
      exact datedResource_texts hinterview.isText (.inr ⟨_, rfl⟩) fun hdate =>
        isText_instant hinterview (by simp [instantKey]) hdate
    · simp [hroled]
  · simp [hnamed]

theorem events_texts (hstart : Dated env ctx record "eventStartDatetime")
    (hday : Dated env ctx record "eventDate") (hendDay : Dated env ctx record "eventEndDate")
    (hend : Dated env ctx record "eventEndDatetime")
    (hticket : IsText (record.read "ticketReference")) (hname : IsText (record.read "eventName"))
    (hdescription : IsText (record.read "description")) (requiresReply : Bool) :
    ResourceDatabase.deriveResourceInfo .events ⟨.events, requiresReply, textFields record⟩ =
      (deriveResourceInfo other .events record).map ResourceValues.texts := by
  simp only [ResourceDatabase.deriveResourceInfo, deriveResourceInfo,
    ResourceDatabase.eventResource, eventResource, get_textFields]
  rw [isSome_truthy hend.isText, isSome_truthy hendDay.isText, isSome_truthy hstart.isText,
    ← apply_ite asText, ← apply_ite asText, ← apply_ite asText, ← asText_nullish hstart.isText,
    ← asText_nullish hend.isText, ← asText_nullish hticket,
    truthy_asText (isText_nullish hend.isText hendDay.isText), truthy_asText hdescription]
  rw [datedResource_texts (isText_nullish hstart.isText hday.isText)
    (isText_nullish hticket hname) fun hdate => ?_]
  · rw [Option.map_map, Option.map_map]
    refine Option.map_congr fun dates _ => ?_
    simp only [Function.comp_apply, ResourceValues.texts, whenTruthy, Option.bind_some]
    congr 1
    · split <;> rfl
    · split <;> rfl
  · by_cases hends : (record.read "eventEndDatetime").truthy
    · rw [if_pos hends]
      exact isText_instant hend (by simp [instantKey]) hends
    rw [if_neg hends]
    by_cases hendsOn : (record.read "eventEndDate").truthy
    · rw [if_pos hendsOn]
      exact isText_instant hendDay (by simp [instantKey]) hendsOn
    rw [if_neg hendsOn]
    by_cases hstarts : (record.read "eventStartDatetime").truthy
    · rw [if_pos hstarts]
      exact isText_instant hstart (by simp [instantKey]) hstarts
    · rw [if_neg hstarts]
      rw [nullish_of_dated hstart hstarts hdate] at hdate
      exact isText_instant hday (by simp [instantKey]) hdate

/-- The names of the strings of a workflow. -/
def stringsOf (workflow : Workflow) : List String :=
  (((workflowFields workflow).getD []).filter fun field =>
    field.type = .string ∧ field.name ≠ "date").map FieldSpec.name

theorem isText_of_mem (hname : name ∈ stringsOf workflow) (workflowData : Record) :
    IsText ((coerceWorkflowData env ctx workflow workflowData).read name) := by
  obtain ⟨field, hfield, rfl⟩ := List.mem_map.mp hname
  obtain ⟨hmem, hstring⟩ := List.mem_filter.mp hfield
  rw [decide_eq_true_eq] at hstring
  cases hfields : workflowFields workflow with
  | none =>
    rw [hfields] at hmem
    cases hmem
  | some fields =>
    rw [hfields] at hmem
    exact isText_coerceWorkflowData hfields hmem hstring.1 hstring.2 workflowData

theorem texts_of_dated (hdated : ∀ name ∈ datesOf workflow, Dated env ctx record name)
    (htext : ∀ name ∈ stringsOf workflow, IsText (record.read name)) (requiresReply : Bool) :
    ResourceDatabase.deriveResourceInfo workflow ⟨workflow, requiresReply, textFields record⟩ =
      (deriveResourceInfo other workflow record).map ResourceValues.texts := by
  have hone : ∀ {date instant key : String}, Dated env ctx record date →
      instantKey date = instant → IsText (record.read key) →
        ResourceDatabase.datedResource (asText (record.read date)) (asText (record.read instant))
            (asText (record.read key)) =
          (datedResource (record.read date) (record.read instant) (record.read key)).map
            ResourceValues.texts := fun hdate hsibling hkey =>
    datedResource_texts hdate.isText hkey fun htruthy => isText_instant hdate hsibling htruthy
  cases workflow with
  | package =>
    simp only [ResourceDatabase.deriveResourceInfo, deriveResourceInfo, get_textFields]
    exact hone (hdated _ (by decide)) (by simp [instantKey]) (htext _ (by decide))
  | payments =>
    simp only [ResourceDatabase.deriveResourceInfo, deriveResourceInfo, get_textFields]
    exact hone (hdated _ (by decide)) (by simp [instantKey]) (htext _ (by decide))
  | healthcare =>
    simp only [ResourceDatabase.deriveResourceInfo, deriveResourceInfo, get_textFields]
    exact hone (hdated _ (by decide)) (by simp [instantKey]) (htext _ (by decide))
  | job => exact job_texts (hdated _ (by decide)) (htext _ (by decide)) (htext _ (by decide)) _
  | travel =>
    exact travel_texts (hdated _ (by decide)) (hdated _ (by decide)) (htext _ (by decide))
      (htext _ (by decide)) _
  | events =>
    exact events_texts (hdated _ (by decide)) (hdated _ (by decide)) (hdated _ (by decide))
      (hdated _ (by decide)) (htext _ (by decide)) (htext _ (by decide)) (htext _ (by decide)) _
  | _ => rfl

/-- The resource that the ingest derives from the strings of a coerced record is the one that its
values give. -/
theorem deriveResourceInfo_texts (env : Env) (ctx : CoercionContext) (other : Json → String)
    (workflow : Workflow) (workflowData : Record) (requiresReply : Bool) :
    ResourceDatabase.deriveResourceInfo workflow
        ⟨workflow, requiresReply, textFields (coerceWorkflowData env ctx workflow workflowData)⟩ =
      (deriveResourceInfo other workflow (coerceWorkflowData env ctx workflow workflowData)).map
        ResourceValues.texts :=
  texts_of_dated (fun _ hname => dated_of_mem hname workflowData)
    (fun _ hname => isText_of_mem hname workflowData) requiresReply

end SesEmailAdapter.Resource.DateProvenance
