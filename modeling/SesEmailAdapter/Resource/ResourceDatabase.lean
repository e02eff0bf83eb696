import SesEmailAdapter.Database.Shared
import SesEmailAdapter.Lib.KeyedTable

/-! # Resources

What a signal says about a dated resource (a parcel, a trip, an invoice), and the table of
resources, where a later signal moves the dates of the same resource but not its status. -/

namespace SesEmailAdapter.Resource.ResourceDatabase
open Lib
open SesEmailAdapter.Types

/-! ## Derivation -/

structure ResourceInfo where
  expectedResolutionDate : String
  displayDate : String
  displayDateEnd : Option String
  resourceKey : String
  assets : List ResourceAsset
  title : Option String
  description : Option String
deriving DecidableEq, Repr

/-- A text that is present and not empty. -/
def truthy (text : Option String) : Option String := text.filter (· ≠ "")

/-- A resource of one date and one key, when its date, instant and key are all there. -/
def datedResource (date instant key : Option String) : Option ResourceInfo :=
  match truthy date, truthy instant, truthy key with
  | some date, some instant, some key => some ⟨instant, date, none, key, [], none, none⟩
  | _, _, _ => none

def eventResource (d : Fields) : Option ResourceInfo :=
  let key := d.get "ticketReference" <|> d.get "eventName"
  let display := d.get "eventStartDatetime" <|> d.get "eventDate"
  let endDisplay := d.get "eventEndDatetime" <|> d.get "eventEndDate"
  let instant :=
    if (truthy (d.get "eventEndDatetime")).isSome then d.get "eventEndDatetimeInstant"
    else if (truthy (d.get "eventEndDate")).isSome then d.get "eventEndDateInstant"
    else if (truthy (d.get "eventStartDatetime")).isSome then d.get "eventStartDatetimeInstant"
    else d.get "eventDateInstant"
  (datedResource display instant key).map fun info => { info with
    displayDateEnd := truthy endDisplay
    title := d.get "eventName"
    description := truthy (d.get "description") }

def deriveResourceInfo (workflow : Workflow) (workflowData : WorkflowData) :
    Option ResourceInfo :=
  let d := workflowData.fields
  match workflow with
  | .package =>
    datedResource (d.get "estimatedDelivery") (d.get "estimatedDeliveryInstant")
      (d.get "orderNumber")
  | .travel =>
    let instant :=
      if (truthy (d.get "returnDate")).isSome then d.get "returnDateInstant"
      else d.get "departureDateInstant"
    datedResource (d.get "returnDate" <|> d.get "departureDate") instant
      (d.get "flightNumber" <|> d.get "confirmationNumber")
  | .payments =>
    datedResource (d.get "dueDate") (d.get "dueDateInstant") (d.get "invoiceNumber")
  | .healthcare =>
    datedResource (d.get "appointmentDate") (d.get "appointmentDateInstant") (d.get "provider")
  | .job =>
    match truthy (d.get "company"), truthy (d.get "role") with
    | some company, some role =>
      datedResource (d.get "interviewDate") (d.get "interviewDateInstant")
        (some (company ++ ":" ++ role))
    | _, _ => none
  | .events => eventResource d
  | _ => none

/-! ## The table -/

/-- The sort key holds the workflow and the key. -/
def resourceItemKey (item : Resource) : String × String × Workflow × String :=
  (item.accountId, item.threadId, item.workflow, item.resourceKey)

abbrev ResourceTable := KeyedTable resourceItemKey

structure SaveResourceParams where
  accountId : String
  threadId : String
  workflow : Workflow
  info : ResourceInfo
  assets : List ResourceAsset
deriving DecidableEq, Repr

/-- The row after a save at time `now`: created as active, or with its dates and texts moved and
the assets appended. -/
def SaveResourceParams.apply (params : SaveResourceParams) (now : String)
    (stored : Option Resource) : Resource where
  accountId := params.accountId
  threadId := params.threadId
  workflow := params.workflow
  resourceKey := params.info.resourceKey
  status := (stored.map Resource.status).getD .active
  expectedResolutionDate := params.info.expectedResolutionDate
  displayDate := some params.info.displayDate
  displayDateEnd := params.info.displayDateEnd <|> stored.bind Resource.displayDateEnd
  title := params.info.title <|> stored.bind Resource.title
  description := params.info.description <|> stored.bind Resource.description
  assets := ((stored.map Resource.assets).getD []) ++ params.assets
  createdAt := (stored.map Resource.createdAt).getD now
  updatedAt := now

def SaveResourceParams.key (params : SaveResourceParams) : String × String × Workflow × String :=
  (params.accountId, params.threadId, params.workflow, params.info.resourceKey)

def saveResourceItem (table : ResourceTable) (params : SaveResourceParams) (now : String) :
    ResourceTable :=
  table.put (params.apply now (table.get params.key))

end SesEmailAdapter.Resource.ResourceDatabase
