import Mathlib.Data.String.Basic

/-! # Domain types

The records the stores hold and the services pass around: signals, threads, resources, rules.
Fields that no modelled function reads or writes are left out. Timestamps are ISO 8601 UTC
strings of one fixed layout, so that their order is the order of the strings. -/

namespace SesEmailAdapter.Types

/-! ## Enumerations -/

/-- A rule can assign any text. -/
inductive Workflow
  | auth | conversation | crm | package | travel | payments | content | onboarding | notice
  | healthcare | job | support | events | healthcheck | test | unspecified
  | custom (name : String)
deriving DecidableEq, Repr

/-- The workflows and their spelling, as the classifier and the rules write them. -/
def Workflow.names : List (String × Workflow) :=
  [("auth", .auth), ("conversation", .conversation), ("crm", .crm), ("package", .package),
    ("travel", .travel), ("payments", .payments), ("content", .content),
    ("onboarding", .onboarding), ("notice", .notice), ("healthcare", .healthcare), ("job", .job),
    ("support", .support), ("events", .events), ("healthcheck", .healthcheck), ("test", .test),
    ("unspecified", .unspecified)]

def Workflow.ofText (text : String) : Workflow :=
  match Workflow.names.find? fun entry => entry.1 = text with
  | some entry => entry.2
  | none => .custom text

def Workflow.text : Workflow → String
  | .custom name => name
  | workflow =>
    ((Workflow.names.find? fun entry => entry.2 = workflow).map Prod.fst).getD ""

inductive SignalStatus
  | active | blockHidden | blockReject | reportViolation | quarantineVisible | quarantineHidden
  | draft | pendingSend | sent
deriving DecidableEq, Repr

inductive ThreadStatus
  | active | archived | deleted | reportViolation
deriving DecidableEq, Repr

/-- The spelling a status has inside an index key. -/
def ThreadStatus.text : ThreadStatus → String
  | .active => "active"
  | .archived => "archived"
  | .deleted => "deleted"
  | .reportViolation => "report_violation"

/-- A rule can set any text. -/
inductive ThreadUrgency
  | critical | high | normal | low | silent
  | custom (name : String)
deriving DecidableEq, Repr

def ThreadUrgency.ofText : String → ThreadUrgency
  | "critical" => .critical
  | "high" => .high
  | "normal" => .normal
  | "low" => .low
  | "silent" => .silent
  | text => .custom text

inductive ResourceStatus
  | active | complete
deriving DecidableEq, Repr

def ResourceStatus.text : ResourceStatus → String
  | .active => "active"
  | .complete => "complete"

inductive RuleActionType
  | assignLabel | assignWorkflow | archive | forward | blockHidden | blockReject
  | quarantineVisible | quarantineHidden | setUrgency | suppressNotification | approveSender
  | autoDraft | forwardCalendarInvite
deriving DecidableEq, Repr

/-- `unknownSenderPolicy` of an alias, and the account default behind it. -/
inductive UnknownSenderPolicy
  | allowAll | blockHidden | blockReject | reportViolation | quarantineVisible | quarantineHidden
deriving DecidableEq, Repr

inductive SenderPolicy
  | allow | blockHidden | blockReject | reportViolation
deriving DecidableEq, Repr

/-! ## Mail -/

structure EmailAddress where
  address : String
  name : Option String
deriving DecidableEq, Repr

structure Attachment where
  filename : String
  mimeType : String
  sizeBytes : Nat
  s3Key : String
deriving DecidableEq, Repr

/-- A record of named strings, looked up by name. -/
abbrev Fields := List (String × String)

def Fields.get (fields : Fields) (name : String) : Option String :=
  (fields.find? fun field => field.1 = name).map Prod.snd

/-- The classifier's data for a workflow. The source reads it through casts, so the fields are
looked up by name whatever the workflow is. -/
structure WorkflowData where
  workflow : Workflow
  requiresReply : Bool
  fields : Fields
deriving DecidableEq, Repr

/-! ## Rules -/

structure RuleAction where
  type : RuleActionType
  value : Option String
deriving DecidableEq, Repr

inductive StatusChange
  | blockHidden | blockReject | reportViolation | quarantineVisible | quarantineHidden | archived
  | deleted
deriving DecidableEq, Repr

structure MatchedRuleResult where
  ruleId : String
  actions : List RuleAction
  labelsAdded : List String
  statusChange : Option StatusChange
  text : Option String
deriving DecidableEq, Repr

/-! ## Signals -/

inductive RsvpDecision
  | accepted | declined | tentative
deriving DecidableEq, Repr

structure CalendarRsvpResponse where
  decision : RsvpDecision
  respondedAt : String
deriving DecidableEq, Repr

structure CalendarEventData where
  title : String
  startTime : String
  organizer : String
  organizerCn : Option String
  veventUid : String
  method : String
  sequence : Int
  status : Option String
  recurrenceId : Option String
  linkedSignalId : String
  rsvpResponse : Option CalendarRsvpResponse
  sesMessageId : Option String
deriving DecidableEq, Repr

structure InboundEmailSignalData where
  receivedAt : String
  sender : EmailAddress
  recipientAddress : String
  subject : String
  attachments : List Attachment
  headers : Fields
  workflow : Workflow
  workflowData : WorkflowData
  summary : String
  s3Key : String
  replyTo : Option EmailAddress
  urgency : Option ThreadUrgency
  embeddings : List (String × List Int)
  matchedRules : List MatchedRuleResult
deriving DecidableEq, Repr

structure OutboundEmailSignalData where
  sender : EmailAddress
  toAddresses : List EmailAddress
  cc : List EmailAddress
  bcc : List EmailAddress
  subject : String
  attachments : List Attachment
  headers : Fields
  textBody : Option String
  htmlBody : Option String
  sesMessageId : Option String
  sendInitiatedAt : Option String
  sendFailureReason : Option String
  linkedSignalId : Option String
deriving DecidableEq, Repr

/-- The payload of a signal; its constructor stands for the pair of `type` and `source`. -/
inductive SignalData
  | inboundEmail (data : InboundEmailSignalData)
  | outboundEmail (data : OutboundEmailSignalData)
  | calendarEvent (data : CalendarEventData)
  | calendarInviteInvalid (reason linkedSignalId : String)
  | invalidRuleFunction (resourceName issue : String)
  | invalidTemplateFunction (resourceName functionName issue : String)
  | autoSendBlocked (recipientAddress : String) (reason : Option String)
deriving DecidableEq, Repr

/-- A signal. `labels` is absent on legacy items until they are hydrated. -/
structure Signal where
  id : String
  signalLookupId : String
  threadId : Option String
  gsi3pk : Option String
  accountId : String
  status : SignalStatus
  labels : Option (List String)
  createdAt : String
  retentionDuration : Option String
  data : SignalData
deriving DecidableEq, Repr

/-- The rules that an email matched, as its signal records them. -/
def Signal.matchedRules (signal : Signal) : List MatchedRuleResult :=
  match signal.data with
  | .inboundEmail data => data.matchedRules
  | _ => []

/-! ## Threads and resources -/

structure Thread where
  id : String
  accountId : String
  groupingKey : Option String
  workflow : Workflow
  labels : List String
  status : ThreadStatus
  summary : String
  lastSignalAt : String
  createdAt : String
  updatedAt : String
  retentionDuration : Option String
  sentMessageIds : Option (List String)
  urgency : Option ThreadUrgency
  followupAt : Option String
  sender : EmailAddress
  recipientAddress : String
  subject : String
deriving DecidableEq, Repr

structure ResourceAsset where
  type : String
  label : String
  rawValue : String
  sourceSignalId : String
  s3Key : Option String
deriving DecidableEq, Repr

structure Resource where
  accountId : String
  threadId : String
  workflow : Workflow
  resourceKey : String
  status : ResourceStatus
  expectedResolutionDate : String
  displayDate : Option String
  displayDateEnd : Option String
  title : Option String
  description : Option String
  assets : List ResourceAsset
  createdAt : String
  updatedAt : String
deriving DecidableEq, Repr

/-! ## Accounts -/

structure Alias where
  id : String
  accountId : String
  aliasAddress : String
  domain : String
  aliasName : String
  unknownSenderPolicy : UnknownSenderPolicy
  name : Option String
  createdForOrigin : Option String
  emxId : Option String
  createdAt : String
  updatedAt : String
deriving DecidableEq, Repr

structure AliasSender where
  accountId : String
  aliasAddress : String
  senderDomain : String
  policy : SenderPolicy
  addedAt : String
deriving DecidableEq, Repr

inductive DomainStatus
  | active | deleted
deriving DecidableEq, Repr

/-- A domain. An absent `status` is `active`. -/
structure Domain where
  accountId : String
  domain : String
  status : DomainStatus
  receivingSetupComplete : Bool
  senderSetupComplete : Bool
  createdAt : String
  updatedAt : String
deriving DecidableEq, Repr

inductive EmxPlatform
  | gmail | outlook | imap | jmap
deriving DecidableEq, Repr

inductive EmxStatus
  | active | activationFailed
deriving DecidableEq, Repr

/-- The spelling a status has in a message. -/
def EmxStatus.text : EmxStatus → String
  | .active => "active"
  | .activationFailed => "activation_failed"

structure ExternalMailExchange where
  id : String
  accountId : String
  emailAddress : String
  status : EmxStatus
deriving DecidableEq, Repr

end SesEmailAdapter.Types
