import SesEmailAdapter.Processor.IngestService

/-! # An inbound message and what is derived from it

The message of the inbound queue, what its headers say, the labels and the grouping key of its
thread, and the signal that stands for it. -/

namespace SesEmailAdapter.Processor.InboundMessage
open SesEmailAdapter.Types Email.Address
open Database.SignalsTable
open Processor.IngestService Processor.RuleOutcome
open Resource.ResourceDatabase (truthy)

/-! ## The message -/

/-- The lookup ids that the system makes itself, for its own signals and for calendar events. -/
def isOwnLookupId (lookupId : String) : Prop :=
  "sgn-".toList <+: lookupId.toList ∨ "cal-".toList <+: lookupId.toList

/-- The composite id starts with the source of the message (`ses-`, `gmail-`, an exchange). -/
structure InboundSignalMessage where
  s3Key : String
  compositeMailMessageId : String
  idempotencyKey : String
  timestamp : String
  primaryRecipient : String
  dkimVerdict : Verdict
  dmarcVerdict : Verdict
  hasSource : ¬ isOwnLookupId compositeMailMessageId

structure ProcessInboundOptions where
  force : Bool
  unsafeSkipDmarc : Bool
  forceSignalId : Option String
  skipNotify : Bool
  skipAllMatchedRuleStatusActions : Bool
deriving DecidableEq, Repr

/-- The options of a delivery from the queue. -/
def noOptions : ProcessInboundOptions := ⟨false, false, none, false, false⟩

/-! ## Headers -/

/-- `/<([^>]+)>/` -/
def firstBracketed : List Char → Option (List Char)
  | [] => none
  | '<' :: text =>
    let inner := text.takeWhile (· ≠ '>')
    if inner ≠ [] ∧ inner.length < text.length then some inner else firstBracketed text
  | _ :: text => firstBracketed text

def extractMsgId (raw : String) : Option String :=
  match firstBracketed raw.toList with
  | some inner => some (String.ofList inner)
  | none => truthy (some (String.ofList (trim raw.toList)))

def extractFirstInReplyTo (headerValue : String) : Option String :=
  (firstBracketed headerValue.toList).map String.ofList

def MAX_GSI3PK_LENGTH : Nat := 1024

def buildSignalGsi3pk (accountId msgId : String) : String :=
  String.ofList (("ACCT#" ++ accountId ++ "#MSGID#" ++ msgId).toList.take MAX_GSI3PK_LENGTH)

/-- The header of a name in lower case; the last one wins. -/
def headerOf (headers : Fields) (name : String) : Option String :=
  (headers.reverse.find? fun field => toLowerCase field.1.toList = name.toList).map Prod.snd

/-- The runs of characters other than white space, comma and semicolon. -/
def addressTokens (text : List Char) : List (List Char) :=
  text.splitOnP fun c => isSpace c ∨ c = ',' ∨ c = ';'

/-- `/([^\s,;]+@[^\s,;]+)/` -/
def firstAddressToken (text : List Char) : Option (List Char) :=
  (addressTokens text).find? fun token => '@' ∈ (token.drop 1).dropLast

def extractForwardedAddress (headers : Fields) : Option String := do
  let raw ← truthy (headerOf headers "x-forwarded-to" <|> headerOf headers "x-original-to" <|>
    headerOf headers "resent-to")
  let address ← firstBracketed raw.toList <|> firstAddressToken raw.toList
  return String.ofList (trim address)

/-! ## Policies and labels -/

def UNKNOWN_SENDER_POLICY_DEFAULT : UnknownSenderPolicy := .quarantineVisible

/-- `DEFAULT_UNKNOWN_SENDER_POLICY` behind the account's own default. -/
def defaultPolicy (account : Option Account) : UnknownSenderPolicy :=
  (account.bind Account.defaultUnknownSenderPolicy).getD UNKNOWN_SENDER_POLICY_DEFAULT

def resolveUnknownSenderPolicy (aliasConfig : Option Alias) (account : Option Account) :
    UnknownSenderPolicy :=
  match aliasConfig with
  | some item => item.unknownSenderPolicy
  | none => defaultPolicy account

def SPAM_QUARANTINE_RETENTION : String := "P3M"

def SYSTEM_SIGNAL_RETENTION : String := "P90D"

def resolveRetention (account : Option Account) : String :=
  (truthy (account.bind Account.retentionDuration)).getD "P3M"

def statusToMetric : SignalStatus → Option String
  | .active => some "allowed"
  | .blockHidden => some "blocked"
  | .blockReject => some "blocked"
  | .reportViolation => some "reported"
  | .quarantineVisible => some "quarantined"
  | .quarantineHidden => some "quarantined"
  | _ => none

def addLabel (labels : List String) (label : String) : List String :=
  if label ∈ labels then labels else labels ++ [label]

def assignSystemLabels (env : Env) (workflow : Workflow) (workflowData : WorkflowData)
    (actions : List String) (aliasSenderConfig : Option AliasSender)
    (unknownSenderPolicy : UnknownSenderPolicy) (hasSentMessages : Bool) : List String :=
  let senderTrusted : Bool :=
    aliasSenderConfig.map AliasSender.policy = some .allow ∨ unknownSenderPolicy = .allowAll
  let securityAlert : Bool :=
    workflow = .auth ∧ workflowData.fields.get "authType" = some "security_alert"
  let hasActionableUrl : Bool :=
    actions ≠ [] ∨ (workflowData.workflow.text :: workflowData.fields.map Prod.snd).any env.isUrl
  (if senderTrusted then [] else ["system:sender:untrusted"]) ++
    (if hasSentMessages then ["system:replied"] else []) ++
    (if securityAlert then ["system:auth:security_alert"] else []) ++
    (if hasActionableUrl then ["system:action"] else [])

def deriveGroupingKey (workflow : Workflow) (workflowData : WorkflowData)
    (recipientAddress senderETLD1 : String) : Option String :=
  let base := recipientAddress ++ ":" ++ workflow.text
  let bySender := some (base ++ ":" ++ senderETLD1)
  let byField (name : String) :=
    (truthy (workflowData.fields.get name)).map fun value => base ++ ":" ++ value
  match workflow with
  | .auth => bySender
  | .content => bySender
  | .onboarding => bySender
  | .notice => bySender
  | .payments => bySender
  | .test => bySender
  | .package => byField "orderNumber"
  | .support => byField "ticketId"
  | _ => none

/-! ## Signals and threads -/

structure SignalArgs where
  status : SignalStatus
  accountId : String
  recipientAddress : String
  parsed : ParsedMime
  workflow : Workflow
  workflowData : WorkflowData
  summary : String
  now : String
  retentionDuration : String
  gsi3pk : Option String
deriving DecidableEq, Repr

def buildSignal (msg : InboundSignalMessage) (args : SignalArgs) (threadId : Option String)
    (signalId : String) : Signal where
  id := signalId
  signalLookupId := msg.compositeMailMessageId
  threadId := threadId
  gsi3pk := args.gsi3pk
  accountId := args.accountId
  status := args.status
  labels := some []
  createdAt := args.now
  retentionDuration := some args.retentionDuration
  data := .inboundEmail {
    receivedAt := msg.timestamp
    sender := args.parsed.sender
    recipientAddress := args.recipientAddress
    subject := args.parsed.subject
    attachments := args.parsed.attachments
    headers := args.parsed.headers
    workflow := args.workflow
    workflowData := args.workflowData
    summary := args.summary
    s3Key := msg.s3Key
    replyTo := args.parsed.replyTo
    urgency := none
    embeddings := []
    matchedRules := [] }

/-- A mail of which nothing was parsed. -/
def unparsedMime : ParsedMime := ⟨⟨"", none⟩, [], "", [], [], none, none, none⟩

/-- The data of a mail that was blocked before it was classified. -/
def unclassifiedData : WorkflowData :=
  ⟨.notice, false, [("noticeType", "other"), ("provider", "")]⟩

/-- A signal blocked before its mail was classified. -/
def earlyBlock (msg : InboundSignalMessage) (accountId : String) (status : SignalStatus)
    (parsed : ParsedMime) (gsi3pk : Option String) (now signalId : String) : Signal :=
  buildSignal msg ⟨status, accountId, msg.primaryRecipient, parsed, .notice, unclassifiedData, "", now,
    SPAM_QUARANTINE_RETENTION, gsi3pk⟩ none signalId

/-- The data of an email's signal, changed. -/
def mapData (update : InboundEmailSignalData → InboundEmailSignalData) (signal : Signal) : Signal :=
  { signal with
    data := match signal.data with
      | .inboundEmail data => .inboundEmail (update data)
      | data => data }

def withMatchedRules (matchedRules : List MatchedRuleResult) : Signal → Signal :=
  mapData fun data => { data with matchedRules := matchedRules }

/-- The thread a message was matched to, as the message leaves it before the rules. -/
def continueThread (matchedThread : Thread) (args : SignalArgs) : Thread :=
  { matchedThread with
    workflow := args.workflow
    summary := args.summary
    sender := ⟨args.parsed.sender.address, truthy args.parsed.sender.name⟩
    recipientAddress := args.recipientAddress
    subject := args.parsed.subject
    updatedAt := args.now
    retentionDuration := some args.retentionDuration }

def buildActiveThread (env : Env) (args : SignalArgs) (lastSignalAt signalId now : String)
    (groupingKey : Option String) : Thread where
  id := deriveThreadIdFromSignalId env signalId
  accountId := args.accountId
  groupingKey := truthy groupingKey
  workflow := args.workflow
  labels := []
  status := .active
  summary := args.summary
  lastSignalAt := lastSignalAt
  createdAt := now
  updatedAt := now
  retentionDuration := some args.retentionDuration
  sentMessageIds := none
  urgency := none
  followupAt := none
  sender := ⟨args.parsed.sender.address, truthy args.parsed.sender.name⟩
  recipientAddress := args.recipientAddress
  subject := args.parsed.subject

/-- What an update of a matched thread writes. -/
def threadDelta (matchedThread thread : Thread) : UpdateThreadFields where
  summary := if thread.summary ≠ matchedThread.summary then some thread.summary else none
  workflow := if thread.workflow ≠ matchedThread.workflow then some thread.workflow else none
  urgency := if thread.urgency ≠ matchedThread.urgency then thread.urgency else none
  retentionDuration :=
    if thread.retentionDuration ≠ matchedThread.retentionDuration then thread.retentionDuration
    else none
  labels := if thread.labels ≠ matchedThread.labels then some thread.labels else none
  sentMessageIds :=
    if thread.sentMessageIds ≠ matchedThread.sentMessageIds then thread.sentMessageIds else none
  sender := some thread.sender
  recipientAddress := some thread.recipientAddress
  subject := some thread.subject
  followupAt :=
    if matchedThread.status = .archived ∧ thread.status = .active ∧
        (truthy matchedThread.followupAt).isSome then some "" else none

/-! ## The policy on unknown senders -/

def UnknownSenderPolicy.text : UnknownSenderPolicy → String
  | .allowAll => "allow_all"
  | .blockHidden => "block_hidden"
  | .blockReject => "block_reject"
  | .reportViolation => "report_violation"
  | .quarantineVisible => "quarantine_visible"
  | .quarantineHidden => "quarantine_hidden"

/-- What the policy on unknown senders makes of the outcome, and the action that explains it. -/
def applyFilterMode (outcome : ProcessingOutcome) :
    UnknownSenderPolicy → ProcessingOutcome × Option (RuleActionType × StatusChange)
  | .allowAll => (outcome, none)
  | .blockHidden =>
    ({ outcome with blockDisposition := some .blockHidden }, some (.blockHidden, .blockHidden))
  | .blockReject =>
    ({ outcome with blockDisposition := some .blockReject }, some (.blockReject, .blockReject))
  | .reportViolation =>
    ({ outcome with blockDisposition := some .reportViolation },
      some (.blockReject, .reportViolation))
  | .quarantineVisible =>
    ({ outcome with quarantine := true }, some (.quarantineVisible, .quarantineVisible))
  | .quarantineHidden =>
    ({ outcome with quarantine := true, quarantineHidden := true },
      some (.quarantineHidden, .quarantineHidden))

def unknownSenderRule (senderETLD1 policySource : String) (mode : UnknownSenderPolicy)
    (action : RuleActionType × StatusChange) : MatchedRuleResult where
  ruleId := "SR-00"
  actions := [⟨action.1, none⟩]
  labelsAdded := []
  statusChange := some action.2
  text := some ("Sender " ++ senderETLD1 ++ " is not in approved senders (" ++ policySource ++
    " policy: " ++ UnknownSenderPolicy.text mode ++ ")")

end SesEmailAdapter.Processor.InboundMessage
