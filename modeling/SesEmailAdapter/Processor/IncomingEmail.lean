import SesEmailAdapter.Calendar.EventStore
import SesEmailAdapter.Processor.InboundMessage

/-! # IncomingEmailProcessor

One delivery of an inbound message: resolve the account, look the signal up, and then either
resume from the convergence point or run the pipeline up to it. Of the thread and the signal the
thread is saved first. -/

namespace SesEmailAdapter.Processor.IncomingEmail
open Lib
open SesEmailAdapter.Types Database.Shared
open Database.ThreadDatabase Database.AccountDatabase
open Email.Address Calendar.EventStore
open Processor.IngestService Processor.InboundMessage
open Processor.RuleOutcome Resource.ResourceDatabase

inductive IngestError
  | db (error : DbError)
  | noAccount (recipientAddress compositeMailMessageId : String)
  | threadIdCollision (threadId : String)
deriving DecidableEq, Repr

/-- A delivery stops with an error, or because nothing is left to do. -/
inductive Stop
  | failed (error : IngestError)
  | finished
deriving DecidableEq, Repr

abbrev Step (α : Type) := ExceptT Stop IngestProg α

variable {α : Type}

def finish : Step α := throw .finished

def fail (error : IngestError) : Step α := throw (.failed error)

/-- A call whose error is the error of the delivery. -/
def must (p : IngestProg (Except DbError α)) : Step α :=
  ExceptT.mk ((Except.mapError fun error => Stop.failed (.db error)) <$> p)

/-! ## Resolution and resumption -/

structure Resolved where
  accountId : String
  aliasConfig : Option Alias
deriving DecidableEq, Repr

def domainOf (recipientAddress : String) : String :=
  String.ofList (afterFirstAt recipientAddress.toList)

/-- The owner of a domain, unless its registration is deleted. -/
def activeOwner (owner : Option Domain) : Option Resolved :=
  (owner.filter fun item => item.status ≠ .deleted).map fun item => ⟨item.accountId, none⟩

def resolveDomainOwner (env : Env) (recipientAddress : String) :
    IngestProg (Except DbError (Option Resolved)) := do
  let ownerResult ← accounts (getDomainOwner env.mailDomain (domainOf recipientAddress))
  return ownerResult.map activeOwner

/-- An alias of the address wins over the owner of its domain. -/
def resolveAccountIdAndAlias (env : Env) (recipientAddress : String) :
    IngestProg (Except DbError (Option Resolved)) := do
  let aliasResult ← accounts (getAliasByGlobalAddress env.mailDomain recipientAddress)
  match aliasResult with
  | .error error => return .error error
  | .ok (some item) => return .ok (some ⟨item.accountId, some item⟩)
  | .ok none => resolveDomainOwner env recipientAddress

def attemptS3Retention (signal : Signal) (billingPlan : BillingPlan) : IngestProg Unit :=
  match signal.data with
  | .inboundEmail data =>
    if isSystemAccount signal.accountId then return ()
    else attempt (.applyPlanRetention data.s3Key billingPlan)
  | _ => return ()

def executeAuroraUpserts (signal : Signal) (thread : Thread) : IngestProg (Except DbError Unit) :=
  Prog.perform (Cmd.upsertEmbeddings signal thread)

def dispatchSideEffects (signal : Signal) (thread : Thread) (skipNotify : Bool) :
    IngestProg (Except DbError Unit) :=
  Prog.perform (Cmd.sendMessage ⟨signal, thread, skipNotify⟩)

def billingPlanOf (account : Option Account) : BillingPlan :=
  (account.bind Account.billingPlan).getD .paid

/-- Resumes a delivery whose signal is stored. -/
def resume (accountId : String) (existing : Signal) (skipNotify : Bool) : Step Unit := do
  let threadId := existing.threadId.getD ""
  if threadId = "" then fail (.db ⟨"signal missing threadId on retry"⟩)
  else do
    let threadResult ← must (db (getThread accountId threadId))
    match threadResult with
    | none => fail (.db ⟨"thread not found on retry"⟩)
    | some thread => do
      let account ← must (ask (.getAccount accountId))
      attemptS3Retention existing (billingPlanOf account)
      must (executeAuroraUpserts existing thread)
      must (dispatchSideEffects existing thread skipNotify)

/-- The one signal lookup for deduplication and for retries. -/
def lookup (env : Env) (msg : InboundSignalMessage) (receiveCount : Nat)
    (opts : ProcessInboundOptions) (accountId : String) : Step Unit :=
  if opts.force then return ()
  else do
    let existing ← must (db (getSignalByMessageId env.stale accountId msg.compositeMailMessageId))
    match existing with
    | none => return ()
    | some existing =>
      if receiveCount > 1 then do
        resume accountId existing opts.skipNotify
        finish
      else finish

/-! ## Before classification -/

def countSignal (accountId : String) (msg : InboundSignalMessage) (status : SignalStatus) :
    IngestProg Unit :=
  match statusToMetric status with
  | none => return ()
  | some metric => attempt (.incrementStatMetric accountId metric msg.idempotencyKey)

/-- Rejects a mail that failed DKIM or DMARC. -/
def blockSpoofed (msg : InboundSignalMessage) (opts : ProcessInboundOptions)
    (accountId : String) : Step Unit :=
  if ¬ opts.unsafeSkipDmarc ∧ (msg.dkimVerdict = .fail ∨ msg.dmarcVerdict = .fail) then do
    let signalId ← generateId "sgn-"
    let now : String ← ask .now
    must (db (saveSignal (earlyBlock msg accountId .blockReject unparsedMime none now signalId)))
    countSignal accountId msg .blockReject
    finish
  else return ()

/-- The alias of an accepted mail exists whatever becomes of the mail. -/
def ensureAliasRecord (msg : InboundSignalMessage) (resolved : Resolved)
    (account : Option Account) : Step Unit :=
  match resolved.aliasConfig with
  | some _ => return ()
  | none => do
    let now : String ← ask .now
    let ensured ← must (accounts (ensureAlias resolved.accountId msg.primaryRecipient
      (defaultPolicy account) (some none) none now))
    if ensured.created then
      attempt (.incrementStatMetric resolved.accountId "totalAliases" (msg.idempotencyKey ++ ".alias"))

/-- A bounce ends the delivery whatever it was about. -/
def sanitizeEmail (msg : InboundSignalMessage) (accountId : String) : Step SanitizedEmail := do
  let sanitized ← must (ask (.sanitize msg.s3Key accountId))
  match sanitized.bounce with
  | none => return sanitized
  | some bounce => do
    must (ask (.handleInboundBounce bounce accountId))
    finish

def messageKey (accountId : String) (parsed : ParsedMime) : Option String :=
  ((truthy (parsed.headers.get "message-id")).bind extractMsgId).map (buildSignalGsi3pk accountId)

def senderStatus : SenderPolicy → Option SignalStatus
  | .allow => none
  | .blockHidden => some .blockHidden
  | .blockReject => some .blockReject
  | .reportViolation => some .reportViolation

/-- Saves a signal without a thread and ends the delivery. -/
def reject (msg : InboundSignalMessage) (senderETLD1 : String) (signal : Signal) : Step α := do
  must (db (saveSignal signal))
  attempt (.updateGlobalReputation senderETLD1 signal.status)
  countSignal signal.accountId msg signal.status
  finish

/-- Skips the classifier when the sender is blocked for this alias. -/
def blockSender (msg : InboundSignalMessage) (accountId senderETLD1 : String) (parsed : ParsedMime)
    (sender : Option AliasSender) : Step Unit :=
  match sender.bind fun item => senderStatus item.policy with
  | none => return ()
  | some status => do
    let now : String ← ask .now
    let signalId ← generateId "sgn-"
    reject msg senderETLD1
      (earlyBlock msg accountId status parsed (messageKey accountId parsed) now signalId)

/-! ## Classification and thread matching -/

def unclassified : ClassificationOutput :=
  ⟨.unspecified, ⟨.unspecified, false, []⟩, "", [], []⟩

/-- A conversation in which the recipient was only copied expects no reply from it. -/
def withDirectRecipient (recipientAddress : String) (parsed : ParsedMime)
    (c : ClassificationOutput) : ClassificationOutput :=
  let isDirectRecipient := parsed.toAddresses.any fun item =>
    toLowerCase item.address.toList = toLowerCase recipientAddress.toList
  if c.workflow = .conversation ∧ c.workflowData.workflow = .conversation ∧
      c.workflowData.requiresReply ∧ ¬ isDirectRecipient then
    { c with workflowData := { c.workflowData with requiresReply := false } }
  else c

/-- A failure of the classifier does not fail the delivery. -/
def classifyEmail (msg : InboundSignalMessage) (accountId : String) (account : Option Account)
    (sanitized : SanitizedEmail) : IngestProg ClassificationOutput := do
  let labelsResult : Except DbError (List Label) ← ask (.listLabels accountId)
  let classification : Except DbError ClassificationOutput ← ask (.classify {
    parsed := sanitized.parsed
    receivedAt := msg.timestamp
    labels := labelsResult.toOption.getD []
    extractedLinks := sanitized.links
    accountId := accountId
    accountTimezone := (account.bind Account.timezone).getD "UTC"
    ambiguousDateFormat := (account.bind Account.ambiguousDateFormat).getD "skip" })
  return withDirectRecipient msg.primaryRecipient sanitized.parsed
    (classification.toOption.getD unclassified)

/-- The health check of the system keeps its workflow. -/
def withSystemWorkflow (accountId : String) (c : ClassificationOutput) : ClassificationOutput :=
  if isSystemAccount accountId then
    { c with workflow := .healthcheck, workflowData := ⟨.healthcheck, false, []⟩ }
  else c

/-- Tier 1; an error is a miss. -/
def matchGroupingKey (accountId : String) (groupingKey : Option String) :
    IngestProg (Option Thread) :=
  match truthy groupingKey with
  | none => return none
  | some key => do
    let gkResult ← db (findThreadByGroupingKey accountId key)
    return gkResult.toOption.join

/-- The thread of an id; an error is a miss. -/
def fetchThread (accountId : String) : Option String → IngestProg (Option Thread)
  | none => return none
  | some threadId => do
    let threadResult ← db (getThread accountId threadId)
    return threadResult.toOption.join

/-- Tier 1.5. -/
def matchInReplyTo (accountId : String) (parsed : ParsedMime) : IngestProg (Option Thread) :=
  match (parsed.headers.get "in-reply-to").bind extractFirstInReplyTo with
  | none => return none
  | some msgId => do
    let signalResult ← db (findSignalByEmailMessageId (buildSignalGsi3pk accountId msgId))
    fetchThread accountId (truthy (signalResult.toOption.join.bind Signal.threadId))

/-- Tier 2. -/
def matchSimilarity (accountId recipientAddress : String) (embedding : List Int) :
    IngestProg (Option Thread) := do
  let matchResult : Except DbError (Option String) ←
    ask (.findMatch accountId recipientAddress embedding)
  fetchThread accountId matchResult.toOption.join

def matchThread (accountId recipientAddress : String) (parsed : ParsedMime)
    (groupingKey : Option String) (embedding : List Int) : IngestProg (Option Thread) := do
  let tier1Thread ← matchGroupingKey accountId groupingKey
  let tier15Thread ← matchInReplyTo accountId parsed
  let tier2Thread ← matchSimilarity accountId recipientAddress embedding
  return tier1Thread <|> tier15Thread <|> tier2Thread

/-- The id of the signal is known before the thread, whose id derives from it. -/
def inboundSignalId (opts : ProcessInboundOptions) : IngestProg String :=
  match opts.forceSignalId with
  | some signalId => return signalId
  | none => generateId "sgn-"

def threadShell (env : Env) (msg : InboundSignalMessage) (args : SignalArgs)
    (groupingKey : Option String) (matchedThread : Option Thread) (signalId : String) :
    IngestProg Thread :=
  match matchedThread with
  | some thread => return continueThread thread args
  | none => do
    let now : String ← ask .now
    return buildActiveThread env args msg.timestamp signalId now groupingKey

/-! ## Rules -/

def invalidRuleSignal (rule : Rule) (threadId id now : String) (warnings : List String) :
    Signal where
  id := id
  signalLookupId := id
  threadId := some threadId
  gsi3pk := none
  accountId := rule.accountId
  status := .active
  labels := some []
  createdAt := now
  retentionDuration := some SYSTEM_SIGNAL_RETENTION
  data := .invalidRuleFunction rule.name ("; ".intercalate warnings)

/-- A notice about a rule that returned invalid actions; a failure to save it is logged. -/
def noteWarnings (rule : Rule) (threadId : String) (warnings : List String) : IngestProg Unit :=
  if warnings = [] then return ()
  else do
    let id ← generateId "sgn-"
    let now : String ← ask .now
    let _ ← db (saveSignal (invalidRuleSignal rule threadId id now warnings))

def applyRules (signal : Signal) (isMatchedThread : Bool) :
    List Rule → Thread → List MatchedRuleResult → IngestProg (List MatchedRuleResult × Thread)
  | [], thread, matchedRules => return (matchedRules, thread)
  | rule :: rules, thread, matchedRules => do
    let evalResult : RuleEvalResult ← ask (.evaluate rule ⟨signal, thread, isMatchedThread⟩)
    if ¬ evalResult.matched then applyRules signal isMatchedThread rules thread matchedRules
    else do
      noteWarnings rule thread.id evalResult.warnings
      match matchedRule matchedRules rule evalResult with
      | none => applyRules signal isMatchedThread rules thread matchedRules
      | some entry =>
        -- later rules see the workflow that this one assigned
        let thread := { thread with
          workflow := (assignedWorkflow entry.actions).getD thread.workflow }
        applyRules signal isMatchedThread rules thread (matchedRules ++ [entry])

def withoutStatusActions (outcome : ProcessingOutcome) : ProcessingOutcome :=
  { outcome with
    blockDisposition := none, quarantine := false, quarantineHidden := false, archive := false }

/-- What the rules and the policy on unknown senders decide. -/
structure Decision where
  matchedRules : List MatchedRuleResult
  outcome : ProcessingOutcome
deriving DecidableEq, Repr

def decideOutcome (opts : ProcessInboundOptions) (resolved : Resolved)
    (recipientAddress senderETLD1 : String) (filterMode : UnknownSenderPolicy)
    (labels : List String) (matchedRules : List MatchedRuleResult) : Decision :=
  let derived := deriveOutcome matchedRules
  let outcome := if opts.skipAllMatchedRuleStatusActions then withoutStatusActions derived else derived
  let policySource :=
    if resolved.aliasConfig.isSome then "alias " ++ recipientAddress else "account default"
  if ¬ outcome.statusSet ∧ ¬ opts.skipAllMatchedRuleStatusActions ∧
      "system:sender:untrusted" ∈ labels then
    match applyFilterMode outcome filterMode with
    | (outcome, none) => ⟨matchedRules, outcome⟩
    | (outcome, some action) =>
      ⟨matchedRules ++ [unknownSenderRule senderETLD1 policySource filterMode action], outcome⟩
  else ⟨matchedRules, outcome⟩

/-- The signal takes the last workflow that a rule assigned. -/
def withFinalWorkflow (matchedRules : List MatchedRuleResult) (signal : Signal) : Signal :=
  match finalWorkflow matchedRules with
  | none => signal
  | some workflow =>
    mapData (fun data => { data with
      workflow := workflow, workflowData := ⟨workflow, false, []⟩ }) signal

/-- A mail that the decision keeps off the threads. -/
def rejectedSignal (msg : InboundSignalMessage) (args : SignalArgs)
    (matchedRules : List MatchedRuleResult) (status : SignalStatus) (signalId : String) : Signal :=
  withMatchedRules matchedRules (buildSignal msg
    { args with status := status, retentionDuration := SPAM_QUARANTINE_RETENTION } none signalId)

/-- The client shows a quarantined signal from the signal alone. -/
def notifyQuarantine (opts : ProcessInboundOptions) (outcome : ProcessingOutcome)
    (signal : Signal) : IngestProg Unit :=
  if outcome.suppressNotification ∨ opts.skipNotify then return ()
  else attempt (.notifySignal signal)

def quarantine (msg : InboundSignalMessage) (opts : ProcessInboundOptions) (senderETLD1 : String)
    (outcome : ProcessingOutcome) (signal : Signal) : Step α := do
  must (db (saveSignal signal))
  notifyQuarantine opts outcome signal
  attempt (.updateGlobalReputation senderETLD1 signal.status)
  countSignal signal.accountId msg signal.status
  finish

/-- Blocks or quarantines the mail when the decision says so. -/
def applyDisposition (msg : InboundSignalMessage) (opts : ProcessInboundOptions)
    (senderETLD1 : String) (args : SignalArgs) (decision : Decision) : Step Unit :=
  match decision.outcome.blockDisposition with
  | some status => do
    let signalId ← inboundSignalId opts
    reject msg senderETLD1 (rejectedSignal msg args decision.matchedRules status signalId)
  | none =>
    if decision.outcome.quarantine ∧ ¬ decision.outcome.approveSender then do
      let status : SignalStatus :=
        if decision.outcome.quarantineHidden then .quarantineHidden else .quarantineVisible
      let signalId ← inboundSignalId opts
      quarantine msg opts senderETLD1 decision.outcome
        (rejectedSignal msg args decision.matchedRules status signalId)
    else return ()

/-! ## The writes -/

/-- Records the sender as allowed, unless it has a policy of its own. -/
def autoApprove (accountId recipientAddress senderETLD1 : String) (sender : Option AliasSender)
    (filterMode : UnknownSenderPolicy) (outcome : ProcessingOutcome) : Step Unit :=
  if (outcome.approveSender ∨ filterMode = .allowAll) ∧ sender = none then do
    let now : String ← ask .now
    must (accounts (saveSender accountId recipientAddress senderETLD1 .allow now))
  else return ()

def saveThread (accountId : String) (matchedThread : Option Thread) (thread : Thread) :
    Step Unit :=
  match matchedThread with
  | some matchedThread => do
    let now : String ← ask .now
    must (db (updateThread accountId thread.id thread.status thread.lastSignalAt now
      (threadDelta matchedThread thread)))
  | none => do
    let saveThreadResult ← (db (createThread thread) : IngestProg (Except CreateThreadError Unit))
    match saveThreadResult with
    | .ok () => return ()
    | .error (.db error) => fail (.db error)
    | .error (.threadIdCollision threadId) => fail (.threadIdCollision threadId)

def sourcedAsset (signalId : String) (asset : ExtractedAsset) : ResourceAsset :=
  ⟨asset.type, asset.label, asset.rawValue, signalId, truthy asset.s3Key⟩

/-- A failure to save the resource is logged. -/
def saveResourceOf (signal : Signal) (thread : Thread) (assets : List ExtractedAsset) :
    IngestProg Unit :=
  match signal.data with
  | .inboundEmail data =>
    match deriveResourceInfo data.workflow data.workflowData with
    | none => return ()
    | some info => do
      let now : String ← ask .now
      let _ ← Prog.perform (Cmd.saveResource ⟨signal.accountId, thread.id, data.workflow, info,
        info.assets ++ assets.map (sourcedAsset signal.id)⟩ now)
  | _ => return ()

/-! ## Calendar attachments -/

def invalidInviteSignal (signal : Signal) (threadId reason id now : String) : Signal where
  id := id
  signalLookupId := id
  threadId := some threadId
  gsi3pk := none
  accountId := signal.accountId
  status := .active
  labels := some []
  createdAt := now
  retentionDuration := signal.retentionDuration
  data := .calendarInviteInvalid reason signal.id

def saveInvalidInvites (signal : Signal) (threadId : String) : List String → IngestProg Unit
  | [] => return ()
  | reason :: reasons => do
    let id ← generateId "sgn-"
    let now : String ← ask .now
    let _ ← db (saveSignal (invalidInviteSignal signal threadId reason id now))
    saveInvalidInvites signal threadId reasons

/-- The name to show for an event whose invite has no organizer. -/
def eventNameFallback (signal : Signal) : Option String :=
  match signal.data with
  | .inboundEmail data =>
    if data.workflowData.workflow = .events then data.workflowData.fields.get "eventName" else none
  | _ => none

def calendarEventData (signal : Signal) (event : CalendarEventData) : CalendarEventData :=
  { event with
    organizerCn := event.organizerCn <|>
      if event.organizer = "" then eventNameFallback signal else none
    linkedSignalId := signal.id }

def calendarSignal (signal : Signal) (threadId : String) (event : CalendarEventData)
    (id now : String) : CalendarEventSignal where
  signal := {
    id := id
    signalLookupId :=
      buildCalendarSignalLookupId event.organizer event.veventUid event.recurrenceId
    threadId := some threadId
    gsi3pk := none
    accountId := signal.accountId
    status := .active
    labels := some []
    createdAt := now
    retentionDuration := signal.retentionDuration
    data := .calendarEvent (calendarEventData signal event) }
  data := calendarEventData signal event
  isEvent := rfl

/-- The side effects find the action that forwards the invite among the matched rules. -/
def withCalendarForward (signal : Signal) : Signal :=
  if hasForwardCalendarInvite signal.matchedRules then signal
  else withMatchedRules (signal.matchedRules ++ [calendarForwardRule]) signal

/-- Saves an event per invite; the signal is changed in memory only. -/
def saveCalendarEvents (threadId : String) : List ExtractedEvent → Signal → Step Signal
  | [], signal => return signal
  | event :: events, signal => do
    let id ← generateId "sgn-"
    let now : String ← ask .now
    must (Prog.perform (Cmd.saveIcsContent
      ("content/accounts/" ++ signal.accountId ++ "/calendar/" ++ id ++ "/invite.ics")
      event.rawIcsContent))
    let saved ← (db (saveCalendarEventSignal (calendarSignal signal threadId event.data id now)) :
      IngestProg (Except DbError Unit))
    match saved with
    | .error _ => saveCalendarEvents threadId events signal
    | .ok () => do
      attempt (.scheduleReminders (calendarSignal signal threadId event.data id now).signal)
      saveCalendarEvents threadId events (withCalendarForward signal)

def processCalendarAttachment (signal : Signal) (threadId : String)
    (extraction : Option CalendarExtraction) : Step Signal :=
  match extraction with
  | none => return signal
  | some extraction => do
    saveInvalidInvites signal threadId extraction.invalidAttachments
    saveCalendarEvents threadId extraction.validEvents signal

/-! ## The pipeline -/

/-- What a delivery brings to the convergence point. -/
structure Converged where
  signal : Signal
  thread : Thread
  billingPlan : BillingPlan
deriving DecidableEq, Repr

/-- A mail that was parsed and that no early check has stopped. -/
structure Received where
  account : Option Account
  sanitized : SanitizedEmail
  senderETLD1 : String
  /-- A sender record counts only where the alias existed before. -/
  sender : Option AliasSender
deriving DecidableEq, Repr

def receive (env : Env) (msg : InboundSignalMessage) (opts : ProcessInboundOptions)
    (resolved : Resolved) : Step Received := do
  blockSpoofed msg opts resolved.accountId
  let account ← must (ask (.getAccount resolved.accountId))
  ensureAliasRecord msg resolved account
  let sanitized ← sanitizeEmail msg resolved.accountId
  let senderETLD1 := getETLD1 env sanitized.parsed.sender.address
  let aliasSender ← must (accounts (getSender resolved.accountId msg.primaryRecipient senderETLD1))
  let sender := if resolved.aliasConfig.isSome then aliasSender else none
  blockSender msg resolved.accountId senderETLD1 sanitized.parsed sender
  return ⟨account, sanitized, senderETLD1, sender⟩

/-- A received mail with its class and its place among the threads. -/
structure Placed where
  classified : ClassificationOutput
  embedding : Embedding
  args : SignalArgs
  filterMode : UnknownSenderPolicy
  matchedThread : Option Thread
  thread : Thread
  signalId : String
deriving DecidableEq, Repr

/-- The labels of a thread after the system's, the classifier's and the forwarder's. -/
def threadLabels (env : Env) (received : Received) (filterMode : UnknownSenderPolicy)
    (c : ClassificationOutput) (thread : Thread) : List String :=
  let systemLabels := assignSystemLabels env c.workflow c.workflowData c.actions received.sender
    filterMode ((thread.sentMessageIds.getD []) ≠ [])
  let forwarded :=
    (extractForwardedAddress received.sanitized.parsed.headers).map ("original:" ++ ·)
  (systemLabels ++ c.labels ++ forwarded.toList).foldl addLabel thread.labels

def senderDomainOf (parsed : ParsedMime) : String :=
  String.ofList (afterLastAt parsed.sender.address.toList)

/-- Classifies the mail and finds its thread, or starts one. -/
def place (env : Env) (msg : InboundSignalMessage) (opts : ProcessInboundOptions)
    (resolved : Resolved) (received : Received) : Step Placed := do
  let parsed := received.sanitized.parsed
  let classified ← classifyEmail msg resolved.accountId received.account received.sanitized
  let embedding ← must (ask (.embed (senderDomainOf parsed) parsed.subject classified))
  let now : String ← ask .now
  let c := withSystemWorkflow resolved.accountId classified
  let groupingKey :=
    deriveGroupingKey c.workflow c.workflowData msg.primaryRecipient received.senderETLD1
  let matchedThread ← (matchThread resolved.accountId msg.primaryRecipient parsed groupingKey
    embedding.vector : IngestProg (Option Thread))
  let signalId ← inboundSignalId opts
  let args : SignalArgs := ⟨.active, resolved.accountId, msg.primaryRecipient, parsed, c.workflow,
    c.workflowData, c.summary, now, resolveRetention received.account,
    messageKey resolved.accountId parsed⟩
  let shell ← threadShell env msg args groupingKey matchedThread signalId
  let filterMode := resolveUnknownSenderPolicy resolved.aliasConfig received.account
  let thread := { shell with labels := threadLabels env received filterMode c shell }
  return ⟨classified, embedding, args, filterMode, matchedThread, thread, signalId⟩

/-- The mail passed the rules: its signal as it is to be saved, and its thread. -/
structure Accepted where
  signal : Signal
  thread : Thread
  calendar : Option CalendarExtraction
deriving DecidableEq, Repr

def acceptedThread (msg : InboundSignalMessage) (placed : Placed) (outcome : ProcessingOutcome)
    (calendar : Option CalendarExtraction) (thread : Thread) : Thread :=
  let hasEvents : Bool := calendar.any fun extraction => extraction.validEvents ≠ []
  let labels := (outcome.additionalLabels ++ if hasEvents then ["system:calendar"] else []).foldl
    addLabel thread.labels
  { thread with
    lastSignalAt := msg.timestamp
    labels := labels
    urgency := if placed.matchedThread.isSome then thread.urgency
      else some ((outcome.urgency <|> thread.urgency).getD .normal)
    status := if outcome.archive then .archived else .active }

def attachmentsOf (signal : Signal) : List Attachment :=
  match signal.data with
  | .inboundEmail data => data.attachments
  | _ => []

/-- Evaluates the rules and applies what they decide. -/
def judge (msg : InboundSignalMessage) (opts : ProcessInboundOptions) (resolved : Resolved)
    (received : Received) (placed : Placed) : Step Accepted := do
  -- the sender was checked before classification; this check sees the same record
  match received.sender.bind fun item => senderStatus item.policy with
  | some status => do
    let signalId ← generateId "sgn-"
    reject msg received.senderETLD1 (buildSignal msg { placed.args with
      status := status, retentionDuration := SPAM_QUARANTINE_RETENTION, gsi3pk := none }
      none signalId)
  | none => do
    let shell := buildSignal msg placed.args (some placed.thread.id) placed.signalId
    let rules ← must (ask (.listEnabledRules resolved.accountId))
    let (matchedRules, thread) ← applyRules shell placed.matchedThread.isSome rules placed.thread []
    let decision := decideOutcome opts resolved msg.primaryRecipient received.senderETLD1
      placed.filterMode thread.labels matchedRules
    applyDisposition msg opts received.senderETLD1 placed.args decision
    autoApprove resolved.accountId msg.primaryRecipient received.senderETLD1 received.sender
      placed.filterMode decision.outcome
    let calendar ← must (ask (.extractCalendar (attachmentsOf shell)))
    let secondary : List (Except DbError Embedding) ← ask (.embedSecondary
      (senderDomainOf placed.args.parsed) placed.args.parsed.subject placed.classified)
    let embeddings := placed.embedding :: secondary.filterMap Except.toOption
    let signal := mapData (fun data => { data with
      matchedRules := decision.matchedRules
      urgency := some ((decision.outcome.urgency <|> thread.urgency).getD .normal)
      embeddings := embeddings.map fun e => (e.modelId, e.vector) })
      (withFinalWorkflow matchedRules shell)
    return ⟨signal, acceptedThread msg placed decision.outcome calendar thread, calendar⟩

/-- A fresh delivery up to the convergence point: the thread is saved before the signal. -/
def store (msg : InboundSignalMessage) (resolved : Resolved) (received : Received)
    (placed : Placed) (accepted : Accepted) : Step Converged := do
  saveThread resolved.accountId placed.matchedThread accepted.thread
  must (db (saveSignal accepted.signal))
  saveResourceOf accepted.signal accepted.thread received.sanitized.assets
  countSignal resolved.accountId msg accepted.signal.status
  let signal ← processCalendarAttachment accepted.signal accepted.thread.id accepted.calendar
  return ⟨signal, accepted.thread, billingPlanOf received.account⟩

/-- Everything before the convergence point. -/
def accept (env : Env) (msg : InboundSignalMessage) (receiveCount : Nat)
    (opts : ProcessInboundOptions) : Step Converged := do
  let resolution ← must (resolveAccountIdAndAlias env msg.primaryRecipient)
  match resolution with
  | none => fail (.noAccount msg.primaryRecipient msg.compositeMailMessageId)
  | some resolved => do
    lookup env msg receiveCount opts resolved.accountId
    let received ← receive env msg opts resolved
    let placed ← place env msg opts resolved received
    let accepted ← judge msg opts resolved received placed
    store msg resolved received placed accepted

/-- The error of a step that fails after the signal is saved. -/
def orElse (message : String) (p : IngestProg (Except DbError Unit)) : Step Unit :=
  must ((Except.mapError fun _ => ⟨message⟩) <$> p)

def converge (opts : ProcessInboundOptions) (converged : Converged) : Step Unit := do
  attemptS3Retention converged.signal converged.billingPlan
  orElse "Aurora upsert failed" (executeAuroraUpserts converged.signal converged.thread)
  orElse "Side-effect dispatch failed"
    (dispatchSideEffects converged.signal converged.thread opts.skipNotify)

def toResult : Except Stop Unit → Except IngestError Unit
  | .ok () => .ok ()
  | .error .finished => .ok ()
  | .error (.failed error) => .error error

def process (env : Env) (msg : InboundSignalMessage) (receiveCount : Nat)
    (opts : ProcessInboundOptions) : Step Unit := do
  let converged ← accept env msg receiveCount opts
  converge opts converged

def processInbound (env : Env) (msg : InboundSignalMessage) (receiveCount : Nat)
    (opts : ProcessInboundOptions) : IngestProg (Except IngestError Unit) :=
  toResult <$> (process env msg receiveCount opts).run

end SesEmailAdapter.Processor.IncomingEmail
