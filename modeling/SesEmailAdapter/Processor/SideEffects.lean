import SesEmailAdapter.Lib.Json
import SesEmailAdapter.Processor.InboundMessage
import SesEmailAdapter.Processor.OutboundService

/-! # The side effects of an email

What the worker does with the signal of an email once it is stored: forward it, notify, answer a
test, draft the replies of rules, and forward the invite it carried. Forwards, pongs, drafts and
the workflow are critical: the worker reports an error when one of them fails, and the message is
delivered again. -/

namespace SesEmailAdapter.Processor.SideEffects
open Lib
open SesEmailAdapter.Types Database.Shared
open Database.AccountDatabase (isSystemAccount getSender)
open Database.ThreadDatabase
open Email Email.SendPaths
open Forwarding.Targets (AccountMeta StoredTarget)
open Notifier.ReplySender
open Processor.IngestService (SideEffectPayload)
open Processor.DraftSendWorker (DraftSendPayload SendReceipt)
open Processor.OutboundService Processor.RuleOutcome

/-! ## Forwards -/

def forward (forwardingTargetId : String) (signal : Signal) (data : InboundEmailSignalData)
    (thread : Thread) : OutboundProg (Except ReplySendError Unit) := do
  let targetResult : Except DbError (Option StoredTarget) ←
    targets (Forwarding.Targets.request
      (.getForwardingTarget thread.accountId forwardingTargetId))
  match targetResult with
  | .error error => return .error (.db error)
  | .ok none => return .ok ()
  | .ok (some target) =>
    if target.status ≠ .verified then return .ok ()
    else match target.type with
      | .email => do
        let rawResult : Except DbError Unit ← ask (.getOriginalEmail data.s3Key signal.createdAt)
        match rawResult with
        | .error error => return .error (.db error)
        | .ok () => do
          let sendResult : Except ReplySendError SendReceipt ← Prog.perform
            (Cmd.send thread.accountId (forwardEmail target.target thread.accountId))
          return sendResult.map fun _ => ()
      | .webhook => do
        let posted : Except DbError Unit ← Prog.perform (Cmd.postWebhook target.target signal)
        return posted.mapError .db

/-- Runs an effect per item, one after the other, and counts those that failed. -/
def countFailures {α ε : Type} (effect : α → OutboundProg (Except ε Unit)) :
    List α → OutboundProg Nat
  | [] => return 0
  | item :: items => do
    let result ← effect item
    let failures ← countFailures effect items
    return (if result.toBool then 0 else 1) + failures

/-! ## Pongs -/

/-- A mail that says of itself that no one composed it, or that expects no bounce. -/
def isAutomatedMessage (headers : Fields) : Bool :=
  let autoSubmitted := ((headers.get "auto-submitted").map fun value =>
    Address.toLowerCase (Address.trim value.toList)).getD []
  (autoSubmitted ≠ [] ∧ autoSubmitted ≠ "no".toList) ∨
    (headers.get "return-path").map (fun value => Address.trim value.toList) = some "<>".toList

def isOwnEmail (fromAddress : String) (email : Option String) : Bool :=
  let normal (address : String) := Address.toLowerCase (Address.trim address.toList)
  email.any fun email => normal email ≠ [] ∧ normal email = normal fromAddress

/-- All profiles are read; the first that has the address or is an error decides. -/
def matchProfiles (fromAddress : String) : List String → OutboundProg (Except DbError Bool)
  | [] => return .ok false
  | userId :: userIds => do
    let emailResult : Except DbError (Option String) ← ask (.getUserEmail userId)
    let rest ← matchProfiles fromAddress userIds
    match emailResult with
    | .error error => return .error error
    | .ok email => if isOwnEmail fromAddress email then return .ok true else return rest

def senderMatchesAccountUser (accountId fromAddress : String) :
    OutboundProg (Except DbError Bool) := do
  let usersResult : Except DbError (List String) ← ask (.listUsers accountId)
  match usersResult with
  | .error error => return .error error
  | .ok userIds => matchProfiles fromAddress userIds

def senderBelongsToAccount (env : Env) (accountId fromAddress : String) :
    OutboundProg (Except DbError Bool) := do
  let domainsResult : Except DbError (List Domain) ← ask (.listDomains accountId)
  match domainsResult with
  | .error error => return .error error
  | .ok domains =>
    if domains.any fun d => getETLD1 env d.domain = getETLD1 env fromAddress then return .ok true
    else senderMatchesAccountUser accountId fromAddress

/-- The classifier saw a test, or the account has not had its test email, or is new and empty. -/
def isTestMoment (accountId : String) (workflow : Workflow) :
    OutboundProg (Except DbError Bool) :=
  if workflow = .test then return .ok true
  else do
    let accountResult : Except DbError (Option AccountMeta) ←
      targets (Forwarding.Targets.request (.getAccount accountId))
    match accountResult with
    | .error error => return .error error
    | .ok account =>
      if account.bind AccountMeta.testEmailReceived ≠ some true then return .ok true
      else match (account.map AccountMeta.createdAt).getD "" with
        | "" => return .ok false
        | createdAt => do
          let recent : Bool ← ask (.isRecent createdAt)
          if ¬ recent then return .ok false
          else do
            let threadsResult : Except DbError (List Thread) ← ask (.listActiveThreads accountId 1)
            return threadsResult.map List.isEmpty

def shouldPong (env : Env) (accountId : String) (data : InboundEmailSignalData) :
    OutboundProg (Except DbError Bool) :=
  if Address.toLowerCase data.sender.address.toList =
      Address.toLowerCase data.recipientAddress.toList then return .ok false
  else if isSystemAccount accountId then return .ok false
  else if isAutomatedMessage data.headers then return .ok false
  else do
    let belongs ← senderBelongsToAccount env accountId data.sender.address
    match belongs with
    | .ok true => isTestMoment accountId data.workflow
    | belongs => return belongs

def pongMail (accountId : String) (data : InboundEmailSignalData) : ReplyMail where
  opts := pongReply data (parseHopCount data.headers) accountId
  inReplyTo := (data.headers.get "message-id").filter (· ≠ "")
  autoSubmitted := true

def markTestEmailReceived (accountId : String) : OutboundProg Unit := do
  let accountResult : Except DbError (Option AccountMeta) ←
    targets (Forwarding.Targets.request (.getAccount accountId))
  match accountResult with
  | .error _ => return ()
  | .ok account =>
    if account.bind AccountMeta.testEmailReceived = some true then return ()
    else do
      let _ ← targets (Forwarding.Targets.request
        (.updateAccount accountId ⟨none, none, some true⟩))
      return ()

/-- A mail that the loop guard refused is no failure: it would be refused again. -/
def pong (env : Env) (accountId : String) (data : InboundEmailSignalData) : OutboundProg Nat := do
  let eligible ← shouldPong env accountId data
  match eligible with
  | .ok true => do
    let sendResult : Except ReplySendError SendReceipt ←
      Prog.perform (Cmd.sendReply (pongMail accountId data))
    match sendResult with
    | .error (.loopGuardTripped _) => return 0
    | .error _ => return 1
    | .ok _ => do
      markTestEmailReceived accountId
      return 0
  | _ => return 0

/-! ## Drafts -/

structure AutoDraft where
  templateId : String
  autoSend : Bool
deriving DecidableEq, Repr

/-- The JSON of an action, or, of old, the id of the template alone. -/
def parseAutoDraftValue (value : String) : Option AutoDraft :=
  match Json.parse value with
  | none => some ⟨value, false⟩
  | some .null => some ⟨value, false⟩
  | some (.obj members) => match members.lookup "templateId" with
    | some (.str templateId) =>
      if templateId = "" then none
      else some ⟨templateId, ((members.lookup "autoSend").map Json.truthy).getD false⟩
    | _ => none
  | some _ => none

/-- `replace(/\{\{([^}]+)\}\}/g, …)`, with the fuel of the text's length. -/
def renderChars (vars : Fields) : Nat → List Char → List Char
  | fuel + 1, '\x7b' :: '\x7b' :: text =>
    let key := text.takeWhile (· ≠ '\x7d')
    match key, text.drop key.length with
    | _ :: _, '\x7d' :: '\x7d' :: rest =>
      ((vars.get (String.ofList (Address.trim key))).getD "").toList ++ renderChars vars fuel rest
    | _, _ => '\x7b' :: renderChars vars fuel ('\x7b' :: text)
  | fuel + 1, c :: text => c :: renderChars vars fuel text
  | _, text => text

def renderTemplate (text : String) (vars : Fields) : String :=
  String.ofList (renderChars vars text.toList.length text.toList)

/-- A signal that the system adds to a thread to say what went wrong. -/
def systemSignal (accountId threadId id now : String) (data : SignalData) : Signal where
  id := id
  signalLookupId := id
  threadId := some threadId
  gsi3pk := none
  accountId := accountId
  status := .active
  labels := some []
  createdAt := now
  retentionDuration := some InboundMessage.SYSTEM_SIGNAL_RETENTION
  data := data

def noteProblem (accountId threadId : String) (data : SignalData) : OutboundProg Unit := do
  let id ← generateId "sgn-"
  let now : String ← ask .now
  let _ ← db (saveSignal (systemSignal accountId threadId id now data))
  return ()

/-- The issue with a function's result, and what is annotated on the template for it. -/
def functionIssue : FunctionResult → Option (String × String)
  | .text _ => none
  | .failed errorType message =>
    let issue := "[" ++ errorType ++ "] " ++ message
    some (issue, issue)
  | .nothing => some ("Function returned no value", "Function returned no value")
  | .nonString typeName =>
    some ("Function returned non-string value (type: " ++ typeName ++ ")",
      "Function returned no value")

def functionText : FunctionResult → String
  | .text value => value
  | _ => ""

/-- The variables of the functions, and whether one of them came to nothing. -/
def resolveFunctions (accountId : String) (tmpl : EmailTemplate) (signal : Signal)
    (thread : Thread) : List TemplateFunction → Fields → Bool → OutboundProg (Fields × Bool)
  | [], vars, failed => return (vars, failed)
  | fn :: functions, vars, failed => do
    let result : FunctionResult ← ask (.templateFunction accountId fn.code signal thread)
    let vars := ("fn." ++ fn.name, functionText result) :: vars
    match functionIssue result with
    | none => resolveFunctions accountId tmpl signal thread functions vars failed
    | some (issue, annotation) => do
      attempt (.annotateTemplateError accountId tmpl.id fn.name annotation)
      noteProblem accountId thread.id (.invalidTemplateFunction tmpl.name fn.name issue)
      resolveFunctions accountId tmpl signal thread functions vars true

/-- The Reply-To is of the sender's own domain, or of one that is approved. -/
def isReplyTargetSafe (env : Env) (data : InboundEmailSignalData) (replyTo : EmailAddress)
    (approvedDomains : List String) : Bool :=
  getETLD1 env replyTo.address = getETLD1 env data.sender.address ∨
    getETLD1 env replyTo.address ∈ approvedDomains

def approvedDomainsOf : Except DbError (Option AliasSender) → List String
  | .ok (some sender) => if sender.policy = .allow then [sender.senderDomain] else []
  | _ => []

/-- A draft with a Reply-To elsewhere is not sent on its own. -/
def replyTargetGate (env : Env) (accountId threadId : String) (data : InboundEmailSignalData)
    (shouldAutoSend : Bool) : OutboundProg Bool :=
  match data.replyTo.filter fun _ => shouldAutoSend with
  | none => return shouldAutoSend
  | some replyTo => do
    let senderResult ← accounts
      (getSender accountId data.recipientAddress (getETLD1 env replyTo.address))
    if isReplyTargetSafe env data replyTo (approvedDomainsOf senderResult) then return true
    else do
      noteProblem accountId threadId (.autoSendBlocked data.recipientAddress none)
      return false

/-- No answer goes out on its own to a mail that is itself automated. -/
def automatedGate (accountId threadId : String) (data : InboundEmailSignalData)
    (shouldAutoSend : Bool) : OutboundProg Bool :=
  if shouldAutoSend ∧ isAutomatedMessage data.headers then do
    noteProblem accountId threadId (.autoSendBlocked data.recipientAddress none)
    return false
  else return shouldAutoSend

/-- The draft, which has no headers. -/
def autoDraftSignal (accountId threadId draftId now : String) (data : InboundEmailSignalData)
    (tmpl : EmailTemplate) (vars : Fields) (shouldAutoSend : Bool) : Signal where
  id := draftId
  signalLookupId := draftId
  threadId := some threadId
  gsi3pk := none
  accountId := accountId
  status := if shouldAutoSend then .pendingSend else .draft
  labels := some []
  createdAt := now
  retentionDuration := none
  data := .outboundEmail {
    sender := ⟨data.recipientAddress, none⟩
    toAddresses := [data.sender]
    cc := []
    bcc := []
    subject := renderTemplate tmpl.subject vars
    attachments := []
    headers := []
    textBody := some (renderTemplate tmpl.body vars)
    htmlBody := none
    sesMessageId := none
    sendInitiatedAt := if shouldAutoSend then some now else none
    sendFailureReason := none
    linkedSignalId := none }

/-- What the actions of one email have in common. -/
structure DraftContext where
  accountId : String
  now : String
  senderSetupComplete : Bool
  vars : Fields

/-- Saves the draft and queues it for the worker, if it may be sent. -/
def saveDraft (context : DraftContext) (thread : Thread) (data : InboundEmailSignalData)
    (tmpl : EmailTemplate) (vars : Fields) (shouldAutoSend : Bool) :
    OutboundProg (Except DbError Unit) := do
  let draftId ← generateId "sgn-"
  let draftSaveResult : Except DbError Unit ← db (saveSignal (autoDraftSignal context.accountId
    thread.id draftId context.now data tmpl vars shouldAutoSend))
  match draftSaveResult with
  | .error error => return .error error
  | .ok () =>
    if shouldAutoSend then do
      let _ ← Prog.perform (Cmd.dispatchDraft
        ⟨draftId, context.accountId, thread.id, context.now⟩ 300)
      return .ok ()
    else return .ok ()

/-- One action; what keeps the draft from being made at all is no failure. -/
def autoDraft (env : Env) (context : DraftContext) (signal : Signal) (thread : Thread)
    (data : InboundEmailSignalData) (value : String) : OutboundProg (Except DbError Unit) :=
  match parseAutoDraftValue value with
  | none => return .ok ()
  | some parsed => do
    let tmplResult : Except DbError (Option EmailTemplate) ←
      ask (.getTemplate context.accountId parsed.templateId)
    match tmplResult with
    | .ok (some tmpl) => do
      let (vars, preventAutoSend) ←
        resolveFunctions context.accountId tmpl signal thread tmpl.functions context.vars false
      let wanted : Bool := parsed.autoSend && context.senderSetupComplete && !preventAutoSend
      let safe ← replyTargetGate env context.accountId thread.id data wanted
      let shouldAutoSend ← automatedGate context.accountId thread.id data safe
      saveDraft context thread data tmpl vars shouldAutoSend
    | _ => return .ok ()

/-- The values of the drafting actions of the matched rules. -/
def autoDraftValues (data : InboundEmailSignalData) : List String :=
  ((data.matchedRules.flatMap MatchedRuleResult.actions).filter fun action =>
    action.type = .autoDraft).filterMap actionValue

def autoDrafts (env : Env) (accountId : String) (signal : Signal) (thread : Thread)
    (data : InboundEmailSignalData) : OutboundProg Nat :=
  if autoDraftValues data = [] then return 0
  else do
    let now : String ← ask .now
    let domainResult : Except DbError (Option Domain) ← ask (.getDomainByName accountId
      (String.ofList (Address.afterFirstAt data.recipientAddress.toList)))
    let context : DraftContext := {
      accountId := accountId
      now := now
      senderSetupComplete := match domainResult with
        | .ok (some domain) => domain.senderSetupComplete
        | _ => false
      vars := [("signal.subject", data.subject), ("sender.name", data.sender.name.getD ""),
        ("sender.address", data.sender.address), ("thread.workflow", thread.workflow.text)] }
    countFailures (autoDraft env context signal thread data) (autoDraftValues data)

/-! ## Calendar invites -/

/-- Sends the invite to the address that the account names, whatever target that is. -/
def forwardCalendarInvite (env : Env) (accountId : String) (signal : Signal) (thread : Thread)
    (data : InboundEmailSignalData) : OutboundProg Nat := do
  let accountResult : Except DbError (Option AccountMeta) ←
    targets (Forwarding.Targets.request (.getAccount accountId))
  let calendarForwardingAddress := match accountResult with
    | .ok account => (account.bind AccountMeta.defaultCalendarInviteForwardingTargetId).getD ""
    | .error _ => ""
  let calendarSignalResult : Except DbError (Option Signal) ←
    db (getLinkedCalendarSignal accountId thread.id signal.id)
  match calendarSignalResult with
  | .ok (some ⟨_, _, _, _, _, _, _, _, _, .calendarEvent event⟩) =>
    match forwardInvite env.mailService event calendarForwardingAddress accountId
        data.recipientAddress with
    | none => return 0
    | some opts => do
      let sendResult : Except ReplySendError SendReceipt ←
        Prog.perform (Cmd.send accountId opts)
      match sendResult with
      | .error (.permanentSes _) => return 0
      | .error _ => return 1
      | .ok _ => return 0
  | _ => return 0

/-! ## The worker -/

structure ProcessorError where
  message : String
deriving DecidableEq, Repr

/-- The thread as it is now, on a retry. -/
def currentThread (accountId : String) (payloadThread : Thread) (receiveCount : Nat) :
    OutboundProg (Except DbError Thread) :=
  if receiveCount > 1 then do
    let threadResult : Except DbError (Option Thread) ← db (getThread accountId payloadThread.id)
    return threadResult.map fun thread => thread.getD payloadThread
  else return .ok payloadThread

def notify (payload : SideEffectPayload) (outcome : ProcessingOutcome) (thread : Thread) :
    OutboundProg Unit :=
  if ¬ outcome.suppressNotification ∧ ¬ payload.skipNotify then
    attempt (.notifySignal payload.signal.accountId thread payload.signal)
  else return ()

def invites (env : Env) (accountId : String) (signal : Signal) (thread : Thread)
    (data : InboundEmailSignalData) : OutboundProg Nat :=
  if hasForwardCalendarInvite data.matchedRules then
    forwardCalendarInvite env accountId signal thread data
  else return 0

def runEffects (env : Env) (payload : SideEffectPayload) (data : InboundEmailSignalData)
    (thread : Thread) : OutboundProg Nat := do
  let signal := payload.signal
  let accountId := signal.accountId
  let outcome := deriveOutcome data.matchedRules
  let forwards ←
    countFailures (fun target => forward target signal data thread) outcome.forwardAddresses
  notify payload outcome thread
  let dispatched : Except DbError Unit ← Prog.perform (Cmd.dispatchWorkflow signal thread)
  let pongs ← pong env accountId data
  let drafts ← autoDrafts env accountId signal thread data
  let invites ← invites env accountId signal thread data
  return forwards + (if dispatched.toBool then 0 else 1) + pongs + drafts + invites

/-- Only signals of inbound emails are queued. -/
def processSideEffect (env : Env) (payload : SideEffectPayload) (receiveCount : Nat) :
    OutboundProg (Except ProcessorError Unit) :=
  match payload.signal.data with
  | .inboundEmail data => do
    let threadResult ← currentThread payload.signal.accountId payload.thread receiveCount
    match threadResult with
    | .error error => return .error ⟨error.message⟩
    | .ok thread => do
      let failures ← runEffects env payload data thread
      if failures = 0 then return .ok ()
      else return .error ⟨toString failures ++ " critical side-effect failure" ++
        if failures > 1 then "s" else ""⟩
  | _ => return .ok ()

end SesEmailAdapter.Processor.SideEffects
