import Mathlib.Data.List.Infix
import SesEmailAdapter.Processor.DraftSendWorker

/-! # Send routes

What the reply sender reports of a message, from what the mail provider of its route answers. The
provider is SES, or the exchange behind the alias, whose adapter reports how the send went. -/

namespace SesEmailAdapter.Notifier.SendRoutes
open SesEmailAdapter.Types
open Email.Address Email.Service
open Notifier.ReplySender
open Processor.DraftSendWorker (SendReceipt)

/-! ## Answers of the mail providers -/

/-- An exception that the SES client throws. -/
structure SesException where
  name : Option String
  message : Option String
  httpStatusCode : Option Nat
deriving DecidableEq, Repr

/-- `EmailServiceError` -/
inductive EmailServiceError
  | transientSes (errorName : String) (httpStatus : Nat)
  | invalidArgument (error : InvalidArgumentError)
  | permanentSes (errorName : String) (httpStatus : Nat) (message : String)
deriving DecidableEq, Repr

/-- `ProviderSendError` -/
inductive ProviderSendError
  | sendFailed (cause : String)
  | tokenExpired
  | sendScopeMissing (cause : String)
  | sendRejected (cause : String)
deriving DecidableEq, Repr

structure SendResult where
  providerMessageId : String
  messageId : Option String
deriving DecidableEq, Repr

/-- What SES answers to a command, with the id of the message where it accepts it, and what the
adapter of an exchange reports of a message. -/
structure MailProviders where
  ses : SendEmailCommand → Except SesException (Option String)
  exchange : ExternalMailExchange → ReplyOptions → Except ProviderSendError SendResult

/-! ## EmailService -/

/-- `text.includes(part)` -/
def includes (text part : String) : Bool := decide (part.toList <:+: text.toList)

def isTenantMissing (errorMessage : String) : Bool :=
  includes errorMessage "Tenant" && includes errorMessage "not found"

def isMalformedRequest (errorName : String) : Bool :=
  errorName = "BadRequestException" ∨ errorName = "ValidationException"

def isPermanentFailure (errorName errorMessage : String) : Bool :=
  isMalformedRequest errorName ∨
    (errorName = "MessageRejected" ∧ includes errorMessage "Email address is not verified") ∨
    errorName = "ConfigurationSetSendingPausedException" ∨
    errorName = "ConfigurationSetDoesNotExistException" ∨
    errorName = "AccessDeniedException"

def classifyError (e : SesException) (accountId : String) : EmailServiceError :=
  let errorName := e.name.getD "UnknownError"
  let errorMessage := e.message.getD "unknown"
  let httpStatus := e.httpStatusCode.getD 0
  if isTenantMissing errorMessage then
    .permanentSes errorName httpStatus ("Tenant not found: " ++ accountId)
  else if isPermanentFailure errorName errorMessage then
    .permanentSes errorName httpStatus errorMessage
  else .transientSes errorName httpStatus

/-- The id SES gives to the message. -/
def sendRaw (service : EmailService) (providers : MailProviders) (opts : SendOptions) :
    Except EmailServiceError String :=
  match service.send opts with
  | .error error => .error (.invalidArgument error)
  | .ok command => match providers.ses command with
    | .ok messageId => .ok (messageId.getD "")
    | .error e => .error (classifyError e opts.accountId)

/-! ## ReplySenderService -/

def EmailServiceError.toReply : EmailServiceError → ReplySendError
  | .transientSes errorName _ => .transientSes errorName
  | .invalidArgument error => .invalidArgument error
  | .permanentSes errorName _ _ => .permanentSes errorName

def ProviderSendError.toReply : ProviderSendError → ReplySendError
  | .sendFailed cause => .providerSendFailed cause
  | .tokenExpired => .providerTokenExpired
  | .sendScopeMissing _ => .providerSendScopeMissing
  | .sendRejected cause => .providerSendRejected cause

def buildOutboundMsgId (sesMessageId sesRegion : String) : String :=
  sesMessageId ++ "@" ++ sesRegion ++ ".amazonses.com"

def sendViaProvider (answer : Except ProviderSendError SendResult) :
    Except ReplySendError SendReceipt :=
  match answer with
  | .error error => .error error.toReply
  | .ok value => .ok {
      messageId := value.providerMessageId
      outboundMsgId := value.messageId.filter (· ≠ "") }

def sendViaSes (sesRegion : String) (result : Except EmailServiceError String) :
    Except ReplySendError SendReceipt :=
  match result with
  | .error (.permanentSes ..) => .ok ⟨"", none⟩
  | .error error => .error error.toReply
  | .ok messageId => .ok {
      messageId := messageId
      outboundMsgId := if messageId = "" then none
        else some (buildOutboundMsgId messageId sesRegion) }

/-- The options for SES, with the From value and the tenant of the route. -/
def sesOptions (opts : ReplyOptions) (sender : List Char) (accountId : String) : SendOptions where
  toAddresses := opts.toAddresses.map mailbox
  cc := opts.cc.map mailbox
  bcc := opts.bcc.map mailbox
  sendType := opts.sendType
  fromSender := some (String.ofList sender)
  accountId := accountId

/-- Where a message goes: to an exchange with a From value, or to SES. -/
inductive Destination
  | exchange (emx : ExternalMailExchange) (sender : List Char)
  | ses (sendOptions : SendOptions)

def sendRoute (service : EmailService) (reads : RoutingReads) (opts : ReplyOptions) :
    Except ReplySendError Destination :=
  let hopCount := opts.hopCount.getD 0 + 1
  if hopCount > maxHopCount then .error (.loopGuardTripped hopCount)
  else match resolveRoute reads opts.accountId (formatAddress opts.sender)
      opts.allowFallbackToPlatformSending with
    | .error error => .error error
    | .ok (.provider emx sender) => .ok (.exchange emx sender)
    | .ok .platform =>
      let platformAddress := PlatformAlias.notifications.address service.mailDomain.toList
      let sender := formatAddress ⟨String.ofList platformAddress, PlatformAlias.notifications.name⟩
      .ok (.ses (sesOptions opts sender service.platformTenantName))
    | .ok (.ses sender) =>
      .ok (.ses (sesOptions opts sender (opts.accountId.getD service.platformTenantName)))

def Destination.sendOptions : Destination → Option SendOptions
  | .exchange .. => none
  | .ses sendOptions => some sendOptions

theorem sendReply_eq (service : EmailService) (reads : RoutingReads) (opts : ReplyOptions) :
    sendReply service reads opts = (sendRoute service reads opts).map Destination.sendOptions := by
  simp only [sendReply, sendRoute]
  split
  · rfl
  · cases resolveRoute reads opts.accountId (formatAddress opts.sender)
      opts.allowFallbackToPlatformSending with
    | error error => rfl
    | ok route => cases route <;> rfl

/-- `sendReply`, up to the answer of the provider. -/
def sendReplyResult (service : EmailService) (reads : RoutingReads) (providers : MailProviders)
    (sesRegion : String) (opts : ReplyOptions) : Except ReplySendError SendReceipt :=
  match sendRoute service reads opts with
  | .error error => .error error
  | .ok (.exchange emx _) => sendViaProvider (providers.exchange emx opts)
  | .ok (.ses sendOptions) => sendViaSes sesRegion (sendRaw service providers sendOptions)

/-! ## What a provider made of a message -/

inductive Verdict
  | accepted | rejected | transient
deriving DecidableEq, Repr

/-- There is none for a message that SES was not asked to send. -/
def EmailServiceError.verdict : EmailServiceError → Option Verdict
  | .transientSes .. => some .transient
  | .invalidArgument _ => none
  | .permanentSes .. => some .rejected

/-- A missing scope and a rejection fail identically on every retry. -/
def ProviderSendError.verdict : ProviderSendError → Verdict
  | .sendFailed _ => .transient
  | .tokenExpired => .transient
  | .sendScopeMissing _ => .rejected
  | .sendRejected _ => .rejected

def verdictOf (service : EmailService) (reads : RoutingReads) (providers : MailProviders)
    (opts : ReplyOptions) : Option Verdict :=
  match sendRoute service reads opts with
  | .error _ => none
  | .ok (.exchange emx _) => match providers.exchange emx opts with
    | .ok _ => some .accepted
    | .error error => some error.verdict
  | .ok (.ses sendOptions) => match sendRaw service providers sendOptions with
    | .ok _ => some .accepted
    | .error error => error.verdict

/-- The message goes to SES, which refuses it for good. -/
def refusedBySes (service : EmailService) (reads : RoutingReads) (providers : MailProviders)
    (opts : ReplyOptions) : Bool :=
  match sendRoute service reads opts with
  | .ok (.ses sendOptions) => match sendRaw service providers sendOptions with
    | .error (.permanentSes ..) => true
    | _ => false
  | _ => false

end SesEmailAdapter.Notifier.SendRoutes
