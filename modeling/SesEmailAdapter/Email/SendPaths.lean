import SesEmailAdapter.Notifier.ReplySender

/-! # The paths that send mail

Every caller of the mail service, up to the options it hands over. -/

namespace SesEmailAdapter.Email.SendPaths
open SesEmailAdapter.Types
open Database.Shared
open Email.Address Email.Service
open Notifier.ReplySender

/-! ## ForwardingService -/

inductive ForwardingTargetType
  | email | webhook
deriving DecidableEq, Repr

inductive ForwardingTargetStatus
  | pending | verified | disabled
deriving DecidableEq, Repr

structure ForwardingTarget where
  target : String
  type : ForwardingTargetType
  status : ForwardingTargetStatus
deriving DecidableEq, Repr

def sendEmailVerificationTarget (service : EmailService) (target : String) : SendOptions where
  toAddresses := [target]
  cc := []
  bcc := []
  sendType := .forwardVerification
  fromSender := some (platformFromAddress .notifications service.mailDomain.toList)
  accountId := service.platformTenantName

def sendVerification (service : EmailService) (target : ForwardingTarget) : Option SendOptions :=
  match target.type with
  | .webhook => none
  | .email => some (sendEmailVerificationTarget service target.target)

def forwardEmail (toAddress accountId : String) : SendOptions where
  toAddresses := [toAddress]
  cc := []
  bcc := []
  sendType := .forward
  fromSender := none
  accountId := accountId

/-- `forward` with the target it read and whether the original email could be read. -/
def forward (target : Except DbError (Option ForwardingTarget)) (original : Except DbError Unit)
    (accountId : String) : Except DbError (Option SendOptions) := do
  match ← target with
  | none => return none
  | some target =>
    if target.status ≠ .verified then return none
    match target.type with
    | .webhook => return none
    | .email =>
      original
      return some (forwardEmail target.target accountId)

/-! ## CalendarForwarder -/

/-- `slice(0, lastIndexOf("@"))` -/
def aliasLocalPart (aliasAddress : List Char) : List Char :=
  if '@' ∈ aliasAddress then (aliasAddress.reverse.dropWhile (· ≠ '@')).tail.reverse
  else aliasAddress.dropLast

def proxyAddress (service : EmailService) (accountId : String) (aliasAddress : List Char) :
    List Char :=
  aliasLocalPart aliasAddress ++ '@' :: (accountId.toList ++ '.' :: service.mailDomain.toList)

def forwardInvite (service : EmailService) (calendarData : CalendarEventData)
    (calendarForwardingAddress accountId aliasAddress : String) : Option SendOptions :=
  if calendarForwardingAddress = "" then none
  else
    let organizerName := calendarData.organizerCn.getD calendarData.organizer
    some {
      toAddresses := [calendarForwardingAddress]
      cc := []
      bcc := []
      sendType := .calendarForward
      fromSender := some (mailbox
        ⟨String.ofList (proxyAddress service accountId aliasAddress.toList), some organizerName⟩)
      accountId := service.platformTenantName }

/-- An RSVP goes out for an invite that is a REQUEST with an organizer and not cancelled. -/
def isRelayed (invite : CalendarEventData) (cancelled : Bool) : Bool :=
  ¬ cancelled ∧ invite.method.toUpper = "REQUEST" ∧ trim invite.organizer.toList ≠ []

def sendRsvpToOrganizer (invite : CalendarEventData) (cancelled : Bool)
    (fromAddress accountId : String) : Option SendOptions :=
  if isRelayed invite cancelled then
    some {
      toAddresses := [invite.organizer]
      cc := []
      bcc := []
      sendType := .calendarRsvp
      fromSender := some fromAddress
      accountId := accountId }
  else none

/-- The RSVP request of the API, which asks for a verified domain of the alias first. -/
def rsvpFromApi (reads : RoutingReads) (invite : CalendarEventData) (cancelled : Bool)
    (recipientAddress accountId : String) : Option SendOptions :=
  if recipientAddress = "" then none
  else match reads.getDomainByName (String.ofList (afterFirstAt recipientAddress.toList)) with
    | .ok (some domain) =>
      if domain.senderSetupComplete then
        sendRsvpToOrganizer invite cancelled recipientAddress accountId
      else none
    | _ => none

/-- The RSVP relayed from a reply to a forwarded invite. -/
def rsvpFromReply (invite : CalendarEventData) (cancelled : Bool) (aliasAddress accountId : String) :
    Option SendOptions :=
  if aliasAddress = "" then none
  else sendRsvpToOrganizer invite cancelled aliasAddress accountId

/-! ## Draft sends and pongs -/

def draftReply (data : OutboundEmailSignalData) (hopCount : Option Nat) (accountId : String) :
    ReplyOptions where
  sendType := .draftSend
  toAddresses := data.toAddresses
  cc := data.cc
  bcc := data.bcc
  sender := data.sender
  accountId := some accountId
  hopCount := hopCount
  allowFallbackToPlatformSending := false

def pongReply (data : InboundEmailSignalData) (hopCount : Option Nat) (accountId : String) :
    ReplyOptions where
  sendType := .pong
  toAddresses := [data.sender]
  cc := []
  bcc := []
  sender := ⟨data.recipientAddress, none⟩
  accountId := some accountId
  hopCount := hopCount
  allowFallbackToPlatformSending := true

/-! ## Notices -/

/-- Onboarding mails and account invitations. -/
def platformNotice (service : EmailService) (sendType : EmailSendType) (toAddress : String) :
    SendOptions where
  toAddresses := [toAddress]
  cc := []
  bcc := []
  sendType := sendType
  fromSender := some (platformFromAddress .notifications service.mailDomain.toList)
  accountId := service.platformTenantName

def healthcheck (recipient : String) : SendOptions where
  toAddresses := [recipient]
  cc := []
  bcc := []
  sendType := .healthcheck
  fromSender := none
  accountId := "SYSTEM"

/-- The digest leaves from the first domain the account can send from. -/
def digest (service : EmailService) (domains : Except DbError (List Domain))
    (toAddress accountId : String) : SendOptions :=
  let senderDomain := match domains with
    | .ok rows => rows.find? fun d : Domain => d.senderSetupComplete ∧ d.status ≠ DomainStatus.deleted
    | .error _ => none
  let fromDomain := (senderDomain.map fun d : Domain => d.domain.toList).getD service.mailDomain.toList
  { toAddresses := [toAddress]
    cc := []
    bcc := []
    sendType := .digest
    fromSender := some (platformFromAddress .digest fromDomain)
    accountId := if senderDomain.isSome then accountId else service.platformTenantName }

end SesEmailAdapter.Email.SendPaths
