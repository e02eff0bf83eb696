import SesEmailAdapter.Email.Address

/-! # EmailService

The guard in front of SES: platform mail leaves from the platform domain, customer mail from
anywhere else. -/

namespace SesEmailAdapter.Email.Service
open Email.Address

inductive EmailSendType
  | healthcheck | digest | onboarding | accountInvite | forwardVerification | forward | reply
  | pong | draftSend | calendarForward | calendarRsvp
deriving DecidableEq, Repr

structure InvalidArgumentError where
  argument : String
  message : String
deriving DecidableEq, Repr

/-- The options of `send` and `sendRaw`, less the content. -/
structure SendOptions where
  toAddresses : List String
  cc : List String
  bcc : List String
  sendType : EmailSendType
  fromSender : Option String
  accountId : String
deriving DecidableEq, Repr

/-- The request that goes out to SES, less the content. -/
structure SendEmailCommand where
  fromEmailAddress : String
  toAddresses : List String
  cc : List String
  bcc : List String
  tenantName : String
deriving DecidableEq, Repr

structure EmailService where
  sender : String
  platformTenantName : String
  mailDomain : String
deriving DecidableEq, Repr

namespace EmailService

def validateAccountId (accountId : String) : Except InvalidArgumentError Unit :=
  if trim accountId.toList = [] then
    .error ⟨"accountId",
      "accountId (SES TenantName) must not be empty — every send must target a tenant."⟩
  else .ok ()

/-- A domain that is the platform's mail domain or lies under it. -/
def isOurDomain (service : EmailService) (domain : List Char) : Bool :=
  domain = service.mailDomain.toList ∨ ('.' :: service.mailDomain.toList).isSuffixOf domain

def isPlatformTenant (service : EmailService) (accountId : String) : Bool :=
  accountId = service.platformTenantName ∨ accountId = "SYSTEM"

def validateTenantDomainAlignment (service : EmailService) (accountId fromAddress : String) :
    Except InvalidArgumentError Unit :=
  let fromDomain := addressDomain fromAddress.toList
  let isPlatformTenant := service.isPlatformTenant accountId
  let isOurDomain := service.isOurDomain fromDomain
  if isPlatformTenant && !isOurDomain then
    .error ⟨"accountId", "Platform tenant \"" ++ accountId ++
      "\" cannot send from external domain \"" ++ String.ofList fromDomain ++
      "\" — use a customer tenant."⟩
  else if !isPlatformTenant && isOurDomain then
    .error ⟨"accountId", "Customer tenant \"" ++ accountId ++
      "\" cannot send from platform domain \"" ++ String.ofList fromDomain ++
      "\" — use the platform tenant."⟩
  else .ok ()

/-- `send` and `sendRaw` up to the call of SES, which they make with the same arguments. -/
def send (service : EmailService) (opts : SendOptions) :
    Except InvalidArgumentError SendEmailCommand := do
  validateAccountId opts.accountId
  let fromAddress := opts.fromSender.getD service.sender
  service.validateTenantDomainAlignment opts.accountId fromAddress
  return {
    fromEmailAddress := fromAddress
    toAddresses := opts.toAddresses
    cc := opts.cc
    bcc := opts.bcc
    tenantName := opts.accountId }

/-- The guard accepts just the pairs whose tenant is the platform's exactly if the domain is. -/
theorem validate_eq_ok_iff (service : EmailService) (accountId fromAddress : String) :
    service.validateTenantDomainAlignment accountId fromAddress = .ok () ↔
      service.isPlatformTenant accountId =
        service.isOurDomain (addressDomain fromAddress.toList) := by
  unfold validateTenantDomainAlignment
  cases hp : service.isPlatformTenant accountId <;>
    cases ho : service.isOurDomain (addressDomain fromAddress.toList) <;> simp [ho]

end EmailService

end SesEmailAdapter.Email.Service
