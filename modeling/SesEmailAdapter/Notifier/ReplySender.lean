import SesEmailAdapter.Database.Shared
import SesEmailAdapter.Email.Service

/-! # ReplySenderService

The route of an outbound message: through the exchange behind its alias, over SES as itself, or,
where the caller allows it, over SES from the platform domain. -/

namespace SesEmailAdapter.Notifier.ReplySender
open SesEmailAdapter.Types
open Database.Shared
open Email.Address Email.Service

/-- The errors of the mail service, of the providers, of the reads and of routing. -/
inductive ReplySendError
  | transientSes (errorName : String)
  | permanentSes (errorName : String)
  | invalidArgument (error : InvalidArgumentError)
  | providerSendFailed (cause : String)
  | providerSendRejected (cause : String)
  | providerTokenExpired
  | providerSendScopeMissing
  | db (error : DbError)
  | loopGuardTripped (hopCount : Nat)
  | fromAddressUnsendable (reason : String)
deriving DecidableEq, Repr

/-- The rows of one account that routing reads. -/
structure RoutingReads where
  getAlias : String → Except DbError (Option Alias)
  getDomainByName : String → Except DbError (Option Domain)
  getExternalExchange : String → Except DbError (Option ExternalMailExchange)

structure ReplyOptions where
  sendType : EmailSendType
  toAddresses : List EmailAddress
  cc : List EmailAddress
  bcc : List EmailAddress
  sender : EmailAddress
  accountId : Option String
  hopCount : Option Nat
  allowFallbackToPlatformSending : Bool

/-- An address route carries the From value it sends with. -/
inductive Route
  | provider (exchange : ExternalMailExchange) (sender : List Char)
  | ses (sender : List Char)
  | platform

def maxHopCount : Nat := 100

/-- `Number.parseInt(value, 10)` of the hop-count header; a missing, malformed or negative value
reads as no prior hop. -/
def parseHopCount (headers : Fields) : Option Nat :=
  let value := (((headers.get "x-numaeel-hop-count").getD "").toList).dropWhile isSpace
  let negative := value.head? = some '-'
  let unsigned := if negative ∨ value.head? = some '+' then value.tail else value
  let digits := unsigned.takeWhile Char.isDigit
  let parsed := digits.foldl (fun n d => 10 * n + (d.toNat - '0'.toNat)) 0
  if digits = [] ∨ (negative ∧ parsed ≠ 0) then none else some parsed

def mailbox (address : EmailAddress) : String := String.ofList (formatAddress address)

/-- `PLATFORM_ALIASES`, by key. -/
inductive PlatformAlias
  | notifications | digest
deriving DecidableEq, Repr

def PlatformAlias.localPart : PlatformAlias → List Char
  | .notifications => "noreply".toList
  | .digest => "digest".toList

def PlatformAlias.name : PlatformAlias → String
  | .notifications => "Numaeel"
  | .digest => "Numaeel Digest"

def PlatformAlias.address (key : PlatformAlias) (domain : List Char) : List Char :=
  key.localPart ++ '@' :: domain

def platformFromAddress (key : PlatformAlias) (domain : List Char) : String :=
  String.ofList ('"' :: key.name.toList ++ ['"', ' '] ++ '<' :: (key.address domain ++ ['>']))

/-! ## Routing -/

def sesOrFallback (reads : RoutingReads) (fromAddress decoratedFrom : List Char)
    (allowFallbackToPlatformSending : Bool) (reason : String) : Except ReplySendError Route :=
  match reads.getDomainByName (String.ofList (afterFirstAt fromAddress)) with
  | .error error => .error (.db error)
  | .ok domain =>
    if (domain.map Domain.senderSetupComplete).getD false then .ok (.ses decoratedFrom)
    else if allowFallbackToPlatformSending then .ok .platform
    else .error (.fromAddressUnsendable
      ("Cannot send from " ++ String.ofList fromAddress ++ ": " ++ reason))

def resolveRoute (reads : RoutingReads) (accountId : Option String) (sender : List Char)
    (allowFallbackToPlatformSending : Bool) : Except ReplySendError Route :=
  if accountId.getD "" = "" then .ok (.ses sender)
  else
    let fromAddress := extractAddress sender
    match reads.getAlias (String.ofList fromAddress) with
    | .error error => .error (.db error)
    | .ok aliasConfig =>
      let decoratedFrom :=
        formatAddress ⟨String.ofList fromAddress, aliasConfig.bind Alias.name⟩
      match (aliasConfig.bind Alias.emxId).getD "" with
      | "" => sesOrFallback reads fromAddress decoratedFrom allowFallbackToPlatformSending
          "the from-address is not backed by an exchange and its domain is not verified for sending"
      | emxId => match reads.getExternalExchange emxId with
        | .error error => .error (.db error)
        | .ok none => sesOrFallback reads fromAddress decoratedFrom allowFallbackToPlatformSending
            "exchange no longer exists"
        | .ok (some emx) =>
          if emx.status = .active then .ok (.provider emx decoratedFrom)
          else sesOrFallback reads fromAddress decoratedFrom allowFallbackToPlatformSending
            ("exchange status is " ++ emx.status.text)

/-- What `sendReply` hands to the mail service; `none` when the message goes out through a
provider. -/
def sendReply (service : EmailService) (reads : RoutingReads) (opts : ReplyOptions) :
    Except ReplySendError (Option SendOptions) :=
  let hopCount := opts.hopCount.getD 0 + 1
  if hopCount > maxHopCount then .error (.loopGuardTripped hopCount)
  else
    let sendViaSes (sender : List Char) (accountId : String) : SendOptions := {
      toAddresses := opts.toAddresses.map mailbox
      cc := opts.cc.map mailbox
      bcc := opts.bcc.map mailbox
      sendType := opts.sendType
      fromSender := some (String.ofList sender)
      accountId := accountId }
    match resolveRoute reads opts.accountId (formatAddress opts.sender)
        opts.allowFallbackToPlatformSending with
    | .error error => .error error
    | .ok (.provider ..) => .ok none
    | .ok .platform =>
      -- `MAIL_DOMAIN`, which the mail service is built with as well
      let platformAddress := PlatformAlias.notifications.address service.mailDomain.toList
      .ok (some (sendViaSes
        (formatAddress ⟨String.ofList platformAddress, PlatformAlias.notifications.name⟩)
        service.platformTenantName))
    | .ok (.ses sender) =>
      .ok (some (sendViaSes sender (opts.accountId.getD service.platformTenantName)))

/-! ## When a message goes out over SES as itself -/

/-- No active exchange stands behind an address. -/
def LacksExchange (reads : RoutingReads) (fromAddress : List Char) : Prop :=
  ∃ aliasConfig, reads.getAlias (String.ofList fromAddress) = .ok aliasConfig ∧
    ((aliasConfig.bind Alias.emxId).getD "" = "" ∨
      ∃ exchange, reads.getExternalExchange ((aliasConfig.bind Alias.emxId).getD "") =
        .ok exchange ∧ ∀ emx, exchange = some emx → emx.status ≠ .active)

/-- The account has verified the domain of an address for sending. -/
def HasVerifiedDomain (reads : RoutingReads) (fromAddress : List Char) : Prop :=
  ∃ row, reads.getDomainByName (String.ofList (afterFirstAt fromAddress)) = .ok (some row) ∧
    row.senderSetupComplete = true

variable {reads : RoutingReads} {accountId : Option String} {sender fromAddress : List Char}

theorem sesOrFallback_ses_iff {decoratedFrom result : List Char} {allow : Bool} {reason : String} :
    sesOrFallback reads fromAddress decoratedFrom allow reason = .ok (.ses result) ↔
      HasVerifiedDomain reads fromAddress ∧ decoratedFrom = result := by
  unfold sesOrFallback HasVerifiedDomain
  cases hd : reads.getDomainByName (String.ofList (afterFirstAt fromAddress)) with
  | error error => simp
  | ok domain =>
    cases domain with
    | none => cases allow <;> simp
    | some row => cases hs : row.senderSetupComplete <;> cases allow <;> simp [hs]

theorem resolveRoute_ses_iff {allow : Bool} (hacct : accountId.getD "" ≠ "") :
    (∃ result, resolveRoute reads accountId sender allow = .ok (.ses result)) ↔
      LacksExchange reads (extractAddress sender) ∧
        HasVerifiedDomain reads (extractAddress sender) := by
  unfold resolveRoute LacksExchange
  rw [if_neg hacct]
  dsimp only
  cases reads.getAlias (String.ofList (extractAddress sender)) with
  | error error => simp
  | ok aliasConfig =>
    simp only [Except.ok.injEq, exists_eq_left']
    generalize (aliasConfig.bind Alias.emxId).getD "" = emxId
    by_cases hemx : emxId = ""
    · simp [hemx, sesOrFallback_ses_iff]
    · cases hx : reads.getExternalExchange emxId with
      | error error => simp [hemx, hx]
      | ok exchange =>
        cases exchange with
        | none => simp [hemx, hx, sesOrFallback_ses_iff]
        | some emx =>
          by_cases hactive : emx.status = .active
          · simp [hemx, hx, hactive]
          · simp [hemx, hx, hactive, sesOrFallback_ses_iff]

/-- A message that goes out over SES as itself carries the address its route was found by. -/
theorem resolveRoute_ses_sender {allow : Bool} {result : List Char} (hacct : accountId.getD "" ≠ "")
    (h : resolveRoute reads accountId sender allow = .ok (.ses result)) :
    ∃ name, formatAddress ⟨String.ofList (extractAddress sender), name⟩ = result := by
  unfold resolveRoute at h
  rw [if_neg hacct] at h
  dsimp only at h
  split at h
  · cases h
  · split at h
    · exact ⟨_, (sesOrFallback_ses_iff.mp h).2⟩
    · split at h
      · cases h
      · exact ⟨_, (sesOrFallback_ses_iff.mp h).2⟩
      · split at h
        · cases h
        · exact ⟨_, (sesOrFallback_ses_iff.mp h).2⟩

end SesEmailAdapter.Notifier.ReplySender
