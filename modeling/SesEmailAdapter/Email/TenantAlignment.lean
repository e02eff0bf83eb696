import SesEmailAdapter.Email.SendPaths

/-! # Tenant alignment

Which of the options that a path hands to the mail service the tenant guard accepts, for every
customer that owns no domain of the platform. -/

namespace SesEmailAdapter.Email.TenantAlignment
open SesEmailAdapter.Types
open Database.Shared
open Email.Address Email.Service Email.SendPaths
open Notifier.ReplySender

/-! ## Platforms, customers and addresses -/

/-- A domain in the lower-case spelling the stores keep it in. -/
def IsHost (domain : List Char) : Prop :=
  ∀ c ∈ domain, c ≠ '@' ∧ c ≠ '>' ∧ isSpace c = false ∧ c.toLower = c

/-- The mail service as the composition root builds it. -/
structure Platform where
  service : EmailService
  mailDomain_isHost : IsHost service.mailDomain.toList
  sender_eq : service.sender = platformFromAddress .notifications service.mailDomain.toList

/-- A customer account with the rows its sends read. It owns no domain of the platform. -/
structure Customer (platform : Platform) where
  accountId : String
  reads : RoutingReads
  domains : Except DbError (List Domain)
  accountId_ne : accountId ≠ ""
  accountId_chars : ∀ c ∈ accountId.toList, c ≠ '@' ∧ c ≠ '>' ∧ isSpace c = false
  isCustomer : platform.service.isPlatformTenant accountId = false
  reads_foreign : ∀ name row, reads.getDomainByName name = .ok (some row) →
    IsHost name.toList ∧ platform.service.isOurDomain name.toList = false
  domains_foreign : ∀ rows, domains = .ok rows → ∀ row ∈ rows,
    IsHost row.domain.toList ∧ platform.service.isOurDomain row.domain.toList = false

/-- An address as the API and the receiving side accept it. -/
structure MailAddress where
  localPart : List Char
  domain : List Char
  localChars : ∀ c ∈ localPart, c ≠ '@' ∧ c ≠ '>' ∧ isSpace c = false
  domainChars : ∀ c ∈ domain, c ≠ '@' ∧ c ≠ '>' ∧ isSpace c = false

def MailAddress.text (a : MailAddress) : String := String.ofList (a.localPart ++ '@' :: a.domain)

def MailAddress.isOurs (a : MailAddress) (service : EmailService) : Bool :=
  service.isOurDomain (toLowerCase a.domain)

theorem MailAddress.toList_text (a : MailAddress) :
    a.text.toList = a.localPart ++ '@' :: a.domain := String.toList_ofList

theorem MailAddress.text_ne (a : MailAddress) : a.text ≠ "" := by
  intro h
  have hlist := a.toList_text
  rw [h] at hlist
  exact absurd hlist.symm (by simp)

theorem MailAddress.unclosed (a : MailAddress) : '>' ∉ a.text.toList := by
  intro hmem
  rw [a.toList_text, List.mem_append, List.mem_cons] at hmem
  rcases hmem with hmem | hmem | hmem
  · exact (a.localChars _ hmem).2.1 rfl
  · exact absurd hmem (by decide)
  · exact (a.domainChars _ hmem).2.1 rfl

theorem MailAddress.hasDomain (a : MailAddress) : HasDomain a.text.toList a.domain where
  shape := ⟨a.localPart, a.toList_text⟩
  unclosed := a.unclosed
  domainChars := fun c hc => ⟨(a.domainChars c hc).1, (a.domainChars c hc).2.2⟩

theorem MailAddress.trim_text (a : MailAddress) : trim a.text.toList = a.text.toList := by
  have hspace : ∀ c ∈ a.text.toList, isSpace c = false := by
    intro c hc
    rw [a.toList_text, List.mem_append, List.mem_cons] at hc
    rcases hc with hc | rfl | hc
    · exact (a.localChars c hc).2.2
    · decide
    · exact (a.domainChars c hc).2.2
  exact trim_eq_self hspace

variable {domain : List Char}

theorem IsHost.toLowerCase (h : IsHost domain) :
    Address.toLowerCase domain = domain := by
  rw [Address.toLowerCase]
  exact (List.map_congr_left fun c hc => (h c hc).2.2.2).trans (List.map_id' domain)

theorem IsHost.hasDomain {domain front : List Char} (h : IsHost domain) (hf : '>' ∉ front) :
    HasDomain (front ++ '@' :: domain) domain where
  shape := ⟨front, rfl⟩
  unclosed := by
    intro hmem
    rw [List.mem_append, List.mem_cons] at hmem
    rcases hmem with hmem | hmem | hmem
    · exact hf hmem
    · exact absurd hmem (by decide)
    · exact (h _ hmem).2.1 rfl
  domainChars := fun c hc => ⟨(h c hc).1, (h c hc).2.2.1⟩

theorem PlatformAlias.address_hasDomain (key : PlatformAlias)
    (h : IsHost domain) : HasDomain (key.address domain) domain := by
  have hkey : '>' ∉ key.localPart := by cases key <;> decide
  exact h.hasDomain hkey

theorem addressDomain_platformFromAddress (key : PlatformAlias)
    (h : IsHost domain) : addressDomain (platformFromAddress key domain).toList = domain := by
  rw [platformFromAddress, String.toList_ofList, addressDomain,
    ((PlatformAlias.address_hasDomain key h).extractAddress_mailbox _).afterLastAt, h.toLowerCase]

/-! ## What the guard accepts -/

def Accepted (service : EmailService) (opts : SendOptions) : Prop :=
  service.validateTenantDomainAlignment opts.accountId (opts.fromSender.getD service.sender) =
    .ok ()

variable {platform : Platform} {opts : SendOptions}

theorem isOurDomain_mailDomain (service : EmailService) :
    service.isOurDomain service.mailDomain.toList = true := by
  simp [EmailService.isOurDomain]

theorem isOurDomain_subdomain (service : EmailService) (front : List Char) :
    service.isOurDomain (front ++ '.' :: service.mailDomain.toList) = true := by
  rw [EmailService.isOurDomain, decide_eq_true_eq]
  exact .inr (List.isSuffixOf_iff_suffix.mpr (List.suffix_append _ _))

theorem isPlatformTenant_platform (service : EmailService) :
    service.isPlatformTenant service.platformTenantName = true := by
  simp [EmailService.isPlatformTenant]

/-- Options with a platform tenant are accepted just from a platform domain. -/
theorem accepted_platform_iff {service : EmailService} {sender : String} {fromDomain : List Char}
    (htenant : service.isPlatformTenant opts.accountId = true)
    (hfrom : opts.fromSender.getD service.sender = sender)
    (hdomain : addressDomain sender.toList = fromDomain) :
    Accepted service opts ↔ service.isOurDomain fromDomain = true := by
  rw [Accepted, EmailService.validate_eq_ok_iff, htenant, hfrom, hdomain]
  exact eq_comm

/-- Options with a customer tenant are accepted just from a foreign domain. -/
theorem accepted_customer_iff {service : EmailService} {sender : String} {fromDomain : List Char}
    (htenant : service.isPlatformTenant opts.accountId = false)
    (hfrom : opts.fromSender.getD service.sender = sender)
    (hdomain : addressDomain sender.toList = fromDomain) :
    Accepted service opts ↔ service.isOurDomain fromDomain = false := by
  rw [Accepted, EmailService.validate_eq_ok_iff, htenant, hfrom, hdomain]
  exact eq_comm

theorem addressDomain_sender (platform : Platform) :
    addressDomain platform.service.sender.toList = platform.service.mailDomain.toList := by
  rw [platform.sender_eq]
  exact addressDomain_platformFromAddress _ platform.mailDomain_isHost

/-- Platform notices go out from the platform domain under the platform tenant. -/
theorem accepted_of_platformFrom (key : PlatformAlias)
    (htenant : platform.service.isPlatformTenant opts.accountId = true)
    (hfrom : opts.fromSender =
      some (platformFromAddress key platform.service.mailDomain.toList)) :
    Accepted platform.service opts := by
  refine (accepted_platform_iff htenant ?_
    (addressDomain_platformFromAddress key platform.mailDomain_isHost)).mpr
      (isOurDomain_mailDomain _)
  rw [hfrom, Option.getD_some]

theorem mailbox_domain {address : List Char} (h : HasDomain address domain) (name : Option String) :
    addressDomain (mailbox ⟨String.ofList address, name⟩).toList = toLowerCase domain := by
  rw [← String.toList_ofList (l := address)] at h
  rw [mailbox, String.toList_ofList]
  exact addressDomain_formatAddress h

/-! ### Forwarded invites -/

theorem aliasLocalPart_text (a : MailAddress) : aliasLocalPart a.text.toList = a.localPart := by
  have hat : ∀ c ∈ a.domain.reverse, decide (c ≠ '@') = true := fun c hc =>
    decide_eq_true (a.domainChars c (List.mem_reverse.mp hc)).1
  rw [a.toList_text, aliasLocalPart, if_pos (by simp),
    List.reverse_append, List.reverse_cons, List.append_assoc,
    List.dropWhile_append_of_pos hat, List.singleton_append,
    List.dropWhile_cons_of_neg (by decide), List.tail_cons, List.reverse_reverse]

theorem proxyAddress_hasDomain (customer : Customer platform) (a : MailAddress) :
    HasDomain (proxyAddress platform.service customer.accountId a.text.toList)
      (customer.accountId.toList ++ '.' :: platform.service.mailDomain.toList) := by
  rw [proxyAddress, aliasLocalPart_text]
  have hdomain : ∀ c ∈ customer.accountId.toList ++ '.' :: platform.service.mailDomain.toList,
      c ≠ '@' ∧ c ≠ '>' ∧ isSpace c = false := by
    intro c hc
    rw [List.mem_append, List.mem_cons] at hc
    rcases hc with hc | rfl | hc
    · exact customer.accountId_chars c hc
    · decide
    · obtain ⟨hat, hclose, hspace, -⟩ := platform.mailDomain_isHost c hc
      exact ⟨hat, hclose, hspace⟩
  refine ⟨⟨a.localPart, rfl⟩, fun hmem => ?_, fun c hc => ⟨(hdomain c hc).1, (hdomain c hc).2.2⟩⟩
  rw [List.mem_append, List.mem_cons] at hmem
  rcases hmem with hmem | hmem | hmem
  · exact (a.localChars _ hmem).2.1 rfl
  · exact absurd hmem (by decide)
  · exact (hdomain _ hmem).2.1 rfl

theorem forwardInvite_accepted (customer : Customer platform) {calendarData : CalendarEventData}
    {calendarForwardingAddress : String} {a : MailAddress}
    (h : forwardInvite platform.service calendarData calendarForwardingAddress
      customer.accountId a.text = some opts) : Accepted platform.service opts := by
  have hproxy := proxyAddress_hasDomain customer a
  unfold forwardInvite at h
  split at h
  · cases h
  · have hopts := Option.some.inj h
    have htenant : opts.accountId = platform.service.platformTenantName := by rw [← hopts]
    have hfrom : opts.fromSender = some (mailbox
        ⟨String.ofList (proxyAddress platform.service customer.accountId a.text.toList),
          some (calendarData.organizerCn.getD calendarData.organizer)⟩) := by rw [← hopts]
    refine (accepted_platform_iff (htenant ▸ isPlatformTenant_platform _)
      (by rw [hfrom, Option.getD_some]) (mailbox_domain hproxy _)).mpr ?_
    have hlower : toLowerCase
        (customer.accountId.toList ++ '.' :: platform.service.mailDomain.toList) =
        toLowerCase customer.accountId.toList ++ '.' :: platform.service.mailDomain.toList := by
      rw [toLowerCase, List.map_append, List.map_cons]
      exact congrArg (_ ++ '.' :: ·) platform.mailDomain_isHost.toLowerCase
    rw [hlower]
    exact isOurDomain_subdomain _ _

/-! ### Replies -/

/-- What the router reads from the sender of a message, its display name included. -/
def senderRead (sender : EmailAddress) : List Char := extractAddress (formatAddress sender)

/-- A message of the platform's domain that the router sends over SES as itself. -/
def MisreadsSender (service : EmailService) (reads : RoutingReads) (sender : EmailAddress)
    (domain : List Char) (hopCount : Option Nat) : Prop :=
  service.isOurDomain (toLowerCase domain) = true ∧ hopCount.getD 0 + 1 ≤ maxHopCount ∧
    LacksExchange reads (senderRead sender) ∧ HasVerifiedDomain reads (senderRead sender)

theorem sendReply_accepted_iff (customer : Customer platform) (reply : ReplyOptions)
    (hacct : reply.accountId = some customer.accountId)
    (hdomain : HasDomain reply.sender.address.toList domain) :
    (∀ opts, sendReply platform.service customer.reads reply = .ok (some opts) →
        Accepted platform.service opts) ↔
      ¬ MisreadsSender platform.service customer.reads reply.sender domain reply.hopCount := by
  have hne : reply.accountId.getD "" ≠ "" := by rw [hacct]; exact customer.accountId_ne
  have hses := @resolveRoute_ses_iff customer.reads reply.accountId (formatAddress reply.sender)
    reply.allowFallbackToPlatformSending hne
  unfold sendReply MisreadsSender
  by_cases hhop : reply.hopCount.getD 0 + 1 > maxHopCount
  · rw [if_pos hhop]
    exact iff_of_true (fun _ hopts => by cases hopts) fun h => absurd h.2.1 (by omega)
  · rw [senderRead, ← hses]
    simp only [hhop, if_false]
    cases hroute : resolveRoute customer.reads reply.accountId (formatAddress reply.sender)
        reply.allowFallbackToPlatformSending with
    | error error => simp
    | ok route =>
      cases route with
      | provider exchange sender => simp
      | platform =>
        have hours : platform.service.isOurDomain
            (toLowerCase platform.service.mailDomain.toList) = true := by
          rw [platform.mailDomain_isHost.toLowerCase]
          exact isOurDomain_mailDomain _
        refine iff_of_true (fun opts hopts => ?_) (by simp)
        have hopts := Option.some.inj (Except.ok.inj hopts)
        have htenant : platform.service.isPlatformTenant opts.accountId = true := by
          rw [← hopts]
          exact isPlatformTenant_platform _
        have hfrom : opts.fromSender = some (mailbox ⟨String.ofList
            (PlatformAlias.notifications.address platform.service.mailDomain.toList),
            some PlatformAlias.notifications.name⟩) := by
          rw [← hopts]
          rfl
        exact (accepted_platform_iff htenant (by rw [hfrom, Option.getD_some])
          (mailbox_domain (PlatformAlias.address_hasDomain _ platform.mailDomain_isHost) _)).mpr
            hours
      | ses sender =>
        obtain ⟨name, hname⟩ := resolveRoute_ses_sender hne hroute
        have hsender := mailbox_domain (extractAddress_formatAddress hdomain) name
        rw [toLowerCase_toLowerCase, mailbox, hname] at hsender
        simp only [Except.ok.injEq, Option.some.injEq, forall_eq', hacct, Option.getD_some]
        have hsent : ∀ toAddresses cc bcc sendType, Accepted platform.service
            ⟨toAddresses, cc, bcc, sendType, some (String.ofList sender), customer.accountId⟩ ↔
              platform.service.isOurDomain (toLowerCase domain) = false :=
          fun _ _ _ _ => accepted_customer_iff customer.isCustomer rfl hsender
        rw [hsent]
        have hle : reply.hopCount.getD 0 + 1 ≤ maxHopCount := Nat.le_of_not_lt hhop
        simp [hle]

theorem MailAddress.at_not_mem (a : MailAddress) : '@' ∉ a.localPart ∧ '@' ∉ a.domain :=
  ⟨fun h => (a.localChars _ h).1 rfl, fun h => (a.domainChars _ h).1 rfl⟩

/-- A sender without a display name is read as it is written. -/
theorem senderRead_text (a : MailAddress) :
    senderRead ⟨a.text, none⟩ = toLowerCase a.text.toList := by
  rw [senderRead, formatAddress_bare, a.trim_text, extractAddress, a.trim_text,
    bracketed_eq_none a.unclosed, Option.getD_none, a.trim_text]

theorem not_misreadsSender (customer : Customer platform) (a : MailAddress)
    (hopCount : Option Nat) :
    ¬ MisreadsSender platform.service customer.reads ⟨a.text, none⟩ a.domain hopCount := by
  rintro ⟨hours, -, -, row, hrow, -⟩
  have hread : afterFirstAt (senderRead ⟨a.text, none⟩) = toLowerCase a.domain := by
    have hsplit : toLowerCase a.text.toList =
        toLowerCase a.localPart ++ '@' :: toLowerCase a.domain := by
      rw [a.toList_text, toLowerCase, List.map_append, List.map_cons]
      rfl
    rw [senderRead_text, hsplit]
    exact afterFirstAt_append (not_mem_toLowerCase (by decide) a.at_not_mem.1)
      (not_mem_toLowerCase (by decide) a.at_not_mem.2)
  rw [hread] at hrow
  have hforeign := (customer.reads_foreign _ row hrow).2
  rw [String.toList_ofList, hours] at hforeign
  cases hforeign

/-! ## All paths -/

/-- A use of the mail service on behalf of a customer, with what it reads on the way. -/
inductive SendPath
  | forward (target : Except DbError (Option ForwardingTarget)) (original : Except DbError Unit)
  | verification (target : ForwardingTarget)
  | forwardInvite (calendarData : CalendarEventData) (calendarForwardingAddress : String)
      (aliasAddress : MailAddress)
  | rsvpFromApi (invite : CalendarEventData) (cancelled : Bool) (recipientAddress : MailAddress)
  | rsvpFromReply (invite : CalendarEventData) (cancelled : Bool) (aliasAddress : MailAddress)
  | draftSend (data : OutboundEmailSignalData) (sender : MailAddress) (name : Option String)
      (hopCount : Option Nat)
  | pong (data : InboundEmailSignalData) (recipientAddress : MailAddress) (hopCount : Option Nat)
  | platformNotice (sendType : EmailSendType) (toAddress : String)
  | healthcheck (recipient : String)
  | digest (toAddress : String)

/-- What a path hands to the mail service, if it gets that far. -/
def SendPath.handsOver (platform : Platform) (customer : Customer platform) :
    SendPath → Option SendOptions
  | .forward target original =>
    (SendPaths.forward target original customer.accountId).toOption.join
  | .verification target => sendVerification platform.service target
  | .forwardInvite calendarData calendarForwardingAddress aliasAddress =>
    SendPaths.forwardInvite platform.service calendarData calendarForwardingAddress
      customer.accountId aliasAddress.text
  | .rsvpFromApi invite cancelled recipientAddress =>
    SendPaths.rsvpFromApi customer.reads invite cancelled recipientAddress.text customer.accountId
  | .rsvpFromReply invite cancelled aliasAddress =>
    SendPaths.rsvpFromReply invite cancelled aliasAddress.text customer.accountId
  | .draftSend data sender name hopCount =>
    (sendReply platform.service customer.reads
      (draftReply { data with sender := ⟨sender.text, name⟩ } hopCount
        customer.accountId)).toOption.join
  | .pong data recipientAddress hopCount =>
    (sendReply platform.service customer.reads
      (pongReply { data with recipientAddress := recipientAddress.text } hopCount
        customer.accountId)).toOption.join
  | .platformNotice sendType toAddress =>
    some (SendPaths.platformNotice platform.service sendType toAddress)
  | .healthcheck recipient => some (SendPaths.healthcheck recipient)
  | .digest toAddress =>
    some (SendPaths.digest platform.service customer.domains toAddress customer.accountId)

/-- Whatever the path hands over, the tenant guard accepts. -/
def SendPath.Aligned (platform : Platform) (customer : Customer platform) (path : SendPath) : Prop :=
  ∀ opts, path.handsOver platform customer = some opts → Accepted platform.service opts

/-- The path forwards an original mail to a verified email address. -/
def SendPath.ForwardsMail : SendPath → Prop
  | .forward target original =>
    original = .ok () ∧ ∃ t, target = .ok (some t) ∧ t.status = .verified ∧ t.type = .email
  | _ => False

/-- The path relays an RSVP from an alias on the platform's own domain. -/
def SendPath.RelaysPlatformAlias (platform : Platform) : SendPath → Prop
  | .rsvpFromReply invite cancelled aliasAddress =>
    isRelayed invite cancelled = true ∧ aliasAddress.isOurs platform.service = true
  | _ => False

/-- The path sends a draft from the platform's own domain, in whose display name the router reads
an address on a verified domain. -/
def SendPath.MisreadsDraft (platform : Platform) (customer : Customer platform) : SendPath → Prop
  | .draftSend _ sender name hopCount =>
    MisreadsSender platform.service customer.reads ⟨sender.text, name⟩ sender.domain hopCount
  | _ => False

theorem join_toOption_eq_some_iff {ε α : Type} {x : Except ε (Option α)} {a : α} :
    x.toOption.join = some a ↔ x = .ok (some a) := by
  cases x with
  | error e => simp [Except.toOption]
  | ok o => simp [Except.toOption]

theorem forward_eq_ok_iff {target : Except DbError (Option ForwardingTarget)}
    {original : Except DbError Unit} {accountId : String} :
    forward target original accountId = .ok (some opts) ↔
      original = .ok () ∧ ∃ t, target = .ok (some t) ∧ t.status = .verified ∧ t.type = .email ∧
        forwardEmail t.target accountId = opts := by
  cases target with
  | error e => simp [forward, bind, Except.bind]
  | ok found =>
    cases found with
    | none => simp [forward, bind, Except.bind, pure, Except.pure]
    | some t =>
      obtain ⟨toAddress, type, status⟩ := t
      cases status <;> cases type <;> cases original <;>
        simp [forward, bind, Except.bind, pure, Except.pure]

variable (customer : Customer platform)

theorem forward_aligned_iff (target : Except DbError (Option ForwardingTarget))
    (original : Except DbError Unit) :
    (SendPath.forward target original).Aligned platform customer ↔
      ¬ (SendPath.forward target original).ForwardsMail := by
  have hrejected : ∀ toAddress, ¬ Accepted platform.service
      (forwardEmail toAddress customer.accountId) := by
    intro toAddress haccepted
    have hiff : Accepted platform.service (forwardEmail toAddress customer.accountId) ↔
        platform.service.isOurDomain platform.service.mailDomain.toList = false :=
      accepted_customer_iff customer.isCustomer rfl (addressDomain_sender platform)
    rw [hiff, isOurDomain_mailDomain] at haccepted
    cases haccepted
  constructor
  · rintro haligned ⟨horiginal, t, htarget, hstatus, htype⟩
    exact hrejected t.target (haligned _ (join_toOption_eq_some_iff.mpr
      (forward_eq_ok_iff.mpr ⟨horiginal, t, htarget, hstatus, htype, rfl⟩)))
  · intro hnot opts hopts
    obtain ⟨horiginal, t, htarget, hstatus, htype, -⟩ :=
      forward_eq_ok_iff.mp (join_toOption_eq_some_iff.mp hopts)
    exact absurd ⟨horiginal, t, htarget, hstatus, htype⟩ hnot

/-! ### RSVPs -/

/-- An RSVP is accepted unless it goes out from the platform's own domain. -/
theorem sendRsvpToOrganizer_accepted_iff (invite : CalendarEventData) (cancelled : Bool)
    (a : MailAddress) :
    (∀ opts, sendRsvpToOrganizer invite cancelled a.text customer.accountId = some opts →
        Accepted platform.service opts) ↔
      ¬ (isRelayed invite cancelled = true ∧ a.isOurs platform.service = true) := by
  have hdomain : addressDomain a.text.toList = toLowerCase a.domain :=
    a.hasDomain.extractAddress.afterLastAt
  have hsent : Accepted platform.service
      ⟨[invite.organizer], [], [], .calendarRsvp, some a.text, customer.accountId⟩ ↔
        a.isOurs platform.service = false :=
    accepted_customer_iff customer.isCustomer rfl hdomain
  unfold sendRsvpToOrganizer
  cases isRelayed invite cancelled
  · simp
  · simp [hsent]

theorem rsvpFromReply_aligned_iff (invite : CalendarEventData) (cancelled : Bool)
    (a : MailAddress) :
    (SendPath.rsvpFromReply invite cancelled a).Aligned platform customer ↔
      ¬ (SendPath.rsvpFromReply invite cancelled a).RelaysPlatformAlias platform := by
  refine Iff.trans ?_ (sendRsvpToOrganizer_accepted_iff customer invite cancelled a)
  simp only [SendPath.Aligned, SendPath.handsOver, rsvpFromReply, if_neg a.text_ne]

theorem rsvpFromApi_aligned (invite : CalendarEventData) (cancelled : Bool) (a : MailAddress) :
    (SendPath.rsvpFromApi invite cancelled a).Aligned platform customer := by
  intro opts hopts
  simp only [SendPath.handsOver, SendPaths.rsvpFromApi, if_neg a.text_ne, a.toList_text,
    afterFirstAt_append a.at_not_mem.1 a.at_not_mem.2] at hopts
  split at hopts
  · next row hrow =>
    obtain ⟨hhost, hforeign⟩ := customer.reads_foreign _ row hrow
    rw [String.toList_ofList] at hhost hforeign
    rw [← hhost.toLowerCase] at hforeign
    split at hopts
    · refine (sendRsvpToOrganizer_accepted_iff customer invite cancelled a).mpr ?_ opts hopts
      rintro ⟨-, hours⟩
      rw [MailAddress.isOurs, hforeign] at hours
      cases hours
    · cases hopts
  · cases hopts

/-! ### Notices and digests -/

theorem verification_aligned (target : ForwardingTarget) :
    (SendPath.verification target).Aligned platform customer := by
  intro opts hopts
  simp only [SendPath.handsOver, sendVerification] at hopts
  split at hopts
  · cases hopts
  · have hopts := Option.some.inj hopts
    have htenant : platform.service.isPlatformTenant opts.accountId = true := by
      rw [← hopts]
      exact isPlatformTenant_platform _
    exact accepted_of_platformFrom .notifications htenant (by rw [← hopts]; rfl)

theorem platformNotice_aligned (sendType : EmailSendType) (toAddress : String) :
    (SendPath.platformNotice sendType toAddress).Aligned platform customer := by
  intro opts hopts
  have hopts := Option.some.inj hopts
  have htenant : platform.service.isPlatformTenant opts.accountId = true := by
    rw [← hopts]
    exact isPlatformTenant_platform _
  exact accepted_of_platformFrom .notifications htenant (by rw [← hopts]; rfl)

theorem healthcheck_aligned (recipient : String) :
    (SendPath.healthcheck recipient).Aligned platform customer := by
  intro opts hopts
  have hopts := Option.some.inj hopts
  have htenant : platform.service.isPlatformTenant opts.accountId = true := by
    rw [← hopts]
    exact decide_eq_true (.inr rfl)
  have hfrom : opts.fromSender.getD platform.service.sender = platform.service.sender := by
    rw [← hopts]
    rfl
  exact (accepted_platform_iff htenant hfrom (addressDomain_sender platform)).mpr
    (isOurDomain_mailDomain _)

theorem digest_aligned (toAddress : String) :
    (SendPath.digest toAddress).Aligned platform customer := by
  intro opts hopts
  have hopts := Option.some.inj hopts
  unfold SendPaths.digest at hopts
  extract_lets senderDomain fromDomain at hopts
  cases hfound : senderDomain with
  | none =>
    have htenant : platform.service.isPlatformTenant opts.accountId = true := by
      rw [← hopts, hfound]
      exact isPlatformTenant_platform _
    have hfrom : opts.fromSender =
        some (platformFromAddress .digest platform.service.mailDomain.toList) := by
      rw [← hopts]
      simp only [fromDomain, hfound, Option.map_none, Option.getD_none]
    exact accepted_of_platformFrom .digest htenant hfrom
  | some row =>
    have hrow : ∃ rows, customer.domains = .ok rows ∧ row ∈ rows := by
      simp only [senderDomain] at hfound
      split at hfound
      · next rows hrows => exact ⟨rows, hrows, List.mem_of_find?_eq_some hfound⟩
      · cases hfound
    obtain ⟨rows, hrows, hmem⟩ := hrow
    obtain ⟨hhost, hforeign⟩ := customer.domains_foreign rows hrows row hmem
    have htenant : platform.service.isPlatformTenant opts.accountId = false := by
      rw [← hopts, hfound]
      exact customer.isCustomer
    have hfrom : opts.fromSender.getD platform.service.sender =
        platformFromAddress .digest row.domain.toList := by
      rw [← hopts]
      simp only [fromDomain, hfound, Option.map_some, Option.getD_some]
    exact (accepted_customer_iff htenant hfrom
      (addressDomain_platformFromAddress .digest hhost)).mpr hforeign

/-- **Which sends the guard accepts.** For every customer and every path, the guard accepts what
the path hands over unless it forwards an original mail, relays an RSVP from an alias on the
platform's domain, or sends a draft of that domain whose display name is read as an address. -/
theorem aligned_iff (path : SendPath) :
    path.Aligned platform customer ↔
      ¬ path.ForwardsMail ∧ ¬ path.RelaysPlatformAlias platform ∧
        ¬ path.MisreadsDraft platform customer := by
  have hnone : ¬ False ∧ ¬ False ∧ ¬ False := ⟨id, id, id⟩
  cases path with
  | forward target original =>
    exact (forward_aligned_iff customer target original).trans
      ⟨fun h => ⟨h, fun hr => hr, fun hm => hm⟩, fun h => h.1⟩
  | verification target =>
    exact iff_of_true (verification_aligned customer target) hnone
  | forwardInvite calendarData calendarForwardingAddress aliasAddress =>
    exact iff_of_true (fun opts hopts => forwardInvite_accepted customer hopts)
      hnone
  | rsvpFromApi invite cancelled recipientAddress =>
    exact iff_of_true (rsvpFromApi_aligned customer invite cancelled recipientAddress)
      hnone
  | rsvpFromReply invite cancelled aliasAddress =>
    exact (rsvpFromReply_aligned_iff customer invite cancelled aliasAddress).trans
      ⟨fun h => ⟨fun hf => hf, h, fun hm => hm⟩, fun h => h.2.1⟩
  | draftSend data sender name hopCount =>
    have hsend := sendReply_accepted_iff customer
      (draftReply { data with sender := ⟨sender.text, name⟩ } hopCount customer.accountId) rfl
      sender.hasDomain
    exact (forall_congr' fun opts => imp_congr_left join_toOption_eq_some_iff).trans
      (hsend.trans ⟨fun h => ⟨fun hf => hf, fun hr => hr, h⟩, fun h => h.2.2⟩)
  | pong data recipientAddress hopCount =>
    have hsend := sendReply_accepted_iff customer
      (pongReply { data with recipientAddress := recipientAddress.text } hopCount
        customer.accountId) rfl recipientAddress.hasDomain
    have haccepted := hsend.mpr (not_misreadsSender customer recipientAddress hopCount)
    exact iff_of_true (fun opts hopts => haccepted opts (join_toOption_eq_some_iff.mp hopts))
      hnone
  | platformNotice sendType toAddress =>
    exact iff_of_true (platformNotice_aligned customer sendType toAddress)
      hnone
  | healthcheck recipient =>
    exact iff_of_true (healthcheck_aligned customer recipient) hnone
  | digest toAddress =>
    exact iff_of_true (digest_aligned customer toAddress) hnone

/-! ## A forward that is always refused -/

def testPlatform : Platform where
  service := {
    sender := platformFromAddress .notifications "mail.test".toList
    platformTenantName := "mail-platform"
    mailDomain := "mail.test" }
  mailDomain_isHost := forall_mem_of_all (by decide)
  sender_eq := rfl

def testCustomer : Customer testPlatform where
  accountId := "acc-1"
  reads := ⟨fun _ => .ok none, fun _ => .ok none, fun _ => .ok none⟩
  domains := .ok []
  accountId_ne := by decide
  accountId_chars := forall_mem_of_all (by decide)
  isCustomer := by decide
  reads_foreign := by
    intro name row h
    cases h
  domains_foreign := by
    intro rows h row hrow
    cases h
    cases hrow

def verifiedForward : SendPath :=
  .forward (.ok (some ⟨"me@home.test", .email, .verified⟩)) (.ok ())

/-- A verified email target never receives a forward: the guard refuses the send. -/
theorem verifiedForward_refused :
    ¬ verifiedForward.Aligned testPlatform testCustomer ∧
      testPlatform.service.send (forwardEmail "me@home.test" "acc-1") = .error ⟨"accountId",
        "Customer tenant \"acc-1\" cannot send from platform domain \"mail.test\" — use the " ++
          "platform tenant."⟩ := by
  refine ⟨fun haligned => ?_, by decide +kernel⟩
  exact (forward_aligned_iff testCustomer _ _).mp haligned ⟨rfl, _, rfl, rfl, rfl⟩

end SesEmailAdapter.Email.TenantAlignment
