import SesEmailAdapter.Email.MimeBuilder
import SesEmailAdapter.Notifier.SendRoutes

/-! # Send envelopes

What leaves with a message on each route, and who is named to the transport. SES takes the
recipients beside the message; the mail providers read them from its fields and take the blind
copies out; SMTP takes those of its envelope and sends the message as it is. -/

namespace SesEmailAdapter.Notifier.SendEnvelopes
open SesEmailAdapter.Types
open Lib Lib.MessageFormat
open Email.Address Email.Service Email.MimeBuilder
open Notifier.ReplySender Notifier.SendRoutes

/-! ## The message -/

/-- What a message says. -/
structure ReplyContent where
  subject : List Char
  body : List Char
  inReplyTo : Option (List Char)
  autoSubmitted : Bool
  attachments : List MimeAttachment

structure Env where
  service : EmailService
  reads : RoutingReads
  platform : ExternalMailExchange → EmxPlatform
  renderMarkdownToHtml : List Char → List Char
  mime : MimeEnv

/-- What follows a mark such as `Re:` or `Fwd:`, in any case. -/
def afterMark (text : List Char) : Option (List Char) :=
  let rest := match text with
    | a :: b :: rest =>
      if a.toLower = 'r' ∧ b.toLower = 'e' then some rest
      else if a.toLower = 'f' ∧ b.toLower = 'w' then
        some (if rest.head?.map Char.toLower = some 'd' then rest.tail else rest)
      else none
    | _ => none
  rest.bind fun rest => match rest.dropWhile isSpace with
    | ':' :: rest => some (rest.dropWhile isSpace)
    | _ => none

def dropMarks : Nat → List Char → List Char
  | 0, text => text
  | n + 1, text => match afterMark text with
    | some rest => dropMarks n rest
    | none => text

/-- White space in front is dropped only along with a mark. -/
def buildReplySubject (subject : List Char) : List Char :=
  "Re: ".toList ++ match afterMark (subject.dropWhile isSpace) with
    | some rest => dropMarks rest.length rest
    | none => subject

def replyHeaders (content : ReplyContent) (hopCount : Nat) : List Field :=
  let inReplyTo := content.inReplyTo.getD []
  (if inReplyTo = [] then []
    else [("In-Reply-To".toList, inReplyTo), ("References".toList, inReplyTo)]) ++
  [("X-Numaeel-Hop-Count".toList, (toString hopCount).toList)] ++
  if content.autoSubmitted then [("Auto-Submitted".toList, "auto-replied".toList)] else []

def addressList (addresses : List EmailAddress) : List Char :=
  joinAddresses (addresses.map formatAddress)

def mimeOptions (env : Env) (opts : ReplyOptions) (content : ReplyContent) (sender : List Char) :
    MimeMessageOptions where
  sender := sender
  toAddresses := addressList opts.toAddresses
  cc := addressList opts.cc
  bcc := addressList opts.bcc
  subject := buildReplySubject content.subject
  textBody := content.body
  htmlBody := env.renderMarkdownToHtml content.body
  calendar := none
  headers := replyHeaders content (opts.hopCount.getD 0 + 1)
  attachments := content.attachments

/-! ## Submissions -/

/-- A message as it is handed to a transport. -/
inductive Submission
  | ses (command : SendEmailCommand) (raw : List Char)
  /-- Gmail, Graph and JMAP -/
  | byFields (raw : List Char)
  | smtp (envelope : List (List Char)) (raw : List Char)

/-- `adapter.sendMessage`: nothing but the message goes to SMTP. -/
def sendMessage (platform : EmxPlatform) (raw : List Char) : Submission :=
  match platform with
  | .gmail | .outlook | .jmap => .byFields raw
  | .imap => .smtp [] raw

/-- What leaves for a message; none where its route or the mail service refuses it. -/
def submission (env : Env) (opts : ReplyOptions) (content : ReplyContent) : Option Submission :=
  match sendRoute env.service env.reads opts with
  | .error _ => none
  | .ok (.exchange emx sender) =>
    some (sendMessage (env.platform emx)
      (buildMimeMessage env.mime (mimeOptions env opts content sender)))
  | .ok (.ses sendOptions) => match env.service.send sendOptions with
    | .error _ => none
    | .ok command =>
      -- blind copies stand in the command only
      some (.ses command (buildMimeMessage env.mime (withoutBcc
        (mimeOptions env opts content (sendOptions.fromSender.getD "").toList))))

def recipientNames : List (List Char) := ["to".toList, "cc".toList, "bcc".toList]

local instance lawfulBEq_name : LawfulBEq (List Char) := inferInstance

/-- The recipients that the fields of a message name. -/
def fieldRecipients (reader : MailboxReader) (raw : List Char) : List (List Char) :=
  ((headerFields raw).filter fun f => f.1 ∈ recipientNames).flatMap fun f => reader.read f.2

def Submission.recipients (reader : MailboxReader) : Submission → List (List Char)
  | .ses command _ => (command.toAddresses ++ command.cc ++ command.bcc).flatMap fun text =>
    reader.read text.toList
  | .byFields raw => fieldRecipients reader raw
  | .smtp envelope _ => envelope

/-- What the recipients receive. -/
def Submission.received : Submission → List Char
  | .ses _ raw => raw
  | .byFields raw => withoutField "bcc".toList raw
  | .smtp _ raw => raw

/-- Transports read mailboxes, and accept or refuse a message for reasons of their own. -/
structure Transports where
  reader : MailboxReader
  connects : Submission → Bool
  accepts : Submission → Bool

inductive Outcome
  | delivered (recipients : List (List Char)) (received : List Char)
  | noRecipients
  | refused

def Transports.hand (transports : Transports) (s : Submission) : Outcome :=
  if ¬ transports.connects s then .refused
  else if s.recipients transports.reader = [] then .noRecipients
  else if transports.accepts s then
    .delivered (s.recipients transports.reader) s.received
  else .refused

/-! ## Delivery to the recipients -/

/-- At least one recipient, and only addresses. -/
structure Addressed (opts : ReplyOptions) : Prop where
  nonempty : opts.toAddresses ≠ []
  valid : ∀ a ∈ opts.toAddresses ++ opts.cc ++ opts.bcc, IsAddress a.address.toList

def withoutBlindCopies (opts : ReplyOptions) : ReplyOptions := { opts with bcc := [] }

def texts (addresses : List EmailAddress) : List (List Char) :=
  addresses.map fun a => a.address.toList

/-- Each recipient is reached and nobody else, and what they receive has no field of blind copies,
names those of the other fields only, and is what would be sent without any blind copies. -/
structure Delivers (env : Env) (opts : ReplyOptions) (content : ReplyContent)
    (reader : MailboxReader) (recipients : List (List Char)) (received : List Char) : Prop where
  exact : ∀ address, address ∈ recipients ↔
    address ∈ texts (opts.toAddresses ++ opts.cc ++ opts.bcc)
  noField : ∀ f ∈ headerFields received, f.1 ≠ "bcc".toList
  named : ∀ address ∈ fieldRecipients reader received,
    address ∈ texts (opts.toAddresses ++ opts.cc)
  blind : (submission env (withoutBlindCopies opts) content).map Submission.received =
    some received

/-- Whatever the transports do: a message they accept is delivered, and none is refused for lack of
recipients. -/
def ReachesRecipients (env : Env) (opts : ReplyOptions) (content : ReplyContent) : Prop :=
  ∀ (transports : Transports) (s : Submission), submission env opts content = some s →
    transports.hand s ≠ .noRecipients ∧
      ∀ recipients received, transports.hand s = .delivered recipients received →
        Delivers env opts content transports.reader recipients received

/-- The exchange behind the address of the sender is active and of platform IMAP. -/
def SendsOverImap (env : Env) (opts : ReplyOptions) : Prop :=
  opts.hopCount.getD 0 < maxHopCount ∧ opts.accountId.getD "" ≠ "" ∧
    ∃ aliasConfig emx,
      env.reads.getAlias (String.ofList (extractAddress (formatAddress opts.sender))) =
        .ok (some aliasConfig) ∧
      aliasConfig.emxId.getD "" ≠ "" ∧
      env.reads.getExternalExchange (aliasConfig.emxId.getD "") = .ok (some emx) ∧
      emx.status = .active ∧ env.platform emx = .imap

/-! ## Mailboxes of a message -/

theorem plainHeader_replyHeaders (content : ReplyContent) (hopCount : Nat) :
    ∀ header ∈ replyHeaders content hopCount, PlainHeader header := by
  have hplain {name value : List Char} (hname : ':' ∉ sanitizeHeaderValue name)
      (hunaddressed : (sanitizeHeaderValue name).map Char.toLower ∉
        ["to".toList, "cc".toList, "bcc".toList]) : PlainHeader (name, value) :=
    ⟨hname, hunaddressed⟩
  unfold replyHeaders
  simp only [List.forall_mem_append]
  refine ⟨⟨?_, ?_⟩, ?_⟩
  · intro header hheader
    split at hheader
    · cases hheader
    · obtain rfl | hheader := List.mem_cons.mp hheader
      · exact hplain (by decide +kernel) (by decide +kernel)
      · rw [List.mem_singleton.mp hheader]
        exact hplain (by decide +kernel) (by decide +kernel)
  · intro header hheader
    rw [List.mem_singleton.mp hheader]
    exact hplain (by decide +kernel) (by decide +kernel)
  · intro header hheader
    split at hheader
    · rw [List.mem_singleton.mp hheader]
      exact hplain (by decide +kernel) (by decide +kernel)
    · cases hheader

variable {addresses : List EmailAddress}

/-- Addresses are read back from their list. -/
theorem read_addressList (reader : MailboxReader)
    (hvalid : ∀ a ∈ addresses, IsAddress a.address.toList) :
    reader.read (addressList addresses) = texts addresses := by
  have hreads := reader.reads (addresses.map fun a => (a.address.toList, formatAddress a))
    fun mailbox hmem => by
      obtain ⟨a, ha, rfl⟩ := List.mem_map.mp hmem
      exact ⟨hvalid a ha, (formatAddress_mailbox (hvalid a ha)).1⟩
  rw [List.map_map, List.map_map] at hreads
  exact hreads

theorem entry_addressList (hne : addresses ≠ [])
    (hvalid : ∀ a ∈ addresses, IsAddress a.address.toList) : Entry (addressList addresses) := by
  refine Entry.join (fun hnil => hne (List.map_eq_nil_iff.mp hnil)) fun entry hentry => ?_
  obtain ⟨a, ha, rfl⟩ := List.mem_map.mp hentry
  exact (formatAddress_mailbox (hvalid a ha)).2

theorem read_addressField (reader : MailboxReader) (name : List Char)
    (hvalid : ∀ a ∈ addresses, IsAddress a.address.toList) :
    (addressField name (addressList addresses)).flatMap (fun f => reader.read f.2) =
      texts addresses := by
  by_cases hne : addresses = []
  · rw [hne]
    rfl
  · have hentry := entry_addressList hne hvalid
    obtain ⟨c, rest, hfirst, -⟩ := hentry.first
    have hfield : addressList addresses ≠ [] := by simp [hfirst]
    rw [addressField, if_neg hfield, hentry.encodeAddressList]
    simp [read_addressList reader hvalid]

theorem fieldRecipients_fields (reader : MailboxReader) {fields : List Field}
    (h : ∀ f ∈ fields, f.Sound) (body : List Char) :
    fieldRecipients reader (fieldsMessage fields body) =
      (fields.filter fun f => f.1.map Char.toLower ∈ recipientNames).flatMap
        fun f => reader.read f.2 := by
  rw [fieldRecipients, headerFields_message h, List.filter_map, List.flatMap_map]
  rfl

theorem filter_addressField_recipients {name : List Char} (value : List Char)
    (hname : name.map Char.toLower ∈ recipientNames) :
    (addressField name value).filter (fun f => f.1.map Char.toLower ∈ recipientNames) =
      addressField name value := by
  unfold addressField
  split
  · rfl
  · simp [hname]

variable {env : Env} {opts : ReplyOptions} {content : ReplyContent}

theorem Addressed.without (h : Addressed opts) : Addressed (withoutBlindCopies opts) := by
  refine ⟨h.nonempty, fun a ha => h.valid a ?_⟩
  simp only [withoutBlindCopies, List.append_nil] at ha
  exact List.mem_append_left _ ha

/-- The fields of a message name its recipients. -/
theorem fieldRecipients_message (reader : MailboxReader) (sender : List Char)
    (h : Addressed opts) :
    fieldRecipients reader (buildMimeMessage env.mime (mimeOptions env opts content sender)) =
      texts (opts.toAddresses ++ opts.cc ++ opts.bcc) := by
  have hheaders := plainHeader_replyHeaders content (opts.hopCount.getD 0 + 1)
  obtain ⟨⟨hto, hcc⟩, hbcc⟩ : ((∀ a ∈ opts.toAddresses, IsAddress a.address.toList) ∧
      ∀ a ∈ opts.cc, IsAddress a.address.toList) ∧ ∀ a ∈ opts.bcc, IsAddress a.address.toList := by
    have hvalid := h.valid
    simpa only [List.forall_mem_append] using hvalid
  have hothers : (otherFields env.mime (mimeOptions env opts content sender)).filter
      (fun f => f.1.map Char.toLower ∈ recipientNames) = [] := by
    refine List.filter_eq_nil_iff.mpr fun f hf hmem => ?_
    exact (otherFields_unaddressed env.mime rfl hheaders f hf).2 (of_decide_eq_true hmem)
  have hnames (sender value : List Char) :
      ([("From".toList, sender), ("To".toList, value)] : List Field).filter
        (fun f => f.1.map Char.toLower ∈ recipientNames) = [("To".toList, value)] := by
    simp [recipientNames]
  have htoField : addressField "To".toList (addressList opts.toAddresses) =
      [("To".toList, encodeAddressList (addressList opts.toAddresses))] := by
    obtain ⟨c, rest, hfirst, -⟩ := (entry_addressList h.nonempty hto).first
    rw [addressField, if_neg (by simp [hfirst])]
  rw [buildMimeMessage, fieldRecipients_fields reader (mimeFields_sound env.mime rfl hheaders),
    mimeFields]
  simp only [List.filter_append]
  rw [hothers, hnames, filter_addressField_recipients _ (by decide +kernel),
    filter_addressField_recipients _ (by decide +kernel), List.append_nil, List.flatMap_append,
    List.flatMap_append]
  show ([("To".toList, encodeAddressList (addressList opts.toAddresses))] : List Field).flatMap
      (fun f => reader.read f.2) ++
    (addressField "Cc".toList (addressList opts.cc)).flatMap (fun f => reader.read f.2) ++
    (addressField "Bcc".toList (addressList opts.bcc)).flatMap (fun f => reader.read f.2) = _
  rw [← htoField, read_addressField reader _ hto, read_addressField reader _ hcc,
    read_addressField reader _ hbcc]
  simp [texts]

theorem mimeOptions_without (env : Env) (opts : ReplyOptions) (content : ReplyContent)
    (sender : List Char) : mimeOptions env (withoutBlindCopies opts) content sender =
      withoutBcc (mimeOptions env opts content sender) := rfl

/-- The message without blind copies has no field of them. -/
theorem noField_withoutBcc (env : Env) (opts : ReplyOptions) (content : ReplyContent)
    (sender : List Char) : ∀ f ∈ headerFields (buildMimeMessage env.mime
      (withoutBcc (mimeOptions env opts content sender))), f.1 ≠ "bcc".toList := by
  have hheaders := plainHeader_replyHeaders content (opts.hopCount.getD 0 + 1)
  have hsound : ∀ f ∈ mimeFields env.mime (mimeOptions env opts content sender), f.Sound :=
    mimeFields_sound env.mime rfl hheaders
  rw [← withoutField_buildMimeMessage env.mime rfl hheaders, buildMimeMessage,
    withoutField_message hsound,
    headerFields_message fun f hf => hsound f (List.mem_filter.mp hf).1]
  intro f hf
  obtain ⟨g, hg, rfl⟩ := List.mem_map.mp hf
  exact of_decide_eq_true (List.mem_filter.mp hg).2

/-! ## Routes -/

/-- A mail keeps its addresses, and blind copies do not change whether SES is asked. -/
theorem send_eq_ok {service : EmailService} {options : SendOptions} {command : SendEmailCommand}
    (h : service.send options = .ok command) : command.toAddresses = options.toAddresses ∧
      command.cc = options.cc ∧ command.bcc = options.bcc ∧
      service.send { options with bcc := [] } = .ok { command with bcc := [] } := by
  unfold EmailService.send at h ⊢
  cases hid : EmailService.validateAccountId options.accountId with
  | error error => rw [hid] at h; cases h
  | ok _ =>
    cases halign : service.validateTenantDomainAlignment options.accountId
        (options.fromSender.getD service.sender) with
    | error error => rw [hid] at h; simp [halign] at h; cases h
    | ok _ =>
      rw [hid] at h
      simp [halign] at h
      cases h
      refine ⟨rfl, rfl, rfl, ?_⟩
      simp [halign]
      rfl

theorem read_mailboxes (reader : MailboxReader)
    (hvalid : ∀ a ∈ addresses, IsAddress a.address.toList) :
    (addresses.map mailbox).flatMap (fun text => reader.read text.toList) = texts addresses := by
  induction addresses with
  | nil => rfl
  | cons a addresses ih =>
    obtain ⟨ha, haddresses⟩ := List.forall_mem_cons.mp hvalid
    have hread : reader.read (addressList [a]) = texts [a] :=
      read_addressList reader (by simpa using ha)
    simp only [addressList, joinAddresses, List.map_cons, List.map_nil,
      List.intercalate_singleton] at hread
    rw [List.map_cons, List.flatMap_cons, ih haddresses, mailbox, String.toList_ofList, hread]
    rfl

/-- What goes to an exchange, and what goes to SES. -/
inductive Leaves (env : Env) (opts : ReplyOptions) (content : ReplyContent) : Submission → Prop
  | exchange {emx : ExternalMailExchange} {sender : List Char}
    (hroute : sendRoute env.service env.reads opts = .ok (.exchange emx sender)) :
    Leaves env opts content (sendMessage (env.platform emx)
      (buildMimeMessage env.mime (mimeOptions env opts content sender)))
  | ses {sender : List Char} {accountId : String} {command : SendEmailCommand}
    (hroute : sendRoute env.service env.reads opts = .ok (.ses (sesOptions opts sender accountId)))
    (hsend : env.service.send (sesOptions opts sender accountId) = .ok command) :
    Leaves env opts content (.ses command (buildMimeMessage env.mime (withoutBcc
      (mimeOptions env opts content sender))))

theorem sendRoute_cases {opts : ReplyOptions} {destination : Destination}
    (h : sendRoute env.service env.reads opts = .ok destination) :
    (∃ emx sender, destination = .exchange emx sender ∧
        resolveRoute env.reads opts.accountId (formatAddress opts.sender)
          opts.allowFallbackToPlatformSending = .ok (.provider emx sender)) ∨
      ∃ sender accountId, destination = .ses (sesOptions opts sender accountId) := by
  simp only [sendRoute] at h
  split at h
  · cases h
  · cases hroute : resolveRoute env.reads opts.accountId (formatAddress opts.sender)
      opts.allowFallbackToPlatformSending with
    | error error => simp [hroute] at h
    | ok route =>
      rw [hroute] at h
      cases route with
      | provider emx sender => exact .inl ⟨emx, sender, (Except.ok.inj h).symm, rfl⟩
      | ses sender => exact .inr ⟨sender, _, (Except.ok.inj h).symm⟩
      | platform => exact .inr ⟨_, _, (Except.ok.inj h).symm⟩

theorem leaves_of_submission {s : Submission} (h : submission env opts content = some s) :
    Leaves env opts content s := by
  unfold submission at h
  cases hroute : sendRoute env.service env.reads opts with
  | error error => simp [hroute] at h
  | ok destination =>
    rw [hroute] at h
    obtain ⟨emx, sender, rfl, -⟩ | ⟨sender, accountId, rfl⟩ := sendRoute_cases hroute
    · rw [← Option.some.inj h]
      exact .exchange hroute
    · dsimp only at h
      cases hsend : env.service.send (sesOptions opts sender accountId) with
      | error error => simp [hsend] at h
      | ok command =>
        rw [hsend] at h
        rw [← Option.some.inj h]
        simp only [sesOptions, Option.getD_some, String.toList_ofList]
        exact .ses hroute hsend

def Destination.withoutBlindCopies : Destination → Destination
  | .exchange emx sender => .exchange emx sender
  | .ses options => .ses { options with bcc := [] }

theorem sendRoute_without {destination : Destination}
    (h : sendRoute env.service env.reads opts = .ok destination) :
    sendRoute env.service env.reads (withoutBlindCopies opts) =
      .ok (Destination.withoutBlindCopies destination) := by
  simp only [sendRoute] at h ⊢
  split at h
  · cases h
  · next hhops =>
    have hhops' : ¬ (withoutBlindCopies opts).hopCount.getD 0 + 1 > maxHopCount := hhops
    rw [if_neg hhops']
    cases hroute : resolveRoute env.reads opts.accountId (formatAddress opts.sender)
        opts.allowFallbackToPlatformSending with
    | error error => simp [hroute] at h
    | ok route =>
      have hroute' : resolveRoute env.reads (withoutBlindCopies opts).accountId
          (formatAddress (withoutBlindCopies opts).sender)
          (withoutBlindCopies opts).allowFallbackToPlatformSending = .ok route := hroute
      rw [hroute] at h
      rw [hroute']
      cases route with
      | provider emx sender => cases h; rfl
      | ses sender => cases h; rfl
      | platform => cases h; rfl

/-- What is received is what would be sent without blind copies. -/
theorem received_blind {s : Submission} (h : Leaves env opts content s)
    (himap : ∀ emx sender, sendRoute env.service env.reads opts = .ok (.exchange emx sender) →
      env.platform emx ≠ .imap) :
    ∃ sender, s.received =
        buildMimeMessage env.mime (withoutBcc (mimeOptions env opts content sender)) ∧
      (submission env (withoutBlindCopies opts) content).map Submission.received =
        some s.received := by
  cases h with
  | @exchange emx sender hroute =>
    have hheaders := plainHeader_replyHeaders content (opts.hopCount.getD 0 + 1)
    have hreceived (raw : List Char) : (sendMessage (env.platform emx) raw).received =
        withoutField "bcc".toList raw := by
      cases hplatform : env.platform emx with
      | imap => exact absurd hplatform (himap emx sender hroute)
      | _ => rfl
    have hwithout : withoutField "bcc".toList
        (buildMimeMessage env.mime (mimeOptions env opts content sender)) = _ :=
      withoutField_buildMimeMessage env.mime rfl hheaders
    refine ⟨sender, ?_, ?_⟩
    · rw [hreceived, hwithout]
    · unfold submission
      rw [sendRoute_without hroute]
      dsimp only [Destination.withoutBlindCopies, Option.map_some]
      rw [hreceived, hreceived, hwithout, mimeOptions_without,
        withoutField_buildMimeMessage env.mime rfl hheaders]
      rfl
  | @ses sender accountId command hroute hsend =>
    refine ⟨sender, rfl, ?_⟩
    unfold submission
    rw [sendRoute_without hroute]
    dsimp only [Destination.withoutBlindCopies]
    rw [(send_eq_ok hsend).2.2.2]
    simp only [sesOptions, Option.getD_some, String.toList_ofList, Option.map_some]
    rfl

/-- Off IMAP, the recipients of a submission are those of the message. -/
theorem recipients_exact (reader : MailboxReader) (hopts : Addressed opts) {s : Submission}
    (h : Leaves env opts content s)
    (himap : ∀ emx sender, sendRoute env.service env.reads opts = .ok (.exchange emx sender) →
      env.platform emx ≠ .imap) :
    s.recipients reader = texts (opts.toAddresses ++ opts.cc ++ opts.bcc) := by
  cases h with
  | @exchange emx sender hroute =>
    have hfields : fieldRecipients reader
        (buildMimeMessage env.mime (mimeOptions env opts content sender)) = _ :=
      fieldRecipients_message reader sender hopts
    cases hplatform : env.platform emx with
    | imap => exact absurd hplatform (himap emx sender hroute)
    | _ => exact hfields
  | @ses sender accountId command hroute hsend =>
    obtain ⟨hto, hcc, hbcc, -⟩ := send_eq_ok hsend
    have hread := read_mailboxes reader hopts.valid
    simp only [Submission.recipients, hto, hcc, hbcc, sesOptions]
    rwa [← List.map_append, ← List.map_append]

theorem sesOrFallback_ne_provider {reads : RoutingReads} {fromAddress decoratedFrom : List Char}
    {allow : Bool} {reason : String} {emx : ExternalMailExchange} {sender : List Char} :
    sesOrFallback reads fromAddress decoratedFrom allow reason ≠ .ok (.provider emx sender) := by
  unfold sesOrFallback
  cases reads.getDomainByName (String.ofList (afterFirstAt fromAddress)) with
  | error error => simp
  | ok domain =>
    dsimp only
    split
    · simp
    · split <;> simp

/-- Only an active exchange behind the alias of the sender takes a message. -/
theorem resolveRoute_provider_iff {reads : RoutingReads} {accountId : Option String}
    {text : List Char} {allow : Bool} {emx : ExternalMailExchange} :
    (∃ sender, resolveRoute reads accountId text allow = .ok (.provider emx sender)) ↔
      accountId.getD "" ≠ "" ∧ ∃ aliasConfig,
        reads.getAlias (String.ofList (extractAddress text)) = .ok (some aliasConfig) ∧
        aliasConfig.emxId.getD "" ≠ "" ∧
        reads.getExternalExchange (aliasConfig.emxId.getD "") = .ok (some emx) ∧
        emx.status = .active := by
  unfold resolveRoute
  split
  · next hacct => simp [hacct]
  · next hacct =>
    dsimp only
    cases reads.getAlias (String.ofList (extractAddress text)) with
    | error error => simp
    | ok aliasConfig =>
      cases aliasConfig with
      | none => simp [sesOrFallback_ne_provider]
      | some aliasConfig =>
        simp only [Option.bind_some, Except.ok.injEq, Option.some.injEq, exists_eq_left', hacct,
          ne_eq, not_false_eq_true, true_and]
        generalize aliasConfig.emxId.getD "" = emxId
        by_cases hemx : emxId = ""
        · simp [hemx, sesOrFallback_ne_provider]
        · cases hx : reads.getExternalExchange emxId with
          | error error => simp [hemx, hx]
          | ok exchange =>
            cases exchange with
            | none => simp [hemx, hx, sesOrFallback_ne_provider]
            | some row =>
              by_cases hactive : row.status = .active
              · constructor
                · rintro ⟨sender, hsender⟩
                  simp [hx, hactive] at hsender
                  exact ⟨hemx, by rw [hsender.1], hsender.1 ▸ hactive⟩
                · rintro ⟨-, hrow, -⟩
                  cases hrow
                  exact ⟨formatAddress ⟨String.ofList (extractAddress text), aliasConfig.name⟩,
                    by simp [hx, hactive]⟩
              · constructor
                · rintro ⟨sender, hsender⟩
                  simp [hx, hactive, sesOrFallback_ne_provider] at hsender
                · rintro ⟨-, hrow, hstatus⟩
                  cases hrow
                  exact absurd hstatus hactive

theorem sendsOverImap_iff : SendsOverImap env opts ↔ ∃ emx sender,
    sendRoute env.service env.reads opts = .ok (.exchange emx sender) ∧
      env.platform emx = .imap := by
  have hprovider {emx : ExternalMailExchange} := @resolveRoute_provider_iff env.reads
    opts.accountId (formatAddress opts.sender) opts.allowFallbackToPlatformSending emx
  constructor
  · rintro ⟨hhops, hacct, aliasConfig, emx, halias, hemx, hrow, hactive, hplatform⟩
    obtain ⟨sender, hroute⟩ := hprovider.mpr ⟨hacct, aliasConfig, halias, hemx, hrow, hactive⟩
    refine ⟨emx, sender, ?_, hplatform⟩
    simp only [sendRoute, hroute]
    rw [if_neg (by omega)]
  · rintro ⟨emx, sender, hsend, hplatform⟩
    have hhops : opts.hopCount.getD 0 < maxHopCount := by
      by_contra hhops
      simp only [sendRoute] at hsend
      rw [if_pos (by omega)] at hsend
      cases hsend
    obtain ⟨emx', sender', heq, hroute⟩ | ⟨sender', accountId, heq⟩ := sendRoute_cases hsend
    · cases heq
      obtain ⟨hacct, aliasConfig, halias, hemx, hrow, hactive⟩ := hprovider.mp ⟨sender, hroute⟩
      exact ⟨hhops, hacct, aliasConfig, emx, halias, hemx, hrow, hactive, hplatform⟩
    · cases heq

/-- SMTP is handed no envelope. -/
theorem not_reaches_of_imap (h : SendsOverImap env opts) :
    ¬ ReachesRecipients env opts content := by
  obtain ⟨emx, sender, hroute, hplatform⟩ := sendsOverImap_iff.mp h
  have hsubmission : submission env opts content = some (.smtp []
      (buildMimeMessage env.mime (mimeOptions env opts content sender))) := by
    unfold submission
    rw [hroute]
    simp [hplatform, sendMessage]
  intro hreaches
  exact (hreaches ⟨mailboxReader, fun _ => true, fun _ => true⟩ _ hsubmission).1 rfl

/-- **Recipients and blind copies.** Whatever the transports do, an addressed message reaches just
its recipients and shows none of the blind copies, exactly when it does not go out through an IMAP
exchange. -/
theorem reachesRecipients_iff (hopts : Addressed opts) :
    ReachesRecipients env opts content ↔ ¬ SendsOverImap env opts := by
  constructor
  · exact fun hreaches himap => not_reaches_of_imap himap hreaches
  · intro himap transports s hs
    have himap' (emx : ExternalMailExchange) (sender : List Char)
        (hroute : sendRoute env.service env.reads opts = .ok (.exchange emx sender)) :
        env.platform emx ≠ .imap := fun hplatform =>
      himap (sendsOverImap_iff.mpr ⟨emx, sender, hroute, hplatform⟩)
    have hleaves := leaves_of_submission hs
    have hrecipients := recipients_exact transports.reader hopts hleaves himap'
    obtain ⟨sender, hreceived, hblind⟩ := received_blind hleaves himap'
    have hne : s.recipients transports.reader ≠ [] := by
      rw [hrecipients]
      simp [texts, hopts.nonempty]
    refine ⟨?_, fun recipients received hdelivered => ?_⟩
    · unfold Transports.hand
      rw [if_neg hne]
      split
      · simp
      · split <;> simp
    · unfold Transports.hand at hdelivered
      rw [if_neg hne] at hdelivered
      split at hdelivered
      · cases hdelivered
      · split at hdelivered
        · cases hdelivered
          refine ⟨fun address => by rw [hrecipients], ?_, ?_, hblind⟩
          · rw [hreceived]
            exact noField_withoutBcc env opts content sender
          · have hfields : fieldRecipients transports.reader (buildMimeMessage env.mime
                (mimeOptions env (SendEnvelopes.withoutBlindCopies opts) content sender)) = _ :=
              fieldRecipients_message transports.reader sender hopts.without
            rw [mimeOptions_without, ← hreceived] at hfields
            rw [hfields]
            simp [SendEnvelopes.withoutBlindCopies]
        · cases hdelivered

/-- The mailbox of an account, behind an exchange of the given platform. -/
def mailboxEnv (platform : EmxPlatform) : Env where
  service := ⟨"noreply@mail.test", "mail-platform", "mail.test"⟩
  reads := {
    getAlias := fun _ => .ok (some {
      id := "me@home.test", accountId := "acc-1", aliasAddress := "me@home.test",
      domain := "home.test", aliasName := "me", unknownSenderPolicy := .quarantineVisible,
      name := none, createdForOrigin := none, emxId := some "emx-1", createdAt := "",
      updatedAt := "" })
    getDomainByName := fun _ => .ok none
    getExternalExchange := fun _ => .ok (some ⟨"emx-1", "acc-1", "me@home.test", .active⟩) }
  platform := fun _ => platform
  renderMarkdownToHtml := id
  mime := ⟨[], [], [], by decide, by decide, by decide⟩

def replyToFriend : ReplyOptions where
  sendType := .reply
  toAddresses := [⟨"friend@far.test", some "A. Friend"⟩]
  cc := []
  bcc := [⟨"hidden@far.test", none⟩]
  sender := ⟨"me@home.test", none⟩
  accountId := some "acc-1"
  hopCount := none
  allowFallbackToPlatformSending := false

theorem addressed_replyToFriend : Addressed replyToFriend := by
  have haddress {address : List Char} (h : address ≠ [] ∧ address.all isAddressChar = true) :
      IsAddress address := ⟨h.1, List.all_eq_true.mp h.2⟩
  refine ⟨List.cons_ne_nil _ _, ?_⟩
  simp only [replyToFriend, List.append_nil, List.cons_append, List.nil_append,
    List.forall_mem_cons]
  exact ⟨haddress (by decide +kernel), haddress (by decide +kernel),
    fun a ha => absurd ha List.not_mem_nil⟩

/-- A reply through Gmail reaches its recipients. -/
theorem gmail_reply_reaches :
    ReachesRecipients (mailboxEnv .gmail) replyToFriend ⟨[], [], none, false, []⟩ := by
  refine (reachesRecipients_iff addressed_replyToFriend).mpr ?_
  rintro ⟨-, -, aliasConfig, emx, -, -, -, -, hplatform⟩
  cases hplatform

/-- The same reply through an IMAP exchange has nobody to be delivered to. -/
theorem imap_reply_lost : Addressed replyToFriend ∧
    ∀ content, ¬ ReachesRecipients (mailboxEnv .imap) replyToFriend content :=
  ⟨addressed_replyToFriend, fun _ => not_reaches_of_imap
    ⟨by decide, by decide, _, _, rfl, by decide, rfl, rfl, rfl⟩⟩

end SesEmailAdapter.Notifier.SendEnvelopes
