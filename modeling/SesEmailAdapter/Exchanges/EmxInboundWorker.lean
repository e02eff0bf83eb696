import Mathlib.Data.List.Infix
import SesEmailAdapter.Exchanges.OutlookProvider
import SesEmailAdapter.Lib.CallLog

/-! # EmxInboundWorker

Fetches the message that a queue entry names from its provider and hands it to the processor. An
entry for which this returns an error is delivered again. -/

namespace SesEmailAdapter.Exchanges.EmxInboundWorker
open Lib
open SesEmailAdapter.Types Database
open Database.ExchangesDatabase hiding Cmd settle
open Exchanges.ExchangeService hiding Cmd Env settle service ask
open Exchanges.GmailProvider (getToken causeOf)

/-! ## The calls -/

abbrev Bytes := List UInt8

structure RawMimeResult where
  rawMime : Bytes
  receivedAt : String
deriving DecidableEq

structure JmapEmail where
  blobId : String
  receivedAt : String
deriving DecidableEq

structure JmapEmails where
  list : Option (List JmapEmail)
  notFound : Option (List String)
deriving DecidableEq

/-- The requests that fetch a message from its provider. -/
inductive Fetch
  | gmailMessage (token providerMessageId : String)
  | outlookMessage (token providerMessageId : String)
  | outlookMime (token providerMessageId : String)
  | imapMessage (config : ImapConfig) (uid : String)
  | jmapEmail (apiUrl username password jmapAccountId id : String)
  | jmapDownload (url username password : String)

/-- A body is `none` where reading it throws. -/
@[reducible] def Fetch.Answer : Fetch → Type
  | .gmailMessage .. => HttpAnswer (Option RawMimeResult)
  | .outlookMessage .. => HttpAnswer (Option String)
  | .outlookMime .. => HttpAnswer (Option Bytes)
  | .imapMessage .. => Except ImapError (Option RawMimeResult)
  | .jmapEmail .. => Except String (JmapResponse (Option JmapEmails))
  | .jmapDownload .. => HttpAnswer (Option Bytes)

structure InboundSignalMessage where
  expectedAccountId : String
  s3Key : String
  compositeMailMessageId : String
  idempotencyKey : String
  timestamp : String
  primaryRecipient : String
  dkimVerdict : String
  dmarcVerdict : String
deriving DecidableEq, Repr

structure ProcessorError where
  kind : String
deriving DecidableEq, Repr

inductive Cmd
  | exchange (c : ExchangeService.Cmd)
  | fetch (f : Fetch)
  | saveRawEmail (s3Key : String) (rawMime : Bytes)
  | processInbound (msg : InboundSignalMessage) (receiveCount : Nat)

@[reducible] def Cmd.Answer : Cmd → Type
  | .exchange c => c.Answer
  | .fetch f => f.Answer
  | .saveRawEmail .. => Except String Unit
  | .processInbound .. => Except ProcessorError Unit

abbrev InboundProg (α : Type) := Prog Cmd Cmd.Answer α

def onExchange {α : Type} (p : ExchangeProg α) : InboundProg α :=
  p.embed Cmd.exchange fun _ r => r

@[simp] def fetch (f : Fetch) : InboundProg f.Answer := Prog.perform (Cmd.fetch f)

/-! ## Fetching a message -/

inductive ProviderFetchError
  | fetchFailed (cause : String)
  | messageNotFound
  | tokenExpired
  /-- What is thrown past the adapter. -/
  | thrown
deriving DecidableEq, Repr

structure Env where
  /-- The text of `Number(id)`, where it is finite and at least one. -/
  uidText : String → Option String
  /-- The download URL of a blob. -/
  downloadUrl : JmapConfig → String → String
  now : String

abbrev FetchResult := Except ProviderFetchError RawMimeResult

def fetchGmail (providerMessageId : String) (emx : ExchangeRow) : InboundProg FetchResult := do
  let tokenResult ← onExchange (getToken emx)
  match tokenResult with
  | .error cause => return .error (.fetchFailed cause)
  | .ok token => do
    let response : HttpAnswer (Option RawMimeResult) ←
      fetch (.gmailMessage token providerMessageId)
    match response with
    | .refused status =>
      if status = 401 then return .error .tokenExpired
      else return .error (.fetchFailed (causeOf (some status)))
    | .body (some message) => return .ok message
    | _ => return .error (.fetchFailed (causeOf none))

def fetchOutlook (providerMessageId : String) (emx : ExchangeRow) : InboundProg FetchResult := do
  let tokenResult ← onExchange (getToken emx)
  match tokenResult with
  | .error cause => return .error (.fetchFailed cause)
  | .ok token => do
    let metaResp : HttpAnswer (Option String) ← fetch (.outlookMessage token providerMessageId)
    match metaResp with
    | .refused status =>
      if status = 401 then return .error .tokenExpired
      else return .error (.fetchFailed (causeOf (some status)))
    | .body (some receivedAt) => do
      let mimeResp : HttpAnswer (Option Bytes) ← fetch (.outlookMime token providerMessageId)
      match mimeResp with
      | .refused status => return .error (.fetchFailed (causeOf (some status)))
      | .body (some rawMime) => return .ok ⟨rawMime, receivedAt⟩
      | _ => return .error (.fetchFailed (causeOf none))
    | _ => return .error (.fetchFailed (causeOf none))

section
variable (env : Env)

def fetchImap (providerMessageId : String) (emx : ExchangeRow) : InboundProg FetchResult :=
  match emx.fields.imapConfig with
  | none => return .error (.fetchFailed "EMX missing imapConfig")
  | some imapConfig => match env.uidText providerMessageId with
    | none => return .error (.fetchFailed "Invalid providerMessageId: expected a UID number")
    | some uid => do
      let decryptResult : Except String String ←
        onExchange (ExchangeService.ask (.decrypt imapConfig.encryptedPassword))
      match decryptResult with
      | .error cause => return .error (.fetchFailed cause)
      | .ok password => do
        let connectResult : Except ImapError Unit ←
          onExchange (ExchangeService.ask (.imapConnect imapConfig password))
        match connectResult with
        | .error error => return .error (.fetchFailed error.reason)
        | .ok () => do
          let fetchResult : Except ImapError (Option RawMimeResult) ←
            fetch (.imapMessage imapConfig uid)
          match fetchResult with
          | .error error =>
            if "does not exist".toList <:+: error.reason.toList then
              return .error .messageNotFound
            else return .error (.fetchFailed error.reason)
          | .ok none => return .error .messageNotFound
          | .ok (some message) => return .ok message

/-- The message of a JMAP answer; one without data throws. -/
def jmapEmailOf (providerMessageId : String) :
    JmapResponse (Option JmapEmails) → Except ProviderFetchError JmapEmail
  | none => .error (.fetchFailed "Email/get failed")
  | some (.error _) => .error (.fetchFailed "Email/get failed")
  | some (.ok none) => .error .thrown
  | some (.ok (some responseData)) =>
    if (responseData.notFound.getD []).contains providerMessageId then .error .messageNotFound
    else match (responseData.list.getD []).head? with
      | none => .error .messageNotFound
      | some email => .ok email

def fetchJmap (providerMessageId : String) (emx : ExchangeRow) : InboundProg FetchResult :=
  match emx.fields.jmapConfig with
  | none => return .error (.fetchFailed "EMX missing jmapConfig")
  | some jmapConfig => do
    let decryptResult : Except String String ←
      onExchange (ExchangeService.ask (.decrypt jmapConfig.encryptedPassword))
    match decryptResult with
    | .error cause => return .error (.fetchFailed cause)
    | .ok password => do
      let getResult : Except String (JmapResponse (Option JmapEmails)) ←
        fetch (.jmapEmail jmapConfig.apiUrl jmapConfig.username password jmapConfig.jmapAccountId
          providerMessageId)
      match getResult with
      | .error cause => return .error (.fetchFailed cause)
      | .ok response => match jmapEmailOf providerMessageId response with
        | .error error => return .error error
        | .ok email => do
          let mimeResponse : HttpAnswer (Option Bytes) ← fetch (.jmapDownload
            (env.downloadUrl jmapConfig email.blobId) jmapConfig.username password)
          match mimeResponse with
          | .thrown => return .error (.fetchFailed "server unreachable")
          | .refused status =>
            if status = 401 ∨ status = 403 then return .error (.fetchFailed "invalid credentials")
            else return .error (.fetchFailed ("download failed: HTTP " ++ toString status))
          | .body none => return .error .thrown
          | .body (some rawMime) => return .ok ⟨rawMime, email.receivedAt⟩

def fetchMessage (platform : EmxPlatform) (providerMessageId : String) (emx : ExchangeRow) :
    InboundProg FetchResult :=
  match platform with
  | .gmail => fetchGmail providerMessageId emx
  | .outlook => fetchOutlook providerMessageId emx
  | .imap => fetchImap env providerMessageId emx
  | .jmap => fetchJmap env providerMessageId emx

/-! ## The worker -/

structure EmxInboundPayload where
  source : String
  providerMessageId : String
  emxId : String
  accountId : String
deriving DecidableEq, Repr

def adapterOf (source : String) : Option EmxPlatform :=
  [.gmail, .outlook, .imap, .jmap].find? fun platform => platformText platform = source

/-- Ids of IMAP and JMAP messages are only unique within one mailbox. -/
def EmxInboundPayload.idNamespace (payload : EmxInboundPayload) : String :=
  if payload.source = "imap" ∨ payload.source = "jmap" then payload.emxId else payload.source

def EmxInboundPayload.s3Key (payload : EmxInboundPayload) : String :=
  "emails/" ++ payload.idNamespace ++ "/" ++ payload.providerMessageId

def inboundMessage (payload : EmxInboundPayload) (sqsMessageId receivedAt : String)
    (emx : ExchangeRow) : InboundSignalMessage where
  expectedAccountId := payload.accountId
  s3Key := payload.s3Key
  compositeMailMessageId := payload.idNamespace ++ "-" ++ payload.providerMessageId
  idempotencyKey := sqsMessageId
  timestamp := receivedAt
  primaryRecipient := emx.emailAddress.getD ""
  dkimVerdict := "PASS"
  dmarcVerdict := "PASS"

inductive ProcessError
  | fetch (error : ProviderFetchError)
  | processor (error : ProcessorError)
deriving DecidableEq, Repr

def fetchFailed (cause : String) : ProcessError := .fetch (.fetchFailed cause)

/-- Stores the message and hands it to the processor. -/
def handOver (payload : EmxInboundPayload) (sqsMessageId : String) (receiveCount : Nat)
    (emx : ExchangeRow) (fetched : RawMimeResult) : InboundProg (Except ProcessError Unit) := do
  let saved : Except String Unit ← Prog.perform (Cmd.saveRawEmail payload.s3Key fetched.rawMime)
  match saved with
  | .error _ => return .error (.fetch .thrown)
  | .ok () => do
    let processResult : Except ProcessorError Unit ← Prog.perform
      (Cmd.processInbound (inboundMessage payload sqsMessageId fetched.receivedAt emx) receiveCount)
    match processResult with
    | .error error =>
      if error.kind = "no_account_for_recipient" then do
        let _ ← onExchange (accounts (AccountDatabase.ensureAlias payload.accountId
          (emx.emailAddress.getD "") .allowAll (some none) (some payload.emxId) env.now))
        return .error (fetchFailed "Alias missing — self-heal attempted, retrying")
      else return .error (.processor error)
    | .ok () => return .ok ()

def process (payload : EmxInboundPayload) (sqsMessageId : String) (receiveCount : Nat) :
    InboundProg (Except ProcessError Unit) :=
  match adapterOf payload.source with
  | none => return .ok ()
  | some adapter => do
    let emxResult ← onExchange (getExternalExchange payload.accountId payload.emxId)
    match emxResult with
    | .error error => return .error (fetchFailed error.message)
    | .ok none => return .error (fetchFailed "EMX not found")
    | .ok (some emx) => do
      let fetchResult ← fetchMessage env adapter payload.providerMessageId emx
      match fetchResult with
      | .error .tokenExpired => return .ok ()
      | .error error => return .error (.fetch error)
      | .ok fetched => handOver env payload sqsMessageId receiveCount emx fetched

end

/-! ## What the calls tell -/

abbrev Calls := List (Sigma Cmd.Answer)

/-- Gmail or Outlook answers that the token has expired. -/
def isExpiry : Sigma Cmd.Answer → Bool
  | ⟨.fetch (.gmailMessage ..), .refused status⟩ => status = 401
  | ⟨.fetch (.outlookMessage ..), .refused status⟩ => status = 401
  | _ => false

/-- The processor has taken a message. -/
def isAcceptance : Sigma Cmd.Answer → Bool
  | ⟨.processInbound .., .ok ()⟩ => true
  | _ => false

def TokenExpired (calls : Calls) : Prop := calls.any isExpiry = true

def Accepted (calls : Calls) : Prop := calls.any isAcceptance = true

variable {env : Env} {calls : Calls} {emx : ExchangeRow} {providerMessageId : String}
  {r : FetchResult}

variable {e : Sigma Cmd.Answer} {first rest : Calls}

theorem tokenExpired_append :
    TokenExpired (first ++ rest) ↔ TokenExpired first ∨ TokenExpired rest := by
  simp [TokenExpired]

theorem accepted_append :
    Accepted (first ++ rest) ↔ Accepted first ∨ Accepted rest := by
  simp [Accepted]

/-- Calls that tell neither. -/
def Silent (calls : Calls) : Prop := ¬ TokenExpired calls ∧ ¬ Accepted calls

theorem silent_nil : Silent [] := ⟨Bool.false_ne_true, Bool.false_ne_true⟩

theorem Silent.append (hfirst : Silent first) (hrest : Silent rest) :
    Silent (first ++ rest) :=
  ⟨fun h => (tokenExpired_append.mp h).elim hfirst.1 hrest.1,
    fun h => (accepted_append.mp h).elim hfirst.2 hrest.2⟩

theorem Silent.cons (hexpiry : isExpiry e = false)
    (haccept : isAcceptance e = false) (hrest : Silent calls) : Silent (e :: calls) := by
  refine ⟨fun h => hrest.1 ?_, fun h => hrest.2 ?_⟩
  · rw [TokenExpired, List.any_cons, hexpiry, Bool.false_or] at h
    exact h
  · rw [Accepted, List.any_cons, haccept, Bool.false_or] at h
    exact h

/-- What a fetch reports of the calls it has made. -/
structure Reports (calls : Calls) (r : FetchResult) : Prop where
  expired : TokenExpired calls ↔ r = .error .tokenExpired
  accepted : ¬ Accepted calls

theorem Silent.reports (h : Silent calls) (hr : r ≠ .error .tokenExpired) : Reports calls r :=
  ⟨⟨fun hexpired => absurd hexpired h.1, fun heq => absurd heq hr⟩, h.2⟩

theorem Reports.after {first : Calls} (hfirst : Silent first) (h : Reports calls r) :
    Reports (first ++ calls) r := by
  refine ⟨?_, fun haccepted => ?_⟩
  · rw [tokenExpired_append, h.expired]
    exact or_iff_right hfirst.1
  · exact (accepted_append.mp haccepted).elim hfirst.2 h.accepted

theorem Reports.cons (hexpiry : isExpiry e = false)
    (haccept : isAcceptance e = false) (h : Reports calls r) : Reports (e :: calls) r :=
  .after (silent_nil.cons hexpiry haccept) h

variable {payload : EmxInboundPayload} {sqsMessageId : String} {receiveCount : Nat}
  {fetched : RawMimeResult} {result : Except ProcessError Unit}

/-- The processor has taken the message of the entry, as it was fetched and stored before. -/
def HandedOver (payload : EmxInboundPayload) (sqsMessageId : String) (receiveCount : Nat)
    (calls : Calls) : Prop :=
  ∃ (emx : ExchangeRow) (fetched : RawMimeResult) (before after : Calls),
    calls = before ++ ⟨.saveRawEmail payload.s3Key fetched.rawMime, .ok ()⟩ ::
      ⟨.processInbound (inboundMessage payload sqsMessageId fetched.receivedAt emx) receiveCount,
        .ok ()⟩ :: after

theorem HandedOver.accepted (h : HandedOver payload sqsMessageId receiveCount calls) :
    Accepted calls := by
  obtain ⟨emx, fetched, before, after, rfl⟩ := h
  exact accepted_append.mpr (.inr rfl)

theorem HandedOver.append {first : Calls}
    (h : HandedOver payload sqsMessageId receiveCount calls) :
    HandedOver payload sqsMessageId receiveCount (first ++ calls) := by
  obtain ⟨emx, fetched, before, after, rfl⟩ := h
  exact ⟨emx, fetched, first ++ before, after, by rw [List.append_assoc]⟩

def plainEnv : Env := ⟨some, fun config _ => config.downloadUrl, "0"⟩

def gmailEmx : ExchangeRow where
  accountId := "acc"
  id := "emx"
  record := some ⟨.gmail, "me@gmail.test", "0"⟩
  status := .active
  nextSyncTime := "1"
  fields := { noFields with
    userId := some "user", connectionId := some "google", connectionUserId := some "me" }
  updatedAt := "0"
  gsi1pk := ""
  gsi1sk := ""

/-- The record is there and gives a token. -/
def gmailToken : Calls :=
  [⟨.exchange (.exchanges (.getExternalExchange "acc" "emx")), .ok (some gmailEmx)⟩,
    ⟨.exchange (.ask (.getToken (some "user") (some "google") (some "me"))), .ok "token"⟩]

def tokenExpired : Calls :=
  gmailToken ++ [⟨.fetch (.gmailMessage "token" "18f"), .refused 401⟩]

end SesEmailAdapter.Exchanges.EmxInboundWorker
