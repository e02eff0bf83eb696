import SesEmailAdapter.Calendar.RsvpRaces
import SesEmailAdapter.Processor.OutboundService

/-! # Replies to forwarded invites

A message to the proxy address of an alias carries the answers of a calendar client to invites that
were forwarded to it. Each of its attachments is checked, relayed to the organizer of the stored
invite, and recorded on the event. -/

namespace SesEmailAdapter.Calendar.RsvpReplies
open Lib
open SesEmailAdapter.Types Database
open Database.SignalsTable (RsvpUpdate SignalPartition)
open Database.ThreadDatabase
open Email Email.SendPaths Email.Service
open Notifier.ReplySender (ReplySendError)
open Calendar.EventStore
open Calendar.RsvpRaces (SentRsvp RowKey)
open Processor.DraftSendWorker (SendReceipt Turn)
open Processor.OutboundService (mailAnswer)

/-! ## Attachments -/

structure VAttendee where
  value : Option String
  partstat : Option String
deriving DecidableEq, Repr

structure VEvent where
  uid : Option String
  attendees : List VAttendee
  /-- One of its times is no date, and its conversion throws. -/
  hasInvalidTime : Bool
deriving DecidableEq, Repr

/-- What `ICAL.parse` makes of a text. -/
structure VCalendar where
  nestingDepth : Nat
  vtimezones : Nat
  method : Option String
  vevents : List VEvent
deriving DecidableEq, Repr

/-- An attachment, by what `ICAL.parse` makes of it; `outputBytes` is the size of the event as
JSON. -/
structure IcsAttachment where
  byteLength : Nat
  ical : Except String VCalendar
  outputBytes : Nat

/-- The data of an event that the checks of a reply read. -/
structure IcsEvent where
  method : String
  attendees : List VAttendee
  veventUid : String
deriving DecidableEq, Repr

inductive Parsed
  | event (data : IcsEvent)
  | malformed (reason : String)
  | thrown (reason : String)
deriving DecidableEq, Repr

def MAX_FILE_SIZE : Nat := 1048576

def MAX_VTIMEZONE_COMPONENTS : Nat := 100

def MAX_ATTENDEES : Nat := 100

def MAX_NESTING_DEPTH : Nat := 5

def MAX_OUTPUT_SIZE : Nat := 102400

def parseVCalendar (ics : IcsAttachment) : Except String VCalendar :=
  if ics.byteLength > MAX_FILE_SIZE then .error "File exceeds 1 MB size limit"
  else match ics.ical with
    | .error message => .error ("Malformed iCal structure: " ++ message)
    | .ok vcalendar =>
      if vcalendar.nestingDepth > MAX_NESTING_DEPTH then .error "Excessive nesting depth"
      else if vcalendar.vtimezones > MAX_VTIMEZONE_COMPONENTS then
        .error "Suspected VTIMEZONE bomb"
      else .ok vcalendar

def buildEventData (vevent : VEvent) (method : Option String) : IcsEvent where
  method := method.getD "PUBLISH"
  attendees := (vevent.attendees.take MAX_ATTENDEES).filter fun attendee =>
    attendee.value.getD "" ≠ ""
  veventUid := vevent.uid.getD ""

def parseIcs (ics : IcsAttachment) : Parsed :=
  match parseVCalendar ics with
  | .error reason => .malformed reason
  | .ok vcalendar => match vcalendar.vevents with
    | [] => .malformed "Malformed iCal structure: no VEVENT component found"
    | vevent :: _ =>
      if vevent.hasInvalidTime then .thrown "Invalid time value"
      else if ics.outputBytes > MAX_OUTPUT_SIZE then
        .malformed "Parsed calendar data exceeds 100 KB limit"
      else .event (buildEventData vevent vcalendar.method)

/-! ## Proxy UIDs -/

structure ProxyUid where
  accountId : String
  threadId : String
  originalVeventUid : String
  hmac16 : String
deriving DecidableEq, Repr

def uidPayload (accountId threadId originalVeventUid : String) : String :=
  accountId ++ "." ++ threadId ++ "." ++ originalVeventUid

def buildProxyUid (hmac16 : String → String)
    (serviceDomain accountId threadId originalVeventUid : String) : String :=
  let payload := uidPayload accountId threadId originalVeventUid
  payload ++ "." ++ hmac16 payload ++ "@" ++ serviceDomain

/-- The parts of a proxy UID, before its HMAC is checked. -/
def decodeProxyUid (serviceDomain proxyUid : String) : Except String ProxyUid :=
  let uid := proxyUid.toList
  if '@' ∉ uid then .error "missing @ separator"
  else if Address.afterLastAt uid ≠ serviceDomain.toList then .error "domain mismatch"
  else match (aliasLocalPart uid).splitOn '.' with
    | accountId :: threadId :: segment :: segments =>
      let hmac16 := (segment :: segments).getLast (List.cons_ne_nil _ _)
      let originalVeventUid := ['.'].intercalate (segment :: segments).dropLast
      if segments = [] then .error "insufficient segments in local-part"
      else if accountId = [] ∨ threadId = [] ∨ originalVeventUid = [] ∨ hmac16 = [] then
        .error "empty segment in proxy UID"
      else .ok ⟨String.ofList accountId, String.ofList threadId, String.ofList originalVeventUid,
        String.ofList hmac16⟩
    | _ => .error "insufficient segments in local-part"

/-! ## Calls -/

inductive Cmd
  | db (c : SignalsTable.Cmd)
  | now
  | getRawEmail (s3Key : String)
  | computeHmac16 (payload : String)
  | send (opts : SendOptions)

/-- Reads of the message and of the secret can throw. -/
@[reducible] def Cmd.Answer : Cmd → Type
  | .db c => c.Answer
  | .now => String
  | .getRawEmail _ => Except String (List IcsAttachment)
  | .computeHmac16 _ => Except String String
  | .send _ => Except ReplySendError SendReceipt

structure Env where
  now : Nat → String
  rawEmail : String → List IcsAttachment
  hmac16 : String → String
  serviceDomain : String
  sesRegion : String
  mailService : EmailService
  stale : String → Bool

/-- A mail that was handed over, and the table at that time. -/
structure Relay where
  opts : SendOptions
  table : SignalsTable.Store

/-- An RSVP that was recorded, and the table before. -/
structure Recorded where
  key : RowKey
  update : RsvpUpdate
  table : SignalsTable.Store

/-- The relays and the records are listed newest first. -/
structure World where
  table : SignalsTable.Store
  relayed : List Relay
  recorded : List Recorded
  tick : Nat

def World.write (w : World) (turn : Turn) (table : SignalsTable.Store) : SignalsTable.Cmd → World
  | .setCalendarEventRsvp accountId lookupId update =>
    if turn.fate ≠ .refused ∧ (w.table.signals.get (accountId, lookupId)).isSome then
      { w with table, recorded := ⟨(accountId, lookupId), update, w.table⟩ :: w.recorded }
    else { w with table }
  | _ => { w with table }

def settle (env : Env) : (c : Cmd) → World → Turn → c.Answer × World
  | .db c, w, turn =>
    let (answer, table) := SignalsTable.settle c w.table turn.fate
    (answer, w.write turn table c)
  | .now, w, _ => (env.now w.tick, { w with tick := w.tick + 1 })
  | .getRawEmail _, w, .missing reason => (.error reason, w)
  | .getRawEmail s3Key, w, _ => (.ok (env.rawEmail s3Key), w)
  | .computeHmac16 _, w, .missing reason => (.error reason, w)
  | .computeHmac16 payload, w, _ => (.ok (env.hmac16 payload), w)
  | .send opts, w, turn => match env.mailService.send opts with
    | .error error => (.error (.invalidArgument error), w)
    | .ok _ =>
      (mailAnswer turn, if turn.hands then { w with relayed := ⟨opts, w.table⟩ :: w.relayed } else w)

def service (env : Env) : Service Cmd Cmd.Answer World Turn := ⟨settle env, .request .done⟩

abbrev RsvpProg (α : Type) := Prog Cmd Cmd.Answer α

def db {α : Type} (p : SignalsTable.DbProg α) : RsvpProg α := p.embed .db fun _ r => r

@[simp] def perform (c : Cmd) : RsvpProg c.Answer := Prog.perform c

/-! ## Validation -/

structure ValidatedRsvp where
  decision : RsvpDecision
  accountId : String
  threadId : String
  originalVeventUid : String
deriving DecidableEq, Repr

inductive RsvpRejection
  | notReplyMethod (method : String)
  | noPartstat
  | hmacFailed (reason : String)
deriving DecidableEq, Repr

/-- `PARTSTAT_TO_DECISION` -/
def partstatDecision (partstat : String) : Option RsvpDecision :=
  match partstat.toUpper with
  | "ACCEPTED" => some .accepted
  | "DECLINED" => some .declined
  | "TENTATIVE" => some .tentative
  | _ => none

/-- The decision of the first attendee that has one. -/
def IcsEvent.decision (data : IcsEvent) : Option RsvpDecision :=
  data.attendees.findSome? fun attendee => attendee.partstat.bind partstatDecision

/-- An error is thrown, a rejection is returned. -/
def validateProxyUid (env : Env) (proxyUid : String) :
    RsvpProg (Except String (Except String ProxyUid)) :=
  match decodeProxyUid env.serviceDomain proxyUid with
  | .error reason => return .ok (.error reason)
  | .ok uid => do
    let expected : Except String String ←
      perform (.computeHmac16 (uidPayload uid.accountId uid.threadId uid.originalVeventUid))
    return expected.map fun expected =>
      if uid.hmac16 = expected then .ok uid else .error "hmac mismatch"

def validateRsvp (env : Env) (data : IcsEvent) :
    RsvpProg (Except String (Except RsvpRejection ValidatedRsvp)) :=
  if data.method.toUpper ≠ "REPLY" then return .ok (.error (.notReplyMethod data.method))
  else match data.decision with
    | none => return .ok (.error .noPartstat)
    | some decision => do
      let uidResult ← validateProxyUid env data.veventUid
      match uidResult with
      | .error reason => return .error reason
      | .ok (.error reason) => return .ok (.error (.hmacFailed reason))
      | .ok (.ok uid) =>
        return .ok (.ok ⟨decision, uid.accountId, uid.threadId, uid.originalVeventUid⟩)

/-! ## The stored invite -/

def asCalendarEvent (signal : Signal) : Option CalendarEventSignal :=
  match h : signal.data with
  | .calendarEvent data => some ⟨signal, data, h⟩
  | _ => none

/-- The latest of the snapshots of one event. -/
def collapse (group : List CalendarEventSignal) : Option CalendarEventSignal :=
  (group.mergeSort fun a b => decide (orderInGroup a b ≤ 0)).getLast?.bind fun winner =>
    group.find? fun event => event.signal.id = winner.signal.id

def winningInvite (originalVeventUid : String) (items : List Signal) :
    Option CalendarEventSignal :=
  collapse ((items.filterMap asCalendarEvent).filter fun event =>
    event.data.veventUid = originalVeventUid)

/-- The alias of the email that carried an invite. -/
def aliasAddressOf (emailSignal : Option Signal) : String :=
  match emailSignal.map Signal.data with
  | some (.inboundEmail data) => data.recipientAddress
  | _ => ""

/-! ## The processor -/

/-- Relays an answer, unless the invite asks for none; a mail that is refused for good is taken as
relayed. -/
def sendRsvp (env : Env) (invite : CalendarEventData) (aliasAddress accountId : String) :
    RsvpProg (Except ReplySendError (Option SentRsvp)) :=
  match sendRsvpToOrganizer invite (invite.method = "CANCEL") aliasAddress accountId with
  | none => return .ok none
  | some opts => do
    let sendResult : Except ReplySendError SendReceipt ← perform (.send opts)
    match sendResult with
    | .error (.permanentSes _) => return .ok none
    | .error error => return .error error
    | .ok receipt =>
      if receipt.messageId = "" then return .ok none
      else return .ok (some ⟨receipt.messageId,
        receipt.messageId ++ "@" ++ env.sesRegion ++ ".amazonses.com"⟩)

def recordRsvp (rsvp : ValidatedRsvp) (winner : CalendarEventSignal) (sent : Option SentRsvp) :
    RsvpProg (Except ReplySendError Unit) := do
  let respondedAt : String ← perform .now
  let recordResult ← db (RsvpRaces.setCalendarEventRsvp rsvp.accountId
    winner.signal.signalLookupId ⟨rsvp.decision, respondedAt⟩ sent)
  match recordResult with
  | .error error => return .error (.db error)
  | .ok _ => return .ok ()

def relayRsvp (env : Env) (rsvp : ValidatedRsvp) (winner : CalendarEventSignal)
    (aliasAddress : String) : RsvpProg (Except ReplySendError Unit) := do
  let replyResult ← sendRsvp env winner.data aliasAddress rsvp.accountId
  match replyResult with
  | .error error => return .error error
  | .ok sent => recordRsvp rsvp winner sent

/-- What cannot be placed is dropped. -/
def placeRsvp (env : Env) (rsvp : ValidatedRsvp) : RsvpProg (Except ReplySendError Unit) := do
  let threadResult ← db (getThread rsvp.accountId rsvp.threadId)
  match threadResult with
  | .error error => return .error (.db error)
  | .ok none => return .ok ()
  | .ok (some _) => do
    let groupResult ← db (listSignals rsvp.accountId rsvp.threadId 100)
    match groupResult with
    | .error error => return .error (.db error)
    | .ok items => match winningInvite rsvp.originalVeventUid items with
      | none => return .ok ()
      | some winner => do
        let emailSignalResult ← db (getSignalById env.stale rsvp.accountId
          winner.data.linkedSignalId rsvp.threadId)
        match emailSignalResult with
        | .error error => return .error (.db error)
        | .ok emailSignal =>
          if aliasAddressOf emailSignal = "" then return .ok ()
          else relayRsvp env rsvp winner (aliasAddressOf emailSignal)

/-- How an attachment, or the message, ended. -/
inductive Ended
  | returned (result : Except ReplySendError Unit)
  | thrown (reason : String)

def processOneIcs (env : Env) (ics : IcsAttachment) : RsvpProg Ended :=
  match parseIcs ics with
  | .thrown reason => return .thrown reason
  | .malformed _ => return .returned (.ok ())
  | .event data => do
    let validation ← validateRsvp env data
    match validation with
    | .error reason => return .thrown reason
    | .ok (.error _) => return .returned (.ok ())
    | .ok (.ok rsvp) => do
      let result ← placeRsvp env rsvp
      return .returned result

/-- The first error of the attachments. -/
def firstError : List (Except ReplySendError Unit) → Except ReplySendError Unit
  | [] => .ok ()
  | .error error :: _ => .error error
  | .ok () :: results => firstError results

/-- `results` are those of the attachments before, in order. -/
def processEach (env : Env) : List IcsAttachment → List (Except ReplySendError Unit) →
    RsvpProg Ended
  | [], results => return .returned (firstError results)
  | ics :: attachments, results => do
    let ended ← processOneIcs env ics
    match ended with
    | .thrown reason => return .thrown reason
    | .returned result => processEach env attachments (results ++ [result])

def process (env : Env) (s3Key : String) : RsvpProg Ended := do
  let extracted : Except String (List IcsAttachment) ← perform (.getRawEmail s3Key)
  match extracted with
  | .error reason => return .thrown reason
  | .ok icsAttachments => processEach env icsAttachments []

/-! ## What a reply rests on -/

/-- The attachment is the answer of an attendee to an invite that was forwarded from a thread: a
reply with a decision whose UID is the proxy UID of the invite. -/
def Authentic (env : Env) (ics : IcsAttachment) (rsvp : ValidatedRsvp) : Prop :=
  ∃ data, parseIcs ics = .event data ∧ data.method.toUpper = "REPLY" ∧
    data.decision = some rsvp.decision ∧
    data.veventUid = buildProxyUid env.hmac16 env.serviceDomain rsvp.accountId rsvp.threadId
      rsvp.originalVeventUid

/-- The winning invite of the event, among the newest signals of the thread. -/
def storedInvite (table : SignalsTable.Store) (rsvp : ValidatedRsvp) :
    Option CalendarEventSignal :=
  winningInvite rsvp.originalVeventUid
    (((table.signalsIn rsvp.accountId (.thread rsvp.threadId)).take 100).map hydrateSignal)

/-- The alias of the email that carried the invite. -/
def storedAlias (env : Env) (table : SignalsTable.Store) (rsvp : ValidatedRsvp)
    (winner : CalendarEventSignal) : String :=
  aliasAddressOf (signalIn env.stale winner.data.linkedSignalId
    (table.signalsIn rsvp.accountId (partitionOf rsvp.threadId)))

/-- The invite asks for an answer, and can be answered. -/
def AsksForReply (invite : CalendarEventData) : Prop :=
  invite.method.toUpper = "REQUEST" ∧ invite.method ≠ "CANCEL" ∧
    Address.trim invite.organizer.toList ≠ []

/-- The attachment of a message answers a stored invite. -/
structure Answers (env : Env) (s3Key : String) (table : SignalsTable.Store) (rsvp : ValidatedRsvp)
    (winner : CalendarEventSignal) : Prop where
  authentic : ∃ ics ∈ env.rawEmail s3Key, Authentic env ics rsvp
  stored : storedInvite table rsvp = some winner
  hasAlias : storedAlias env table rsvp winner ≠ ""

structure RelaysWell (env : Env) (s3Key : String) (relay : Relay) (rsvp : ValidatedRsvp)
    (winner : CalendarEventSignal) : Prop where
  answers : Answers env s3Key relay.table rsvp winner
  asks : AsksForReply winner.data
  toOrganizer : relay.opts.toAddresses = [winner.data.organizer]
  fromAlias : relay.opts.fromSender = some (storedAlias env relay.table rsvp winner)
  tenant : relay.opts.accountId = rsvp.accountId

structure RecordsWell (env : Env) (s3Key : String) (entry : Recorded) (rsvp : ValidatedRsvp)
    (winner : CalendarEventSignal) : Prop where
  answers : Answers env s3Key entry.table rsvp winner
  key : entry.key = (rsvp.accountId, winner.signal.signalLookupId)
  decision : entry.update.rsvpResponse.decision = rsvp.decision

/-- Every relay and every record rests on an answer of the message. -/
structure Safe (env : Env) (s3Key : String) (w : World) : Prop where
  relayed : ∀ relay ∈ w.relayed, ∃ rsvp winner, RelaysWell env s3Key relay rsvp winner
  recorded : ∀ entry ∈ w.recorded, ∃ rsvp winner, RecordsWell env s3Key entry rsvp winner

end SesEmailAdapter.Calendar.RsvpReplies
