import SesEmailAdapter.Email.Address
import SesEmailAdapter.Lib.Json

/-! # SQS batches

The Lambda entry point on a batch of queue messages. Each record's body is parsed, routed by its
message type and processed; what fails is reported back by its message id, and the queue takes
every record that is not reported for done. The message processors act on a world `S` that the
batch is handled in. -/

namespace SesEmailAdapter.Handler.SqsBatch
open Lib
open Email.Address

/-- What a JavaScript expression throws. -/
inductive Thrown
  | typeError
  | raised (message : String)
deriving DecidableEq, Repr

/-- The kind of an error result. -/
abbrev Result := Except String Unit

/-- Code that acts on the world and may throw; what it did before a throw stays done. -/
abbrev Js (S : Type) := ExceptT Thrown (StateM S)

/-! ## Reading parsed values

`none` stands for `undefined`. -/

/-- `value.field` -/
def read (value : Option Json) (field : String) : Except Thrown (Option Json) :=
  match value with
  | none | some .null => .error .typeError
  | some (.obj members) => .ok (members.lookup field)
  | some _ => .ok none

/-- `value?.field` -/
def readOptional (value : Option Json) (field : String) : Except Thrown (Option Json) :=
  match value with
  | none | some .null => .ok none
  | some v => read (some v) field

/-- `value[0]` -/
def readFirst : Option Json → Except Thrown (Option Json)
  | some (.arr elems) => .ok elems.head?
  | some (.str s) => .ok (s.toList.head?.map fun c => .str (String.singleton c))
  | value => read value "0"

def truthy (value : Option Json) : Bool := (value.map Json.truthy).getD false

/-- `value ?? fallback` -/
def orElse (value : Option Json) (fallback : Json) : Json :=
  match value with
  | none | some .null => fallback
  | some v => v

/-- `!body.field || ...` over the fields -/
def lacks (body : Json) : List String → Except Thrown Bool
  | [] => .ok false
  | field :: fields => do
    if truthy (← read (some body) field) then lacks body fields else .ok true

/-! ## Records -/

structure SqsRecord where
  messageId : String
  body : String
  /-- The queue's count of deliveries. -/
  approximateReceiveCount : Option Nat
  /-- The string value of the message attribute `messageType`. -/
  messageType : Option String

/-- What the inbound receipt rule reports, each field as the value it was parsed to;
`sesMessageId` is what follows `ses-` in the composite id. -/
structure InboundSignalMessage where
  s3Key : Option Json
  sesMessageId : Option Json
  idempotencyKey : String
  timestamp : Option Json
  primaryRecipient : Json
  dkimVerdict : Option Json
  dmarcVerdict : Option Json

/-- The handlers behind the entry point. -/
structure CompositeRoot (S : Type) where
  processSegmentMessage : Json → Js S Result
  processSideEffect : Json → Nat → Js S Result
  processDraftSend : Json → Js S Result
  processFollowup : Json → Js S Result
  processRsvpReminder : Json → Js S Result
  dispatchDigest : Js S Result
  processDigestSend : Json → Js S Result
  processEmxInbound : Json → String → Nat → Js S Result
  dispatchEmx : Json → Js S Result
  processEmxIdle : Json → Js S Result
  processNotification : Json → Js S Result
  processRsvp : InboundSignalMessage → Js S Result
  processInbound : InboundSignalMessage → Nat → Js S Result
  mailDomain : String
  /-- The three check characters of an account id, a digest of its first ten. -/
  checkBits : List Char → List Char

variable {S : Type} (root : CompositeRoot S)

/-! ## Routing -/

def validateAccountId (id : List Char) : Bool :=
  let body := id.drop 4
  "acc-".toList.isPrefixOf id && body.length == 13 &&
    body.all (fun c => c.isDigit || c.isLower) &&
    body.drop 10 == root.checkBits (body.take 10)

/-- An address at `{accountId}.{serviceDomain}`. -/
def isRsvpReplyAddress (address : List Char) : Bool :=
  if '@' ∉ address ∨ (afterLastAt address).length + 1 = address.length then false
  else
    let domainPart := toLowerCase (afterLastAt address)
    let suffix := '.' :: toLowerCase root.mailDomain.toList
    suffix.isSuffixOf domainPart &&
      validateAccountId root (domainPart.take (domainPart.length - suffix.length))

/-- `isRsvpReplyAddress` of a parsed value. Only texts and arrays have a `lastIndexOf`, and what an
array's `slice` leaves has no `toLowerCase`. -/
def isRsvpReply : Json → Except Thrown Bool
  | .str address => .ok (isRsvpReplyAddress root address.toList)
  | .arr elems =>
    if elems.tail.any fun e => match e with | .str s => s == "@" | _ => false
    then .error .typeError else .ok false
  | _ => .error .typeError

/-- A failure of an inner handler, wrapped for the queue. -/
def wrapped (result : Result) : Result := result.mapError fun _ => "processor_error"

/-- A message of the inbound receipt rule. -/
def inboundMessage (ses : Json) (sqsMessageId : String) : Except Thrown InboundSignalMessage := do
  let receipt ← read (some ses) "receipt"
  let mail ← read (some ses) "mail"
  let s3Action ← read receipt "action"
  let matchedRecipients ← read receipt "recipients"
  let primaryRecipient := orElse (← readFirst matchedRecipients) (.str "")
  return {
    s3Key := ← read s3Action "objectKey"
    sesMessageId := ← read mail "messageId"
    idempotencyKey := sqsMessageId
    timestamp := ← read mail "timestamp"
    primaryRecipient
    dkimVerdict := ← read (← read receipt "dkimVerdict") "status"
    dmarcVerdict := ← read (← read receipt "dmarcVerdict") "status" }

def processInbound (message : InboundSignalMessage) (receiveCount : Nat) : Js S Result := do
  if ← isRsvpReply root message.primaryRecipient then
    return wrapped (← root.processRsvp message)
  else
    match ← root.processInbound message receiveCount with
    | .error "no_account_for_recipient" => return .ok ()
    | result => return wrapped result

/-- An unwrapped SNS message: an inbound email, or feedback on one that was sent. -/
def processNotification (inner : Json) (receiveCount : Nat) (sqsMessageId : String) :
    Js S Result := do
  let action ← readOptional (← read (some inner) "receipt") "action"
  let mail ← read (some inner) "mail"
  if truthy action && truthy mail then
    processInbound root (← inboundMessage inner sqsMessageId) receiveCount
  else if truthy (← read (some inner) "notificationType") ||
      truthy (← read (some inner) "eventType") then
    return wrapped (← root.processNotification inner)
  else return .ok ()

def processSnsEnvelope (body : Json) (receiveCount : Nat) (sqsMessageId : String) :
    Js S Result := do
  match ← read (some body) "Type", ← read (some body) "Message" with
  | some (.str type), some (.str message) =>
    if type ≠ "Notification" then return .ok ()
    else
      match Json.parse message with
      | none => return .ok ()
      | some inner => processNotification root inner receiveCount sqsMessageId
  | _, _ => return .ok ()

/-- A message that lacks a field it needs is dropped. -/
def unlessLacking (body : Json) (fields : List String) (process : Js S Result) : Js S Result := do
  if ← lacks body fields then return .ok () else process

def processSqsRecord (body : Json) (messageType : Option Json) (receiveCount : Nat)
    (sqsMessageId : String) : Js S Result :=
  match messageType with
  | some (.str "reindex") => root.processSegmentMessage body
  | some (.str "side_effect") =>
    unlessLacking body ["signal", "thread"] (root.processSideEffect body receiveCount)
  | some (.str "draft_send") => root.processDraftSend body
  | some (.str "signal_followup") =>
    unlessLacking body ["accountId", "threadId"] (root.processFollowup body)
  | some (.str "rsvp_reminder") =>
    unlessLacking body ["accountId", "calendarSignalId", "threadId"] (root.processRsvpReminder body)
  | some (.str "digest_dispatch") => root.dispatchDigest
  | some (.str "digest_send") => unlessLacking body ["accountId"] (root.processDigestSend body)
  | some (.str "emx_inbound") =>
    unlessLacking body ["source", "providerMessageId", "emxId", "accountId"]
      (root.processEmxInbound body sqsMessageId receiveCount)
  | some (.str "emx_dispatch") => root.dispatchEmx body
  | some (.str "emx_idle") => unlessLacking body ["accountId"] (root.processEmxIdle body)
  | _ => processSnsEnvelope root body receiveCount sqsMessageId

/-! ## The batch -/

def SqsRecord.receiveCount (record : SqsRecord) : Nat := record.approximateReceiveCount.getD 1

/-- The routing type: the message attribute, or else the body's field, which the messages of a
schedule carry. -/
def resolvedMessageType (record : SqsRecord) (body : Json) : Except Thrown (Option Json) :=
  match record.messageType with
  | some messageType => .ok (some (.str messageType))
  | none => read (some body) "sqsMessageAttributeMessageType"

/-- What is thrown while the record is processed counts as its error. -/
def guarded (process : Js S Result) : StateM S Result := do
  match ← process.run with
  | .ok result => return result
  | .error _ => return .error "record_threw"

inductive Response
  | batchItemFailures (itemIdentifiers : List String)
  /-- `statusCode: 500` with a body, as for an HTTP request. -/
  | internalServerError
deriving DecidableEq, Repr

/-- The messages that the queue delivers again. A response without `batchItemFailures` means that
the whole batch is done. -/
def Response.redelivered : Response → List String
  | .batchItemFailures itemIdentifiers => itemIdentifiers
  | .internalServerError => []

/-! ## Isolation -/

/-- One record on its own, whatever becomes of the others. -/
def attempt (record : SqsRecord) : StateM S Result :=
  match Json.parse record.body with
  | none => return .error "parse_failed"
  | some body => guarded do
    let messageType ← resolvedMessageType record body
    processSqsRecord root body messageType record.receiveCount record.messageId

variable {root} {record : SqsRecord} {records : List SqsRecord}

/-- The ids of the records that did not end ok. -/
def failed (records : List SqsRecord) (results : List Result) : List String :=
  (records.zip results).filterMap fun outcome =>
    match outcome.2 with
    | .ok _ => none
    | .error _ => some outcome.1.messageId

def draftSend : SqsRecord := ⟨"msg-2", "\x7b\x7d", some 1, some "draft_send"⟩

end SesEmailAdapter.Handler.SqsBatch
