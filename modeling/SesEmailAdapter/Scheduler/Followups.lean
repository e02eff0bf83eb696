import SesEmailAdapter.Api.ThreadsApi
import SesEmailAdapter.Processor.InboundMessage

/-! # Followups

Setting a thread's followup, the messages and schedules that stand for it, and what the worker
does when such a message arrives. A message names its thread and no time. -/

namespace SesEmailAdapter.Scheduler.Followups
open Lib
open SesEmailAdapter.Types Database Database.Shared
open Database.ThreadDatabase
open Api.ThreadsApi (ApiError internalError)

/-! ## The queue and the scheduler -/

structure FollowupMessage where
  accountId : String
  threadId : String
deriving DecidableEq, Repr

/-- A queued message, delivered from `due` on and perhaps more than once. -/
structure Queued where
  message : FollowupMessage
  due : Nat
deriving DecidableEq, Repr

/-- A schedule sends its message at `fireAt`. -/
structure Schedule where
  name : String
  fireAt : Nat
  message : FollowupMessage
deriving DecidableEq, Repr

inductive ScheduleError
  | conflict
  | failed (error : DbError)
deriving DecidableEq, Repr

inductive Cmd
  | db (c : SignalsTable.Cmd)
  | send (message : FollowupMessage) (delaySeconds : Nat)
  | createSchedule (schedule : Schedule)
  | updateSchedule (schedule : Schedule)
  | saveSender (accountId : String) (recipientAddress : Option String) (senderETLD1 : String)
  | notifyThread (accountId : String) (thread : Thread) (urgency : ThreadUrgency)
deriving DecidableEq, Repr

@[reducible] def Cmd.Answer : Cmd → Type
  | .db c => c.Answer
  | .send .. => Except DbError Unit
  | .createSchedule _ => Except ScheduleError Unit
  | .updateSchedule _ => Except ScheduleError Unit
  | .saveSender .. => Except DbError Unit
  | .notifyThread .. => Except DbError Unit

/-- Times are milliseconds since the epoch; `notified` are the threads of the notifications sent,
newest first. -/
structure World where
  now : Nat
  table : SignalsTable.Store
  queue : List Queued
  schedules : KeyedTable Schedule.name
  notified : List (String × String)

def exec : (c : Cmd) → World → c.Answer × World
  | .db c, w => ((SignalsTable.exec c w.table).1, { w with table := (SignalsTable.exec c w.table).2 })
  | .send message delaySeconds, w =>
    (.ok (), { w with queue := w.queue ++ [⟨message, w.now + delaySeconds * 1000⟩] })
  | .createSchedule schedule, w => match w.schedules.get schedule.name with
    | some _ => (.error .conflict, w)
    | none => (.ok (), { w with schedules := w.schedules.put schedule })
  | .updateSchedule schedule, w => match w.schedules.get schedule.name with
    | some _ => (.ok (), { w with schedules := w.schedules.put schedule })
    | none => (.error (.failed SignalsTable.requestFailed), w)
  | .saveSender .., w => (.ok (), w)
  | .notifyThread accountId thread _, w =>
    (.ok (), { w with notified := (accountId, thread.id) :: w.notified })

def failure : (c : Cmd) → c.Answer
  | .db c => SignalsTable.failure c
  | .send .. => .error SignalsTable.requestFailed
  | .createSchedule _ => .error (.failed SignalsTable.requestFailed)
  | .updateSchedule _ => .error (.failed SignalsTable.requestFailed)
  | .saveSender .. => .error SignalsTable.requestFailed
  | .notifyThread .. => .error SignalsTable.requestFailed

def service : Service Cmd Cmd.Answer World Fate := ⟨settleRequest exec failure, .done⟩

abbrev FollowupProg (α : Type) := Prog Cmd Cmd.Answer α

def db {α : Type} (p : SignalsTable.DbProg α) : FollowupProg α := p.embed .db fun _ r => r

/-- The functions of libraries: dates, names, domains, and the moment at which a thread's retention
ends, if it has one. -/
structure Env where
  getTime : String → Nat
  toISOString : Nat → String
  buildScheduleName : String → String → String → String
  getDomain : String → Option String
  expiresAt : Thread → Option Nat

/-- `at(...)` has no fraction of a second. -/
def atSecond (time : Nat) : Nat := time / 1000 * 1000

/-- A schedule of this name that is there already is moved to the new time. -/
def createSchedule (schedule : Schedule) : FollowupProg (Except DbError Unit) := do
  let created : Except ScheduleError Unit ← Prog.perform (Cmd.createSchedule schedule)
  match created with
  | .ok () => return .ok ()
  | .error (.failed error) => return .error error
  | .error .conflict => do
    let updated : Except ScheduleError Unit ← Prog.perform (Cmd.updateSchedule schedule)
    match updated with
    | .ok () => return .ok ()
    | .error (.failed error) => return .error error
    | .error .conflict => return .error ⟨"conflict"⟩

def followupSchedule (env : Env) (accountId threadId scheduleKeyId suffix : String)
    (fireAt : Nat) : Schedule where
  name := env.buildScheduleName accountId scheduleKeyId suffix
  fireAt := atSecond fireAt
  message := ⟨accountId, threadId⟩

def createFollowupSchedule (env : Env) (accountId threadId scheduleKeyId suffix : String)
    (fireAt : Nat) : FollowupProg (Except DbError Unit) :=
  createSchedule (followupSchedule env accountId threadId scheduleKeyId suffix fireAt)

/-! ## The worker -/

def noFields : SignalsTable.UpdateThreadFields :=
  ⟨none, none, none, none, none, none, none, none, none, none⟩

/-- The followup that a thread has; an empty text is none. -/
def followupOf (thread : Thread) : Option String := thread.followupAt.filter (· ≠ "")

def notifyThread (accountId : String) (thread : Thread) : FollowupProg (Except DbError Unit) :=
  Prog.perform (Cmd.notifyThread accountId thread (thread.urgency.getD .normal))

/-- Reactivates an archived thread that has a followup; `now` is the time of the delivery. -/
def process (now : String) (message : FollowupMessage) : FollowupProg (Except DbError Unit) := do
  let threadResult : Except DbError (Option Thread) ←
    db (getThread message.accountId message.threadId)
  match threadResult with
  | .error error => return .error error
  | .ok none => return .ok ()
  | .ok (some thread) =>
    if thread.status = .deleted then return .ok ()
    else match followupOf thread with
      | none => return .ok ()
      | some _ => match thread.status with
        | .active => notifyThread message.accountId thread
        | .archived => do
          let updateResult : Except DbError Unit ←
            db (updateThread message.accountId message.threadId .active now now noFields)
          match updateResult with
          | .error error => return .error error
          | .ok () =>
            notifyThread message.accountId { thread with status := .active, updatedAt := now }
        -- a deleted thread, or one reported as a violation
        | _ => return .ok ()

/-! ## Setting a followup -/

structure UpdateThreadRequest where
  status : Option ThreadStatus
  urgency : Option ThreadUrgency
  labels : Option (List String)
  lastSignalAt : Option String
  followupAt : Option String
deriving DecidableEq, Repr

def UpdateThreadRequest.fields (body : UpdateThreadRequest) : SignalsTable.UpdateThreadFields :=
  { noFields with
    urgency := body.urgency
    labels := body.labels
    followupAt := body.followupAt }

/-- The sender and the recipient that an email names; an outbound one has no `recipientAddress`. -/
def emailParties (signal : Signal) : Option (EmailAddress × Option String) :=
  match signal.data with
  | .inboundEmail data => some (data.sender, some data.recipientAddress)
  | .outboundEmail data => some (data.sender, none)
  | _ => none

def senderDomain (env : Env) (sender : EmailAddress) : String :=
  let domain := String.ofList (Email.Address.afterLastAt sender.address.toList)
  (env.getDomain domain).getD domain

def writeThread (accountId threadId : String) (status : ThreadStatus) (lastSignalAt now : String)
    (fields : SignalsTable.UpdateThreadFields) : FollowupProg (Except ApiError Unit) := do
  let updateResult : Except DbError Unit ←
    db (updateThread accountId threadId status lastSignalAt now fields)
  return updateResult.mapError fun _ => internalError

/-- Blocks the sender of the newest signal, and deletes the thread. -/
def reportViolation (env : Env) (accountId now : String) (thread : Thread) :
    FollowupProg (Except ApiError Unit) := do
  let signalsResult : Except DbError (List Signal) ←
    db (SignalsTable.request (.querySignals accountId (.thread thread.id)))
  match signalsResult with
  | .error _ => return .error internalError
  | .ok signals => match signals.head?.bind emailParties with
    | none => writeThread accountId thread.id .deleted thread.lastSignalAt now noFields
    | some (sender, recipientAddress) => do
      let saveSenderResult : Except DbError Unit ←
        Prog.perform (Cmd.saveSender accountId recipientAddress (senderDomain env sender))
      match saveSenderResult with
      | .error _ => return .error internalError
      | .ok () => writeThread accountId thread.id .deleted thread.lastSignalAt now noFields

/-- The refusal of a followup time. -/
def followupError (env : Env) (now : Nat) (thread : Thread) (followupTime : Nat) :
    Option ApiError :=
  if followupTime < now then some ⟨400, "followupAt must be in the future", none⟩
  else if (env.expiresAt thread).any fun expiresAt => followupTime > expiresAt then
    some ⟨400, "followupAt exceeds thread retention expiration", none⟩
  else none

/-- Within 15 minutes it is a delayed message, and a schedule of the thread's own beyond that. -/
def scheduleFollowup (env : Env) (now : Nat) (accountId threadId : String) (followupTime : Nat) :
    FollowupProg (Except ApiError Unit) := do
  let deltaMs := followupTime - now
  if deltaMs ≤ 900000 then do
    let sqsResult : Except DbError Unit ←
      Prog.perform (Cmd.send ⟨accountId, threadId⟩ ((deltaMs + 999) / 1000))
    return sqsResult.mapError fun _ => ⟨500, "Failed to schedule followup", none⟩
  else do
    let scheduleResult ←
      createFollowupSchedule env accountId threadId threadId "followup" followupTime
    return scheduleResult.mapError fun _ => ⟨500, "Failed to create followup schedule", none⟩

def UpdateThreadRequest.followup (body : UpdateThreadRequest) : Option String :=
  body.followupAt.filter (· ≠ "")

/-- A followup without a status archives the thread. -/
def UpdateThreadRequest.newStatus (body : UpdateThreadRequest) (thread : Thread) : ThreadStatus :=
  body.status.getD (if body.followup.isSome then .archived else thread.status)

/-- The followup is scheduled first, and then the thread is updated. -/
def updateWith (env : Env) (now : Nat) (accountId : String) (thread : Thread)
    (body : UpdateThreadRequest) : FollowupProg (Except ApiError Unit) := do
  let write := writeThread accountId thread.id (body.newStatus thread)
    (body.lastSignalAt.getD thread.lastSignalAt) (env.toISOString now) body.fields
  match body.followup with
  | none => write
  | some followupAt => match followupError env now thread (env.getTime followupAt) with
    | some error => return .error error
    | none => do
      let scheduled ← scheduleFollowup env now accountId thread.id (env.getTime followupAt)
      match scheduled with
      | .error error => return .error error
      | .ok () => write

def patchThread (env : Env) (now : Nat) (accountId threadId : String)
    (body : UpdateThreadRequest) : FollowupProg (Except ApiError Unit) := do
  let threadResult : Except DbError (Option Thread) ← db (getThread accountId threadId)
  match threadResult with
  | .error _ => return .error internalError
  | .ok none => return .error ⟨404, "Thread not found", some "THREAD_NOT_FOUND"⟩
  | .ok (some thread) =>
    if body.status = some .reportViolation then
      reportViolation env accountId (env.toISOString now) thread
    else updateWith env now accountId thread body

end SesEmailAdapter.Scheduler.Followups
