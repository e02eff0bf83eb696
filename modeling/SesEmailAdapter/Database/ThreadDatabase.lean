import SesEmailAdapter.Database.SignalsTable

/-! # ThreadDatabase

The methods over the signals table, as programs of its requests. `stale` tells of a timestamp
whether it lies more than `PENDING_SEND_STALE_HOURS` before the time of the read. -/

namespace SesEmailAdapter.Database.ThreadDatabase
open SesEmailAdapter.Types Database.Shared Database.SignalsTable

/-! ## Reads -/

def hydrateSignal (item : Signal) : Signal :=
  { item with labels := some (item.labels.getD []) }

def sendInitiatedAtOf (signal : Signal) : Option String :=
  match signal.data with
  | .outboundEmail data => data.sendInitiatedAt
  | _ => none

/-- A pending send that was never initiated, or too long ago, reads as a draft. -/
def coerceStaleStatus (stale : String → Bool) (signal : Signal) : Signal :=
  if signal.status = .pendingSend then
    match sendInitiatedAtOf signal with
    | none => { signal with status := .draft }
    | some sendInitiatedAt =>
      if stale sendInitiatedAt then { signal with status := .draft } else signal
  else signal

def readSignal (stale : String → Bool) (item : Signal) : Signal :=
  coerceStaleStatus stale (hydrateSignal item)

/-- The sentinel ids of the two pre-thread partitions. -/
def partitionOf (threadId : String) : SignalPartition :=
  if threadId = "QUARANTINED" then .quarantined
  else if threadId = "BLOCKED" then .blocked
  else .thread threadId

/-- The signal of an id among those of a partition. -/
def signalIn (stale : String → Bool) (signalId : String) (items : List Signal) : Option Signal :=
  (items.find? fun item => item.id = signalId).map (readSignal stale)

@[simp] theorem readSignal_data (stale : String → Bool) (item : Signal) :
    (readSignal stale item).data = item.data := by
  unfold readSignal coerceStaleStatus
  repeat' split
  all_goals rfl

@[simp] theorem readSignal_signalLookupId (stale : String → Bool) (item : Signal) :
    (readSignal stale item).signalLookupId = item.signalLookupId := by
  unfold readSignal coerceStaleStatus
  repeat' split
  all_goals rfl

@[simp] theorem readSignal_threadId (stale : String → Bool) (item : Signal) :
    (readSignal stale item).threadId = item.threadId := by
  unfold readSignal coerceStaleStatus
  repeat' split
  all_goals rfl

@[simp] theorem readSignal_id (stale : String → Bool) (item : Signal) :
    (readSignal stale item).id = item.id := by
  unfold readSignal coerceStaleStatus
  repeat' split
  all_goals rfl

/-- No read makes a draft pending. -/
theorem pendingSend_of_read {stale : String → Bool} {item : Signal}
    (h : (readSignal stale item).status = .pendingSend) : item.status = .pendingSend := by
  by_contra hne
  have hread : (hydrateSignal item).status ≠ .pendingSend := hne
  unfold readSignal coerceStaleStatus at h
  rw [if_neg hread] at h
  exact hread h

theorem signalIn_eq_some {stale : String → Bool} {signalId : String} {items : List Signal}
    {signal : Signal} (h : signalIn stale signalId items = some signal) :
    ∃ item ∈ items, item.id = signalId ∧ readSignal stale item = signal := by
  obtain ⟨item, hfind, rfl⟩ := Option.map_eq_some_iff.mp h
  exact ⟨item, List.mem_of_find?_eq_some hfind, of_decide_eq_true (List.find?_some hfind :), rfl⟩

def getSignalById (stale : String → Bool) (accountId signalId threadId : String) :
    DbProg (Except DbError (Option Signal)) := do
  let res : Except DbError (List Signal) ←
    request (.querySignals accountId (partitionOf threadId))
  return res.map (signalIn stale signalId)

def getSignalByMessageId (stale : String → Bool) (accountId signalLookupId : String) :
    DbProg (Except DbError (Option Signal)) := do
  let res : Except DbError (Option Signal) ← request (.getSignal accountId signalLookupId)
  return res.map fun item => item.map (readSignal stale)

/-- The oldest signal under a Message-ID, threaded or not. -/
def findSignalByEmailMessageId (gsi3pk : String) : DbProg (Except DbError (Option Signal)) := do
  let res : Except DbError (List Signal) ← request (.querySignalsByGsi3 gsi3pk)
  return res.map fun items =>
    (items.mergeSort fun a b => decide (a.createdAt ≤ b.createdAt)).head?

/-- The first page of a partition. -/
def listFirst (accountId : String) (partition : SignalPartition) (limit : Nat) :
    DbProg (Except DbError (List Signal)) := do
  let res : Except DbError (List Signal) ← request (.querySignals accountId partition)
  return res.map fun items => (items.take (min limit 100)).map hydrateSignal

def listSignals (accountId threadId : String) (limit : Nat) :
    DbProg (Except DbError (List Signal)) :=
  listFirst accountId (.thread threadId) limit

def listPreThreadSignals (accountId : String) (partition : SignalPartition) (limit : Nat) :
    DbProg (Except DbError (List Signal)) :=
  listFirst accountId partition limit

def getThread (accountId id : String) : DbProg (Except DbError (Option Thread)) :=
  request (.getThread accountId id)

def findThreadByGroupingKey (accountId key : String) : DbProg (Except DbError (Option Thread)) := do
  let res : Except DbError (List Thread) ←
    request (.queryThreadsByGroupingKey accountId key)
  return res.map List.head?

/-- The newest calendar event of a thread that an email carried. -/
def getLinkedCalendarSignal (accountId threadId emailSignalId : String) :
    DbProg (Except DbError (Option Signal)) := do
  let res : Except DbError (List Signal) ← request (.querySignals accountId (.thread threadId))
  let linked (signal : Signal) : Bool := match signal.data with
    | .calendarEvent data => data.linkedSignalId = emailSignalId
    | _ => false
  return res.map fun items => (items.find? linked).map hydrateSignal

/-! ## Writes -/

def saveSignal (signal : Signal) : DbProg (Except DbError Unit) :=
  request (.putSignal signal)

def updateSignalSendStatus (accountId signalLookupId : String) (update : SendStatusUpdate) :
    DbProg (Except DbError Unit) :=
  request (.updateSendStatus accountId signalLookupId update)

def updateSignal (accountId signalLookupId : String) (update : SignalUpdate) :
    DbProg (Except DbError Unit) :=
  request (.updateSignal accountId signalLookupId update)

def updateThread (accountId id : String) (status : ThreadStatus) (lastSignalAt now : String)
    (fields : UpdateThreadFields) : DbProg (Except DbError Unit) :=
  request (.updateThread accountId id status lastSignalAt now fields)

inductive CreateThreadError
  | db (error : DbError)
  | threadIdCollision (threadId : String)
deriving DecidableEq, Repr

/-- Creates the thread, or accepts the row already there when it is the same conversation. -/
def createThread (thread : Thread) : DbProg (Except CreateThreadError Unit) := do
  let put : Except WriteError Unit ← request (.putNewThread thread)
  match put with
  | .ok () => return .ok ()
  | .error (.db error) => return .error (.db error)
  | .error .conditionFailed =>
    let existingResult ← getThread thread.accountId thread.id
    match existingResult with
    | .error error => return .error (.db error)
    | .ok none => return .error (.db ⟨"conditional check failed"⟩)
    | .ok (some existing) =>
      if existing.sender.address = thread.sender.address ∧
          existing.recipientAddress = thread.recipientAddress then return .ok ()
      else return .error (.threadIdCollision thread.id)

/-! ## Calendar events -/

/-- A signal whose payload is a calendar event. -/
structure CalendarEventSignal where
  signal : Signal
  data : CalendarEventData
  isEvent : signal.data = .calendarEvent data

/-- The snapshot with the RSVP of the row it replaces. -/
def CalendarEventSignal.withRsvp (event : CalendarEventSignal)
    (prior : Option CalendarRsvpResponse) : Signal :=
  { event.signal with data := .calendarEvent { event.data with rsvpResponse := prior } }

def saveCalendarEventAttempts (event : CalendarEventSignal) :
    Nat → DbProg (Except DbError Unit)
  | 0 => return .error ⟨"Calendar event RSVP kept changing while saving the event; giving up " ++
      "after 3 attempts."⟩
  | attempts + 1 => do
    let existing : Except DbError (Option Signal) ←
      request (.getSignal event.signal.accountId event.signal.signalLookupId)
    match existing with
    | .error error => return .error error
    | .ok item =>
      let prior := item.bind rsvpOf
      let put : Except WriteError Unit ← request
        (.putCalendarEvent (event.withRsvp prior) (prior.map CalendarRsvpResponse.respondedAt))
      match put with
      | .ok () => return .ok ()
      | .error .conditionFailed => saveCalendarEventAttempts event attempts
      | .error (.db error) => return .error error

/-- Saves a snapshot in the row of its event, keeping the RSVP recorded there. -/
def saveCalendarEventSignal (event : CalendarEventSignal) : DbProg (Except DbError Unit) :=
  saveCalendarEventAttempts event 3

end SesEmailAdapter.Database.ThreadDatabase
