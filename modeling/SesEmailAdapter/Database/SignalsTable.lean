import SesEmailAdapter.Database.Shared
import SesEmailAdapter.Lib.KeyedTable
import SesEmailAdapter.Lib.Prog

/-! # The signals table

The DynamoDB requests that `ThreadDatabase` sends, each one atomic, and their meaning on the
signals and threads of all accounts. Every request can fail, with or without its effect. -/

namespace SesEmailAdapter.Database.SignalsTable
open Lib
open SesEmailAdapter.Types Database.Shared

/-! ## Items -/

/-- The `gsi1` partition a signal item is listed under. -/
inductive SignalPartition
  | thread (threadId : String) | quarantined | blocked
deriving DecidableEq, Repr

structure SignalItem where
  signal : Signal
  partition : SignalPartition
deriving DecidableEq, Repr

def signalItem (signal : Signal) : SignalItem where
  signal := signal
  partition :=
    if signal.threadId.getD "" ≠ "" then .thread (signal.threadId.getD "")
    else if signal.status = .quarantineVisible ∨ signal.status = .quarantineHidden then .quarantined
    else .blocked

def signalKey (item : SignalItem) : String × String :=
  (item.signal.accountId, item.signal.signalLookupId)

def threadKey (thread : Thread) : String × String := (thread.accountId, thread.id)

/-- The table: signals by account and `signalLookupId`, threads by account and id. -/
structure Store where
  signals : KeyedTable signalKey
  threads : KeyedTable threadKey

/-! ## Requests -/

/-- A conditional write that found its condition false, or any other failure. -/
inductive WriteError
  | conditionFailed
  | db (error : DbError)
deriving DecidableEq, Repr

structure SendStatusUpdate where
  status : SignalStatus
  /-- `none` leaves the attribute, `some none` removes it. -/
  sendInitiatedAt : Option (Option String)
  sesMessageId : Option String
  sendFailureReason : Option String
  gsi3pk : Option String
  threadId : Option String
deriving DecidableEq, Repr

/-- An RSVP recorded on a calendar event, with the ids of the reply it was relayed by. -/
structure RsvpUpdate where
  rsvpResponse : CalendarRsvpResponse
  sesMessageId : Option String
  gsi3pk : Option String
deriving DecidableEq, Repr

structure SignalUpdate where
  subject : Option String
  textBody : Option String
  sender : Option EmailAddress
  toAddresses : Option (List EmailAddress)
  cc : Option (List EmailAddress)
  bcc : Option (List EmailAddress)
deriving DecidableEq, Repr

structure UpdateThreadFields where
  urgency : Option ThreadUrgency
  labels : Option (List String)
  summary : Option String
  workflow : Option Workflow
  retentionDuration : Option String
  sentMessageIds : Option (List String)
  sender : Option EmailAddress
  recipientAddress : Option String
  subject : Option String
  followupAt : Option String
deriving DecidableEq, Repr

inductive Cmd
  | getSignal (accountId signalLookupId : String)
  | querySignals (accountId : String) (partition : SignalPartition)
  | querySignalsByGsi3 (gsi3pk : String)
  | putSignal (signal : Signal)
  /-- Conditional on the RSVP: the stored `respondedAt` is the given one, or there is none. -/
  | putCalendarEvent (signal : Signal) (respondedAt : Option String)
  /-- Conditional on the row being there. -/
  | setCalendarEventRsvp (accountId signalLookupId : String) (update : RsvpUpdate)
  | updateSendStatus (accountId signalLookupId : String) (update : SendStatusUpdate)
  | updateSignal (accountId signalLookupId : String) (update : SignalUpdate)
  | getThread (accountId id : String)
  | queryThreadsByGroupingKey (accountId key : String)
  | putNewThread (thread : Thread)
  | updateThread (accountId id : String) (status : ThreadStatus) (lastSignalAt now : String)
      (fields : UpdateThreadFields)
deriving DecidableEq, Repr

@[reducible] def Cmd.Answer : Cmd → Type
  | .getSignal .. => Except DbError (Option Signal)
  | .querySignals .. => Except DbError (List Signal)
  | .querySignalsByGsi3 .. => Except DbError (List Signal)
  | .putSignal .. => Except DbError Unit
  | .putCalendarEvent .. => Except WriteError Unit
  | .setCalendarEventRsvp .. => Except WriteError Unit
  | .updateSendStatus .. => Except DbError Unit
  | .updateSignal .. => Except DbError Unit
  | .getThread .. => Except DbError (Option Thread)
  | .queryThreadsByGroupingKey .. => Except DbError (List Thread)
  | .putNewThread .. => Except WriteError Unit
  | .updateThread .. => Except DbError Unit

/-! ## Their meaning -/

def rsvpOf (signal : Signal) : Option CalendarRsvpResponse :=
  match signal.data with
  | .calendarEvent data => data.rsvpResponse
  | _ => none

/-- Newest first by id. -/
def Store.signalsIn (s : Store) (accountId : String) (partition : SignalPartition) : List Signal :=
  ((s.signals.rows.filter fun item =>
    item.signal.accountId = accountId ∧ item.partition = partition).map
      SignalItem.signal).mergeSort fun a b => decide (b.id ≤ a.id)

def SendStatusUpdate.applyData (u : SendStatusUpdate) (data : OutboundEmailSignalData) :
    OutboundEmailSignalData :=
  { data with
    sendInitiatedAt := u.sendInitiatedAt.getD data.sendInitiatedAt
    sesMessageId := u.sesMessageId <|> data.sesMessageId
    sendFailureReason := u.sendFailureReason <|> data.sendFailureReason }

def SendStatusUpdate.apply (u : SendStatusUpdate) (signal : Signal) : Signal :=
  { signal with
    status := u.status
    gsi3pk := u.gsi3pk <|> signal.gsi3pk
    threadId := u.threadId <|> signal.threadId
    data := match signal.data with
      | .outboundEmail data => .outboundEmail (u.applyData data)
      | data => data }

def RsvpUpdate.apply (u : RsvpUpdate) (signal : Signal) : Signal :=
  { signal with
    gsi3pk := u.gsi3pk <|> signal.gsi3pk
    data := match signal.data with
      | .calendarEvent data => .calendarEvent { data with
          rsvpResponse := some u.rsvpResponse
          sesMessageId := u.sesMessageId <|> data.sesMessageId }
      | data => data }

def SignalUpdate.apply (u : SignalUpdate) (signal : Signal) : Signal :=
  { signal with
    data := match signal.data with
      | .outboundEmail data => .outboundEmail { data with
          subject := u.subject.getD data.subject
          textBody := u.textBody <|> data.textBody
          sender := u.sender.getD data.sender
          toAddresses := u.toAddresses.getD data.toAddresses
          cc := u.cc.getD data.cc
          bcc := u.bcc.getD data.bcc }
      | data => data }

/-- An update of a row that is missing leaves one with only the attributes it sets. -/
def bareThread (accountId id now : String) : Thread where
  id := id
  accountId := accountId
  groupingKey := none
  workflow := .unspecified
  labels := []
  status := .active
  summary := ""
  lastSignalAt := ""
  createdAt := now
  updatedAt := now
  retentionDuration := none
  sentMessageIds := none
  urgency := none
  followupAt := none
  sender := ⟨"", none⟩
  recipientAddress := ""
  subject := ""

def UpdateThreadFields.apply (f : UpdateThreadFields) (status : ThreadStatus)
    (lastSignalAt now : String) (thread : Thread) : Thread :=
  { thread with
    status := status
    lastSignalAt := lastSignalAt
    updatedAt := now
    urgency := f.urgency <|> thread.urgency
    labels := f.labels.getD thread.labels
    summary := f.summary.getD thread.summary
    workflow := f.workflow.getD thread.workflow
    retentionDuration := f.retentionDuration <|> thread.retentionDuration
    sentMessageIds := f.sentMessageIds <|> thread.sentMessageIds
    sender := f.sender.getD thread.sender
    recipientAddress := f.recipientAddress.getD thread.recipientAddress
    subject := f.subject.getD thread.subject
    followupAt := f.followupAt <|> thread.followupAt }

def Store.saveItem (s : Store) (signal : Signal) : Store :=
  { s with signals := s.signals.put (signalItem signal) }

/-- An update of one signal row. It does not move the row, and where there is none it leaves a
bare item without index keys, which no read shows. -/
def Store.updateItem (s : Store) (key : String × String) (update : Signal → Signal) : Store :=
  match s.signals.get key with
  | some item => { s with signals := s.signals.put { item with signal := update item.signal } }
  | none => s

def exec : (c : Cmd) → Store → c.Answer × Store
  | .getSignal accountId lookupId, s =>
    (.ok ((s.signals.get (accountId, lookupId)).map SignalItem.signal), s)
  | .querySignals accountId partition, s => (.ok (s.signalsIn accountId partition), s)
  | .querySignalsByGsi3 gsi3pk, s =>
    (.ok ((s.signals.rows.filter fun item => item.signal.gsi3pk = some gsi3pk).map
      SignalItem.signal), s)
  | .putSignal signal, s => (.ok (), s.saveItem signal)
  | .putCalendarEvent signal respondedAt, s =>
    let stored := (s.signals.get (signal.accountId, signal.signalLookupId)).bind
      fun item => rsvpOf item.signal
    if stored.map CalendarRsvpResponse.respondedAt = respondedAt then (.ok (), s.saveItem signal)
    else (.error .conditionFailed, s)
  | .setCalendarEventRsvp accountId lookupId update, s =>
    match s.signals.get (accountId, lookupId) with
    | some _ => (.ok (), s.updateItem (accountId, lookupId) update.apply)
    | none => (.error .conditionFailed, s)
  | .updateSendStatus accountId lookupId update, s =>
    (.ok (), s.updateItem (accountId, lookupId) update.apply)
  | .updateSignal accountId lookupId update, s =>
    (.ok (), s.updateItem (accountId, lookupId) update.apply)
  | .getThread accountId id, s => (.ok (s.threads.get (accountId, id)), s)
  | .queryThreadsByGroupingKey accountId key, s =>
    (.ok (s.threads.rows.filter fun t => t.accountId = accountId ∧ t.groupingKey = some key), s)
  | .putNewThread thread, s =>
    match s.threads.get (thread.accountId, thread.id) with
    | some _ => (.error .conditionFailed, s)
    | none => (.ok (), { s with threads := s.threads.put thread })
  | .updateThread accountId id status lastSignalAt now fields, s =>
    let stored := (s.threads.get (accountId, id)).getD (bareThread accountId id now)
    (.ok (), { s with threads := s.threads.put (fields.apply status lastSignalAt now stored) })

def requestFailed : DbError := ⟨"request failed"⟩

def failure : (c : Cmd) → c.Answer
  | .getSignal .. => .error requestFailed
  | .querySignals .. => .error requestFailed
  | .querySignalsByGsi3 .. => .error requestFailed
  | .putSignal .. => .error requestFailed
  | .putCalendarEvent .. => .error (.db requestFailed)
  | .setCalendarEventRsvp .. => .error (.db requestFailed)
  | .updateSendStatus .. => .error requestFailed
  | .updateSignal .. => .error requestFailed
  | .getThread .. => .error requestFailed
  | .queryThreadsByGroupingKey .. => .error requestFailed
  | .putNewThread .. => .error (.db requestFailed)
  | .updateThread .. => .error requestFailed

def settle : (c : Cmd) → Store → Fate → c.Answer × Store := settleRequest exec failure

def service : Service Cmd Cmd.Answer Store Fate := ⟨settle, .done⟩

abbrev DbProg (α : Type) := Prog Cmd Cmd.Answer α

@[simp] def request (c : Cmd) : DbProg c.Answer := Prog.perform c

/-! ## Reads -/

theorem mem_signalsIn {s : Store} {accountId : String} {partition : SignalPartition}
    {signal : Signal} (h : signal ∈ s.signalsIn accountId partition) :
    signal.accountId = accountId ∧ ∃ item,
      s.signals.get (accountId, signal.signalLookupId) = some item ∧ item.signal = signal ∧
        item.partition = partition := by
  rw [Store.signalsIn, List.mem_mergeSort] at h
  obtain ⟨item, hmem, rfl⟩ := List.mem_map.mp h
  obtain ⟨hrow, hmatch⟩ := List.mem_filter.mp hmem
  rw [decide_eq_true_eq] at hmatch
  obtain ⟨rfl, rfl⟩ := hmatch
  exact ⟨rfl, item, KeyedTable.mem_rows_iff.mp hrow, rfl, rfl⟩

/-! ## Updates of a row -/

/-- What an update of a signal row leaves as it was: the keys of the row. -/
def KeepsKey (update : Signal → Signal) : Prop :=
  ∀ signal, (update signal).accountId = signal.accountId ∧
    (update signal).signalLookupId = signal.signalLookupId

theorem sendStatusUpdate_keepsKey (update : SendStatusUpdate) : KeepsKey update.apply :=
  fun _ => ⟨rfl, rfl⟩

theorem rsvpUpdate_keepsKey (update : RsvpUpdate) : KeepsKey update.apply :=
  fun _ => ⟨rfl, rfl⟩

theorem signalUpdate_keepsKey (update : SignalUpdate) : KeepsKey update.apply :=
  fun _ => ⟨rfl, rfl⟩

theorem get_updateItem {update : Signal → Signal} (hkeeps : KeepsKey update) (s : Store)
    (key key' : String × String) :
    (s.updateItem key update).signals.get key' =
      if key' = key then
        (s.signals.get key).map fun item => { item with signal := update item.signal }
      else s.signals.get key' := by
  unfold Store.updateItem
  cases hget : s.signals.get key with
  | none =>
    by_cases hkey : key' = key
    · rw [if_pos hkey, hkey, hget]
      rfl
    · rw [if_neg hkey]
  | some item =>
    have hitem : signalKey { item with signal := update item.signal } = key := by
      obtain ⟨haccount, hlookup⟩ := hkeeps item.signal
      rw [← KeyedTable.key_of_get hget]
      exact Prod.ext haccount hlookup
    rw [KeyedTable.get_put, hitem]
    rfl

end SesEmailAdapter.Database.SignalsTable
