import SesEmailAdapter.Database.Listing
import SesEmailAdapter.Database.ThreadDatabase
import SesEmailAdapter.Lib.Runs

/-! # Signal rows and their index keys

The attributes that a signal's row really has. Every write names the attributes it sets; an
update of a row that is missing makes one of just these. A row is in the index `gsi1` when it has
both of its keys there, and is listed in the one partition that they name. -/

namespace SesEmailAdapter.Database.SignalRows
open Lib
open SesEmailAdapter.Types Database.SignalsTable
open Database.ThreadDatabase
open Database.Listing (threadPk preThreadPk)

/-! ## Rows -/

/-- A row, under the account and lookup id that its `pk` is made of. -/
structure SignalRow where
  key : String × String
  id : Option String
  threadId : Option String
  status : Option SignalStatus
  labels : Option (List String)
  createdAt : Option String
  retentionDuration : Option String
  data : Option SignalData
  gsi1pk : Option String
  gsi1sk : Option String
  gsi3pk : Option String

abbrev SignalTable := KeyedTable SignalRow.key

def isQuarantined (status : Option SignalStatus) : Bool :=
  status = some .quarantineVisible ∨ status = some .quarantineHidden

/-- The partition of a signal, by its thread or else by its status. -/
def partitionFor (threadId : Option String) (status : Option SignalStatus) : SignalPartition :=
  if threadId.getD "" ≠ "" then .thread (threadId.getD "")
  else if isQuarantined status then .quarantined
  else .blocked

def partitionPk (accountId : String) : SignalPartition → String
  | .thread threadId => threadPk accountId threadId
  | .quarantined => preThreadPk accountId .quarantined
  | .blocked => preThreadPk accountId .blocked

/-- The whole item of a signal. -/
def signalRow (signal : Signal) : SignalRow where
  key := (signal.accountId, signal.signalLookupId)
  id := some signal.id
  threadId := signal.threadId
  status := some signal.status
  labels := signal.labels
  createdAt := some signal.createdAt
  retentionDuration := signal.retentionDuration
  data := some signal.data
  gsi1pk := some (partitionPk signal.accountId (signalItem signal).partition)
  gsi1sk := some signal.id
  gsi3pk := signal.gsi3pk

/-- The row without attributes that an update of a missing row starts from. -/
def missingRow (key : String × String) : SignalRow where
  key := key
  id := none
  threadId := none
  status := none
  labels := none
  createdAt := none
  retentionDuration := none
  data := none
  gsi1pk := none
  gsi1sk := none
  gsi3pk := none

theorem partition_signalItem (signal : Signal) :
    (signalItem signal).partition = partitionFor signal.threadId (some signal.status) := by
  simp [signalItem, partitionFor, isQuarantined]

/-! ## Writes -/

inductive BlockStatus
  | blockHidden | blockReject | reportViolation
deriving DecidableEq, Repr

def BlockStatus.toStatus : BlockStatus → SignalStatus
  | .blockHidden => .blockHidden
  | .blockReject => .blockReject
  | .reportViolation => .reportViolation

inductive SendStatus
  | pendingSend | sent | draft
deriving DecidableEq, Repr

def SendStatus.toStatus : SendStatus → SignalStatus
  | .pendingSend => .pendingSend
  | .sent => .sent
  | .draft => .draft

/-- The fields of `updateSignalSendStatus` beside the status. `sendInitiatedAt` is removed by
`some none`. -/
structure SendStatusFields where
  sendInitiatedAt : Option (Option String)
  sentAt : Option String
  sesMessageId : Option String
  sendFailureReason : Option String
  gsi3pk : Option String
  threadId : Option String

/-- Some part of the expression is about `#data`. The name is declared in every case, and the
table refuses an update that declares a name and does not use it. -/
def SendStatusFields.usesData (fields : SendStatusFields) : Bool :=
  fields.sendInitiatedAt.isSome || fields.sentAt.isSome || fields.sesMessageId.isSome ||
    fields.sendFailureReason.isSome

def SendStatusFields.update (fields : SendStatusFields) (status : SendStatus) :
    SendStatusUpdate where
  status := status.toStatus
  sendInitiatedAt := fields.sendInitiatedAt
  sesMessageId := fields.sesMessageId
  sendFailureReason := fields.sendFailureReason
  gsi3pk := fields.gsi3pk
  threadId := fields.threadId

def saveSignal (signal : Signal) (t : SignalTable) : SignalTable := t.put (signalRow signal)

def rsvpIn (row : SignalRow) : Option CalendarRsvpResponse :=
  match row.data with
  | some (.calendarEvent data) => data.rsvpResponse
  | _ => none

/-- The put of `saveCalendarEventSignal` after it has read `prior`, if its condition holds. -/
def saveCalendarEventSignal (event : CalendarEventSignal) (prior : Option CalendarRsvpResponse)
    (t : SignalTable) : SignalTable :=
  let stored := (t.get (event.signal.accountId, event.signal.signalLookupId)).bind rsvpIn
  if stored.map CalendarRsvpResponse.respondedAt = prior.map CalendarRsvpResponse.respondedAt then
    t.put (signalRow (event.withRsvp prior))
  else t

def updateSignalStatus (accountId signalLookupId : String) (status : BlockStatus)
    (t : SignalTable) : SignalTable :=
  let row := (t.get (accountId, signalLookupId)).getD (missingRow (accountId, signalLookupId))
  t.put { row with
    status := some status.toStatus
    gsi1pk := some (preThreadPk accountId .blocked) }

def unblockSignal (accountId signalLookupId threadId : String) (t : SignalTable) : SignalTable :=
  let row := (t.get (accountId, signalLookupId)).getD (missingRow (accountId, signalLookupId))
  t.put { row with
    threadId := some threadId
    status := some .active
    gsi1pk := some (threadPk accountId threadId) }

/-- The row with a send status; a path into `data` needs the attribute to be there. -/
def SignalRow.withSendStatus (row : SignalRow) (status : SendStatus) (fields : SendStatusFields)
    (data : SignalData) : SignalRow :=
  { row with
    threadId := fields.threadId <|> row.threadId
    status := some status.toStatus
    gsi3pk := fields.gsi3pk <|> row.gsi3pk
    data := some (match data with
      | .outboundEmail email => .outboundEmail ((fields.update status).applyData email)
      | data => data) }

def updateSignalSendStatus (accountId signalLookupId : String) (status : SendStatus)
    (fields : SendStatusFields) (t : SignalTable) : SignalTable :=
  match (t.get (accountId, signalLookupId)), fields.usesData with
  | some row, true => match row.data with
    | some data => t.put (row.withSendStatus status fields data)
    | none => t
  | _, _ => t

/-- The writes of a run, in the order in which they take place. -/
inductive Op
  | saveSignal (signal : Signal)
  | saveCalendarEventSignal (event : CalendarEventSignal) (prior : Option CalendarRsvpResponse)
  | updateSignalStatus (accountId signalLookupId : String) (status : BlockStatus)
  | unblockSignal (accountId signalLookupId threadId : String)
  | updateSignalSendStatus (accountId signalLookupId : String) (status : SendStatus)
      (fields : SendStatusFields)

def step (t : SignalTable) : Op → SignalTable
  | .saveSignal signal => saveSignal signal t
  | .saveCalendarEventSignal event prior => saveCalendarEventSignal event prior t
  | .updateSignalStatus accountId lookupId status => updateSignalStatus accountId lookupId status t
  | .unblockSignal accountId lookupId threadId => unblockSignal accountId lookupId threadId t
  | .updateSignalSendStatus accountId lookupId status fields =>
    updateSignalSendStatus accountId lookupId status fields t

/-! ## The invariant -/

/-- The index keys are those of `signalItem` for the row's own id, thread and status. -/
structure Keyed (row : SignalRow) : Prop where
  gsi1pk : row.gsi1pk = some (partitionPk row.key.1 (partitionFor row.threadId row.status))
  gsi1sk : row.gsi1sk = row.id
  id : row.id.isSome

/-- The query for a partition finds the row. -/
def ListedIn (row : SignalRow) (partition : SignalPartition) : Prop :=
  row.gsi1pk = some (partitionPk row.key.1 partition) ∧ row.gsi1sk.isSome

/-- The row is listed in its own partition, and in no other one. -/
def ListedOnce (row : SignalRow) : Prop :=
  ∀ partition, ListedIn row partition ↔ partition = partitionFor row.threadId row.status

def KeysCorrect (t : SignalTable) : Prop := ∀ row ∈ t.rows, Keyed row ∧ ListedOnce row

/-- When an operation keeps the keys right: an update of a status or a thread finds its row, a
block finds no thread on it, and a send status leaves the thread it has, or finds it outside both
a thread and the quarantine. -/
def Fits (t : SignalTable) : Op → Prop
  | .saveSignal _ => True
  | .saveCalendarEventSignal _ _ => True
  | .updateSignalStatus accountId lookupId _ => ∃ row, t.get (accountId, lookupId) = some row ∧
      row.threadId.getD "" = ""
  | .unblockSignal accountId lookupId threadId =>
      (t.get (accountId, lookupId)).isSome ∧ threadId ≠ ""
  | .updateSignalSendStatus accountId lookupId _ fields => fields.usesData = true →
      ∀ row, t.get (accountId, lookupId) = some row → row.data.isSome →
        (∀ threadId, fields.threadId = some threadId → threadId = row.threadId.getD "") ∧
          (row.threadId.getD "" = "" → isQuarantined row.status = false)

/-! ## Partitions -/

theorem partitionPk_eq (accountId : String) (partition : SignalPartition) :
    partitionPk accountId partition = "ACCT#" ++ accountId ++ match partition with
      | .thread threadId => "#ARC#" ++ threadId
      | .quarantined => "#QUARANTINED"
      | .blocked => "#BLOCKED" := by
  cases partition with
  | thread threadId =>
    show "ACCT#" ++ accountId ++ "#ARC#" ++ threadId = _
    rw [String.append_assoc]
  | quarantined => rfl
  | blocked => rfl

theorem append_cancel {front a b : String} (h : front ++ a = front ++ b) : a = b := by
  have hlist := congrArg String.toList h
  rw [String.toList_append, String.toList_append] at hlist
  exact String.toList_injective (List.append_cancel_left hlist)

/-- The partitions of one account have different keys. -/
theorem partitionPk_injective {accountId : String} {a b : SignalPartition}
    (h : partitionPk accountId a = partitionPk accountId b) : a = b := by
  rw [partitionPk_eq, partitionPk_eq] at h
  have hend := append_cancel h
  have hthread : ∀ threadId : String, "#ARC#" ++ threadId ≠ "#QUARANTINED" ∧
      "#ARC#" ++ threadId ≠ "#BLOCKED" := by
    intro threadId
    constructor
    · intro heq
      have hsecond := congrArg (fun text => text.toList.drop 1 |>.head?) heq
      simp at hsecond
    · intro heq
      have hsecond := congrArg (fun text => text.toList.drop 1 |>.head?) heq
      simp at hsecond
  cases a with
  | thread threadId =>
    cases b with
    | thread threadId' => rw [append_cancel hend]
    | quarantined => exact absurd hend (hthread threadId).1
    | blocked => exact absurd hend (hthread threadId).2
  | quarantined =>
    cases b with
    | thread threadId => exact absurd hend.symm (hthread threadId).1
    | quarantined => rfl
    | blocked => exact absurd hend (by decide)
  | blocked =>
    cases b with
    | thread threadId => exact absurd hend.symm (hthread threadId).2
    | quarantined => exact absurd hend (by decide)
    | blocked => rfl

variable {t : SignalTable} {row : SignalRow}

theorem Keyed.listedOnce (h : Keyed row) : ListedOnce row := by
  intro partition
  unfold ListedIn
  rw [h.gsi1pk, h.gsi1sk]
  constructor
  · intro hin
    exact (partitionPk_injective (Option.some.inj hin.1)).symm
  · rintro rfl
    exact ⟨rfl, h.id⟩

theorem partitionFor_of_empty {threadId : Option String} {status : Option SignalStatus}
    (h : threadId.getD "" = "") :
    partitionFor threadId status = if isQuarantined status then .quarantined else .blocked := by
  rw [partitionFor, if_neg (by simp [h])]

theorem partitionFor_of_thread {threadId : Option String} {status : Option SignalStatus}
    (h : threadId.getD "" ≠ "") : partitionFor threadId status = .thread (threadId.getD "") :=
  if_pos h

/-! ## One operation -/

theorem keyed_signalRow (signal : Signal) : Keyed (signalRow signal) where
  gsi1pk := congrArg (fun p => some (partitionPk signal.accountId p)) (partition_signalItem signal)
  gsi1sk := rfl
  id := rfl

/-- Writing one row keeps the keys right just when they are right in that row. -/
theorem keysCorrect_put (h : KeysCorrect t) : KeysCorrect (t.put row) ↔ Keyed row := by
  constructor
  · intro hput
    exact (hput row (KeyedTable.mem_put.mpr (.inl rfl))).1
  · intro hrow other hother
    obtain rfl | ⟨hother, -⟩ := KeyedTable.mem_put.mp hother
    · exact ⟨hrow, hrow.listedOnce⟩
    · exact h other hother

theorem KeysCorrect.keyed (h : KeysCorrect t) {key : String × String} (hget : t.get key = some row) :
    Keyed row :=
  (h row (KeyedTable.mem_rows_of_get hget)).1

/-- A row with the same id is right under a new partition just when that is its own. -/
theorem keyed_repartitioned (h : Keyed row) {row' : SignalRow} (hkey : row'.key = row.key)
    (hid : row'.id = row.id) (hsk : row'.gsi1sk = row.gsi1sk) {partition : SignalPartition}
    (hpk : row'.gsi1pk = some (partitionPk row.key.1 partition)) :
    Keyed row' ↔ partition = partitionFor row'.threadId row'.status := by
  constructor
  · intro h'
    have heq := h'.gsi1pk
    rw [hpk, hkey] at heq
    exact partitionPk_injective (Option.some.inj heq)
  · intro heq
    refine ⟨?_, ?_, ?_⟩
    · rw [hpk, hkey, heq]
    · rw [hsk, hid, h.gsi1sk]
    · rw [hid]
      exact h.id

theorem updateSignalStatus_fits (h : KeysCorrect t) (accountId lookupId : String)
    (status : BlockStatus) :
    KeysCorrect (updateSignalStatus accountId lookupId status t) ↔
      Fits t (.updateSignalStatus accountId lookupId status) := by
  simp only [Fits, updateSignalStatus]
  rw [keysCorrect_put h]
  cases hget : t.get (accountId, lookupId) with
  | none =>
    constructor
    · intro hkeyed
      have hid := hkeyed.id
      simp [missingRow] at hid
    · rintro ⟨row, hrow, -⟩
      cases hrow
  | some row =>
    have haccount : row.key.1 = accountId := by rw [KeyedTable.key_of_get hget]
    have hkeyed := @keyed_repartitioned row (h.keyed hget)
      { row with
        status := some status.toStatus, gsi1pk := some (preThreadPk accountId .blocked) }
      rfl rfl rfl .blocked (by rw [haccount]; rfl)
    have hstatus : isQuarantined (some status.toStatus) = false := by cases status <;> rfl
    rw [Option.getD_some, hkeyed]
    by_cases hthread : row.threadId.getD "" = ""
    · rw [partitionFor_of_empty hthread, hstatus]
      exact ⟨fun _ => ⟨row, rfl, hthread⟩, fun _ => rfl⟩
    · rw [partitionFor_of_thread hthread]
      constructor
      · intro heq
        cases heq
      · rintro ⟨row', hrow', hempty⟩
        cases hrow'
        exact absurd hempty hthread

theorem unblockSignal_fits (h : KeysCorrect t) (accountId lookupId threadId : String) :
    KeysCorrect (unblockSignal accountId lookupId threadId t) ↔
      Fits t (.unblockSignal accountId lookupId threadId) := by
  simp only [Fits, unblockSignal]
  rw [keysCorrect_put h]
  cases hget : t.get (accountId, lookupId) with
  | none =>
    constructor
    · intro hkeyed
      have hid := hkeyed.id
      simp [missingRow] at hid
    · rintro ⟨hsome, -⟩
      cases hsome
  | some row =>
    have haccount : row.key.1 = accountId := by rw [KeyedTable.key_of_get hget]
    have hkeyed := @keyed_repartitioned row (h.keyed hget)
      { row with
        threadId := some threadId, status := some .active
        gsi1pk := some (threadPk accountId threadId) }
      rfl rfl rfl (.thread threadId) (by rw [haccount]; rfl)
    rw [Option.getD_some, hkeyed]
    by_cases hthread : threadId = ""
    · rw [partitionFor_of_empty (by simpa using hthread)]
      constructor
      · intro heq
        cases heq
      · rintro ⟨-, hne⟩
        exact absurd hthread hne
    · rw [partitionFor_of_thread (by simpa using hthread)]
      exact ⟨fun _ => ⟨rfl, hthread⟩, fun _ => rfl⟩

theorem SendStatus.not_quarantined (status : SendStatus) :
    isQuarantined (some status.toStatus) = false := by
  cases status <;> rfl

/-- A send status keeps the partition when it brings no other thread, and where there is no thread
the row was not in the quarantine. -/
theorem partitionFor_sendStatus {threadId given : Option String} {stored : Option SignalStatus}
    {status : SendStatus} :
    partitionFor threadId stored = partitionFor (given <|> threadId) (some status.toStatus) ↔
      (∀ new, given = some new → new = threadId.getD "") ∧
        (threadId.getD "" = "" → isQuarantined stored = false) := by
  have hstatus := status.not_quarantined
  cases given with
  | none =>
    simp only [Option.none_or, Option.orElse_eq_orElse, Option.orElse_eq_or, reduceCtorEq,
      false_implies, implies_true, true_and]
    by_cases hthread : threadId.getD "" = ""
    · rw [partitionFor_of_empty hthread, partitionFor_of_empty hthread, hstatus]
      cases isQuarantined stored <;> simp [hthread]
    · simp [partitionFor_of_thread hthread, hthread]
  | some new =>
    simp only [Option.some_or, Option.orElse_eq_orElse, Option.orElse_eq_or, Option.some.injEq,
      forall_eq']
    by_cases hthread : threadId.getD "" = ""
    · rw [partitionFor_of_empty hthread, hthread]
      by_cases hnew : new = ""
      · rw [partitionFor_of_empty (by simpa using hnew), hstatus]
        cases isQuarantined stored <;> simp [hnew]
      · rw [partitionFor_of_thread (by simpa using hnew)]
        cases isQuarantined stored <;> simp [hnew]
    · rw [partitionFor_of_thread hthread]
      by_cases hnew : new = ""
      · rw [partitionFor_of_empty (by simpa using hnew), hstatus]
        simp [hnew, Ne.symm hthread]
      · rw [partitionFor_of_thread (by simpa using hnew)]
        refine ⟨fun heq => ⟨(SignalPartition.thread.inj heq).symm, fun hempty => ?_⟩, fun heq => ?_⟩
        · exact absurd hempty hthread
        · rw [heq.1]
          rfl

theorem updateSignalSendStatus_fits (h : KeysCorrect t) (accountId lookupId : String)
    (status : SendStatus) (fields : SendStatusFields) :
    KeysCorrect (updateSignalSendStatus accountId lookupId status fields t) ↔
      Fits t (.updateSignalSendStatus accountId lookupId status fields) := by
  simp only [Fits, updateSignalSendStatus]
  cases hget : t.get (accountId, lookupId) with
  | none => simpa using h
  | some row =>
    cases huses : fields.usesData with
    | false => simpa using h
    | true =>
      cases hdata : row.data with
      | none => simpa [hdata] using h
      | some data =>
        have hkeyed := h.keyed hget
        have hmoved := @keyed_repartitioned row hkeyed (row.withSendStatus status fields data)
          rfl rfl rfl _ hkeyed.gsi1pk
        have hput := (keysCorrect_put h).trans hmoved
        simp only [hdata, Option.isSome_some, forall_const, Option.some.injEq, forall_eq']
        exact hput.trans partitionFor_sendStatus

theorem step_fits (t : SignalTable) (op : Op) (h : KeysCorrect t) :
    KeysCorrect (step t op) ↔ Fits t op := by
  cases op with
  | saveSignal signal =>
    refine (keysCorrect_put h).trans ?_
    exact ⟨fun _ => trivial, fun _ => keyed_signalRow signal⟩
  | saveCalendarEventSignal event prior =>
    simp only [step, saveCalendarEventSignal, Fits, iff_true]
    split
    · exact (keysCorrect_put h).mpr (keyed_signalRow _)
    · exact h
  | updateSignalStatus accountId lookupId status => exact updateSignalStatus_fits h _ _ _
  | unblockSignal accountId lookupId threadId => exact unblockSignal_fits h _ _ _
  | updateSignalSendStatus accountId lookupId status fields =>
    exact updateSignalSendStatus_fits h _ _ _ _

/-! ## Runs -/

/-- **Index keys, exactly.** In every run of writes, all rows have at all times the index keys of
their own thread and status, and are listed in that one partition, just when every write fits the
row it meets. -/
theorem keys_correct_iff (t : SignalTable) (h : KeysCorrect t) (ops : List Op) :
    Always step KeysCorrect t ops ↔ EachFits step Fits t ops :=
  always_iff_eachFits step_fits h ops

/-- A quarantined signal, before it has a thread. -/
def quarantinedSignal : Signal where
  id := "sgn-1"
  signalLookupId := "ses-1"
  threadId := none
  gsi3pk := none
  accountId := "acct-1"
  status := .quarantineVisible
  labels := some []
  createdAt := "2026-03-01T09:00:00.000Z"
  retentionDuration := none
  data := .invalidRuleFunction "" ""

/-- The signal is blocked by a request that read it before it was approved onto a thread. -/
def blockAfterApproval : List Op :=
  [.saveSignal quarantinedSignal, .unblockSignal "acct-1" "ses-1" "thr-1",
    .updateSignalStatus "acct-1" "ses-1" .blockHidden]

/-- The row ends up on its thread and listed among the blocked ones instead. -/
theorem blockAfterApproval_misfiles :
    ((blockAfterApproval.foldl step .empty).get ("acct-1", "ses-1")).map
        (fun row => (row.threadId, row.gsi1pk)) = some (some "thr-1", some "ACCT#acct-1#BLOCKED") ∧
      ¬ Always step KeysCorrect .empty blockAfterApproval := by
  refine ⟨by decide +kernel, fun halways => ?_⟩
  obtain ⟨-, -, -, hlast⟩ := halways
  have hkeyed := (hlast _ List.mem_cons_self).1
  exact absurd hkeyed.gsi1pk (by decide +kernel)

/-- The same writes in the order in which a read precedes no other write. -/
theorem keys_correct_blocked : Always step KeysCorrect .empty
    [.saveSignal quarantinedSignal, .updateSignalStatus "acct-1" "ses-1" .blockHidden] := by
  have hempty : KeysCorrect .empty := fun row hrow => absurd hrow List.not_mem_nil
  refine (keys_correct_iff .empty hempty _).mpr ⟨trivial, ⟨_, rfl, rfl⟩, trivial⟩

end SesEmailAdapter.Database.SignalRows
