import SesEmailAdapter.Database.SignalsTable
import SesEmailAdapter.Lib.Runs

/-! # Thread rows

The attributes that a thread's row really has. A put writes all of them. An update sets a few, and
one of a row that is missing makes a row of just these, unless it asks for the row to be there. -/

namespace SesEmailAdapter.Database.ThreadRows
open Lib
open SesEmailAdapter.Types Database.SignalsTable

/-! ## Rows -/

/-- A row, under the account and thread id that its `pk` is made of. -/
structure ThreadRow where
  key : String × String
  id : Option String
  accountId : Option String
  groupingKey : Option String
  workflow : Option Workflow
  labels : Option (List String)
  status : Option ThreadStatus
  summary : Option String
  lastSignalAt : Option String
  createdAt : Option String
  updatedAt : Option String
  retentionDuration : Option String
  sentMessageIds : Option (List String)
  urgency : Option ThreadUrgency
  followupAt : Option String
  sender : Option EmailAddress
  recipientAddress : Option String
  subject : Option String
  threadId : Option String
  gsi1pk : Option String
  gsi1sk : Option String
  gsi3pk : Option String
  ttl : Option Nat

abbrev ThreadTable := KeyedTable ThreadRow.key

def lastActivityKey (status : ThreadStatus) (lastSignalAt id : String) : String :=
  "LASTACT#" ++ status.text ++ "#" ++ lastSignalAt ++ "#" ++ id

def buildThreadGsi3pk (accountId groupingKey : String) : String :=
  "ACCT#" ++ accountId ++ "#GKEY#" ++ groupingKey

/-- The whole item of a thread; `ttl` is what the retention gives. -/
def buildThreadItem (thread : Thread) (ttl : Option Nat) : ThreadRow where
  key := (thread.accountId, thread.id)
  id := some thread.id
  accountId := some thread.accountId
  groupingKey := thread.groupingKey
  workflow := some thread.workflow
  labels := some thread.labels
  status := some thread.status
  summary := some thread.summary
  lastSignalAt := some thread.lastSignalAt
  createdAt := some thread.createdAt
  updatedAt := some thread.updatedAt
  retentionDuration := thread.retentionDuration
  sentMessageIds := thread.sentMessageIds
  urgency := thread.urgency
  followupAt := thread.followupAt
  sender := some thread.sender
  recipientAddress := some thread.recipientAddress
  subject := some thread.subject
  threadId := some thread.id
  gsi1pk := some ("ACCT#" ++ thread.accountId)
  gsi1sk := some (lastActivityKey thread.status thread.lastSignalAt thread.id)
  gsi3pk := (thread.groupingKey.filter (· ≠ "")).map (buildThreadGsi3pk thread.accountId)
  ttl := ttl

/-- The row without attributes that an update of a missing row starts from. -/
def missingRow (key : String × String) : ThreadRow where
  key := key
  id := none
  accountId := none
  groupingKey := none
  workflow := none
  labels := none
  status := none
  summary := none
  lastSignalAt := none
  createdAt := none
  updatedAt := none
  retentionDuration := none
  sentMessageIds := none
  urgency := none
  followupAt := none
  sender := none
  recipientAddress := none
  subject := none
  threadId := none
  gsi1pk := none
  gsi1sk := none
  gsi3pk := none
  ttl := none

/-! ## Writes -/

/-- Puts the whole item, whatever was there. -/
def saveThread (thread : Thread) (ttl : Option Nat) (t : ThreadTable) : ThreadTable :=
  t.put (buildThreadItem thread ttl)

/-- Conditional on the row not being there; the caller then reads the one that is. -/
def createThread (thread : Thread) (ttl : Option Nat) (t : ThreadTable) : ThreadTable :=
  match t.get (thread.accountId, thread.id) with
  | some _ => t
  | none => t.put (buildThreadItem thread ttl)

/-- The attributes that an update sets. -/
def ThreadRow.updated (row : ThreadRow) (id : String) (status : ThreadStatus)
    (lastSignalAt now : String) (update : UpdateThreadFields) : ThreadRow :=
  { row with
    updatedAt := some now
    status := some status
    lastSignalAt := some lastSignalAt
    gsi1sk := some (lastActivityKey status lastSignalAt id)
    threadId := some id
    labels := update.labels <|> row.labels
    urgency := update.urgency <|> row.urgency
    summary := update.summary <|> row.summary
    workflow := update.workflow <|> row.workflow
    retentionDuration := update.retentionDuration <|> row.retentionDuration
    sentMessageIds := update.sentMessageIds <|> row.sentMessageIds
    sender := update.sender <|> row.sender
    recipientAddress := update.recipientAddress <|> row.recipientAddress
    subject := update.subject <|> row.subject
    followupAt := update.followupAt <|> row.followupAt }

/-- Asks for no row to be there. -/
def updateThread (accountId id : String) (status : ThreadStatus) (lastSignalAt now : String)
    (update : UpdateThreadFields) (t : ThreadTable) : ThreadTable :=
  let row := (t.get (accountId, id)).getD (missingRow (accountId, id))
  t.put (row.updated id status lastSignalAt now update)

/-- A fallback expiry, for a row that is there. -/
def setThreadTtlFallback (accountId threadId : String) (fallbackTtl : Nat) (t : ThreadTable) :
    ThreadTable :=
  match t.get (accountId, threadId) with
  | some row => t.put { row with ttl := some (row.ttl.getD fallbackTtl) }
  | none => t

inductive Op
  | saveThread (thread : Thread) (ttl : Option Nat)
  | createThread (thread : Thread) (ttl : Option Nat)
  | updateThread (accountId id : String) (status : ThreadStatus) (lastSignalAt now : String)
      (update : UpdateThreadFields)
  | setThreadTtlFallback (accountId threadId : String) (fallbackTtl : Nat)
  /-- The row is gone, by a delete or by its expiry. -/
  | delete (accountId id : String)

def step (t : ThreadTable) : Op → ThreadTable
  | .saveThread thread ttl => saveThread thread ttl t
  | .createThread thread ttl => createThread thread ttl t
  | .updateThread accountId id status lastSignalAt now update =>
    updateThread accountId id status lastSignalAt now update t
  | .setThreadTtlFallback accountId threadId fallbackTtl =>
    setThreadTtlFallback accountId threadId fallbackTtl t
  | .delete accountId id => t.erase (accountId, id)

/-! ## The invariant -/

/-- Every required field of a thread is there. -/
def Complete (row : ThreadRow) : Prop :=
  row.id.isSome ∧ row.accountId.isSome ∧ row.workflow.isSome ∧ row.labels.isSome ∧
    row.status.isSome ∧ row.summary.isSome ∧ row.lastSignalAt.isSome ∧ row.createdAt.isSome ∧
    row.updatedAt.isSome ∧ row.sender.isSome ∧ row.recipientAddress.isSome ∧ row.subject.isSome ∧
    row.gsi1pk.isSome

/-- The sort key is the one of the row's own status and time. -/
def SortKeyed (row : ThreadRow) : Prop :=
  ∃ status lastSignalAt, row.status = some status ∧ row.lastSignalAt = some lastSignalAt ∧
    row.gsi1sk = some (lastActivityKey status lastSignalAt row.key.2)

def ThreadsWhole (t : ThreadTable) : Prop := ∀ row ∈ t.rows, Complete row ∧ SortKeyed row

/-- The operation leaves a store without its thread as it is, if it is an update. -/
def AbsentUntouched (t : ThreadTable) : Op → Prop
  | .updateThread accountId id status lastSignalAt now update =>
    t.get (accountId, id) = none →
      updateThread accountId id status lastSignalAt now update t = t
  | _ => True

/-- An update finds its thread. -/
def Fits (t : ThreadTable) : Op → Prop
  | .updateThread accountId id _ _ _ _ => (t.get (accountId, id)).isSome
  | _ => True

variable {t : ThreadTable} {row : ThreadRow}

/-! ## One operation -/

theorem complete_buildThreadItem (thread : Thread) (ttl : Option Nat) :
    Complete (buildThreadItem thread ttl) := by
  simp [Complete, buildThreadItem]

theorem sortKeyed_buildThreadItem (thread : Thread) (ttl : Option Nat) :
    SortKeyed (buildThreadItem thread ttl) := ⟨_, _, rfl, rfl, rfl⟩

/-- An update leaves a complete row complete, whatever fields it sets. -/
theorem Complete.updated (h : Complete row) (id : String) (status : ThreadStatus)
    (lastSignalAt now : String) (update : UpdateThreadFields) :
    Complete (row.updated id status lastSignalAt now update) := by
  obtain ⟨hid, haccount, hworkflow, hlabels, -, hsummary, -, hcreated, -, hsender, hrecipient,
    hsubject, hpk⟩ := h
  simp [Complete, ThreadRow.updated, *]

theorem sortKeyed_updated {id : String} (hkey : row.key.2 = id) (status : ThreadStatus)
    (lastSignalAt now : String) (update : UpdateThreadFields) :
    SortKeyed (row.updated id status lastSignalAt now update) := by
  refine ⟨status, lastSignalAt, rfl, rfl, ?_⟩
  rw [← hkey]
  rfl

theorem not_complete_missing (key : String × String) (id : String) (status : ThreadStatus)
    (lastSignalAt now : String) (update : UpdateThreadFields) :
    ¬ Complete ((missingRow key).updated id status lastSignalAt now update) := by
  intro h
  have hid := h.1
  simp [ThreadRow.updated, missingRow] at hid

theorem threadsWhole_put (h : ThreadsWhole t) :
    ThreadsWhole (t.put row) ↔ Complete row ∧ SortKeyed row := by
  constructor
  · intro hput
    exact hput row (KeyedTable.mem_put.mpr (.inl rfl))
  · intro hrow other hother
    obtain rfl | ⟨hother, -⟩ := KeyedTable.mem_put.mp hother
    · exact hrow
    · exact h other hother

theorem updateThread_fits (h : ThreadsWhole t) (accountId id : String) (status : ThreadStatus)
    (lastSignalAt now : String) (update : UpdateThreadFields) :
    ThreadsWhole (updateThread accountId id status lastSignalAt now update t) ↔
      (t.get (accountId, id)).isSome := by
  rw [updateThread, threadsWhole_put h]
  cases hget : t.get (accountId, id) with
  | none =>
    constructor
    · intro hrow
      exact absurd hrow.1 (not_complete_missing _ _ _ _ _ _)
    · intro hsome
      cases hsome
  | some row =>
    have hrow := (h row (KeyedTable.mem_rows_of_get hget)).1
    have hkey : row.key.2 = id := by rw [KeyedTable.key_of_get hget]
    exact ⟨fun _ => rfl, fun _ => ⟨hrow.updated _ _ _ _ _, sortKeyed_updated hkey _ _ _ _⟩⟩

theorem ThreadsWhole.ttl (h : ThreadsWhole t) (accountId threadId : String) (fallbackTtl : Nat) :
    ThreadsWhole (setThreadTtlFallback accountId threadId fallbackTtl t) := by
  unfold setThreadTtlFallback
  cases hget : t.get (accountId, threadId) with
  | none => exact h
  | some row => exact (threadsWhole_put h).mpr (h row (KeyedTable.mem_rows_of_get hget))

theorem ThreadsWhole.step_iff (t : ThreadTable) (op : Op) (h : ThreadsWhole t) :
    ThreadsWhole (step t op) ↔ Fits t op := by
  cases op with
  | saveThread thread ttl =>
    refine (threadsWhole_put h).trans ?_
    exact ⟨fun _ => trivial, fun _ =>
      ⟨complete_buildThreadItem thread ttl, sortKeyed_buildThreadItem thread ttl⟩⟩
  | createThread thread ttl =>
    simp only [step, createThread, Fits, iff_true]
    split
    · exact h
    · exact (threadsWhole_put h).mpr
        ⟨complete_buildThreadItem thread ttl, sortKeyed_buildThreadItem thread ttl⟩
  | updateThread accountId id status lastSignalAt now update =>
    exact updateThread_fits h _ _ _ _ _ _
  | setThreadTtlFallback accountId threadId fallbackTtl =>
    exact ⟨fun _ => trivial, fun _ => h.ttl accountId threadId fallbackTtl⟩
  | delete accountId id =>
    exact ⟨fun _ => trivial, fun _ row hrow => h row (List.mem_filter.mp hrow).1⟩

/-- An update of a missing row always leaves one behind. -/
theorem absentUntouched_iff (t : ThreadTable) (op : Op) : AbsentUntouched t op ↔ Fits t op := by
  cases op with
  | saveThread thread ttl => exact Iff.rfl
  | createThread thread ttl => exact Iff.rfl
  | setThreadTtlFallback accountId threadId fallbackTtl => exact Iff.rfl
  | delete accountId id => exact Iff.rfl
  | updateThread accountId id status lastSignalAt now update =>
    simp only [AbsentUntouched, Fits]
    cases hget : t.get (accountId, id) with
    | some row => simp
    | none =>
      constructor
      · intro hsame
        have hrow := KeyedTable.get_put_self t
          ((missingRow (accountId, id)).updated id status lastSignalAt now update)
        have hput := hsame rfl
        rw [updateThread, hget, Option.getD_none] at hput
        rw [hput] at hrow
        exact absurd (hget.symm.trans hrow) nofun
      · intro hsome
        cases hsome

/-! ## Runs -/

/-- **Thread rows, exactly.** In every run of writes, all rows are at all times whole threads under
their own sort key, and updates leave missing threads missing, just when every update finds its
thread. -/
theorem threads_whole_iff (t : ThreadTable) (h : ThreadsWhole t) (ops : List Op) :
    Always step ThreadsWhole t ops ∧ EachFits step AbsentUntouched t ops ↔
      EachFits step Fits t ops := by
  rw [always_iff_eachFits ThreadsWhole.step_iff h ops, eachFits_congr absentUntouched_iff]
  exact and_self_iff

def noFields : UpdateThreadFields :=
  ⟨none, none, none, none, none, none, none, none, none, none⟩

/-- A thread expires between the read of a request and its update. -/
def updateAfterExpiry : List Op :=
  [.delete "acct-1" "thr-1",
    .updateThread "acct-1" "thr-1" .archived "2026-03-01T09:00:00.000Z" "2026-03-01T10:00:00.000Z"
      noFields]

/-- The update makes a row with a status and a sort key, and no sender, subject or partition. -/
theorem updateAfterExpiry_makes_partial_row :
    ((updateAfterExpiry.foldl step .empty).get ("acct-1", "thr-1")).map
        (fun row => (row.status, row.gsi1sk, row.gsi1pk, row.sender, row.subject)) =
      some (some .archived, some "LASTACT#archived#2026-03-01T09:00:00.000Z#thr-1", none, none,
        none) ∧
      ¬ (Always step ThreadsWhole .empty updateAfterExpiry ∧
        EachFits step AbsentUntouched .empty updateAfterExpiry) := by
  refine ⟨by decide +kernel, fun hboth => ?_⟩
  obtain ⟨-, -, hlast⟩ := hboth.1
  exact not_complete_missing ("acct-1", "thr-1") _ _ _ _ _ (hlast _ List.mem_cons_self).1

def newThread : Thread where
  id := "thr-1"
  accountId := "acct-1"
  groupingKey := none
  workflow := .conversation
  labels := []
  status := .active
  summary := "Lunch"
  lastSignalAt := "2026-03-01T09:00:00.000Z"
  createdAt := "2026-03-01T09:00:00.000Z"
  updatedAt := "2026-03-01T09:00:00.000Z"
  retentionDuration := none
  sentMessageIds := none
  urgency := none
  followupAt := none
  sender := ⟨"ann@org.test", none⟩
  recipientAddress := "me@home.test"
  subject := "Lunch"

/-- A thread that is created and then archived. -/
theorem threads_whole_archived :
    Always step ThreadsWhole .empty [.createThread newThread none,
        .updateThread "acct-1" "thr-1" .archived "2026-03-01T09:00:00.000Z"
          "2026-03-01T10:00:00.000Z" noFields] ∧
      EachFits step AbsentUntouched .empty [.createThread newThread none,
        .updateThread "acct-1" "thr-1" .archived "2026-03-01T09:00:00.000Z"
          "2026-03-01T10:00:00.000Z" noFields] := by
  have hempty : ThreadsWhole .empty := fun row hrow => absurd hrow List.not_mem_nil
  exact (threads_whole_iff .empty hempty _).mpr ⟨trivial, rfl, trivial⟩

end SesEmailAdapter.Database.ThreadRows
