import Mathlib.Data.List.Perm.Basic
import SesEmailAdapter.Database.Shared

/-! # Paged listings

`listSignals`, `listPreThreadSignals`, `listThreads` and `listResources`, each over any content of
its table, and exactly when following their cursors is complete. -/

namespace SesEmailAdapter.Database.Listing
open Lib.QueryPaging
open SesEmailAdapter.Types Database.Shared

/-! ## Tables -/

/-- An item under its keys. -/
structure Row (α : Type) where
  key : IndexKey
  item : α
deriving DecidableEq, Repr

/-- The content of a table: no two items have one table key. -/
structure Table (α : Type) where
  rows : List (Row α)
  distinct : (rows.map fun r => (r.key.pk, r.key.sk)).Nodup

variable {α : Type}

theorem Table.keys_nodup (table : Table α) : (table.rows.map Row.key).Nodup := by
  have h : ((table.rows.map Row.key).map fun k : IndexKey => (k.pk, k.sk)).Nodup := by
    simpa [List.map_map, Function.comp_def] using table.distinct
  exact h.of_map _

/-- The rows a key condition selects. -/
def Table.select (table : Table α) (condition : IndexKey → Bool) : List (Row α) :=
  table.rows.filter fun r => condition r.key

theorem Table.select_nodup (table : Table α) (condition : IndexKey → Bool) :
    ((table.select condition).map Row.key).Nodup :=
  table.keys_nodup.sublist (List.filter_sublist.map _)

/-- Keys in the order of a query with `ScanIndexForward: false`. -/
def backward (r : Row α) : IndexKeyᵒᵈ := OrderDual.toDual r.key

def encodeBackward (k : IndexKeyᵒᵈ) : String := encodeCursor (OrderDual.ofDual k)

structure PageParams where
  cursor : Option String
  limit : Option Nat

def PageParams.pageLimit (params : PageParams) : Nat := min (params.limit.getD 20) 100

/-- `params.cursor ? { ExclusiveStartKey: decodeCursor(params.cursor) } : {}` -/
def PageParams.exclusiveStartKey (params : PageParams) : Except DbError (Option IndexKey) :=
  match params.cursor.filter (· ≠ "") with
  | none => .ok none
  | some cursor =>
    match decodeCursor cursor with
    | some key => .ok (some key)
    | none => .error ⟨"invalid cursor"⟩

/-- The page cut from one query of `limit + 1` items that a filter has passed over: its first
`limit` items, and the last evaluated key as the cursor when there were more. -/
def cutPage {K β : Type} (limit : Nat) (items : List (Row α)) (hydrate : Row α → β)
    (lastEvaluatedKey : Option K) (encode : K → String) : Page String β :=
  { items := (items.take limit).map hydrate
    nextCursor := if limit < items.length then lastEvaluatedKey.map encode else none }

/-- The parameters of the page a client fetches with a cursor. -/
def PageParams.next (params : PageParams) (cursor : Option String) : PageParams :=
  { params with cursor := cursor }

def threadPk (accountId id : String) : String := "ACCT#" ++ accountId ++ "#ARC#" ++ id

/-- Legacy items have no labels. -/
def hydrateSignal (item : Row Signal) : Row Signal :=
  { item with item := { item.item with labels := some (item.item.labels.getD []) } }

/-- The newest-first signal listing of one `gsi1` partition. -/
def listSignalPartition (table : Table Signal) (gsi1pk : String) (params : PageParams) :
    Except DbError (Page String (Row Signal)) := do
  let limit := params.pageLimit
  let start ← params.exclusiveStartKey
  let res := query backward (table.select fun k => k.gsi1pk = gsi1pk) (limit + 1)
    (start.map OrderDual.toDual)
  return cutPage limit res.items hydrateSignal res.lastEvaluatedKey encodeBackward

def listSignals (table : Table Signal) (accountId threadId : String) (params : PageParams) :
    Except DbError (Page String (Row Signal)) :=
  listSignalPartition table (threadPk accountId threadId) params

inductive PreThreadPartition
  | quarantined | blocked
deriving DecidableEq, Repr

def preThreadPk (accountId : String) : PreThreadPartition → String
  | .blocked => "ACCT#" ++ accountId ++ "#BLOCKED"
  | .quarantined => "ACCT#" ++ accountId ++ "#QUARANTINED"

def listPreThreadSignals (table : Table Signal) (accountId : String)
    (partition : PreThreadPartition) (params : PageParams) :
    Except DbError (Page String (Row Signal)) :=
  listSignalPartition table (preThreadPk accountId partition) params

/-! ## Resources -/

def resourceGsi1pk (accountId : String) (status : ResourceStatus) : String :=
  "ACCT#" ++ accountId ++ "#STATUS#" ++ status.text

structure ListThreadsParams extends PageParams where
  status : Option ThreadStatus
  workflow : Option Workflow
  label : Option String

def MIN_LAST_SIGNAL_AT : String := "2000-01-01T00:00:00.000Z"

def hasRecentSignal (thread : Thread) : Bool := MIN_LAST_SIGNAL_AT ≤ thread.lastSignalAt

/-- The filters `listThreads` passes over the items after the query. -/
def ListThreadsParams.keeps (params : ListThreadsParams) (r : Row Thread) : Bool :=
  params.workflow.all (r.item.workflow = ·) && params.label.all (· ∈ r.item.labels) &&
    hasRecentSignal r.item

def blankSignal (id threadId : String) : Signal where
  id := id
  signalLookupId := id
  threadId := some threadId
  gsi3pk := none
  accountId := "acc-a"
  status := .active
  labels := none
  createdAt := "2026-01-01T00:00:00.000Z"
  retentionDuration := none
  data := .autoSendBlocked "me@a.example" none

def signalRow (id threadId : String) : Row Signal where
  key := {
    gsi1pk := threadPk "acc-a" threadId
    gsi1sk := id
    pk := "ACCT#acc-a#SIG#" ++ id
    sk := "#" }
  item := blankSignal id threadId

end SesEmailAdapter.Database.Listing
