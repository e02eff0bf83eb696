import SesEmailAdapter.Database.AccountsTable

/-! # ExchangesDatabase

The external mail exchanges of all accounts and the requests on them, each one atomic. An update
has no condition: it writes the status and the next sync time it is given, and it makes a row where
there is none. -/

namespace SesEmailAdapter.Database.ExchangesDatabase
open Lib
open SesEmailAdapter.Types Database.Shared
open Database.SignalsTable (requestFailed)

/-! ## Rows -/

inductive TlsConfig
  | TLS | DISABLED
deriving DecidableEq, Repr

structure ImapConfig where
  host : String
  tlsConfig : TlsConfig
  username : String
  encryptedPassword : String
deriving DecidableEq, Repr

structure JmapConfig where
  sessionUrl : String
  username : String
  encryptedPassword : String
  apiUrl : String
  downloadUrl : String
  jmapAccountId : String
  inboxId : String
deriving DecidableEq, Repr

structure ImapSyncState where
  uidvalidity : Nat
  lastUid : Nat
deriving DecidableEq, Repr

/-- What only a create writes. -/
structure ExchangeRecord where
  platform : EmxPlatform
  emailAddress : String
  createdAt : String
deriving DecidableEq, Repr

/-- What an update may write as well; `none` leaves the attribute. -/
structure ExchangeFields where
  syncCursor : Option String
  syncState : Option ImapSyncState
  lastSyncAt : Option String
  expiresAt : Option String
  providerSubscriptionId : Option String
  pushSubscriptionId : Option String
  userId : Option String
  connectionUserId : Option String
  connectionId : Option String
  errorReason : Option String
  consecutiveFailures : Option Nat
  imapConfig : Option ImapConfig
  jmapConfig : Option JmapConfig
deriving DecidableEq, Repr

def noFields : ExchangeFields :=
  ⟨none, none, none, none, none, none, none, none, none, none, none, none, none⟩

structure ExchangeRow where
  accountId : String
  id : String
  /-- Missing in the row that an update makes. -/
  record : Option ExchangeRecord
  status : EmxStatus
  nextSyncTime : String
  fields : ExchangeFields
  updatedAt : String
  gsi1pk : String
  gsi1sk : String
deriving DecidableEq, Repr

def exchangeKey (row : ExchangeRow) : String × String := (row.accountId, row.id)

def ExchangeRow.platform (row : ExchangeRow) : Option EmxPlatform :=
  row.record.map ExchangeRecord.platform

def ExchangeRow.emailAddress (row : ExchangeRow) : Option String :=
  row.record.map ExchangeRecord.emailAddress

structure Store where
  exchanges : KeyedTable exchangeKey

/-! ## Requests -/

inductive ClearField
  | errorReason | providerSubscriptionId | pushSubscriptionId
deriving DecidableEq, Repr

structure NewExchange where
  record : ExchangeRecord
  status : EmxStatus
  nextSyncTime : String
  fields : ExchangeFields
deriving DecidableEq, Repr

structure ExchangeUpdate where
  status : EmxStatus
  nextSyncTime : String
  fields : ExchangeFields
  clearFields : List ClearField
  now : String
deriving DecidableEq, Repr

inductive Cmd
  | createExternalExchange (accountId id : String) (data : NewExchange)
  | getExternalExchange (accountId emxId : String)
  | listExternalExchanges (accountId : String)
  | updateExternalExchange (accountId emxId : String) (update : ExchangeUpdate)
  | deleteExternalExchange (accountId emxId : String)
  /-- One page of the active exchanges of all accounts before a horizon, by index key. -/
  | listExchangesDue (horizon : String)
  /-- The active exchange of a subscription that comes first in the index. -/
  | findExternalExchangeBySubscriptionId (subscriptionId : String)
deriving DecidableEq, Repr

@[reducible] def Cmd.Answer : Cmd → Type
  | .createExternalExchange .. => Except DbError ExchangeRow
  | .getExternalExchange .. => Except DbError (Option ExchangeRow)
  | .listExternalExchanges _ => Except DbError (List ExchangeRow)
  | .updateExternalExchange .. => Except DbError ExchangeRow
  | .deleteExternalExchange .. => Except DbError Unit
  | .listExchangesDue _ => Except DbError (List ExchangeRow)
  | .findExternalExchangeBySubscriptionId _ => Except DbError (Option ExchangeRow)

/-! ## Their meaning -/

def partitionOf (status : EmxStatus) : String := "EMX#" ++ status.text

def sortOf (nextSyncTime emxId : String) : String := nextSyncTime ++ "#" ++ emxId

def newRow (accountId id : String) (data : NewExchange) : ExchangeRow where
  accountId := accountId
  id := id
  record := some data.record
  status := data.status
  nextSyncTime := data.nextSyncTime
  fields := data.fields
  updatedAt := data.record.createdAt
  gsi1pk := partitionOf data.status
  gsi1sk := sortOf data.nextSyncTime id

/-- An update of a row that is missing starts from its key. -/
def bareRow (accountId id : String) : ExchangeRow where
  accountId := accountId
  id := id
  record := none
  status := .active
  nextSyncTime := ""
  fields := noFields
  updatedAt := ""
  gsi1pk := ""
  gsi1sk := ""

/-- The attributes of `fields` over those of a row. -/
def ExchangeFields.over (fields stored : ExchangeFields) : ExchangeFields where
  syncCursor := fields.syncCursor <|> stored.syncCursor
  syncState := fields.syncState <|> stored.syncState
  lastSyncAt := fields.lastSyncAt <|> stored.lastSyncAt
  expiresAt := fields.expiresAt <|> stored.expiresAt
  providerSubscriptionId := fields.providerSubscriptionId <|> stored.providerSubscriptionId
  pushSubscriptionId := fields.pushSubscriptionId <|> stored.pushSubscriptionId
  userId := fields.userId <|> stored.userId
  connectionUserId := fields.connectionUserId <|> stored.connectionUserId
  connectionId := fields.connectionId <|> stored.connectionId
  errorReason := fields.errorReason <|> stored.errorReason
  consecutiveFailures := fields.consecutiveFailures <|> stored.consecutiveFailures
  imapConfig := fields.imapConfig <|> stored.imapConfig
  jmapConfig := fields.jmapConfig <|> stored.jmapConfig

def ExchangeFields.clear (fields : ExchangeFields) : ClearField → ExchangeFields
  | .errorReason => { fields with errorReason := none }
  | .providerSubscriptionId => { fields with providerSubscriptionId := none }
  | .pushSubscriptionId => { fields with pushSubscriptionId := none }

def ExchangeUpdate.apply (update : ExchangeUpdate) (row : ExchangeRow) : ExchangeRow :=
  { row with
    status := update.status
    nextSyncTime := update.nextSyncTime
    fields := update.clearFields.foldl ExchangeFields.clear (update.fields.over row.fields)
    updatedAt := update.now
    gsi1pk := partitionOf update.status
    gsi1sk := sortOf update.nextSyncTime row.id }

section

variable (update : ExchangeUpdate) (row : ExchangeRow)

/-- Clearing leaves what a sync reads. -/
theorem clear_foldl (clearFields : List ClearField) (fields : ExchangeFields) :
    (clearFields.foldl ExchangeFields.clear fields).syncState = fields.syncState ∧
      (clearFields.foldl ExchangeFields.clear fields).syncCursor = fields.syncCursor ∧
      (clearFields.foldl ExchangeFields.clear fields).consecutiveFailures =
        fields.consecutiveFailures ∧
      (clearFields.foldl ExchangeFields.clear fields).imapConfig = fields.imapConfig ∧
      (clearFields.foldl ExchangeFields.clear fields).jmapConfig = fields.jmapConfig := by
  induction clearFields generalizing fields with
  | nil => exact ⟨rfl, rfl, rfl, rfl, rfl⟩
  | cons field clearFields ih => cases field <;> exact ih _

@[simp] theorem apply_syncState : (update.apply row).fields.syncState =
    (update.fields.syncState <|> row.fields.syncState) :=
  (clear_foldl _ _).1

@[simp] theorem apply_syncCursor : (update.apply row).fields.syncCursor =
    (update.fields.syncCursor <|> row.fields.syncCursor) :=
  (clear_foldl _ _).2.1

@[simp] theorem apply_consecutiveFailures : (update.apply row).fields.consecutiveFailures =
    (update.fields.consecutiveFailures <|> row.fields.consecutiveFailures) :=
  (clear_foldl _ _).2.2.1

@[simp] theorem apply_imapConfig : (update.apply row).fields.imapConfig =
    (update.fields.imapConfig <|> row.fields.imapConfig) :=
  (clear_foldl _ _).2.2.2.1

@[simp] theorem apply_jmapConfig : (update.apply row).fields.jmapConfig =
    (update.fields.jmapConfig <|> row.fields.jmapConfig) :=
  (clear_foldl _ _).2.2.2.2

@[simp] theorem apply_platform : (update.apply row).platform = row.platform := rfl

@[simp] theorem exchangeKey_apply : exchangeKey (update.apply row) = exchangeKey row := rfl

end

/-- The active exchanges in index order. -/
def Store.activeExchanges (s : Store) : List ExchangeRow :=
  (s.exchanges.rows.filter fun row => row.gsi1pk = partitionOf .active).mergeSort
    fun a b => decide (a.gsi1sk ≤ b.gsi1sk)

def Store.updated (s : Store) (accountId emxId : String) (update : ExchangeUpdate) : ExchangeRow :=
  update.apply ((s.exchanges.get (accountId, emxId)).getD (bareRow accountId emxId))

/-- `page` is how many rows a page of the index holds. -/
def exec (page : Nat) : (c : Cmd) → Store → c.Answer × Store
  | .createExternalExchange accountId id data, s =>
    (.ok (newRow accountId id data), ⟨s.exchanges.put (newRow accountId id data)⟩)
  | .getExternalExchange accountId emxId, s => (.ok (s.exchanges.get (accountId, emxId)), s)
  | .listExternalExchanges accountId, s =>
    (.ok ((s.exchanges.rows.filter fun row => row.accountId = accountId).mergeSort
      fun a b => decide (a.id ≤ b.id)), s)
  | .updateExternalExchange accountId emxId update, s =>
    (.ok (s.updated accountId emxId update), ⟨s.exchanges.put (s.updated accountId emxId update)⟩)
  | .deleteExternalExchange accountId emxId, s => (.ok (), ⟨s.exchanges.erase (accountId, emxId)⟩)
  | .listExchangesDue horizon, s =>
    (.ok ((s.activeExchanges.filter fun row => row.gsi1sk < horizon ++ "~").take page), s)
  | .findExternalExchangeBySubscriptionId subscriptionId, s =>
    (.ok (s.activeExchanges.find? fun row =>
      row.fields.providerSubscriptionId = some subscriptionId), s)

theorem mem_activeExchanges {s : Store} {row : ExchangeRow} :
    row ∈ s.activeExchanges ↔ row ∈ s.exchanges.rows ∧ row.gsi1pk = partitionOf .active := by
  simp [Store.activeExchanges, List.mem_mergeSort]

def failure : (c : Cmd) → c.Answer
  | .createExternalExchange .. => .error requestFailed
  | .getExternalExchange .. => .error requestFailed
  | .listExternalExchanges _ => .error requestFailed
  | .updateExternalExchange .. => .error requestFailed
  | .deleteExternalExchange .. => .error requestFailed
  | .listExchangesDue _ => .error requestFailed
  | .findExternalExchangeBySubscriptionId _ => .error requestFailed

def settle (page : Nat) : (c : Cmd) → Store → Fate → c.Answer × Store :=
  settleRequest (exec page) failure

end SesEmailAdapter.Database.ExchangesDatabase
