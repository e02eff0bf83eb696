import SesEmailAdapter.Lib.KeyedTable

/-! # The suppression list

One row per suppressed address, under the key `SUPPRESS#{address}`. A row that carries a `ttl` is
deleted by the table some time after it has passed. -/

namespace SesEmailAdapter.Database.ProcessingDatabase
open Lib

inductive SuppressionReason
  | hardBounce | softBounce | complaint | manual | externalBounce
deriving DecidableEq, Repr

/-- `ttl` in seconds. -/
structure SuppressedAddress where
  address : String
  reason : SuppressionReason
  suppressedAt : String
  ttl : Option Nat
  sesMessageId : Option String
  linkedSignalId : Option String
deriving DecidableEq, Repr

structure SuppressionRow where
  address : String
  reason : SuppressionReason
  suppressedAt : String
  ttl : Option Nat
  sesMessageId : Option String
  linkedSignalId : Option String
  bounceCount : Nat
deriving DecidableEq, Repr

abbrev SuppressionTable := KeyedTable SuppressionRow.address

/-- The row after `SET ... ADD bounceCount 1`: an entry without a `ttl` leaves the one the row
has. -/
def updatedRow (entry : SuppressedAddress) (prior : Option SuppressionRow) : SuppressionRow where
  address := entry.address
  reason := entry.reason
  suppressedAt := entry.suppressedAt
  ttl := entry.ttl.or (prior.bind SuppressionRow.ttl)
  sesMessageId := entry.sesMessageId
  linkedSignalId := entry.linkedSignalId
  bounceCount := (prior.map SuppressionRow.bounceCount).getD 0 + 1

def suppressAddress (entry : SuppressedAddress) (t : SuppressionTable) : Nat × SuppressionTable :=
  let row := updatedRow entry (t.get entry.address)
  (row.bounceCount, t.put row)

def isAddressSuppressed (address : String) (t : SuppressionTable) : Bool :=
  (t.get address).isSome

def SuppressionRow.expired (row : SuppressionRow) (now : Nat) : Bool :=
  match row.ttl with
  | some ttl => ttl < now
  | none => false

/-- The table deletes a row whose `ttl` has passed. -/
def expire (address : String) (now : Nat) (t : SuppressionTable) : SuppressionTable :=
  match t.get address with
  | some row => if row.expired now then t.erase address else t
  | none => t

variable {t : SuppressionTable} {row : SuppressionRow}

theorem mem_suppressAddress {entry : SuppressedAddress} :
    row ∈ (suppressAddress entry t).2.rows ↔
      row = updatedRow entry (t.get entry.address) ∨
        (row ∈ t.rows ∧ row.address ≠ entry.address) :=
  KeyedTable.mem_put

variable {address : String}

theorem mem_of_mem_expire {now : Nat} (h : row ∈ (expire address now t).rows) :
    row ∈ t.rows := by
  unfold expire at h
  split at h
  · split at h
    · exact (List.mem_filter.mp h).1
    · exact h
  · exact h

/-- A row without a `ttl` is never deleted. -/
theorem mem_expire_of_ttl {now : Nat} (h : row ∈ t.rows) (httl : row.ttl = none) :
    row ∈ (expire address now t).rows := by
  unfold expire
  split
  case h_2 => exact h
  case h_1 found hfound =>
    split
    case isFalse => exact h
    case isTrue hexpired =>
      refine List.mem_filter.mpr ⟨h, decide_eq_true fun haddr => ?_⟩
      have hsame : t.get address = some row := haddr ▸ KeyedTable.mem_rows_iff.mp h
      obtain rfl : found = row := Option.some.inj (hfound.symm.trans hsame)
      unfold SuppressionRow.expired at hexpired
      rw [httl] at hexpired
      cases hexpired

theorem isAddressSuppressed_iff :
    isAddressSuppressed address t = true ↔ ∃ row ∈ t.rows, row.address = address := by
  unfold isAddressSuppressed
  constructor
  · intro h
    obtain ⟨row, hrow⟩ := Option.isSome_iff_exists.mp h
    exact ⟨row, KeyedTable.mem_rows_of_get hrow, KeyedTable.key_of_get hrow⟩
  · rintro ⟨row, hmem, rfl⟩
    rw [KeyedTable.mem_rows_iff.mp hmem]
    rfl

end SesEmailAdapter.Database.ProcessingDatabase
