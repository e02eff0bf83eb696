import Mathlib.Algebra.GroupWithZero.Nat
import Mathlib.Algebra.Order.BigOperators.Group.List
import SesEmailAdapter.Lib.DigitText

/-! # The signal queue

Entries are sent in batches, cut in one greedy pass by a count and by bytes. The send stops at the
first batch that the queue does not take whole. -/

namespace SesEmailAdapter.Messaging.SignalQueue
open Lib

def maxBatchEntries : Nat := 10

def maxBatchBytes : Nat := 256 * 1024

structure Entry (Payload : Type) where
  id : String
  payload : Payload

section Chunks
variable {Payload : Type} (stringify : Payload → String) (messageType : String)

/-- Body, message attributes and overhead. -/
def entryBytes (entry : Entry Payload) : Nat :=
  (stringify entry.payload).utf8ByteSize + messageType.utf8ByteSize + 200

/-- The variables of the loop over the entries. -/
structure Chunking (Payload : Type) where
  chunks : List (List (Entry Payload)) := []
  currentChunk : List (Entry Payload) := []
  currentBytes : Nat := 0

def Chunking.add (c : Chunking Payload) (entry : Entry Payload) : Chunking Payload :=
  let bytes := entryBytes stringify messageType entry
  if maxBatchEntries ≤ c.currentChunk.length ∨
      (maxBatchBytes < c.currentBytes + bytes ∧ 0 < c.currentChunk.length) then
    { chunks := c.chunks ++ [c.currentChunk], currentChunk := [entry], currentBytes := bytes }
  else
    { c with
      currentChunk := c.currentChunk ++ [entry]
      currentBytes := c.currentBytes + bytes }

def chunkEntries (entries : List (Entry Payload)) : List (List (Entry Payload)) :=
  let c := entries.foldl (Chunking.add stringify messageType) {}
  if 0 < c.currentChunk.length then c.chunks ++ [c.currentChunk] else c.chunks

/-! ## Sending -/

/-- An entry as the queue is given it. -/
structure BatchEntry where
  id : List Char
  messageBody : String
  messageType : String

/-- What the queue does with a batch. An answer leaves each entry accepted or named as failed. -/
inductive Answer (batch : List BatchEntry)
  | threw
  | answered (accepted : List BatchEntry) (failed : Option (List (List Char)))
      (each : ∀ entry ∈ batch, entry ∈ accepted ∨ entry.id ∈ failed.getD [])

variable (sha256 : String → List Char)

def sqsSafeId (id : String) (index : Nat) : List Char :=
  Nat.toDigits 10 index ++ '-' :: sha256 id

def batchOf (chunk : List (Entry Payload)) : List BatchEntry :=
  chunk.mapIdx fun i entry =>
    { id := sqsSafeId sha256 entry.id i, messageBody := stringify entry.payload, messageType }

/-- A batch that was sent, with what the queue did. -/
abbrev Sent := (batch : List BatchEntry) × Answer batch

/-- The answer may depend on what was sent before. -/
abbrev Queue := List Sent → (batch : List BatchEntry) → Answer batch

/-- Whether every batch was taken, and the batches sent. -/
def sendChunks (queue : Queue) : List Sent → List (List BatchEntry) → Bool × List Sent
  | sent, [] => (true, sent)
  | sent, batch :: rest =>
    let answer := queue sent batch
    let sent' := sent ++ [⟨batch, answer⟩]
    match answer with
    | .threw => (false, sent')
    | .answered _ failed _ =>
      if 0 < (failed.getD []).length then (false, sent') else sendChunks queue sent' rest

def sendBatch (queue : Queue) (entries : List (Entry Payload)) : Bool × List Sent :=
  if entries.length = 0 then (true, [])
  else
    sendChunks queue []
      ((chunkEntries stringify messageType entries).map (batchOf stringify messageType sha256))

/-! ## The chunks -/

/-- Between one and ten entries, whose bodies fit unless there is one. -/
def Fits (chunk : List (Entry Payload)) : Prop :=
  1 ≤ chunk.length ∧ chunk.length ≤ maxBatchEntries ∧
    (chunk.length = 1 ∨
      (chunk.map (entryBytes stringify messageType)).sum ≤ maxBatchBytes)

/-- What the loop keeps: the entries so far, in chunks that fit and in the current one. -/
structure Chunking.Holds (c : Chunking Payload) (entries : List (Entry Payload)) : Prop where
  kept : c.chunks.flatten ++ c.currentChunk = entries
  fit : ∀ chunk ∈ c.chunks, Fits stringify messageType chunk
  bytes : c.currentBytes = (c.currentChunk.map (entryBytes stringify messageType)).sum
  current : c.currentChunk = [] ∨ Fits stringify messageType c.currentChunk

variable {stringify messageType}

theorem fits_singleton (entry : Entry Payload) : Fits stringify messageType [entry] :=
  ⟨le_rfl, by unfold maxBatchEntries; simp, .inl rfl⟩

theorem Chunking.Holds.add {c : Chunking Payload} {entries : List (Entry Payload)}
    (h : c.Holds stringify messageType entries) (entry : Entry Payload) :
    (c.add stringify messageType entry).Holds stringify messageType (entries ++ [entry]) := by
  unfold Chunking.add
  dsimp only
  split
  · rename_i hfull
    have hcurrent : Fits stringify messageType c.currentChunk := by
      rcases h.current with hnil | hfits
      · rw [hnil] at hfull
        simp [maxBatchEntries] at hfull
      · exact hfits
    refine ⟨?_, ?_, ?_, .inr (fits_singleton entry)⟩
    · rw [List.flatten_concat, h.kept]
    · intro chunk hchunk
      rcases List.mem_append.mp hchunk with hchunk | hchunk
      · exact h.fit chunk hchunk
      · exact List.mem_singleton.mp hchunk ▸ hcurrent
    · simp
  · rename_i hroom
    obtain ⟨hcount, hbytes⟩ := not_or.mp hroom
    refine ⟨?_, h.fit, ?_, .inr ⟨by simp, ?_, ?_⟩⟩
    · rw [← List.append_assoc, h.kept]
    · simp [h.bytes]
    · simp only [List.length_append, List.length_singleton]
      omega
    · rcases h.current with hnil | hfits
      · exact .inl (by simp [hnil])
      · have hpos : 0 < c.currentChunk.length := hfits.1
        have htotal : c.currentBytes + entryBytes stringify messageType entry ≤ maxBatchBytes := by
          omega
        refine .inr ?_
        simpa [h.bytes] using htotal

theorem Chunking.Holds.run {c : Chunking Payload} {entries : List (Entry Payload)}
    (h : c.Holds stringify messageType entries) (more : List (Entry Payload)) :
    (more.foldl (Chunking.add stringify messageType) c).Holds stringify messageType
      (entries ++ more) := by
  induction more generalizing c entries with
  | nil => simpa using h
  | cons entry more ih =>
    have hrest := ih (h.add entry)
    rwa [List.append_assoc, List.singleton_append] at hrest

theorem ids_nodup (chunk : List (Entry Payload)) :
    ((batchOf stringify messageType sha256 chunk).map BatchEntry.id).Nodup := by
  rw [List.Nodup, List.pairwise_iff_getElem]
  intro i j hi hj hlt heq
  simp only [batchOf, List.getElem_map, List.getElem_mapIdx, sqsSafeId] at heq
  exact absurd (DigitText.number_injective rfl heq) (by omega)

/-- The queue accepted every entry of the batch. -/
def Sent.Taken (sent : Sent) : Prop :=
  match sent.2 with
  | .threw => False
  | .answered accepted _ _ => ∀ entry ∈ sent.1, entry ∈ accepted

end Chunks

end SesEmailAdapter.Messaging.SignalQueue
