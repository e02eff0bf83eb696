import SesEmailAdapter.Database.ThreadDatabase
import SesEmailAdapter.Lib.KeySort

/-! # Signals by Message-ID

One email can be stored more than once under its Message-ID: for several recipients, again after
it was quarantined, or blocked. The lookup that places a reply takes the oldest of these signals,
and asks for their threads only to log a collision. -/

namespace SesEmailAdapter.Database.ReplyLookup
open Lib
open SesEmailAdapter.Types Database.SignalsTable
open Database.ThreadDatabase

/-- The signals under a Message-ID, in the order in which the index lists them. -/
def signalsUnder (s : Store) (gsi3pk : String) : List Signal :=
  (s.signals.rows.filter fun item => item.signal.gsi3pk = some gsi3pk).map SignalItem.signal

/-- The oldest of some signals, the first one among equally old ones. -/
def oldest (signals : List Signal) : Option Signal :=
  signals.find? fun signal => signals.all fun other => signal.createdAt ≤ other.createdAt

/-- `threadId != null` -/
def Threaded (signal : Signal) : Prop := signal.threadId.isSome

instance (signal : Signal) : Decidable (Threaded signal) :=
  inferInstanceAs (Decidable (_ = true))

/-- The signal is the oldest one that has a thread. -/
structure OldestThreaded (signals : List Signal) (signal : Signal) : Prop where
  mem : signal ∈ signals
  threaded : Threaded signal
  oldest : ∀ other ∈ signals, Threaded other → signal.createdAt ≤ other.createdAt

/-- The lookup finds the oldest signal that has a thread, and none where none has one. -/
def MatchesThreaded (s : Store) (gsi3pk : String) : Prop :=
  ∃ found, ((findSignalByEmailMessageId gsi3pk).eval service s).1 = .ok found ∧
    (∀ signal, found = some signal → OldestThreaded (signalsUnder s gsi3pk) signal) ∧
    (found = none → ∀ signal ∈ signalsUnder s gsi3pk, ¬ Threaded signal)

theorem eval_findSignalByEmailMessageId (gsi3pk : String) (s : Store) :
    (findSignalByEmailMessageId gsi3pk).eval service s =
      (.ok (oldest (signalsUnder s gsi3pk)), s) := by
  have hhead := @head?_sortBy _ _ _ Signal.createdAt (signalsUnder s gsi3pk)
  change _ = oldest (signalsUnder s gsi3pk) at hhead
  rw [← hhead]
  rfl

variable {signals : List Signal} {signal : Signal}

theorem oldest_eq_some (h : oldest signals = some signal) :
    signal ∈ signals ∧ ∀ other ∈ signals, signal.createdAt ≤ other.createdAt := by
  refine ⟨List.mem_of_find?_eq_some h, ?_⟩
  simpa using List.find?_some h

theorem oldest_eq_none (h : oldest signals = none) : signals = [] := by
  have hhead := @head?_sortBy _ _ _ Signal.createdAt signals
  change _ = oldest signals at hhead
  rw [h, List.head?_eq_none_iff] at hhead
  have hperm := sortBy_perm Signal.createdAt signals
  rw [hhead] at hperm
  exact hperm.nil_eq.symm

/-- **A reply is matched with a thread just when the oldest copy has one.** A copy without a thread
hides the younger ones that have one, and is itself returned where none has. -/
theorem matchesThreaded_iff (s : Store) (gsi3pk : String) :
    MatchesThreaded s gsi3pk ↔
      ∀ signal, oldest (signalsUnder s gsi3pk) = some signal → Threaded signal := by
  unfold MatchesThreaded
  rw [eval_findSignalByEmailMessageId]
  constructor
  · intro h signal hsignal
    obtain ⟨found, hfound, hsome, -⟩ := h
    obtain rfl := Except.ok.inj hfound
    exact (hsome signal hsignal).threaded
  · intro hthreaded
    refine ⟨_, rfl, fun signal hsignal => ?_, fun hnone => ?_⟩
    · obtain ⟨hmem, hle⟩ := oldest_eq_some hsignal
      exact ⟨hmem, hthreaded signal hsignal, fun other hother _ => hle other hother⟩
    · rw [oldest_eq_none hnone]
      simp

/-! ## A blocked copy -/

/-- A copy of one email, as it was stored on a day of June. -/
def copyOf (id day : String) (threadId : Option String) : Signal where
  id := id
  signalLookupId := id
  threadId := threadId
  gsi3pk := some "ACCT#acc#MSGID#<a@org.test>"
  accountId := "acc"
  status := if threadId.isSome then .active else .blockHidden
  labels := some []
  createdAt := "2026-06-" ++ day ++ "T08:00:00.000Z"
  retentionDuration := none
  data := .autoSendBlocked "me@a.example" none

/-- The email was blocked for one recipient, and a day later threaded for another. -/
def copies : Store where
  signals := (KeyedTable.empty.put (signalItem (copyOf "sgn-1" "01" none))).put
    (signalItem (copyOf "sgn-2" "02" (some "thr-1")))
  threads := .empty

/-- The reply is not matched with the thread. -/
theorem copies_unmatched :
    ((findSignalByEmailMessageId "ACCT#acc#MSGID#<a@org.test>").eval service copies).1 =
        .ok (some (copyOf "sgn-1" "01" none)) ∧
      ¬ MatchesThreaded copies "ACCT#acc#MSGID#<a@org.test>" := by
  have holdest : oldest (signalsUnder copies "ACCT#acc#MSGID#<a@org.test>") =
      some (copyOf "sgn-1" "01" none) := by decide +kernel
  refine ⟨by rw [eval_findSignalByEmailMessageId, holdest], fun hmatches => ?_⟩
  rw [matchesThreaded_iff] at hmatches
  exact absurd (hmatches _ holdest) (by decide)

end SesEmailAdapter.Database.ReplyLookup
