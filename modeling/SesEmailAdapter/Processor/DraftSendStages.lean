import SesEmailAdapter.Processor.DraftSendRuns

/-! # What becomes of one send

The history of one send, that of the draft `key` initiated at `t`, in the tasks of a run: which
deliveries are past their guard, which have handed the mail over, and which patches undo it. Every
call of every task is one of a few moves of this history. -/

namespace SesEmailAdapter.Processor.DraftSendStages
open Lib
open SesEmailAdapter.Types Database
open Database.ThreadDatabase
open Processor.DraftSendWorker Processor.DraftSendRuns
open Api.ThreadsApi

variable (key : DraftKey) (t : String)

/-! ## Stages -/

/-- What a task has to do with the send. -/
inductive Stage
  | other
  | guarded
  | answered (handed ok : Bool)
  | closed (handed written : Bool)
  | requested
  | reverting
  | reverted
deriving DecidableEq

@[grind =] def stageOf : Phase → Stage
  | .delivery payload (.guarded key') =>
    if key' = key ∧ payload.sendInitiatedAt = t then .guarded else .other
  | .delivery payload (.answered key' handed ok) =>
    if key' = key ∧ payload.sendInitiatedAt = t then .answered handed ok else .other
  | .delivery payload (.closed key' handed written) =>
    if key' = key ∧ payload.sendInitiatedAt = t then .closed handed written else .other
  | .requested key' sendInitiatedAt =>
    if key' = key ∧ sendInitiatedAt = t then .requested else .other
  | .reverting key' sendInitiatedAt =>
    if key' = key ∧ sendInitiatedAt = some t then .reverting else .other
  | .reverted key' sendInitiatedAt =>
    if key' = key ∧ sendInitiatedAt = some t then .reverted else .other
  | _ => .other

def IsPending (signal : Signal) : Prop :=
  signal.status = .pendingSend ∧ sendInitiatedAtOf signal = some t

/-- The draft is pending for this send. -/
def PendingAt (w : World) : Prop :=
  ∃ item, w.table.signals.get key = some item ∧ IsPending t item.signal

def isMailOf (mail : DraftMail) : Bool :=
  decide (mailKey mail = key ∧ mail.data.sendInitiatedAt = some t)

def handedCount (w : World) : Nat := w.handed.countP (isMailOf key t)

/-- The call is the read of a delivery that finds the draft pending for this send. -/
def FindsPending (w : World) : Phase → Cmd → Prop
  | .delivery payload (.started stale), .db (.querySignals accountId partition) =>
    payload.sendInitiatedAt = t ∧ ∃ signal data,
      pendingDraft payload (signalIn stale payload.signalId
        (w.table.signalsIn accountId partition)) = some (signal, data) ∧
      (payload.accountId, signal.signalLookupId) = key
  | _, _ => False

/-- The call is the status write of a send request for this send. -/
def MarksPending : Phase → Cmd → Prop
  | .sending sendInitiatedAt, .db (.updateSendStatus accountId lookupId _) =>
    (accountId, lookupId) = key ∧ sendInitiatedAt = t
  | _, _ => False

/-- The call is the status write of a patch that undoes this send. -/
def Undoes : Phase → Cmd → Prop
  | .reverting key' sendInitiatedAt, .db (.updateSendStatus ..) =>
    key' = key ∧ sendInitiatedAt = some t
  | _, _ => False

/-- The moves of one send: what a call of a task in history state `q` does to its stage, to the
draft's row and to the mails handed over. -/
inductive Effect (w : World) (q : Phase) (c : Cmd) (turn : Turn) (w' : World) : Stage → Stage → Prop
  | pass (hfinds : FindsPending key t w q c) (hturn : turn.fate = .done)
      (hpending : PendingAt key t w) (hsame : w' = w) : Effect w q c turn w' .other .guarded
  | hand (ok : Bool) (hcount : handedCount key t w' = handedCount key t w + 1)
      (hpending : PendingAt key t w' → PendingAt key t w) :
      Effect w q c turn w' .guarded (.answered true ok)
  | fail (ok : Bool) (hcount : handedCount key t w' = handedCount key t w)
      (hpending : PendingAt key t w' → PendingAt key t w) :
      Effect w q c turn w' .guarded (.answered false ok)
  | close (handed ok written : Bool) (hcount : handedCount key t w' = handedCount key t w)
      (hpending : PendingAt key t w' → PendingAt key t w)
      (hwritten : written → ¬ PendingAt key t w') :
      Effect w q c turn w' (.answered handed ok) (.closed handed written)
  | request (hmarks : MarksPending key t q c) (hcount : handedCount key t w' = handedCount key t w) :
      Effect w q c turn w' .other .requested
  | find (hpending : PendingAt key t w) (hsame : w' = w) : Effect w q c turn w' .other .reverting
  | revert (hundoes : Undoes key t q c) (hturn : turn.fate = .done)
      (hcount : handedCount key t w' = handedCount key t w) (hpending : ¬ PendingAt key t w') :
      Effect w q c turn w' .reverting .reverted
  | abort (hcount : handedCount key t w' = handedCount key t w)
      (hpending : PendingAt key t w' → PendingAt key t w) : Effect w q c turn w' .reverting .other
  | stay (stage : Stage) (hcount : handedCount key t w' = handedCount key t w)
      (hpending : PendingAt key t w' → PendingAt key t w) : Effect w q c turn w' stage stage

variable {key t}

/-! ## Writes to the row -/

theorem pendingAt_updateItem {update : Signal → Signal} (hkeeps : SignalsTable.KeepsKey update)
    (w : World) (key' : DraftKey) :
    PendingAt key t { w with table := w.table.updateItem key' update } ↔
      if key = key' then
        ∃ item, w.table.signals.get key = some item ∧ IsPending t (update item.signal)
      else PendingAt key t w := by
  unfold PendingAt
  simp only [SignalsTable.get_updateItem hkeeps]
  by_cases hkey : key = key'
  · subst hkey
    simp only [if_true, Option.map_eq_some_iff]
    constructor
    · rintro ⟨_, ⟨item, hget, rfl⟩, hpending⟩
      exact ⟨item, hget, hpending⟩
    · rintro ⟨item, hget, hpending⟩
      exact ⟨_, ⟨item, hget, rfl⟩, hpending⟩
  · simp only [if_neg hkey]

variable {c : Cmd} {key' : DraftKey} {payload : DraftSendPayload} {sendInitiatedAt : String}

variable {stale : String → Bool} {w : World} {q : Phase}

/-- A status write of the worker or of a patch ends the pending state of its row. -/
theorem pendingAt_of_statusWrite
    {update : SignalsTable.SendStatusUpdate} (hstatus : update.status ≠ .pendingSend)
    (h : PendingAt key t { w with table := w.table.updateItem key' update.apply }) :
    key ≠ key' ∧ PendingAt key t w := by
  rw [pendingAt_updateItem (SignalsTable.sendStatusUpdate_keepsKey update)] at h
  by_cases hkey : key = key'
  · rw [if_pos hkey] at h
    obtain ⟨item, -, hpending, -⟩ := h
    exact absurd hpending hstatus
  · rw [if_neg hkey] at h
    exact ⟨hkey, h⟩

theorem sendInitiatedAtOf_pendingUpdate {signal : Signal}
    (h : sendInitiatedAtOf ((pendingUpdate sendInitiatedAt).apply signal) = some t) :
    sendInitiatedAt = t := by
  unfold sendInitiatedAtOf SignalsTable.SendStatusUpdate.apply at h
  cases hdata : signal.data with
  | outboundEmail data =>
    simp only [hdata] at h
    exact Option.some.inj h
  | _ => simp [hdata] at h

/-- The status write of a request for another send never makes this one pending. -/
theorem pendingAt_of_otherRequest (hother : ¬ (key' = key ∧ sendInitiatedAt = t))
    (h : PendingAt key t
      { w with table := w.table.updateItem key' (pendingUpdate sendInitiatedAt).apply }) :
    PendingAt key t w := by
  rw [pendingAt_updateItem (SignalsTable.sendStatusUpdate_keepsKey _)] at h
  by_cases hkey : key = key'
  · rw [if_pos hkey] at h
    obtain ⟨item, -, -, hinitiated⟩ := h
    exact absurd ⟨hkey.symm, sendInitiatedAtOf_pendingUpdate hinitiated⟩ hother
  · rw [if_neg hkey] at h
    exact h

theorem pendingAt_of_edit {update : SignalsTable.SignalUpdate}
    (h : PendingAt key t { w with table := w.table.updateItem key' update.apply }) :
    PendingAt key t w := by
  rw [pendingAt_updateItem (SignalsTable.signalUpdate_keepsKey update)] at h
  by_cases hkey : key = key'
  · rw [if_pos hkey] at h
    obtain ⟨item, hget, hstatus, hinitiated⟩ := h
    refine ⟨item, hget, hstatus, ?_⟩
    rw [← hinitiated]
    unfold sendInitiatedAtOf SignalsTable.SignalUpdate.apply
    cases hdata : item.signal.data <;> simp
  · rw [if_neg hkey] at h
    exact h

theorem settle_write (c : SignalsTable.Cmd) (w : World) (turn : Turn) :
    (settle (.db c) w turn).2 =
      if turn.fate = .refused then w
      else { w with table := (SignalsTable.exec c w.table).2 } := by
  rw [settle_db]
  cases turn.fate <;> rfl

/-! ## Reads of the row -/

theorem settle_querySignals (accountId : String) (partition : SignalsTable.SignalPartition)
    (w : World) (turn : Turn) :
    (settle (.db (.querySignals accountId partition)) w turn).2 = w ∧
      ∀ items, (settle (.db (.querySignals accountId partition)) w turn).1 = .ok items →
        turn.fate = .done ∧ items = w.table.signalsIn accountId partition := by
  rw [settle_db]
  cases turn.fate with
  | done => exact ⟨rfl, fun items h => ⟨rfl, (Except.ok.inj h).symm⟩⟩
  | refused => exact ⟨rfl, nofun⟩
  | lost => exact ⟨rfl, nofun⟩

theorem pendingAt_of_read {accountId signalId : String}
    {partition : SignalsTable.SignalPartition} {signal : Signal}
    (hread : signalIn stale signalId (w.table.signalsIn accountId partition) = some signal)
    (hstatus : signal.status = .pendingSend)
    (hinitiated : sendInitiatedAtOf signal = some sendInitiatedAt) :
    PendingAt (accountId, signal.signalLookupId) sendInitiatedAt w := by
  obtain ⟨item, hmem, -, rfl⟩ := signalIn_eq_some hread
  obtain ⟨rfl, row, hget, rfl, -⟩ := SignalsTable.mem_signalsIn hmem
  rw [readSignal_signalLookupId]
  refine ⟨row, hget, pendingSend_of_read hstatus, ?_⟩
  unfold sendInitiatedAtOf at hinitiated ⊢
  rw [readSignal_data] at hinitiated
  exact hinitiated

theorem pendingAt_of_findsPending (hallow : monitor.allow q c)
    (h : FindsPending key t w q c) : PendingAt key t w := by
  unfold FindsPending at h
  split at h
  · next payload stale accountId partition =>
    obtain ⟨rfl, -⟩ := hallow
    obtain ⟨rfl, signal, data, hdraft, rfl⟩ := h
    obtain ⟨hread, hdata, hstatus, hinitiated⟩ := pendingDraft_eq_some hdraft
    refine pendingAt_of_read hread hstatus ?_
    unfold sendInitiatedAtOf
    rw [hdata]
    exact hinitiated
  · exact h.elim

/-! ## What a call does -/

variable (w : World) (turn : Turn)

theorem Effect.unchanged {w' : World} (hsame : w' = w) (stage : Stage) :
    Effect key t w q c turn w' stage stage := by
  subst hsame
  exact .stay stage rfl id

theorem effect_started (hallow : monitor.allow (.delivery payload (.started stale)) c) :
    Effect key t w (.delivery payload (.started stale)) c turn (settle c w turn).2 .other
      (stageOf key t
        (monitor.next (.delivery payload (.started stale)) c turn (settle c w turn).1)) := by
  rcases c with c | _ | _ | _ | _
  cases c
  case db.querySignals accountId partition =>
    obtain ⟨hsame, hitems⟩ := settle_querySignals accountId partition w turn
    have hnext : monitor.next (.delivery payload (.started stale))
        (.db (.querySignals accountId partition)) turn
        (settle (.db (.querySignals accountId partition)) w turn).1 =
          afterRead stale payload (settle (.db (.querySignals accountId partition)) w turn).1 := rfl
    rw [hnext]
    cases hanswer : (settle (.db (.querySignals accountId partition)) w turn).1 with
    | error error => exact .unchanged w turn hsame .other
    | ok items =>
      obtain ⟨hturn, rfl⟩ := hitems items hanswer
      cases hdraft : pendingDraft payload
          (signalIn stale payload.signalId (w.table.signalsIn accountId partition)) with
      | none =>
        rw [afterRead_discarded hdraft]
        exact .unchanged w turn hsame .other
      | some draft =>
        obtain ⟨signal, data⟩ := draft
        rw [afterRead_guarded hdraft]
        by_cases hthis : (payload.accountId, signal.signalLookupId) = key ∧
            payload.sendInitiatedAt = t
        · have hfinds : FindsPending key t w (.delivery payload (.started stale))
              (.db (.querySignals accountId partition)) :=
            ⟨hthis.2, signal, data, hdraft, hthis.1⟩
          simp only [stageOf, if_pos hthis]
          exact .pass hfinds hturn (pendingAt_of_findsPending hallow hfinds) hsame
        · simp only [stageOf, if_neg hthis]
          exact .unchanged w turn hsame .other
  all_goals exact hallow.elim

theorem handedCount_hand (mail : DraftMail) :
    handedCount key t { w with handed := mail :: w.handed } =
      handedCount key t w + (isMailOf key t mail).toNat := by
  unfold handedCount
  rw [List.countP_cons]
  cases isMailOf key t mail <;> rfl

theorem settle_sendReply (mail : DraftMail) :
    (settle (.sendReply mail) w turn).2 =
      if turn.hands then { w with handed := mail :: w.handed } else w := rfl

/-- The answer of the reply sender, or a failure before it, ends the stretch after the guard. -/
theorem effect_answer {w' : World}
    (handed ok : Bool) (hpending : PendingAt key t w' → PendingAt key t w)
    (hcount : handedCount key t w' = handedCount key t w +
      (decide (key' = key ∧ payload.sendInitiatedAt = t) && handed).toNat) :
    Effect key t w (.delivery payload (.guarded key')) c turn w'
      (stageOf key t (.delivery payload (.guarded key')))
      (stageOf key t (.delivery payload (.answered key' handed ok))) := by
  by_cases hthis : key' = key ∧ payload.sendInitiatedAt = t
  · rw [decide_eq_true hthis, Bool.true_and] at hcount
    simp only [stageOf, if_pos hthis]
    cases handed with
    | true => exact .hand ok hcount hpending
    | false => exact .fail ok hcount hpending
  · rw [decide_eq_false hthis, Bool.false_and] at hcount
    simp only [stageOf, if_neg hthis]
    exact .stay .other hcount hpending

theorem effect_guarded (hallow : monitor.allow (.delivery payload (.guarded key')) c) :
    Effect key t w (.delivery payload (.guarded key')) c turn (settle c w turn).2
      (stageOf key t (.delivery payload (.guarded key'))) (stageOf key t
        (monitor.next (.delivery payload (.guarded key')) c turn (settle c w turn).1)) := by
  rcases c with c | recipients | s3Key | mail | _
  cases c
  case db.querySignals accountId partition =>
    exact .unchanged w turn (settle_querySignals accountId partition w turn).1 _
  case validateRecipientMx =>
    rcases turn with fate | invalidDomains | reason | ⟨handed, answer⟩
    case invalidDomains =>
      exact effect_answer w (.invalidDomains invalidDomains) false false id (by simp [settle])
    all_goals exact .unchanged w _ rfl _
  case getContent =>
    rcases turn with fate | invalidDomains | reason | ⟨handed, answer⟩
    case missing =>
      exact effect_answer w (.missing reason) false false id (by simp [settle])
    all_goals exact .unchanged w _ rfl _
  case sendReply =>
    obtain ⟨hkey, hinitiated⟩ := hallow
    have hmail : isMailOf key t mail = decide (key' = key ∧ payload.sendInitiatedAt = t) := by
      simp only [isMailOf, hkey, hinitiated, Option.some.injEq]
    have hcount : handedCount key t (settle (.sendReply mail) w turn).2 = handedCount key t w +
        (decide (key' = key ∧ payload.sendInitiatedAt = t) && turn.hands).toNat := by
      rw [settle_sendReply]
      cases hhands : turn.hands with
      | true => rw [if_pos rfl, handedCount_hand, hmail, Bool.and_true]
      | false => simp
    have hpending : PendingAt key t (settle (.sendReply mail) w turn).2 → PendingAt key t w := by
      rw [settle_sendReply]
      split <;> exact id
    cases hanswer : (settle (.sendReply mail) w turn).1 with
    | error error => exact effect_answer w turn turn.hands false hpending hcount
    | ok receipt => exact effect_answer w turn turn.hands true hpending hcount
  all_goals exact hallow.elim

variable (key t) in
/-- What a status write does to this send when it is no request for it. -/
theorem effect_statusWrite (accountId lookupId : String) {update : SignalsTable.SendStatusUpdate}
    (hstatus : update.status ≠ .pendingSend) :
    let w' := (settle (.db (.updateSendStatus accountId lookupId update)) w turn).2
    handedCount key t w' = handedCount key t w ∧ (PendingAt key t w' → PendingAt key t w) ∧
      (turn.fate ≠ .refused → (accountId, lookupId) = key → ¬ PendingAt key t w') := by
  intro w'
  have hw' : w' = if turn.fate = .refused then w
      else { w with table := w.table.updateItem (accountId, lookupId) update.apply } :=
    settle_write _ w turn
  rw [hw']
  by_cases hfate : turn.fate = .refused
  · rw [if_pos hfate]
    exact ⟨rfl, id, fun h => absurd hfate h⟩
  · rw [if_neg hfate]
    exact ⟨rfl, fun h => (pendingAt_of_statusWrite hstatus h).2,
      fun _ hkey h => (pendingAt_of_statusWrite hstatus h).1 hkey.symm⟩

theorem effect_answered {handed ok : Bool}
    (hallow : monitor.allow (.delivery payload (.answered key' handed ok)) c) :
    Effect key t w (.delivery payload (.answered key' handed ok)) c turn (settle c w turn).2
      (stageOf key t (.delivery payload (.answered key' handed ok))) (stageOf key t
        (monitor.next (.delivery payload (.answered key' handed ok)) c turn
          (settle c w turn).1)) := by
  rcases c with c | _ | _ | _ | _
  cases c
  case db.updateSendStatus accountId lookupId update =>
    obtain ⟨rfl, hstatus⟩ := hallow
    have hpendingStatus : update.status ≠ .pendingSend := by
      rw [hstatus]
      cases ok <;> simp
    obtain ⟨hcount, hpending, hwritten⟩ :=
      effect_statusWrite key t w turn accountId lookupId hpendingStatus
    change Effect key t w _ _ turn _ _ (stageOf key t
      (.delivery payload (.closed (accountId, lookupId) handed (turn.fate ≠ .refused))))
    by_cases hthis : (accountId, lookupId) = key ∧ payload.sendInitiatedAt = t
    · simp only [stageOf, if_pos hthis]
      exact .close handed ok _ hcount hpending
        fun h => hwritten (of_decide_eq_true h) hthis.1
    · simp only [stageOf, if_neg hthis]
      exact .stay .other hcount hpending
  all_goals exact hallow.elim

theorem effect_sending (hallow : monitor.allow (.sending sendInitiatedAt) c) :
    Effect key t w (.sending sendInitiatedAt) c turn (settle c w turn).2 .other
      (stageOf key t (monitor.next (.sending sendInitiatedAt) c turn (settle c w turn).1)) := by
  rcases c with c | _ | _ | _ | ⟨payload, delaySeconds⟩
  cases c
  case db.querySignals accountId partition =>
    exact .unchanged w turn (settle_querySignals accountId partition w turn).1 .other
  case db.getThread accountId id =>
    refine .unchanged w turn ?_ .other
    rw [settle_write]
    exact ite_id w
  case dispatch =>
    refine .unchanged w turn ?_ .other
    rcases turn with fate | _ | _ | ⟨_, _⟩
    · cases fate <;> rfl
    all_goals rfl
  case db.updateSendStatus accountId lookupId update =>
    obtain rfl : update = pendingUpdate sendInitiatedAt := hallow
    change Effect key t w _ _ turn _ .other
      (stageOf key t (.requested (accountId, lookupId) sendInitiatedAt))
    have hcount : handedCount key t (settle (.db (.updateSendStatus accountId lookupId
        (pendingUpdate sendInitiatedAt))) w turn).2 = handedCount key t w := by
      rw [settle_write]
      split <;> rfl
    by_cases hthis : (accountId, lookupId) = key ∧ sendInitiatedAt = t
    · simp only [stageOf, if_pos hthis]
      exact .request hthis hcount
    · simp only [stageOf, if_neg hthis]
      refine .stay .other hcount ?_
      rw [settle_write]
      split
      · exact id
      · exact pendingAt_of_otherRequest hthis
  all_goals exact hallow.elim

theorem effect_patching {accountId' signalId : String} {toDraft : Bool}
    (hallow : monitor.allow (.patching stale accountId' signalId toDraft) c) :
    Effect key t w (.patching stale accountId' signalId toDraft) c turn (settle c w turn).2 .other
      (stageOf key t (monitor.next (.patching stale accountId' signalId toDraft) c turn
          (settle c w turn).1)) := by
  rcases c with c | _ | _ | _ | _
  cases c
  case db.querySignals accountId partition =>
    obtain rfl : accountId = accountId' := hallow
    obtain ⟨hsame, hitems⟩ := settle_querySignals accountId partition w turn
    have hnext : monitor.next (.patching stale accountId signalId toDraft)
        (.db (.querySignals accountId partition)) turn
        (settle (.db (.querySignals accountId partition)) w turn).1 =
          afterPatchRead stale accountId signalId toDraft
            (settle (.db (.querySignals accountId partition)) w turn).1 := rfl
    rw [hnext]
    cases hanswer : (settle (.db (.querySignals accountId partition)) w turn).1 with
    | error error => exact .unchanged w turn hsame .other
    | ok items =>
      obtain ⟨hturn, rfl⟩ := hitems items hanswer
      simp only [afterPatchRead]
      split
      · exact .unchanged w turn hsame .other
      · next signal hread =>
        split
        · next hpending =>
          by_cases hthis : (accountId, signal.signalLookupId) = key ∧
              sendInitiatedAtOf signal = some t
          · simp only [stageOf, if_pos hthis]
            refine .find ?_ hsame
            rw [← hthis.1]
            exact pendingAt_of_read hread hpending.1 hthis.2
          · simp only [stageOf, if_neg hthis]
            exact .unchanged w turn hsame .other
        · split <;> exact .unchanged w turn hsame .other
  all_goals exact hallow.elim

theorem effect_editing (hallow : monitor.allow .editing c) :
    Effect key t w .editing c turn (settle c w turn).2 .other
      (stageOf key t (monitor.next .editing c turn (settle c w turn).1)) := by
  rcases c with c | _ | _ | _ | _
  cases c
  case db.updateSignal accountId lookupId update =>
    refine .stay .other ?_ ?_
    · rw [settle_write]
      split <;> rfl
    · rw [settle_write]
      split
      · exact id
      · exact pendingAt_of_edit
  all_goals exact hallow.elim

theorem effect_reverting {sendInitiatedAt : Option String}
    (hallow : monitor.allow (.reverting key' sendInitiatedAt) c) :
    Effect key t w (.reverting key' sendInitiatedAt) c turn (settle c w turn).2
      (stageOf key t (.reverting key' sendInitiatedAt)) (stageOf key t
        (monitor.next (.reverting key' sendInitiatedAt) c turn (settle c w turn).1)) := by
  rcases c with c | _ | _ | _ | _
  cases c
  case db.updateSendStatus accountId lookupId update =>
    obtain ⟨rfl, rfl⟩ := hallow
    obtain ⟨hcount, hpending, hwritten⟩ :=
      @effect_statusWrite key t w turn accountId lookupId revertUpdate nofun
    have hnext : monitor.next (.reverting (accountId, lookupId) sendInitiatedAt)
        (.db (.updateSendStatus accountId lookupId revertUpdate)) turn
        (settle (.db (.updateSendStatus accountId lookupId revertUpdate)) w turn).1 =
          if turn.fate = .done then .reverted (accountId, lookupId) sendInitiatedAt
          else .discarded := by
      rw [settle_db]
      cases turn.fate <;> rfl
    rw [hnext]
    by_cases hfate : turn.fate = .done
    · rw [if_pos hfate]
      by_cases hthis : (accountId, lookupId) = key ∧ sendInitiatedAt = some t
      · simp only [stageOf, if_pos hthis]
        exact .revert hthis hfate hcount (hwritten (by rw [hfate]; nofun) hthis.1)
      · simp only [stageOf, if_neg hthis]
        exact .stay .other hcount hpending
    · rw [if_neg hfate]
      by_cases hthis : (accountId, lookupId) = key ∧ sendInitiatedAt = some t
      · simp only [stageOf, if_pos hthis]
        exact .abort hcount hpending
      · simp only [stageOf, if_neg hthis]
        exact .stay .other hcount hpending
  all_goals exact hallow.elim

theorem effect (hallow : monitor.allow q c) :
    Effect key t w q c turn (settle c w turn).2 (stageOf key t q)
      (stageOf key t (monitor.next q c turn (settle c w turn).1)) := by
  rcases q with ⟨payload, stale | key' | ⟨key', handed, ok⟩ | ⟨key', handed, written⟩⟩ | _ | _ | _ |
    _ | _ | _ | _ | _
  case delivery.started => exact effect_started w turn hallow
  case delivery.guarded => exact effect_guarded w turn hallow
  case delivery.answered => exact effect_answered w turn hallow
  case sending => exact effect_sending w turn hallow
  case patching => exact effect_patching w turn hallow
  case editing => exact effect_editing w turn hallow
  case reverting => exact effect_reverting w turn hallow
  all_goals exact hallow.elim

/-! ## Counts -/

def Stage.guards (stage : Stage) (alive : Bool) : Bool := alive && stage = .guarded

/-- The mail was handed over and the status write is outstanding or failed without an effect. -/
def Stage.holds (stage : Stage) (_ : Bool) : Bool :=
  match stage with
  | .answered true _ => true
  | .closed true false => true
  | _ => false

def Stage.requests (stage : Stage) (_ : Bool) : Bool := stage = .requested

/-- The task is about to record the mail as sent. -/
def Stage.awaits : Stage → Bool → Bool
  | .answered _ true, true => true
  | _, _ => false

def Stage.undoes (stage : Stage) (_ : Bool) : Bool := stage = .reverting

def Stage.undone (stage : Stage) (_ : Bool) : Bool := stage = .reverted

variable (key t) in
def count (p : Stage → Bool → Bool) (ts : List (Phase × Bool)) : Nat :=
  ts.countP fun v => p (stageOf key t v.1) v.2

end SesEmailAdapter.Processor.DraftSendStages
