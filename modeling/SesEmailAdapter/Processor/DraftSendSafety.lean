import SesEmailAdapter.Processor.DraftSendStages

/-! # At-most-once sending and undo

When the mail of one send is handed over at most once, and when an undone send stays undone,
over every run. -/

namespace SesEmailAdapter.Processor.DraftSendSafety
open Lib
open SesEmailAdapter.Types Database
open Database.ThreadDatabase
open Processor.DraftSendWorker Processor.DraftSendRuns
open Processor.DraftSendStages
open Api.ThreadsApi

variable {key : DraftKey} {t : String}

/-! ## At most once -/

variable (key t) in
/-- A second status write of a send request for the same send does not occur. -/
def InitiatesOnce (start : World) (q : Phase) (c : Cmd) (ts : List (Phase × Bool)) : Prop :=
  MarksPending key t q c → ¬ PendingAt key t start ∧ count key t Stage.requests ts = 0

variable (key t) in
/-- A delivery finds the draft pending only when no other one is between its guard and its send,
or has handed the mail over without its status write having taken place. -/
def noOverlap (start : World) : Rules Cmd Cmd.Answer Reply World Turn Phase where
  spawn prog q _ _ := Starts prog q
  step _ q c turn w ts := InitiatesOnce key t start q c ts ∧
    (FindsPending key t w q c → turn.fate = .done →
      count key t Stage.guards ts = 0 ∧ count key t Stage.holds ts = 0)
  crash _ _ _ _ := True

variable (key t) in
structure AtMostOnce (start w : World) (ts : List (Phase × Bool)) : Prop where
  sole : count key t Stage.guards ts + count key t Stage.holds ts ≤ 1
  unsent : handedCount key t w + count key t Stage.guards ts ≤ 1
  held : PendingAt key t w → handedCount key t w ≤ count key t Stage.holds ts
  fresh : ¬ PendingAt key t start → count key t Stage.requests ts = 0 →
    ¬ PendingAt key t w ∧ handedCount key t w = 0 ∧ count key t Stage.guards ts = 0 ∧
      count key t Stage.holds ts = 0

variable {ts ts' : List (Phase × Bool)} {start w w' : World}

/-- Moves that hand nothing over and let no delivery past its guard. -/
theorem AtMostOnce.quiet
    (h : AtMostOnce key t start w ts) (hhanded : handedCount key t w' = handedCount key t w)
    (hpending : PendingAt key t w' → PendingAt key t w)
    (hguards : count key t Stage.guards ts' ≤ count key t Stage.guards ts)
    (hholds : count key t Stage.holds ts' ≤ count key t Stage.holds ts)
    (hkept : PendingAt key t w' → count key t Stage.holds ts' = count key t Stage.holds ts)
    (hrequests : count key t Stage.requests ts' = count key t Stage.requests ts) :
    AtMostOnce key t start w' ts' := by
  obtain ⟨hsole, hunsent, hheld, hfresh⟩ := h
  refine ⟨by omega, by omega, fun hp => ?_, fun hstart hnone => ?_⟩
  · have hbefore := hheld (hpending hp)
    have hsame := hkept hp
    omega
  · obtain ⟨hnot, hzeros⟩ := hfresh hstart (by omega)
    exact ⟨fun hp => hnot (hpending hp), by omega⟩

theorem AtMostOnce.effect {i : Nat} {q : Phase}
    {c : Cmd} {turn : Turn} {stage stage' : Stage} (h : AtMostOnce key t start w ts)
    (hrule : (noOverlap key t start).step i q c turn w ts)
    (heffect : Effect key t w q c turn w' stage stage')
    (hcount : ∀ p : Stage → Bool → Bool, count key t p ts' + (p stage true).toNat =
      count key t p ts + (p stage' true).toNat) : AtMostOnce key t start w' ts' := by
  obtain ⟨honce, hoverlap⟩ := hrule
  have hguards := hcount Stage.guards
  have hholds := hcount Stage.holds
  have hrequests := hcount Stage.requests
  cases heffect with
  | pass hfinds hturn hpending hsame =>
    subst hsame
    obtain ⟨hnoGuards, hnoHolds⟩ := hoverlap hfinds hturn
    have hhanded := h.held hpending
    simp [Stage.guards, Stage.holds, Stage.requests] at hguards hholds hrequests
    refine ⟨by omega, by omega, fun _ => by omega, fun hstart hnone => ?_⟩
    exact absurd hpending (h.fresh hstart (by omega)).1
  | hand ok hhanded hpending =>
    have hsole := h.sole
    have hunsent := h.unsent
    simp [Stage.guards, Stage.holds, Stage.requests] at hguards hholds hrequests
    refine ⟨by omega, by omega, fun _ => by omega, fun hstart hnone => ?_⟩
    obtain ⟨-, -, hzero, -⟩ := h.fresh hstart (by omega)
    omega
  | request hmarks hhanded =>
    obtain ⟨hstart, hnone⟩ := honce hmarks
    obtain ⟨-, hzeros⟩ := h.fresh hstart hnone
    simp [Stage.guards, Stage.holds, Stage.requests] at hguards hholds hrequests
    exact ⟨by omega, by omega, fun _ => by omega, fun _ _ => by omega⟩
  | fail ok hhanded hpending =>
    simp [Stage.guards, Stage.holds, Stage.requests] at hguards hholds hrequests
    exact h.quiet hhanded hpending (by omega) (by omega) (fun _ => hholds) hrequests
  | close handed ok written hhanded hpending hwritten =>
    simp [Stage.guards, Stage.requests] at hguards hrequests
    cases written with
    | true =>
      cases handed <;> simp [Stage.holds] at hholds <;>
        exact h.quiet hhanded hpending (by omega) (by omega)
          (fun hp => absurd hp (hwritten rfl)) hrequests
    | false =>
      cases handed <;> simp [Stage.holds] at hholds <;>
        exact h.quiet hhanded hpending (by omega) (by omega) (fun _ => hholds) hrequests
  | find hpending hsame =>
    subst hsame
    simp [Stage.guards, Stage.holds, Stage.requests] at hguards hholds hrequests
    exact h.quiet rfl id (by omega) (by omega) (fun _ => hholds) hrequests
  | revert hundoes hturn hhanded hpending =>
    simp [Stage.guards, Stage.holds, Stage.requests] at hguards hholds hrequests
    exact h.quiet hhanded (fun hp => absurd hp hpending) (by omega) (by omega) (fun _ => hholds)
      hrequests
  | abort hhanded hpending =>
    simp [Stage.guards, Stage.holds, Stage.requests] at hguards hholds hrequests
    exact h.quiet hhanded hpending (by omega) (by omega) (fun _ => hholds) hrequests
  | stay _ hhanded hpending =>
    exact h.quiet hhanded hpending (by omega) (by omega) (fun _ => by omega) (by omega)

def draftData : OutboundEmailSignalData where
  sender := ⟨"me@home.test", none⟩
  toAddresses := [⟨"ann@org.test", none⟩]
  cc := []
  bcc := []
  subject := "Hello"
  attachments := []
  headers := []
  textBody := some "Hello"
  htmlBody := none
  sesMessageId := none
  sendInitiatedAt := some "2026-03-01T09:00:00.000Z"
  sendFailureReason := none
  linkedSignalId := none

def draft : Signal where
  id := "sgn-1"
  signalLookupId := "sgn-1"
  threadId := some "thr-1"
  gsi3pk := none
  accountId := "acct-1"
  status := .pendingSend
  labels := some []
  createdAt := "2026-03-01T08:00:00.000Z"
  retentionDuration := none
  data := .outboundEmail draftData

def queuedPayload : DraftSendPayload := ⟨"sgn-1", "acct-1", "thr-1", "2026-03-01T09:00:00.000Z"⟩

def never (_ : String) : Bool := false

def deliver : Move Cmd Cmd.Answer Reply Turn Phase :=
  .spawn (process never queuedPayload >>= fun result => .ret (.delivered result))
    (.delivery queuedPayload (.started never))

def accept : Turn := .mail true (.ok ⟨"ses-1", none⟩)

variable (key t) in
/-- A patch that undoes the send is carried out only when no delivery is between its guard and its
status write. -/
def undoApart (start : World) : Rules Cmd Cmd.Answer Reply World Turn Phase where
  spawn prog q _ _ := Starts prog q
  step _ q c turn _ ts := InitiatesOnce key t start q c ts ∧
    (Undoes key t q c → turn.fate = .done →
      count key t Stage.guards ts = 0 ∧ count key t Stage.awaits ts = 0)
  crash _ _ _ _ := True

variable (key t) in
structure StaysUndone (start w : World) (ts : List (Phase × Bool)) : Prop where
  undone : count key t Stage.undone ts ≠ 0 →
    ¬ PendingAt key t w ∧ count key t Stage.guards ts = 0 ∧ count key t Stage.awaits ts = 0
  undoes : count key t Stage.undoes ts + count key t Stage.undone ts ≠ 0 →
    PendingAt key t start ∨ count key t Stage.requests ts ≠ 0
  pending : PendingAt key t w → PendingAt key t start ∨ count key t Stage.requests ts ≠ 0

/-- Moves that make no send pending and take no delivery past its guard or its answer. -/
theorem StaysUndone.quiet
    (h : StaysUndone key t start w ts) (hpending : PendingAt key t w' → PendingAt key t w)
    (hguards : count key t Stage.guards ts' ≤ count key t Stage.guards ts)
    (hawaits : count key t Stage.awaits ts' ≤ count key t Stage.awaits ts)
    (hrequests : count key t Stage.requests ts' = count key t Stage.requests ts)
    (hundoes : count key t Stage.undoes ts' ≤ count key t Stage.undoes ts)
    (hundone : count key t Stage.undone ts' = count key t Stage.undone ts) :
    StaysUndone key t start w' ts' := by
  refine ⟨fun hn => ?_, fun hn => ?_, fun hp => ?_⟩
  · obtain ⟨hnot, hzeros⟩ := h.undone (by omega)
    exact ⟨fun hp => hnot (hpending hp), by omega⟩
  · rw [hrequests]
    exact h.undoes (by omega)
  · rw [hrequests]
    exact h.pending (hpending hp)

/-- No delivery past its guard gets an answer once the send is undone. -/
theorem StaysUndone.answer
    (h : StaysUndone key t start w ts) (hpending : PendingAt key t w' → PendingAt key t w)
    (hguards : count key t Stage.guards ts' + 1 = count key t Stage.guards ts)
    (hrequests : count key t Stage.requests ts' = count key t Stage.requests ts)
    (hundoes : count key t Stage.undoes ts' = count key t Stage.undoes ts)
    (hundone : count key t Stage.undone ts' = count key t Stage.undone ts) :
    StaysUndone key t start w' ts' := by
  refine ⟨fun hn => ?_, fun hn => ?_, fun hp => ?_⟩
  · obtain ⟨-, hzero, -⟩ := h.undone (by omega)
    omega
  · rw [hrequests]
    exact h.undoes (by omega)
  · rw [hrequests]
    exact h.pending (hpending hp)

theorem StaysUndone.effect {i : Nat} {q : Phase}
    {c : Cmd} {turn : Turn} {stage stage' : Stage} (h : StaysUndone key t start w ts)
    (hrule : (undoApart key t start).step i q c turn w ts)
    (heffect : Effect key t w q c turn w' stage stage')
    (hcount : ∀ p : Stage → Bool → Bool, count key t p ts' + (p stage true).toNat =
      count key t p ts + (p stage' true).toNat) : StaysUndone key t start w' ts' := by
  obtain ⟨honce, hapart⟩ := hrule
  have hguards := hcount Stage.guards
  have hawaits := hcount Stage.awaits
  have hrequests := hcount Stage.requests
  have hundoes := hcount Stage.undoes
  have hundone := hcount Stage.undone
  cases heffect with
  | pass hfinds hturn hpending hsame =>
    subst hsame
    simp [Stage.requests, Stage.undoes, Stage.undone] at hrequests hundoes hundone
    refine ⟨fun hn => ?_, fun hn => ?_, fun hp => ?_⟩
    · exact absurd hpending (h.undone (by omega)).1
    · rw [hrequests]
      exact h.undoes (by omega)
    · rw [hrequests]
      exact h.pending hp
  | hand ok hhanded hpending =>
    simp [Stage.guards, Stage.requests] at hguards hrequests
    simp [Stage.undoes, Stage.undone] at hundoes hundone
    exact h.answer hpending hguards hrequests hundoes hundone
  | fail ok hhanded hpending =>
    simp [Stage.guards, Stage.requests] at hguards hrequests
    simp [Stage.undoes, Stage.undone] at hundoes hundone
    exact h.answer hpending hguards hrequests hundoes hundone
  | request hmarks hhanded =>
    obtain ⟨hstart, hnone⟩ := honce hmarks
    have hfresh : count key t Stage.undoes ts + count key t Stage.undone ts = 0 := by
      by_contra hn
      exact (h.undoes hn).elim hstart fun hn => hn hnone
    simp [Stage.requests, Stage.undoes, Stage.undone] at hrequests hundoes hundone
    exact ⟨fun hn => absurd hn (by omega), fun _ => .inr (by omega), fun _ => .inr (by omega)⟩
  | close handed ok written hhanded hpending hwritten =>
    have hclosed : (Stage.closed handed written).awaits true = false := rfl
    rw [hclosed, Bool.toNat_false] at hawaits
    simp [Stage.guards, Stage.requests] at hguards hrequests
    simp [Stage.undoes, Stage.undone] at hundoes hundone
    exact h.quiet hpending (by omega) (by omega) hrequests (by omega) hundone
  | find hpending hsame =>
    subst hsame
    simp [Stage.guards, Stage.awaits] at hguards hawaits
    simp [Stage.requests, Stage.undoes, Stage.undone] at hrequests hundoes hundone
    refine ⟨fun hn => ?_, fun hn => ?_, fun hp => ?_⟩
    · rw [hguards, hawaits]
      exact h.undone (by omega)
    · rw [hrequests]
      exact h.pending hpending
    · rw [hrequests]
      exact h.pending hp
  | revert hundo hturn hhanded hpending =>
    obtain ⟨hnoGuards, hnoAwaits⟩ := hapart hundo hturn
    simp [Stage.guards, Stage.awaits] at hguards hawaits
    simp [Stage.requests, Stage.undoes, Stage.undone] at hrequests hundoes hundone
    refine ⟨fun _ => ⟨hpending, by omega, by omega⟩, fun _ => ?_, fun hp => absurd hp hpending⟩
    rw [hrequests]
    exact h.undoes (by omega)
  | abort hhanded hpending =>
    simp [Stage.guards, Stage.awaits] at hguards hawaits
    simp [Stage.requests, Stage.undoes, Stage.undone] at hrequests hundoes hundone
    exact h.quiet hpending (by omega) (by omega) hrequests (by omega) hundone
  | stay _ hhanded hpending =>
    exact h.quiet hpending (by omega) (by omega) (by omega) (by omega) (by omega)

variable (key t) in
/-- The next call of the task hands over the mail of this send, or records it as sent in a
delivery of this send. -/
def Sends : Task Cmd Cmd.Answer Reply Phase → Prop
  | ⟨.call (.sendReply mail) _, _, true⟩ =>
    mailKey mail = key ∧ mail.data.sendInitiatedAt = some t
  | ⟨.call (.db (.updateSendStatus accountId lookupId update)) _, .delivery payload _, true⟩ =>
    (accountId, lookupId) = key ∧ payload.sendInitiatedAt = t ∧ update.status = .sent
  | _ => False

/-- A task about to send is past its guard, or has the provider's receipt. -/
theorem Sends.stage {task : Task Cmd Cmd.Answer Reply Phase} (hobeys : task.prog.Obeys monitor
    Returns task.phase) (h : Sends key t task) :
    (stageOf key t task.phase).guards task.alive = true ∨
      (stageOf key t task.phase).awaits task.alive = true := by
  obtain ⟨prog, q, alive⟩ := task
  unfold Sends at h
  split at h
  · next mail k q heq =>
    obtain ⟨rfl, rfl, rfl⟩ := Task.mk.inj heq
    obtain ⟨hallow, -⟩ := hobeys
    obtain ⟨rfl, hinitiated⟩ := h
    rcases q with ⟨payload, stale | key' | _ | _⟩ | _ | _ | _ | _ | _ | _ | _ | _
    case delivery.guarded =>
      obtain ⟨hkey, hmail⟩ := hallow
      have hthis : key' = mailKey mail ∧ payload.sendInitiatedAt = t := by
        rw [hinitiated] at hmail
        exact ⟨hkey.symm, (Option.some.inj hmail).symm⟩
      left
      simp only [stageOf, if_pos hthis]
      rfl
    all_goals exact hallow.elim
  · next accountId lookupId update k payload progress heq =>
    obtain ⟨rfl, rfl, rfl⟩ := Task.mk.inj heq
    obtain ⟨hallow, -⟩ := hobeys
    obtain ⟨rfl, hinitiated, hsent⟩ := h
    rcases progress with stale | key' | ⟨key', handed, ok⟩ | _
    case answered =>
      obtain ⟨rfl, hstatus⟩ := hallow
      right
      simp only [stageOf, hinitiated, and_self, if_true]
      cases ok with
      | true => rfl
      | false =>
        rw [hsent] at hstatus
        cases hstatus
    all_goals exact hallow.elim
  · exact h.elim

end SesEmailAdapter.Processor.DraftSendSafety
