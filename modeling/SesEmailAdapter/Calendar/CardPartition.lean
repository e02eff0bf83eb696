import SesEmailAdapter.Calendar.Cancellations
import SesEmailAdapter.Lib.KeySort

/-! # The cards partition the signals

Every calendar signal of a thread is the winner of its event or superseded, and never both. The
winner is the latest state of its event, whatever the order in which the thread lists them. -/

namespace SesEmailAdapter.Calendar.CardPartition
open Lib
open Calendar.EventStore
open Calendar.CalendarCollapse Calendar.Cancellations

variable {signals listed group : List EventSignal} {signal : EventSignal} {card : Card}

/-! ## The order of a group -/

/-- The state of an event that a signal reports. -/
def stateOf (signal : EventSignal) : Int ×ₗ String :=
  toLex (signal.data.sequence, signal.createdAt)

theorem inOrder_eq : inOrder = fun a b => decide (stateOf a ≤ stateOf b) := by
  funext a b
  rw [Bool.eq_iff_iff, inOrder_iff, decide_eq_true_eq, stateOf, stateOf, Prod.Lex.toLex_le_toLex]

theorem mergeSort_inOrder (group : List EventSignal) :
    group.mergeSort inOrder = sortBy stateOf group := by
  rw [inOrder_eq, sortBy]

theorem cardOf_eq (group : List EventSignal) :
    cardOf group = (sortBy stateOf group).getLast?.map fun winner =>
      ⟨winner, (sortBy stateOf group).dropLast.getLast?,
        ((sortBy stateOf group).map EventSignal.id).filter (· ≠ winner.id)⟩ := by
  simp only [cardOf, lastBy, priorIn, mergeSort_inOrder]

theorem cardOf_perm (hstates : (group.map stateOf).Nodup) (hperm : listed.Perm group) :
    cardOf listed = cardOf group := by
  rw [cardOf_eq, cardOf_eq, sortBy_eq_of_perm hstates hperm]

/-! ## Winners and superseded signals -/

variable {id : String}

theorem winner_get {enrichment : CalendarEnrichment} (hids : (signals.map EventSignal.id).Nodup) :
    (collapseCalendarSignals signals).winners.get id = some enrichment ↔
      ∃ card ∈ cards signals, card.winner.id = id ∧
        enrichmentOf card.winner card.prior = enrichment := by
  have hkeys : (((cards signals).map fun card =>
      (card.winner.id, enrichmentOf card.winner card.prior)).map Prod.fst).Nodup := by
    rw [List.map_map]
    exact winner_ids_nodup hids
  rw [collapseCalendarSignals, OrderedMap.get_ofList hkeys, List.mem_map]
  simp only [Prod.mk.injEq]

theorem isWinner_iff (hids : (signals.map EventSignal.id).Nodup) (hsignal : signal ∈ signals) :
    ((collapseCalendarSignals signals).winners.get signal.id).isSome ↔ Latest signals signal := by
  rw [Option.isSome_iff_exists]
  constructor
  · rintro ⟨enrichment, hget⟩
    exact ((winners_get hids hsignal enrichment).mp hget).1
  · intro hlatest
    exact ⟨_, (winners_get hids hsignal _).mpr ⟨hlatest, rfl⟩⟩

/-- A winner is one of the signals. -/
theorem winner_mem (hids : (signals.map EventSignal.id).Nodup)
    (h : ((collapseCalendarSignals signals).winners.get id).isSome) :
    ∃ signal ∈ signals, signal.id = id := by
  obtain ⟨enrichment, hget⟩ := Option.isSome_iff_exists.mp h
  obtain ⟨card, hcard, hid, -⟩ := (winner_get hids).mp hget
  obtain ⟨veventUid, -, hcardOf⟩ := mem_cards.mp hcard
  exact ⟨card.winner, (winner_of_cardOf hcardOf).1, hid⟩

/-- What is superseded is one of the signals. -/
theorem superseded_mem (h : id ∈ (collapseCalendarSignals signals).superseded) :
    ∃ signal ∈ signals, signal.id = id := by
  obtain ⟨card, hcard, hid⟩ := List.mem_flatMap.mp h
  obtain ⟨veventUid, -, hcardOf⟩ := mem_cards.mp hcard
  obtain ⟨winner, -, rfl⟩ := Option.map_eq_some_iff.mp hcardOf
  obtain ⟨signal, hsignal, hid⟩ := List.mem_map.mp (List.mem_filter.mp hid).1
  exact ⟨signal, (List.mem_filter.mp (List.mem_mergeSort.mp hsignal)).1, hid⟩

theorem latest_maximal (h : Latest signals signal) :
    ∀ other ∈ groupOf signals (uidOf signal), orderInGroup other.stored signal.stored ≤ 0 := by
  intro other hother
  exact of_decide_eq_true (le_of_lastBy inOrder inOrder_trans inOrder_total h hother)

/-- One signal of an event is the latest. -/
theorem existsUnique_latest {veventUid : String} (h : veventUid ∈ signals.map uidOf) :
    ∃! signal, signal ∈ signals ∧ uidOf signal = veventUid ∧ Latest signals signal := by
  obtain ⟨signal, hsignal, rfl⟩ := List.mem_map.mp h
  obtain ⟨winner, hwinner⟩ := exists_latest hsignal
  obtain ⟨hmem, huid⟩ := List.mem_filter.mp (mem_of_lastBy _ hwinner)
  rw [decide_eq_true_eq] at huid
  refine ⟨winner, ⟨hmem, huid, ?_⟩, ?_⟩
  · rw [Latest, huid]
    exact hwinner
  · rintro other ⟨-, hother, hlatest⟩
    rw [Latest, hother, hwinner] at hlatest
    exact (Option.some.inj hlatest).symm

theorem not_rsvpable_of_cancel {prior : Option EventSignal}
    (h : signal.data.method = "CANCEL") : (enrichmentOf signal prior).rsvpable = false := by
  simp [enrichmentOf, h, toUpper_cancel]

/-! ## Every order of the list -/

/-- Two collapses show the same cards. -/
structure SameCards (a b : CalendarCollapseResult) : Prop where
  winners : ∀ id, a.winners.get id = b.winners.get id
  superseded : ∀ id, id ∈ a.superseded ↔ id ∈ b.superseded
  orphans : a.orphans.Perm b.orphans

/-- No two signals of one event report one state of it. -/
def DistinctStates (signals : List EventSignal) : Prop :=
  (signals.map fun signal => (uidOf signal, signal.data.sequence, signal.createdAt)).Nodup

theorem DistinctStates.statesIn (h : DistinctStates signals) (veventUid : String) :
    ((groupOf signals veventUid).map stateOf).Nodup := by
  refine List.Nodup.map_on ?_ ((List.Nodup.of_map _ h).filter _)
  intro a ha b hb hstate
  obtain ⟨ha, huid⟩ := List.mem_filter.mp ha
  obtain ⟨hb, huid'⟩ := List.mem_filter.mp hb
  rw [decide_eq_true_eq] at huid huid'
  obtain ⟨hsequence, htime⟩ := Prod.mk.inj (toLex.injective hstate)
  exact List.inj_on_of_nodup_map h ha hb (by simp only [huid, huid', hsequence, htime])

theorem mem_cards_perm (hstates : DistinctStates signals) (hperm : listed.Perm signals) :
    card ∈ cards listed ↔ card ∈ cards signals := by
  have hcards : ∀ veventUid,
      cardOf (groupOf listed veventUid) = cardOf (groupOf signals veventUid) := fun veventUid =>
    cardOf_perm (DistinctStates.statesIn hstates veventUid) (hperm.filter _)
  simp only [mem_cards, hcards, (hperm.map uidOf).mem_iff]

theorem cards_perm (hids : (signals.map EventSignal.id).Nodup) (hstates : DistinctStates signals)
    (hperm : listed.Perm signals) : (cards listed).Perm (cards signals) := by
  have hlisted := ((hperm.map EventSignal.id).nodup_iff).mpr hids
  refine (List.perm_ext_iff_of_nodup ?_ ?_).mpr fun card => mem_cards_perm hstates hperm
  · exact List.Nodup.of_map _ (winner_ids_nodup hlisted)
  · exact List.Nodup.of_map _ (winner_ids_nodup hids)

theorem sameCards_perm (hids : (signals.map EventSignal.id).Nodup)
    (hstates : DistinctStates signals) (hperm : listed.Perm signals) :
    SameCards (collapseCalendarSignals listed) (collapseCalendarSignals signals) := by
  have hlisted := ((hperm.map EventSignal.id).nodup_iff).mpr hids
  constructor
  · intro id
    refine Option.ext fun enrichment => ?_
    rw [winner_get hlisted, winner_get hids]
    simp only [mem_cards_perm hstates hperm]
  · intro id
    simp only [collapseCalendarSignals, List.mem_flatMap, mem_cards_perm hstates hperm]
  · exact (cards_perm hids hstates hperm).filterMap _

/-! ## The partition -/

/-- What the cards of a thread make of its signals. -/
structure Partitions (signals : List EventSignal) : Prop where
  covers : ∀ id, id ∈ signals.map EventSignal.id ↔
    ((collapseCalendarSignals signals).winners.get id).isSome ∨
      id ∈ (collapseCalendarSignals signals).superseded
  disjoint : ∀ id, ((collapseCalendarSignals signals).winners.get id).isSome →
    id ∉ (collapseCalendarSignals signals).superseded
  oneWinner : ∀ veventUid ∈ signals.map uidOf, ∃! winner, winner ∈ signals ∧
    uidOf winner = veventUid ∧ ((collapseCalendarSignals signals).winners.get winner.id).isSome
  maximal : ∀ winner ∈ signals,
    ((collapseCalendarSignals signals).winners.get winner.id).isSome →
      ∀ other ∈ groupOf signals (uidOf winner), orderInGroup other.stored winner.stored ≤ 0
  cancelled : ∀ winner ∈ signals, ∀ enrichment,
    (collapseCalendarSignals signals).winners.get winner.id = some enrichment →
      (enrichment.cancelledAt.isSome ↔ winner.data.method = "CANCEL")
  notBoth : ∀ id enrichment,
    (collapseCalendarSignals signals).winners.get id = some enrichment →
      ¬ (enrichment.cancelledAt.isSome ∧ enrichment.rsvpable)
  unordered : DistinctStates signals → ∀ listed, listed.Perm signals →
    SameCards (collapseCalendarSignals listed) (collapseCalendarSignals signals)

theorem mem_ids_iff (hids : (signals.map EventSignal.id).Nodup) (id : String) :
    id ∈ signals.map EventSignal.id ↔
      ((collapseCalendarSignals signals).winners.get id).isSome ∨
        id ∈ (collapseCalendarSignals signals).superseded := by
  constructor
  · intro hid
    obtain ⟨signal, hsignal, rfl⟩ := List.mem_map.mp hid
    rw [isWinner_iff hids hsignal, mem_superseded hids hsignal]
    exact Classical.em _
  · rintro (hwinner | hsuperseded)
    · exact List.mem_map.mpr (winner_mem hids hwinner)
    · exact List.mem_map.mpr (superseded_mem hsuperseded)

theorem not_superseded (hids : (signals.map EventSignal.id).Nodup)
    (hwinner : ((collapseCalendarSignals signals).winners.get id).isSome) :
    id ∉ (collapseCalendarSignals signals).superseded := by
  obtain ⟨signal, hsignal, rfl⟩ := winner_mem hids hwinner
  rw [mem_superseded hids hsignal, not_not]
  exact (isWinner_iff hids hsignal).mp hwinner

/-- **The cards partition the signals of a thread.** -/
theorem collapse_partitions (hids : (signals.map EventSignal.id).Nodup) : Partitions signals := by
  constructor
  · exact mem_ids_iff hids
  · intro id
    exact not_superseded hids
  · intro veventUid huid
    obtain ⟨winner, ⟨hmem, hof, hlatest⟩, hunique⟩ := existsUnique_latest huid
    refine ⟨winner, ⟨hmem, hof, (isWinner_iff hids hmem).mpr hlatest⟩, ?_⟩
    rintro other ⟨hother, hof', hwins⟩
    exact hunique other ⟨hother, hof', (isWinner_iff hids hother).mp hwins⟩
  · intro winner hwinner hwins
    exact latest_maximal ((isWinner_iff hids hwinner).mp hwins)
  · intro winner hwinner enrichment hget
    obtain ⟨-, rfl⟩ := (winners_get hids hwinner enrichment).mp hget
    exact cancelledAt_isSome
  · rintro id enrichment hget ⟨hcancelled, hrsvp⟩
    obtain ⟨card, -, -, rfl⟩ := (winner_get hids).mp hget
    rw [not_rsvpable_of_cancel (cancelledAt_isSome.mp hcancelled)] at hrsvp
    cases hrsvp
  · intro hstates listed hperm
    exact sameCards_perm hids hstates hperm

/-- The two signals of a series and its occurrence. -/
theorem series_partitions :
    (seriesThread.map EventSignal.id).Nodup ∧ Partitions seriesThread :=
  ⟨by decide, collapse_partitions (by decide)⟩

end SesEmailAdapter.Calendar.CardPartition
