import SesEmailAdapter.Calendar.IcsParser

/-! # The cards of a thread's events

At read time the calendar signals of a thread are collapsed into one card for each UID, which shows
the latest of them. -/

namespace SesEmailAdapter.Calendar.CalendarCollapse
open Lib
open SesEmailAdapter.Types Calendar.EventStore
open Calendar.IcsParser
open Database.ThreadDatabase (CalendarEventSignal)
open Processor.IncomingEmail

/-- A calendar signal as a thread lists it. -/
structure EventSignal where
  stored : CalendarEventSignal
  details : EventDetails

namespace EventSignal

def id (signal : EventSignal) : String := signal.stored.signal.id

def createdAt (signal : EventSignal) : String := signal.stored.signal.createdAt

def data (signal : EventSignal) : CalendarEventData := signal.stored.data

end EventSignal

/-! ## Enrichment -/

/-- The fields of the prior snapshot that changed. -/
structure CalendarPreviousValues where
  changedAt : String
  title : Option String
  description : Option String
  startTime : Option String
  endTime : Option String
  location : Option String
deriving DecidableEq, Repr

structure CalendarEnrichment where
  cancelledAt : Option String
  previousValues : Option CalendarPreviousValues
  rsvpable : Bool
deriving DecidableEq, Repr

inductive OrphanReason
  | updateWithoutPrior | cancellationWithoutPrior
deriving DecidableEq, Repr

structure OrphanReport where
  veventUid : String
  signalId : String
  method : String
  sequence : Int
  reason : OrphanReason
deriving DecidableEq, Repr

/-- A prior value that is there and is not the current one. -/
def changedFrom (prior current : Option String) : Option String :=
  prior.filter fun value => some value ≠ current

/-- `DIFFED_FIELDS` -/
def diffPreviousValues (prior current : EventSignal) (changedAt : String) :
    Option CalendarPreviousValues :=
  let previous : CalendarPreviousValues := {
    changedAt := changedAt
    title := changedFrom (some prior.data.title) (some current.data.title)
    description := changedFrom prior.details.description current.details.description
    startTime := changedFrom (some prior.data.startTime) (some current.data.startTime)
    endTime := changedFrom prior.details.endTime current.details.endTime
    location := changedFrom prior.details.location current.details.location }
  if previous = ⟨changedAt, none, none, none, none, none⟩ then none else some previous

def winnerIsCancel (winner : EventSignal) : Bool := winner.data.method = "CANCEL"

def isUpdate (winner : EventSignal) : Bool := ¬ winnerIsCancel winner ∧ winner.data.sequence > 0

/-- `prior` is the snapshot before the winner. -/
def enrichmentOf (winner : EventSignal) (prior : Option EventSignal) : CalendarEnrichment where
  cancelledAt := if winnerIsCancel winner then some winner.createdAt else none
  previousValues :=
    if isUpdate winner then
      prior.bind fun prior => diffPreviousValues prior winner winner.createdAt
    else none
  rsvpable := winner.data.method.toUpper = "REQUEST" ∧ winner.data.organizer ≠ ""

def orphanOf (winner : EventSignal) (prior : Option EventSignal) : Option OrphanReport :=
  let report (reason : OrphanReason) : OrphanReport :=
    ⟨winner.data.veventUid, winner.id, winner.data.method, winner.data.sequence, reason⟩
  if prior.isSome then none
  else if winnerIsCancel winner then some (report .cancellationWithoutPrior)
  else if isUpdate winner then some (report .updateWithoutPrior)
  else none

/-! ## Collapse -/

def inOrder (a b : EventSignal) : Bool := orderInGroup a.stored b.stored ≤ 0

/-- A group with its signals in order: the winner and the one before it. -/
structure Card where
  winner : EventSignal
  prior : Option EventSignal
  superseded : List String

def priorIn (group : List EventSignal) : Option EventSignal :=
  (group.mergeSort inOrder).dropLast.getLast?

def cardOf (group : List EventSignal) : Option Card :=
  (lastBy inOrder group).map fun winner => {
    winner := winner
    prior := priorIn group
    superseded := ((group.mergeSort inOrder).map EventSignal.id).filter (· ≠ winner.id) }

structure CalendarCollapseResult where
  winners : OrderedMap String CalendarEnrichment
  superseded : List String
  orphans : List OrphanReport

def uidOf (signal : EventSignal) : String := signal.data.veventUid

def cards (calendarSignals : List EventSignal) : List Card :=
  (groups uidOf calendarSignals).entries.filterMap fun group => cardOf group.2

def collapseCalendarSignals (calendarSignals : List EventSignal) : CalendarCollapseResult where
  winners := .ofList ((cards calendarSignals).map fun card =>
    (card.winner.id, enrichmentOf card.winner card.prior))
  superseded := (cards calendarSignals).flatMap Card.superseded
  orphans := (cards calendarSignals).filterMap fun card => orphanOf card.winner card.prior

/-! ## Winners -/

variable {signals : List EventSignal} {signal : EventSignal} {card : Card}

def groupOf (signals : List EventSignal) (veventUid : String) : List EventSignal :=
  signals.filter fun signal => uidOf signal = veventUid

/-- The signal is the latest of its UID, in the order in which a card is made. -/
def Latest (signals : List EventSignal) (signal : EventSignal) : Prop :=
  lastBy inOrder (groupOf signals (uidOf signal)) = some signal

theorem mem_cards : card ∈ cards signals ↔
    ∃ veventUid ∈ signals.map uidOf, cardOf (groupOf signals veventUid) = some card := by
  simp only [cards, List.mem_filterMap, Prod.exists]
  constructor
  · rintro ⟨veventUid, group, hgroup, hcard⟩
    obtain ⟨hkey, rfl⟩ := (mem_groups _).mp hgroup
    exact ⟨veventUid, hkey, hcard⟩
  · rintro ⟨veventUid, hkey, hcard⟩
    exact ⟨veventUid, _, (mem_groups _).mpr ⟨hkey, rfl⟩, hcard⟩

/-- The winner of a card is of the card's UID. -/
theorem winner_of_cardOf {veventUid : String}
    (h : cardOf (groupOf signals veventUid) = some card) :
    card.winner ∈ signals ∧ uidOf card.winner = veventUid ∧ Latest signals card.winner := by
  obtain ⟨winner, hwinner, rfl⟩ := Option.map_eq_some_iff.mp h
  obtain ⟨hmem, huid⟩ := List.mem_filter.mp (mem_of_lastBy _ hwinner)
  rw [decide_eq_true_eq] at huid
  refine ⟨hmem, huid, ?_⟩
  rw [Latest, huid]
  exact hwinner

theorem eq_of_id (hids : (signals.map EventSignal.id).Nodup) {a b : EventSignal}
    (ha : a ∈ signals) (hb : b ∈ signals) (h : a.id = b.id) : a = b :=
  List.inj_on_of_nodup_map hids ha hb h

theorem winner_ids_nodup (hids : (signals.map EventSignal.id).Nodup) :
    ((cards signals).map fun card => card.winner.id).Nodup := by
  have huids : ((cards signals).map fun card => uidOf card.winner).Nodup := by
    refine (groups uidOf signals).nodup_filterMap fun entry hentry card hcard => ?_
    obtain ⟨-, hgroup⟩ := (mem_groups uidOf).mp hentry
    rw [hgroup] at hcard
    exact (winner_of_cardOf hcard).2.1
  refine List.Nodup.map_on (fun a ha b hb hid => ?_) (List.Nodup.of_map _ huids)
  obtain ⟨_, _, ha'⟩ := mem_cards.mp ha
  obtain ⟨_, _, hb'⟩ := mem_cards.mp hb
  have hwinner := eq_of_id hids (winner_of_cardOf ha').1 (winner_of_cardOf hb').1 hid
  exact List.inj_on_of_nodup_map huids ha hb (congrArg uidOf hwinner)

/-- The card of a UID, from its latest signal. -/
theorem cardOf_latest (h : Latest signals signal) :
    ∃ card, cardOf (groupOf signals (uidOf signal)) = some card ∧ card.winner = signal ∧
      card.prior = priorIn (groupOf signals (uidOf signal)) :=
  ⟨_, congrArg (Option.map _) h, rfl, rfl⟩

theorem prior_of_cardOf {group : List EventSignal} (h : cardOf group = some card) :
    card.prior = priorIn group := by
  obtain ⟨winner, -, rfl⟩ := Option.map_eq_some_iff.mp h
  rfl

/-- A card shows a signal just when the signal is the latest of its UID. -/
theorem winners_get (hids : (signals.map EventSignal.id).Nodup) (hsignal : signal ∈ signals)
    (enrichment : CalendarEnrichment) :
    (collapseCalendarSignals signals).winners.get signal.id = some enrichment ↔
      Latest signals signal ∧
        enrichment = enrichmentOf signal (priorIn (groupOf signals (uidOf signal))) := by
  have hkeys : (((cards signals).map fun card =>
      (card.winner.id, enrichmentOf card.winner card.prior)).map Prod.fst).Nodup := by
    rw [List.map_map]
    exact winner_ids_nodup hids
  rw [collapseCalendarSignals, OrderedMap.get_ofList hkeys, List.mem_map]
  constructor
  · rintro ⟨card, hcard, heq⟩
    obtain ⟨hid, rfl⟩ := Prod.mk.inj heq
    obtain ⟨veventUid, -, hcardOf⟩ := mem_cards.mp hcard
    obtain ⟨hmem, rfl, hlatest⟩ := winner_of_cardOf hcardOf
    obtain rfl := eq_of_id hids hmem hsignal hid
    rw [prior_of_cardOf hcardOf]
    exact ⟨hlatest, rfl⟩
  · rintro ⟨hlatest, rfl⟩
    obtain ⟨card, hcard, hwinner, hprior⟩ := cardOf_latest hlatest
    have hmem : card ∈ cards signals :=
      mem_cards.mpr ⟨_, List.mem_map_of_mem hsignal, hcard⟩
    exact ⟨card, hmem, by rw [hwinner, hprior]⟩

theorem exists_latest (hsignal : signal ∈ signals) :
    ∃ winner, lastBy inOrder (groupOf signals (uidOf signal)) = some winner := by
  refine Option.ne_none_iff_exists'.mp fun hnone => ?_
  have hmem : signal ∈ groupOf signals (uidOf signal) :=
    List.mem_filter.mpr ⟨hsignal, decide_eq_true rfl⟩
  rw [(lastBy_eq_none_iff _).mp hnone] at hmem
  cases hmem

theorem mem_superseded (hids : (signals.map EventSignal.id).Nodup) (hsignal : signal ∈ signals) :
    signal.id ∈ (collapseCalendarSignals signals).superseded ↔ ¬ Latest signals signal := by
  rw [collapseCalendarSignals, List.mem_flatMap]
  constructor
  · rintro ⟨card, hcard, hid⟩ hlatest
    obtain ⟨veventUid, -, hcardOf⟩ := mem_cards.mp hcard
    obtain ⟨winner, hwinner, rfl⟩ := Option.map_eq_some_iff.mp hcardOf
    obtain ⟨hin, hne⟩ := List.mem_filter.mp hid
    obtain ⟨other, hother, heq⟩ := List.mem_map.mp hin
    obtain ⟨hmem, huid⟩ := List.mem_filter.mp (List.mem_mergeSort.mp hother)
    rw [decide_eq_true_eq] at huid hne
    obtain rfl := eq_of_id hids hmem hsignal heq
    rw [Latest, huid, hwinner] at hlatest
    exact hne (congrArg EventSignal.id (Option.some.inj hlatest)).symm
  · intro hnot
    obtain ⟨winner, hwinner⟩ := exists_latest hsignal
    refine ⟨_, mem_cards.mpr ⟨_, List.mem_map_of_mem hsignal, congrArg (Option.map _) hwinner⟩, ?_⟩
    refine List.mem_filter.mpr ⟨List.mem_map_of_mem (List.mem_mergeSort.mpr
      (List.mem_filter.mpr ⟨hsignal, decide_eq_true rfl⟩)), decide_eq_true fun hid => hnot ?_⟩
    have hmem := (List.mem_filter.mp (mem_of_lastBy _ hwinner)).1
    obtain rfl := eq_of_id hids hsignal hmem hid
    exact hwinner

/-! ## One card per event -/

/-- An event that is kept, with the id and the time that its signal gets. -/
structure StampedEvent where
  event : CollapsedCalendarEvent
  id : String
  now : String

/-- The signal that ingest stores for an event of the mail. -/
def storedEvent (email : Signal) (threadId : String) (stamped : StampedEvent) : EventSignal where
  stored :=
    calendarSignal email threadId stamped.event.data.toCalendarEventData stamped.id stamped.now
  details := stamped.event.data.toEventDetails

/-- The thread lists the signals of the events kept for a batch of records. -/
structure Ingested (records : List CalendarEventRecord) (email : Signal) (threadId : String)
    (stamped : List StampedEvent) (thread : List EventSignal) : Prop where
  events : stamped.map StampedEvent.event = (collapseCalendarEvents records).collapsed
  ids : (stamped.map StampedEvent.id).Nodup
  listed : thread.Perm (stamped.map (storedEvent email threadId))

variable {records : List CalendarEventRecord} {email : Signal} {threadId : String}
  {stamped : List StampedEvent} {thread : List EventSignal}

theorem Ingested.nodup_ids (h : Ingested records email threadId stamped thread) :
    (thread.map EventSignal.id).Nodup := by
  refine ((h.listed.map EventSignal.id).nodup_iff).mpr ?_
  rw [List.map_map]
  exact h.ids

theorem Ingested.uids (h : Ingested records email threadId stamped thread) :
    (thread.map uidOf).Nodup ↔
      ((collapseCalendarEvents records).collapsed.map fun event => event.data.veventUid).Nodup := by
  rw [(h.listed.map uidOf).nodup_iff, ← h.events, List.map_map, List.map_map]
  rfl

def review (method : String) (sequence : Int) (veventUid : String)
    (recurrenceId : Option String) : CalendarEvent where
  title := "Review"
  startTime := "2026-03-02T09:00:00.000Z"
  organizer := "ann@org.test"
  organizerCn := none
  veventUid := veventUid
  method := method
  sequence := sequence
  status := none
  recurrenceId := recurrenceId
  linkedSignalId := ""
  rsvpResponse := none
  sesMessageId := none
  description := none
  endTime := none
  location := none
  attendees := []

def inviteMail : Signal where
  id := "sgn-1"
  signalLookupId := "ses-1"
  threadId := some "thr-1"
  gsi3pk := none
  accountId := "acct-1"
  status := .active
  labels := some []
  createdAt := "2026-03-01T08:00:00.000Z"
  retentionDuration := none
  data := .autoSendBlocked "" none

def stampOf (id : String) (event : CalendarEvent) : StampedEvent :=
  ⟨⟨eventGroupKey event.toCalendarEventData, event, "ics"⟩, id, "2026-03-01T08:00:01.000Z"⟩

/-- A weekly review, of which one occurrence was moved. -/
def series : List CalendarEvent :=
  [review "REQUEST" 0 "uid-1" none, review "REQUEST" 1 "uid-1" (some "2026-03-09T09:00:00.000Z")]

def recordsOf (events : List CalendarEvent) : List CalendarEventRecord :=
  events.map fun event => ⟨event, "ics"⟩

def seriesStamps : List StampedEvent :=
  List.zipWith stampOf ["sgn-2", "sgn-3"] series

def seriesThread : List EventSignal := seriesStamps.map (storedEvent inviteMail "thr-1")

end SesEmailAdapter.Calendar.CalendarCollapse
