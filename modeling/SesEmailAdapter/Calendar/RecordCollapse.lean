import Mathlib.Data.Finset.Card
import Mathlib.Data.Finset.Dedup
import SesEmailAdapter.Calendar.IcsParser
import SesEmailAdapter.Lib.KeySort

/-! # What the collapse of records keeps

The records of a mail are grouped by a text that joins the UID and the RECURRENCE-ID. One event is
made for every UID and RECURRENCE-ID of a full record, the same one for every order of the records,
just when no two of them are joined to one text. -/

namespace SesEmailAdapter.Calendar.RecordCollapse
open Lib
open Email.Address
open Calendar.IcsParser
open Resource.ResourceDatabase (truthy)

/-! ## Identities and their texts -/

/-- The UID of an event, and its RECURRENCE-ID where it has one. -/
abbrev EventId := String × Option String

def eventId (event : CalendarEvent) : EventId := (event.veventUid, truthy event.recurrenceId)

def idOf (record : CalendarEventRecord) : EventId := eventId record.event

/-- The text that `eventGroupKey` makes of an identity. -/
def keyText : EventId → String
  | (veventUid, some recurrenceId) => veventUid ++ "::" ++ recurrenceId
  | (veventUid, none) => veventUid

def keyOf (record : CalendarEventRecord) : String :=
  eventGroupKey record.event.toCalendarEventData

def IsFull (record : CalendarEventRecord) : Prop := ¬ isReplyLike record.event.method

instance (record : CalendarEventRecord) : Decidable (IsFull record) :=
  inferInstanceAs (Decidable (¬ _))

def recordsAt (records : List CalendarEventRecord) (key : String) : List CalendarEventRecord :=
  records.filter fun record => keyOf record = key

def recordsOf (records : List CalendarEventRecord) (id : EventId) : List CalendarEventRecord :=
  records.filter fun record => idOf record = id

/-- No two identities of the records are joined to one text. -/
def KeysApart (records : List CalendarEventRecord) : Prop :=
  ∀ a ∈ records, ∀ b ∈ records, keyOf a = keyOf b → idOf a = idOf b

variable {records listed group group' : List CalendarEventRecord}
  {record base : CalendarEventRecord} {event : CollapsedCalendarEvent} {id : EventId}

theorem keyOf_eq (record : CalendarEventRecord) : keyOf record = keyText (idOf record) := by
  rw [keyOf, eventGroupKey, idOf, eventId]
  cases truthy record.event.recurrenceId <;> rfl

theorem recordsAt_keyOf (hapart : KeysApart records) (hrecord : record ∈ records) :
    recordsAt records (keyOf record) = recordsOf records (idOf record) := by
  refine List.filter_congr fun other hother => ?_
  rw [decide_eq_decide]
  constructor
  · exact hapart other hother record hrecord
  · intro hid
    rw [keyOf_eq, keyOf_eq, hid]

@[simp] theorem mem_fullRecords : record ∈ fullRecords group ↔ record ∈ group ∧ IsFull record := by
  simp [fullRecords, IsFull]

/-! ## The winner of a group -/

theorem winnerRecord_eq (group : List CalendarEventRecord) :
    winnerRecord group = (sortBy (fun record => record.event.sequence)
      (fullRecords group)).getLast? := rfl

theorem mem_winnerRecord (h : winnerRecord group = some base) :
    base ∈ group ∧ IsFull base :=
  mem_fullRecords.mp (mem_of_lastBy _ h)

theorem winnerRecord_eq_none_iff : winnerRecord group = none ↔ fullRecords group = [] :=
  lastBy_eq_none_iff _

/-- The winner has the highest SEQUENCE. -/
theorem sequence_le_winner (h : winnerRecord group = some base) (hrecord : record ∈ group)
    (hfull : IsFull record) : record.event.sequence ≤ base.event.sequence := by
  have hle := le_of_lastBy _ (fun a b c hab hbc => ?_) (fun a b => ?_) h
    (mem_fullRecords.mpr ⟨hrecord, hfull⟩)
  · exact of_decide_eq_true hle
  · rw [decide_eq_true_eq] at hab hbc ⊢
    exact hab.trans hbc
  · simpa using le_total a.event.sequence b.event.sequence

/-! ## Overlays -/

section Overlays
variable {attendees : List CalendarAttendee} {attendee incoming first second : CalendarAttendee}

def sameAddress (a b : CalendarAttendee) : Prop :=
  toLowerCase a.address.toList = toLowerCase b.address.toList

instance (a b : CalendarAttendee) : Decidable (sameAddress a b) :=
  inferInstanceAs (Decidable (_ = _))

/-- An attendee that a reply gives a status to. -/
def hasStatus (incoming : CalendarAttendee) : Prop := (truthy incoming.partstat).isSome

instance (incoming : CalendarAttendee) : Decidable (hasStatus incoming) :=
  inferInstanceAs (Decidable (_ = _))

theorem overlay_without (h : ¬ hasStatus incoming) :
    overlayPartstat attendees incoming = attendees := by
  rw [hasStatus, Bool.not_eq_true, Option.isSome_eq_false_iff, Option.isNone_iff_eq_none] at h
  rw [overlayPartstat, h]

@[simp] theorem overlay_nil (incoming : CalendarAttendee) : overlayPartstat [] incoming = [] := by
  rw [overlayPartstat]
  cases truthy incoming.partstat <;> rfl

/-- The first attendee of the address gets the status. -/
theorem overlay_cons {partstat : String} (h : truthy incoming.partstat = some partstat) :
    overlayPartstat (attendee :: attendees) incoming =
      if sameAddress attendee incoming then { attendee with partstat := some partstat } :: attendees
      else attendee :: overlayPartstat attendees incoming := by
  simp only [overlayPartstat, h, List.findIdx?_cons]
  by_cases hsame : sameAddress attendee incoming
  · rw [if_pos hsame]
    unfold sameAddress at hsame
    simp [hsame]
  · rw [if_neg hsame]
    unfold sameAddress at hsame
    simp only [hsame, decide_false]
    cases attendees.findIdx? _ <;> rfl

/-- Overlays change no address, and neither add nor remove an attendee. -/
theorem overlay_addresses (attendees : List CalendarAttendee) (incoming : CalendarAttendee) :
    (overlayPartstat attendees incoming).map CalendarAttendee.address =
      attendees.map CalendarAttendee.address := by
  cases hstatus : truthy incoming.partstat with
  | none => rw [overlay_without (by simp [hasStatus, hstatus])]
  | some partstat =>
    induction attendees with
    | nil => rw [overlay_nil]
    | cons attendee attendees ih =>
      rw [overlay_cons hstatus]
      split
      · rfl
      · rw [List.map_cons, ih, List.map_cons]

theorem overlay_comm (h : ¬ sameAddress first second) (attendees : List CalendarAttendee) :
    overlayPartstat (overlayPartstat attendees first) second =
      overlayPartstat (overlayPartstat attendees second) first := by
  cases hfirst : truthy first.partstat with
  | none =>
    have hnone : ¬ hasStatus first := by simp [hasStatus, hfirst]
    rw [overlay_without hnone, overlay_without hnone]
  | some status =>
    cases hsecond : truthy second.partstat with
    | none =>
      have hnone : ¬ hasStatus second := by simp [hasStatus, hsecond]
      rw [overlay_without hnone, overlay_without hnone]
    | some status' =>
      induction attendees with
      | nil => rw [overlay_nil, overlay_nil, overlay_nil]
      | cons attendee attendees ih =>
        have hboth : ¬ (sameAddress attendee first ∧ sameAddress attendee second) :=
          fun ⟨hf, hs⟩ => h (hf.symm.trans hs)
        rw [overlay_cons hfirst, overlay_cons hsecond]
        by_cases hf : sameAddress attendee first
        · have hs : ¬ sameAddress attendee second := fun hs => hboth ⟨hf, hs⟩
          rw [if_pos hf, if_neg hs, overlay_cons hsecond, overlay_cons hfirst, if_pos hf]
          exact if_neg hs
        · by_cases hs : sameAddress attendee second
          · rw [if_neg hf, if_pos hs, overlay_cons hsecond, overlay_cons hfirst, if_pos hs]
            exact (if_neg hf).symm
          · rw [if_neg hf, if_neg hs, overlay_cons hsecond, overlay_cons hfirst, if_neg hf,
              if_neg hs, ih]

/-- The attendees that the replies of a group give a status to. -/
def answers (group : List CalendarEventRecord) : List CalendarAttendee :=
  (replyRecords group).flatMap fun reply => reply.event.attendees.filter fun a => hasStatus a

theorem overlayReplies_eq (attendees : List CalendarAttendee)
    (group : List CalendarEventRecord) :
    overlayReplies attendees (replyRecords group) =
      (answers group).foldl overlayPartstat attendees := by
  rw [overlayReplies, answers]
  induction replyRecords group generalizing attendees with
  | nil => rfl
  | cons reply replies ih =>
    rw [List.foldl_cons, ih, List.flatMap_cons, List.foldl_append]
    congr 1
    induction reply.event.attendees generalizing attendees with
    | nil => rfl
    | cons incoming rest ihRest =>
      by_cases hstatus : hasStatus incoming
      · rw [List.filter_cons_of_pos (by simpa using hstatus), List.foldl_cons, List.foldl_cons,
          ihRest]
      · rw [List.filter_cons_of_neg (by simpa using hstatus), List.foldl_cons, ihRest,
          overlay_without hstatus]

theorem overlayReplies_addresses (attendees : List CalendarAttendee)
    (group : List CalendarEventRecord) :
    (overlayReplies attendees (replyRecords group)).map CalendarAttendee.address =
      attendees.map CalendarAttendee.address := by
  rw [overlayReplies_eq]
  induction answers group generalizing attendees with
  | nil => rfl
  | cons incoming rest ih => rw [List.foldl_cons, ih, overlay_addresses]

/-- Every attendee replied at most once. -/
def AnsweredOnce (group : List CalendarEventRecord) : Prop :=
  ((answers group).map fun a => toLowerCase a.address.toList).Nodup

theorem answers_perm (hperm : group'.Perm group) : (answers group').Perm (answers group) :=
  List.Perm.flatMap_right _ (hperm.filter _)

theorem overlayReplies_perm (honce : AnsweredOnce group) (hperm : group'.Perm group)
    (attendees : List CalendarAttendee) :
    overlayReplies attendees (replyRecords group') =
      overlayReplies attendees (replyRecords group) := by
  rw [overlayReplies_eq, overlayReplies_eq]
  refine (List.Perm.foldl_eq' (answers_perm hperm).symm ?_ attendees).symm
  intro first hfirst second hsecond current
  by_cases heq : first = second
  · rw [heq]
  · exact overlay_comm (fun hsame => heq (List.inj_on_of_nodup_map honce hfirst hsecond hsame))
      current

end Overlays

/-! ## One group -/

/-- The full records of a group have sequences of their own. -/
def DistinctSequences (group : List CalendarEventRecord) : Prop :=
  ((fullRecords group).map fun record => record.event.sequence).Nodup

theorem collapseGroup_perm {key : String} (hsequences : DistinctSequences group)
    (honce : AnsweredOnce group) (hperm : group'.Perm group) :
    collapseGroup key group' = collapseGroup key group := by
  have hfull : (fullRecords group').Perm (fullRecords group) := hperm.filter _
  have hwinner : winnerRecord group' = winnerRecord group := by
    rw [winnerRecord_eq, winnerRecord_eq, sortBy_eq_of_perm hsequences hfull]
  have hcancelled : groupCancelled group' = groupCancelled group := hfull.any_eq
  rw [collapseGroup, collapseGroup, hwinner, hcancelled]
  simp only [overlayReplies_perm honce hperm]

/-- What an event takes from its base record. -/
structure BuiltOn (base : CalendarEventRecord) (event : CollapsedCalendarEvent) : Prop where
  raw : event.rawIcsContent = base.rawIcsContent
  data : event.data =
    { base.event with attendees := event.data.attendees, status := event.data.status }
  addresses : event.data.attendees.map CalendarAttendee.address =
    base.event.attendees.map CalendarAttendee.address

theorem builtOn_of_collapseGroup {key : String} (h : collapseGroup key group = some event) :
    ∃ base, winnerRecord group = some base ∧ BuiltOn base event := by
  obtain ⟨base, hbase, rfl⟩ := Option.map_eq_some_iff.mp h
  exact ⟨base, hbase, rfl, rfl, overlayReplies_addresses _ _⟩

theorem BuiltOn.eventId_eq (h : BuiltOn base event) : eventId event.data = idOf base := by
  rw [h.data]
  rfl

theorem collapseGroup_eq_none_iff {key : String} :
    collapseGroup key group = none ↔ fullRecords group = [] := by
  rw [collapseGroup, Option.map_eq_none_iff, winnerRecord_eq_none_iff]

/-! ## The collapse -/

theorem mem_collapsed_iff : event ∈ (collapseCalendarEvents records).collapsed ↔
    ∃ record ∈ records, collapseGroup (keyOf record) (recordsAt records (keyOf record)) =
      some event := by
  rw [mem_collapsed]
  constructor
  · rintro ⟨key, hkey, hevent⟩
    obtain ⟨record, hrecord, rfl⟩ := List.mem_map.mp hkey
    exact ⟨record, hrecord, hevent⟩
  · rintro ⟨record, hrecord, hevent⟩
    exact ⟨keyOf record, List.mem_map.mpr ⟨record, hrecord, rfl⟩, hevent⟩

/-- The base of an event is a full record of the text that the event is kept under. -/
theorem base_of_collapsed (h : event ∈ (collapseCalendarEvents records).collapsed) :
    ∃ base ∈ records, keyOf base = event.key ∧
      winnerRecord (recordsAt records (keyOf base)) = some base ∧ BuiltOn base event := by
  obtain ⟨record, -, hevent⟩ := mem_collapsed_iff.mp h
  have hkey := key_of_collapseGroup hevent
  obtain ⟨base, hwinner, hbuilt⟩ := builtOn_of_collapseGroup hevent
  obtain ⟨hbase, hof⟩ := List.mem_filter.mp (mem_winnerRecord hwinner).1
  rw [decide_eq_true_eq] at hof
  refine ⟨base, hbase, hof.trans hkey.symm, ?_, hbuilt⟩
  rw [hof]
  exact hwinner

theorem key_eq_keyText (h : event ∈ (collapseCalendarEvents records).collapsed) :
    event.key = keyText (eventId event.data) := by
  obtain ⟨base, -, hkey, -, hbuilt⟩ := base_of_collapsed h
  rw [← hkey, keyOf_eq, hbuilt.eventId_eq]

theorem eq_of_key {other : CollapsedCalendarEvent}
    (h : event ∈ (collapseCalendarEvents records).collapsed)
    (h' : other ∈ (collapseCalendarEvents records).collapsed) (hkey : event.key = other.key) :
    event = other :=
  List.inj_on_of_nodup_map (collapsed_keys_nodup records) h h' hkey

theorem skippedReplyOnly_eq (records : List CalendarEventRecord) :
    (collapseCalendarEvents records).skippedReplyOnly =
      ((records.map keyOf).toFinset.filter fun key =>
        fullRecords (recordsAt records key) = []).card := by
  have hgroups := @mem_groups _ _ _ keyOf records
  let skipped := (groups keyOf records).entries.filter fun group => fullRecords group.2 = []
  have hnodup : (skipped.map Prod.fst).Nodup :=
    (groups keyOf records).distinct.sublist (List.filter_sublist.map _)
  have hset : (skipped.map Prod.fst).toFinset = (records.map keyOf).toFinset.filter fun key =>
      fullRecords (recordsAt records key) = [] := by
    ext key
    simp only [skipped, List.mem_toFinset, List.mem_map, List.mem_filter, Finset.mem_filter,
      decide_eq_true_eq, Prod.exists, exists_and_right, exists_eq_right]
    constructor
    · rintro ⟨group, hgroup, hnone⟩
      obtain ⟨hkey, rfl⟩ := hgroups.mp hgroup
      exact ⟨List.mem_map.mp hkey, hnone⟩
    · rintro ⟨hkey, hnone⟩
      exact ⟨_, hgroups.mpr ⟨List.mem_map.mpr hkey, rfl⟩, hnone⟩
  rw [← hset, List.toFinset_card_of_nodup hnodup, List.length_map]
  rfl

/-! ## Lossless and canonical -/

/-- The identities of the records that are not answers alone, and the base and the overlays of the
event of each. -/
structure Lossless (records : List CalendarEventRecord) : Prop where
  oneEvent : ∀ id, (∃ record ∈ records, idOf record = id ∧ IsFull record) →
    ∃! event, event ∈ (collapseCalendarEvents records).collapsed ∧ eventId event.data = id
  skipped : (collapseCalendarEvents records).skippedReplyOnly =
    ((records.map idOf).toFinset.filter fun id => fullRecords (recordsOf records id) = []).card
  keys : ((collapseCalendarEvents records).collapsed.map CollapsedCalendarEvent.key).Nodup
  base : ∀ event ∈ (collapseCalendarEvents records).collapsed, ∃ base ∈ records,
    idOf base = eventId event.data ∧ IsFull base ∧ BuiltOn base event ∧
      ∀ record ∈ records, idOf record = idOf base → IsFull record →
        record.event.sequence ≤ base.event.sequence
  unordered : (∀ id, DistinctSequences (recordsOf records id) ∧
      AnsweredOnce (recordsOf records id)) → ∀ listed, listed.Perm records →
    (collapseCalendarEvents listed).collapsed.Perm (collapseCalendarEvents records).collapsed ∧
      (collapseCalendarEvents listed).skippedReplyOnly =
        (collapseCalendarEvents records).skippedReplyOnly

theorem fullRecords_recordsOf :
    fullRecords (recordsOf records id) = [] ↔ ∀ record ∈ records, idOf record = id →
      ¬ IsFull record := by
  rw [List.eq_nil_iff_forall_not_mem]
  simp only [mem_fullRecords, recordsOf, List.mem_filter, decide_eq_true_eq]
  exact ⟨fun h record hrecord hid hfull => h record ⟨⟨hrecord, hid⟩, hfull⟩,
    fun h record hin => h record hin.1.1 hin.1.2 hin.2⟩

theorem KeysApart.perm (h : KeysApart records) (hperm : listed.Perm records) :
    KeysApart listed :=
  fun a ha b hb => h a (hperm.mem_iff.mp ha) b (hperm.mem_iff.mp hb)

theorem exists_event (hapart : KeysApart records) (hrecord : record ∈ records)
    (hfull : IsFull record) : ∃! event, event ∈ (collapseCalendarEvents records).collapsed ∧
      eventId event.data = idOf record := by
  have hmem : record ∈ fullRecords (recordsAt records (keyOf record)) :=
    mem_fullRecords.mpr ⟨List.mem_filter.mpr ⟨hrecord, decide_eq_true rfl⟩, hfull⟩
  cases hevent : collapseGroup (keyOf record) (recordsAt records (keyOf record)) with
  | none =>
    rw [collapseGroup_eq_none_iff.mp hevent] at hmem
    cases hmem
  | some event =>
    have hin := mem_collapsed_iff.mpr ⟨record, hrecord, hevent⟩
    obtain ⟨base, hbase, hkey, -, hbuilt⟩ := base_of_collapsed hin
    have hid : idOf base = idOf record :=
      hapart base hbase record hrecord (hkey.trans (key_of_collapseGroup hevent))
    refine ⟨event, ⟨hin, hbuilt.eventId_eq.trans hid⟩, ?_⟩
    rintro other ⟨hother, hotherId⟩
    refine eq_of_key hother hin ?_
    rw [key_eq_keyText hother, key_eq_keyText hin, hotherId, hbuilt.eventId_eq, hid]

theorem skipped_of_apart (hapart : KeysApart records) :
    (collapseCalendarEvents records).skippedReplyOnly =
      ((records.map idOf).toFinset.filter fun id =>
        fullRecords (recordsOf records id) = []).card := by
  have himage : ((records.map keyOf).toFinset.filter fun key =>
      fullRecords (recordsAt records key) = []) =
      (((records.map idOf).toFinset.filter fun id =>
        fullRecords (recordsOf records id) = []).image keyText) := by
    ext key
    simp only [Finset.mem_filter, Finset.mem_image, List.mem_toFinset, List.mem_map]
    constructor
    · rintro ⟨⟨record, hrecord, rfl⟩, hnone⟩
      rw [recordsAt_keyOf hapart hrecord] at hnone
      exact ⟨idOf record, ⟨⟨record, hrecord, rfl⟩, hnone⟩, (keyOf_eq record).symm⟩
    · rintro ⟨id, ⟨⟨record, hrecord, rfl⟩, hnone⟩, rfl⟩
      rw [← keyOf_eq, recordsAt_keyOf hapart hrecord]
      exact ⟨⟨record, hrecord, rfl⟩, hnone⟩
  rw [skippedReplyOnly_eq, himage]
  refine Finset.card_image_of_injOn ?_
  intro a ha b hb heq
  simp only [Finset.coe_filter, List.mem_toFinset, List.mem_map, Set.mem_ofPred_eq] at ha hb
  obtain ⟨⟨first, hfirst, rfl⟩, -⟩ := ha
  obtain ⟨⟨second, hsecond, rfl⟩, -⟩ := hb
  rw [← keyOf_eq, ← keyOf_eq] at heq
  exact hapart first hfirst second hsecond heq

theorem base_of_apart (hapart : KeysApart records)
    (hevent : event ∈ (collapseCalendarEvents records).collapsed) : ∃ base ∈ records,
      idOf base = eventId event.data ∧ IsFull base ∧ BuiltOn base event ∧
        ∀ record ∈ records, idOf record = idOf base → IsFull record →
          record.event.sequence ≤ base.event.sequence := by
  obtain ⟨base, hbase, -, hwinner, hbuilt⟩ := base_of_collapsed hevent
  refine ⟨base, hbase, hbuilt.eventId_eq.symm, (mem_winnerRecord hwinner).2, hbuilt, ?_⟩
  intro record hrecord hid hfull
  rw [recordsAt_keyOf hapart hbase] at hwinner
  exact sequence_le_winner hwinner (List.mem_filter.mpr ⟨hrecord, decide_eq_true hid⟩) hfull

theorem mem_collapsed_perm (hapart : KeysApart records)
    (hgroups : ∀ id, DistinctSequences (recordsOf records id) ∧
      AnsweredOnce (recordsOf records id)) (hperm : listed.Perm records) :
    event ∈ (collapseCalendarEvents listed).collapsed ↔
      event ∈ (collapseCalendarEvents records).collapsed := by
  have hgroup : ∀ record ∈ records, collapseGroup (keyOf record)
      (recordsAt listed (keyOf record)) =
        collapseGroup (keyOf record) (recordsAt records (keyOf record)) := by
    intro record hrecord
    obtain ⟨hsequences, honce⟩ := hgroups (idOf record)
    rw [← recordsAt_keyOf hapart hrecord] at hsequences honce
    exact collapseGroup_perm hsequences honce (hperm.filter _)
  rw [mem_collapsed_iff, mem_collapsed_iff]
  constructor
  · rintro ⟨record, hrecord, hevent⟩
    have hin := hperm.mem_iff.mp hrecord
    exact ⟨record, hin, (hgroup record hin).symm.trans hevent⟩
  · rintro ⟨record, hrecord, hevent⟩
    exact ⟨record, hperm.mem_iff.mpr hrecord, (hgroup record hrecord).trans hevent⟩

theorem skipped_perm (hapart : KeysApart records) (hperm : listed.Perm records) :
    (collapseCalendarEvents listed).skippedReplyOnly =
      (collapseCalendarEvents records).skippedReplyOnly := by
  have hids : (listed.map idOf).toFinset = (records.map idOf).toFinset :=
    List.toFinset_eq_of_perm _ _ (hperm.map idOf)
  have hnone : ∀ id, fullRecords (recordsOf listed id) = [] ↔
      fullRecords (recordsOf records id) = [] := by
    intro id
    simp only [fullRecords_recordsOf, hperm.mem_iff]
  rw [skipped_of_apart (hapart.perm hperm), skipped_of_apart hapart, hids]
  simp only [hnone]

theorem lossless_of_apart (hapart : KeysApart records) : Lossless records := by
  constructor
  · rintro _ ⟨record, hrecord, rfl, hfull⟩
    exact exists_event hapart hrecord hfull
  · exact skipped_of_apart hapart
  · exact collapsed_keys_nodup records
  · intro event hevent
    exact base_of_apart hapart hevent
  · intro hgroups listed hperm
    refine ⟨?_, skipped_perm hapart hperm⟩
    refine (List.perm_ext_iff_of_nodup ?_ ?_).mpr
      fun event => mem_collapsed_perm hapart hgroups hperm
    · exact List.Nodup.of_map _ (collapsed_keys_nodup listed)
    · exact List.Nodup.of_map _ (collapsed_keys_nodup records)

/-! ## Joined identities -/

/-- Where the skipped identities are counted right, they are joined to texts of their own, which
hold no full record. -/
theorem skipped_apart (h : Lossless records) (hrecord : record ∈ records)
    (hnone : fullRecords (recordsOf records (idOf record)) = []) :
    fullRecords (recordsAt records (keyOf record)) = [] ∧
      ∀ other ∈ records, fullRecords (recordsOf records (idOf other)) = [] →
        keyOf other = keyOf record → idOf other = idOf record := by
  let ids := (records.map idOf).toFinset.filter fun id => fullRecords (recordsOf records id) = []
  let keys := (records.map keyOf).toFinset.filter fun key =>
    fullRecords (recordsAt records key) = []
  have hcard : keys.card = ids.card := (skippedReplyOnly_eq records).symm.trans h.skipped
  have hsub : keys ⊆ ids.image keyText := by
    intro key hkey
    obtain ⟨hkey, hempty⟩ := Finset.mem_filter.mp hkey
    obtain ⟨other, hother, rfl⟩ := List.mem_map.mp (List.mem_toFinset.mp hkey)
    refine Finset.mem_image.mpr ⟨idOf other, Finset.mem_filter.mpr ⟨?_, ?_⟩,
      (keyOf_eq other).symm⟩
    · exact List.mem_toFinset.mpr (List.mem_map_of_mem hother)
    · refine fullRecords_recordsOf.mpr fun record hrecord hid hfull => ?_
      have hmem : record ∈ fullRecords (recordsAt records (keyOf other)) := by
        refine mem_fullRecords.mpr ⟨List.mem_filter.mpr ⟨hrecord, decide_eq_true ?_⟩, hfull⟩
        rw [keyOf_eq, keyOf_eq, hid]
      rw [hempty] at hmem
      cases hmem
  have himage : (ids.image keyText).card = ids.card :=
    le_antisymm Finset.card_image_le (hcard ▸ Finset.card_le_card hsub)
  have hinj := Finset.card_image_iff.mp himage
  have hkeys : keys = ids.image keyText :=
    Finset.eq_of_subset_of_card_le hsub (himage.trans hcard.symm).le
  have hin : ∀ other ∈ records, fullRecords (recordsOf records (idOf other)) = [] →
      idOf other ∈ ids := fun other hother hempty =>
    Finset.mem_filter.mpr ⟨List.mem_toFinset.mpr (List.mem_map_of_mem hother), hempty⟩
  have hkey : keyOf record ∈ keys := by
    rw [hkeys, keyOf_eq]
    exact Finset.mem_image_of_mem _ (hin record hrecord hnone)
  refine ⟨(Finset.mem_filter.mp hkey).2, fun other hother hempty heq => ?_⟩
  rw [keyOf_eq, keyOf_eq] at heq
  exact hinj (hin other hother hempty) (hin record hrecord hnone) heq

/-- A record of an identity without full records is joined with no full one. -/
theorem skipped_of_joined (h : Lossless records) {other : CalendarEventRecord}
    (hrecord : record ∈ records) (hother : other ∈ records)
    (hnone : fullRecords (recordsOf records (idOf record)) = [])
    (hkey : keyOf other = keyOf record) : idOf other = idOf record := by
  obtain ⟨hempty, hapart⟩ := skipped_apart h hrecord hnone
  refine hapart other hother (fullRecords_recordsOf.mpr fun full hin hid hfull => ?_) hkey
  have hmem : full ∈ fullRecords (recordsAt records (keyOf record)) := by
    refine mem_fullRecords.mpr ⟨List.mem_filter.mpr ⟨hin, decide_eq_true ?_⟩, hfull⟩
    rw [← hkey, keyOf_eq, keyOf_eq, hid]
  rw [hempty] at hmem
  cases hmem

theorem apart_of_lossless (h : Lossless records) : KeysApart records := by
  intro a ha b hb hkey
  by_cases hnone : fullRecords (recordsOf records (idOf b)) = []
  · exact skipped_of_joined h hb ha hnone hkey
  by_cases hnone' : fullRecords (recordsOf records (idOf a)) = []
  · exact (skipped_of_joined h ha hb hnone' hkey.symm).symm
  · rw [fullRecords_recordsOf] at hnone hnone'
    push Not at hnone hnone'
    obtain ⟨event, ⟨hevent, hid⟩, -⟩ := h.oneEvent _ hnone'
    obtain ⟨event', ⟨hevent', hid'⟩, -⟩ := h.oneEvent _ hnone
    have heq : event = event' := by
      refine eq_of_key hevent hevent' ?_
      rw [key_eq_keyText hevent, key_eq_keyText hevent', hid, hid', ← keyOf_eq, ← keyOf_eq, hkey]
    rw [← hid, heq, hid']

/-- **The collapse is lossless and canonical just when no two identities are joined to one
text.** -/
theorem lossless_iff (records : List CalendarEventRecord) :
    Lossless records ↔ KeysApart records :=
  ⟨apart_of_lossless, lossless_of_apart⟩

/-! ## Two events of one text -/

def invite (veventUid : String) (recurrenceId : Option String) : CalendarEvent where
  title := "Review"
  startTime := "2026-03-09T09:00:00.000Z"
  organizer := "ann@org.test"
  organizerCn := none
  veventUid := veventUid
  method := "REQUEST"
  sequence := 0
  status := none
  recurrenceId := recurrenceId
  linkedSignalId := ""
  rsvpResponse := none
  sesMessageId := none
  description := none
  endTime := none
  location := none
  attendees := []

/-- An occurrence of a series, and an event with the UID that the two are joined to. -/
def joinedRecords : List CalendarEventRecord :=
  [⟨invite "uid-1" (some "2026-03-09T09:00:00.000Z"), "ics-1"⟩,
    ⟨invite "uid-1::2026-03-09T09:00:00.000Z" none, "ics-2"⟩]

theorem joinedRecords_lost : ¬ Lossless joinedRecords := by
  intro h
  have hid := apart_of_lossless h _ List.mem_cons_self _ (List.mem_cons_of_mem _
    List.mem_cons_self) (by decide)
  revert hid
  decide

end SesEmailAdapter.Calendar.RecordCollapse
