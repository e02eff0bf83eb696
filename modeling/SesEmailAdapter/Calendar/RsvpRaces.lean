import SesEmailAdapter.Calendar.EventStore
import SesEmailAdapter.Lib.Pool
import SesEmailAdapter.Processor.InboundMessage

/-! # Saves of an event against its RSVPs

New snapshots of a calendar event and RSVPs to it are written to one row, by any number of calls
at a time. A save reads the row, carries its RSVP over, and puts the new snapshot on the condition
that the row's RSVP is still the one it read. -/

namespace SesEmailAdapter.Calendar.RsvpRaces
open Lib
open SesEmailAdapter.Types Database Database.Shared
open Database.SignalsTable
open Database.ThreadDatabase
open Processor.InboundMessage (buildSignalGsi3pk)

/-! ## Recording an RSVP -/

/-- The reply an RSVP was relayed by. -/
structure SentRsvp where
  sesMessageId : String
  outboundMsgId : String
deriving DecidableEq, Repr

def rsvpUpdate (accountId : String) (rsvpResponse : CalendarRsvpResponse)
    (sentRsvp : Option SentRsvp) : RsvpUpdate where
  rsvpResponse := rsvpResponse
  sesMessageId := sentRsvp.map SentRsvp.sesMessageId
  gsi3pk := sentRsvp.map fun sent => buildSignalGsi3pk accountId sent.outboundMsgId

/-- Records an RSVP; false when the row is gone. -/
def setCalendarEventRsvp (accountId signalLookupId : String) (rsvpResponse : CalendarRsvpResponse)
    (sentRsvp : Option SentRsvp) : DbProg (Except DbError Bool) := do
  let set : Except WriteError Unit ← request
    (.setCalendarEventRsvp accountId signalLookupId (rsvpUpdate accountId rsvpResponse sentRsvp))
  match set with
  | .ok () => return .ok true
  | .error .conditionFailed => return .ok false
  | .error (.db error) => return .error error

/-! ## The table and its past -/

abbrev RowKey := String × String

/-- The table, the tables before each of its writes, and the RSVPs that were committed, the newest
first. -/
structure World where
  table : Store
  past : List Store
  recorded : List (RowKey × RsvpUpdate)

def World.recordedOn (w : World) (key : RowKey) : List RsvpUpdate :=
  (w.recorded.filter fun entry => entry.1 = key).map Prod.snd

/-- What becomes of a request; a read may be answered from an earlier table. -/
structure Turn where
  fate : Fate
  version : Option Nat
deriving DecidableEq, Repr

def World.seen (w : World) (version : Option Nat) : Store :=
  (version.bind (w.past[·]?)).getD w.table

def rsvpAt (table : Store) (key : RowKey) : Option CalendarRsvpResponse :=
  (table.signals.get key).bind fun item => rsvpOf item.signal

/-- The condition that a request states. -/
def condition (table : Store) : Cmd → Bool
  | .putCalendarEvent signal respondedAt =>
    (rsvpAt table (signal.accountId, signal.signalLookupId)).map
      CalendarRsvpResponse.respondedAt = respondedAt
  | .setCalendarEventRsvp accountId lookupId _ => (table.signals.get (accountId, lookupId)).isSome
  | _ => true

/-- A write takes place. -/
def Commits (w : World) (turn : Turn) (c : Cmd) : Prop :=
  turn.fate ≠ .refused ∧ condition w.table c = true

instance (w : World) (turn : Turn) (c : Cmd) : Decidable (Commits w turn c) :=
  inferInstanceAs (Decidable (_ ∧ _))

/-- The world after a write that left the given table. -/
def World.write (w : World) (turn : Turn) (c : Cmd) (table : Store) : World where
  table := table
  past := w.table :: w.past
  recorded := match c with
    | .setCalendarEventRsvp accountId lookupId update =>
      if Commits w turn c then ((accountId, lookupId), update) :: w.recorded else w.recorded
    | _ => w.recorded

def settle : (c : Cmd) → World → Turn → c.Answer × World
  | .getSignal accountId lookupId, w, turn =>
    ((SignalsTable.settle (.getSignal accountId lookupId) (w.seen turn.version) turn.fate).1, w)
  | c, w, turn =>
    let (answer, table) := SignalsTable.settle c w.table turn.fate
    (answer, w.write turn c table)

def service : Service Cmd Cmd.Answer World Turn := ⟨settle, ⟨.done, none⟩⟩

/-! ## Calls -/

def eventKey (event : CalendarEventSignal) : RowKey :=
  (event.signal.accountId, event.signal.signalLookupId)

/-- How far a call has come. -/
inductive Phase
  | saving (event : CalendarEventSignal)
  | merging (event : CalendarEventSignal) (prior : Option CalendarRsvpResponse)
  | saved
  | setting (key : RowKey) (update : RsvpUpdate)
  | set (key : RowKey) (update : RsvpUpdate)
  | closed

def monitor : Monitor Cmd Cmd.Answer Turn Phase where
  allow
    | .saving event, .getSignal accountId lookupId => (accountId, lookupId) = eventKey event
    | .merging event prior, .putCalendarEvent signal respondedAt =>
      signal = event.withRsvp prior ∧ respondedAt = prior.map CalendarRsvpResponse.respondedAt
    | .setting key update, .setCalendarEventRsvp accountId lookupId update' =>
      (accountId, lookupId) = key ∧ update' = update
    | _, _ => False
  next
    | .saving event, .getSignal .., _, .ok item => .merging event (item.bind rsvpOf)
    | .merging _ _, .putCalendarEvent .., _, .ok () => .saved
    | .merging event _, .putCalendarEvent .., _, .error .conditionFailed => .saving event
    | .setting key update, .setCalendarEventRsvp .., _, .ok () => .set key update
    | _, _, _, _ => .closed

inductive Reply
  | saved (result : Except DbError Unit)
  | set (key : RowKey) (update : RsvpUpdate) (result : Except DbError Bool)

/-- A call that reports success has written. -/
def Returns (q : Phase) : Reply → Prop
  | .saved result => result = .ok () → q = .saved
  | .set key update result => result = .ok true → q = .set key update

/-- The calls of a run: a save of a snapshot, or an RSVP. -/
inductive Starts : Prog Cmd Cmd.Answer Reply → Phase → Prop
  | save (event : CalendarEventSignal) :
    Starts (Reply.saved <$> saveCalendarEventSignal event) (.saving event)
  | set (accountId lookupId : String) (rsvpResponse : CalendarRsvpResponse)
      (sentRsvp : Option SentRsvp) :
    Starts (Reply.set (accountId, lookupId) (rsvpUpdate accountId rsvpResponse sentRsvp) <$>
        setCalendarEventRsvp accountId lookupId rsvpResponse sentRsvp)
      (.setting (accountId, lookupId) (rsvpUpdate accountId rsvpResponse sentRsvp))

theorem obeys_saveAttempts (event : CalendarEventSignal) (attempts : Nat) :
    (saveCalendarEventAttempts event attempts).Obeys monitor
      (fun q result => Returns q (.saved result)) (.saving event) := by
  induction attempts with
  | zero => exact nofun
  | succ attempts ih =>
    refine And.intro rfl fun turn answer => ?_
    change Except DbError (Option Signal) at answer
    cases answer with
    | error error => exact nofun
    | ok item =>
      refine And.intro ⟨rfl, rfl⟩ fun turn answer => ?_
      change Except WriteError Unit at answer
      match answer with
      | .ok () => exact fun _ => rfl
      | .error .conditionFailed => exact ih
      | .error (.db error) => exact nofun

theorem Starts.obeys {prog : Prog Cmd Cmd.Answer Reply} {q : Phase} (h : Starts prog q) :
    prog.Obeys monitor Returns q := by
  cases h with
  | save event => exact Prog.obeys_map.mpr (obeys_saveAttempts event 3)
  | set accountId lookupId rsvpResponse sentRsvp =>
    refine Prog.obeys_map.mpr (And.intro ⟨rfl, rfl⟩ fun turn answer => ?_)
    change Except WriteError Unit at answer
    match answer with
    | .ok () => exact fun _ => rfl
    | .error .conditionFailed => exact nofun
    | .error (.db error) => exact nofun

/-! ## What a run keeps -/

def IsEvent (signal : Signal) : Prop := ∃ data, signal.data = .calendarEvent data

/-- An RSVP was relayed to the organizer. -/
def Relayed (update : RsvpUpdate) : Prop := update.sesMessageId ≠ none ∨ update.gsi3pk ≠ none

def sesMessageIdOf (signal : Signal) : Option String :=
  match signal.data with
  | .calendarEvent data => data.sesMessageId
  | _ => none

/-- The row carries an RSVP, with the id of the reply that relayed it and its index key. -/
structure Carries (row : Signal) (update : RsvpUpdate) : Prop where
  rsvp : rsvpOf row = some update.rsvpResponse
  sesMessageId : ∀ id, update.sesMessageId = some id → sesMessageIdOf row = some id
  gsi3pk : ∀ key, update.gsi3pk = some key → row.gsi3pk = some key

/-- Every row carries the RSVP committed last on it. -/
def KeepsRsvps (w : World) : Prop :=
  ∀ key update, (w.recordedOn key).head? = some update →
    ∃ item, w.table.signals.get key = some item ∧ Carries item.signal update

/-- The runs in which a save is carried out only while the row's latest RSVP was not relayed, and
no two RSVPs of a row carry one time. -/
def untouchedRelays : Rules Cmd Cmd.Answer Reply World Turn Phase where
  spawn prog phase _ _ := Starts prog phase
  step _ _ c turn w _ := Commits w turn c → match c with
    | .putCalendarEvent signal _ => ∀ update,
        (w.recordedOn (signal.accountId, signal.signalLookupId)).head? = some update →
          ¬ Relayed update
    | .setCalendarEventRsvp accountId lookupId update =>
        ∀ other ∈ w.recordedOn (accountId, lookupId),
          other.rsvpResponse.respondedAt = update.rsvpResponse.respondedAt →
            other.rsvpResponse = update.rsvpResponse
    | _ => True
  crash _ _ _ _ := True

/-- The RSVP was committed on the row at some time. -/
def Known (w : World) (key : RowKey) (rsvp : CalendarRsvpResponse) : Prop :=
  ∃ update ∈ w.recordedOn key, update.rsvpResponse = rsvp

/-- The record of a world agrees with its table: rows hold calendar events, each with the RSVP
committed last on it, and earlier tables held no others. -/
structure Faithful (w : World) : Prop where
  events : ∀ item ∈ w.table.signals.rows, IsEvent item.signal
  row : ∀ key, rsvpAt w.table key = (w.recordedOn key).head?.map RsvpUpdate.rsvpResponse
  kept : KeepsRsvps w
  past : ∀ table ∈ w.past, ∀ key rsvp, rsvpAt table key = some rsvp → Known w key rsvp
  distinct : ∀ key, ∀ a ∈ w.recordedOn key, ∀ b ∈ w.recordedOn key,
    a.rsvpResponse.respondedAt = b.rsvpResponse.respondedAt → a.rsvpResponse = b.rsvpResponse

/-- What a call relies on: an RSVP it has read was committed, and so was one it has set. -/
def Backed (w : World) : Phase → Prop
  | .merging event (some rsvp) => Known w (eventKey event) rsvp
  | .set key update => update ∈ w.recordedOn key
  | _ => True

structure Inv (w : World) (views : List (Phase × Bool)) : Prop where
  faithful : Faithful w
  backed : ∀ view ∈ views, Backed w view.1

variable {w w' : World} {views : List (Phase × Bool)}

theorem recordedOn_cons (table : Store) (past : List Store) (recorded : List (RowKey × RsvpUpdate))
    (key key' : RowKey) (update : RsvpUpdate) :
    (World.mk table past ((key, update) :: recorded)).recordedOn key' =
      if key = key' then update :: (World.mk table past recorded).recordedOn key'
      else (World.mk table past recorded).recordedOn key' := by
  by_cases h : key = key' <;> simp [World.recordedOn, h]

theorem Faithful.known (h : Faithful w) {key : RowKey} {rsvp : CalendarRsvpResponse}
    (hrow : rsvpAt w.table key = some rsvp) : Known w key rsvp := by
  rw [h.row key] at hrow
  obtain ⟨update, hhead, heq⟩ := Option.map_eq_some_iff.mp hrow
  exact ⟨update, List.mem_of_mem_head? hhead, heq⟩

/-- What a read shows, be it of an earlier table, was committed. -/
theorem Faithful.known_seen (h : Faithful w) (version : Option Nat) {key : RowKey}
    {rsvp : CalendarRsvpResponse} (hrow : rsvpAt (w.seen version) key = some rsvp) :
    Known w key rsvp := by
  unfold World.seen at hrow
  cases hpast : version.bind (w.past[·]?) with
  | none =>
    rw [hpast] at hrow
    exact h.known hrow
  | some table =>
    rw [hpast] at hrow
    obtain ⟨i, -, hi⟩ := Option.bind_eq_some_iff.mp hpast
    exact h.past table (List.mem_of_getElem? hi) key rsvp hrow

theorem Faithful.known_past (h : Faithful w) :
    ∀ table ∈ w.table :: w.past, ∀ key rsvp, rsvpAt table key = some rsvp → Known w key rsvp := by
  intro table hmem key rsvp hrow
  obtain rfl | hmem := List.mem_cons.mp hmem
  · exact h.known hrow
  · exact h.past table hmem key rsvp hrow

theorem Faithful.unchanged (h : Faithful w) :
    Faithful ⟨w.table, w.table :: w.past, w.recorded⟩ :=
  ⟨h.events, h.row, h.kept, h.known_past, h.distinct⟩

/-! ### A save -/

theorem table_put (table : Store) (signal : Signal) (respondedAt : Option String) (fate : Fate) :
    (SignalsTable.settle (.putCalendarEvent signal respondedAt) table fate).2 =
      if fate ≠ .refused ∧ condition table (.putCalendarEvent signal respondedAt) = true then
        table.saveItem signal else table := by
  have hexec : (exec (.putCalendarEvent signal respondedAt) table).2 =
      if condition table (.putCalendarEvent signal respondedAt) = true then table.saveItem signal
      else table := by
    by_cases hc : condition table (.putCalendarEvent signal respondedAt) = true
    · rw [if_pos hc]
      exact congrArg Prod.snd (if_pos (of_decide_eq_true hc))
    · rw [if_neg hc]
      exact congrArg Prod.snd (if_neg fun h => hc (decide_eq_true h))
  cases fate with
  | done => simpa [SignalsTable.settle, settleRequest] using hexec
  | refused => simp [SignalsTable.settle, settleRequest]
  | lost => simpa [SignalsTable.settle, settleRequest] using hexec

variable {prior : Option CalendarRsvpResponse} {event : CalendarEventSignal}
  {accountId lookupId : String}

/-- A put whose condition holds meets the very RSVP that its save has read. -/
theorem Faithful.read_current (h : Faithful w) {key : RowKey}
    (hprior : ∀ rsvp, prior = some rsvp → Known w key rsvp)
    (hcond : (rsvpAt w.table key).map CalendarRsvpResponse.respondedAt =
      prior.map CalendarRsvpResponse.respondedAt) : rsvpAt w.table key = prior := by
  cases hrow : rsvpAt w.table key with
  | none =>
    rw [hrow] at hcond
    cases prior with
    | none => rfl
    | some rsvp => cases hcond
  | some current =>
    rw [hrow] at hcond
    cases prior with
    | none => cases hcond
    | some rsvp =>
      obtain ⟨a, ha, rfl⟩ := h.known hrow
      obtain ⟨b, hb, rfl⟩ := hprior rsvp rfl
      exact congrArg some (h.distinct key a ha b hb (Option.some.inj hcond))

theorem get_saveItem (table : Store) (event : CalendarEventSignal)
    (prior : Option CalendarRsvpResponse) (key : RowKey) :
    (table.saveItem (event.withRsvp prior)).signals.get key =
      if key = eventKey event then some (signalItem (event.withRsvp prior))
      else table.signals.get key :=
  KeyedTable.get_put _ _ _

theorem rsvpAt_saveItem (table : Store) (event : CalendarEventSignal)
    (prior : Option CalendarRsvpResponse) (key : RowKey) :
    rsvpAt (table.saveItem (event.withRsvp prior)) key =
      if key = eventKey event then prior else rsvpAt table key := by
  rw [rsvpAt, get_saveItem]
  by_cases hkey : key = eventKey event
  · rw [if_pos hkey, if_pos hkey]
    rfl
  · rw [if_neg hkey, if_neg hkey]
    rfl

theorem Faithful.save (h : Faithful w) (hcurrent : rsvpAt w.table (eventKey event) = prior)
    (hrelay : ∀ update, (w.recordedOn (eventKey event)).head? = some update → ¬ Relayed update) :
    Faithful ⟨w.table.saveItem (event.withRsvp prior), w.table :: w.past, w.recorded⟩ where
  events := by
    intro item hitem
    obtain rfl | ⟨hitem, -⟩ := KeyedTable.mem_put.mp hitem
    · exact ⟨_, rfl⟩
    · exact h.events item hitem
  row := by
    intro key
    rw [rsvpAt_saveItem]
    by_cases hkey : key = eventKey event
    · rw [if_pos hkey, ← hcurrent, ← hkey]
      exact h.row key
    · rw [if_neg hkey]
      exact h.row key
  kept := by
    intro key update hhead
    change (w.recordedOn key).head? = some update at hhead
    simp only [get_saveItem]
    by_cases hkey : key = eventKey event
    · have hnone := hrelay update (hkey ▸ hhead)
      have hrsvp : prior = some update.rsvpResponse := by
        rw [← hcurrent, ← hkey, h.row key, hhead]
        rfl
      rw [if_pos hkey]
      refine ⟨_, rfl, hrsvp, fun id hid => ?_, fun gsi3pk hgsi => ?_⟩
      · exact absurd (.inl (by simp [hid])) hnone
      · exact absurd (.inr (by simp [hgsi])) hnone
    · rw [if_neg hkey]
      exact h.kept key update hhead
  past := h.known_past
  distinct := h.distinct

/-! ### An RSVP -/

theorem table_set (table : Store) (accountId lookupId : String) (update : RsvpUpdate)
    (fate : Fate) :
    (SignalsTable.settle (.setCalendarEventRsvp accountId lookupId update) table fate).2 =
      if fate ≠ .refused ∧ condition table (.setCalendarEventRsvp accountId lookupId update) = true
      then table.updateItem (accountId, lookupId) update.apply else table := by
  have hexec : (exec (.setCalendarEventRsvp accountId lookupId update) table).2 =
      if condition table (.setCalendarEventRsvp accountId lookupId update) = true then
        table.updateItem (accountId, lookupId) update.apply else table := by
    simp only [exec]
    split
    · next hget => rw [if_pos (by simp [condition, hget])]
    · next hget => rw [if_neg (by simp [condition, hget])]
  cases fate with
  | done => simpa [SignalsTable.settle, settleRequest] using hexec
  | refused => simp [SignalsTable.settle, settleRequest]
  | lost => simpa [SignalsTable.settle, settleRequest] using hexec

theorem apply_isEvent {signal : Signal} (h : IsEvent signal) (update : RsvpUpdate) :
    IsEvent (update.apply signal) := by
  obtain ⟨data, hdata⟩ := h
  unfold IsEvent RsvpUpdate.apply
  rw [hdata]
  exact ⟨_, rfl⟩

theorem apply_carries {signal : Signal} (h : IsEvent signal) (update : RsvpUpdate) :
    Carries (update.apply signal) update := by
  obtain ⟨data, hdata⟩ := h
  refine ⟨?_, fun id hid => ?_, fun key hkey => ?_⟩
  · simp only [rsvpOf, RsvpUpdate.apply, hdata]
  · simp [sesMessageIdOf, RsvpUpdate.apply, hdata, hid]
  · simp [RsvpUpdate.apply, hkey]

variable {update : RsvpUpdate}

theorem Faithful.set (h : Faithful w) {key : RowKey} (hrow : (w.table.signals.get key).isSome)
    (hdistinct : ∀ other ∈ w.recordedOn key,
      other.rsvpResponse.respondedAt = update.rsvpResponse.respondedAt →
        other.rsvpResponse = update.rsvpResponse) :
    Faithful ⟨w.table.updateItem key update.apply, w.table :: w.past,
      (key, update) :: w.recorded⟩ := by
  obtain ⟨item, hitem⟩ := Option.isSome_iff_exists.mp hrow
  have hevent := h.events item (KeyedTable.mem_rows_of_get hitem)
  have hcarries := apply_carries hevent update
  have hget := get_updateItem (rsvpUpdate_keepsKey update) w.table key
  refine ⟨fun other hother => ?_, fun key' => ?_, fun key' update' hhead => ?_,
    fun table hmem key' rsvp hat => ?_, fun key' a ha b hb htime => ?_⟩
  · -- a row of the updated table is the updated one, or was there before
    have hmem := KeyedTable.mem_rows_iff.mp hother
    rw [hget] at hmem
    by_cases hkey : signalKey other = key
    · rw [if_pos hkey, hitem] at hmem
      cases hmem
      exact apply_isEvent hevent update
    · rw [if_neg hkey] at hmem
      exact h.events other (KeyedTable.mem_rows_of_get hmem)
  · rw [recordedOn_cons, rsvpAt, hget]
    by_cases hkey : key = key'
    · rw [if_pos hkey.symm, if_pos hkey, hitem]
      exact hcarries.rsvp
    · rw [if_neg (Ne.symm hkey), if_neg hkey]
      exact h.row key'
  · rw [recordedOn_cons] at hhead
    simp only [hget]
    by_cases hkey : key = key'
    · rw [if_pos hkey] at hhead
      cases hhead
      rw [if_pos hkey.symm, hitem]
      exact ⟨_, rfl, hcarries⟩
    · rw [if_neg hkey] at hhead
      rw [if_neg (Ne.symm hkey)]
      exact h.kept key' update' hhead
  · obtain ⟨known, hknown, heq⟩ := h.known_past table hmem key' rsvp hat
    refine ⟨known, ?_, heq⟩
    rw [recordedOn_cons]
    split
    · exact List.mem_cons_of_mem _ hknown
    · exact hknown
  · rw [recordedOn_cons] at ha hb
    by_cases hkey : key = key'
    · subst hkey
      rw [if_pos rfl] at ha hb
      obtain rfl | ha := List.mem_cons.mp ha
      · obtain rfl | hb := List.mem_cons.mp hb
        · rfl
        · exact (hdistinct b hb htime.symm).symm
      · obtain rfl | hb := List.mem_cons.mp hb
        · exact hdistinct a ha htime
        · exact h.distinct key a ha b hb htime
    · rw [if_neg hkey] at ha hb
      exact h.distinct key' a ha b hb htime

/-! ## Runs -/

theorem Backed.mono (hmono : ∀ key, ∀ update ∈ w.recordedOn key, update ∈ w'.recordedOn key)
    {q : Phase} (h : Backed w q) : Backed w' q := by
  unfold Backed at h ⊢
  split
  · obtain ⟨update, hmem, heq⟩ := h
    exact ⟨update, hmono _ update hmem, heq⟩
  · exact hmono _ _ h
  · trivial

/-- A call that leaves the world faithful keeps the invariant, if its task is backed again. -/
theorem Inv.next (h : Inv w views) (hfaithful : Faithful w')
    (hmono : ∀ key, ∀ update ∈ w.recordedOn key, update ∈ w'.recordedOn key) {q' : Phase}
    (hbacked : Backed w' q') (i : Nat) : Inv w' (views.set i (q', true)) := by
  refine ⟨hfaithful, fun view hview => ?_⟩
  obtain hview | rfl := List.mem_or_eq_of_mem_set hview
  · exact (h.backed view hview).mono hmono
  · exact hbacked

theorem settle_getSignal (accountId lookupId : String) (w : World) (turn : Turn) :
    (settle (.getSignal accountId lookupId) w turn).2 = w ∧
      ∀ item, (settle (.getSignal accountId lookupId) w turn).1 = .ok item →
        item.bind rsvpOf = rsvpAt (w.seen turn.version) (accountId, lookupId) := by
  refine ⟨rfl, fun item hitem => ?_⟩
  obtain ⟨fate, version⟩ := turn
  cases fate with
  | done =>
    cases hitem
    rw [rsvpAt, Option.bind_map]
    rfl
  | refused => cases hitem
  | lost => cases hitem

theorem settle_putCalendarEvent (signal : Signal) (respondedAt : Option String) (w : World)
    (turn : Turn) :
    (settle (.putCalendarEvent signal respondedAt) w turn).2 =
      ⟨if Commits w turn (.putCalendarEvent signal respondedAt) then w.table.saveItem signal
        else w.table, w.table :: w.past, w.recorded⟩ := by
  show w.write turn (.putCalendarEvent signal respondedAt)
    (SignalsTable.settle (.putCalendarEvent signal respondedAt) w.table turn.fate).2 = _
  rw [table_put]
  rfl

theorem settle_setCalendarEventRsvp (accountId lookupId : String) (update : RsvpUpdate) (w : World)
    (turn : Turn) :
    (settle (.setCalendarEventRsvp accountId lookupId update) w turn).2 =
      if Commits w turn (.setCalendarEventRsvp accountId lookupId update) then
        ⟨w.table.updateItem (accountId, lookupId) update.apply, w.table :: w.past,
          ((accountId, lookupId), update) :: w.recorded⟩
      else ⟨w.table, w.table :: w.past, w.recorded⟩ := by
  show w.write turn (.setCalendarEventRsvp accountId lookupId update)
    (SignalsTable.settle (.setCalendarEventRsvp accountId lookupId update) w.table turn.fate).2 = _
  rw [table_set]
  by_cases hc : Commits w turn (.setCalendarEventRsvp accountId lookupId update)
  · rw [if_pos hc]
    simp only [World.write, if_pos hc]
    exact congrArg (World.mk · _ _) (if_pos hc)
  · rw [if_neg hc]
    simp only [World.write, if_neg hc]
    exact congrArg (World.mk · _ _) (if_neg hc)

/-- A set that reports success was committed. -/
theorem commits_of_ok {turn : Turn}
    (h : (settle (.setCalendarEventRsvp accountId lookupId update) w turn).1 = .ok ()) :
    Commits w turn (.setCalendarEventRsvp accountId lookupId update) := by
  change (SignalsTable.settle (.setCalendarEventRsvp accountId lookupId update) w.table
    turn.fate).1 = .ok () at h
  unfold SignalsTable.settle settleRequest at h
  unfold Commits
  cases hfate : turn.fate with
  | done =>
    rw [hfate] at h
    simp only [exec] at h
    split at h
    · next hget => exact ⟨by simp, by simp [condition, hget]⟩
    · cases h
  | refused =>
    rw [hfate] at h
    cases h
  | lost =>
    rw [hfate] at h
    cases h

theorem Inv.saving (h : Inv w views)
    (hkey : (accountId, lookupId) = eventKey event) (turn : Turn) (i : Nat) :
    Inv (settle (.getSignal accountId lookupId) w turn).2
      (views.set i (monitor.next (.saving event) (.getSignal accountId lookupId) turn
        (settle (.getSignal accountId lookupId) w turn).1, true)) := by
  obtain ⟨hsame, hread⟩ := settle_getSignal accountId lookupId w turn
  rw [hsame]
  refine h.next h.faithful (fun _ _ hmem => hmem) ?_ i
  cases hanswer : (settle (.getSignal accountId lookupId) w turn).1 with
  | error error => trivial
  | ok item =>
    show Backed w (.merging event (item.bind rsvpOf))
    rw [hread item hanswer, hkey]
    cases hseen : rsvpAt (w.seen turn.version) (eventKey event) with
    | none => trivial
    | some rsvp => exact h.faithful.known_seen turn.version hseen

theorem Inv.merging (h : Inv w views) {i : Nat}
    (hi : views[i]? = some (.merging event prior, true)) (turn : Turn)
    (hrule : Commits w turn (.putCalendarEvent (event.withRsvp prior)
        (prior.map CalendarRsvpResponse.respondedAt)) →
      ∀ update, (w.recordedOn (eventKey event)).head? = some update → ¬ Relayed update) :
    Inv (settle (.putCalendarEvent (event.withRsvp prior)
        (prior.map CalendarRsvpResponse.respondedAt)) w turn).2
      (views.set i (monitor.next (.merging event prior) (.putCalendarEvent (event.withRsvp prior)
        (prior.map CalendarRsvpResponse.respondedAt)) turn
          (settle (.putCalendarEvent (event.withRsvp prior)
            (prior.map CalendarRsvpResponse.respondedAt)) w turn).1, true)) := by
  have hbacked := h.backed _ (List.mem_of_getElem? hi)
  have hprior : ∀ rsvp, prior = some rsvp → Known w (eventKey event) rsvp := by
    intro rsvp heq
    rw [heq] at hbacked
    exact hbacked
  rw [settle_putCalendarEvent]
  refine h.next ?_ ?_ ?_ i
  · by_cases hc : Commits w turn (.putCalendarEvent (event.withRsvp prior)
        (prior.map CalendarRsvpResponse.respondedAt))
    · rw [if_pos hc]
      have hcurrent := h.faithful.read_current hprior (of_decide_eq_true hc.2)
      exact h.faithful.save hcurrent (hrule hc)
    · rw [if_neg hc]
      exact h.faithful.unchanged
  · exact fun _ _ hmem => hmem
  · generalize (settle _ w turn).1 = answer
    change Except WriteError Unit at answer
    match answer with
    | .ok () => trivial
    | .error .conditionFailed => trivial
    | .error (.db error) => trivial

theorem Inv.setting (h : Inv w views) (turn : Turn) (i : Nat)
    (hrule : Commits w turn (.setCalendarEventRsvp accountId lookupId update) →
      ∀ other ∈ w.recordedOn (accountId, lookupId),
        other.rsvpResponse.respondedAt = update.rsvpResponse.respondedAt →
          other.rsvpResponse = update.rsvpResponse) :
    Inv (settle (.setCalendarEventRsvp accountId lookupId update) w turn).2
      (views.set i (monitor.next (.setting (accountId, lookupId) update)
        (.setCalendarEventRsvp accountId lookupId update) turn
          (settle (.setCalendarEventRsvp accountId lookupId update) w turn).1, true)) := by
  have hcommits := @commits_of_ok w accountId lookupId update turn
  rw [settle_setCalendarEventRsvp]
  generalize (settle (.setCalendarEventRsvp accountId lookupId update) w turn).1 = answer at *
  change Except WriteError Unit at answer
  by_cases hc : Commits w turn (.setCalendarEventRsvp accountId lookupId update)
  · rw [if_pos hc]
    refine h.next (h.faithful.set hc.2 (hrule hc)) (fun key other hmem => ?_) ?_ i
    · rw [recordedOn_cons]
      split
      · exact List.mem_cons_of_mem _ hmem
      · exact hmem
    · match answer with
      | .ok () =>
        show update ∈ World.recordedOn _ (accountId, lookupId)
        rw [recordedOn_cons, if_pos rfl]
        exact List.mem_cons_self
      | .error error => trivial
  · rw [if_neg hc]
    refine h.next h.faithful.unchanged ?_ ?_ i
    · exact fun _ _ hmem => hmem
    match answer with
    | .ok () => exact absurd (hcommits rfl) hc
    | .error error => trivial

theorem inv_keeps : Keeps service monitor Returns untouchedRelays Inv where
  spawn := by
    intro w ts prog q h hstarts
    refine ⟨hstarts.obeys, h.faithful, fun view hview => ?_⟩
    obtain hview | hview := List.mem_append.mp hview
    · exact h.backed view hview
    · obtain rfl := List.mem_singleton.mp hview
      cases hstarts <;> trivial
  step := by
    intro w ts i q c turn h hi hallow hrule
    cases q with
    | saving event =>
      cases c
      case getSignal accountId lookupId => exact h.saving hallow turn i
      all_goals exact hallow.elim
    | merging event prior =>
      cases c
      case putCalendarEvent signal respondedAt =>
        obtain ⟨rfl, rfl⟩ := hallow
        exact h.merging hi turn hrule
      all_goals exact hallow.elim
    | setting key update =>
      cases c
      case setCalendarEventRsvp accountId lookupId update' =>
        obtain ⟨rfl, rfl⟩ := hallow
        exact h.setting turn i hrule
      all_goals exact hallow.elim
    | saved | set key update | closed => cases c <;> exact hallow.elim
  crash := by
    intro w ts i q h hi _
    refine ⟨h.faithful, fun view hview => ?_⟩
    obtain hview | rfl := List.mem_or_eq_of_mem_set hview
    · exact h.backed view hview
    · exact h.backed (q, true) (List.mem_of_getElem? hi)

/-- **No RSVP is lost.** In every run of saves and RSVPs, whatever fails, crashes or reads an
earlier table, every row carries at all times the RSVP committed last on it, with the ids of its
relay, and a call that reported success has written, provided that no save is carried out over a
relayed RSVP and no two RSVPs of a row carry one time. -/
theorem rsvp_kept (start : World) (hstart : Faithful start)
    (pool : Pool Cmd Cmd.Answer Reply Phase World)
    (h : Reaches service monitor untouchedRelays ⟨start, []⟩ pool) :
    KeepsRsvps pool.store ∧
      (∀ task ∈ pool.tasks, ∀ key update, task.prog = .ret (.set key update (.ok true)) →
        update ∈ pool.store.recordedOn key) ∧
      ∀ task ∈ pool.tasks, task.prog = .ret (.saved (.ok ())) → task.phase = .saved := by
  have hempty : (⟨start, []⟩ : Pool Cmd Cmd.Answer Reply Phase World).Obeys monitor Returns :=
    fun _ hmem => absurd hmem List.not_mem_nil
  have hinv : Inv start [] := ⟨hstart, fun _ hmem => absurd hmem List.not_mem_nil⟩
  obtain ⟨hobeys, hinv⟩ := Reaches.invariant inv_keeps hempty hinv h
  refine ⟨hinv.faithful.kept, fun task hmem key update hret => ?_, fun task hmem hret => ?_⟩
  · have hreturns := hobeys task hmem
    rw [hret] at hreturns
    have hbacked := hinv.backed task.view (List.mem_map_of_mem hmem)
    rw [Task.view, hreturns rfl] at hbacked
    exact hbacked
  · have hreturns := hobeys task hmem
    rw [hret] at hreturns
    exact hreturns rfl

/-! ## A save over a relayed RSVP -/

def laterSnapshot : CalendarEventSignal :=
  EventStore.snapshot "REQUEST" 2 "2026-03-01T11:00:00.000Z"

/-- The row of an event, before any RSVP. -/
def eventTable : Store :=
  (⟨.empty, .empty⟩ : Store).saveItem
    (EventStore.snapshot "REQUEST" 1 "2026-03-01T08:00:00.000Z").signal

def eventPool : Pool Cmd Cmd.Answer Reply Phase World := ⟨⟨eventTable, [], []⟩, []⟩

def accepted : CalendarRsvpResponse := ⟨.accepted, "2026-03-01T10:00:00.000Z"⟩

def accept (sentRsvp : Option SentRsvp) : Move Cmd Cmd.Answer Reply Turn Phase :=
  .spawn (Reply.set ("acct-1", EventStore.calendarLookupId)
      (rsvpUpdate "acct-1" accepted sentRsvp) <$>
        setCalendarEventRsvp "acct-1" EventStore.calendarLookupId accepted sentRsvp)
    (.setting ("acct-1", EventStore.calendarLookupId) (rsvpUpdate "acct-1" accepted sentRsvp))

def save : Move Cmd Cmd.Answer Reply Turn Phase :=
  .spawn (Reply.saved <$> saveCalendarEventSignal laterSnapshot)
    (.saving laterSnapshot)

def done : Turn := ⟨.done, none⟩

/-- An RSVP is relayed and recorded, and then a new snapshot is saved. -/
def relayThenSave : List (Move Cmd Cmd.Answer Reply Turn Phase) :=
  [accept (some ⟨"ses-9", "ses-9"⟩), .step 0 done, save, .step 1 done, .step 1 done]

/-- What the calls report, and what the row carries. -/
def outcome (pool : Pool Cmd Cmd.Answer Reply Phase World) :
    List (Option Bool) × Option (Option CalendarRsvpResponse × Option String × Option String) :=
  (pool.tasks.map fun task => match task.prog with
      | .ret (.saved (.ok ())) => some true
      | .ret (.set _ _ (.ok found)) => some found
      | _ => none,
    (pool.store.table.signals.get ("acct-1", EventStore.calendarLookupId)).map fun item =>
      (rsvpOf item.signal, sesMessageIdOf item.signal, item.signal.gsi3pk))

/-- Both calls report success, and the row has lost the id of the relayed reply and its index
key. -/
theorem relayThenSave_loses :
    (eventPool.moves service monitor relayThenSave).map outcome =
        some ([some true, some true], some (some accepted, none, none)) ∧
      ∀ pool, eventPool.moves service monitor relayThenSave = some pool →
        ¬ KeepsRsvps pool.store := by
  have hrun : (eventPool.moves service monitor relayThenSave).map outcome =
      some ([some true, some true], some (some accepted, none, none)) := by decide +kernel
  refine ⟨hrun, fun pool hpool hkeeps => ?_⟩
  rw [hpool] at hrun
  have hrow := congrArg Prod.snd (Option.some.inj hrun)
  have hhead : (pool.store.recordedOn ("acct-1", EventStore.calendarLookupId)).head? =
      some (rsvpUpdate "acct-1" accepted (some ⟨"ses-9", "ses-9"⟩)) := by
    cases hpool
    rfl
  obtain ⟨item, hitem, hcarries⟩ := hkeeps _ _ hhead
  simp only [outcome, hitem, Option.map_some, Option.some.injEq, Prod.mk.injEq] at hrow
  rw [hcarries.sesMessageId "ses-9" rfl] at hrow
  cases hrow.2.1

theorem eventTable_faithful : Faithful ⟨eventTable, [], []⟩ where
  events := by
    intro item hitem
    obtain rfl := List.mem_singleton.mp hitem
    exact ⟨_, rfl⟩
  row := by
    intro key
    have hget : eventTable.signals.get key = if key = ("acct-1", EventStore.calendarLookupId) then
        some (signalItem (EventStore.snapshot "REQUEST" 1 "2026-03-01T08:00:00.000Z").signal)
        else none := KeyedTable.get_put _ _ _
    simp only [rsvpAt, hget]
    split <;> rfl
  kept := fun key update hhead => nomatch hhead
  past := fun table hmem => absurd hmem List.not_mem_nil
  distinct := fun key a ha => nomatch ha

/-- An RSVP that was not relayed, and a save after it. -/
theorem rsvp_kept_unrelayed : ∃ pool : Pool Cmd Cmd.Answer Reply Phase World,
    (outcome pool).1 = [some true, some true] ∧ KeepsRsvps pool.store := by
  have hset : Reaches service monitor untouchedRelays eventPool _ :=
    .tail .refl (m := accept none) (.set "acct-1" EventStore.calendarLookupId accepted none) rfl
  have hrecorded := hset.step (i := 0) (f := done) rfl fun _ _ hother => nomatch hother
  have hsave : Reaches service monitor untouchedRelays eventPool _ :=
    .tail hrecorded (m := save) (.save laterSnapshot) rfl
  have hread := hsave.step (i := 1) (f := done) rfl fun _ => trivial
  have hput := hread.step (i := 1) (f := done) rfl fun _ update hhead => by
    cases hhead
    exact fun hrelayed => hrelayed.elim (fun h => h rfl) fun h => h rfl
  exact ⟨_, by decide +kernel, (rsvp_kept _ eventTable_faithful _ hput).1⟩

end SesEmailAdapter.Calendar.RsvpRaces
