import SesEmailAdapter.Database.ProcessingDatabase
import SesEmailAdapter.Email.Address

/-! # Bounce suppression

Bounce and complaint notifications, from the provider's feedback and from bounce messages that
arrive as mail, each record their failed recipients in the suppression list. A permanent bounce
and a complaint are meant to suppress an address for good, a transient bounce for seven days. -/

namespace SesEmailAdapter.Notifier.BounceSuppression
open Lib
open Database Database.ProcessingDatabase
open Email.Address

/-! ## Entries -/

def SOFT_BOUNCE_TTL_SECONDS : Nat := 7 * 24 * 60 * 60

/-- One reading of the clock, in seconds and as text. -/
structure Clock where
  seconds : Nat
  iso : String

def buildBounceSuppressionEntry (clock : Clock) (address : String) (isPermanent : Bool)
    (reason : SuppressionReason) (sesMessageId linkedSignalId : Option String) :
    SuppressedAddress where
  address
  reason
  suppressedAt := clock.iso
  ttl := if isPermanent then none else some (clock.seconds + SOFT_BOUNCE_TTL_SECONDS)
  sesMessageId := sesMessageId.filter (· ≠ "")
  linkedSignalId := linkedSignalId.filter (· ≠ "")

/-- What a bounce message reports of its recipient. -/
structure BounceInfo where
  originalRecipient : Option String
  finalRecipient : Option String
  action : Option String
  status : Option String

/-- By the class digit of the status, or else by the action. -/
def isPermanentBounce (info : BounceInfo) : Bool :=
  let statusClass := info.status.bind fun status => (trim status.toList).head?
  if statusClass = some '5' then true
  else if statusClass = some '4' then false
  else info.action ≠ some "delayed"

/-- A notification about failed recipients. `linkedSignalId` is the send it was resolved to. -/
inductive Notification
  | bounce (bounceType : String) (bouncedRecipients : List String) (messageId : String)
      (linkedSignalId : Option String)
  | complaint (complainedRecipients : List String)
  | inboundBounce (info : BounceInfo) (linkedSignalId : Option String)

def Notification.isPermanent : Notification → Bool
  | .bounce bounceType _ _ _ => bounceType == "Permanent"
  | .complaint _ => true
  | .inboundBounce info _ => isPermanentBounce info

/-- The entries that the feedback processor and the bounce handler record, in their order. -/
def Notification.entries (n : Notification) (clock : Clock) : List SuppressedAddress :=
  match n with
  | .bounce _ bouncedRecipients messageId linkedSignalId =>
    bouncedRecipients.map fun address =>
      buildBounceSuppressionEntry clock address n.isPermanent
        (if n.isPermanent then .hardBounce else .softBounce) (some messageId) linkedSignalId
  | .complaint complainedRecipients =>
    complainedRecipients.map fun address => ⟨address, .complaint, clock.iso, none, none, none⟩
  | .inboundBounce info linkedSignalId =>
    let failedAddress := info.originalRecipient.or info.finalRecipient
    (failedAddress.filter (· ≠ "")).toList.map fun address =>
      buildBounceSuppressionEntry clock address n.isPermanent .externalBounce none linkedSignalId

variable {entry : SuppressedAddress}

variable {n : Notification}

/-- Just the entries of permanent failures carry no expiry. -/
theorem ttl_of_mem_entries {clock : Clock}
    (h : entry ∈ n.entries clock) : entry.ttl = none ↔ n.isPermanent = true := by
  cases n with
  | bounce bounceType bouncedRecipients messageId linkedSignalId =>
    obtain ⟨address, -, rfl⟩ := List.mem_map.mp h
    simp [buildBounceSuppressionEntry]
  | complaint complainedRecipients =>
    obtain ⟨address, -, rfl⟩ := List.mem_map.mp h
    simp [Notification.isPermanent]
  | inboundBounce info linkedSignalId =>
    obtain ⟨address, -, rfl⟩ := List.mem_map.mp h
    simp [buildBounceSuppressionEntry]

/-! ## Histories -/

/-- A notification is handled, of whose entries the first `recorded` are written before an error
or a crash ends it; or the table deletes an expired row. -/
inductive Event
  | notify (n : Notification) (clock : Clock) (recorded : Nat)
  | expire (address : String) (now : Nat)

/-- One change of the suppression list. -/
inductive Step
  | record (n : Notification) (entry : SuppressedAddress)
  | expire (address : String) (now : Nat)

def Event.steps : Event → List Step
  | .notify n clock recorded => ((n.entries clock).take recorded).map (.record n)
  | .expire address now => [.expire address now]

def Step.run (t : SuppressionTable) : Step → SuppressionTable
  | .record _ entry => (suppressAddress entry t).2
  | .expire address now => ProcessingDatabase.expire address now t

/-- The list after a history. -/
def tableAfter (steps : List Step) : SuppressionTable := steps.foldl Step.run .empty

/-- The addresses are one mailbox, in whatever letter case. -/
def SameMailbox (a b : String) : Prop := toLowerCase a.toList = toLowerCase b.toList

instance (a b : String) : Decidable (SameMailbox a b) :=
  inferInstanceAs (Decidable (_ = _))

/-- The recorded notifications about a mailbox. -/
def recorded (mailbox : String) (steps : List Step) : List (Notification × SuppressedAddress) :=
  steps.filterMap fun
    | .record n entry => if SameMailbox entry.address mailbox then some (n, entry) else none
    | .expire _ _ => none

/-- The mailbox is suppressed for good after `count` notifications: it has an entry, no entry of
it carries an expiry or another count, and every lookup of it finds one. -/
structure Suppressed (mailbox : String) (lookups : List String) (count : Nat)
    (t : SuppressionTable) : Prop where
  exists_entry : ∃ row ∈ t.rows, SameMailbox row.address mailbox
  entry : ∀ row ∈ t.rows, SameMailbox row.address mailbox →
    row.ttl = none ∧ row.bounceCount = count
  lookup : ∀ address ∈ lookups, SameMailbox address mailbox → isAddressSuppressed address t = true

/-- From the first permanent failure of the mailbox on it is suppressed for good. -/
def StaysSuppressed (mailbox : String) (lookups : List String) (steps : List Step) : Prop :=
  ∀ past, past <+: steps → (∃ r ∈ recorded mailbox past, r.1.isPermanent = true) →
    Suppressed mailbox lookups (recorded mailbox past).length (tableAfter past)

/-- Every notification about the mailbox is of a permanent failure, and all of them and all
lookups spell it alike. -/
def SpeltAlike (mailbox : String) (lookups : List String) (steps : List Step) : Prop :=
  ∃ spelling, (∀ r ∈ recorded mailbox steps, r.1.isPermanent = true ∧ r.2.address = spelling) ∧
    ∀ address ∈ lookups, SameMailbox address mailbox → address = spelling

variable {mailbox : String} {lookups : List String} {steps : List Step} {t : SuppressionTable}

theorem recorded_append (xs ys : List Step) :
    recorded mailbox (xs ++ ys) = recorded mailbox xs ++ recorded mailbox ys :=
  List.filterMap_append

theorem recorded_record (n : Notification) (entry : SuppressedAddress) :
    recorded mailbox [.record n entry] =
      if SameMailbox entry.address mailbox then [(n, entry)] else [] := by
  by_cases h : SameMailbox entry.address mailbox <;> simp [recorded, h]

theorem recorded_expire (address : String) (now : Nat) :
    recorded mailbox [.expire address now] = [] := rfl

theorem tableAfter_snoc (steps : List Step) (step : Step) :
    tableAfter (steps ++ [step]) = step.run (tableAfter steps) := by
  simp [tableAfter]

theorem mem_recorded_of_past {past : List Step} (h : past <+: steps)
    {r : Notification × SuppressedAddress} (hr : r ∈ recorded mailbox past) :
    r ∈ recorded mailbox steps := by
  obtain ⟨future, rfl⟩ := h
  rw [recorded_append]
  exact List.mem_append_left _ hr

/-- The entries of a history are those that its notifications record. -/
def WellFormed (steps : List Step) : Prop :=
  ∀ n entry, Step.record n entry ∈ steps → (entry.ttl = none ↔ n.isPermanent = true)

theorem wellFormed_steps (events : List Event) : WellFormed (events.flatMap Event.steps) := by
  intro n entry hmem
  obtain ⟨event, -, hstep⟩ := List.mem_flatMap.mp hmem
  cases event with
  | expire address now => simp [Event.steps] at hstep
  | notify m clock count =>
    obtain ⟨e, he, heq⟩ := List.mem_map.mp hstep
    cases heq
    exact ttl_of_mem_entries (List.mem_of_mem_take he)

/-! ## One spelling and permanent failures only -/

/-- What the rows of a mailbox are after `n` permanent failures under one spelling. -/
structure Lasting (mailbox spelling : String) (n : Nat) (t : SuppressionTable) : Prop where
  entry : ∀ row ∈ t.rows, SameMailbox row.address mailbox →
    row.address = spelling ∧ row.ttl = none ∧ row.bounceCount = n
  exists_entry : 0 < n → ∃ row ∈ t.rows, SameMailbox row.address mailbox

variable {spelling : String}

theorem Lasting.expire {n : Nat} (h : Lasting mailbox spelling n t) (address : String) (now : Nat) :
    Lasting mailbox spelling n (ProcessingDatabase.expire address now t) where
  entry := fun row hrow => h.entry row (mem_of_mem_expire hrow)
  exists_entry := fun hn => by
    obtain ⟨row, hrow, hsame⟩ := h.exists_entry hn
    exact ⟨row, mem_expire_of_ttl hrow (h.entry row hrow hsame).2.1, hsame⟩

theorem Lasting.other {n : Nat} (h : Lasting mailbox spelling n t)
    (hother : ¬ SameMailbox entry.address mailbox) :
    Lasting mailbox spelling n (suppressAddress entry t).2 where
  entry := by
    intro row hrow hsame
    obtain rfl | ⟨hrow, -⟩ := mem_suppressAddress.mp hrow
    · exact absurd hsame hother
    · exact h.entry row hrow hsame
  exists_entry := by
    intro hn
    obtain ⟨row, hrow, hsame⟩ := h.exists_entry hn
    have hne : row.address ≠ entry.address := fun heq => hother (heq ▸ hsame)
    exact ⟨row, mem_suppressAddress.mpr (.inr ⟨hrow, hne⟩), hsame⟩

theorem Lasting.record {n : Nat} (h : Lasting mailbox spelling n t)
    (hsame : SameMailbox entry.address mailbox)
    (haddr : entry.address = spelling) (httl : entry.ttl = none) :
    Lasting mailbox spelling (n + 1) (suppressAddress entry t).2 where
  entry := by
    intro row hrow hrowSame
    obtain rfl | ⟨hrow, hne⟩ := mem_suppressAddress.mp hrow
    · cases hprior : t.get entry.address with
      | none =>
        have hn : n = 0 := by
          by_contra hn
          obtain ⟨row, hrow, hs⟩ := h.exists_entry (by omega)
          have hkey : row.address = entry.address := by rw [(h.entry row hrow hs).1, haddr]
          have hget := KeyedTable.mem_rows_iff.mp hrow
          rw [hkey, hprior] at hget
          cases hget
        simp [updatedRow, haddr, httl, hn]
      | some prior =>
        have hkey := KeyedTable.key_of_get hprior
        obtain ⟨-, hpttl, hpcount⟩ := h.entry prior (KeyedTable.mem_rows_of_get hprior)
          (hkey ▸ hsame)
        simp [updatedRow, haddr, httl, hpttl, hpcount]
    · exact absurd ((h.entry row hrow hrowSame).1.trans haddr.symm) hne
  exists_entry := fun _ =>
    ⟨_, mem_suppressAddress.mpr (.inl rfl), hsame⟩

theorem lasting_tableAfter (hwf : WellFormed steps)
    (hall : ∀ r ∈ recorded mailbox steps, r.1.isPermanent = true ∧ r.2.address = spelling) :
    Lasting mailbox spelling (recorded mailbox steps).length (tableAfter steps) := by
  induction steps using List.reverseRecOn with
  | nil => exact ⟨fun row hrow => (nomatch hrow), fun hn => absurd hn (Nat.lt_irrefl 0)⟩
  | append_singleton steps step ih =>
    have hwf' : WellFormed steps := fun n e h => hwf n e (List.mem_append_left _ h)
    rw [recorded_append] at hall ⊢
    have ih := ih hwf' fun r hr => hall r (List.mem_append_left _ hr)
    rw [tableAfter_snoc]
    cases step with
    | expire address now =>
      rw [recorded_expire, List.append_nil]
      exact ih.expire address now
    | record n entry =>
      rw [recorded_record] at hall ⊢
      by_cases hsame : SameMailbox entry.address mailbox
      · rw [if_pos hsame] at hall ⊢
        obtain ⟨hperm, haddr⟩ := hall (n, entry) (by simp)
        have httl := (hwf n entry (by simp)).mpr hperm
        rw [List.length_append]
        exact ih.record hsame haddr httl
      · rw [if_neg hsame, List.append_nil]
        exact ih.other hsame

/-! ## What a row's count tells of its history -/

/-- The recorded notifications under one spelling. -/
def spelt (mailbox address : String) (steps : List Step) : List (Notification × SuppressedAddress) :=
  (recorded mailbox steps).filter fun r => r.2.address = address

/-- No row counts more than the notifications under its spelling, and one that has counted them
all without getting an expiry has seen only permanent failures. -/
def Accounted (mailbox : String) (steps : List Step) (t : SuppressionTable) : Prop :=
  ∀ row ∈ t.rows, SameMailbox row.address mailbox →
    row.bounceCount ≤ (spelt mailbox row.address steps).length ∧
      (row.bounceCount = (spelt mailbox row.address steps).length → row.ttl = none →
        ∀ r ∈ spelt mailbox row.address steps, r.1.isPermanent = true)

theorem spelt_snoc_self (hsame : SameMailbox entry.address mailbox) :
    spelt mailbox entry.address (steps ++ [.record n entry]) =
      spelt mailbox entry.address steps ++ [(n, entry)] := by
  simp [spelt, recorded_append, recorded_record, hsame]

theorem spelt_snoc_ne {address : String} (hne : address ≠ entry.address) :
    spelt mailbox address (steps ++ [.record n entry]) = spelt mailbox address steps := by
  by_cases hsame : SameMailbox entry.address mailbox <;>
    simp [spelt, recorded_append, recorded_record, hsame, hne.symm]

theorem spelt_snoc_expire {address address' : String} {now : Nat} :
    spelt mailbox address (steps ++ [.expire address' now]) = spelt mailbox address steps := by
  simp [spelt, recorded_append, recorded_expire]

theorem Accounted.record
    (h : Accounted mailbox steps t) (httl : entry.ttl = none ↔ n.isPermanent = true) :
    Accounted mailbox (steps ++ [.record n entry]) (suppressAddress entry t).2 := by
  intro row hrow hsame
  obtain rfl | ⟨hrow, hne⟩ := mem_suppressAddress.mp hrow
  · show (updatedRow entry (t.get entry.address)).bounceCount ≤
        (spelt mailbox entry.address _).length ∧
      ((updatedRow entry (t.get entry.address)).bounceCount =
        (spelt mailbox entry.address _).length → _ → ∀ r ∈ spelt mailbox entry.address _, _)
    rw [spelt_snoc_self hsame, List.length_append]
    cases hprior : t.get entry.address with
    | none =>
      refine ⟨by simp [updatedRow], fun hcount hnone r hr => ?_⟩
      have hempty : (spelt mailbox entry.address steps).length = 0 := by
        simpa [updatedRow] using hcount.symm
      rw [List.length_eq_zero_iff.mp hempty] at hr
      obtain rfl : r = (n, entry) := by simpa using hr
      exact httl.mp (by simpa [updatedRow] using hnone)
    | some prior =>
      have hkey := KeyedTable.key_of_get hprior
      have hacc := h prior (KeyedTable.mem_rows_of_get hprior) (by rw [hkey]; exact hsame)
      rw [hkey] at hacc
      refine ⟨by simpa [updatedRow] using hacc.1, fun hcount hnone r hr => ?_⟩
      have hcount' : prior.bounceCount = (spelt mailbox entry.address steps).length := by
        simpa [updatedRow] using hcount
      obtain ⟨hentry, hprior⟩ : entry.ttl = none ∧ prior.ttl = none := by
        simpa [updatedRow] using hnone
      obtain hr | hr := List.mem_append.mp hr
      · exact hacc.2 hcount' hprior r hr
      · obtain rfl : r = (n, entry) := by simpa using hr
        exact httl.mp hentry
  · rw [spelt_snoc_ne hne]
    exact h row hrow hsame

theorem accounted_tableAfter (hwf : WellFormed steps) :
    Accounted mailbox steps (tableAfter steps) := by
  induction steps using List.reverseRecOn with
  | nil => exact fun row hrow => (nomatch hrow)
  | append_singleton steps step ih =>
    have ih := ih fun n e h => hwf n e (List.mem_append_left _ h)
    rw [tableAfter_snoc]
    cases step with
    | record n entry => exact ih.record (hwf n entry (by simp))
    | expire address now =>
      intro row hrow hsame
      rw [spelt_snoc_expire]
      exact ih row (mem_of_mem_expire hrow) hsame

/-- A row that has counted every notification about its mailbox, and has no expiry. -/
theorem speltAlike_of_row (hwf : WellFormed steps) {row : SuppressionRow}
    (hrow : row ∈ (tableAfter steps).rows) (hsame : SameMailbox row.address mailbox)
    (httl : row.ttl = none) (hcount : row.bounceCount = (recorded mailbox steps).length) :
    ∀ r ∈ recorded mailbox steps, r.1.isPermanent = true ∧ r.2.address = row.address := by
  obtain ⟨hle, hperm⟩ := accounted_tableAfter hwf row hrow hsame
  have hfilter : (spelt mailbox row.address steps).length ≤ (recorded mailbox steps).length :=
    List.length_filter_le _ _
  have hlen : (spelt mailbox row.address steps).length = (recorded mailbox steps).length := by omega
  have hall := List.length_filter_eq_length_iff.mp hlen
  intro r hr
  have haddr : r.2.address = row.address := by simpa using hall r hr
  exact ⟨hperm (by omega) httl r (List.mem_filter.mpr ⟨hr, by simpa using haddr⟩), haddr⟩

/-! ## Permanence -/

theorem Lasting.suppressed {n : Nat} (h : Lasting mailbox spelling n t)
    (hn : 0 < n) (hlookups : ∀ address ∈ lookups, SameMailbox address mailbox → address = spelling) :
    Suppressed mailbox lookups n t where
  exists_entry := h.exists_entry hn
  entry := fun row hrow hsame => (h.entry row hrow hsame).2
  lookup := by
    intro address hmem hsame
    obtain ⟨row, hrow, hrowSame⟩ := h.exists_entry hn
    refine isAddressSuppressed_iff.mpr ⟨row, hrow, ?_⟩
    rw [(h.entry row hrow hrowSame).1, hlookups address hmem hsame]

/-- **Suppression for good, exactly.** In every history of notifications and expiries, a mailbox
with a permanent failure stays suppressed from then on, without an expiry and with its count, just
when no notification about it was transient and all notifications and lookups spell it alike. -/
theorem staysSuppressed_iff (mailbox : String) (lookups : List String) (events : List Event) :
    StaysSuppressed mailbox lookups (events.flatMap Event.steps) ↔
      (∀ r ∈ recorded mailbox (events.flatMap Event.steps), r.1.isPermanent = false) ∨
        SpeltAlike mailbox lookups (events.flatMap Event.steps) := by
  have hwf := wellFormed_steps events
  generalize events.flatMap Event.steps = steps at hwf ⊢
  constructor
  · intro hstays
    by_cases hperm : ∃ r ∈ recorded mailbox steps, r.1.isPermanent = true
    · right
      have hsup := hstays steps (List.prefix_refl _) hperm
      obtain ⟨row, hrow, hsame⟩ := hsup.exists_entry
      obtain ⟨httl, hcount⟩ := hsup.entry row hrow hsame
      have hall := speltAlike_of_row hwf hrow hsame httl hcount
      refine ⟨row.address, hall, fun address hmem hlookup => ?_⟩
      obtain ⟨other, hother, rfl⟩ := isAddressSuppressed_iff.mp (hsup.lookup address hmem hlookup)
      obtain ⟨httl', hcount'⟩ := hsup.entry other hother hlookup
      -- both rows have counted the permanent failure under their own spelling
      obtain ⟨r, hr, -⟩ := hperm
      rw [← (speltAlike_of_row hwf hother hlookup httl' hcount' r hr).2, (hall r hr).2]
    · left
      intro r hr
      by_contra hne
      exact hperm ⟨r, hr, by simpa using hne⟩
  · rintro (hnone | ⟨spelling, hall, hlookups⟩) past hpast ⟨r, hr, hperm⟩
    · rw [hnone r (mem_recorded_of_past hpast hr)] at hperm
      cases hperm
    · have hwf' : WellFormed past := fun n e h => hwf n e (hpast.subset h)
      have hlasting := lasting_tableAfter hwf' fun r hr => hall r (mem_recorded_of_past hpast hr)
      exact hlasting.suppressed (List.length_pos_of_mem hr) hlookups

/-- A transient bounce, and an hour later a permanent one, of one address. -/
def softThenHard : List Event :=
  [.notify (.bounce "Transient" ["me@home.test"] "ses-1" none) ⟨1000, "2026-03-01T09:00:00.000Z"⟩ 1,
    .notify (.bounce "Permanent" ["me@home.test"] "ses-2" none) ⟨4600, "2026-03-01T10:00:00.000Z"⟩ 1]

/-- The permanent bounce leaves the expiry of the transient one, and after it the address is no
longer suppressed. -/
theorem softThenHard_expires :
    ¬ StaysSuppressed "me@home.test" ["me@home.test"] (softThenHard.flatMap Event.steps) ∧
      isAddressSuppressed "me@home.test" (tableAfter
        ((softThenHard ++ [Event.expire "me@home.test" 700000]).flatMap Event.steps)) = false := by
  refine ⟨fun hstays => ?_, by decide⟩
  have hsup := hstays _ (List.prefix_refl _) ⟨_, List.mem_cons_of_mem _ List.mem_cons_self, rfl⟩
  have hrow := hsup.entry _ List.mem_cons_self (by decide)
  cases hrow.1

end SesEmailAdapter.Notifier.BounceSuppression
