import SesEmailAdapter.Lib.JoinedText
import SesEmailAdapter.Processor.IngestThreads

/-! # Grouping keys

Deliveries of any messages, interleaved call by call. A grouping key stands for one conversation,
and the lookup expects one thread behind it, but no write checks this: a delivery that creates a
thread relies on a lookup that it has made long before. -/

namespace SesEmailAdapter.Processor.GroupingKeys
open Lib Lib.JoinedText
open SesEmailAdapter.Types Database
open Database.SignalsTable (threadKey)
open Processor.IngestService Processor.InboundMessage
open Processor.IncomingEmail Processor.IngestRedelivery
open Processor.IngestThreads (SparesThreads threads_db settle_putNewThread_there
  settle_putNewThread_missing greetingEnv greetingMail)
open Resource.ResourceDatabase (truthy)

/-! ## Keys -/

/-- What tells the conversations of a workflow apart. -/
def discriminator (workflow : Workflow) (workflowData : WorkflowData) (senderETLD1 : String) :
    Option String :=
  match workflow with
  | .package => truthy (workflowData.fields.get "orderNumber")
  | .support => truthy (workflowData.fields.get "ticketId")
  | _ => some senderETLD1

/-- A head without the separator ends at the first one. -/
theorem joined_inj {head head' : String} {rest rest' : Option String}
    (hhead : ':' ∉ head.toList) (hhead' : ':' ∉ head'.toList)
    (h : joined ':' head rest = joined ':' head' rest') : head = head' ∧ rest = rest' := by
  have hruns {text text' : String} {more more' : Option String} (hno : ':' ∉ text'.toList) :
      ¬ RunsOn ':' text more text' more' := by
    rintro ⟨middle, rfl, -⟩
    simp [toList_joined, tailChars] at hno
  exact (joined_eq_iff.mp h).resolve_right fun hor => hor.elim (hruns hhead') (hruns hhead)

/-- The parts of a conversation that its key is derived from. -/
structure Conversation where
  recipientAddress : String
  workflow : Workflow
  value : Option String
deriving DecidableEq, Repr

def conversation (workflow : Workflow) (workflowData : WorkflowData)
    (recipientAddress senderETLD1 : String) : Conversation :=
  ⟨recipientAddress, workflow, discriminator workflow workflowData senderETLD1⟩

/-- What a delivery has learned of its key. -/
inductive Search
  | unsettled
  /-- The lookup was answered: there is no thread. -/
  | missed (accountId key : String)
deriving DecidableEq, Repr

def Search.next (q : Search) : (c : Cmd) → c.Answer → Search
  | .db (.queryThreadsByGroupingKey accountId key), answer =>
    match (answer : Except Shared.DbError (List Thread)) with
    | .ok [] => .missed accountId key
    | _ => .unsettled
  | .db (.putNewThread _), _ => .unsettled
  | _, _ => q

def watch : Monitor Cmd Cmd.Answer Fate Search where
  allow _ _ := True
  next q c _ answer := q.next c answer

abbrev Deliveries := Pool Cmd Cmd.Answer (Except IngestError Unit) Search World

/-- The thread carries the key. -/
def Carries (w : World) (accountId key id : String) : Prop :=
  ∃ thread, w.table.threads.get (accountId, id) = some thread ∧ thread.groupingKey = some key

def OneThreadPerKey (w : World) : Prop :=
  ∀ accountId key id id', Carries w accountId key id → Carries w accountId key id' → id = id'

/-- A thread with a key is created by a delivery whose lookup of the key was answered, while no
other delivery in progress has found the key without a thread. -/
def InTurn (i : Nat) (q : Search) (c : Cmd) (fate : Fate) (w : World)
    (views : List (Search × Bool)) : Prop :=
  match c with
  | .db (.putNewThread thread) => fate ≠ .refused → w.table.threads.get (threadKey thread) = none →
      ∀ key, thread.groupingKey = some key → q = .missed thread.accountId key ∧
        ∀ j, views[j]? = some (.missed thread.accountId key, true) → j = i
  | _ => True

/-- Deliveries of any messages, from the queue or forced. -/
def inTurn (env : Env) : Rules Cmd Cmd.Answer (Except IngestError Unit) World Fate Search where
  spawn prog q _ _ := q = .unsettled ∧
    ∃ msg receiveCount opts, prog = processInbound env msg receiveCount opts
  step i q c fate w views := InTurn i q c fate w views
  crash _ _ _ _ := True

structure Inv (w : World) (views : List (Search × Bool)) : Prop where
  unique : OneThreadPerKey w
  missed : ∀ accountId key, (.missed accountId key, true) ∈ views →
    ∀ id, ¬ Carries w accountId key id

variable {env : Env} {w w' : World} {views : List (Search × Bool)} {accountId key id : String}

theorem Carries.of_threads (h : Carries w' accountId key id)
    (hthreads : w'.table.threads = w.table.threads) : Carries w accountId key id := by
  rw [Carries, hthreads] at h
  exact h

/-- An update of a thread gives it no key. -/
theorem carries_updateThread {account thread : String} {status : ThreadStatus}
    {lastSignalAt now : String} {fields : SignalsTable.UpdateThreadFields} {fate : Fate}
    (h : Carries (settle env (.db (.updateThread account thread status lastSignalAt now fields)) w
      fate).2 accountId key id) : Carries w accountId key id := by
  generalize hstored : (w.table.threads.get (account, thread)).getD
    (SignalsTable.bareThread account thread now) = stored
  have hput (hrow : ∃ row, (w.table.threads.put
      (fields.apply status lastSignalAt now stored)).get (accountId, id) = some row ∧
        row.groupingKey = some key) : Carries w accountId key id := by
    obtain ⟨row, hrow, hkey⟩ := hrow
    have hget := KeyedTable.get_put w.table.threads (fields.apply status lastSignalAt now stored)
      (accountId, id)
    rw [hrow] at hget
    split at hget
    · next hsame =>
      rw [Option.some.inj hget] at hkey
      cases hthread : w.table.threads.get (account, thread) with
      | none =>
        rw [hthread] at hstored
        rw [← hstored] at hkey
        cases hkey
      | some existing =>
        rw [hthread, Option.getD_some] at hstored
        subst hstored
        refine ⟨existing, ?_, hkey⟩
        rw [hsame, show threadKey (fields.apply status lastSignalAt now existing) =
          threadKey existing from rfl, KeyedTable.key_of_get hthread, hthread]
    · exact ⟨row, hget.symm, hkey⟩
  subst hstored
  cases fate with
  | refused => exact h
  | done => exact hput h
  | lost => exact hput h

/-- Only a new thread brings a key. -/
theorem Carries.of_settle {c : Cmd} {fate : Fate} (hc : ∀ thread, c ≠ .db (.putNewThread thread))
    (h : Carries (settle env c w fate).2 accountId key id) : Carries w accountId key id := by
  cases c with
  | db c =>
    cases c with
    | putNewThread thread => exact absurd rfl (hc thread)
    | updateThread => exact carries_updateThread h
    | _ => exact h.of_threads (threads_db (by trivial) env w fate)
  | upsertEmbeddings => cases fate <;> exact h
  | saveIcsContent => cases fate <;> exact h
  | saveResource => cases fate <;> exact h
  | sendMessage => cases fate <;> exact h
  | _ => exact h

/-- A step that brings no key. -/
theorem Inv.quiet (h : Inv w views) {i : Nat} {q : Search} {alive : Bool}
    (hcarries : ∀ accountId key id, Carries w' accountId key id → Carries w accountId key id)
    (hnext : ∀ accountId key, q = .missed accountId key → alive = true →
      ∀ id, ¬ Carries w accountId key id) : Inv w' (views.set i (q, alive)) where
  unique accountId key id id' hid hid' :=
    h.unique accountId key id id' (hcarries _ _ _ hid) (hcarries _ _ _ hid')
  missed accountId key hview id hid := by
    rcases List.mem_or_eq_of_mem_set hview with hview | heq
    · exact h.missed accountId key hview id (hcarries _ _ _ hid)
    · obtain ⟨hq, halive⟩ := Prod.mk.inj heq
      exact hnext accountId key hq.symm halive.symm id (hcarries _ _ _ hid)

/-- A lookup that finds nothing. -/
theorem missed_of_next {q : Search} {c : Cmd} {fate : Fate}
    (hnext : q.next c (settle env c w fate).1 = .missed accountId key) :
    q = .missed accountId key ∨ ∀ id, ¬ Carries w accountId key id := by
  cases c with
  | db c =>
    cases c with
    | queryThreadsByGroupingKey account gkey =>
      right
      rintro id ⟨thread, hthread, hkey⟩
      cases fate with
      | refused => cases hnext
      | lost => cases hnext
      | done =>
        have hrow := KeyedTable.mem_rows_iff.mpr
          (show w.table.threads.get (threadKey thread) = some thread by
            rw [KeyedTable.key_of_get hthread]; exact hthread)
        have haccount : thread.accountId = accountId :=
          congrArg Prod.fst (KeyedTable.key_of_get hthread)
        unfold Search.next at hnext
        dsimp only at hnext
        split at hnext
        · next hempty =>
          cases hnext
          have hnone := Except.ok.inj hempty
          rw [List.filter_eq_nil_iff] at hnone
          exact hnone thread hrow (decide_eq_true ⟨haccount, hkey⟩)
        · cases hnext
    | putNewThread => cases hnext
    | _ => exact .inl hnext
  | _ => exact .inl hnext

/-- A thread is created for a key that no thread carries and that nobody else has missed. -/
theorem Inv.create (h : Inv w views) {i : Nat} {q : Search} {thread : Thread}
    (hq : views[i]? = some (q, true))
    (hturn : ∀ key, thread.groupingKey = some key → q = .missed thread.accountId key ∧
      ∀ j, views[j]? = some (.missed thread.accountId key, true) → j = i) :
    Inv { w with table := { w.table with threads := w.table.threads.put thread } }
      (views.set i (.unsettled, true)) := by
  have hcarries {accountId key id : String}
      (hid : Carries { w with table := { w.table with threads := w.table.threads.put thread } }
        accountId key id) : Carries w accountId key id ∨
          (accountId = thread.accountId ∧ id = thread.id ∧ thread.groupingKey = some key) := by
    obtain ⟨row, hrow, hkey⟩ := hid
    have hget := KeyedTable.get_put w.table.threads thread (accountId, id)
    rw [show (w.table.threads.put thread).get (accountId, id) = some row from hrow] at hget
    split at hget
    · next hsame =>
      rw [Option.some.inj hget] at hkey
      exact .inr ⟨congrArg Prod.fst hsame, congrArg Prod.snd hsame, hkey⟩
    · exact .inl ⟨row, hget.symm, hkey⟩
  have hnone {key : String} (hkey : thread.groupingKey = some key) (id : String) :
      ¬ Carries w thread.accountId key id :=
    h.missed _ _ ((hturn key hkey).1 ▸ List.mem_of_getElem? hq) id
  refine ⟨fun accountId key id id' hid hid' => ?_, fun accountId key hview id hid => ?_⟩
  · obtain hid | ⟨rfl, rfl, hkey⟩ := hcarries hid
    · obtain hid' | ⟨rfl, -, hkey⟩ := hcarries hid'
      · exact h.unique accountId key id id' hid hid'
      · exact absurd hid (hnone hkey id)
    · obtain hid' | ⟨-, rfl, -⟩ := hcarries hid'
      · exact absurd hid' (hnone hkey id')
      · rfl
  · obtain ⟨j, hj⟩ := List.mem_iff_getElem?.mp hview
    have hne : i ≠ j := by
      rintro rfl
      rw [List.getElem?_set_self (List.getElem?_eq_some_iff.mp hq).1] at hj
      cases hj
    rw [List.getElem?_set_ne hne] at hj
    obtain hid | ⟨rfl, rfl, hkey⟩ := hcarries hid
    · exact h.missed accountId key (List.mem_of_getElem? hj) id hid
    · exact hne ((hturn key hkey).2 j hj).symm

theorem inv_putNewThread (h : Inv w views) {i : Nat} {q : Search} {thread : Thread} {fate : Fate}
    (hq : views[i]? = some (q, true))
    (hturn : InTurn i q (.db (.putNewThread thread)) fate w views) :
    Inv (settle env (.db (.putNewThread thread)) w fate).2 (views.set i (.unsettled, true)) := by
  have hsame : Inv w (views.set i (.unsettled, true)) := h.quiet (fun _ _ _ => id) nofun
  cases hthread : w.table.threads.get (threadKey thread) with
  | some existing =>
    obtain ⟨error, hsettle⟩ := settle_putNewThread_there hthread env fate
    rw [hsettle]
    exact hsame
  | none =>
    have hcreate (hfate : fate ≠ .refused) := h.create hq (hturn hfate hthread)
    cases fate with
    | refused => exact hsame
    | done =>
      rw [settle_putNewThread_missing hthread]
      exact hcreate nofun
    | lost =>
      have hsettle : (settle env (.db (.putNewThread thread)) w .lost).2 =
          (settle env (.db (.putNewThread thread)) w .done).2 := rfl
      rw [hsettle, settle_putNewThread_missing hthread]
      exact hcreate nofun

theorem obeys_watch {α : Type} (p : IngestProg α) (q : Search) :
    p.Obeys watch (fun _ _ => True) q := by
  induction p generalizing q with
  | ret => trivial
  | call c k ih => exact ⟨trivial, fun fate answer => ih answer _⟩

theorem keeps_inv : Keeps (service env) watch (fun _ (_ : Except IngestError Unit) => True)
    (inTurn env) Inv where
  spawn w views prog q h hspawn := by
    refine ⟨obeys_watch prog q, h.unique, fun accountId key hview => ?_⟩
    rcases List.mem_append.mp hview with hview | hview
    · exact h.missed accountId key hview
    · rw [hspawn.1] at hview
      exact absurd (List.mem_singleton.mp hview) (by simp)
  step w views i q c fate h hq _ hturn := by
    by_cases hc : ∃ thread, c = .db (.putNewThread thread)
    · obtain ⟨thread, rfl⟩ := hc
      exact @inv_putNewThread env w views h i q thread fate hq hturn
    · refine h.quiet (fun _ _ _ hid => hid.of_settle fun thread heq => hc ⟨thread, heq⟩)
        fun accountId key hnext _ => ?_
      obtain rfl | hnone := missed_of_next hnext
      · exact h.missed accountId key (List.mem_of_getElem? hq)
      · exact hnone
  crash w views i q h _ _ := h.quiet (fun _ _ _ => id) fun _ _ _ halive => nomatch halive

/-- Mails are sign-in codes, and every delivery makes an id of its own. -/
def codeEnv : Env :=
  { greetingEnv with
    answer := fun tick e => match e with
      | .newId => if tick < 13 then "0001xxx" else "0002xxx"
      | .classify _ => .ok ⟨.auth, ⟨.auth, false, []⟩, "A code.", [], []⟩
      | e => greetingEnv.answer tick e }

def arrive (msg : InboundSignalMessage) : Move Cmd Cmd.Answer (Except IngestError Unit) Fate Search :=
  .spawn (processInbound codeEnv msg 1 noOptions) .unsettled

def idle : Deliveries := ⟨aliasWorld, []⟩

def keysOf (pool : Deliveries) : List ((String × String) × Option String) :=
  pool.store.table.threads.rows.map fun thread => (threadKey thread, thread.groupingKey)

end SesEmailAdapter.Processor.GroupingKeys
