import SesEmailAdapter.Lib.Pool
import SesEmailAdapter.Processor.IngestRedelivery

/-! # The threads that deliveries make

Any number of deliveries of one message, interleaved call by call. The thread of a new
conversation is written before the signal, under an id that every delivery makes anew, so a
delivery that stops between the two writes leaves a thread that no signal refers to. -/

namespace SesEmailAdapter.Processor.IngestThreads
open Lib
open SesEmailAdapter.Types Database
open Database.SignalsTable (threadKey signalItem)
open Processor.IngestService Processor.InboundMessage
open Processor.IncomingEmail Processor.IngestStages
open Processor.IngestRuns Processor.IngestRedelivery

/-- An account and a thread id. -/
abbrev ThreadKey := String × String

abbrev Deliveries := Pool Cmd Cmd.Answer (Except IngestError Unit) Stage World

/-- The thread is there, and was not when the run began. -/
def Made (start w : World) (key : ThreadKey) : Prop :=
  (w.table.threads.get key).isSome ∧ start.table.threads.get key = none

/-- The stored signal of the message belongs to the thread. -/
def Refers (msg : InboundSignalMessage) (w : World) (key : ThreadKey) : Prop :=
  ∃ item, rowOf msg key.1 w = some item ∧ item.signal.threadId = some key.2

/-- What the calls of a delivery meet. A thread is made where none was made for the message, and
the write is reported; the signal that belongs to it is saved; and no delivery that read the
message as new before replaces that signal by one of another thread. -/
def InTurn (msg : InboundSignalMessage) (start : World) (q : Stage) (c : Cmd) (fate : Fate)
    (w : World) (views : List (Stage × Bool)) : Prop :=
  match q, c with
  | .fresh .., .db (.putNewThread thread) =>
    fate ≠ .refused → w.table.threads.get (threadKey thread) = none →
      fate = .done ∧ ∀ key, ¬ Made start w key
  | .fresh .., .db (.putSignal signal) =>
    signal.signalLookupId = msg.compositeMailMessageId → fate ≠ .refused →
      ∀ key, Made start w key → key.1 = signal.accountId →
        signal.threadId = some key.2 ∨ (.created key.1 key.2, true) ∈ views
  | .created accountId threadId, .db (.putSignal _) =>
    fate = .refused → Refers msg w (accountId, threadId)
  | _, _ => True

/-- Deliveries of the message from the queue. -/
def apart (env : Env) (msg : InboundSignalMessage) (start : World) :
    Rules Cmd Cmd.Answer (Except IngestError Unit) World Fate Stage where
  spawn prog q _ _ := q = IngestStages.start env msg ∧
    ∃ receiveCount, prog = processInbound env msg receiveCount noOptions
  step _ q c fate w views := InTurn msg start q c fate w views
  crash _ q w _ := ∀ accountId threadId, q = .created accountId threadId →
    Refers msg w (accountId, threadId)

variable {env : Env} {msg : InboundSignalMessage} {start w w' : World}
  {views : List (Stage × Bool)}

/-! ## The invariant -/

/-- Threads are never removed. -/
def KeepsThreads (w w' : World) : Prop :=
  ∀ key, (w.table.threads.get key).isSome → (w'.table.threads.get key).isSome

/-- What a stage promises of the threads. -/
def Sound (start w : World) : Stage → Prop
  | .fresh accountId seen => ∀ id ∈ seen, (w.table.threads.get (accountId, id)).isSome
  | .created accountId threadId => Made start w (accountId, threadId)
  | .stored signal true _ => ∃ threadId, signal.threadId = some threadId ∧
      Made start w (signal.accountId, threadId)
  | _ => True

structure Inv (msg : InboundSignalMessage) (start w : World) (views : List (Stage × Bool)) :
    Prop where
  kept : KeepsThreads start w
  unique : ∀ key key', Made start w key → Made start w key' → key = key'
  referred : ∀ key, Made start w key →
    Refers msg w key ∨ (.created key.1 key.2, true) ∈ views
  sound : ∀ view ∈ views, Sound start w view.1

theorem Made.mono {key : ThreadKey} (h : Made start w key) (hkeeps : KeepsThreads w w') :
    Made start w' key :=
  ⟨hkeeps key h.1, h.2⟩

variable {q : Stage} {signal : Signal} {view : Stage × Bool} {thread : Thread}

theorem Sound.mono (h : Sound start w q) (hkeeps : KeepsThreads w w') :
    Sound start w' q := by
  cases q with
  | fresh accountId seen => exact fun id hid => hkeeps _ (h id hid)
  | created accountId threadId => exact Made.mono h hkeeps
  | stored signal isNew sent =>
    cases isNew with
    | false => trivial
    | true =>
      obtain ⟨threadId, hid, hmade⟩ := h
      exact ⟨threadId, hid, hmade.mono hkeeps⟩
  | _ => trivial

/-- A step that makes no thread and writes no row of the message. A delivery that is past the
write of its thread stops only where the thread has its signal. -/
theorem Inv.quiet (h : Inv msg start w views) {i : Nat}
    (hq : views[i]? = some (q, true)) (hkeeps : KeepsThreads w w')
    (hmade : ∀ key, Made start w' key → Made start w key)
    (hrows : ∀ accountId, rowOf msg accountId w' = rowOf msg accountId w)
    (hnext : Sound start w' view.1) (hleft : ∀ accountId threadId, q = .created accountId threadId →
      Refers msg w (accountId, threadId)) :
    Inv msg start w' (views.set i view) where
  kept key hkey := hkeeps key (h.kept key hkey)
  unique key key' hkey hkey' := h.unique key key' (hmade key hkey) (hmade key' hkey')
  referred key hkey := by
    have hrefers : Refers msg w key → Refers msg w' key := by
      rintro ⟨item, hrow, hid⟩
      exact ⟨item, (hrows _).trans hrow, hid⟩
    rcases h.referred key (hmade key hkey) with hrow | hview
    · exact .inl (hrefers hrow)
    · by_cases heq : (Stage.created key.1 key.2, true) = (q, true)
      · exact .inl (hrefers (hleft _ _ (congrArg Prod.fst heq).symm))
      · exact .inr (mem_set_of_ne hview hq heq)
  sound v hv := by
    rcases List.mem_or_eq_of_mem_set hv with hv | rfl
    · exact (h.sound v hv).mono hkeeps
    · exact hnext

theorem Inv.untouched (h : Inv msg start w views) {i : Nat}
    (hq : views[i]? = some (q, true)) (htable : w'.table = w.table)
    (hnext : Sound start w' view.1) (hleft : ∀ accountId threadId, q = .created accountId threadId →
      Refers msg w (accountId, threadId)) :
    Inv msg start w' (views.set i view) := by
  refine h.quiet hq (fun key hkey => ?_) (fun key hkey => ?_) (fun accountId => ?_) hnext hleft
  · rw [htable]
    exact hkey
  · rw [Made, htable] at hkey
    exact hkey
  · rw [rowOf, rowOf, htable]

/-! ## What calls do to the threads -/

theorem table_accounts (c : AccountsTable.Cmd) (w : World) (fate : Fate) :
    (settle env (.accounts c) w fate).2.table = w.table := rfl

/-- Requests that write no thread. -/
def SparesThreads : SignalsTable.Cmd → Prop
  | .putNewThread _ => False
  | .updateThread .. => False
  | _ => True

theorem threads_db {c : SignalsTable.Cmd} (h : SparesThreads c) (env : Env) (w : World)
    (fate : Fate) :
    (settle env (.db c) w fate).2.table.threads = w.table.threads := by
  have hexec : (SignalsTable.exec c w.table).2.threads = w.table.threads := by
    cases c with
    | putNewThread => exact h.elim
    | updateThread => exact h.elim
    | putCalendarEvent =>
      simp only [SignalsTable.exec]
      split <;> rfl
    | setCalendarEventRsvp =>
      simp only [SignalsTable.exec, SignalsTable.Store.updateItem]
      split <;> rfl
    | updateSendStatus =>
      simp only [SignalsTable.exec, SignalsTable.Store.updateItem]
      split <;> rfl
    | updateSignal =>
      simp only [SignalsTable.exec, SignalsTable.Store.updateItem]
      split <;> rfl
    | _ => rfl
  rcases settleRequest_store SignalsTable.exec SignalsTable.failure c w.table fate with hs | hs
  · exact congrArg SignalsTable.Store.threads hs
  · exact (congrArg SignalsTable.Store.threads hs).trans hexec

/-- An update of a thread that is there makes none. -/
theorem threads_updateThread {accountId id : String}
    (hthere : (w.table.threads.get (accountId, id)).isSome) (env : Env) (status : ThreadStatus)
    (lastSignalAt now : String) (fields : SignalsTable.UpdateThreadFields) (fate : Fate)
    (key : ThreadKey) :
    ((settle env (.db (.updateThread accountId id status lastSignalAt now fields)) w
      fate).2.table.threads.get key).isSome = (w.table.threads.get key).isSome := by
  obtain ⟨thread, hthread⟩ := Option.isSome_iff_exists.mp hthere
  have hkey : threadKey (fields.apply status lastSignalAt now thread) = (accountId, id) :=
    show threadKey thread = _ from KeyedTable.key_of_get hthread
  have hexec :
      ((w.table.threads.put (fields.apply status lastSignalAt now thread)).get key).isSome =
        (w.table.threads.get key).isSome := by
    rw [KeyedTable.get_put, hkey]
    split
    case isTrue heq =>
      rw [heq, hthread]
      rfl
    case isFalse => rfl
  cases fate with
  | refused => rfl
  | done =>
    simp only [settle, SignalsTable.settle, settleRequest, SignalsTable.exec, hthread,
      Option.getD_some]
    exact hexec
  | lost =>
    simp only [settle, SignalsTable.settle, settleRequest, SignalsTable.exec, hthread,
      Option.getD_some]
    exact hexec

/-! ## One step -/

variable {i : Nat} {c : Cmd} {fate : Fate} {accountId : String} {seen : List String}

/-- A request on the table that writes no thread and no row of the message. -/
theorem Inv.spared (h : Inv msg start w views)
    {c : SignalsTable.Cmd} (hq : views[i]? = some (q, true)) (hthreads : SparesThreads c)
    (hrows : Spares c) (hnext : Sound start (settle env (.db c) w fate).2 view.1)
    (hleft : ∀ accountId threadId, q = .created accountId threadId →
      Refers msg w (accountId, threadId)) :
    Inv msg start (settle env (.db c) w fate).2 (views.set i view) := by
  have hsame := threads_db hthreads env w fate
  refine h.quiet hq (fun key hkey => ?_) (fun key hkey => ?_) (fun accountId => ?_) hnext hleft
  · rw [hsame]
    exact hkey
  · rw [Made, hsame] at hkey
    exact hkey
  · exact rowOf_db hrows fate

theorem sound_afterOwner (owner : Option Domain) : Sound start w (afterOwner owner) := by
  unfold afterOwner
  split <;> trivial

theorem sound_afterAliases (recipientAddress : String) (item : Option Alias) :
    Sound start w (afterAliases env recipientAddress item) := by
  unfold afterAliases
  split
  · trivial
  · split
    · trivial
    · exact sound_afterOwner _

theorem inv_resolving (h : Inv msg start w views) (hq : views[i]? = some (.resolving, true))
    (hallow : (monitor env msg).allow .resolving c) :
    Inv msg start (settle env c w fate).2
      (views.set i ((monitor env msg).next .resolving c fate (settle env c w fate).1, true)) := by
  rcases c with _ | c | _ | _ | _ | _ | _ | _
  case accounts =>
    refine h.untouched hq (table_accounts c w fate) ?_ nofun
    cases c
    case queryAliases address =>
      cases fate with
      | done => exact sound_afterAliases _ _
      | refused => trivial
      | lost => trivial
    all_goals exact hallow.elim
  all_goals exact hallow.elim

theorem inv_unaliased (h : Inv msg start w views) (hq : views[i]? = some (.unaliased, true))
    (hallow : (monitor env msg).allow .unaliased c) :
    Inv msg start (settle env c w fate).2
      (views.set i ((monitor env msg).next .unaliased c fate (settle env c w fate).1, true)) := by
  rcases c with _ | c | _ | _ | _ | _ | _ | _
  case accounts =>
    refine h.untouched hq (table_accounts c w fate) ?_ nofun
    cases c
    case queryDomains domain =>
      cases fate with
      | done => exact sound_afterOwner _
      | refused => trivial
      | lost => trivial
    all_goals exact hallow.elim
  all_goals exact hallow.elim

theorem inv_resolved (h : Inv msg start w views)
    (hq : views[i]? = some (.resolved accountId, true))
    (hallow : (monitor env msg).allow (.resolved accountId) c) :
    Inv msg start (settle env c w fate).2 (views.set i
      ((monitor env msg).next (.resolved accountId) c fate (settle env c w fate).1, true)) := by
  rcases c with c | _ | _ | _ | _ | _ | _ | _
  case db =>
    cases c
    case getSignal account lookupId =>
      refine h.spared (c := .getSignal account lookupId) hq trivial trivial ?_ nofun
      cases fate with
      | refused => trivial
      | lost => trivial
      | done =>
        show Sound start _ (afterLookup env accountId (Option.map _ _))
        cases w.table.signals.get (account, lookupId) with
        | none => exact fun id hid => absurd hid List.not_mem_nil
        | some item => trivial
    all_goals exact hallow.elim
  all_goals exact hallow.elim

theorem inv_resuming {existing : Signal} {sent : Bool} (h : Inv msg start w views)
    (hq : views[i]? = some (.resuming accountId existing sent, true))
    (hallow : (monitor env msg).allow (.resuming accountId existing sent) c) :
    Inv msg start (settle env c w fate).2 (views.set i
      ((monitor env msg).next (.resuming accountId existing sent) c fate (settle env c w fate).1,
        true)) := by
  rcases c with c | _ | e | e | _ | _ | _ | payload
  case db =>
    cases c
    case getThread account id =>
      exact h.spared (c := .getThread account id) hq trivial trivial trivial nofun
    all_goals exact hallow.elim
  case ask => exact h.untouched hq rfl trivial nofun
  case attempt => exact h.untouched hq rfl trivial nofun
  case upsertEmbeddings signal thread =>
    have htable := (tables_elsewhere (c := .upsertEmbeddings signal thread) trivial env w fate).1
    exact h.untouched hq htable trivial nofun
  case sendMessage =>
    have htable := (tables_elsewhere (c := .sendMessage payload) trivial env w fate).1
    refine h.untouched hq htable ?_ nofun
    cases fate <;> trivial
  all_goals exact hallow.elim

theorem keepsThreads_of_table (htable : w'.table.threads = w.table.threads) :
    KeepsThreads w w' := by
  intro key hkey
  rw [htable]
  exact hkey

theorem inv_stored {isNew sent : Bool} (h : Inv msg start w views)
    (hq : views[i]? = some (.stored signal isNew sent, true))
    (hallow : (monitor env msg).allow (.stored signal isNew sent) c) :
    Inv msg start (settle env c w fate).2 (views.set i
      ((monitor env msg).next (.stored signal isNew sent) c fate (settle env c w fate).1,
        true)) := by
  have hsound (sent' : Bool) : Sound start w (.stored signal isNew sent') := by
    have hnow : Sound start w (.stored signal isNew sent) := h.sound _ (List.mem_of_getElem? hq)
    cases isNew <;> exact hnow
  have helsewhere (hc : Elsewhere c) (sent' : Bool) :
      Inv msg start (settle env c w fate).2 (views.set i (.stored signal isNew sent', true)) := by
    have htable := (tables_elsewhere hc env w fate).1
    exact h.untouched hq htable
      ((hsound sent').mono (keepsThreads_of_table (congrArg _ htable))) nofun
  rcases c with c | c | e | e | _ | _ | _ | payload
  case db =>
    have hspares : Spares c ∧ SparesThreads c := by
      cases c
      case getSignal => exact ⟨trivial, trivial⟩
      case putSignal => exact ⟨hallow, trivial⟩
      case putCalendarEvent => exact ⟨hallow, trivial⟩
      all_goals exact hallow.elim
    exact h.spared hq hspares.2 hspares.1
      ((hsound sent).mono (keepsThreads_of_table (threads_db hspares.2 env w fate))) nofun
  case accounts => exact hallow.elim
  case sendMessage => cases fate <;> exact helsewhere trivial _
  all_goals exact helsewhere trivial sent

/-- The row of the message in the account of a signal that is saved. -/
theorem rowOf_putSignal
    (hlookup : signal.signalLookupId = msg.compositeMailMessageId) (hfate : fate ≠ .refused)
    (accountId : String) :
    rowOf msg accountId (settle env (.db (.putSignal signal)) w fate).2 =
      if accountId = signal.accountId then some (signalItem signal) else rowOf msg accountId w := by
  have hstore : (settle env (.db (.putSignal signal)) w fate).2.table =
      w.table.saveItem signal := by
    cases fate with
    | done => rfl
    | refused => exact absurd rfl hfate
    | lost => rfl
  rw [rowOf, hstore]
  refine (KeyedTable.get_put _ _ _).trans ?_
  by_cases haccount : accountId = signal.accountId
  · rw [if_pos haccount, if_pos (Prod.ext haccount hlookup.symm)]
  · rw [if_neg haccount, if_neg fun hkey => haccount (congrArg Prod.fst hkey)]
    rfl

/-- The signal of the message is saved. The threads made are its own, in another account, or still
to be given their signal. -/
theorem Inv.saved (h : Inv msg start w views) {isNew : Bool}
    (hq : views[i]? = some (q, true)) (hlookup : signal.signalLookupId = msg.compositeMailMessageId)
    (hfate : fate ≠ .refused) (hthreads : ∀ key, Made start w key →
      (key.1 = signal.accountId ∧ signal.threadId = some key.2) ∨
        (key.1 ≠ signal.accountId ∧ Refers msg w key) ∨
        ((.created key.1 key.2, true) ∈ views ∧ q ≠ .created key.1 key.2))
    (hsound : Sound start w (.stored signal isNew false)) :
    Inv msg start (settle env (.db (.putSignal signal)) w fate).2
      (views.set i (.stored signal isNew false, true)) := by
  have hsame := threads_db (c := .putSignal signal) trivial env w fate
  have hkeeps := keepsThreads_of_table hsame
  have hmade {key : ThreadKey}
      (hkey : Made start (settle env (.db (.putSignal signal)) w fate).2 key) :
      Made start w key := by
    rw [Made, hsame] at hkey
    exact hkey
  refine ⟨fun key hkey => hkeeps key (h.kept key hkey),
    fun key key' hkey hkey' => h.unique key key' (hmade hkey) (hmade hkey'),
    fun key hkey => ?_, fun v hv => ?_⟩
  · rcases hthreads key (hmade hkey) with
      ⟨haccount, hid⟩ | ⟨haccount, item, hrow, hid⟩ | ⟨hview, hne⟩
    · refine .inl ⟨signalItem signal, ?_, hid⟩
      rw [rowOf_putSignal hlookup hfate, if_pos haccount]
    · refine .inl ⟨item, ?_, hid⟩
      rw [rowOf_putSignal hlookup hfate, if_neg haccount, hrow]
    · exact .inr (mem_set_of_ne hview hq fun heq => hne (congrArg Prod.fst heq).symm)
  · rcases List.mem_or_eq_of_mem_set hv with hv | rfl
    · exact (h.sound v hv).mono hkeeps
    · exact hsound.mono hkeeps

theorem inv_created {threadId : String} (h : Inv msg start w views)
    (hq : views[i]? = some (.created accountId threadId, true))
    (hallow : (monitor env msg).allow (.created accountId threadId) c)
    (hturn : InTurn msg start (.created accountId threadId) c fate w views) :
    Inv msg start (settle env c w fate).2 (views.set i
      ((monitor env msg).next (.created accountId threadId) c fate (settle env c w fate).1,
        true)) := by
  have hmade : Made start w (accountId, threadId) := h.sound _ (List.mem_of_getElem? hq)
  rcases c with c | _ | _ | _ | _ | _ | _ | _
  case db =>
    cases c
    case putSignal signal =>
      obtain ⟨⟨rfl, hlookup⟩, hid⟩ := hallow
      by_cases hfate : fate = .refused
      · subst hfate
        refine h.untouched hq rfl trivial fun account id heq => ?_
        cases heq
        exact hturn rfl
      · have hwritten := (@written_iff env w signal fate).mpr hfate
        have hnext : (monitor env msg).next (.created signal.accountId threadId)
            (.db (.putSignal signal)) fate (settle env (.db (.putSignal signal)) w fate).1 =
              .stored signal true false := if_pos hwritten
        rw [hnext]
        refine h.saved hq hlookup hfate (fun key hkey => .inl ?_) ⟨threadId, hid, hmade⟩
        rw [h.unique key _ hkey hmade]
        exact ⟨rfl, hid⟩
    all_goals exact hallow.elim
  all_goals exact hallow.elim

theorem settle_putNewThread_there {thread existing : Thread}
    (h : w.table.threads.get (threadKey thread) = some existing) (env : Env) (fate : Fate) :
    ∃ error, settle env (.db (.putNewThread thread)) w fate = (.error error, w) := by
  have hexec : SignalsTable.exec (.putNewThread thread) w.table =
      (.error .conditionFailed, w.table) := by
    simp only [SignalsTable.exec]
    rw [show w.table.threads.get (thread.accountId, thread.id) = some existing from h]
  cases fate with
  | done =>
    refine ⟨.conditionFailed, ?_⟩
    simp only [settle, SignalsTable.settle, settleRequest, hexec]
  | refused => exact ⟨_, rfl⟩
  | lost =>
    refine ⟨.db SignalsTable.requestFailed, ?_⟩
    simp only [settle, SignalsTable.settle, settleRequest, hexec]
    rfl

theorem settle_putNewThread_missing
    (h : w.table.threads.get (threadKey thread) = none) (env : Env) :
    settle env (.db (.putNewThread thread)) w .done =
      (.ok (), { w with table := { w.table with threads := w.table.threads.put thread } }) := by
  have hexec : SignalsTable.exec (.putNewThread thread) w.table =
      (.ok (), { w.table with threads := w.table.threads.put thread }) := by
    simp only [SignalsTable.exec]
    rw [show w.table.threads.get (thread.accountId, thread.id) = none from h]
  simp only [settle, SignalsTable.settle, settleRequest, hexec]

/-- The first thread is made, by a delivery that goes on to save its signal. -/
theorem Inv.make (h : Inv msg start w views)
    (hq : views[i]? = some (q, true)) (hnone : ∀ key, ¬ Made start w key)
    (hmissing : w.table.threads.get (threadKey thread) = none) :
    Inv msg start { w with table := { w.table with threads := w.table.threads.put thread } }
      (views.set i (.created thread.accountId thread.id, true)) := by
  have hget (key : ThreadKey) : (w.table.threads.put thread).get key =
      if key = threadKey thread then some thread else w.table.threads.get key :=
    KeyedTable.get_put _ _ _
  have hkeeps : KeepsThreads w
      { w with table := { w.table with threads := w.table.threads.put thread } } := by
    intro key hkey
    show ((w.table.threads.put thread).get key).isSome
    rw [hget]
    split
    · rfl
    · exact hkey
  have hnew : Made start { w with table := { w.table with threads := w.table.threads.put thread } }
      (threadKey thread) := by
    refine ⟨by
      show ((w.table.threads.put thread).get _).isSome
      rw [hget, if_pos rfl]
      rfl, ?_⟩
    cases hstart : start.table.threads.get (threadKey thread) with
    | none => rfl
    | some existing =>
      have hthere := h.kept (threadKey thread) (by rw [hstart]; rfl)
      rw [hmissing] at hthere
      cases hthere
  have honly (key : ThreadKey) (hkey : Made start
      { w with table := { w.table with threads := w.table.threads.put thread } } key) :
      key = threadKey thread := by
    by_contra hne
    refine hnone key ⟨?_, hkey.2⟩
    have hthere : ((w.table.threads.put thread).get key).isSome := hkey.1
    rw [hget, if_neg hne] at hthere
    exact hthere
  refine ⟨fun key hkey => hkeeps key (h.kept key hkey), fun key key' hkey hkey' => ?_,
    fun key hkey => .inr ?_, fun v hv => ?_⟩
  · rw [honly key hkey, honly key' hkey']
  · rw [honly key hkey]
    exact List.mem_set (List.getElem?_eq_some_iff.mp hq).1 _
  · rcases List.mem_or_eq_of_mem_set hv with hv | rfl
    · exact (h.sound v hv).mono hkeeps
    · exact hnew

theorem inv_putNewThread (h : Inv msg start w views)
    (hq : views[i]? = some (.fresh accountId seen, true)) (haccount : thread.accountId = accountId)
    (hturn : InTurn msg start (.fresh accountId seen) (.db (.putNewThread thread)) fate w views) :
    Inv msg start (settle env (.db (.putNewThread thread)) w fate).2 (views.set i
      ((monitor env msg).next (.fresh accountId seen) (.db (.putNewThread thread)) fate
        (settle env (.db (.putNewThread thread)) w fate).1, true)) := by
  have hsound : Sound start w (.fresh accountId seen) := h.sound _ (List.mem_of_getElem? hq)
  cases hthread : w.table.threads.get (threadKey thread) with
  | some existing =>
    obtain ⟨error, hsettle⟩ := settle_putNewThread_there hthread env fate
    rw [hsettle]
    exact h.untouched hq rfl hsound nofun
  | none =>
    by_cases hfate : fate = .refused
    · subst hfate
      exact h.untouched hq rfl hsound nofun
    · obtain ⟨rfl, hnone⟩ := hturn hfate hthread
      rw [settle_putNewThread_missing hthread, ← haccount]
      exact h.make hq hnone hthread

/-- The signal of a fresh delivery is saved, or a signal that is not of the message. -/
theorem inv_putSignal (h : Inv msg start w views)
    (hq : views[i]? = some (.fresh accountId seen, true))
    (hallow : (monitor env msg).allow (.fresh accountId seen) (.db (.putSignal signal)))
    (hturn : InTurn msg start (.fresh accountId seen) (.db (.putSignal signal)) fate w views) :
    Inv msg start (settle env (.db (.putSignal signal)) w fate).2 (views.set i
      ((monitor env msg).next (.fresh accountId seen) (.db (.putSignal signal)) fate
        (settle env (.db (.putSignal signal)) w fate).1, true)) := by
  have hsound : Sound start w (.fresh accountId seen) := h.sound _ (List.mem_of_getElem? hq)
  show Inv msg start _ (views.set i ((if _ then _ else _), true))
  split
  case isTrue hwritten =>
    obtain ⟨hlookup, hwritten⟩ := hwritten
    have hfate := (written_iff signal fate).mp hwritten
    refine h.saved hq hlookup hfate (fun key hkey => ?_) trivial
    by_cases haccount : key.1 = signal.accountId
    · rcases hturn hlookup hfate key hkey haccount with hid | hview
      · exact .inl ⟨haccount, hid⟩
      · exact .inr (.inr ⟨hview, nofun⟩)
    · rcases h.referred key hkey with hrefers | hview
      · exact .inr (.inl ⟨haccount, hrefers⟩)
      · exact .inr (.inr ⟨hview, nofun⟩)
  case isFalse hnot =>
    by_cases hfate : fate = .refused
    · subst hfate
      exact h.untouched hq rfl hsound nofun
    · have hlookup : signal.signalLookupId ≠ msg.compositeMailMessageId := fun hlookup =>
        hnot ⟨hlookup, (written_iff signal fate).mpr hfate⟩
      have hown : isOwnLookupId signal.signalLookupId :=
        hallow.resolve_right fun hsignal => hlookup hsignal.1.2
      have hsame := threads_db (c := .putSignal signal) trivial env w fate
      exact h.spared (c := .putSignal signal) hq trivial hown
        (hsound.mono (keepsThreads_of_table hsame)) nofun

theorem inv_fresh (h : Inv msg start w views)
    (hq : views[i]? = some (.fresh accountId seen, true))
    (hallow : (monitor env msg).allow (.fresh accountId seen) c)
    (hturn : InTurn msg start (.fresh accountId seen) c fate w views) :
    Inv msg start (settle env c w fate).2 (views.set i
      ((monitor env msg).next (.fresh accountId seen) c fate (settle env c w fate).1, true)) := by
  have hsound : Sound start w (.fresh accountId seen) := h.sound _ (List.mem_of_getElem? hq)
  rcases c with c | c | _ | _ | _ | _ | _ | _
  case ask => exact h.untouched hq rfl hsound nofun
  case attempt => exact h.untouched hq rfl hsound nofun
  case accounts =>
    refine h.untouched hq (table_accounts c w fate) ?_ nofun
    cases c <;> exact hsound
  case db =>
    cases c
    case putNewThread thread => exact inv_putNewThread h hq hallow hturn
    case putSignal signal => exact inv_putSignal h hq hallow hturn
    case querySignalsByGsi3 gsi3pk =>
      have hsame := threads_db (c := .querySignalsByGsi3 gsi3pk) trivial env w fate
      exact h.spared (c := .querySignalsByGsi3 gsi3pk) hq trivial trivial
        (hsound.mono (keepsThreads_of_table hsame)) nofun
    case queryThreadsByGroupingKey account key =>
      obtain rfl : account = accountId := hallow
      refine h.spared (c := .queryThreadsByGroupingKey account key) hq trivial trivial ?_ nofun
      cases fate with
      | refused => exact hsound
      | lost => exact hsound
      | done =>
        intro id hid
        rcases List.mem_append.mp hid with hid | hid
        · obtain ⟨thread, hmem, rfl⟩ := List.mem_map.mp hid
          obtain ⟨hrow, hkey⟩ := List.mem_filter.mp hmem
          rw [decide_eq_true_eq] at hkey
          have hget := KeyedTable.mem_rows_iff.mp hrow
          rw [threadKey, hkey.1] at hget
          show (w.table.threads.get (account, thread.id)).isSome
          rw [hget]
          rfl
        · exact hsound id hid
    case getThread account id =>
      obtain rfl : account = accountId := hallow
      refine h.spared (c := .getThread account id) hq trivial trivial ?_ nofun
      cases fate with
      | refused => exact hsound
      | lost => exact hsound
      | done =>
        show Sound start w ((monitor env msg).next _ (.db (.getThread account id)) .done
          (Except.ok (w.table.threads.get (account, id)) : Except Shared.DbError (Option Thread)))
        cases hthread : w.table.threads.get (account, id) with
        | none => exact hsound
        | some thread =>
          have hid : thread.id = id := congrArg Prod.snd (KeyedTable.key_of_get hthread)
          intro other hother
          rw [hid] at hother
          simp only [List.mem_cons, or_self_left] at hother
          rcases hother with rfl | hother
          · rw [hthread]
            rfl
          · exact hsound other hother
    case updateThread account id status lastSignalAt now fields =>
      obtain ⟨rfl, hid⟩ := hallow
      have hsame := threads_updateThread (hsound id hid) env status lastSignalAt now fields fate
      have hkeeps : KeepsThreads w (settle env
          (.db (.updateThread account id status lastSignalAt now fields)) w fate).2 := by
        intro key hkey
        rw [hsame]
        exact hkey
      refine h.quiet hq hkeeps (fun key hkey => ?_) (fun accountId => ?_) (hsound.mono hkeeps) nofun
      · rw [Made, hsame] at hkey
        exact hkey
      · exact rowOf_db (c := .updateThread account id status lastSignalAt now fields) trivial fate
    all_goals exact hallow.elim
  all_goals exact hallow.elim

/-! ## Runs -/

theorem keeps_inv : Lib.Keeps (service env) (monitor env msg)
    (fun q (_ : Except IngestError Unit) => q.Settled) (apart env msg start) (Inv msg start) where
  spawn w views prog q h hspawn := by
    obtain ⟨rfl, receiveCount, rfl⟩ := hspawn
    refine ⟨(obeys_processInbound rfl).mono fun _ _ hend => hend.1, h.kept, h.unique,
      fun key hkey => ?_, fun v hv => ?_⟩
    · exact (h.referred key hkey).imp_right fun hview => List.mem_append.mpr (.inl hview)
    · rcases List.mem_append.mp hv with hv | hv
      · exact h.sound v hv
      · rw [List.mem_singleton.mp hv]
        unfold IngestStages.start
        split <;> trivial
  step w views i q c fate h hq hallow hturn := by
    cases q with
    | resolving => exact inv_resolving h hq hallow
    | unaliased => exact inv_unaliased h hq hallow
    | resolved => exact inv_resolved h hq hallow
    | fresh => exact inv_fresh h hq hallow hturn
    | created => exact inv_created h hq hallow hturn
    | orphaned => exact hallow.elim
    | stored => exact inv_stored h hq hallow
    | resuming => exact inv_resuming h hq hallow
  crash w views i q h hq hcrash :=
    h.untouched hq rfl (h.sound (q, true) (List.mem_of_getElem? hq)) hcrash

theorem inv_start (start : World) : Inv msg start start [] where
  kept _ hkey := hkey
  unique _ _ hkey := by
    have hthere := hkey.1
    rw [hkey.2] at hthere
    cases hthere
  referred _ hkey := by
    have hthere := hkey.1
    rw [hkey.2] at hthere
    cases hthere
  sound _ hv := absurd hv List.not_mem_nil

def greeting : SanitizedEmail where
  parsed := ⟨⟨"ann@org.test", none⟩, [⟨"me@example.com", none⟩], "Hello", [], [], none,
    some "Hello", none⟩
  bounce := none
  assets := []
  links := []

/-- Mails are conversations, and every delivery makes an id of its own. -/
def greetingEnv : Env :=
  { quietEnv with
    answer := fun tick e => match e with
      | .newId => if tick < 10 then "0001xxx" else "0002xxx"
      | .sanitize .. => .ok greeting
      | .classify _ => .ok ⟨.conversation, ⟨.conversation, false, []⟩, "Greets.", [], []⟩
      | e => quietEnv.answer tick e }

def greetingMail : InboundSignalMessage := { spoofedMail with dkimVerdict := .pass }

abbrev DeliveryMove := Move Cmd Cmd.Answer (Except IngestError Unit) Fate Stage

def arrive (receiveCount : Nat) : DeliveryMove :=
  .spawn (processInbound greetingEnv greetingMail receiveCount noOptions)
    (IngestStages.start greetingEnv greetingMail)

def noDeliveries : Deliveries := ⟨aliasWorld, []⟩

/-- Which deliveries succeeded, and the threads. -/
def reported (pool : Deliveries) : List Bool × List ThreadKey :=
  (pool.tasks.map fun task => match task.prog with
      | .ret (.ok ()) => true
      | _ => false,
    pool.store.table.threads.rows.map threadKey)

end SesEmailAdapter.Processor.IngestThreads
