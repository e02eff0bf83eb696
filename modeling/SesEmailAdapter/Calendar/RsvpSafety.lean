import SesEmailAdapter.Calendar.ProxyUids

/-! # Answers are relayed for invites that ask for them

What a delivery of a message relays and records rests on a reply with the proxy UID of a stored
invite. Every delivery attempts every attachment, whatever the others come to. -/

namespace SesEmailAdapter.Calendar.RsvpSafety
open Lib
open SesEmailAdapter.Types Database Database.Shared
open Database.SignalsTable (RsvpUpdate SignalPartition)
open Database.ThreadDatabase
open Email Email.SendPaths Email.Service
open Notifier.ReplySender (ReplySendError)
open Calendar.EventStore
open Calendar.RsvpRaces (SentRsvp RowKey)
open Processor.DraftSendWorker (SendReceipt Turn)
open Processor.OutboundService (mailAnswer)
open Calendar.RsvpReplies Calendar.ProxyUids

/-! ## A delivery keeps them safe -/

section Keeps

variable {env : Env} {s3Key : String} {w : World} {α β : Type}

/-- Whatever the turns are, every relay and every record of the program rests on an answer. -/
abbrev Keeps (env : Env) (s3Key : String) (p : RsvpProg α) (w : World) : Prop :=
  p.Leads (service env) (fun _ => True) (fun _ => Safe env s3Key) w

theorem keeps_ret (a : α) (hs : Safe env s3Key w) : Keeps env s3Key (.ret a : RsvpProg α) w :=
  ⟨hs, fun _ => hs⟩

theorem keeps_bind {p : RsvpProg α} {f : α → RsvpProg β}
    (h : p.Leads (service env) (fun _ => True)
      (fun r w => Safe env s3Key w ∧ ∀ a, r = some a → Keeps env s3Key (f a) w) w) :
    Keeps env s3Key (p >>= f) w := by
  refine Prog.Leads.bind (h.mono fun r w hr => ?_)
  cases r with
  | none => exact hr.1
  | some a => exact hr.2 a rfl

/-- A read of the table answers what it holds, or fails. -/
theorem keeps_read {c : SignalsTable.Cmd} {k : c.Answer → RsvpProg α}
    (hread : ∀ s, (SignalsTable.exec c s).2 = s)
    (hset : ∀ turn table, w.write turn table c = { w with table }) (hs : Safe env s3Key w)
    (hnext : ∀ r, r = SignalsTable.failure c ∨ r = (SignalsTable.exec c w.table).1 →
      Keeps env s3Key (k r) w) : Keeps env s3Key (.call (.db c) k) w := by
  refine ⟨fun _ => hs, fun turn _ => ?_⟩
  show Keeps env s3Key (k (SignalsTable.settle c w.table turn.fate).1)
    (w.write turn (SignalsTable.settle c w.table turn.fate).2 c)
  have htable : (SignalsTable.settle c w.table turn.fate).2 = w.table := by
    obtain h | h := settleRequest_store SignalsTable.exec SignalsTable.failure c w.table turn.fate
    · exact h
    · exact h.trans (hread _)
  rw [htable, hset]
  cases turn.fate with
  | done => exact hnext _ (.inr rfl)
  | refused => exact hnext _ (.inl rfl)
  | lost => exact hnext _ (.inl rfl)

/-- The signals of a partition, as a program reads them. -/
theorem querySignals_keeps {accountId : String} {partition : SignalPartition}
    {k : Except DbError (List Signal) → RsvpProg α} (hs : Safe env s3Key w)
    (hfailed : ∀ error, Keeps env s3Key (k (.error error)) w)
    (hitems : Keeps env s3Key (k (.ok (w.table.signalsIn accountId partition))) w) :
    Keeps env s3Key (.call (.db (.querySignals accountId partition)) k) w := by
  refine keeps_read (fun _ => rfl) (fun _ _ => rfl) hs fun answer hanswer => ?_
  obtain rfl | rfl := hanswer
  · exact hfailed _
  · exact hitems

/-- A program that goes on with the winning invite, if there is one. -/
theorem of_winner {P : RsvpProg (Except ReplySendError Unit) → Prop}
    {o : Option CalendarEventSignal} {lost : RsvpProg (Except ReplySendError Unit)}
    {won : CalendarEventSignal → RsvpProg (Except ReplySendError Unit)} :
    (o = none → P lost) → (∀ winner, o = some winner → P (won winner)) →
      P (match o with
        | none => lost
        | some winner => won winner) := by
  intro hlost hwon
  cases o with
  | none => exact hlost rfl
  | some winner => exact hwon winner rfl

theorem isRelayed_iff {invite : CalendarEventData} :
    isRelayed invite (invite.method = "CANCEL") = true ↔ AsksForReply invite := by
  unfold isRelayed AsksForReply
  simp only [decide_eq_true_eq]
  tauto

variable {α : Type} {opts : SendOptions}

/-- What an answer is relayed by. -/
theorem sendRsvpToOrganizer_eq_some {invite : CalendarEventData} {fromAddress accountId : String}
    (h : sendRsvpToOrganizer invite (invite.method = "CANCEL") fromAddress accountId = some opts) :
    AsksForReply invite ∧ opts.toAddresses = [invite.organizer] ∧
      opts.fromSender = some fromAddress ∧ opts.accountId = accountId := by
  unfold sendRsvpToOrganizer at h
  split at h
  · next hrelayed =>
    cases h
    exact ⟨isRelayed_iff.mp hrelayed, rfl, rfl, rfl⟩
  · cases h

/-- A call whose answer does not matter for what holds afterwards. -/
theorem leads_call {Q : Option α → World → Prop} {c : Cmd} {k : c.Answer → RsvpProg α}
    (hcrash : Q none w)
    (hnext : ∀ turn r, (k r).Leads (service env) (fun _ => True) Q (settle env c w turn).2) :
    (Prog.call c k).Leads (service env) (fun _ => True) Q w :=
  ⟨fun _ => hcrash, fun turn _ => hnext turn _⟩

theorem leads_ret {Q : Option α → World → Prop} {a : α} (h : ∀ r, Q r w) :
    (Prog.ret a : RsvpProg α).Leads (service env) (fun _ => True) Q w :=
  ⟨h _, fun _ => h _⟩

variable {rsvp : ValidatedRsvp} {winner : CalendarEventSignal} {attachments : List IcsAttachment}

theorem settle_send (ha : Answers env s3Key w.table rsvp winner)
    (hopts : sendRsvpToOrganizer winner.data (winner.data.method = "CANCEL")
      (storedAlias env w.table rsvp winner) rsvp.accountId = some opts)
    (hs : Safe env s3Key w) (turn : Turn) :
    Safe env s3Key (settle env (.send opts) w turn).2 ∧
      (settle env (.send opts) w turn).2.table = w.table := by
  obtain ⟨hasks, hto, hfrom, htenant⟩ := sendRsvpToOrganizer_eq_some hopts
  have hrelayed : Safe env s3Key { w with relayed := ⟨opts, w.table⟩ :: w.relayed } := by
    refine ⟨fun relay hrelay => ?_, hs.recorded⟩
    obtain rfl | hrelay := List.mem_cons.mp hrelay
    · exact ⟨rsvp, winner, ha, hasks, hto, hfrom, htenant⟩
    · exact hs.relayed relay hrelay
  simp only [settle]
  split
  · exact ⟨hs, rfl⟩
  · by_cases hhands : turn.hands = true
    · rw [if_pos hhands]
      exact ⟨hrelayed, rfl⟩
    · rw [if_neg hhands]
      exact ⟨hs, rfl⟩

theorem sendRsvp_leads (ha : Answers env s3Key w.table rsvp winner) (hs : Safe env s3Key w) :
    (sendRsvp env winner.data (storedAlias env w.table rsvp winner) rsvp.accountId).Leads
      (service env) (fun _ => True) (fun _ w' => Safe env s3Key w' ∧ w'.table = w.table) w := by
  unfold sendRsvp
  split
  · exact leads_ret fun _ => ⟨hs, rfl⟩
  · next opts hopts =>
    refine leads_call ⟨hs, rfl⟩ fun turn answer => ?_
    have hsettled := settle_send ha hopts hs turn
    change Except ReplySendError SendReceipt at answer
    match answer with
    | .ok receipt =>
      show Prog.Leads _ _ _ (ite (receipt.messageId = "") _ _) _
      split
      · exact leads_ret fun _ => hsettled
      · exact leads_ret fun _ => hsettled
    | .error error => cases error <;> exact leads_ret fun _ => hsettled

theorem settle_setCalendarEventRsvp
    (update : RsvpUpdate) (ha : Answers env s3Key w.table rsvp winner)
    (hdecision : update.rsvpResponse.decision = rsvp.decision) (hs : Safe env s3Key w)
    (turn : Turn) :
    Safe env s3Key (settle env (.db (.setCalendarEventRsvp rsvp.accountId
      winner.signal.signalLookupId update)) w turn).2 := by
  simp only [settle, World.write]
  split
  · refine ⟨hs.relayed, fun entry hentry => ?_⟩
    obtain rfl | hentry := List.mem_cons.mp hentry
    · exact ⟨rsvp, winner, ha, rfl, hdecision⟩
    · exact hs.recorded entry hentry
  · exact ⟨hs.relayed, hs.recorded⟩

theorem recordRsvp_keeps (sent : Option SentRsvp) (ha : Answers env s3Key w.table rsvp winner)
    (hs : Safe env s3Key w) : Keeps env s3Key (recordRsvp rsvp winner sent) w := by
  refine leads_call hs fun _ respondedAt => ?_
  have hs' : Safe env s3Key { w with tick := w.tick + 1 } := ⟨hs.relayed, hs.recorded⟩
  refine leads_call hs' fun turn answer => ?_
  have hset := settle_setCalendarEventRsvp (w := { w with tick := w.tick + 1 })
    (RsvpRaces.rsvpUpdate rsvp.accountId ⟨rsvp.decision, respondedAt⟩ sent) ha rfl hs' turn
  change Except SignalsTable.WriteError Unit at answer
  match answer with
  | .ok () => exact leads_ret fun _ => hset
  | .error .conditionFailed => exact leads_ret fun _ => hset
  | .error (.db _) => exact leads_ret fun _ => hset

/-- Relaying and recording an answer. -/
theorem relayRsvp_keeps (ha : Answers env s3Key w.table rsvp winner) (hs : Safe env s3Key w) :
    Keeps env s3Key (relayRsvp env rsvp winner (storedAlias env w.table rsvp winner)) w := by
  refine keeps_bind ((sendRsvp_leads ha hs).mono fun r w' hr => ⟨hr.1, fun result _ => ?_⟩)
  obtain ⟨hs', htable⟩ := hr
  match result with
  | .error _ => exact keeps_ret _ hs'
  | .ok sent => exact recordRsvp_keeps sent (htable ▸ ha) hs'

variable {result : Except ReplySendError Unit} {ics : IcsAttachment}

theorem placeRsvp_keeps (hics : ics ∈ env.rawEmail s3Key) (hauthentic : Authentic env ics rsvp)
    (hs : Safe env s3Key w) : Keeps env s3Key (placeRsvp env rsvp) w := by
  refine keeps_read (c := .getThread _ _) (fun _ => rfl) (fun _ _ => rfl) hs fun thread _ => ?_
  change Except DbError (Option Thread) at thread
  obtain _ | _ | _ := thread
  · exact keeps_ret _ hs
  · exact keeps_ret _ hs
  · refine querySignals_keeps hs (fun _ => keeps_ret _ hs) ?_
    refine of_winner (P := fun p => Keeps env s3Key p w) (o := storedInvite w.table rsvp)
      (fun _ => keeps_ret _ hs) fun winner hwinner => ?_
    refine querySignals_keeps hs (fun _ => keeps_ret _ hs) ?_
    show Keeps env s3Key (ite (storedAlias env w.table rsvp winner = "") _ _) w
    split
    · exact keeps_ret _ hs
    · next halias => exact relayRsvp_keeps ⟨⟨ics, hics, hauthentic⟩, hwinner, halias⟩ hs

/-- What is not accepted claims nothing. -/
theorem leads_unaccepted {P : α → Prop} {r : Except String (Except β α)}
    (hr : ∀ a, r ≠ .ok (.ok a)) (hs : Safe env s3Key w) :
    (Prog.ret r : RsvpProg _).Leads (service env) (fun _ => True)
      (fun r w' => Safe env s3Key w' ∧ ∀ a, r = some (.ok (.ok a)) → P a) w :=
  ⟨⟨hs, fun a h => absurd (Option.some.inj h) (hr a)⟩, fun _ => ⟨hs, fun _ h => by cases h⟩⟩

/-- A proxy UID is accepted only with the HMAC of its parts. -/
theorem validateProxyUid_leads (proxyUid : String) (hs : Safe env s3Key w) :
    (validateProxyUid env proxyUid).Leads (service env) (fun _ => True)
      (fun r w' => Safe env s3Key w' ∧ ∀ uid, r = some (.ok (.ok uid)) →
        proxyUid = buildProxyUid env.hmac16 env.serviceDomain uid.accountId uid.threadId
          uid.originalVeventUid) w := by
  unfold validateProxyUid
  split
  · exact leads_unaccepted (by simp) hs
  · next uid huid =>
    refine ⟨fun _ => ⟨hs, fun _ h => by cases h⟩, fun turn _ => ?_⟩
    have hanswer : settle env (.computeHmac16
          (uidPayload uid.accountId uid.threadId uid.originalVeventUid)) w turn =
        (.ok (env.hmac16 (uidPayload uid.accountId uid.threadId uid.originalVeventUid)), w) ∨
        ∃ reason, settle env (.computeHmac16
          (uidPayload uid.accountId uid.threadId uid.originalVeventUid)) w turn =
        (.error reason, w) := by
      cases turn with
      | missing reason => exact .inr ⟨reason, rfl⟩
      | request _ => exact .inl rfl
      | invalidDomains _ => exact .inl rfl
      | mail _ _ => exact .inl rfl
    simp only [service]
    obtain hanswer | ⟨reason, hanswer⟩ := hanswer
    · rw [hanswer]
      refine ⟨⟨hs, fun uid' h => ?_⟩, fun _ => ⟨hs, fun _ h => by cases h⟩⟩
      have hchecked : (if uid.hmac16 = env.hmac16 (uidPayload uid.accountId uid.threadId
          uid.originalVeventUid) then Except.ok uid else Except.error "hmac mismatch") =
        .ok uid' := Except.ok.inj (Option.some.inj h)
      split at hchecked
      · next hhmac =>
        cases hchecked
        rw [decodeProxyUid_eq_ok huid, hhmac]
        rfl
      · cases hchecked
    · rw [hanswer]
      exact leads_unaccepted (by simp [Except.map]) hs

theorem validateRsvp_leads {data : IcsEvent}
    (hparsed : parseIcs ics = .event data) (hs : Safe env s3Key w) :
    (validateRsvp env data).Leads (service env) (fun _ => True)
      (fun r w' => Safe env s3Key w' ∧ ∀ rsvp, r = some (.ok (.ok rsvp)) →
        Authentic env ics rsvp) w := by
  unfold validateRsvp
  split
  · exact leads_unaccepted (by simp) hs
  · next hmethod =>
    split
    · exact leads_unaccepted (by simp) hs
    · next decision hdecision =>
      refine Prog.Leads.bind ((validateProxyUid_leads data.veventUid hs).mono fun r w' hr => ?_)
      obtain ⟨hs', huid⟩ := hr
      match r with
      | none => exact ⟨hs', fun _ h => by cases h⟩
      | some (.error _) => exact leads_unaccepted (by simp) hs'
      | some (.ok (.error _)) => exact leads_unaccepted (by simp) hs'
      | some (.ok (.ok uid)) =>
        refine ⟨⟨hs', fun rsvp h => ?_⟩, fun _ => ⟨hs', fun _ h => by cases h⟩⟩
        cases h
        exact ⟨data, hparsed, not_not.mp hmethod, hdecision, huid uid rfl⟩

theorem processOneIcs_keeps (hics : ics ∈ env.rawEmail s3Key)
    (hs : Safe env s3Key w) : Keeps env s3Key (processOneIcs env ics) w := by
  unfold processOneIcs
  split
  · exact keeps_ret _ hs
  · exact keeps_ret _ hs
  · next data hparsed =>
    refine keeps_bind ((validateRsvp_leads hparsed hs).mono fun r w' hr => ⟨hr.1, fun v hv => ?_⟩)
    obtain ⟨hs', hauthentic⟩ := hr
    match v with
    | .error _ => exact keeps_ret _ hs'
    | .ok (.error _) => exact keeps_ret _ hs'
    | .ok (.ok rsvp) =>
      refine keeps_bind ((placeRsvp_keeps hics (hauthentic rsvp hv) hs').mono
        fun _ _ hs'' => ⟨hs'', fun _ _ => keeps_ret _ hs''⟩)

theorem processEach_keeps (hall : ∀ ics ∈ attachments, ics ∈ env.rawEmail s3Key)
    (results : List (Except ReplySendError Unit)) (hs : Safe env s3Key w) :
    Keeps env s3Key (processEach env attachments results) w := by
  induction attachments generalizing results w with
  | nil => exact keeps_ret _ hs
  | cons ics attachments ih =>
    refine keeps_bind ((processOneIcs_keeps (hall ics List.mem_cons_self) hs).mono
      fun _ w' hs' => ⟨hs', fun ended _ => ?_⟩)
    match ended with
    | .thrown _ => exact keeps_ret _ hs'
    | .returned _ => exact ih (fun ics' h => hall ics' (List.mem_cons_of_mem _ h)) _ hs'

theorem process_keeps (hs : Safe env s3Key w) : Keeps env s3Key (process env s3Key) w := by
  refine ⟨fun _ => hs, fun turn _ => ?_⟩
  cases turn with
  | missing _ => exact keeps_ret _ hs
  | request _ => exact processEach_keeps (fun _ h => h) [] hs
  | invalidDomains _ => exact processEach_keeps (fun _ h => h) [] hs
  | mail _ _ => exact processEach_keeps (fun _ h => h) [] hs

end Keeps

/-! ## Every attachment is attempted -/

/-- The attachments are processed in order, each where the one before has stopped, and each with
a result. -/
inductive Attempted (env : Env) : List IcsAttachment → Faults Turn → World →
    List (Except ReplySendError Unit) → World → Prop
  | nil (fs : Faults Turn) (w : World) : Attempted env [] fs w [] w
  | cons {ics : IcsAttachment} {attachments : List IcsAttachment} {fs : Faults Turn}
      {w w' : World} {result : Except ReplySendError Unit}
      {results : List (Except ReplySendError Unit)}
      (hresult : ((processOneIcs env ics).run (service env) fs w).result =
        some (.returned result))
      (hrest : Attempted env attachments ((processOneIcs env ics).run (service env) fs w).rest
        ((processOneIcs env ics).run (service env) fs w).store results w') :
      Attempted env (ics :: attachments) fs w (result :: results) w'

/-- The loop goes on with the result of an attachment, and stops where it throws. -/
theorem run_processEach_cons {env : Env}
    {fs : Faults Turn} {w : World} {before : List (Except ReplySendError Unit)}
    (h : ((processEach env (ics :: attachments) before).run (service env) fs w).result =
      some (.returned result)) :
    ∃ first, ((processOneIcs env ics).run (service env) fs w).result = some (.returned first) ∧
      ((processEach env attachments (before ++ [first])).run (service env)
        ((processOneIcs env ics).run (service env) fs w).rest
        ((processOneIcs env ics).run (service env) fs w).store).result = some (.returned result) ∧
      ((processEach env (ics :: attachments) before).run (service env) fs w).store =
        ((processEach env attachments (before ++ [first])).run (service env)
          ((processOneIcs env ics).run (service env) fs w).rest
          ((processOneIcs env ics).run (service env) fs w).store).store := by
  rw [processEach, Prog.run_bind] at h ⊢
  cases hended : ((processOneIcs env ics).run (service env) fs w).result with
  | none =>
    rw [hended] at h
    cases h
  | some ended =>
    rw [hended] at h
    match ended with
    | .returned first => exact ⟨first, rfl, h, rfl⟩
    | .thrown reason => cases Prog.eq_of_run_ret h

theorem attempted_processEach {env : Env} (fs : Faults Turn)
    {w : World} (before : List (Except ReplySendError Unit))
    (h : ((processEach env attachments before).run (service env) fs w).result =
      some (.returned result)) :
    ∃ results, Attempted env attachments fs w results
        ((processEach env attachments before).run (service env) fs w).store ∧
      result = firstError (before ++ results) := by
  induction attachments generalizing fs w before with
  | nil =>
    have hresult := Ended.returned.inj (Prog.eq_of_run_ret h)
    rw [processEach, Prog.pure_eq, Prog.run_ret_store]
    exact ⟨[], .nil fs w, by rw [List.append_nil, hresult]⟩
  | cons ics attachments ih =>
    obtain ⟨first, hfirst, hrest, hstore⟩ := run_processEach_cons h
    obtain ⟨results, hattempted, hresult⟩ := ih _ _ hrest
    refine ⟨first :: results, .cons hfirst ?_, ?_⟩
    · rw [hstore]
      exact hattempted
    · rw [hresult, List.append_assoc]
      rfl

/-- A delivery that returns has read the message and attempted all that it carries. -/
theorem attempted_process {env : Env} {s3Key : String} {fs : Faults Turn} {w : World}
    (h : ((process env s3Key).run (service env) fs w).result = some (.returned result)) :
    ∃ results, Attempted env (env.rawEmail s3Key) fs.tail w results
        ((process env s3Key).run (service env) fs w).store ∧
      result = firstError results := by
  match fs with
  | none :: fs => cases h
  | [] => exact attempted_processEach [] [] h
  | some (.missing _) :: fs =>
    have hthrown : Ended.thrown _ = .returned result := Prog.eq_of_run_ret h
    cases hthrown
  | some (.request _) :: fs => exact attempted_processEach fs [] h
  | some (.invalidDomains _) :: fs => exact attempted_processEach fs [] h
  | some (.mail _ _) :: fs => exact attempted_processEach fs [] h

/-! ## Deliveries of a message -/

/-- A delivery of the message, which finds the table as it then is. -/
def deliver (env : Env) (s3Key : String) (w : World)
    (delivery : SignalsTable.Store × Faults Turn) : World :=
  ((process env s3Key).run (service env) delivery.2 { w with table := delivery.1 }).store

def deliveries (env : Env) (s3Key : String)
    (list : List (SignalsTable.Store × Faults Turn)) : World :=
  list.foldl (deliver env s3Key) ⟨⟨.empty, .empty⟩, [], [], 0⟩

theorem deliveries_safe (env : Env) (s3Key : String)
    (list : List (SignalsTable.Store × Faults Turn)) : Safe env s3Key (deliveries env s3Key list) := by
  have hfold : ∀ w, Safe env s3Key w → Safe env s3Key (list.foldl (deliver env s3Key) w) := by
    induction list with
    | nil => exact fun _ hs => hs
    | cons delivery list ih =>
      intro w hs
      have hs' : Safe env s3Key { w with table := delivery.1 } := ⟨hs.relayed, hs.recorded⟩
      exact ih _ ((process_keeps hs').run trivial delivery.2 fun _ _ => trivial)
  exact hfold _ ⟨by simp, by simp⟩

/-- **Replies are safe.** However often a message is delivered, and whatever goes wrong, a relay
goes to the organizer of a stored invite that an attachment answers and that asks for it, from the
alias of the invite, and a record is of such an answer; and a delivery that returns has attempted
every attachment, and returns the first of their errors. -/
theorem relays_safely (env : Env) (s3Key : String)
    (list : List (SignalsTable.Store × Faults Turn)) :
    Safe env s3Key (deliveries env s3Key list) ∧
      ∀ (table : SignalsTable.Store) (fs : Faults Turn) (result : Except ReplySendError Unit),
        ((process env s3Key).run (service env) fs
          { deliveries env s3Key list with table }).result = some (.returned result) →
        ∃ results, Attempted env (env.rawEmail s3Key) fs.tail
            { deliveries env s3Key list with table } results
            (deliver env s3Key (deliveries env s3Key list) (table, fs)) ∧
          result = firstError results :=
  ⟨deliveries_safe env s3Key list, fun _ _ _ h => attempted_process h⟩

/-! ## What an answer comes to -/

/-- The attachment passes the validation. -/
def Valid (env : Env) (ics : IcsAttachment) (rsvp : ValidatedRsvp) : Prop :=
  ∃ data, parseIcs ics = .event data ∧ data.method.toUpper = "REPLY" ∧
    data.decision = some rsvp.decision ∧
    decodeProxyUid env.serviceDomain data.veventUid = .ok ⟨rsvp.accountId, rsvp.threadId,
      rsvp.originalVeventUid,
      env.hmac16 (uidPayload rsvp.accountId rsvp.threadId rsvp.originalVeventUid)⟩

/-- What an answer has to find to be placed. -/
structure Finds (env : Env) (table : SignalsTable.Store) (rsvp : ValidatedRsvp)
    (winner : CalendarEventSignal) : Prop where
  thread : (table.threads.get (rsvp.accountId, rsvp.threadId)).isSome
  stored : storedInvite table rsvp = some winner
  hasAlias : storedAlias env table rsvp winner ≠ ""

section Placed

variable {env : Env} {w : World} {ics : IcsAttachment} {rsvp : ValidatedRsvp}
  {winner : CalendarEventSignal}

/-- Two runs come to the same. -/
abbrev SameEnd {α : Type} (a b : Outcome World Cmd Turn α) : Prop :=
  a.result = b.result ∧ a.store = b.store

theorem SameEnd.trans {a b c : Outcome World Cmd Turn α} (h : SameEnd a b)
    (h' : SameEnd b c) : SameEnd a c :=
  ⟨h.1.trans h'.1, h.2.trans h'.2⟩

def quiet : Option Turn := some (.request .done)

/-- A program goes on with the answer of its call. -/
theorem run_call {c : Cmd} {k : c.Answer → RsvpProg α} {answer : c.Answer} {w' : World}
    {turn : Turn} (hanswer : settle env c w turn = (answer, w')) (fs : Faults Turn) :
    SameEnd ((Prog.call c k).run (service env) (some turn :: fs) w)
      ((k answer).run (service env) fs w') := by
  show SameEnd { (k (settle env c w turn).1).run (service env) fs (settle env c w turn).2 with
    trace := _ } _
  rw [congrArg Prod.fst hanswer, congrArg Prod.snd hanswer]
  exact ⟨rfl, rfl⟩

/-- What can be placed is relayed. -/
theorem run_placeRsvp (hf : Finds env w.table rsvp winner) (fs : Faults Turn)
    (k : Except ReplySendError Unit → RsvpProg α) :
    SameEnd ((placeRsvp env rsvp >>= k).run (service env) (quiet :: quiet :: quiet :: fs) w)
      ((relayRsvp env rsvp winner (storedAlias env w.table rsvp winner) >>= k).run
        (service env) fs w) := by
  obtain ⟨thread, hthread⟩ := Option.isSome_iff_exists.mp hf.thread
  have hget : settle env (.db (.getThread rsvp.accountId rsvp.threadId)) w (.request .done) =
      (.ok (some thread), w) := by
    rw [← hthread]
    rfl
  have hitems : ∀ partition, settle env (.db (.querySignals rsvp.accountId partition)) w
      (.request .done) = (.ok (w.table.signalsIn rsvp.accountId partition), w) := fun _ => rfl
  refine (run_call hget _).trans ((run_call (hitems _) _).trans ?_)
  refine of_winner (P := fun p => SameEnd ((p.bind k).run (service env) (quiet :: fs) w) _)
    (o := storedInvite w.table rsvp) (fun hnone => ?_) fun found hfound => ?_
  · cases hf.stored.symm.trans hnone
  obtain rfl : winner = found := Option.some.inj (hf.stored.symm.trans hfound)
  refine (run_call (hitems _) _).trans ?_
  show SameEnd ((Prog.bind (ite (storedAlias env w.table rsvp winner = "") _ _) k).run _ _ _) _
  rw [if_neg hf.hasAlias]
  exact ⟨rfl, rfl⟩

/-- The loop goes on to place an answer that is valid. -/
theorem run_processEach_valid (hv : Valid env ics rsvp) (fs : Faults Turn)
    (attachments : List IcsAttachment) (results : List (Except ReplySendError Unit)) :
    SameEnd
      ((processEach env (ics :: attachments) results).run (service env) (quiet :: fs) w)
      ((placeRsvp env rsvp >>= fun result =>
        processEach env attachments (results ++ [result])).run (service env) fs w) := by
  obtain ⟨data, hparse, hmethod, hdecision, huid⟩ := hv
  have hhmac : settle env (.computeHmac16
        (uidPayload rsvp.accountId rsvp.threadId rsvp.originalVeventUid)) w (.request .done) =
      (.ok (env.hmac16 (uidPayload rsvp.accountId rsvp.threadId rsvp.originalVeventUid)), w) := rfl
  rw [processEach, processOneIcs, hparse]
  simp only [validateRsvp, not_not.mpr hmethod, if_false, hdecision, validateProxyUid, huid]
  refine (run_call hhmac _).trans ?_
  show SameEnd ((Prog.bind (Prog.bind (Prog.bind (Prog.ret (Except.ok (ite (env.hmac16
    (uidPayload rsvp.accountId rsvp.threadId rsvp.originalVeventUid) = env.hmac16 _) _ _)))
      _) _) _).run _ _ _) _
  rw [if_pos rfl]
  show SameEnd (((placeRsvp env rsvp >>= fun result => .ret (Ended.returned result)) >>= _).run
    _ _ _) _
  rw [Prog.bind_assoc]
  exact ⟨rfl, rfl⟩

/-- A valid answer whose thread cannot be read leaves an error, and the loop goes on. -/
theorem run_processEach_failed (hv : Valid env ics rsvp) (fs : Faults Turn)
    (attachments : List IcsAttachment) (results : List (Except ReplySendError Unit)) :
    SameEnd
      ((processEach env (ics :: attachments) results).run (service env)
        (quiet :: some (.request .refused) :: fs) w)
      ((processEach env attachments (results ++ [.error (.db SignalsTable.requestFailed)])).run
        (service env) fs w) :=
  (run_processEach_valid hv _ attachments results).trans
    (run_call (c := .db (.getThread rsvp.accountId rsvp.threadId)) rfl fs)

/-- The turn of a mail that SES accepts. -/
def acceptedAs (messageId : String) : Option Turn := some (.mail true (.ok ⟨messageId, none⟩))

/-- An answer that is asked for is relayed, whatever was relayed before, and recorded. -/
theorem run_relayRsvp {aliasAddress messageId : String} {command : SendEmailCommand}
    (hopts : sendRsvpToOrganizer winner.data (winner.data.method = "CANCEL") aliasAddress
      rsvp.accountId = some opts)
    (hsend : env.mailService.send opts = .ok command) (hsent : messageId ≠ "")
    (fs : Faults Turn) (k : Except ReplySendError Unit → RsvpProg α) :
    SameEnd ((relayRsvp env rsvp winner aliasAddress >>= k).run (service env)
        (acceptedAs messageId :: fs) w) ((recordRsvp rsvp winner (some ⟨messageId,
          messageId ++ "@" ++ env.sesRegion ++ ".amazonses.com"⟩) >>= k).run (service env) fs
        { w with relayed := ⟨opts, w.table⟩ :: w.relayed }) := by
  have hsettle : settle env (.send opts) w (.mail true (.ok ⟨messageId, none⟩)) =
      (.ok ⟨messageId, none⟩, { w with relayed := ⟨opts, w.table⟩ :: w.relayed }) := by
    simp only [settle, hsend]
    rfl
  rw [relayRsvp, sendRsvp, hopts]
  refine (run_call hsettle fs).trans ?_
  show SameEnd ((Prog.bind (Prog.bind (ite (messageId = "") _ _) _) k).run _ _ _) _
  rw [if_neg hsent]
  exact ⟨rfl, rfl⟩

/-- The world after an answer was recorded. -/
def afterRecord (env : Env) (rsvp : ValidatedRsvp) (winner : CalendarEventSignal)
    (sent : Option SentRsvp) (w : World) : World :=
  (settle env (.db (.setCalendarEventRsvp rsvp.accountId winner.signal.signalLookupId
    (RsvpRaces.rsvpUpdate rsvp.accountId ⟨rsvp.decision, env.now w.tick⟩ sent)))
      { w with tick := w.tick + 1 } (.request .done)).2

theorem run_recordRsvp (sent : Option SentRsvp)
    (hrow : (w.table.signals.get (rsvp.accountId, winner.signal.signalLookupId)).isSome)
    (fs : Faults Turn) (k : Except ReplySendError Unit → RsvpProg α) :
    SameEnd ((recordRsvp rsvp winner sent >>= k).run (service env) (quiet :: quiet :: fs) w)
      ((k (.ok ())).run (service env) fs (afterRecord env rsvp winner sent w)) := by
  obtain ⟨item, hitem⟩ := Option.isSome_iff_exists.mp hrow
  have hset : settle env (.db (.setCalendarEventRsvp rsvp.accountId winner.signal.signalLookupId
      (RsvpRaces.rsvpUpdate rsvp.accountId ⟨rsvp.decision, env.now w.tick⟩ sent)))
        { w with tick := w.tick + 1 } (.request .done) =
      (.ok (), afterRecord env rsvp winner sent w) := by
    refine Prod.ext ?_ rfl
    show (SignalsTable.exec (.setCalendarEventRsvp rsvp.accountId winner.signal.signalLookupId _)
      w.table).1 = .ok ()
    simp only [SignalsTable.exec, hitem]
  have hnow : settle env .now w (.request .done) =
      (env.now w.tick, { w with tick := w.tick + 1 }) := rfl
  refine (run_call hnow _).trans ?_
  exact (run_call hset fs).trans ⟨rfl, rfl⟩

end Placed

/-! ## Two answers in one message -/

def replyEnv (attachments : List IcsAttachment) : Env where
  now := fun _ => "2026-03-02T09:00:00.000Z"
  rawEmail := fun _ => attachments
  hmac16 := fun payload => if payload = "acct-1.thr-1.uid-1" then "5d41402abc4b2a76" else
    "7d793037a0760186"
  serviceDomain := "mail.test"
  sesRegion := "eu-west-1"
  mailService := ⟨"noreply@mail.test", "platform", "mail.test"⟩
  stale := fun _ => false

/-- An accepting reply with a proxy UID. -/
def acceptance (proxyUid : String) : IcsAttachment where
  byteLength := 600
  ical := .ok ⟨2, 0, some "REPLY",
    [⟨some proxyUid, [⟨some "me@home.test", some "ACCEPTED"⟩], false⟩]⟩
  outputBytes := 300

def annsUid : String := "acct-1.thr-1.uid-1.5d41402abc4b2a76@mail.test"

def beasUid : String := "acct-1.thr-1.uid-2.7d793037a0760186@mail.test"

def inviteEmail : Signal where
  id := "sgn-1"
  signalLookupId := "mail-1"
  threadId := some "thr-1"
  gsi3pk := none
  accountId := "acct-1"
  status := .active
  labels := some []
  createdAt := "2026-03-01T07:00:00.000Z"
  retentionDuration := none
  data := .inboundEmail {
    receivedAt := "2026-03-01T07:00:00.000Z"
    sender := ⟨"ann@org.test", none⟩
    recipientAddress := "me@home.test"
    subject := "Review"
    attachments := []
    headers := []
    workflow := .unspecified
    workflowData := ⟨.unspecified, false, []⟩
    summary := ""
    s3Key := "mail/1"
    replyTo := none
    urgency := none
    embeddings := []
    matchedRules := [] }

/-- An invite of the thread, under the row key of its event. -/
def invite (id organizer veventUid method : String) : Signal where
  id := id
  signalLookupId := buildCalendarSignalLookupId organizer veventUid none
  threadId := some "thr-1"
  gsi3pk := none
  accountId := "acct-1"
  status := .active
  labels := some []
  createdAt := "2026-03-01T08:00:00.000Z"
  retentionDuration := none
  data := .calendarEvent { snapshotData method 0 with organizer, veventUid }

/-- A thread with an invite of each of two organizers, that of the second a request. -/
def invited (method : String) : SignalsTable.Store where
  signals := ((KeyedTable.empty.put (SignalsTable.signalItem inviteEmail)).put
    (SignalsTable.signalItem (invite "sgn-2" "ann@org.test" "uid-1" method))).put
    (SignalsTable.signalItem (invite "sgn-3" "bea@org.test" "uid-2" "REQUEST"))
  threads := KeyedTable.empty.put
    (SignalsTable.bareThread "acct-1" "thr-1" "2026-03-01T07:00:00.000Z")

/-- The first attachment fails at its thread, the second is relayed and recorded. -/
def failing (messageId : String) : Faults Turn :=
  [quiet, quiet, some (.request .refused), quiet, quiet, quiet, quiet, acceptedAs messageId, quiet,
    quiet]

def bothAnswers : Env := replyEnv [acceptance annsUid, acceptance beasUid]

def annsAnswer : ValidatedRsvp := ⟨.accepted, "acct-1", "thr-1", "uid-1"⟩

def beasAnswer : ValidatedRsvp := ⟨.accepted, "acct-1", "thr-1", "uid-2"⟩

theorem toUpper_eq {text : String} (h : text.toList.map Char.toUpper = text.toList) :
    text.toUpper = text := by
  refine String.toList_inj.mp ?_
  rw [String.toUpper, String.toList_map, h]

theorem acceptance_valid {proxyUid : String} (hdecision : rsvp.decision = .accepted)
    (huid : decodeProxyUid "mail.test" proxyUid = .ok ⟨rsvp.accountId, rsvp.threadId,
      rsvp.originalVeventUid, (replyEnv attachments).hmac16
        (uidPayload rsvp.accountId rsvp.threadId rsvp.originalVeventUid)⟩) :
    Valid (replyEnv attachments) (acceptance proxyUid) rsvp := by
  have haccepted : "ACCEPTED".toUpper = "ACCEPTED" := toUpper_eq rfl
  have hreply : "REPLY".toUpper = "REPLY" := toUpper_eq rfl
  refine ⟨⟨"REPLY", [⟨some "me@home.test", some "ACCEPTED"⟩], proxyUid⟩, rfl, hreply, ?_, huid⟩
  simp [IcsEvent.decision, partstatDecision, haccepted, hdecision]

theorem annsAnswer_valid (attachments : List IcsAttachment) :
    Valid (replyEnv attachments) (acceptance annsUid) annsAnswer :=
  acceptance_valid rfl (by with_unfolding_all rfl)

theorem beasAnswer_valid (attachments : List IcsAttachment) :
    Valid (replyEnv attachments) (acceptance beasUid) beasAnswer :=
  acceptance_valid rfl (by with_unfolding_all rfl)

/-- The signals of a thread whose rows are in order. -/
theorem signalsIn_eq_of_sorted {s : SignalsTable.Store} {accountId : String}
    {partition : SignalPartition} {signals : List Signal}
    (hrows : s.signals.rows = signals.map fun signal => ⟨signal, partition⟩)
    (haccount : ∀ signal ∈ signals, signal.accountId = accountId)
    (hsorted : signals.Pairwise fun a b => b.id ≤ a.id) :
    s.signalsIn accountId partition = signals := by
  have hfilter : (s.signals.rows.filter fun item =>
      item.signal.accountId = accountId ∧ item.partition = partition) = s.signals.rows := by
    refine List.filter_eq_self.mpr fun item hitem => ?_
    rw [hrows] at hitem
    obtain ⟨signal, hsignal, rfl⟩ := List.mem_map.mp hitem
    exact decide_eq_true ⟨haccount signal hsignal, rfl⟩
  have hsignals : s.signals.rows.map SignalsTable.SignalItem.signal = signals := by
    rw [hrows, List.map_map]
    exact List.map_id signals
  rw [SignalsTable.Store.signalsIn, hfilter, hsignals]
  exact List.mergeSort_of_pairwise (hsorted.imp fun h => decide_eq_true h)

/-- The only snapshot of an event wins. -/
theorem winningInvite_eq {uid : String} {items : List Signal} {event : CalendarEventSignal}
    (h : (items.filterMap asCalendarEvent).filter (fun e => e.data.veventUid = uid) = [event]) :
    winningInvite uid items = some event := by
  rw [winningInvite, h, collapse, List.mergeSort_singleton]
  simp

/-- The invite as the winner of its event. -/
def winningEvent (id organizer veventUid method : String) : CalendarEventSignal where
  signal := hydrateSignal (invite id organizer veventUid method)
  data := { snapshotData method 0 with organizer, veventUid }
  isEvent := rfl

theorem invited_signalsIn (method : String) :
    (invited method).signalsIn "acct-1" (.thread "thr-1") =
      [invite "sgn-3" "bea@org.test" "uid-2" "REQUEST", invite "sgn-2" "ann@org.test" "uid-1" method,
        inviteEmail] :=
  signalsIn_eq_of_sorted rfl (by simp [invite, inviteEmail]) (by simp [invite, inviteEmail])

theorem annsInvite_found (attachments : List IcsAttachment) (method : String) :
    Finds (replyEnv attachments) (invited method) annsAnswer
      (winningEvent "sgn-2" "ann@org.test" "uid-1" method) where
  thread := rfl
  stored := by
    show winningInvite "uid-1" ((((invited method).signalsIn "acct-1" (.thread "thr-1")).take 100).map
      hydrateSignal) = _
    rw [invited_signalsIn]
    exact winningInvite_eq (by with_unfolding_all rfl)
  hasAlias := by
    have halias : storedAlias (replyEnv attachments) (invited method) annsAnswer
        (winningEvent "sgn-2" "ann@org.test" "uid-1" method) = "me@home.test" := by
      show aliasAddressOf (signalIn _ "sgn-1"
        ((invited method).signalsIn "acct-1" (.thread "thr-1"))) = "me@home.test"
      rw [invited_signalsIn]
      rfl
    simp [halias]

def cancelledInvite : World := ⟨invited "CANCEL", [], [], 0⟩

/-- The turns of a message with one answer that is recorded and not relayed. -/
def recording : Faults Turn := [quiet, quiet, quiet, quiet, quiet, quiet, quiet]

/-- A cancelled invite takes an answer: it is recorded on the row, and relayed to nobody. -/
theorem cancelled_is_recorded :
    ¬ AsksForReply (winningEvent "sgn-2" "ann@org.test" "uid-1" "CANCEL").data ∧
      storedInvite (invited "CANCEL") annsAnswer =
        some (winningEvent "sgn-2" "ann@org.test" "uid-1" "CANCEL") ∧
      (deliveries (replyEnv [acceptance annsUid]) "mail/1" [(invited "CANCEL", recording)]).recorded
        = [⟨("acct-1", "cal-ann@org.test-uid-1"),
          ⟨⟨.accepted, "2026-03-02T09:00:00.000Z"⟩, none, none⟩, invited "CANCEL"⟩] := by
  have hf := annsInvite_found [acceptance annsUid] "CANCEL"
  have hasks : ¬ AsksForReply (winningEvent "sgn-2" "ann@org.test" "uid-1" "CANCEL").data :=
    fun h => h.2.1 rfl
  have hnone : ∀ aliasAddress, sendRsvpToOrganizer (winningEvent "sgn-2" "ann@org.test" "uid-1"
      "CANCEL").data ((winningEvent "sgn-2" "ann@org.test" "uid-1" "CANCEL").data.method = "CANCEL")
      aliasAddress annsAnswer.accountId = none :=
    fun _ => if_neg fun h => hasks (isRelayed_iff.mp h)
  refine ⟨hasks, hf.stored, ?_⟩
  have hraw : settle (replyEnv [acceptance annsUid]) (.getRawEmail "mail/1") cancelledInvite
      (.request .done) = (.ok [acceptance annsUid], cancelledInvite) := rfl
  have hrun : SameEnd ((process (replyEnv [acceptance annsUid]) "mail/1").run
      (service (replyEnv [acceptance annsUid])) recording cancelledInvite)
      ⟨some (.returned (.ok ())), afterRecord (replyEnv [acceptance annsUid]) annsAnswer
        (winningEvent "sgn-2" "ann@org.test" "uid-1" "CANCEL") none cancelledInvite, [], []⟩ := by
    refine (run_call hraw _).trans ?_
    refine (run_processEach_valid (annsAnswer_valid _) _ _ _).trans ?_
    refine (run_placeRsvp hf _ _).trans ?_
    rw [relayRsvp, sendRsvp, hnone]
    exact (run_recordRsvp none rfl _ _).trans ⟨rfl, rfl⟩
  exact congrArg World.recorded hrun.2

/-- The mail that an answer is relayed by. -/
def replyTo (organizer : String) : SendOptions where
  toAddresses := [organizer]
  cc := []
  bcc := []
  sendType := .calendarRsvp
  fromSender := some "me@home.test"
  accountId := "acct-1"

/-- The answer to a request goes to its organizer. -/
theorem sendRsvp_request {invite : CalendarEventData} {organizer : String}
    (hmethod : invite.method = "REQUEST") (horganizer : invite.organizer = organizer)
    (htrim : Address.trim organizer.toList ≠ []) :
    sendRsvpToOrganizer invite (invite.method = "CANCEL") "me@home.test" "acct-1" =
      some (replyTo organizer) := by
  have hrequest : "REQUEST".toUpper = "REQUEST" := toUpper_eq rfl
  have hasks : AsksForReply invite := by
    refine ⟨by rw [hmethod, hrequest], ?_, by rw [horganizer]; exact htrim⟩
    rw [hmethod]
    decide
  rw [sendRsvpToOrganizer, if_pos (isRelayed_iff.mpr hasks), horganizer]
  rfl

theorem run_failing {w : World} {event : CalendarEventSignal} {messageId : String}
    (hf : Finds bothAnswers w.table beasAnswer event)
    (halias : storedAlias bothAnswers w.table beasAnswer event = "me@home.test")
    (hmethod : event.data.method = "REQUEST") (horganizer : event.data.organizer = "bea@org.test")
    (hsent : messageId ≠ "")
    (hrow : (w.table.signals.get ("acct-1", event.signal.signalLookupId)).isSome) :
    SameEnd ((process bothAnswers "mail/1").run (service bothAnswers) (failing messageId) w)
      ⟨some (.returned (.error (.db SignalsTable.requestFailed))),
        afterRecord bothAnswers beasAnswer event
          (some ⟨messageId, messageId ++ "@" ++ bothAnswers.sesRegion ++ ".amazonses.com"⟩)
          { w with relayed := ⟨replyTo "bea@org.test", w.table⟩ :: w.relayed }, [], []⟩ := by
  have hraw : settle bothAnswers (.getRawEmail "mail/1") w (.request .done) =
      (.ok [acceptance annsUid, acceptance beasUid], w) := rfl
  refine (run_call hraw _).trans ?_
  refine (run_processEach_failed (annsAnswer_valid _) _ _ _).trans ?_
  refine (run_processEach_valid (beasAnswer_valid _) _ _ _).trans ?_
  refine (run_placeRsvp hf _ _).trans ?_
  rw [halias]
  have hopts : sendRsvpToOrganizer event.data (event.data.method = "CANCEL") "me@home.test"
      beasAnswer.accountId = some (replyTo "bea@org.test") :=
    sendRsvp_request hmethod horganizer (by decide +kernel)
  have hsend : bothAnswers.mailService.send (replyTo "bea@org.test") = .ok
      ⟨"me@home.test", ["bea@org.test"], [], [], "acct-1"⟩ := by rfl
  refine (run_relayRsvp hopts hsend hsent _ _).trans ?_
  exact (run_recordRsvp _ hrow _ _).trans ⟨rfl, rfl⟩

/-- Bea's invite is found by the answer to it, in whatever state it is. -/
theorem beasInvite_found {table : SignalsTable.Store} {bea : Signal} {event : CalendarEventSignal}
    (hrows : table.signals.rows = [bea, invite "sgn-2" "ann@org.test" "uid-1" "REQUEST",
      inviteEmail].map fun signal => ⟨signal, .thread "thr-1"⟩)
    (hthread : (table.threads.get ("acct-1", "thr-1")).isSome)
    (hid : bea.id = "sgn-3") (haccount : bea.accountId = "acct-1")
    (hevent : asCalendarEvent (hydrateSignal bea) = some event)
    (huid : event.data.veventUid = "uid-2") (hlinked : event.data.linkedSignalId = "sgn-1") :
    Finds bothAnswers table beasAnswer event ∧
      storedAlias bothAnswers table beasAnswer event = "me@home.test" := by
  have hitems : table.signalsIn "acct-1" (.thread "thr-1") =
      [bea, invite "sgn-2" "ann@org.test" "uid-1" "REQUEST", inviteEmail] :=
    signalsIn_eq_of_sorted hrows (by simp [haccount, invite, inviteEmail])
      (by simp [hid, invite, inviteEmail])
  have halias : storedAlias bothAnswers table beasAnswer event = "me@home.test" := by
    show aliasAddressOf (signalIn _ event.data.linkedSignalId
      (table.signalsIn "acct-1" (.thread "thr-1"))) = "me@home.test"
    rw [hitems, hlinked, signalIn, List.find?_cons_of_neg (by simp [hid])]
    rfl
  refine ⟨⟨hthread, ?_, by simp [halias]⟩, halias⟩
  show winningInvite "uid-2" (((table.signalsIn "acct-1" (.thread "thr-1")).take 100).map
    hydrateSignal) = _
  have hann : asCalendarEvent (hydrateSignal (invite "sgn-2" "ann@org.test" "uid-1" "REQUEST")) =
      some (winningEvent "sgn-2" "ann@org.test" "uid-1" "REQUEST") := rfl
  have hmail : asCalendarEvent (hydrateSignal inviteEmail) = none := rfl
  rw [hitems]
  refine winningInvite_eq ?_
  simp [hevent, hann, hmail, huid, winningEvent]

def twoInvites : World := ⟨invited "REQUEST", [], [], 0⟩

/-- The invite of bea after an answer to it was relayed and recorded. -/
def answeredInvite : Signal :=
  (RsvpRaces.rsvpUpdate "acct-1" ⟨.accepted, "2026-03-02T09:00:00.000Z"⟩
    (some ⟨"ses-1", "ses-1@eu-west-1.amazonses.com"⟩)).apply
      (invite "sgn-3" "bea@org.test" "uid-2" "REQUEST")

def answeredEvent : CalendarEventSignal where
  signal := hydrateSignal answeredInvite
  data := match answeredInvite.data with
    | .calendarEvent data => data
    | _ => snapshotData "REQUEST" 0
  isEvent := rfl

def answeredWorld : World :=
  afterRecord bothAnswers beasAnswer (winningEvent "sgn-3" "bea@org.test" "uid-2" "REQUEST")
    (some ⟨"ses-1", "ses-1" ++ "@" ++ bothAnswers.sesRegion ++ ".amazonses.com"⟩)
    { twoInvites with relayed := [⟨replyTo "bea@org.test", twoInvites.table⟩] }

/-- The first attachment fails, the second is relayed to bea; the message is delivered again, and
bea gets the same answer once more. -/
theorem answer_is_relayed_twice :
    ((process bothAnswers "mail/1").run (service bothAnswers) (failing "ses-1")
        twoInvites).result = some (.returned (.error (.db SignalsTable.requestFailed))) ∧
      ((process bothAnswers "mail/1").run (service bothAnswers) (failing "ses-2")
        ((process bothAnswers "mail/1").run (service bothAnswers) (failing "ses-1")
          twoInvites).store).store.relayed.map Relay.opts =
        [replyTo "bea@org.test", replyTo "bea@org.test"] := by
  have hfound : Finds bothAnswers twoInvites.table beasAnswer
        (winningEvent "sgn-3" "bea@org.test" "uid-2" "REQUEST") ∧
      storedAlias bothAnswers twoInvites.table beasAnswer
        (winningEvent "sgn-3" "bea@org.test" "uid-2" "REQUEST") = "me@home.test" :=
    beasInvite_found rfl rfl rfl rfl rfl rfl rfl
  have hagain : Finds bothAnswers answeredWorld.table beasAnswer answeredEvent ∧
      storedAlias bothAnswers answeredWorld.table beasAnswer answeredEvent = "me@home.test" :=
    @beasInvite_found answeredWorld.table answeredInvite answeredEvent rfl rfl rfl rfl rfl rfl rfl
  obtain ⟨hresult, hstore⟩ := run_failing hfound.1 hfound.2 rfl rfl (by decide : "ses-1" ≠ "") rfl
  have hfirst : ((process bothAnswers "mail/1").run (service bothAnswers) (failing "ses-1")
      twoInvites).store = answeredWorld := hstore
  obtain ⟨-, hsecond⟩ := run_failing hagain.1 hagain.2 rfl rfl (by decide : "ses-2" ≠ "") rfl
  refine ⟨hresult, ?_⟩
  rw [hfirst, hsecond]
  rfl

/-! ## An invite beyond the listed signals -/

/-- A later mail of the thread. -/
def laterEmail (number : Nat) : Signal :=
  { inviteEmail with
    id := "sgn-" ++ toString number
    signalLookupId := "mail-" ++ toString number }

/-- The cancellation of ann's event, in a row of its own as it names another organizer. -/
def cancellation : Signal where
  id := "sgn-200"
  signalLookupId := buildCalendarSignalLookupId "aaron@org.test" "uid-1" none
  threadId := some "thr-1"
  gsi3pk := none
  accountId := "acct-1"
  status := .active
  labels := some []
  createdAt := "2026-03-01T08:00:00.000Z"
  retentionDuration := none
  data := .calendarEvent { snapshotData "CANCEL" 1 with organizer := "aaron@org.test" }

def cancellationEvent : CalendarEventSignal where
  signal := hydrateSignal cancellation
  data := { snapshotData "CANCEL" 1 with organizer := "aaron@org.test" }
  isEvent := rfl

/-- The signals of a thread with more than the hundred that are listed, newest first. -/
def crowd : List Signal :=
  (List.range 99).map (fun number => laterEmail (400 - number)) ++
    [invite "sgn-300" "ann@org.test" "uid-1" "REQUEST", cancellation,
      { inviteEmail with id := "sgn-1", signalLookupId := "0100" }]

theorem crowd_ids : (crowd.map Signal.id).Pairwise (· ≥ ·) :=
  List.isChain_iff_pairwise.mp (by decide +kernel)

theorem crowd_lookupIds : (crowd.map Signal.signalLookupId).Pairwise (· > ·) :=
  List.isChain_iff_pairwise.mp (by decide +kernel)

def crowded : SignalsTable.Store where
  signals :=
    { rows := crowd.map fun signal => ⟨signal, .thread "thr-1"⟩
      distinct := by
        refine List.Nodup.of_map Prod.snd ?_
        rw [List.map_map, List.map_map]
        exact crowd_lookupIds.imp fun h => ne_of_gt h }
  threads := (invited "REQUEST").threads

theorem crowded_signalsIn : crowded.signalsIn "acct-1" (.thread "thr-1") = crowd :=
  signalsIn_eq_of_sorted rfl (by decide +kernel) (List.pairwise_map.mp crowd_ids)

def annsInvite : CalendarEventSignal := winningEvent "sgn-300" "ann@org.test" "uid-1" "REQUEST"

/-- The cancellation is the latest state of the event. -/
theorem crowded_winner :
    winningInvite "uid-1" ((crowded.signalsIn "acct-1" (.thread "thr-1")).map hydrateSignal) =
      some cancellationEvent := by
  rw [crowded_signalsIn]
  have hgroup : ((crowd.map hydrateSignal).filterMap asCalendarEvent).filter
      (fun event => event.data.veventUid = "uid-1") = [annsInvite, cancellationEvent] := by
    with_unfolding_all rfl
  have hsorted : [annsInvite, cancellationEvent].mergeSort
      (fun a b => decide (orderInGroup a b ≤ 0)) = [annsInvite, cancellationEvent] :=
    List.mergeSort_of_pairwise (by simp; decide)
  rw [winningInvite, hgroup, collapse, hsorted]
  rfl

def crowdedThread : World := ⟨crowded, [], [], 0⟩

theorem crowded_found :
    Finds (replyEnv [acceptance annsUid]) crowdedThread.table annsAnswer annsInvite ∧
      storedAlias (replyEnv [acceptance annsUid]) crowdedThread.table annsAnswer annsInvite =
        "me@home.test" := by
  have halias : storedAlias (replyEnv [acceptance annsUid]) crowdedThread.table annsAnswer
      annsInvite = "me@home.test" := by
    show aliasAddressOf (signalIn _ "sgn-1"
      (crowded.signalsIn "acct-1" (.thread "thr-1"))) = "me@home.test"
    rw [crowded_signalsIn]
    decide +kernel
  refine ⟨⟨rfl, ?_, by simp [halias]⟩, halias⟩
  show winningInvite "uid-1" (((crowded.signalsIn "acct-1" (.thread "thr-1")).take 100).map
    hydrateSignal) = _
  rw [crowded_signalsIn]
  exact winningInvite_eq (by with_unfolding_all rfl)

/-- The turns of a message with one answer that is relayed and recorded. -/
def relaying : Faults Turn :=
  [quiet, quiet, quiet, quiet, quiet, acceptedAs "ses-1", quiet, quiet]

/-- The latest state of the event is its cancellation, which is not among the listed signals, and the
answer is relayed to the organizer of the request. -/
theorem cancelled_is_relayed :
    winningInvite "uid-1" ((crowded.signalsIn "acct-1" (.thread "thr-1")).map hydrateSignal) =
        some cancellationEvent ∧
      (deliveries (replyEnv [acceptance annsUid]) "mail/1"
        [(crowded, relaying)]).relayed.map Relay.opts = [replyTo "ann@org.test"] := by
  refine ⟨crowded_winner, ?_⟩
  obtain ⟨hf, halias⟩ := crowded_found
  have hraw : settle (replyEnv [acceptance annsUid]) (.getRawEmail "mail/1") crowdedThread
      (.request .done) = (.ok [acceptance annsUid], crowdedThread) := rfl
  have hopts : sendRsvpToOrganizer annsInvite.data (annsInvite.data.method = "CANCEL")
      "me@home.test" annsAnswer.accountId = some (replyTo "ann@org.test") :=
    sendRsvp_request rfl rfl (by decide +kernel)
  have hsend : (replyEnv [acceptance annsUid]).mailService.send (replyTo "ann@org.test") =
      .ok ⟨"me@home.test", ["ann@org.test"], [], [], "acct-1"⟩ := by rfl
  have hrun : SameEnd ((process (replyEnv [acceptance annsUid]) "mail/1").run
      (service (replyEnv [acceptance annsUid])) relaying crowdedThread)
      ⟨some (.returned (.ok ())), afterRecord (replyEnv [acceptance annsUid]) annsAnswer annsInvite
        (some ⟨"ses-1", "ses-1" ++ "@" ++ (replyEnv [acceptance annsUid]).sesRegion ++
          ".amazonses.com"⟩)
        { crowdedThread with relayed := [⟨replyTo "ann@org.test", crowded⟩] }, [], []⟩ := by
    refine (run_call hraw _).trans ?_
    refine (run_processEach_valid (annsAnswer_valid _) _ _ _).trans ?_
    refine (run_placeRsvp hf _ _).trans ?_
    rw [halias]
    refine (run_relayRsvp hopts hsend (by decide) _ _).trans ?_
    exact (run_recordRsvp _ (by decide +kernel) _ _).trans ⟨rfl, rfl⟩
  have hstore := congrArg World.relayed hrun.2
  exact congrArg (List.map Relay.opts) hstore

/-- A record that is no answer to a request, a relay that is repeated, and a relay for a cancelled
event. -/
theorem relays_beyond_requests :
    (storedInvite (invited "CANCEL") annsAnswer =
        some (winningEvent "sgn-2" "ann@org.test" "uid-1" "CANCEL") ∧
      (deliveries (replyEnv [acceptance annsUid]) "mail/1"
        [(invited "CANCEL", recording)]).recorded ≠ []) ∧
    (((process bothAnswers "mail/1").run (service bothAnswers) (failing "ses-1")
        twoInvites).result = some (.returned (.error (.db SignalsTable.requestFailed))) ∧
      ((process bothAnswers "mail/1").run (service bothAnswers) (failing "ses-2")
        ((process bothAnswers "mail/1").run (service bothAnswers) (failing "ses-1")
          twoInvites).store).store.relayed.map Relay.opts =
        [replyTo "bea@org.test", replyTo "bea@org.test"]) ∧
    (winningInvite "uid-1" ((crowded.signalsIn "acct-1" (.thread "thr-1")).map hydrateSignal) =
        some cancellationEvent ∧
      (deliveries (replyEnv [acceptance annsUid]) "mail/1"
        [(crowded, relaying)]).relayed.map Relay.opts = [replyTo "ann@org.test"]) := by
  obtain ⟨-, hstored, hrecorded⟩ := cancelled_is_recorded
  refine ⟨⟨hstored, ?_⟩, answer_is_relayed_twice, cancelled_is_relayed⟩
  rw [hrecorded]
  exact List.cons_ne_nil _ _

/-- Two answers of which the first fails. -/
theorem relays_safely_bothAnswers :
    Safe bothAnswers "mail/1" (deliveries bothAnswers "mail/1" []) ∧
      ∃ results, Attempted bothAnswers [acceptance annsUid, acceptance beasUid]
        (failing "ses-1").tail twoInvites results
        (deliver bothAnswers "mail/1" (deliveries bothAnswers "mail/1" [])
          (invited "REQUEST", failing "ses-1")) :=
  have hsafe := relays_safely bothAnswers "mail/1" []
  have hattempted := hsafe.2 (invited "REQUEST") (failing "ses-1") _ answer_is_relayed_twice.1
  ⟨hsafe.1, hattempted.imp fun _ h => h.1⟩

end SesEmailAdapter.Calendar.RsvpSafety
