import SesEmailAdapter.Api.StoredCase
import SesEmailAdapter.Handler.SqsBatch
import SesEmailAdapter.Processor.RecipientAccount

/-! # The letter case of recipients

Two recipients that differ in letter case alone, from the router of inbound mail to the rows that
the ingest creates. What the API stores is in lower case; a recipient is taken as the sending
server wrote it. -/

namespace SesEmailAdapter.Processor.RecipientCase
open Lib Lib.Prog
open SesEmailAdapter.Types Database
open Database.AccountsTable (Store DbProg)
open Database.AccountDatabase Database.AliasRows
open Email.Address Api.StoredCase
open Handler.SqsBatch (CompositeRoot isRsvpReplyAddress)
open Processor.IngestService (Env World External Cmd service)
open Processor.InboundMessage Processor.IncomingEmail
open Processor.RecipientAccount

variable {S : Type} (root : CompositeRoot S)

/-! ## The router -/

theorem toLower_eq_at {c : Char} : c.toLower = '@' ↔ c = '@' := by
  constructor
  · exact eq_of_toLower (by decide)
  · intro h
    rw [h]
    rfl

theorem afterLastAt_toLowerCase (text : List Char) :
    afterLastAt (toLowerCase text) = toLowerCase (afterLastAt text) := by
  have hsame : ((fun c => decide (c ≠ '@')) ∘ Char.toLower) = fun c => decide (c ≠ '@') := by
    funext c
    simp [toLower_eq_at]
  rw [afterLastAt, toLowerCase, ← List.map_reverse, List.takeWhile_map, hsame, ← List.map_reverse]
  rfl

theorem isRsvpReplyAddress_toLowerCase (text : List Char) :
    isRsvpReplyAddress root (toLowerCase text) = isRsvpReplyAddress root text := by
  have hat : '@' ∈ toLowerCase text ↔ '@' ∈ text := by
    simp [toLowerCase, toLower_eq_at]
  have hlength (text : List Char) : (toLowerCase text).length = text.length := List.length_map _
  simp only [isRsvpReplyAddress, hat, afterLastAt_toLowerCase, hlength, toLowerCase_toLowerCase]

theorem isRsvpReplyAddress_congr {a b : String} (h : SameLetters a b) :
    isRsvpReplyAddress root a.toList = isRsvpReplyAddress root b.toList := by
  rw [← isRsvpReplyAddress_toLowerCase, h, isRsvpReplyAddress_toLowerCase]

/-! ## Deliveries -/

structure Delivery where
  msg : InboundSignalMessage
  receiveCount : Nat
  faults : Faults Fate

/-- A reply to an invite goes to another processor, which reads no alias and creates none. -/
def deliver (env : Env) (d : Delivery) (w : World) : World :=
  if isRsvpReplyAddress root d.msg.primaryRecipient.toList then w
  else ((processInbound env d.msg d.receiveCount noOptions).run (service env) d.faults w).store

/-- The account and the alias that a delivery without failures resolves. -/
def resolved (env : Env) (w : World) (recipientAddress : String) : Option Resolved :=
  if isRsvpReplyAddress root recipientAddress.toList then none
  else ((resolveAccountIdAndAlias env recipientAddress).eval (service env) w).1.toOption.join

/-- No two addresses of the table differ in letter case alone. -/
structure OneSpelling (s : Store) : Prop where
  aliases : ∀ a ∈ s.aliases.rows, ∀ b ∈ s.aliases.rows,
    SameLetters a.aliasAddress b.aliasAddress → a.aliasAddress = b.aliasAddress
  senders : ∀ a ∈ s.senders.rows, ∀ b ∈ s.senders.rows,
    SameLetters a.aliasAddress b.aliasAddress → a.aliasAddress = b.aliasAddress

/-- Two recipients are one for the ingest: they resolve alike, and mails to the one and to the
other leave one spelling, whatever the services answer. -/
structure CaseBlind (env : Env) (s : Store) (first second : String) : Prop where
  resolution : ∀ w : World, w.accounts = s →
    resolved root env w first = resolved root env w second
  spelling : ∀ (answer : Nat → (e : External) → e.Answer) (w : World) (d d' : Delivery),
    w.accounts = s → d.msg.primaryRecipient = first → d'.msg.primaryRecipient = second →
      OneSpelling (deliver root { env with answer := answer } d'
        (deliver root { env with answer := answer } d w)).accounts

/-- The platform takes mail for the address as it is written. -/
def Receives (env : Env) (s : Store) (recipientAddress : String) : Prop :=
  Readable env.mailDomain recipientAddress ∧
    (globalAlias env.mailDomain s recipientAddress ≠ none ∨
      ∃ owner, ownerIn env (domainOf recipientAddress) s = some owner ∧ owner.status ≠ .deleted)

variable {s : Store}

theorem oneSpelling_of_lowered (h : Lowered s) : OneSpelling s where
  aliases a ha b hb := (h.aliases a ha).eq (h.aliases b hb)
  senders a ha b hb := (h.senders a ha).eq (h.senders b hb)

/-! ## What a delivery resolves -/

variable {env : Env} {recipientAddress : String}

theorem resolvedIn_ne_none :
    resolvedIn env s recipientAddress ≠ none ↔
      globalAlias env.mailDomain s recipientAddress ≠ none ∨
        ∃ owner, ownerIn env (domainOf recipientAddress) s = some owner ∧
          owner.status ≠ .deleted := by
  unfold resolvedIn activeOwner
  cases globalAlias env.mailDomain s recipientAddress with
  | some item => simp
  | none =>
    cases ownerIn env (domainOf recipientAddress) s with
    | none => simp
    | some owner => simp [Option.filter]

theorem accounts_eval (env : Env) (w : World) {α : Type} (p : DbProg α) (s : Store) :
    (IngestService.accounts p).eval (service env) { w with accounts := s } =
      ((p.eval AliasRows.accounts s).1,
        { w with accounts := (p.eval AliasRows.accounts s).2 }) :=
  Prog.eval_embed (fun s => { w with accounts := s }) (fun _ _ => ⟨rfl, rfl⟩) p s

theorem resolve_service_eval (env : Env) (recipientAddress : String) (w : World) :
    (resolveAccountIdAndAlias env recipientAddress).eval (service env) w =
      (if Readable env.mailDomain recipientAddress then
        .ok (resolvedIn env w.accounts recipientAddress)
        else .error (invalidAddress recipientAddress), w) :=
  resolve_eval (accounts_eval env w) env recipientAddress w.accounts

theorem resolved_eq_some_iff {w : World} {r : Resolved}
    (hroute : isRsvpReplyAddress root recipientAddress.toList = false) :
    resolved root env w recipientAddress = some r ↔
      Readable env.mailDomain recipientAddress ∧
        resolvedIn env w.accounts recipientAddress = some r := by
  rw [resolved, hroute, resolve_service_eval]
  by_cases hread : Readable env.mailDomain recipientAddress <;> simp [hread, Except.toOption]

/-! ## Recipients that nobody has -/

theorem resolve_misses {w : World} (h : ¬ Receives env w.accounts recipientAddress) :
    (resolveAccountIdAndAlias env recipientAddress).Leads (service env) (fun _ => True)
      (fun r w' => w' = w ∧ ∀ x, r = some (.ok x) → x = none) w := by
  by_cases hread : Readable env.mailDomain recipientAddress
  · refine (resolve_leads env recipientAddress w).mono fun r w' hanswer => ⟨hanswer.1, ?_⟩
    intro x hx
    rw [hanswer.2 x hx]
    exact not_not.mp fun hsome => h ⟨hread, resolvedIn_ne_none.mp hsome⟩
  · rw [resolve_unreadable hread]
    exact ⟨⟨rfl, nofun⟩, fun _ => ⟨rfl, nofun⟩⟩

/-- A mail for nobody changes nothing. -/
theorem deliver_unknown {d : Delivery} {w : World}
    (h : ¬ Receives env w.accounts d.msg.primaryRecipient) : deliver root env d w = w := by
  unfold deliver
  split
  · rfl
  · have hleads : (processInbound env d.msg d.receiveCount noOptions).Leads (service env)
        (fun _ => True) (fun _ w' => w' = w) w := by
      rw [processInbound_eq]
      refine Leads.bind ((resolve_misses h).mono fun r w' hmiss => ?_)
      obtain ⟨rfl, hnone⟩ := hmiss
      match r with
      | none => rfl
      | some (.error error) => exact ⟨rfl, fun _ => rfl⟩
      | some (.ok x) =>
        obtain rfl := hnone x rfl
        exact ⟨rfl, fun _ => rfl⟩
    exact hleads.run trivial d.faults fun _ _ => trivial

/-! ## Recipients that get an alias -/

/-- Services with which a delivery creates the alias of its recipient and fails after it. -/
def failing (env : Env) : Nat → (e : External) → e.Answer
  | _, .getAccount _ => .ok none
  | _, .sanitize .. => .error SignalsTable.requestFailed
  | tick, e => env.answer tick e

theorem mailTo_source : ¬ isOwnLookupId "ses-1" := by
  unfold isOwnLookupId
  decide

def mailTo (recipientAddress : String) : Delivery where
  msg := {
    s3Key := "emails/1"
    compositeMailMessageId := "ses-1"
    idempotencyKey := "1"
    timestamp := "2025-06-01T00:00:00.000Z"
    primaryRecipient := recipientAddress
    dkimVerdict := .pass
    dmarcVerdict := .pass
    hasSource := mailTo_source }
  receiveCount := 1
  faults := []

/-- The row that such a delivery creates. -/
def createdRow (env : Env) (w : World) (accountId recipientAddress : String)
    (parts : AddressParts) : Alias :=
  savedRow (newAlias accountId recipientAddress (defaultPolicy none) none
    (env.answer (w.tick + 1) .now)) parts

theorem lookup_fresh {w : World} (htable : w.table = ⟨.empty, .empty⟩)
    (recipientAddress accountId : String) :
    (lookup env (mailTo recipientAddress).msg 1 noOptions accountId).run.eval (service env) w =
      (.ok (), w) := by
  obtain ⟨table, accounts, resources, dispatched, tick⟩ := w
  obtain rfl : table = ⟨.empty, .empty⟩ := htable
  rfl

theorem receive_creates (w : World) {accountId recipientAddress : String}
    {parts : AddressParts} (hparse : parseAddress recipientAddress = some parts) :
    ((receive { env with answer := failing env } (mailTo recipientAddress).msg noOptions
        ⟨accountId, none⟩).run.eval (service { env with answer := failing env }) w) =
      (.error (.failed (.db SignalsTable.requestFailed)), { w with
        accounts := w.accounts.saveAliasItem (createdRow env w accountId recipientAddress parts)
        tick := w.tick + 3 }) := by
  simp only [receive, ensureAliasRecord, ensureAlias, createAliasItem, saveAlias, withAddress,
    newAlias, mailTo, hparse]
  rfl

/-- Such a delivery for an owned address without an alias leaves just the alias behind. -/
theorem deliver_creates {w : World} {accountId recipientAddress : String}
    (htable : w.table = ⟨.empty, .empty⟩)
    (hroute : isRsvpReplyAddress root recipientAddress.toList = false)
    (hread : Readable env.mailDomain recipientAddress)
    (hresolved : resolvedIn env w.accounts recipientAddress = some ⟨accountId, none⟩) :
    ∃ row : Alias, row.aliasAddress = recipientAddress ∧
      deliver root { env with answer := failing env } (mailTo recipientAddress) w =
        { w with accounts := w.accounts.saveAliasItem row, tick := w.tick + 3 } := by
  have hnone : globalAlias env.mailDomain w.accounts recipientAddress = none :=
    (resolvedIn_aliasConfig hresolved).symm
  obtain ⟨hsystem, -⟩ := Option.or_eq_none_iff.mp hnone
  obtain ⟨parts, hparse⟩ : ∃ parts, parseAddress recipientAddress = some parts :=
    Option.ne_none_iff_exists'.mp (hread.resolve_left (not_not.mpr hsystem))
  refine ⟨createdRow env w accountId recipientAddress parts, rfl, ?_⟩
  have hroute' : ¬ isRsvpReplyAddress root (mailTo recipientAddress).msg.primaryRecipient.toList :=
    by simp [mailTo, hroute]
  rw [deliver, if_neg hroute', processInbound_eq]
  refine (Prog.run_nil _ w).2.trans ?_
  have hresolve := resolve_service_eval { env with answer := failing env } recipientAddress w
  have hresolved' : resolvedIn { env with answer := failing env } w.accounts recipientAddress =
      some ⟨accountId, none⟩ := hresolved
  have hread' : Readable ({ env with answer := failing env } : Env).mailDomain recipientAddress := hread
  rw [hresolved', if_pos hread'] at hresolve
  rw [Prog.eval_bind]
  have hmsg : (mailTo recipientAddress).msg.primaryRecipient = recipientAddress := rfl
  rw [hmsg, hresolve]
  simp only [processResolved, Prog.eval_map, acceptResolved, ExceptT.run_bind, Prog.eval_bind]
  have hlookup := @lookup_fresh { env with answer := failing env } w htable recipientAddress accountId
  have hcount : (mailTo recipientAddress).receiveCount = 1 := rfl
  rw [hcount, hlookup]
  dsimp only
  simp only [Prog.eval_bind]
  rw [receive_creates w hparse]
  rfl

/-! ## Two spellings -/

theorem globalAlias_address {mailDomain recipientAddress : String} {item : Alias}
    (h : globalAlias mailDomain s recipientAddress = some item) :
    item.aliasAddress = recipientAddress := by
  rcases Option.or_eq_some_iff.mp h with hsystem | ⟨-, hfirst⟩
  · unfold systemAlias at hsystem
    split at hsystem
    · next heq =>
      obtain rfl := Option.some.inj hsystem
      exact heq.symm
    · split at hsystem
      · next heq =>
        obtain rfl := Option.some.inj hsystem
        rw [heq, systemAliasItem, ← String.append_assoc]
        rfl
      · cases hsystem
  · exact (mem_aliasesAt.mp (List.mem_of_head? hfirst)).2

/-- A new alias is no alias of another address. -/
theorem resolvedIn_saveAliasItem_ne {item : Alias}
    {accountId recipientAddress : String} (hne : item.aliasAddress ≠ recipientAddress)
    (h : resolvedIn env s recipientAddress = some ⟨accountId, none⟩) :
    resolvedIn env (s.saveAliasItem item) recipientAddress = some ⟨accountId, none⟩ := by
  have hnone : globalAlias env.mailDomain s recipientAddress = none :=
    (resolvedIn_aliasConfig h).symm
  obtain ⟨hsystem, hfirst⟩ := Option.or_eq_none_iff.mp hnone
  have hempty : (s.saveAliasItem item).aliasesAt recipientAddress = [] := by
    refine List.eq_nil_iff_forall_not_mem.mpr fun other hother => ?_
    obtain ⟨hmem, haddress⟩ := mem_aliasesAt.mp hother
    rcases KeyedTable.mem_put.mp hmem with rfl | ⟨hold, -⟩
    · exact hne haddress
    · have hat := mem_aliasesAt.mpr ⟨hold, haddress⟩
      rw [List.head?_eq_none_iff.mp hfirst] at hat
      cases hat
  unfold resolvedIn at h ⊢
  rw [hnone] at h
  rw [globalAlias, hsystem, hempty]
  exact h

/-- Mails to two spellings of an owned address without an alias leave an alias of each. -/
theorem two_spellings {w : World} {accountId first second : String}
    (htable : w.table = ⟨.empty, .empty⟩) (hletters : SameLetters first second)
    (hne : first ≠ second) (hroute : isRsvpReplyAddress root first.toList = false)
    (hread : Readable env.mailDomain first) (hread' : Readable env.mailDomain second)
    (hresolved : resolvedIn env w.accounts first = some ⟨accountId, none⟩)
    (hresolved' : resolvedIn env w.accounts second = some ⟨accountId, none⟩) :
    ¬ OneSpelling (deliver root { env with answer := failing env } (mailTo second)
      (deliver root { env with answer := failing env } (mailTo first) w)).accounts := by
  obtain ⟨row, hrow, hfirst⟩ := deliver_creates root htable hroute hread hresolved
  have hroute' : isRsvpReplyAddress root second.toList = false :=
    (isRsvpReplyAddress_congr root hletters).symm.trans hroute
  obtain ⟨row', hrow', hsecond⟩ := @deliver_creates S root env
    { w with accounts := w.accounts.saveAliasItem row, tick := w.tick + 3 } accountId second htable
    hroute' hread' (resolvedIn_saveAliasItem_ne (hrow ▸ hne) hresolved')
  rw [hfirst, hsecond]
  intro h
  have hmem' : row' ∈ ((w.accounts.saveAliasItem row).saveAliasItem row').aliases.rows :=
    KeyedTable.mem_put.mpr (.inl rfl)
  have hmem : row ∈ ((w.accounts.saveAliasItem row).saveAliasItem row').aliases.rows := by
    refine KeyedTable.mem_put.mpr (.inr ⟨KeyedTable.mem_put.mpr (.inl rfl), fun hkey => hne ?_⟩)
    rw [← hrow, ← hrow']
    exact (Prod.mk.inj hkey).2
  refine hne ?_
  rw [← hrow, ← hrow']
  refine h.aliases row hmem row' hmem' ?_
  rw [hrow, hrow']
  exact hletters

def worldOf (s : Store) : World := ⟨⟨.empty, .empty⟩, s, .empty, [], 0⟩

theorem receives_of_resolved {w : World} {r : Resolved}
    (hroute : isRsvpReplyAddress root recipientAddress.toList = false)
    (h : resolved root env w recipientAddress = some r) :
    Receives env w.accounts recipientAddress := by
  obtain ⟨hread, hresolved⟩ := (resolved_eq_some_iff root hroute).mp h
  exact ⟨hread, resolvedIn_ne_none.mp (by simp [hresolved])⟩

theorem resolved_of_receives {w : World}
    (hroute : isRsvpReplyAddress root recipientAddress.toList = false)
    (h : Receives env w.accounts recipientAddress) :
    ∃ r, resolved root env w recipientAddress = some r := by
  obtain ⟨r, hr⟩ := Option.ne_none_iff_exists'.mp (resolvedIn_ne_none.mpr h.2)
  exact ⟨r, (resolved_eq_some_iff root hroute).mpr ⟨h.1, hr⟩⟩

/-- Spellings that are one for the ingest resolve to nothing. -/
theorem CaseBlind.unresolved {first second : String}
    (h : CaseBlind root env s first second) (hletters : SameLetters first second)
    (hne : first ≠ second) (hroute : isRsvpReplyAddress root first.toList = false)
    (r : Resolved) : resolved root env (worldOf s) first ≠ some r := by
  intro hfirst
  have hsecond := (h.resolution (worldOf s) rfl).symm.trans hfirst
  have hroute' : isRsvpReplyAddress root second.toList = false :=
    (isRsvpReplyAddress_congr root hletters).symm.trans hroute
  obtain ⟨hread, hresolved⟩ := (resolved_eq_some_iff root hroute).mp hfirst
  obtain ⟨hread', hresolved'⟩ := (resolved_eq_some_iff root hroute').mp hsecond
  obtain ⟨accountId, aliasConfig⟩ := r
  cases aliasConfig with
  | some item =>
    -- an alias has one address
    have haddress := globalAlias_address (resolvedIn_aliasConfig hresolved).symm
    have haddress' := globalAlias_address (resolvedIn_aliasConfig hresolved').symm
    exact hne (haddress.symm.trans haddress')
  | none =>
    exact two_spellings root rfl hletters hne hroute hread hread' hresolved hresolved'
      (h.spelling (failing env) (worldOf s) (mailTo first) (mailTo second) rfl rfl rfl)

/-- **Letter case.** Over what the API has created, two spellings of a recipient are one for the
ingest just when they are an address of calendar replies or nobody has either of them as written. -/
theorem caseBlind_iff {env : Env} {s : Store} {first second : String}
    (hs : Created env.mailDomain s) (hletters : SameLetters first second) (hne : first ≠ second) :
    CaseBlind root env s first second ↔
      isRsvpReplyAddress root first.toList = true ∨
        (¬ Receives env s first ∧ ¬ Receives env s second) := by
  have hroutes := isRsvpReplyAddress_congr root hletters
  constructor
  · intro h
    cases hroute : isRsvpReplyAddress root first.toList with
    | true => exact .inl rfl
    | false =>
      have hroute' := hroutes.symm.trans hroute
      refine .inr ⟨fun hreceives => ?_, fun hreceives => ?_⟩
      · obtain ⟨r, hr⟩ := @resolved_of_receives S root env first (worldOf s) hroute hreceives
        exact h.unresolved root hletters hne hroute r hr
      · obtain ⟨r, hr⟩ := @resolved_of_receives S root env second (worldOf s) hroute' hreceives
        exact h.unresolved root hletters hne hroute r ((h.resolution (worldOf s) rfl).trans hr)
  · rintro (hroute | ⟨hfirst, hsecond⟩)
    · have hroute' := hroutes.symm.trans hroute
      constructor
      · intro w _
        rw [resolved, if_pos hroute, resolved, if_pos hroute']
      · intro answer w d d' hw hd hd'
        subst hd hd'
        rw [deliver, if_pos hroute', deliver, if_pos hroute, hw]
        exact oneSpelling_of_lowered hs.lowered
    · constructor
      · intro w hw
        subst hw
        cases hroute : isRsvpReplyAddress root first.toList with
        | true => rw [resolved, if_pos hroute, resolved, if_pos (hroutes.symm.trans hroute)]
        | false =>
          have hnone : ∀ r, resolved root env w first ≠ some r := fun r hr =>
            hfirst (receives_of_resolved root hroute hr)
          have hnone' : ∀ r, resolved root env w second ≠ some r := fun r hr =>
            hsecond (receives_of_resolved root (hroutes.symm.trans hroute) hr)
          rw [Option.eq_none_iff_forall_ne_some.mpr hnone,
            Option.eq_none_iff_forall_ne_some.mpr hnone']
      · intro answer w d d' hw hd hd'
        subst hw hd hd'
        have hkept := @deliver_unknown S root { env with answer := answer } d w hfirst
        have hkept' := @deliver_unknown S root { env with answer := answer } d' w hsecond
        rw [hkept, hkept']
        exact oneSpelling_of_lowered hs.lowered

/-! ### An alias that a capital letter hides -/

def noHandlers : CompositeRoot Unit where
  processSegmentMessage _ := pure (.ok ())
  processSideEffect _ _ := pure (.ok ())
  processDraftSend _ := pure (.ok ())
  processFollowup _ := pure (.ok ())
  processRsvpReminder _ := pure (.ok ())
  dispatchDigest := pure (.ok ())
  processDigestSend _ := pure (.ok ())
  processEmxInbound _ _ _ := pure (.ok ())
  dispatchEmx _ := pure (.ok ())
  processEmxIdle _ := pure (.ok ())
  processNotification _ := pure (.ok ())
  processRsvp _ := pure (.ok ())
  processInbound _ _ := pure (.ok ())
  mailDomain := "mail.example"
  checkBits text := text.take 3

def plainEnv : Env where
  answer
    | _, .now => "2025-06-01T00:00:00.000Z"
    | _, .newId => "0001"
    | _, .getAccount _ => .ok none
    | _, .listLabels _ => .ok []
    | _, .listEnabledRules _ => .ok []
    | _, .sanitize .. => .error ⟨"down"⟩
    | _, .handleInboundBounce .. => .ok ()
    | _, .classify _ => .error ⟨"down"⟩
    | _, .embed .. => .error ⟨"down"⟩
    | _, .embedSecondary .. => []
    | _, .findMatch .. => .ok none
    | _, .evaluate .. => ⟨false, [], []⟩
    | _, .extractCalendar _ => .ok none
  mailDomain := "mail.example"
  checkCharsFor _ := "000"
  getDomain := some
  isUrl _ := false
  stale _ := false

/-- The domain as the account typed it. -/
def shopDomain : Store :=
  ((Api.DomainsApi.createDomainRequest "mail.example" "acc" (lowerDomain "A.com") "d").run
    Api.DomainsApi.service [] ⟨.empty, .empty, .empty⟩).store

def shopBody : Api.AliasesApi.CreateAliasRequest :=
  ⟨lowerEmail "Shop@A.com", none, some .blockReject, none⟩

/-- The account and its alias, which takes mail from known senders only. -/
def shopStore : Store :=
  ((Api.AliasesApi.createAlias "acc" shopBody "n" "day" "key").run Api.AliasesApi.service []
    ⟨shopDomain, ⟨.empty, []⟩⟩).store.accounts

theorem created_shopStore : Created "mail.example" shopStore :=
  .createAlias "acc" "Shop@A.com" shopBody "n" "day" "key" [] rfl
    (.createDomain "acc" "A.com" "d" [] .empty)

/-- A mail to the alias as it was typed is not one to the alias. -/
theorem capital_hides_alias :
    Created "mail.example" shopStore ∧ SameLetters "shop@a.com" "Shop@a.com" ∧
      ((resolved noHandlers plainEnv (worldOf shopStore) "shop@a.com").bind
        Resolved.aliasConfig).map Alias.unknownSenderPolicy = some .blockReject ∧
      resolved noHandlers plainEnv (worldOf shopStore) "Shop@a.com" = some ⟨"acc", none⟩ ∧
      ¬ CaseBlind noHandlers plainEnv shopStore "shop@a.com" "Shop@a.com" := by
  have hfirst : ((resolved noHandlers plainEnv (worldOf shopStore) "shop@a.com").bind
      Resolved.aliasConfig).map Alias.unknownSenderPolicy = some .blockReject := by
    decide +kernel
  have hsecond : resolved noHandlers plainEnv (worldOf shopStore) "Shop@a.com" =
      some ⟨"acc", none⟩ := by
    decide +kernel
  refine ⟨created_shopStore, by decide, hfirst, hsecond, fun h => ?_⟩
  rw [h.resolution (worldOf shopStore) rfl, hsecond] at hfirst
  cases hfirst

/-- Of a domain that nobody has registered, every spelling is dropped. -/
theorem caseBlind_stranger :
    CaseBlind noHandlers plainEnv shopStore "shop@b.com" "Shop@b.com" := by
  have hdropped : ∀ recipientAddress,
      resolvedIn plainEnv shopStore recipientAddress = none →
        ¬ Receives plainEnv shopStore recipientAddress := by
    intro recipientAddress hnone hreceives
    exact resolvedIn_ne_none.mpr hreceives.2 hnone
  exact (caseBlind_iff noHandlers created_shopStore (by decide) (by decide)).mpr
    (.inr ⟨hdropped _ (by decide +kernel), hdropped _ (by decide +kernel)⟩)

end SesEmailAdapter.Processor.RecipientCase
