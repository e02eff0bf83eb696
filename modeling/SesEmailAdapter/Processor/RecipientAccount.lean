import SesEmailAdapter.Database.AliasRows
import SesEmailAdapter.Processor.IncomingEmail

/-! # The account of a recipient

What the accounts table says of a recipient address: its first alias, or else the active owner of
its domain. A delivery that adds the missing alias does not change the account. -/

namespace SesEmailAdapter.Processor.RecipientAccount
open Lib
open SesEmailAdapter.Types Database Database.AccountsTable
open Database.AccountDatabase Database.AliasRows
open Database.Shared
open Processor.IngestService Processor.InboundMessage
open Processor.IncomingEmail

/-- What `getDomainOwner` reads. -/
def ownerIn (env : Env) (domain : String) (s : Store) : Option Domain :=
  match systemDomainOwner env.mailDomain domain with
  | some owner => some owner
  | none => oldestRegistration (s.registrations domain)

def ownerAccount (env : Env) (recipientAddress : String) (s : Store) : Option String :=
  (activeOwner (ownerIn env (domainOf recipientAddress) s)).map Resolved.accountId

def recipientAccount (env : Env) (recipientAddress : String) (s : Store) : Option String :=
  match systemAlias env.mailDomain recipientAddress with
  | some item => some item.accountId
  | none => match (s.aliasesAt recipientAddress).head? with
    | some item => some item.accountId
    | none => ownerAccount env recipientAddress s

-- No proof below looks inside these, and to unfold them is slow.
seal systemAlias systemDomainOwner parseAddress

/-! ## The first alias -/

variable {recipientAddress : String} {s : Store}

theorem mem_aliasesAt {aliasAddress : String} {item : Alias} :
    item ∈ s.aliasesAt aliasAddress ↔ item ∈ s.aliases.rows ∧ item.aliasAddress = aliasAddress := by
  rw [Store.aliasesAt, List.mem_mergeSort, List.mem_filter, decide_eq_true_eq]

/-- The first alias of an address is the one of the smallest account. -/
theorem aliasesAt_head_le {aliasAddress : String} {first item : Alias}
    (hfirst : (s.aliasesAt aliasAddress).head? = some first)
    (hitem : item ∈ s.aliasesAt aliasAddress) : first.accountId ≤ item.accountId := by
  have hsorted : (s.aliasesAt aliasAddress).Pairwise fun a b => a.accountId ≤ b.accountId :=
    QueryPaging.scan_pairwise_le Alias.accountId _
  rcases hlist : s.aliasesAt aliasAddress with _ | ⟨a, rest⟩
  · rw [hlist] at hitem
    cases hitem
  · rw [hlist] at hfirst hitem hsorted
    obtain rfl : a = first := Option.some.inj hfirst
    rcases List.mem_cons.mp hitem with rfl | hmem
    · exact le_refl _
    · exact List.rel_of_pairwise_cons hsorted hmem

/-- An alias of the account that a recipient has leaves it the account. -/
theorem recipientAccount_saveAliasItem {env : Env} {item : Alias}
    (hitem : item.aliasAddress = recipientAddress)
    (haccount : recipientAccount env recipientAddress s = some item.accountId) :
    recipientAccount env recipientAddress (s.saveAliasItem item) = some item.accountId := by
  unfold recipientAccount at haccount ⊢
  cases hsystem : systemAlias env.mailDomain recipientAddress with
  | some system =>
    rw [hsystem] at haccount
    exact haccount
  | none =>
    rw [hsystem] at haccount
    dsimp only at haccount ⊢
    have hself : item ∈ (s.saveAliasItem item).aliasesAt recipientAddress :=
      mem_aliasesAt.mpr ⟨KeyedTable.mem_put.mpr (.inl rfl), hitem⟩
    cases hfirst : ((s.saveAliasItem item).aliasesAt recipientAddress).head? with
    | none =>
      rw [List.head?_eq_none_iff.mp hfirst] at hself
      cases hself
    | some first =>
      refine congrArg some (le_antisymm (aliasesAt_head_le hfirst hself) ?_)
      obtain ⟨hmem, haddress⟩ := mem_aliasesAt.mp (List.mem_of_head? hfirst)
      rcases KeyedTable.mem_put.mp hmem with rfl | ⟨hold, -⟩
      · exact le_refl _
      · have hfirstOld : first ∈ s.aliasesAt recipientAddress :=
          mem_aliasesAt.mpr ⟨hold, haddress⟩
        cases hhead : (s.aliasesAt recipientAddress).head? with
        | none =>
          rw [List.head?_eq_none_iff.mp hhead] at hfirstOld
          cases hfirstOld
        | some head =>
          rw [hhead] at haccount
          rw [← Option.some.inj haccount]
          exact aliasesAt_head_le hhead hfirstOld

/-! ## Lookups without failures -/

/-- The alias that a lookup of an address without an account finds. -/
def globalAlias (mailDomain : String) (s : Store) (address : String) : Option Alias :=
  (systemAlias mailDomain address).or (s.aliasesAt address).head?

/-- The account of a recipient with its alias, when it has one. -/
def resolvedIn (env : Env) (s : Store) (recipientAddress : String) : Option Resolved :=
  match globalAlias env.mailDomain s recipientAddress with
  | some item => some ⟨item.accountId, some item⟩
  | none => activeOwner (ownerIn env (domainOf recipientAddress) s)

/-- A lookup takes the text apart, except for an alias of the system. -/
def Readable (mailDomain address : String) : Prop :=
  systemAlias mailDomain address ≠ none ∨ parseAddress address ≠ none

instance (mailDomain address : String) : Decidable (Readable mailDomain address) :=
  inferInstanceAs (Decidable (_ ∨ _))

theorem getAliasByGlobalAddress_eval (mailDomain address : String) (s : Store) :
    (getAliasByGlobalAddress mailDomain address).eval AliasRows.accounts s =
      (if Readable mailDomain address then .ok (globalAlias mailDomain s address)
        else .error (invalidAddress address), s) := by
  unfold getAliasByGlobalAddress globalAlias
  cases hsystem : systemAlias mailDomain address with
  | some item =>
    rw [if_pos (.inl (by simp [hsystem]))]
    rfl
  | none =>
    unfold withAddress
    cases hparse : parseAddress address with
    | none =>
      rw [if_neg (by simp [Readable, hsystem, hparse])]
      rfl
    | some parts =>
      rw [if_pos (.inr (by simp [hparse]))]
      rfl

theorem getDomainOwner_eval (env : Env) (domain : String) (s : Store) :
    (getDomainOwner env.mailDomain domain).eval AliasRows.accounts s =
      (.ok (ownerIn env domain s), s) := by
  unfold getDomainOwner ownerIn
  cases systemDomainOwner env.mailDomain domain with
  | some owner => rfl
  | none => rfl

/-- The resolution on any world that has the table for a part. -/
theorem resolve_eval {S F : Type} {sv : Service IngestService.Cmd IngestService.Cmd.Answer S F}
    {place : Store → S}
    (hplace : ∀ {α : Type} (p : DbProg α) (s : Store), (accounts p).eval sv (place s) =
      ((p.eval AliasRows.accounts s).1, place (p.eval AliasRows.accounts s).2))
    (env : Env) (recipientAddress : String) (s : Store) :
    (resolveAccountIdAndAlias env recipientAddress).eval sv (place s) =
      (if Readable env.mailDomain recipientAddress then .ok (resolvedIn env s recipientAddress)
        else .error (invalidAddress recipientAddress), place s) := by
  simp only [resolveAccountIdAndAlias, Prog.eval_bind, hplace, getAliasByGlobalAddress_eval,
    resolvedIn]
  by_cases hread : Readable env.mailDomain recipientAddress
  · simp only [if_pos hread]
    cases globalAlias env.mailDomain s recipientAddress with
    | some item => rfl
    | none =>
      simp only [resolveDomainOwner, Prog.eval_bind, hplace, getDomainOwner_eval]
      rfl
  · simp only [if_neg hread]
    rfl

theorem get_of_globalAlias_none {mailDomain address : String}
    (h : globalAlias mailDomain s address = none) (accountId : String) :
    s.aliases.get (accountId, address) = none := by
  rw [globalAlias, Option.or_eq_none_iff, List.head?_eq_none_iff] at h
  refine Option.eq_none_iff_forall_ne_some.mpr fun item hitem => ?_
  have hkey : aliasKey item = (accountId, address) := KeyedTable.key_of_get hitem
  have hat : item ∈ s.aliasesAt address :=
    mem_aliasesAt.mpr ⟨KeyedTable.mem_rows_of_get hitem, (Prod.mk.inj hkey).2⟩
  rw [h.2] at hat
  cases hat

theorem resolvedIn_accountId (env : Env) (s : Store) (recipientAddress : String) :
    (resolvedIn env s recipientAddress).map Resolved.accountId =
      recipientAccount env recipientAddress s := by
  unfold resolvedIn globalAlias recipientAccount
  cases systemAlias env.mailDomain recipientAddress with
  | some item => rfl
  | none =>
    cases (s.aliasesAt recipientAddress).head? with
    | some item => rfl
    | none => rfl

/-- The alias of a resolved account is what the lookup found. -/
theorem resolvedIn_aliasConfig {env : Env}
    {resolved : Resolved} (h : resolvedIn env s recipientAddress = some resolved) :
    resolved.aliasConfig = globalAlias env.mailDomain s recipientAddress := by
  unfold resolvedIn at h
  cases hglobal : globalAlias env.mailDomain s recipientAddress with
  | some item =>
    rw [hglobal] at h
    cases h
    rfl
  | none =>
    rw [hglobal] at h
    obtain ⟨owner, -, rfl⟩ := Option.map_eq_some_iff.mp h
    rfl

/-! ## Lookups that can fail -/

/-- The answer of a lookup that changes nothing, when it has one. -/
def Answers {α : Type} (w : World) (answer : α) (r : Option (Except DbError α)) (w' : World) : Prop :=
  w' = w ∧ ∀ x, r = some (.ok x) → x = answer

theorem answers_none {α : Type} (w : World) (answer : α) : Answers w answer none w := ⟨rfl, nofun⟩

variable {T : Option Fate → Prop}

theorem leads_answer {α : Type} (env : Env) {w : World} {answer : α}
    {r : Except DbError α} (h : ∀ x, r = .ok x → x = answer) :
    (.ret r : IngestProg (Except DbError α)).Leads (service env) T (Answers w answer) w :=
  ⟨⟨rfl, fun x hx => h x (Option.some.inj hx)⟩, fun _ => answers_none w answer⟩

theorem leads_answer_error {α : Type} (env : Env) {w : World} {answer : α}
    (error : DbError) : (.ret (.error error) : IngestProg (Except DbError α)).Leads (service env) T
      (Answers w answer) w :=
  leads_answer env nofun

theorem leads_answer_ok {α : Type} (env : Env) {w : World} {answer : α} :
    (.ret (.ok answer) : IngestProg (Except DbError α)).Leads (service env) T (Answers w answer) w :=
  leads_answer env fun _ hx => (Except.ok.inj hx).symm

theorem getAliasByGlobalAddress_leads (env : Env) (address : String) (w : World) :
    (accounts (getAliasByGlobalAddress env.mailDomain address)).Leads (service env) T
      (Answers w (globalAlias env.mailDomain w.accounts address)) w := by
  unfold getAliasByGlobalAddress globalAlias
  cases systemAlias env.mailDomain address with
  | some item => exact leads_answer_ok env
  | none =>
    unfold withAddress
    cases parseAddress address with
    | none => exact leads_answer_error env _
    | some parts =>
      refine ⟨fun _ => answers_none _ _, fun fate _ => ?_⟩
      cases fate with
      | done => exact leads_answer_ok env
      | refused => exact leads_answer_error env _
      | lost => exact leads_answer_error env _

theorem getDomainOwner_leads (env : Env) (domain : String) (w : World) :
    (accounts (getDomainOwner env.mailDomain domain)).Leads (service env) T
      (Answers w (ownerIn env domain w.accounts)) w := by
  unfold getDomainOwner ownerIn
  cases systemDomainOwner env.mailDomain domain with
  | some owner => exact leads_answer_ok env
  | none =>
    refine ⟨fun _ => answers_none _ _, fun fate _ => ?_⟩
    cases fate with
    | done => exact leads_answer_ok env
    | refused => exact leads_answer_error env _
    | lost => exact leads_answer_error env _

theorem resolve_unreadable {env : Env} (h : ¬ Readable env.mailDomain recipientAddress) :
    resolveAccountIdAndAlias env recipientAddress =
      .ret (.error (invalidAddress recipientAddress)) := by
  obtain ⟨hsystem, hparse⟩ := not_or.mp h
  unfold resolveAccountIdAndAlias getAliasByGlobalAddress withAddress
  rw [not_not.mp hsystem, not_not.mp hparse]
  rfl

/-- Whatever fails, a resolution that succeeds answers what the table says. -/
theorem resolve_leads (env : Env) (recipientAddress : String) (w : World) :
    (resolveAccountIdAndAlias env recipientAddress).Leads (service env) T
      (Answers w (resolvedIn env w.accounts recipientAddress)) w := by
  unfold resolveAccountIdAndAlias resolvedIn
  refine Prog.Leads.bind ((getAliasByGlobalAddress_leads env recipientAddress w).mono fun r w' h => ?_)
  obtain ⟨rfl, hfound⟩ := h
  match r with
  | none => exact answers_none _ _
  | some (.error error) => exact leads_answer_error env _
  | some (.ok (some item)) =>
    rw [← hfound _ rfl]
    exact leads_answer_ok env
  | some (.ok none) =>
    rw [← hfound _ rfl]
    refine Prog.Leads.bind ((getDomainOwner_leads env _ w').mono fun r w h => ?_)
    obtain ⟨rfl, howner⟩ := h
    match r with
    | none => exact answers_none _ _
    | some (.error error) => exact leads_answer_error env _
    | some (.ok owner) =>
      rw [← howner owner rfl]
      exact leads_answer_ok env

/-! ## A delivery as its resolution and the rest -/

def acceptResolved (env : Env) (msg : InboundSignalMessage) (receiveCount : Nat)
    (opts : ProcessInboundOptions) (r : Resolved) : Step Converged := do
  lookup env msg receiveCount opts r.accountId
  let received ← receive env msg opts r
  let placed ← place env msg opts r received
  let accepted ← judge msg opts r received placed
  store msg r received placed accepted

def processResolved (env : Env) (msg : InboundSignalMessage) (receiveCount : Nat)
    (opts : ProcessInboundOptions) : Except DbError (Option Resolved) →
      IngestProg (Except IngestError Unit)
  | .error error => .ret (.error (.db error))
  | .ok none => .ret (.error (.noAccount msg.primaryRecipient msg.compositeMailMessageId))
  | .ok (some r) => toResult <$>
    (acceptResolved env msg receiveCount opts r >>= converge opts).run

theorem processInbound_eq (env : Env) (msg : InboundSignalMessage) (receiveCount : Nat)
    (opts : ProcessInboundOptions) :
    processInbound env msg receiveCount opts =
      resolveAccountIdAndAlias env msg.primaryRecipient >>=
        processResolved env msg receiveCount opts := by
  unfold processInbound process accept must
  simp only [ExceptT.run_bind, ExceptT.run_mk, map_eq_pure_bind, Prog.bind_assoc]
  refine congrArg _ (funext fun r => ?_)
  match r with
  | .error error => rfl
  | .ok none => rfl
  | .ok (some r) =>
    simp only [Except.mapError, pure_bind, processResolved, acceptResolved, ExceptT.run_bind,
      map_eq_pure_bind, Prog.bind_assoc]

end SesEmailAdapter.Processor.RecipientAccount
