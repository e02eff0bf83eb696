import SesEmailAdapter.Forwarding.Targets

/-! # What the defaults of an account refer to

The defaults are ids of forwarding targets. A request keeps all of them verified email targets, but
for a deletion of the calendar default, and for an update that sets a webhook. -/

namespace SesEmailAdapter.Forwarding.TargetDefaults
open Lib
open Database.Shared
open Database.AccountDatabase (isSystemAccount)
open Api.ThreadsApi (ApiError)
open Forwarding.Targets

/-! ## What the defaults refer to -/

def VerifiedEmail (s : Store) (accountId id : String) : Prop :=
  ∃ row, s.targets.get (accountId, id) = some row ∧ row.status = .verified ∧ row.type = .email

def digestTarget (account : AccountMeta) : Option String :=
  account.digest.map DigestConfig.forwardingTargetId

/-- The empty text is none. -/
def calendarTarget (account : AccountMeta) : Option String :=
  account.defaultCalendarInviteForwardingTargetId.filter (· ≠ "")

def Names (account : AccountMeta) (id : String) : Prop :=
  digestTarget account = some id ∨ calendarTarget account = some id

/-- The defaults refer to verified email targets, and a webhook is a URL. -/
structure Intact (s : Store) : Prop where
  named : ∀ accountId account, s.account accountId = some account →
    ∀ id, Names account id → VerifiedEmail s accountId id
  urls : ∀ row ∈ s.targets.rows, row.type = .webhook → ':' ∈ row.target.toList

/-- The targets that an update sets. -/
def Sets (update : AccountUpdate) (id : String) : Prop :=
  update.digest.join.map DigestConfig.forwardingTargetId = some id ∨
    update.defaultCalendarInviteForwardingTargetId.join.filter (· ≠ "") = some id

/-! ## Writes -/

section
variable {s : Store}

variable {accountId : String}

variable {row : AccountMeta}

theorem account_put :
    ({ s with accounts := s.accounts.put row } : Store).account accountId =
      if accountId = row.id ∧ isSystemAccount accountId = false then some row
      else s.account accountId := by
  unfold Store.account
  by_cases hsystem : isSystemAccount accountId = true
  · simp [hsystem]
  · by_cases hid : accountId = row.id
    · subst hid
      simp [hsystem]
    · simp [hsystem, hid, KeyedTable.get_put]

theorem names_bareAccount {accountId id : String} : ¬ Names (bareAccount accountId) id := by
  simp [Names, bareAccount, digestTarget, calendarTarget]

/-- What an updated account names it named before, or the update sets it. -/
theorem names_apply {update : AccountUpdate} {account : AccountMeta} {id : String}
    (h : Names (update.apply account) id) : Names account id ∨ Sets update id := by
  obtain ⟨digest, calendar, _⟩ := update
  obtain h | h := h
  · cases digest with
    | none => exact .inl (.inl h)
    | some digest => exact .inr (.inl h)
  · cases calendar with
    | none => exact .inl (.inr h)
    | some calendar => exact .inr (.inr h)

theorem Intact.putAccount (hs : Intact s)
    (hrow : isSystemAccount row.id = false → ∀ id, Names row id → VerifiedEmail s row.id id) :
    Intact { s with accounts := s.accounts.put row } := by
  refine ⟨fun accountId account haccount id hid => ?_, hs.urls⟩
  rw [account_put] at haccount
  split at haccount
  · next hput =>
    cases haccount
    obtain ⟨rfl, hsystem⟩ := hput
    exact hrow hsystem id hid
  · exact hs.named accountId account haccount id hid

/-- The row that an update starts from. -/
theorem Intact.stored (hs : Intact s) (hsystem : isSystemAccount accountId = false) {id : String}
    (hid : Names ((s.accounts.get accountId).getD (bareAccount accountId)) id) :
    VerifiedEmail s accountId id := by
  cases hget : s.accounts.get accountId with
  | none =>
    rw [hget] at hid
    exact absurd hid names_bareAccount
  | some account =>
    rw [hget] at hid
    refine hs.named accountId account ?_ id hid
    rw [Store.account, hsystem]
    exact hget

theorem id_stored (accountId : String) :
    ((s.accounts.get accountId).getD (bareAccount accountId)).id = accountId := by
  cases hget : s.accounts.get accountId with
  | none => rfl
  | some account => exact KeyedTable.key_of_get hget

theorem Intact.updateAccount {update : AccountUpdate} (hs : Intact s)
    (hsets : ∀ id, Sets update id → VerifiedEmail s accountId id) :
    Intact (exec (.updateAccount accountId update) s).2 := by
  refine hs.putAccount fun hsystem id hid => ?_
  change isSystemAccount ((s.accounts.get accountId).getD (bareAccount accountId)).id = false
    at hsystem
  show VerifiedEmail s ((s.accounts.get accountId).getD (bareAccount accountId)).id id
  rw [id_stored] at hsystem ⊢
  obtain hstored | hset := names_apply hid
  · exact hs.stored hsystem hstored
  · exact hsets id hset

theorem Intact.createAccount (hs : Intact s) (hrow : ∀ id, ¬ Names row id) :
    Intact (exec (.createAccount row) s).2 := by
  simp only [exec]
  split
  · exact hs
  · exact hs.putAccount fun _ id hid => absurd hid (hrow id)

/-- A target is saved where there is no verified one, or as a verified email target. -/
theorem Intact.saveTarget {row : StoredTarget} (hs : Intact s)
    (hurl : row.type = .webhook → ':' ∈ row.target.toList)
    (hkeeps : VerifiedEmail s row.accountId row.target → row.status = .verified ∧ row.type = .email) :
    Intact { s with targets := s.targets.put row } := by
  refine ⟨fun accountId account haccount id hid => ?_, fun target htarget => ?_⟩
  · obtain ⟨target, hget, hverified⟩ := hs.named accountId account haccount id hid
    show ∃ target, (s.targets.put row).get (accountId, id) = some target ∧ _
    rw [KeyedTable.get_put]
    by_cases hkey : (accountId, id) = targetKey row
    · rw [if_pos hkey]
      have hkey' : accountId = row.accountId ∧ id = row.target := Prod.ext_iff.mp hkey
      refine ⟨row, rfl, hkeeps ?_⟩
      rw [← hkey'.1, ← hkey'.2]
      exact ⟨target, hget, hverified⟩
    · rw [if_neg hkey]
      exact ⟨target, hget, hverified⟩
  · obtain rfl | ⟨hold, -⟩ := KeyedTable.mem_put.mp htarget
    · exact hurl
    · exact hs.urls target hold

/-- A target that no default of its account names is removed. -/
theorem Intact.deleteTarget {accountId address : String} (hs : Intact s)
    (hfree : ∀ account, s.account accountId = some account → ¬ Names account address) :
    Intact { s with targets := s.targets.erase (accountId, address) } := by
  refine ⟨fun accountId' account haccount id hid => ?_, fun target htarget => ?_⟩
  · obtain ⟨target, hget, hverified⟩ := hs.named accountId' account haccount id hid
    refine ⟨target, ?_, hverified⟩
    rw [KeyedTable.get_erase, if_neg]
    · exact hget
    · intro hkey
      cases hkey
      exact hfree account haccount hid
  · exact hs.urls target (List.mem_of_mem_filter htarget)

end

/-! ## Requests -/

section
variable {s : Store} {T : Option Fate → Prop} {α : Type}

/-- The request leaves the defaults intact, whatever its calls come to. -/
abbrev Keeps (p : TargetProg α) (s : Store) : Prop :=
  p.Leads Targets.service (fun _ => True) (fun _ => Intact) s

theorem keeps_ret (a : α) (hs : Intact s) : Keeps (.ret a : TargetProg α) s :=
  ⟨hs, fun _ => hs⟩

theorem keeps_read {c : Cmd} {k : c.Answer → TargetProg α} (hread : (exec c s).2 = s)
    (hs : Intact s)
    (hnext : ∀ r, r = failure c ∨ r = (exec c s).1 → Keeps (k r) s) :
    Keeps (.call c k) s :=
  Prog.leads_read hread hs hnext

theorem keeps_write {c : Cmd} {k : c.Answer → TargetProg α} (hs : Intact s)
    (hexec : Intact (exec c s).2) (hnext : ∀ r s, Intact s → Keeps (k r) s) :
    Keeps (.call c k) s :=
  Prog.leads_write hs hexec hs hnext

theorem getForwardingTarget_keeps {accountId target : String}
    {k : Except DbError (Option StoredTarget) → TargetProg α} (hs : Intact s)
    (hfailed : ∀ error, Keeps (k (.error error)) s)
    (hrow : Keeps (k (.ok (s.targets.get (accountId, target)))) s) :
    Keeps (.call (.getForwardingTarget accountId target) k) s := by
  refine keeps_read rfl hs fun answer hanswer => ?_
  obtain rfl | rfl := hanswer
  · exact hfailed _
  · exact hrow

theorem getAccount_keeps {k : Except DbError (Option AccountMeta) → TargetProg α} (hs : Intact s)
    (hfailed : ∀ error, Keeps (k (.error error)) s)
    (haccount : Keeps (k (.ok (s.account accountId))) s) :
    Keeps (.call (.getAccount accountId) k) s := by
  refine keeps_read rfl hs fun answer hanswer => ?_
  obtain rfl | rfl := hanswer
  · exact hfailed _
  · exact haccount

theorem createForwardingTarget_keeps (accountId : String) (body : CreateForwardingTargetRequest)
    (token : String) (verification : Except String Unit) (hs : Intact s) :
    Keeps (createForwardingTarget accountId body token verification) s := by
  refine getForwardingTarget_keeps hs (fun _ => keeps_ret _ hs) ?_
  dsimp only [Prog.bind]
  cases hnone : (s.targets.get (accountId, body.target)).filter (·.status = .verified) with
  | some _ => exact keeps_ret _ hs
  | none =>
    obtain _ | _ := verification
    · exact keeps_ret _ hs
    · refine keeps_write hs (hs.saveTarget body.isUrl fun hold => ?_) fun r s' hs' => ?_
      · obtain ⟨row, hget, hverified, -⟩ := hold
        change s.targets.get (accountId, body.target) = some row at hget
        rw [hget] at hnone
        simp [hverified] at hnone
      · change Except DbError Unit at r
        cases r <;> exact keeps_ret _ hs'

theorem verifyForwardingTarget_keeps (accountId address token : String) (hs : Intact s) :
    Keeps (verifyForwardingTarget accountId address token) s := by
  refine getForwardingTarget_keeps hs (fun _ => keeps_ret _ hs) ?_
  cases hget : s.targets.get (accountId, pathAddress address) with
  | none => exact keeps_ret _ hs
  | some existing =>
    show Keeps (ite _ _ (ite _ _ _)) s
    split
    · exact keeps_ret _ hs
    · next hpending =>
      split
      · exact keeps_ret _ hs
      · refine keeps_write hs (hs.saveTarget (hs.urls existing (KeyedTable.mem_rows_of_get hget))
          fun hold => ?_) fun r s' hs' => ?_
        · obtain ⟨row, hrow, hverified, -⟩ := hold
          have hkey : targetKey existing = (accountId, pathAddress address) :=
            KeyedTable.key_of_get hget
          change s.targets.get (targetKey existing) = some row at hrow
          rw [hkey, hget] at hrow
          cases hrow
          exact absurd hverified hpending
        · change Except DbError Unit at r
          match r with
          | .error _ => exact keeps_ret _ hs'
          | .ok () => exact keeps_ret _ hs'

/-- The checks by which a target is kept: the digest or a rule uses it. -/
def InUse (s : Store) (accountId address : String) : Prop :=
  (∃ account, s.account accountId = some account ∧ digestTarget account = some address) ∨
    ∃ rule ∈ s.rules, rule.accountId = accountId ∧ forwardsTo address rule = true

theorem deleteForwardingTarget_keeps (accountId address : String) (hs : Intact s)
    (hfits : ∀ account, s.account accountId = some account →
      calendarTarget account = some (pathAddress address) →
        InUse s accountId (pathAddress address)) :
    Keeps (deleteForwardingTarget accountId address) s := by
  refine getAccount_keeps hs (fun _ => keeps_ret _ hs) ?_
  show Keeps (ite _ _ _) s
  split
  · exact keeps_ret _ hs
  · next hdigest =>
    refine keeps_read rfl hs fun rules hrules => ?_
    obtain rfl | rfl := hrules
    · exact keeps_ret _ hs
    · dsimp only [exec, Prog.bind]
      cases hnone : (s.rules.filter fun rule => rule.accountId = accountId).find?
          (forwardsTo (pathAddress address)) with
      | some _ => exact keeps_ret _ hs
      | none =>
        refine keeps_write hs (hs.deleteTarget fun account haccount hnames => ?_)
          fun r s' hs' => keeps_ret _ hs'
        have hfree : digestTarget account ≠ some (pathAddress address) := by
          rw [haccount] at hdigest
          exact hdigest
        obtain hname | hname := hnames
        · exact hfree hname
        · obtain ⟨account', haccount', hused⟩ | ⟨rule, hrule, hof, hforwards⟩ :=
            hfits account haccount hname
          · rw [haccount] at haccount'
            cases haccount'
            exact hfree hused
          · have hmem : rule ∈ s.rules.filter fun rule => rule.accountId = accountId :=
              List.mem_filter.mpr ⟨hrule, decide_eq_true hof⟩
            exact absurd hforwards (List.find?_eq_none.mp hnone rule hmem)

def Verified (s : Store) (accountId id : String) : Prop :=
  ∃ row, s.targets.get (accountId, id) = some row ∧ row.status = .verified

/-- A target that is set has passed its check, and nothing was written. -/
theorem checkTarget_leads (accountId : String) (error : ApiError) (target : Option String)
    (hs : Intact s) :
    (checkTarget accountId error target).Leads Targets.service (fun _ => True)
      (fun r s' => Intact s' ∧
        (r = some (.ok ()) → s' = s ∧ ∀ id, target = some id → Verified s accountId id)) s := by
  cases target with
  | none => exact ⟨⟨hs, fun _ => ⟨rfl, by simp⟩⟩, fun _ => ⟨hs, by simp⟩⟩
  | some target =>
    refine Prog.leads_read rfl ⟨hs, by simp⟩ fun answer hanswer => ?_
    obtain rfl | rfl := hanswer
    · exact ⟨⟨hs, by simp⟩, fun _ => ⟨hs, by simp⟩⟩
    · dsimp only [exec, Prog.bind]
      cases hrow : (s.targets.get (accountId, target)).filter (·.status = .verified) with
      | none => exact ⟨⟨hs, by simp⟩, fun _ => ⟨hs, by simp⟩⟩
      | some row =>
        obtain ⟨hget, hverified⟩ := Option.filter_eq_some_iff.mp hrow
        refine ⟨⟨hs, fun _ => ⟨rfl, fun id hid => ?_⟩⟩, fun _ => ⟨hs, by simp⟩⟩
        cases hid
        exact ⟨row, hget, of_decide_eq_true hverified⟩

theorem patchAccount_keeps (accountId : String) (body : UpdateAccountRequest) (hs : Intact s)
    (hfits : (∀ id, Sets body.update id → Verified s accountId id) →
      ∀ id, Sets body.update id → VerifiedEmail s accountId id) :
    Keeps (patchAccount accountId body) s := by
  refine Prog.Leads.bind ((checkTarget_leads accountId _ body.digestTarget hs).mono
    fun r s' hr => ?_)
  match r with
  | none => exact hr.1
  | some (.error _) => exact ⟨hr.1, fun _ => hr.1⟩
  | some (.ok ()) =>
    obtain ⟨hs', hdigest⟩ := hr
    obtain ⟨rfl, hdigest⟩ := hdigest rfl
    refine Prog.Leads.bind ((checkTarget_leads accountId _ body.calendarTarget hs').mono
      fun r s'' hr => ?_)
    match r with
    | none => exact hr.1
    | some (.error _) => exact ⟨hr.1, fun _ => hr.1⟩
    | some (.ok ()) =>
      obtain ⟨hs'', hcalendar⟩ := hr
      obtain ⟨rfl, hcalendar⟩ := hcalendar rfl
      have hverified : ∀ id, Sets body.update id → Verified s'' accountId id := by
        intro id hid
        obtain hid | hid := hid
        · exact hdigest id hid
        · exact hcalendar id hid
      exact keeps_write hs'' (hs''.updateAccount (hfits hverified)) fun r s hs => keeps_ret _ hs

theorem unsubscribeDigest_keeps (accountId : String) (hs : Intact s) :
    Keeps (unsubscribeDigest accountId) s := by
  refine keeps_write hs (hs.updateAccount fun id hid => ?_) fun r s hs => keeps_ret _ hs
  simp [Sets] at hid

def newAccount (accountId createdAt : String) : AccountMeta := ⟨accountId, createdAt, none, none, none⟩

theorem createAccount_keeps (accountId createdAt : String) (hs : Intact s) :
    Keeps (request (.createAccount (newAccount accountId createdAt))) s := by
  refine keeps_write hs (hs.createAccount fun id hid => ?_) fun r s hs => keeps_ret _ hs
  simp [Names, newAccount, digestTarget, calendarTarget] at hid

theorem updateSome_keeps (accountId : String) (update : AccountUpdate) (hs : Intact s)
    (hsets : ∀ id, Sets update id → VerifiedEmail s accountId id) :
    Keeps (if update.digest.isNone ∧ update.defaultCalendarInviteForwardingTargetId.isNone then
        return ()
      else do
        let _ ← request (.updateAccount accountId update)
        return ()) s := by
  split
  · exact keeps_ret _ hs
  · exact keeps_write hs (hs.updateAccount hsets) fun _ _ hs => keeps_ret _ hs

theorem setAccountForwardingDefaults_keeps (accountId target : String) (hs : Intact s)
    (hverified : VerifiedEmail s accountId target) :
    Keeps (setAccountForwardingDefaults accountId target) s := by
  refine getAccount_keeps hs (fun _ => keeps_ret _ hs) ?_
  cases s.account accountId with
  | none => exact keeps_ret _ hs
  | some account =>
    refine updateSome_keeps accountId _ hs fun id hid => ?_
    have hid' : id = target := by
      obtain hid | hid := hid
      · cases hdigest : account.digest with
        | none =>
          simp [hdigest] at hid
          exact hid.symm
        | some digest => simp [hdigest] at hid
      · by_cases hempty : account.defaultCalendarInviteForwardingTargetId.getD "" = ""
        · simp [hempty, Option.filter_eq_some_iff] at hid
          exact hid.1.symm
        · simp [hempty] at hid
    rw [hid']
    exact hverified

/-- A row at an address is an email target. -/
theorem Intact.isEmail {row : StoredTarget} {accountId address : String} (hs : Intact s)
    (hget : s.targets.get (accountId, address) = some row) (hplain : ':' ∉ address.toList) :
    row.type = .email := by
  have hkey : targetKey row = (accountId, address) := KeyedTable.key_of_get hget
  have htarget : row.target = address := congrArg Prod.snd hkey
  cases htype : row.type with
  | email => rfl
  | webhook =>
    have hurl := hs.urls row (KeyedTable.mem_rows_of_get hget) htype
    rw [htarget] at hurl
    exact absurd hurl hplain

/-- The target that the owner's email makes. -/
def ownTarget (accountId : String) (email : OwnerEmail) (token : String) : StoredTarget :=
  ⟨⟨email.address, .email, .verified⟩, accountId, token⟩

theorem ensureDefaultForwardingTarget_keeps (accountId : String) (email : OwnerEmail)
    (token : String) (hs : Intact s) :
    Keeps (ensureDefaultForwardingTarget accountId email token) s := by
  refine getForwardingTarget_keeps hs (fun _ => keeps_ret _ hs) ?_
  show Keeps (ite _ _ _) s
  split
  · next hverified =>
    obtain ⟨row, hget, hstatus⟩ := Option.map_eq_some_iff.mp hverified
    exact setAccountForwardingDefaults_keeps accountId _ hs
      ⟨row, hget, hstatus, hs.isEmail hget email.plain⟩
  · have hsaved : Intact { s with targets := s.targets.put (ownTarget accountId email token) } :=
      hs.saveTarget (by simp [ownTarget]) fun _ => ⟨rfl, rfl⟩
    refine ⟨fun _ => hs, fun fate _ => ?_⟩
    cases fate with
    | done =>
      exact setAccountForwardingDefaults_keeps accountId _ hsaved
        ⟨ownTarget accountId email token, KeyedTable.get_put_self _ _, rfl, rfl⟩
    | refused => exact keeps_ret _ hs
    | lost => exact keeps_ret _ hsaved

end

end SesEmailAdapter.Forwarding.TargetDefaults
