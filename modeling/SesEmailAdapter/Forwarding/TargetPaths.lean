import SesEmailAdapter.Forwarding.TargetDefaults
import SesEmailAdapter.Lib.PercentText

/-! # Targets in paths

The requests that verify and delete a forwarding target name it in their path. A target is stored
as it was given, and the path is decoded and lower-cased before it is looked up. -/

namespace SesEmailAdapter.Forwarding.TargetPaths
open Lib Lib.Prog
open Api.ThreadsApi (ApiError internalError)
open Forwarding.Targets Forwarding.TargetDefaults
open Lib.PercentText
open Email.SendPaths (ForwardingTargetType)
open Processor.RuleOutcome (Rule)

/-! ## The requests -/

section Requests
variable (toLowerCase : String → String)

/-- The target that a path names; a malformed escape throws. -/
def pathTarget (param : String) : Option String := (decodeURIComponent param).map toLowerCase

def verifyRequest (accountId param token : String) : TargetProg (Except ApiError StoredTarget) :=
  match pathTarget toLowerCase param with
  | none => return .error internalError
  | some address => verifyTargetAt accountId address token

def deleteRequest (accountId param : String) : TargetProg (Except ApiError Unit) :=
  match pathTarget toLowerCase param with
  | none => return .error internalError
  | some address => deleteTargetAt accountId address

end Requests

/-! ## What they do to the target at an address -/

variable {s : Store} {accountId address token target param : String} {row : StoredTarget}

/-- Whatever becomes of the calls. -/
abbrev AnyTurn (_ : Option Fate) : Prop := True

def erased (s : Store) (accountId address : String) : Store :=
  { s with targets := s.targets.erase (accountId, address) }

def verifiedRow (row : StoredTarget) : StoredTarget := { row with status := .verified }

theorem deleteTargetAt_leads (s : Store) (accountId address : String) :
    (deleteTargetAt accountId address).Leads service AnyTurn
      (fun r s' => (s' = s ∨ s' = erased s accountId address) ∧
        (r = some (.ok ()) → ¬ InUse s accountId address ∧ s' = erased s accountId address)) s := by
  refine leads_read rfl ⟨.inl rfl, nofun⟩ fun account haccount => ?_
  obtain rfl | rfl := haccount
  · exact ⟨⟨.inl rfl, nofun⟩, fun _ => ⟨.inl rfl, nofun⟩⟩
  · show Leads _ _ _ (ite _ _ _) s
    split
    case isTrue => exact ⟨⟨.inl rfl, nofun⟩, fun _ => ⟨.inl rfl, nofun⟩⟩
    case isFalse hdigest =>
      refine leads_read rfl ⟨.inl rfl, nofun⟩ fun rules hrules => ?_
      obtain rfl | rfl := hrules
      · exact ⟨⟨.inl rfl, nofun⟩, fun _ => ⟨.inl rfl, nofun⟩⟩
      · dsimp only [exec, Prog.bind]
        cases hnone : (s.rules.filter fun rule => rule.accountId = accountId).find?
            (forwardsTo address) with
        | some _ => exact ⟨⟨.inl rfl, nofun⟩, fun _ => ⟨.inl rfl, nofun⟩⟩
        | none =>
          have hfree : ¬ InUse s accountId address := by
            intro hused
            obtain ⟨account, haccount, hused⟩ | ⟨rule, hrule, hof, hforwards⟩ := hused
            · rw [haccount] at hdigest
              exact hdigest hused
            · have hmem : rule ∈ s.rules.filter fun rule => rule.accountId = accountId :=
                List.mem_filter.mpr ⟨hrule, decide_eq_true hof⟩
              exact List.find?_eq_none.mp hnone rule hmem hforwards
          refine ⟨fun _ => ⟨.inl rfl, nofun⟩, fun fate _ => ?_⟩
          cases fate with
          | done => exact ⟨⟨.inr rfl, fun _ => ⟨hfree, rfl⟩⟩, fun _ => ⟨.inr rfl, nofun⟩⟩
          | refused => exact ⟨⟨.inl rfl, nofun⟩, fun _ => ⟨.inl rfl, nofun⟩⟩
          | lost => exact ⟨⟨.inr rfl, nofun⟩, fun _ => ⟨.inr rfl, nofun⟩⟩

/-- Nothing else keeps a target. -/
theorem deleteTargetAt_run (hfree : ¬ InUse s accountId address) :
    ((deleteTargetAt accountId address).run service [] s).result = some (.ok ()) := by
  have hdigest : ¬ ((s.account accountId).bind AccountMeta.digest).map
      DigestConfig.forwardingTargetId = some address := by
    intro hdigest
    cases haccount : s.account accountId with
    | none =>
      rw [haccount] at hdigest
      cases hdigest
    | some account =>
      rw [haccount] at hdigest
      exact hfree (.inl ⟨account, haccount, hdigest⟩)
  have hrules : (s.rules.filter fun rule => rule.accountId = accountId).find?
      (forwardsTo address) = none := by
    refine List.find?_eq_none.mpr fun rule hrule hforwards => ?_
    obtain ⟨hmem, hof⟩ := List.mem_filter.mp hrule
    exact hfree (.inr ⟨rule, hmem, of_decide_eq_true hof, hforwards⟩)
  show ((ite _ _ _ : TargetProg (Except ApiError Unit)).run service [] s).result = _
  rw [if_neg hdigest]
  simp [service, settleRequest, exec, Prog.run, hrules, Except.mapError]

theorem none_ne_ok {ε α : Type} {P : α → Prop} (found : α)
    (h : (none : Option (Except ε α)) = some (.ok found)) : P found := by
  cases h

theorem error_ne_ok {ε α : Type} {P : α → Prop} {error : ε} (found : α)
    (h : some (.error error : Except ε α) = some (.ok found)) : P found := by
  cases h

/-- A verification that succeeds is one of the target at the address. -/
theorem verifyTargetAt_leads (s : Store) (accountId address token : String) :
    (verifyTargetAt accountId address token).Leads service AnyTurn
      (fun r s' => (∀ other ≠ address,
          s'.targets.get (accountId, other) = s.targets.get (accountId, other)) ∧
        ∀ found, r = some (.ok found) → ∃ row, s.targets.get (accountId, address) = some row ∧
          found = verifiedRow row ∧ s'.targets.get (accountId, address) = some found) s := by
  have hsame : ∀ other ≠ address,
      s.targets.get (accountId, other) = s.targets.get (accountId, other) := fun _ _ => rfl
  refine leads_read rfl ⟨hsame, none_ne_ok⟩ fun existing hexisting => ?_
  obtain rfl | rfl := hexisting
  · exact ⟨⟨hsame, error_ne_ok⟩, fun _ => ⟨hsame, none_ne_ok⟩⟩
  · dsimp only [exec, Prog.bind]
    cases hget : s.targets.get (accountId, address) with
    | none => exact ⟨⟨hsame, error_ne_ok⟩, fun _ => ⟨hsame, none_ne_ok⟩⟩
    | some row =>
      show Leads _ _ _ (ite _ _ (ite _ _ _)) s
      split
      case isTrue hverified =>
        refine ⟨⟨hsame, fun found hfound => ?_⟩, fun _ => ⟨hsame, none_ne_ok⟩⟩
        obtain rfl := Except.ok.inj (Option.some.inj hfound)
        refine ⟨row, rfl, ?_, hget⟩
        rw [verifiedRow, ← hverified]
      case isFalse =>
        split
        case isTrue => exact ⟨⟨hsame, error_ne_ok⟩, fun _ => ⟨hsame, none_ne_ok⟩⟩
        case isFalse =>
          have hkey : targetKey (verifiedRow row) = (accountId, address) :=
            (KeyedTable.key_of_get hget : targetKey row = (accountId, address))
          have hothers : ∀ other ≠ address,
              (s.targets.put (verifiedRow row)).get (accountId, other) =
                s.targets.get (accountId, other) := by
            intro other hne
            refine KeyedTable.get_put_ne _ _ fun h => hne ?_
            exact (Prod.mk.inj (h.trans hkey)).2
          have hself : (s.targets.put (verifiedRow row)).get (accountId, address) =
              some (verifiedRow row) := by
            rw [← hkey, KeyedTable.get_put_self]
          refine ⟨fun _ => ⟨hsame, none_ne_ok⟩, fun fate _ => ?_⟩
          cases fate with
          | done =>
            refine ⟨⟨hothers, fun found hfound => ?_⟩, fun _ => ⟨hothers, none_ne_ok⟩⟩
            obtain rfl := Except.ok.inj (Option.some.inj hfound)
            exact ⟨row, rfl, rfl, hself⟩
          | refused => exact ⟨⟨hsame, error_ne_ok⟩, fun _ => ⟨hsame, none_ne_ok⟩⟩
          | lost => exact ⟨⟨hothers, error_ne_ok⟩, fun _ => ⟨hothers, none_ne_ok⟩⟩

/-- The token of a target verifies it. -/
theorem verifyTargetAt_run (hrow : s.targets.get (accountId, address) = some row) :
    ((verifyTargetAt accountId address row.token).run service [] s).result =
      some (.ok (verifiedRow row)) := by
  by_cases hverified : row.status = .verified
  · have hsame : verifiedRow row = row := by
      rw [verifiedRow, ← hverified]
    simp [verifyTargetAt, service, settleRequest, exec, Prog.run, hrow, hverified, hsame]
  · simp [verifyTargetAt, service, settleRequest, exec, Prog.run, hrow, hverified, verifiedRow]

/-! ## Requests on a stored target -/

section
variable (toLowerCase : String → String) (enabled : Rule → Bool)

/-- The digest, the calendar default or an enabled rule of the account refers to the target. -/
def References (s : Store) (accountId target : String) : Prop :=
  (∃ account, s.account accountId = some account ∧ Names account target) ∨
    ∃ rule ∈ s.rules, rule.accountId = accountId ∧ enabled rule = true ∧
      forwardsTo target rule = true

/-- The requests whose path has the text act on the target: a deletion that succeeds leaves no row
of it, and none succeeds while something refers to it; a verification by its token verifies it; and
neither touches another target. -/
structure Addresses (s : Store) (accountId target param : String) : Prop where
  deletes : ∀ fs, ((deleteRequest toLowerCase accountId param).run service fs s).result =
      some (.ok ()) →
    ((deleteRequest toLowerCase accountId param).run service fs s).store.targets.get
      (accountId, target) = none
  refuses : References enabled s accountId target → ∀ fs,
    ((deleteRequest toLowerCase accountId param).run service fs s).result ≠ some (.ok ())
  verifies : ∀ row, s.targets.get (accountId, target) = some row →
    ((verifyRequest toLowerCase accountId param row.token).run service [] s).result =
      some (.ok (verifiedRow row)) ∧
    ∀ fs found, ((verifyRequest toLowerCase accountId param row.token).run service fs s).result =
        some (.ok found) →
      found = verifiedRow row ∧
      ((verifyRequest toLowerCase accountId param row.token).run service fs s).store.targets.get
        (accountId, target) = some found
  spares : ∀ other ≠ target, ∀ fs token,
    ((deleteRequest toLowerCase accountId param).run service fs s).store.targets.get
      (accountId, other) = s.targets.get (accountId, other) ∧
    ((verifyRequest toLowerCase accountId param token).run service fs s).store.targets.get
      (accountId, other) = s.targets.get (accountId, other)

variable {toLowerCase enabled}

theorem References.inUse (h : References enabled s accountId target)
    (hcalendar : ∀ account, s.account accountId = some account →
      calendarTarget account = some target → InUse s accountId target) :
    InUse s accountId target := by
  obtain ⟨account, haccount, hdigest | hname⟩ | ⟨rule, hrule, hof, -, hforwards⟩ := h
  · exact .inl ⟨account, haccount, hdigest⟩
  · exact hcalendar account haccount hname
  · exact .inr ⟨rule, hrule, hof, hforwards⟩

theorem addresses_of_path (hpath : pathTarget toLowerCase param = some target)
    (hcalendar : ∀ account, s.account accountId = some account →
      calendarTarget account = some target → InUse s accountId target) :
    Addresses toLowerCase enabled s accountId target param := by
  have hdelete : deleteRequest toLowerCase accountId param = deleteTargetAt accountId target := by
    rw [deleteRequest, hpath]
  have hverify (token : String) :
      verifyRequest toLowerCase accountId param token = verifyTargetAt accountId target token := by
    rw [verifyRequest, hpath]
  have hdeleted (fs : Faults Fate) :=
    (deleteTargetAt_leads s accountId target).run trivial fs fun _ _ => trivial
  have hverified (fs : Faults Fate) (token : String) :=
    (verifyTargetAt_leads s accountId target token).run trivial fs fun _ _ => trivial
  refine ⟨fun fs hok => ?_, fun hrefers fs hok => ?_, fun row hrow => ⟨?_, fun fs found hok => ?_⟩,
    fun other hne fs token => ⟨?_, ?_⟩⟩
  · rw [hdelete] at hok ⊢
    rw [((hdeleted fs).2 hok).2]
    show (s.targets.erase (accountId, target)).get (accountId, target) = none
    rw [KeyedTable.get_erase, if_pos rfl]
  · rw [hdelete] at hok
    exact ((hdeleted fs).2 hok).1 (hrefers.inUse hcalendar)
  · rw [hverify]
    exact verifyTargetAt_run hrow
  · rw [hverify] at hok ⊢
    obtain ⟨row', hrow', hfound, hstored⟩ := (hverified fs row.token).2 found hok
    obtain rfl := Option.some.inj (hrow.symm.trans hrow')
    exact ⟨hfound, hstored⟩
  · rw [hdelete]
    obtain hsame | herased := (hdeleted fs).1
    · rw [hsame]
    · rw [herased]
      show (s.targets.erase (accountId, target)).get (accountId, other) = _
      rw [KeyedTable.get_erase, if_neg fun h => hne (Prod.mk.inj h).2]
  · rw [hverify]
    exact (hverified fs token).1 other hne

/-- **Targets in paths.** The requests act on a stored target just when its text in the path comes
out as the target itself, and the calendar default is not all that refers to it. -/
theorem addresses_iff (toLowerCase : String → String) (enabled : Rule → Bool) (s : Store)
    (accountId target param : String) (row : StoredTarget)
    (hrow : s.targets.get (accountId, target) = some row) :
    Addresses toLowerCase enabled s accountId target param ↔
      pathTarget toLowerCase param = some target ∧
        ∀ account, s.account accountId = some account → calendarTarget account = some target →
          InUse s accountId target := by
  refine ⟨fun h => ?_, fun h => addresses_of_path h.1 h.2⟩
  have hpath : pathTarget toLowerCase param = some target := by
    have hverified := (h.verifies row hrow).1
    cases hpath : pathTarget toLowerCase param with
    | none =>
      rw [verifyRequest, hpath] at hverified
      cases hverified
    | some address =>
      rw [verifyRequest, hpath] at hverified
      obtain ⟨-, hfound⟩ := (verifyTargetAt_leads s accountId address row.token).run trivial []
        fun _ _ => trivial
      obtain ⟨row', hrow', heq, -⟩ := hfound _ hverified
      have hkey : targetKey row = (accountId, target) := KeyedTable.key_of_get hrow
      have hkey' : targetKey row' = (accountId, address) := KeyedTable.key_of_get hrow'
      have hsame : targetKey (verifiedRow row) = targetKey (verifiedRow row') := by rw [heq]
      change targetKey row = targetKey row' at hsame
      rw [hkey, hkey'] at hsame
      rw [(Prod.mk.inj hsame).2]
  refine ⟨hpath, fun account haccount hname => ?_⟩
  by_contra hfree
  have hdeleted := deleteTargetAt_run hfree
  refine h.refuses (.inl ⟨account, haccount, .inr hname⟩) [] ?_
  rw [deleteRequest, hpath]
  exact hdeleted

end

/-! ### A webhook with a capital letter -/

def noTargets : Store := ⟨.empty, .empty, []⟩

theorem hook_isUrl : ForwardingTargetType.webhook = .webhook → ':' ∈ "https://h/A".toList := by
  decide

def hookBody : CreateForwardingTargetRequest := ⟨"https://h/A", .webhook, hook_isUrl⟩

/-- The request that creates the webhook, after its test has gone well. -/
def hookCreated : Outcome Store Cmd Fate (Except ApiError StoredTarget) :=
  (createForwardingTarget "acc" hookBody "token" (.ok ())).run service [] noTargets

def hookRow : StoredTarget := ⟨⟨"https://h/A", .webhook, .verified⟩, "acc", "token"⟩

theorem pathTarget_plain {toLowerCase : String → String} (h : '%' ∉ param.toList) :
    pathTarget toLowerCase param = some (toLowerCase param) := by
  rw [pathTarget, decodeURIComponent_plain h]
  rfl

/-- Its deletion succeeds, and leaves it. -/
theorem hook_survives : hookCreated.result = some (.ok hookRow) ∧
    ((deleteRequest pathAddress "acc" "https://h/A").run service [] hookCreated.store).result =
      some (.ok ()) ∧
    ((deleteRequest pathAddress "acc" "https://h/A").run service []
      hookCreated.store).store.targets.get ("acc", "https://h/A") = some hookRow := by
  have hdelete : deleteRequest pathAddress "acc" "https://h/A" =
      deleteTargetAt "acc" (pathAddress "https://h/A") := by
    rw [deleteRequest, pathTarget_plain (by decide)]
  rw [hdelete]
  exact ⟨by decide +kernel, by decide +kernel, by decide +kernel⟩

/-! ### An address in lower case -/

theorem address_isUrl : ForwardingTargetType.email = .webhook → ':' ∈ "a@b.c".toList := by
  decide

def addressBody : CreateForwardingTargetRequest := ⟨"a@b.c", .email, address_isUrl⟩

def addressCreated : Outcome Store Cmd Fate (Except ApiError StoredTarget) :=
  (createForwardingTarget "acc" addressBody "token" (.ok ())).run service [] noTargets

theorem addresses_address :
    addressCreated.store.targets.get ("acc", "a@b.c") =
      some ⟨⟨"a@b.c", .email, .pending⟩, "acc", "token"⟩ ∧
    Addresses pathAddress (fun _ => true) addressCreated.store "acc" "a@b.c" "a@b.c" := by
  have hrow : addressCreated.store.targets.get ("acc", "a@b.c") =
      some ⟨⟨"a@b.c", .email, .pending⟩, "acc", "token"⟩ := by
    decide +kernel
  have hpath : pathTarget pathAddress "a@b.c" = some "a@b.c" := by
    rw [pathTarget_plain (by decide)]
    decide +kernel
  exact ⟨hrow, (addresses_iff pathAddress (fun _ => true) addressCreated.store "acc" "a@b.c"
    "a@b.c" _ hrow).mpr ⟨hpath, fun account haccount => nomatch haccount⟩⟩

end SesEmailAdapter.Forwarding.TargetPaths
