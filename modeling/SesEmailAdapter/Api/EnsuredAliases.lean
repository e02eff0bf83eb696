import Mathlib.Data.Set.Defs
import SesEmailAdapter.Api.AliasesApi

/-! # Aliases that are ensured

Calls that make sure of an alias and requests that change one, interleaved request by request. The
row of a missing alias is written without a condition, some time after the alias was looked up. -/

namespace SesEmailAdapter.Api.EnsuredAliases
open Lib
open SesEmailAdapter.Types Database.Shared Database.AccountsTable
open Database.AccountDatabase Database.AliasRows
open Api.ThreadsApi (ApiError)
open Api.AliasesApi hiding Cmd settle

/-! ## Histories -/

abbrev Key := String × String

/-- How far a call has come: it has to look the alias up, it has found it missing or there, or it
has written the row. A `PATCH` request has no history. -/
inductive Phase
  | asked (key : Key)
  | missing (key : Key)
  | found (key : Key)
  | created (key : Key)
  | failed
  | patch
deriving DecidableEq

inductive Response
  | ensured (r : Except DbError EnsuredAlias)
  | patched (r : Except ApiError ApiAlias)

def monitor : Monitor Cmd Cmd.Answer Fate Phase where
  allow q c := match q with
    | .asked key => c = .getAlias key.1 key.2
    | .missing key => ∃ item, c = .putAlias item ∧ aliasKey item = key
    | .found key => ∃ emxId now, c = .setAliasExchange key.1 key.2 emxId now
    | .created _ => False
    | .failed => False
    | .patch => True
  next q c _ answer := match q, c, answer with
    | .asked key, .getAlias .., .ok (some _) => .found key
    | .asked key, .getAlias .., .ok none => .missing key
    | .missing key, .putAlias _, .ok _ => .created key
    | .found key, _, _ => .found key
    | .patch, _, _ => .patch
    | _, _, _ => .failed

/-- What a task returns after its history. -/
def Returns : Phase → Response → Prop
  | .asked _, r => ∃ error, r = .ensured (.error error)
  | .missing _, r => ∃ error, r = .ensured (.error error)
  | .found _, r => ∃ result, r = .ensured result ∧ ∀ done, result = .ok done → done.created = false
  | .created key, r => ∃ item, r = .ensured (.ok ⟨item, true⟩) ∧ aliasKey item = key
  | .failed, r => ∃ error, r = .ensured (.error error)
  | .patch, r => ∃ result, r = .patched result

/-- What the caller knows of the alias, if it has looked it up. -/
def startPhase (key : Key) : Option (Option Alias) → Phase
  | none => .asked key
  | some none => .missing key
  | some (some _) => .found key

/-- The calls of `ensureAlias`, whatever was read before, and the `PATCH` requests. -/
inductive Starts : DbProg Response → Phase → Prop
  | ensure (accountId aliasAddress : String) (policy : UnknownSenderPolicy)
      (existing : Option (Option Alias)) (emxId : Option String) (now : String) :
    Starts (.ensured <$> ensureAlias accountId aliasAddress policy existing emxId now)
      (startPhase (accountId, aliasAddress) existing)
  | patch (accountId param : String) (body : UpdateAliasRequest) (now : String) :
    Starts (.patched <$> patchAlias accountId param body now) .patch

abbrev Ensures (p : DbProg (Except DbError EnsuredAlias)) (q : Phase) : Prop :=
  p.Obeys monitor (fun q r => Returns q (.ensured r)) q

theorem createAliasItem_ensures (accountId aliasAddress : String) (policy : UnknownSenderPolicy)
    (emxId : Option String) (now : String) :
    Ensures (createAliasItem accountId aliasAddress policy emxId now)
      (.missing (accountId, aliasAddress)) := by
  unfold createAliasItem saveAlias withAddress
  split
  case h_1 => exact ⟨_, rfl⟩
  case h_2 parts _ =>
    refine ⟨⟨_, rfl, rfl⟩, fun fate r => ?_⟩
    cases r with
    | error error => exact ⟨error, rfl⟩
    | ok => exact ⟨_, rfl, rfl⟩

theorem reconcileAlias_ensures (item : Alias) (accountId aliasAddress : String)
    (emxId : Option String) (now : String) :
    Ensures (reconcileAlias item accountId aliasAddress emxId now)
      (.found (accountId, aliasAddress)) := by
  unfold reconcileAlias
  split
  case h_1 => exact ⟨_, rfl, fun done hdone => by cases hdone; rfl⟩
  case h_2 emxId =>
    split
    case isTrue => exact ⟨_, rfl, fun done hdone => by cases hdone; rfl⟩
    case isFalse =>
      unfold updateAlias withAddress
      split
      case h_1 => exact ⟨_, rfl, fun done hdone => nomatch hdone⟩
      case h_2 =>
        refine ⟨⟨_, _, rfl⟩, fun fate r => ?_⟩
        obtain (_ | error) | (_ | updated) := r
        · exact ⟨_, rfl, fun done hdone => by cases hdone; rfl⟩
        · exact ⟨_, rfl, fun done hdone => nomatch hdone⟩
        · exact ⟨_, rfl, fun done hdone => by cases hdone; rfl⟩
        · exact ⟨_, rfl, fun done hdone => by cases hdone; rfl⟩

theorem ensureAlias_ensures (accountId aliasAddress : String) (policy : UnknownSenderPolicy)
    (existing : Option (Option Alias)) (emxId : Option String) (now : String) :
    Ensures (ensureAlias accountId aliasAddress policy existing emxId now)
      (startPhase (accountId, aliasAddress) existing) := by
  unfold ensureAlias
  split
  case h_1 item => exact reconcileAlias_ensures item accountId aliasAddress emxId now
  case h_2 => exact createAliasItem_ensures accountId aliasAddress policy emxId now
  case h_3 =>
    unfold getAlias withAddress
    split
    case h_1 => exact ⟨_, rfl⟩
    case h_2 =>
      refine ⟨rfl, fun fate r => ?_⟩
      obtain error | (_ | item) := r
      · exact ⟨error, rfl⟩
      · exact createAliasItem_ensures accountId aliasAddress policy emxId now
      · exact reconcileAlias_ensures item accountId aliasAddress emxId now

variable {prog : DbProg Response}

theorem Starts.obeys {q : Phase} (h : Starts prog q) :
    prog.Obeys monitor Returns q := by
  cases h with
  | ensure accountId aliasAddress policy existing emxId now =>
    exact Prog.obeys_map.mpr (ensureAlias_ensures accountId aliasAddress policy existing emxId now)
  | patch accountId param body now =>
    have honly : (patchAlias accountId param body now).Only (monitor.Idle .patch) :=
      Prog.only_of_forall (fun _ => ⟨trivial, fun _ _ => rfl⟩) _
    refine Prog.obeys_map.mpr (honly.obeys.mono fun q result hq => ?_)
    subst hq
    exact ⟨result, rfl⟩

/-! ## Runs -/

abbrev AliasRules := Rules Cmd Cmd.Answer Response Store Fate Phase

/-- Every order of the requests, any of which may fail, and crashes between them. -/
def anyOrder : AliasRules where
  spawn prog phase _ _ := Starts prog phase
  step _ _ _ _ _ _ := True
  crash _ _ _ _ := True

/-- The runs in which nobody writes an alias while a call that has found it missing is about to
create it, and no call is told that an alias is missing that exists. -/
def unmixed : AliasRules where
  spawn prog phase s _ := Starts prog phase ∧ ∀ key, phase = .missing key → s.aliases.get key = none
  step i _ c fate _ ts := fate ≠ .refused → ∀ item, c = .putAlias item →
    ∀ j, ts[j]? = some (.missing (aliasKey item), true) → j = i
  crash _ _ _ _ := True

/-- What may become of an alias: the rows that are written by `PATCH` requests, and the exchanges
that it is linked to. -/
structure Changes where
  patched : Set Alias
  links : Set (Option String)

def Changes.Allow (changes : Changes) (key : Key) (q : Phase) : Cmd → Prop
  | .putAlias item => q = .patch → aliasKey item = key → item ∈ changes.patched
  | .setAliasExchange accountId aliasAddress emxId _ =>
    (accountId, aliasAddress) = key → emxId ∈ changes.links
  | .deleteAliasItem accountId aliasAddress => (accountId, aliasAddress) ≠ key
  | _ => True

/-- The runs in which no more than that becomes of an alias. -/
def within (key : Key) (changes : Changes) : AliasRules :=
  { unmixed with
    step := fun i q c fate s ts => unmixed.step i q c fate s ts ∧
      (fate ≠ .refused → changes.Allow key q c) }

variable {s : Store} {ts : List (Phase × Bool)} {key : Key} {q : Phase} {c : Cmd} {fate : Fate}
  {i : Nat} {changes : Changes}

/-- What a request can do to the row of an alias. -/
inductive Writes (s : Store) (key : Key) : Cmd → Option Alias → Prop
  | put (item : Alias) (hkey : aliasKey item = key) : Writes s key (.putAlias item) (some item)
  | link (emxId : Option String) (now : String) (row : Alias)
      (hrow : s.aliases.get key = some row) :
    Writes s key (.setAliasExchange key.1 key.2 emxId now)
      (some { row with emxId := emxId, updatedAt := now })
  | delete : Writes s key (.deleteAliasItem key.1 key.2) none

theorem writes_exec (c : Cmd) (s : Store) (key : Key) :
    (exec c s).2.aliases.get key = s.aliases.get key ∨
      Writes s key c ((exec c s).2.aliases.get key) := by
  cases c with
  | putAlias item =>
    show (s.aliases.put item).get key = _ ∨ Writes s key _ ((s.aliases.put item).get key)
    rw [KeyedTable.get_put]
    split
    case isTrue hkey => exact .inr (.put item hkey.symm)
    case isFalse => exact .inl rfl
  | setAliasExchange accountId aliasAddress emxId now =>
    simp only [exec]
    split
    case h_1 => exact .inl rfl
    case h_2 row hrow =>
      show (s.aliases.put _).get key = _ ∨ Writes s key _ ((s.aliases.put _).get key)
      have hkey : aliasKey row = (accountId, aliasAddress) := KeyedTable.key_of_get hrow
      rw [KeyedTable.get_put]
      split
      case isTrue hsame =>
        obtain rfl : key = (accountId, aliasAddress) := hsame.trans hkey
        exact .inr (.link emxId now row hrow)
      case isFalse => exact .inl rfl
  | deleteAliasItem accountId aliasAddress =>
    show (s.aliases.erase _).get key = _ ∨ Writes s key _ ((s.aliases.erase _).get key)
    rw [KeyedTable.get_erase]
    split
    case isTrue hkey =>
      subst hkey
      exact .inr .delete
    case isFalse => exact .inl rfl
  | putNewDomain item =>
    refine .inl ?_
    simp only [exec]
    split
    · rfl
    · split <;> rfl
  | setDomainDeleted | setDomainSetup =>
    refine .inl ?_
    simp only [exec, Store.updateDomainItem]
    split <;> rfl
  | getAlias | queryAliases | queryAliasesOfDomain | getSender | querySenders | putSender
  | deleteSenders | getDomain | queryDomains => exact .inl rfl

theorem writes_settle (c : Cmd) (s : Store) (fate : Fate) (key : Key) :
    (settle c s fate).2.aliases.get key = s.aliases.get key ∨
      fate ≠ .refused ∧ Writes s key c ((settle c s fate).2.aliases.get key) := by
  cases fate with
  | refused => exact .inl rfl
  | done | lost => exact (writes_exec c s key).imp_right fun h => ⟨nofun, h⟩

/-! ### Calls that have found an alias missing -/

/-- An alias stays missing while a call that has found it so is about to create it. -/
def Waiting (s : Store) (ts : List (Phase × Bool)) : Prop :=
  ∀ key (i : Nat), ts[i]? = some (.missing key, true) → s.aliases.get key = none

/-- A call finds an alias missing when it reads that there is none. -/
theorem get_of_next_missing (hallow : monitor.allow q c)
    (h : monitor.next q c fate (settle c s fate).1 = .missing key) :
    (settle c s fate).2.aliases.get key = none := by
  cases q with
  | asked asked =>
    obtain rfl : c = .getAlias asked.1 asked.2 := hallow
    cases fate with
    | refused | lost => cases h
    | done =>
      cases hget : s.aliases.get asked with
      | some item =>
        have hnext : monitor.next (.asked asked) (.getAlias asked.1 asked.2) .done
            (.ok (s.aliases.get asked)) = .missing key := h
        rw [hget] at hnext
        cases hnext
      | none =>
        have hnext : monitor.next (.asked asked) (.getAlias asked.1 asked.2) .done
            (.ok (s.aliases.get asked)) = .missing key := h
        rw [hget] at hnext
        cases hnext
        exact hget
  | missing missing =>
    obtain ⟨item, rfl, -⟩ := hallow
    cases fate <;> cases h
  | found | patch => cases h
  | created | failed => cases hallow

theorem Waiting.step (h : Waiting s ts) (hi : ts[i]? = some (q, true)) (hallow : monitor.allow q c)
    (hrule : unmixed.step i q c fate s ts) :
    Waiting (settle c s fate).2
      (ts.set i (monitor.next q c fate (settle c s fate).1, true)) := by
  intro key j hj
  by_cases hij : i = j
  · subst hij
    rw [List.getElem?_set_self (List.getElem?_eq_some_iff.mp hi).1] at hj
    exact get_of_next_missing hallow (Prod.mk.inj (Option.some.inj hj)).1
  · rw [List.getElem?_set_ne hij] at hj
    have hnone := h key j hj
    obtain hsame | ⟨hfate, hwrites⟩ := writes_settle c s fate key
    · rw [hsame, hnone]
    · generalize (settle c s fate).2.aliases.get key = row at hwrites
      cases hwrites with
      | put item hkey =>
        subst hkey
        exact absurd (hrule hfate item rfl j hj).symm hij
      | link emxId now row hrow => cases hnone.symm.trans hrow
      | delete => rfl

theorem Waiting.spawn (h : Waiting s ts)
    (hrule : unmixed.spawn prog q s ts) : Waiting s (ts ++ [(q, true)]) := by
  intro key j hj
  obtain hj | hj := List.mem_append.mp (List.mem_of_getElem? hj)
  · obtain ⟨i, hi⟩ := List.mem_iff_getElem?.mp hj
    exact h key i hi
  · exact hrule.2 key (Prod.mk.inj (List.mem_singleton.mp hj)).1.symm

theorem Waiting.crash (h : Waiting s ts) : Waiting s (ts.set i (q, false)) := by
  intro key j hj
  obtain hj | hj := List.mem_or_eq_of_mem_set (List.mem_of_getElem? hj)
  · obtain ⟨i, hi⟩ := List.mem_iff_getElem?.mp hj
    exact h key i hi
  · cases hj

theorem keeps_waiting : Keeps accounts monitor Returns unmixed Waiting where
  spawn _ _ _ _ h hrule := ⟨hrule.1.obeys, h.spawn hrule⟩
  step _ _ _ _ _ _ h hi hallow hrule := h.step hi hallow hrule
  crash _ _ _ _ h _ _ := h.crash

/-! ### What becomes of an alias -/

/-- What a user has set of an alias, and when it was created. -/
def settings (item : Alias) : UnknownSenderPolicy × Option String × Option String × String :=
  (item.unknownSenderPolicy, item.name, item.createdForOrigin, item.createdAt)

/-- The row still is the one from before, but for what has been changed on purpose. -/
def Descends (changes : Changes) (row row' : Alias) : Prop :=
  (settings row' = settings row ∨ ∃ item ∈ changes.patched, settings row' = settings item) ∧
    (row'.emxId = row.emxId ∨ row'.emxId ∈ changes.links ∨
      ∃ item ∈ changes.patched, row'.emxId = item.emxId)

/-- What a run keeps from a row and from the tasks that had created the alias before: the alias
has become of the row, or at most one call has created it. -/
structure Kept (key : Key) (changes : Changes) (before : Option Alias) (past : Nat → Prop)
    (s : Store) (ts : List (Phase × Bool)) : Prop where
  waiting : Waiting s ts
  descends : ∀ row, before = some row →
    ∃ row', s.aliases.get key = some row' ∧ Descends changes row row'
  creates : ∀ i alive, ts[i]? = some (.created key, alive) → ¬ past i →
    before = none ∧ s.aliases.get key ≠ none
  once : ∀ i j alive alive', ts[i]? = some (.created key, alive) → ¬ past i →
    ts[j]? = some (.created key, alive') → ¬ past j → i = j

/-- A call has created an alias when it has written its row. -/
theorem put_of_next_created (hallow : monitor.allow q c)
    (h : monitor.next q c fate (settle c s fate).1 = .created key) :
    q = .missing key ∧ (settle c s fate).2.aliases.get key ≠ none := by
  cases q with
  | asked asked =>
    obtain rfl : c = .getAlias asked.1 asked.2 := hallow
    generalize (settle (.getAlias asked.1 asked.2) s fate).1 = r at h
    obtain error | (_ | item) := r <;> cases h
  | missing missing =>
    obtain ⟨item, rfl, rfl⟩ := hallow
    cases fate with
    | refused | lost => cases h
    | done =>
      cases h
      refine ⟨rfl, fun hnone => ?_⟩
      have hput : (s.aliases.put item).get (aliasKey item) = none := hnone
      rw [KeyedTable.get_put_self] at hput
      cases hput
  | found | patch => cases h
  | created | failed => cases hallow

theorem Descends.after {row : Alias} (hwaiting : Waiting s ts) (hi : ts[i]? = some (q, true))
    (hallow : monitor.allow q c) (hrule : fate ≠ .refused → changes.Allow key q c)
    (h : ∃ row', s.aliases.get key = some row' ∧ Descends changes row row') :
    ∃ row', (settle c s fate).2.aliases.get key = some row' ∧ Descends changes row row' := by
  obtain ⟨row', hrow', hsettings, hlink⟩ := h
  obtain hsame | ⟨hfate, hwrites⟩ := writes_settle c s fate key
  · exact ⟨row', hsame.trans hrow', hsettings, hlink⟩
  · generalize (settle c s fate).2.aliases.get key = now at hwrites
    have hrule := hrule hfate
    cases hwrites with
    | put item hkey =>
      cases q with
      | patch =>
        have hpatched : item ∈ changes.patched := hrule rfl hkey
        exact ⟨item, rfl, .inr ⟨item, hpatched, rfl⟩, .inr (.inr ⟨item, hpatched, rfl⟩)⟩
      | missing missing =>
        obtain ⟨item', hitem, rfl⟩ := hallow
        cases hitem
        cases hrow'.symm.trans (hkey ▸ hwaiting _ i hi)
      | asked | created | failed => cases hallow
      | found => obtain ⟨_, _, hfound⟩ := hallow; cases hfound
    | link emxId time found hfound =>
      obtain rfl := Option.some.inj (hrow'.symm.trans hfound)
      exact ⟨_, rfl, hsettings, .inr (.inl (hrule rfl))⟩
    | delete => exact absurd rfl hrule

theorem get_ne_none_settle (hrule : fate ≠ .refused → changes.Allow key q c)
    (h : s.aliases.get key ≠ none) : (settle c s fate).2.aliases.get key ≠ none := by
  obtain hsame | ⟨hfate, hwrites⟩ := writes_settle c s fate key
  · rwa [hsame]
  · have hrule := hrule hfate
    generalize (settle c s fate).2.aliases.get key = now at hwrites
    cases hwrites with
    | put item hkey => exact Option.some_ne_none _
    | link emxId time row hrow => exact Option.some_ne_none _
    | delete => exact absurd rfl hrule

variable {before : Option Alias} {past : Nat → Prop}

theorem Kept.step (h : Kept key changes before past s ts) (hi : ts[i]? = some (q, true))
    (hallow : monitor.allow q c) (hrule : (within key changes).step i q c fate s ts) :
    Kept key changes before past (settle c s fate).2
      (ts.set i (monitor.next q c fate (settle c s fate).1, true)) := by
  obtain ⟨hmixed, hchange⟩ := hrule
  have hlen := (List.getElem?_eq_some_iff.mp hi).1
  -- a task that has just created the alias found it missing until now
  have hnew (hnext : monitor.next q c fate (settle c s fate).1 = .created key) :
      s.aliases.get key = none ∧ (settle c s fate).2.aliases.get key ≠ none := by
    obtain ⟨rfl, hput⟩ := put_of_next_created hallow hnext
    exact ⟨h.waiting key i hi, hput⟩
  have hcreated (j : Nat) (alive : Bool)
      (hj : (ts.set i (monitor.next q c fate (settle c s fate).1, true))[j]? =
        some (.created key, alive)) :
      (j = i ∧ monitor.next q c fate (settle c s fate).1 = .created key) ∨
        ts[j]? = some (.created key, alive) := by
    by_cases hij : i = j
    · subst hij
      rw [List.getElem?_set_self hlen] at hj
      exact .inl ⟨rfl, (Prod.mk.inj (Option.some.inj hj)).1⟩
    · rw [List.getElem?_set_ne hij] at hj
      exact .inr hj
  refine ⟨h.waiting.step hi hallow hmixed, fun row hrow => ?_, fun j alive hj hpast => ?_,
    fun j k alive alive' hj hpastj hk hpastk => ?_⟩
  · exact Descends.after h.waiting hi hallow hchange (h.descends row hrow)
  · obtain ⟨rfl, hnext⟩ | hold := hcreated j alive hj
    · obtain ⟨hnone, hput⟩ := hnew hnext
      refine ⟨?_, hput⟩
      cases hbefore : before with
      | none => rfl
      | some row =>
        obtain ⟨row', hrow', -⟩ := h.descends row hbefore
        cases hrow'.symm.trans hnone
    · obtain ⟨hbefore, hrow⟩ := h.creates j alive hold hpast
      exact ⟨hbefore, get_ne_none_settle hchange hrow⟩
  · obtain ⟨rfl, hnext⟩ | holdj := hcreated j alive hj
    · obtain ⟨rfl, -⟩ | holdk := hcreated k alive' hk
      · rfl
      · exact absurd (hnew hnext).1 (h.creates k alive' holdk hpastk).2
    · obtain ⟨rfl, hnext⟩ | holdk := hcreated k alive' hk
      · exact absurd (hnew hnext).1 (h.creates j alive holdj hpastj).2
      · exact h.once j k alive alive' holdj hpastj holdk hpastk

/-- The tasks that have created the alias stay the same. -/
theorem Kept.of_created {ts' : List (Phase × Bool)} (h : Kept key changes before past s ts)
    (hwaiting : Waiting s ts') (hcreated : ∀ (j : Nat) alive, ts'[j]? = some (.created key, alive) →
      ∃ alive, ts[j]? = some (.created key, alive)) : Kept key changes before past s ts' := by
  refine ⟨hwaiting, h.descends, fun j alive hj hpast => ?_,
    fun j k alive alive' hj hpastj hk hpastk => ?_⟩
  · obtain ⟨alive, hj⟩ := hcreated j alive hj
    exact h.creates j alive hj hpast
  · obtain ⟨alive, hj⟩ := hcreated j alive hj
    obtain ⟨alive', hk⟩ := hcreated k alive' hk
    exact h.once j k alive alive' hj hpastj hk hpastk

theorem Starts.not_created (h : Starts prog q) : q ≠ .created key := by
  cases h with
  | ensure accountId aliasAddress policy existing emxId now =>
    obtain _ | (_ | item) := existing <;> exact nofun
  | patch => exact nofun

theorem keeps_kept :
    Keeps accounts monitor Returns (within key changes) (Kept key changes before past) where
  spawn s ts prog q h hrule := by
    refine ⟨hrule.1.obeys, h.of_created (h.waiting.spawn hrule) fun j alive hj => ?_⟩
    by_cases hlt : j < ts.length
    · rw [List.getElem?_append_left hlt] at hj
      exact ⟨alive, hj⟩
    · rw [List.getElem?_append_right (Nat.not_lt.mp hlt)] at hj
      have hmem := List.mem_singleton.mp (List.mem_of_getElem? hj)
      exact absurd (Prod.mk.inj hmem).1.symm hrule.1.not_created
  step _ _ _ _ _ _ h hi hallow hrule := h.step hi hallow hrule
  crash s ts i q h hi _ := by
    refine h.of_created h.waiting.crash fun j alive hj => ?_
    by_cases hij : i = j
    · subst hij
      rw [List.getElem?_set_self (List.getElem?_eq_some_iff.mp hi).1] at hj
      cases hj
      exact ⟨true, hi⟩
    · rw [List.getElem?_set_ne hij] at hj
      exact ⟨alive, hj⟩

/-! ### Calls that report a creation -/

/-- The alias that a response says has been created. -/
def Response.createdKey : Response → Option Key
  | .ensured (.ok ⟨item, true⟩) => some (aliasKey item)
  | _ => none

def reported : DbProg Response → Option Key
  | .ret r => r.createdKey
  | .call .. => none

def Reports (pool : Pool Cmd Cmd.Answer Response Phase Store) (key : Key) (i : Nat) : Prop :=
  ∃ t, pool.tasks[i]? = some t ∧ reported t.prog = some key

theorem createdKey_of_returns {r : Response} (h : Returns q r) :
    r.createdKey = some key ↔ q = .created key := by
  cases q with
  | created created =>
    obtain ⟨item, rfl, rfl⟩ := h
    simp [Response.createdKey]
  | found found =>
    obtain ⟨result, rfl, hresult⟩ := h
    cases result with
    | error => exact ⟨nofun, nofun⟩
    | ok done =>
      obtain ⟨item, created⟩ := done
      obtain rfl : created = false := hresult _ rfl
      exact ⟨nofun, nofun⟩
  | asked | missing | failed =>
    obtain ⟨error, rfl⟩ := h
    exact ⟨nofun, nofun⟩
  | patch =>
    obtain ⟨result, rfl⟩ := h
    exact ⟨nofun, nofun⟩

theorem reports_iff {pool : Pool Cmd Cmd.Answer Response Phase Store}
    (hobeys : pool.Obeys monitor Returns) :
    Reports pool key i ↔ ∃ alive, pool.views[i]? = some (.created key, alive) := by
  have htask (t : Task Cmd Cmd.Answer Response Phase) (ht : pool.tasks[i]? = some t) :
      reported t.prog = some key ↔ t.phase = .created key := by
    have hobeys := hobeys t (List.mem_of_getElem? ht)
    cases hprog : t.prog with
    | ret r =>
      rw [hprog] at hobeys
      exact createdKey_of_returns hobeys
    | call c k =>
      rw [hprog] at hobeys
      refine ⟨nofun, fun hphase => ?_⟩
      rw [hphase] at hobeys
      exact hobeys.1.elim
  rw [Pool.views, List.getElem?_map]
  constructor
  · intro h
    obtain ⟨t, ht, hreported⟩ := h
    refine ⟨t.alive, ?_⟩
    rw [ht, ← (htask t ht).mp hreported]
    rfl
  · intro h
    obtain ⟨alive, hview⟩ := h
    obtain ⟨t, ht, hphase⟩ := Option.map_eq_some_iff.mp hview
    exact ⟨t, ht, (htask t ht).mpr (Prod.mk.inj hphase).1⟩

/-- **Aliases are ensured, not reset.** In a run in which nobody writes an alias that a call has
found missing and is about to create, a row stays the row it was, but for what `PATCH` requests
write and the exchanges it is linked to; at most one call reports that it has created the alias,
and none while there is one. A call that reports it has not had found the alias. -/
theorem ensured_kept (key : Key) (changes : Changes)
    (start pool later : Pool Cmd Cmd.Answer Response Phase Store) (htasks : start.tasks = [])
    (hpast : Reaches accounts monitor unmixed start pool)
    (hlater : Reaches accounts monitor (within key changes) pool later) :
    (∀ row, pool.store.aliases.get key = some row →
      ∃ row', later.store.aliases.get key = some row' ∧ Descends changes row row') ∧
    (∀ i j, Reports later key i → ¬ Reports pool key i →
      Reports later key j → ¬ Reports pool key j → i = j) ∧
    (pool.store.aliases.get key ≠ none → ∀ i, Reports later key i → Reports pool key i) ∧
    ∀ t ∈ later.tasks, ∀ item, t.prog = .ret (.ensured (.ok ⟨item, false⟩)) →
      ∃ key, t.phase = .found key := by
  obtain ⟨hobeys, hwaiting⟩ := Reaches.invariant keeps_waiting (fun t ht => nomatch htasks ▸ ht)
    (by intro key i hi; simp [Pool.views, htasks] at hi) hpast
  have hstart : Kept key changes (pool.store.aliases.get key) (Reports pool key) pool.store
      pool.views := by
    refine ⟨hwaiting, fun row hrow => ⟨row, hrow, .inl rfl, .inl rfl⟩, fun i alive hi hnew => ?_,
      fun i _ alive _ hi hnew _ _ => ?_⟩
    · exact absurd ((reports_iff hobeys).mpr ⟨alive, hi⟩) hnew
    · exact absurd ((reports_iff hobeys).mpr ⟨alive, hi⟩) hnew
  obtain ⟨hobeys', hkept⟩ := Reaches.invariant keeps_kept hobeys hstart hlater
  refine ⟨hkept.descends, fun i j hi hnewi hj hnewj => ?_, fun hrow i hi => ?_,
    fun t ht item hret => ?_⟩
  · obtain ⟨alive, hi⟩ := (reports_iff hobeys').mp hi
    obtain ⟨alive', hj⟩ := (reports_iff hobeys').mp hj
    exact hkept.once i j alive alive' hi hnewi hj hnewj
  · obtain ⟨alive, hi⟩ := (reports_iff hobeys').mp hi
    by_contra hnew
    exact hrow (hkept.creates i alive hi hnew).1
  · have hreturns := hobeys' t ht
    rw [hret] at hreturns
    cases hphase : t.phase with
    | found found => exact ⟨found, rfl⟩
    | created =>
      rw [hphase] at hreturns
      obtain ⟨_, hcreated, -⟩ := hreturns
      cases hcreated
    | asked | missing | failed | patch =>
      rw [hphase] at hreturns
      obtain ⟨_, hother⟩ := hreturns
      cases hother

/-! ### Two messages to a new alias -/

def noAliases : Pool Cmd Cmd.Answer Response Phase Store := ⟨⟨.empty, .empty, .empty⟩, []⟩

/-- The call of an ingest that has read at its start that there is no such alias. -/
def ingest (now : String) : DbProg Response :=
  .ensured <$> ensureAlias "acc" "a@b.c" .quarantineVisible (some none) none now

theorem ingest_starts (now : String) : Starts (ingest now) (.missing ("acc", "a@b.c")) :=
  .ensure "acc" "a@b.c" .quarantineVisible (some none) none now

theorem no_address : (none : Option String) ≠ some "" := nofun

def blocking : UpdateAliasRequest := ⟨none, some "Shop", some .blockReject, none, no_address⟩

/-- Both messages find no alias. The first one creates it, and its user blocks all senders. -/
def untilBlocked : List (Move Cmd Cmd.Answer Response Fate Phase) :=
  [.spawn (ingest "1") (.missing ("acc", "a@b.c")), .spawn (ingest "2") (.missing ("acc", "a@b.c")),
    .step 0 .done, .spawn (.patched <$> patchAlias "acc" "a@b.c" blocking "3") .patch,
    .step 2 .done, .step 2 .done]

theorem untilBlocked_allowed : ∀ m ∈ untilBlocked, ∀ pool, anyOrder.Allows pool m := by
  simp only [untilBlocked, List.forall_mem_cons]
  exact ⟨fun _ => ingest_starts "1", fun _ => ingest_starts "2", fun _ _ _ _ _ => trivial,
    fun _ => .patch "acc" "a@b.c" blocking "3", fun _ _ _ _ _ => trivial,
    fun _ _ _ _ _ => trivial, nofun⟩

/-- The settings of the alias and the reports of the tasks. -/
structure Seen where
  row : Option (UnknownSenderPolicy × Option String × Option String × String)
  reports : List (Option Key)
deriving DecidableEq

def seen (pool : Pool Cmd Cmd.Answer Response Phase Store) : Seen where
  row := (pool.store.aliases.get ("acc", "a@b.c")).map settings
  reports := pool.tasks.map fun t => reported t.prog

def blocked : Seen := ⟨some (.blockReject, some "Shop", none, "1"),
  [some ("acc", "a@b.c"), none, none]⟩

def reset : Seen := ⟨some (.quarantineVisible, none, none, "2"),
  [some ("acc", "a@b.c"), some ("acc", "a@b.c"), none]⟩

/-- Then the second message takes the settings back, and reports that it has created the alias. -/
theorem ensured_reset : ∃ pool later, Reaches accounts monitor anyOrder noAliases pool ∧
    Reaches accounts monitor anyOrder pool later ∧
    seen pool = blocked ∧ seen later = reset := by
  have hpool : (noAliases.moves accounts monitor untilBlocked).map
      (fun pool => (seen pool, (pool.moves accounts monitor [.step 1 .done]).map seen)) =
      some (blocked, some reset) := by
    decide +kernel
  obtain ⟨pool, hmoves, hseen⟩ := Option.map_eq_some_iff.mp hpool
  obtain ⟨hblocked, hlater⟩ := Prod.mk.inj hseen
  obtain ⟨later, hstep, hreset⟩ := Option.map_eq_some_iff.mp hlater
  have hallow : ∀ m ∈ [.step 1 .done], ∀ pool, anyOrder.Allows pool m := by
    simp only [List.forall_mem_cons]
    exact ⟨fun _ _ _ _ _ => trivial, nofun⟩
  exact ⟨pool, later, Reaches.refl.moves untilBlocked_allowed hmoves,
    Reaches.refl.moves hallow hstep, hblocked, hreset⟩

/-! ### One message after the other -/

theorem ensured_kept_alone : ∃ pool later, Reaches accounts monitor unmixed noAliases pool ∧
    Reaches accounts monitor (within ("acc", "a@b.c") ⟨∅, ∅⟩) pool later ∧
    ∃ row', later.store.aliases.get ("acc", "a@b.c") = some row' ∧
      Descends ⟨∅, ∅⟩ (savedRow (newAlias "acc" "a@b.c" .quarantineVisible none "1") ⟨"b.c", "a"⟩)
        row' := by
  have hspawn : Reaches accounts monitor unmixed noAliases _ :=
    .tail (m := .spawn (ingest "1") (.missing ("acc", "a@b.c"))) .refl
      ⟨ingest_starts "1", fun _ _ => rfl⟩ rfl
  have hput : Reaches accounts monitor unmixed noAliases _ :=
    hspawn.step (f := .done) (i := 0) rfl fun _ _ _ j hj => by
      cases j with
      | zero => rfl
      | succ j => cases hj
  have hlater (pool : Pool Cmd Cmd.Answer Response Phase Store) :
      Reaches accounts monitor (within ("acc", "a@b.c") ⟨∅, ∅⟩) pool
        { pool with tasks := pool.tasks ++ [⟨.ensured <$>
          ensureAlias "acc" "a@b.c" .allowAll none none "2", .asked ("acc", "a@b.c"), true⟩] } :=
    .tail (m := .spawn (.ensured <$> ensureAlias "acc" "a@b.c" .allowAll none none "2")
      (.asked ("acc", "a@b.c"))) .refl ⟨.ensure "acc" "a@b.c" .allowAll none none "2", nofun⟩ rfl
  exact ⟨_, _, hput, hlater _,
    (ensured_kept ("acc", "a@b.c") ⟨∅, ∅⟩ noAliases _ _ rfl hput (hlater _)).1 _
      (by decide +kernel)⟩

end SesEmailAdapter.Api.EnsuredAliases
