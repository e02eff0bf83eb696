import Mathlib.Data.Finset.Card
import Mathlib.Data.List.Sort
import SesEmailAdapter.Database.Shared
import SesEmailAdapter.Email.Address
import SesEmailAdapter.Lib.KeyedTable
import SesEmailAdapter.Lib.Pool

/-! # The devices of an account

A mobile device is saved after the others have been counted. The count and the write are two
requests, and those of other clients come in between. -/

namespace SesEmailAdapter.Notifier.DeviceStore
open Lib
open Database.Shared
open Email.Address (trim)

structure Device where
  accountId : String
  token : String
  type : String
  createdAt : String
  updatedAt : String
  ttl : Option Int := none
deriving DecidableEq, Repr

inductive SaveError
  | db (error : DbError)
  | validation (field message : String)
deriving DecidableEq, Repr

def mobileDeviceLimit : Nat := 10

def validDeviceTypes : List String := ["websocket", "fcm", "apns"]

def isMobile (type : String) : Bool := type = "fcm" || type = "apns"

/-- By the clock in whole seconds. -/
def isTtlExpired (now : Int) (device : Device) : Bool :=
  match device.ttl with
  | some ttl => ttl ≤ now
  | none => false

/-- The mobile devices that still count. -/
def isLive (now : Int) (device : Device) : Bool :=
  !isTtlExpired now device && isMobile device.type

/-! ## The table -/

def deviceKey (device : Device) : String × String := (device.accountId, device.token)

/-- The rows and the clock. -/
structure World where
  devices : KeyedTable deviceKey
  now : Int

/-- What becomes of a request: the time that has passed until then, how many rows a query gives at
most, and whether it is carried out. -/
structure Turn where
  elapsed : Nat := 0
  page : Nat
  fate : Fate := .done

def World.after (w : World) (turn : Turn) : World := { w with now := w.now + turn.elapsed }

inductive Cmd
  | query (accountId : String)
  | put (device : Device)
  | delete (accountId token : String)

/-- A query comes back with the time at which it does. -/
@[reducible] def Cmd.Answer : Cmd → Type
  | .query _ => Except DbError (List Device × Int)
  | .put _ => Except DbError Unit
  | .delete .. => Except DbError Unit

/-- The rows of an account, by token. -/
def World.devicesOf (w : World) (accountId : String) : List Device :=
  (w.devices.rows.filter fun device => device.accountId = accountId).insertionSort
    fun a b => a.token ≤ b.token

def exec (page : Nat) : (c : Cmd) → World → c.Answer × World
  | .query accountId, w => (.ok ((w.devicesOf accountId).take page, w.now), w)
  | .put device, w => (.ok (), { w with devices := w.devices.put device })
  | .delete accountId token, w =>
    (.ok (), { w with devices := w.devices.erase (accountId, token) })

def failure : (c : Cmd) → c.Answer
  | .query _ => .error ⟨"request failed"⟩
  | .put _ => .error ⟨"request failed"⟩
  | .delete .. => .error ⟨"request failed"⟩

def settle (c : Cmd) (w : World) (turn : Turn) : c.Answer × World :=
  settleRequest (exec turn.page) failure c (w.after turn) turn.fate

def service : Service Cmd Cmd.Answer World Turn := ⟨settle, ⟨0, 1000, .done⟩⟩

abbrev StoreProg (α : Type) := Prog Cmd Cmd.Answer α

/-! ## The operations -/

/-- The mobile devices of a page other than the one of the token. -/
def mobileCount (found : List Device) (now : Int) (currentToken : String) : Nat :=
  (found.filter fun device => isLive now device && device.token ≠ currentToken).length

def countMobileDevices (accountId currentToken : String) : StoreProg (Except DbError Nat) := do
  let res : Except DbError (List Device × Int) ← Prog.perform (Cmd.query accountId)
  return res.map fun (found, now) => mobileCount found now currentToken

def putDevice (device : Device) : StoreProg (Except SaveError Unit) := do
  let res : Except DbError Unit ← Prog.perform (Cmd.put device)
  return res.mapError .db

def limitReached : SaveError :=
  .validation "token" "Mobile device limit reached (maximum 10)"

def saveDevice (device : Device) : StoreProg (Except SaveError Unit) :=
  if (trim device.token.toList).isEmpty then
    return .error (.validation "token" "Token must not be empty")
  else if validDeviceTypes.contains device.type = false then
    return .error (.validation "type" "Type must be one of: websocket, fcm, apns")
  else if isMobile device.type then do
    let countResult ← countMobileDevices device.accountId device.token
    match countResult with
    | .error error => return .error (.db error)
    | .ok count =>
      if mobileDeviceLimit ≤ count then return .error limitReached
      else putDevice device
  else putDevice device

def deleteDevice (accountId token : String) : StoreProg (Except SaveError Unit) := do
  let res : Except DbError Unit ← Prog.perform (Cmd.delete accountId token)
  return res.mapError .db

/-! ## Histories -/

/-- How far an operation has come: a save that has read nothing, one that has counted and what it
has found, or one that needs no count any more. -/
inductive Phase
  | saving (device : Device)
  | counted (device : Device) (found : List Device) (now : Int)
  | ended

/-- The count leaves room for the device. -/
def Fits (device : Device) (found : List Device) (now : Int) : Prop :=
  mobileCount found now device.token < mobileDeviceLimit

instance (device : Device) (found : List Device) (now : Int) : Decidable (Fits device found now) :=
  inferInstanceAs (Decidable (_ < _))

def monitor : Monitor Cmd Cmd.Answer Turn Phase where
  allow q c := match q, c with
    | .saving device, .query accountId => accountId = device.accountId ∧ isMobile device.type
    | .saving device, .put item => item = device ∧ isMobile device.type = false
    | .counted device found now, .put item => item = device ∧ Fits device found now
    | .ended, .delete .. => True
    | _, _ => False
  next q c _ answer := match q, c, answer with
    | .saving device, .query _, .ok (found, now) => .counted device found now
    | _, _, _ => .ended

def WellFormed (device : Device) : Prop :=
  trim device.token.toList ≠ [] ∧ device.type ∈ validDeviceTypes

/-- What an operation returns after its history. -/
def Returns : Phase → Except SaveError Unit → Prop
  | .saving device, r =>
    ¬ WellFormed device ∧ ∃ field message, r = .error (.validation field message)
  | .counted device found now, r =>
    isMobile device.type ∧ ¬ Fits device found now ∧ r = .error limitReached
  | .ended, r => ∀ field message, r ≠ .error (.validation field message)

theorem putDevice_obeys {device : Device} {q : Phase} (hallow : monitor.allow q (.put device))
    (hnext : ∀ turn r, monitor.next q (.put device) turn r = .ended) :
    (putDevice device).Obeys monitor Returns q := by
  refine ⟨hallow, fun turn r => ?_⟩
  rw [hnext]
  intro field message h
  cases r with
  | ok => cases h
  | error => cases h

theorem saveDevice_obeys (device : Device) :
    (saveDevice device).Obeys monitor Returns (.saving device) := by
  unfold saveDevice
  split
  case isTrue hempty =>
    exact ⟨fun h => h.1 (List.isEmpty_iff.mp hempty), _, _, rfl⟩
  case isFalse =>
    split
    case isTrue htype =>
      refine ⟨fun h => ?_, _, _, rfl⟩
      rw [List.contains_iff_mem.mpr h.2] at htype
      cases htype
    case isFalse =>
      split
      case isFalse hmobile =>
        exact putDevice_obeys ⟨rfl, Bool.eq_false_iff.mpr hmobile⟩ fun _ _ => rfl
      case isTrue hmobile =>
        refine ⟨⟨rfl, hmobile⟩, fun turn r => ?_⟩
        cases r with
        | error error =>
          intro field message h
          cases h
        | ok answer =>
          obtain ⟨found, now⟩ := answer
          show Prog.Obeys monitor Returns (.counted device found now)
            (if mobileDeviceLimit ≤ mobileCount found now device.token then
              .ret (.error limitReached) else putDevice device)
          split
          case isTrue hfull => exact ⟨hmobile, Nat.not_lt.mpr hfull, rfl⟩
          case isFalse hroom =>
            exact putDevice_obeys ⟨rfl, Nat.not_le.mp hroom⟩ fun _ _ => rfl

theorem deleteDevice_obeys (accountId token : String) :
    (deleteDevice accountId token).Obeys monitor Returns .ended := by
  refine ⟨trivial, fun turn r field message h => ?_⟩
  cases r with
  | ok => cases h
  | error => cases h

/-! ## Tokens that are taken -/

def World.mobileDevices (w : World) (accountId : String) : List Device :=
  w.devices.rows.filter fun device => isLive w.now device && device.accountId = accountId

/-- A save that has counted and is about to write its device. -/
def pendingToken (accountId : String) : Phase × Bool → Option String
  | (.counted device found now, true) =>
    if device.accountId = accountId ∧ Fits device found now then some device.token else none
  | _ => none

/-- The tokens of the mobile devices of an account, and of those that are about to be written. -/
def claimed (w : World) (ts : List (Phase × Bool)) (accountId : String) : Finset String :=
  ((w.mobileDevices accountId).map (·.token) ++ ts.filterMap (pendingToken accountId)).toFinset

/-- The mobile devices that a save of the device has to count. -/
def others (w : World) (device : Device) : Nat :=
  mobileCount (w.devicesOf device.accountId) w.now device.token

variable {w w' : World} {ts ts' : List (Phase × Bool)} {accountId token : String} {device : Device}

theorem mem_mobileDevices :
    device ∈ w.mobileDevices accountId ↔
      device ∈ w.devices.rows ∧ isLive w.now device = true ∧ device.accountId = accountId := by
  simp [World.mobileDevices]

theorem mem_claimed : token ∈ claimed w ts accountId ↔
    (∃ device ∈ w.mobileDevices accountId, device.token = token) ∨
      ∃ v ∈ ts, pendingToken accountId v = some token := by
  simp [claimed]

theorem claimed_subset {tokens : Finset String}
    (hdevices : ∀ device ∈ w.mobileDevices accountId, device.token ∈ tokens)
    (hpending : ∀ v ∈ ts, ∀ token, pendingToken accountId v = some token → token ∈ tokens) :
    claimed w ts accountId ⊆ tokens := by
  intro token htoken
  obtain ⟨device, hdevice, rfl⟩ | ⟨v, hv, hpend⟩ := mem_claimed.mp htoken
  · exact hdevices device hdevice
  · exact hpending v hv token hpend

variable {i : Nat}

/-- A task that comes to no new claim. -/
theorem claimed_set {v : Phase × Bool}
    (hdevices : ∀ device ∈ w'.mobileDevices accountId, device.token ∈ claimed w ts accountId)
    (hv : ∀ token, pendingToken accountId v = some token → token ∈ claimed w ts accountId) :
    claimed w' (ts.set i v) accountId ⊆ claimed w ts accountId := by
  refine claimed_subset hdevices fun u hu token hpend => ?_
  obtain hu | rfl := List.mem_or_eq_of_mem_set hu
  · exact mem_claimed.mpr (.inr ⟨u, hu, hpend⟩)
  · exact hv token hpend

/-- The tokens of an account tell its rows apart. -/
theorem nodup_tokens {l : List Device} (hl : l.Sublist w.devices.rows)
    (haccount : ∀ device ∈ l, device.accountId = accountId) : (l.map (·.token)).Nodup := by
  have hkeys : (l.map deviceKey).Nodup := w.devices.distinct.sublist (hl.map _)
  have heq : l.map deviceKey = (l.map (·.token)).map fun token => (accountId, token) := by
    rw [List.map_map]
    refine List.map_congr_left fun device hdevice => ?_
    rw [deviceKey, haccount device hdevice]
    rfl
  rw [heq] at hkeys
  exact hkeys.of_map _

theorem mobileDevices_card_le :
    (w.mobileDevices accountId).length ≤ (claimed w ts accountId).card := by
  have hnodup := nodup_tokens (l := w.mobileDevices accountId) List.filter_sublist
    fun device hdevice => (mem_mobileDevices.mp hdevice).2.2
  rw [← List.length_map (f := (·.token)), ← List.toFinset_card_of_nodup hnodup]
  refine Finset.card_le_card fun token htoken => ?_
  obtain ⟨device, hdevice, rfl⟩ := List.mem_map.mp (List.mem_toFinset.mp htoken)
  exact mem_claimed.mpr (.inl ⟨device, hdevice, rfl⟩)

theorem mobileCount_perm {found found' : List Device} (h : found.Perm found') (now : Int)
    (currentToken : String) :
    mobileCount found now currentToken = mobileCount found' now currentToken :=
  (h.filter _).length_eq

theorem others_card_le :
    others w device ≤ ((claimed w ts device.accountId).erase device.token).card := by
  have hperm : (w.devicesOf device.accountId).Perm
      (w.devices.rows.filter fun item => item.accountId = device.accountId) :=
    List.perm_insertionSort _ _
  rw [others, mobileCount_perm hperm, mobileCount]
  generalize hcounted : List.filter (fun item => isLive w.now item && item.token ≠ device.token) _ =
    counted
  have hmem (item : Device) : item ∈ counted ↔
      (item ∈ w.devices.rows ∧ item.accountId = device.accountId) ∧
        isLive w.now item = true ∧ item.token ≠ device.token := by
    rw [← hcounted]
    simp only [List.mem_filter, Bool.and_eq_true, decide_eq_true_eq]
  have hnodup : (counted.map (·.token)).Nodup :=
    nodup_tokens (hcounted ▸ List.filter_sublist.trans List.filter_sublist)
      fun item hitem => ((hmem item).mp hitem).1.2
  rw [← List.length_map (f := (·.token)), ← List.toFinset_card_of_nodup hnodup]
  refine Finset.card_le_card fun token htoken => ?_
  obtain ⟨item, hitem, rfl⟩ := List.mem_map.mp (List.mem_toFinset.mp htoken)
  obtain ⟨⟨hrow, haccount⟩, hlive, hne⟩ := (hmem item).mp hitem
  exact Finset.mem_erase.mpr ⟨hne, mem_claimed.mpr
    (.inl ⟨item, mem_mobileDevices.mpr ⟨hrow, hlive, haccount⟩, rfl⟩)⟩

/-! ## Runs -/

/-- No more devices are on their way than there is room for. A save that finds fewer than ten
mobile devices reads all rows, and finds fewer than ten together with those that others are about
to write; it also does where the token is one of a device that does not count. -/
def Unhurried (w : World) (ts : List (Phase × Bool)) (device : Device) (turn : Turn) : Prop :=
  (w.devicesOf device.accountId).length ≤ turn.page ∧
    (others w device < mobileDeviceLimit →
      ((claimed w ts device.accountId).erase device.token).card < mobileDeviceLimit) ∧
    ((∃ item ∈ w.devicesOf device.accountId, item.token = device.token) →
      others w device < mobileDeviceLimit ∨
        ∃ item ∈ w.mobileDevices device.accountId, item.token = device.token)

/-- The saves and deletions of any clients. -/
inductive Starts : StoreProg (Except SaveError Unit) → Phase → Prop
  | save (device : Device) : Starts (saveDevice device) (.saving device)
  | delete (accountId token : String) : Starts (deleteDevice accountId token) .ended

abbrev DeviceRules := Rules Cmd Cmd.Answer (Except SaveError Unit) World Turn Phase

/-- Every order of the requests, any of which may fail, and crashes between them. -/
def anyOrder : DeviceRules where
  spawn prog phase _ _ := Starts prog phase
  step _ _ _ _ _ _ := True
  crash _ _ _ _ := True

/-- The runs in which the counts leave room for one another. -/
def unhurried : DeviceRules :=
  { anyOrder with
    step := fun _ q c turn w ts => turn.fate = .done → ∀ device, q = .saving device →
      c = .query device.accountId → Unhurried (w.after turn) ts device turn }

/-- What a run keeps: the claims stay within the limit, and a save that knows its token fits. -/
structure Limited (w : World) (ts : List (Phase × Bool)) : Prop where
  room : ∀ accountId, (claimed w ts accountId).card ≤ mobileDeviceLimit
  known : ∀ device found now alive, (.counted device found now, alive) ∈ ts →
    (∃ item ∈ found, item.token = device.token) → Fits device found now

theorem isTtlExpired_mono {now now' : Int} (h : now ≤ now') (hexpired : isTtlExpired now device) :
    isTtlExpired now' device := by
  unfold isTtlExpired at hexpired ⊢
  cases httl : device.ttl with
  | none => simp [httl] at hexpired
  | some ttl =>
    simp only [httl, decide_eq_true_eq] at hexpired ⊢
    exact le_trans hexpired h

/-- Time only takes devices away. -/
theorem mobileDevices_after {turn : Turn} (h : device ∈ (w.after turn).mobileDevices accountId) :
    device ∈ w.mobileDevices accountId := by
  obtain ⟨hrow, hlive, haccount⟩ := mem_mobileDevices.mp h
  refine mem_mobileDevices.mpr ⟨hrow, ?_, haccount⟩
  rw [isLive, Bool.and_eq_true, Bool.not_eq_true', Bool.eq_false_iff] at hlive ⊢
  exact ⟨fun hexpired => hlive.1 (isTtlExpired_mono (Int.le_add_of_nonneg_right
    (Int.natCast_nonneg _)) hexpired), hlive.2⟩

theorem Limited.after (h : Limited w ts) (turn : Turn) : Limited (w.after turn) ts where
  room accountId := (Finset.card_le_card (claimed_subset
    (fun _ hdevice => mem_claimed.mpr (.inl ⟨_, mobileDevices_after hdevice, rfl⟩))
    fun _ hv _ hpend => mem_claimed.mpr (.inr ⟨_, hv, hpend⟩))).trans (h.room accountId)
  known := h.known

/-- A task that moves on without a claim and without a count. -/
theorem Limited.set {v : Phase × Bool} (h : Limited w ts)
    (hdevices : ∀ accountId, ∀ device ∈ w'.mobileDevices accountId,
      device.token ∈ claimed w ts accountId)
    (hpending : ∀ accountId, pendingToken accountId v = none)
    (hknown : ∀ device found now alive, v = (.counted device found now, alive) → v ∈ ts ∨
      ∃ old, (.counted device found now, old) ∈ ts) : Limited w' (ts.set i v) where
  room accountId := (Finset.card_le_card (claimed_set (hdevices accountId)
    fun token hpend => nomatch (hpending accountId).symm.trans hpend)).trans (h.room accountId)
  known device found now alive hv := by
    obtain hv | hv := List.mem_or_eq_of_mem_set hv
    · exact h.known device found now alive hv
    · obtain hmem | ⟨old, hmem⟩ := hknown device found now alive hv.symm
      · exact h.known device found now alive (hv ▸ hmem)
      · exact h.known device found now old hmem

theorem Limited.ended (h : Limited w ts)
    (hdevices : ∀ accountId, ∀ device ∈ w'.mobileDevices accountId,
      device.token ∈ claimed w ts accountId) : Limited w' (ts.set i (.ended, true)) :=
  h.set hdevices (fun _ => rfl) fun _ _ _ _ hv => nomatch hv

theorem mem_claimed_of_device (h : device ∈ w.mobileDevices accountId) :
    device.token ∈ claimed w ts accountId :=
  mem_claimed.mpr (.inl ⟨device, h, rfl⟩)

/-- A device is written under a claim, or does not count. -/
theorem Limited.put (h : Limited w ts)
    (hclaim : isMobile device.type → device.token ∈ claimed w ts device.accountId) :
    Limited { w with devices := w.devices.put device } (ts.set i (.ended, true)) := by
  refine h.ended fun accountId item hitem => ?_
  obtain ⟨hrow, hlive, haccount⟩ := mem_mobileDevices.mp hitem
  obtain rfl | ⟨hrow, -⟩ := KeyedTable.mem_put.mp hrow
  · rw [← haccount]
    exact hclaim (Bool.and_eq_true_iff.mp hlive).2
  · exact mem_claimed_of_device (mem_mobileDevices.mpr ⟨hrow, hlive, haccount⟩)

theorem Limited.delete (h : Limited w ts) (accountId token : String) :
    Limited { w with devices := w.devices.erase (accountId, token) }
      (ts.set i (.ended, true)) := by
  refine h.ended fun accountId item hitem => ?_
  obtain ⟨hrow, hlive, haccount⟩ := mem_mobileDevices.mp hitem
  exact mem_claimed_of_device
    (mem_mobileDevices.mpr ⟨(KeyedTable.mem_erase.mp hrow).1, hlive, haccount⟩)

theorem pendingToken_counted {found : List Device} {now : Int} (hfits : Fits device found now) :
    pendingToken device.accountId (.counted device found now, true) = some device.token :=
  if_pos ⟨rfl, hfits⟩

/-- Whoever has a claim finds fewer than ten others. -/
theorem Limited.others_lt (h : Limited w ts)
    (hclaim : device.token ∈ claimed w ts device.accountId) :
    others w device < mobileDeviceLimit := by
  have hcard := Finset.card_erase_lt_of_mem hclaim
  have hothers : others w device ≤ ((claimed w ts device.accountId).erase device.token).card :=
    others_card_le
  exact (hothers.trans_lt hcard).trans_le (h.room device.accountId)

/-- A save that has read the rows claims its token if it fits. -/
theorem Limited.count {turn : Turn} (h : Limited w ts) (hrule : Unhurried w ts device turn) :
    Limited w (ts.set i (.counted device ((w.devicesOf device.accountId).take turn.page) w.now,
      true)) := by
  obtain ⟨hpage, hroom, hstored⟩ := hrule
  rw [List.take_of_length_le hpage]
  have hfits : Fits device (w.devicesOf device.accountId) w.now ↔
      others w device < mobileDeviceLimit := Iff.rfl
  refine ⟨fun accountId => ?_, fun item found now alive hv hknown => ?_⟩
  · by_cases hclaims : device.accountId = accountId ∧
        Fits device (w.devicesOf device.accountId) w.now
    · obtain ⟨rfl, hlt⟩ := hclaims
      have hsub : claimed w (ts.set i (.counted device (w.devicesOf device.accountId) w.now, true))
          device.accountId ⊆ insert device.token
            ((claimed w ts device.accountId).erase device.token) := by
        have hold {token : String} (htoken : token ∈ claimed w ts device.accountId) :
            token ∈ insert device.token ((claimed w ts device.accountId).erase device.token) := by
          by_cases heq : token = device.token
          · exact Finset.mem_insert.mpr (.inl heq)
          · exact Finset.mem_insert_of_mem (Finset.mem_erase.mpr ⟨heq, htoken⟩)
        refine claimed_subset (fun item hitem => hold (mem_claimed_of_device hitem))
          fun v hv token hpend => ?_
        obtain hv | rfl := List.mem_or_eq_of_mem_set hv
        · exact hold (mem_claimed.mpr (.inr ⟨v, hv, hpend⟩))
        · rw [pendingToken_counted hlt] at hpend
          exact Finset.mem_insert.mpr (.inl (Option.some.inj hpend).symm)
      have hlimit := hroom (hfits.mp hlt)
      exact (Finset.card_le_card hsub).trans ((Finset.card_insert_le _ _).trans hlimit)
    · refine (Finset.card_le_card (claimed_set (fun _ => mem_claimed_of_device)
        fun token hpend => ?_)).trans (h.room accountId)
      rw [pendingToken, if_neg hclaims] at hpend
      cases hpend
  · obtain hv | hv := List.mem_or_eq_of_mem_set hv
    · exact h.known item found now alive hv hknown
    · cases hv
      refine hfits.mpr ?_
      obtain hlt | ⟨old, hold, htoken⟩ := hstored hknown
      · exact hlt
      · exact h.others_lt (htoken ▸ mem_claimed_of_device hold)

theorem keeps_limited : Keeps service monitor Returns unhurried Limited where
  spawn w ts prog phase h hstart := by
    have hpending (accountId : String) : pendingToken accountId (phase, true) = none := by
      cases hstart <;> rfl
    refine ⟨?_, ⟨fun accountId => ?_, fun device found now alive hv => ?_⟩⟩
    · cases hstart with
      | save device => exact saveDevice_obeys device
      | delete accountId token => exact deleteDevice_obeys accountId token
    · refine (Finset.card_le_card (claimed_subset (fun _ => mem_claimed_of_device)
        fun v hv token hpend => ?_)).trans (h.room accountId)
      obtain hv | hv := List.mem_append.mp hv
      · exact mem_claimed.mpr (.inr ⟨v, hv, hpend⟩)
      · rw [List.mem_singleton.mp hv, hpending] at hpend
        cases hpend
    · obtain hv | hv := List.mem_append.mp hv
      · exact h.known device found now alive hv
      · cases hstart <;> cases List.mem_singleton.mp hv
  step w ts i q c turn h hi hallow hrule := by
    have h := h.after turn
    have hq := List.mem_of_getElem? hi
    have hstill : Limited (w.after turn) (ts.set i (.ended, true)) :=
      h.ended fun _ _ => mem_claimed_of_device
    obtain ⟨elapsed, page, fate⟩ := turn
    cases c with
    | query accountId =>
      cases q with
      | counted | ended => cases hallow
      | saving device =>
        obtain ⟨rfl, -⟩ := hallow
        cases fate with
        | done => exact h.count (hrule rfl device rfl rfl)
        | refused | lost => exact hstill
    | put item =>
      have hput : Limited { w.after ⟨elapsed, page, fate⟩ with
          devices := (w.after ⟨elapsed, page, fate⟩).devices.put item }
          (ts.set i (.ended, true)) := by
        refine h.put fun hmobile => ?_
        cases q with
        | ended => cases hallow
        | saving device =>
          obtain ⟨rfl, hno⟩ := hallow
          cases hno.symm.trans hmobile
        | counted device found now =>
          obtain ⟨rfl, hfits⟩ := hallow
          exact mem_claimed.mpr (.inr ⟨_, hq, pendingToken_counted hfits⟩)
      have hnext (r : Except DbError Unit) :
          monitor.next q (.put item) ⟨elapsed, page, fate⟩ r = .ended := by
        cases q <;> rfl
      rw [hnext]
      cases fate with
      | refused => exact hstill
      | done | lost => exact hput
    | delete accountId token =>
      have hnext (r : Except DbError Unit) :
          monitor.next q (.delete accountId token) ⟨elapsed, page, fate⟩ r = .ended := by
        cases q <;> rfl
      rw [hnext]
      cases fate with
      | refused => exact hstill
      | done | lost => exact h.delete accountId token
  crash w ts i q h hi _ :=
    h.set (fun _ _ => mem_claimed_of_device) (fun _ => by cases q <;> rfl)
      fun _ _ _ _ hv => .inr ⟨true, by cases hv; exact List.mem_of_getElem? hi⟩

/-- **The mobile device limit.** In a run whose counts leave room for one another, no account comes
to have more than ten mobile devices, and a save is only refused for a device that is malformed, or
for a mobile one whose token it does not find among those of the account. -/
theorem limit_kept (start pool : Pool Cmd Cmd.Answer (Except SaveError Unit) Phase World)
    (htasks : start.tasks = [])
    (hstart : ∀ accountId, (start.store.mobileDevices accountId).length ≤ mobileDeviceLimit)
    (hrun : Reaches service monitor unhurried start pool) :
    (∀ accountId, (pool.store.mobileDevices accountId).length ≤ mobileDeviceLimit) ∧
      ∀ t ∈ pool.tasks, ∀ field message, t.prog = .ret (.error (.validation field message)) →
        (∃ device, t.phase = .saving device ∧ ¬ WellFormed device) ∨
        ∃ device found now, t.phase = .counted device found now ∧ isMobile device.type ∧
          ∀ item ∈ found, item.token ≠ device.token := by
  have hlimited : Limited start.store start.views := by
    rw [Pool.views, htasks]
    refine ⟨fun accountId => ?_, fun _ _ _ _ hv => absurd hv List.not_mem_nil⟩
    have hcard := List.toFinset_card_le ((start.store.mobileDevices accountId).map (·.token))
    rw [List.length_map] at hcard
    simpa [claimed] using hcard.trans (hstart accountId)
  obtain ⟨hobeys, hroom, hknown⟩ := Reaches.invariant keeps_limited
    (fun t ht => absurd (htasks ▸ ht) List.not_mem_nil) hlimited hrun
  refine ⟨fun accountId => mobileDevices_card_le.trans (hroom accountId),
    fun t ht field message hret => ?_⟩
  have hreturns : Returns t.phase (.error (.validation field message)) := by
    have := hobeys t ht
    rwa [hret] at this
  have hview : (t.phase, t.alive) ∈ pool.views := List.mem_map.mpr ⟨t, ht, rfl⟩
  cases hphase : t.phase with
  | saving device =>
    rw [hphase] at hreturns
    exact .inl ⟨device, rfl, hreturns.1⟩
  | counted device found now =>
    rw [hphase] at hreturns hview
    obtain ⟨hmobile, hfull, -⟩ := hreturns
    exact .inr ⟨device, found, now, rfl, hmobile, fun item hitem htoken =>
      hfull (hknown device found now t.alive hview ⟨item, hitem, htoken⟩)⟩
  | ended =>
    rw [hphase] at hreturns
    exact absurd rfl (hreturns field message)

/-! ### Eleven clients at once -/

def noDevices : Pool Cmd Cmd.Answer (Except SaveError Unit) Phase World := ⟨⟨.empty, 0⟩, []⟩

def phone (i : Nat) : Device where
  accountId := "acc"
  token := String.ofList (List.replicate (i + 1) 'a')
  type := "fcm"
  createdAt := ""
  updatedAt := ""

/-- Each of them counts before the first one writes. -/
def together : List (Move Cmd Cmd.Answer (Except SaveError Unit) Turn Phase) :=
  (List.range 11).map (fun i => .spawn (saveDevice (phone i)) (.saving (phone i))) ++
    (List.range 11).map (.step · ⟨0, 1000, .done⟩) ++ (List.range 11).map (.step · ⟨0, 1000, .done⟩)

theorem together_allowed : ∀ m ∈ together, ∀ pool, anyOrder.Allows pool m := by
  simp only [together, List.forall_mem_append, List.forall_mem_map]
  exact ⟨⟨fun i _ _ => .save (phone i), fun _ _ _ _ _ _ _ => trivial⟩, fun _ _ _ _ _ _ _ => trivial⟩

theorem limit_exceeded : ∃ pool, Reaches service monitor anyOrder noDevices pool ∧
    mobileDeviceLimit < (pool.store.mobileDevices "acc").length := by
  have hmoves : (noDevices.moves service monitor together).map
      (fun pool => (pool.store.mobileDevices "acc").length) = some 11 := by
    decide +kernel
  obtain ⟨pool, hpool, hlength⟩ := Option.map_eq_some_iff.mp hmoves
  refine ⟨pool, Reaches.refl.moves together_allowed hpool, ?_⟩
  rw [hlength]
  decide

/-! ### One client -/

theorem limit_kept_alone : ∃ pool,
    Reaches service monitor unhurried noDevices pool ∧ pool.store.devices.rows = [phone 0] ∧
      (pool.store.mobileDevices "acc").length ≤ mobileDeviceLimit := by
  have hspawn : Reaches service monitor unhurried noDevices _ :=
    .tail (m := .spawn (saveDevice (phone 0)) (.saving (phone 0))) .refl (.save (phone 0)) rfl
  have hcount : Reaches service monitor unhurried noDevices _ :=
    hspawn.step (f := ⟨0, 1000, .done⟩) (i := 0) rfl fun _ device hdevice _ => by
      cases hdevice
      exact ⟨by decide, fun _ => by decide, fun _ => .inl (by decide)⟩
  have hput : Reaches service monitor unhurried noDevices _ :=
    hcount.step (f := ⟨0, 1000, .done⟩) (i := 0) rfl fun _ device hdevice => nomatch hdevice
  exact ⟨_, hput, by decide,
    (limit_kept noDevices _ rfl (fun _ => Nat.zero_le _) hput).1 "acc"⟩

end SesEmailAdapter.Notifier.DeviceStore
