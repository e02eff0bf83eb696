import SesEmailAdapter.Database.Listing
import SesEmailAdapter.Lib.Runs
import SesEmailAdapter.Resource.ResourceDatabase

/-! # Resource rows

The two updates of a resource's row, a save by what a mail says and a status by the user, with all
the attributes they set. An update leaves the attributes it does not name, so a row can end up
with values of several saves. -/

namespace SesEmailAdapter.Resource.ResourceRows
open Lib
open SesEmailAdapter.Types
open Database.Listing (resourceGsi1pk)

/-! ## Rows -/

structure ResourceRow where
  accountId : String
  threadId : String
  workflow : Workflow
  resourceKey : String
  status : ResourceStatus
  expectedResolutionDate : String
  displayDate : Option String
  displayDateEnd : Option String
  title : Option String
  description : Option String
  resolvedAt : Option String
  assets : Option (List ResourceAsset)
  ttl : Option Int
  gsi1pk : String
  gsi1sk : String
  createdAt : String
  updatedAt : String

/-- `${workflow}#${resourceKey}` -/
def buildSk (workflow : Workflow) (resourceKey : String) : String :=
  workflow.text ++ "#" ++ resourceKey

def rowKey (row : ResourceRow) : String × String × String :=
  (row.accountId, row.threadId, buildSk row.workflow row.resourceKey)

abbrev ResourceTable := KeyedTable rowKey

/-! ## Updates -/

structure SaveResourceParams where
  accountId : String
  threadId : String
  workflow : Workflow
  resourceKey : String
  expectedResolutionDate : String
  displayDate : Option String
  displayDateEnd : Option String
  title : Option String
  description : Option String
  ttl : Option Int
  assets : List ResourceAsset
deriving DecidableEq, Repr

def SaveResourceParams.key (params : SaveResourceParams) : String × String × String :=
  (params.accountId, params.threadId, buildSk params.workflow params.resourceKey)

/-- The row after the update, from the one under its key. -/
def SaveResourceParams.row (params : SaveResourceParams) (now : String)
    (stored : Option ResourceRow) : ResourceRow where
  accountId := params.accountId
  threadId := params.threadId
  workflow := params.workflow
  resourceKey := params.resourceKey
  status := (stored.map ResourceRow.status).getD .active
  expectedResolutionDate := params.expectedResolutionDate
  displayDate := params.displayDate <|> stored.bind ResourceRow.displayDate
  displayDateEnd := params.displayDateEnd <|> stored.bind ResourceRow.displayDateEnd
  title := params.title <|> stored.bind ResourceRow.title
  description := params.description <|> stored.bind ResourceRow.description
  resolvedAt := stored.bind ResourceRow.resolvedAt
  assets :=
    if params.assets = [] then stored.bind ResourceRow.assets
    else some ((stored.bind ResourceRow.assets).getD [] ++ params.assets)
  ttl := params.ttl <|> stored.bind ResourceRow.ttl
  gsi1pk := (stored.map ResourceRow.gsi1pk).getD (resourceGsi1pk params.accountId .active)
  gsi1sk := params.expectedResolutionDate
  createdAt := (stored.map ResourceRow.createdAt).getD now
  updatedAt := now

def saveResource (params : SaveResourceParams) (now : String) (t : ResourceTable) :
    ResourceTable :=
  t.put (params.row now (t.get params.key))

def ResourceRow.withStatus (row : ResourceRow) (accountId : String) (status : ResourceStatus)
    (now : String) : ResourceRow :=
  { row with
    status := status
    gsi1pk := resourceGsi1pk accountId status
    resolvedAt := if status = .complete then some now else none
    updatedAt := now }

/-- Conditional on the row being there. -/
def setResourceStatus (accountId threadId sk : String) (status : ResourceStatus) (now : String)
    (t : ResourceTable) : ResourceTable :=
  match t.get (accountId, threadId, sk) with
  | some row => t.put (row.withStatus accountId status now)
  | none => t

/-- The calls of a run, in the order in which their updates take place. -/
inductive Op
  | saveResource (params : SaveResourceParams) (now : String)
  | setResourceStatus (accountId threadId sk : String) (status : ResourceStatus) (now : String)

/-- The table, and what has been saved in it. -/
structure State where
  table : ResourceTable
  saves : List SaveResourceParams

def step (s : State) : Op → State
  | .saveResource params now => ⟨saveResource params now s.table, params :: s.saves⟩
  | .setResourceStatus accountId threadId sk status now =>
    { s with table := setResourceStatus accountId threadId sk status now s.table }

/-! ## Saves of the ingest -/

/-- A row as it is read. -/
def ResourceRow.item (row : ResourceRow) : Resource where
  accountId := row.accountId
  threadId := row.threadId
  workflow := row.workflow
  resourceKey := row.resourceKey
  status := row.status
  expectedResolutionDate := row.expectedResolutionDate
  displayDate := row.displayDate
  displayDateEnd := row.displayDateEnd
  title := row.title
  description := row.description
  assets := row.assets.getD []
  createdAt := row.createdAt
  updatedAt := row.updatedAt

/-- The save of what was derived from a mail. -/
def SaveResourceParams.ofInfo (params : ResourceDatabase.SaveResourceParams) (ttl : Int) :
    SaveResourceParams where
  accountId := params.accountId
  threadId := params.threadId
  workflow := params.workflow
  resourceKey := params.info.resourceKey
  expectedResolutionDate := params.info.expectedResolutionDate
  displayDate := some params.info.displayDate
  displayDateEnd := params.info.displayDateEnd
  title := params.info.title
  description := params.info.description
  ttl := some ttl
  assets := params.assets

/-- The ingest's save of a resource is the update of its row. -/
theorem item_row (params : ResourceDatabase.SaveResourceParams) (ttl : Int) (now : String)
    (stored : Option ResourceRow) :
    ((SaveResourceParams.ofInfo params ttl).row now stored).item =
      params.apply now (stored.map ResourceRow.item) := by
  have hassets : (if params.assets = [] then stored.bind ResourceRow.assets
      else some ((stored.bind ResourceRow.assets).getD [] ++ params.assets)).getD [] =
        ((stored.map ResourceRow.item).map Resource.assets).getD [] ++ params.assets := by
    cases stored with
    | none => by_cases hempty : params.assets = [] <;> simp [hempty]
    | some row => by_cases hempty : params.assets = [] <;> simp [hempty, ResourceRow.item]
  unfold ResourceRow.item SaveResourceParams.row SaveResourceParams.ofInfo
    ResourceDatabase.SaveResourceParams.apply
  cases stored with
  | none => exact congrArg (fun assets => { params.apply now none with assets := assets }) hassets
  | some row =>
    exact congrArg (fun assets =>
      { params.apply now (some row.item) with assets := assets }) hassets

/-! ## The invariant -/

/-- What an asset is recognised by. -/
def assetKey (asset : ResourceAsset) : String × String := (asset.type, asset.rawValue)

def assetKeys (assets : Option (List ResourceAsset)) : List (String × String) :=
  (assets.getD []).map assetKey

/-- One save of a row stated both dates. -/
def StatedTogether (saves : List SaveResourceParams) (key : String × String × String)
    (displayDate : Option String) (displayDateEnd : String) : Prop :=
  ∃ params ∈ saves, params.key = key ∧ params.displayDate = displayDate ∧
    params.displayDateEnd = some displayDateEnd

structure SoundRow (saves : List SaveResourceParams) (row : ResourceRow) : Prop where
  gsi1pk : row.gsi1pk = resourceGsi1pk row.accountId row.status
  resolved : row.resolvedAt.isSome ↔ row.status = .complete
  assets : (assetKeys row.assets).Nodup
  dates : ∀ displayDateEnd, row.displayDateEnd = some displayDateEnd →
    StatedTogether saves (rowKey row) row.displayDate displayDateEnd

def Sound (s : State) : Prop := ∀ row ∈ s.table.rows, SoundRow s.saves row

/-- A save leaves the status of a row that is there. -/
def KeepsStatus (s : State) : Op → Prop
  | .saveResource params now => ∀ row, s.table.get params.key = some row →
    ((step s (.saveResource params now)).table.get params.key).map ResourceRow.status =
      some row.status
  | _ => True

/-! ## Saves that fit -/

/-- The assets of a save are new to the row, and different. -/
def NewAssets (stored : Option ResourceRow) (assets : List ResourceAsset) : Prop :=
  (assets.map assetKey).Nodup ∧
    ∀ asset ∈ assets, assetKey asset ∉ assetKeys (stored.bind ResourceRow.assets)

/-- A save that states only one of the dates meets no other date, unless the pair that results
has been stated before. -/
def DatesMeet (saves : List SaveResourceParams) (stored : Option ResourceRow)
    (params : SaveResourceParams) : Prop :=
  match params.displayDate, params.displayDateEnd with
  | some start, none => ∀ displayDateEnd, stored.bind ResourceRow.displayDateEnd =
      some displayDateEnd → StatedTogether saves params.key (some start) displayDateEnd
  | none, some displayDateEnd => stored.bind ResourceRow.displayDate = none ∨
      StatedTogether saves params.key (stored.bind ResourceRow.displayDate) displayDateEnd
  | _, _ => True

def Fits (s : State) : Op → Prop
  | .saveResource params _ => NewAssets (s.table.get params.key) params.assets ∧
      DatesMeet s.saves (s.table.get params.key) params
  | .setResourceStatus .. => True

/-! ## One row -/

variable {saves : List SaveResourceParams} {params : SaveResourceParams} {now : String}
  {stored : Option ResourceRow} {row : ResourceRow}

theorem StatedTogether.cons {key : String × String × String} {displayDate : Option String}
    {displayDateEnd : String} (h : StatedTogether saves key displayDate displayDateEnd)
    (params : SaveResourceParams) :
    StatedTogether (params :: saves) key displayDate displayDateEnd := by
  obtain ⟨earlier, hmem, hstated⟩ := h
  exact ⟨earlier, List.mem_cons_of_mem params hmem, hstated⟩

theorem SoundRow.cons (h : SoundRow saves row) (params : SaveResourceParams) :
    SoundRow (params :: saves) row :=
  { h with dates := fun displayDateEnd hend => (h.dates displayDateEnd hend).cons params }

@[simp] theorem rowKey_row : rowKey (params.row now stored) = params.key := rfl

theorem assetKeys_row :
    assetKeys (params.row now stored).assets =
      assetKeys (stored.bind ResourceRow.assets) ++ params.assets.map assetKey := by
  by_cases hempty : params.assets = []
  · simp [SaveResourceParams.row, hempty]
  · simp [SaveResourceParams.row, hempty, assetKeys]

theorem nodup_assetKeys_row (hstored : (assetKeys (stored.bind ResourceRow.assets)).Nodup) :
    (assetKeys (params.row now stored).assets).Nodup ↔ NewAssets stored params.assets := by
  rw [assetKeys_row, List.nodup_append]
  constructor
  · intro ⟨_, hnew, hapart⟩
    refine ⟨hnew, fun asset hasset hmem => ?_⟩
    exact hapart _ hmem _ (List.mem_map.mpr ⟨asset, hasset, rfl⟩) rfl
  · intro ⟨hnew, hfresh⟩
    refine ⟨hstored, hnew, fun key hkey other hother heq => ?_⟩
    obtain ⟨asset, hasset, rfl⟩ := List.mem_map.mp hother
    exact hfresh asset hasset (heq ▸ hkey)

/-- A save whose dates are not those of the row says nothing about the row's. -/
theorem statedTogether_cons_iff {displayDate : Option String} {displayDateEnd : String}
    (hparams : ¬ (params.displayDate = displayDate ∧ params.displayDateEnd = some displayDateEnd)) :
    StatedTogether (params :: saves) params.key displayDate displayDateEnd ↔
      StatedTogether saves params.key displayDate displayDateEnd := by
  constructor
  · intro ⟨earlier, hmem, hkey, hstated⟩
    rcases List.mem_cons.mp hmem with rfl | hmem
    · exact absurd hstated hparams
    · exact ⟨earlier, hmem, hkey, hstated⟩
  · exact fun h => h.cons params

/-- The dates of a row after a save, case by case of what the save states. -/
theorem dates_row (hstored : ∀ row, stored = some row → SoundRow saves row ∧ rowKey row = params.key) :
    (∀ displayDateEnd, (params.row now stored).displayDateEnd = some displayDateEnd →
        StatedTogether (params :: saves) params.key (params.row now stored).displayDate
          displayDateEnd) ↔
      DatesMeet saves stored params := by
  simp only [SaveResourceParams.row, DatesMeet]
  cases hstart : params.displayDate with
  | some start =>
    cases hend : params.displayDateEnd with
    | some finish =>
      refine iff_true_intro fun displayDateEnd heq => ?_
      obtain rfl := Option.some.inj heq
      exact ⟨params, List.mem_cons_self, rfl, hstart, hend⟩
    | none =>
      refine forall_congr' fun displayDateEnd => imp_congr Iff.rfl ?_
      refine statedTogether_cons_iff fun h => ?_
      rw [hend] at h
      cases h.2
  | none =>
    cases hend : params.displayDateEnd with
    | some finish =>
      constructor
      · intro h
        obtain hnone | hsome := Option.eq_none_or_eq_some (stored.bind ResourceRow.displayDate)
        · exact .inl hnone
        · obtain ⟨start, hsome⟩ := hsome
          refine .inr ((statedTogether_cons_iff fun hparams => ?_).mp (h finish rfl))
          rw [hstart, hsome] at hparams
          cases hparams.1
      · intro h displayDateEnd heq
        obtain rfl := Option.some.inj heq
        rcases h with hnone | hstated
        · exact ⟨params, List.mem_cons_self, rfl, hstart.trans hnone.symm, hend⟩
        · exact hstated.cons params
    | none =>
      refine iff_true_intro fun displayDateEnd heq => ?_
      cases stored with
      | none => cases heq
      | some row =>
        obtain ⟨hsound, hkey⟩ := hstored row rfl
        have hstated := (hsound.dates displayDateEnd heq).cons params
        rw [hkey] at hstated
        exact hstated

/-- A save leaves a sound row just when it fits the one it meets. -/
theorem soundRow_row
    (hstored : ∀ row, stored = some row → SoundRow saves row ∧ rowKey row = params.key) :
    SoundRow (params :: saves) (params.row now stored) ↔
      NewAssets stored params.assets ∧ DatesMeet saves stored params := by
  have hassets : (assetKeys (stored.bind ResourceRow.assets)).Nodup := by
    cases stored with
    | none => exact List.nodup_nil
    | some row => exact (hstored row rfl).1.assets
  constructor
  · intro h
    exact ⟨(nodup_assetKeys_row hassets).mp h.assets, (dates_row hstored).mp h.dates⟩
  · intro ⟨hnew, hdates⟩
    refine ⟨?_, ?_, (nodup_assetKeys_row hassets).mpr hnew, (dates_row hstored).mpr hdates⟩
    · cases stored with
      | none => rfl
      | some row =>
        obtain ⟨hsound, hkey⟩ := hstored row rfl
        have haccount : row.accountId = params.accountId := congrArg Prod.fst hkey
        change row.gsi1pk = resourceGsi1pk params.accountId row.status
        rw [← haccount]
        exact hsound.gsi1pk
    · cases stored with
      | none => exact ⟨nofun, nofun⟩
      | some row => exact (hstored row rfl).1.resolved

theorem soundRow_withStatus (h : SoundRow saves row) (status : ResourceStatus) (now : String) :
    SoundRow saves (row.withStatus row.accountId status now) where
  gsi1pk := rfl
  resolved := by
    cases status with
    | active => exact ⟨nofun, nofun⟩
    | complete => exact ⟨fun _ => rfl, fun _ => rfl⟩
  assets := h.assets
  dates := h.dates

/-! ## One call -/

theorem sound_put {s : State} (h : Sound s) (params : SaveResourceParams) (now : String) :
    Sound (step s (.saveResource params now)) ↔
      SoundRow (params :: s.saves) (params.row now (s.table.get params.key)) := by
  constructor
  · intro hnext
    exact hnext _ (KeyedTable.mem_put.mpr (.inl rfl))
  · intro hrow other hother
    rcases KeyedTable.mem_put.mp hother with rfl | ⟨hother, -⟩
    · exact hrow
    · exact (h other hother).cons params

theorem step_fits (s : State) (op : Op) (h : Sound s) : Sound (step s op) ↔ Fits s op := by
  cases op with
  | saveResource params now =>
    refine (sound_put h params now).trans (soundRow_row fun row hget => ?_)
    exact ⟨h row (KeyedTable.mem_rows_of_get hget), KeyedTable.key_of_get hget⟩
  | setResourceStatus accountId threadId sk status now =>
    refine iff_true_intro ?_
    simp only [step, setResourceStatus]
    cases hget : s.table.get (accountId, threadId, sk) with
    | none => exact h
    | some row =>
      have haccount : row.accountId = accountId := congrArg Prod.fst (KeyedTable.key_of_get hget)
      intro other hother
      rcases KeyedTable.mem_put.mp hother with rfl | ⟨hother, -⟩
      · rw [← haccount]
        exact soundRow_withStatus (h row (KeyedTable.mem_rows_of_get hget)) status now
      · exact h other hother

theorem keepsStatus (s : State) (op : Op) : KeepsStatus s op := by
  cases op with
  | setResourceStatus => trivial
  | saveResource params now =>
    intro row hget
    have hput : (step s (.saveResource params now)).table.get params.key =
        some (params.row now (s.table.get params.key)) := KeyedTable.get_put_self _ _
    rw [hput, hget]
    rfl

/-! ## Runs -/

/-- **Resources.** In every run of saves and status changes all rows are sound at all times just
when every save fits the row it meets; and no save changes a status. -/
theorem resources_sound_iff (s : State) (h : Sound s) (ops : List Op) :
    (Always step Sound s ops ∧ EachFits step KeepsStatus s ops) ↔ EachFits step Fits s ops := by
  have hsound := always_iff_eachFits step_fits h ops
  have hkept : EachFits step KeepsStatus s ops :=
    (eachFits_congr (fun s op => iff_true_intro (keepsStatus s op)) s ops).mpr
      (eachFits_true s ops)
  rw [hsound]
  exact and_iff_left hkept

/-! ## A mail that is processed twice -/

/-- A ticket, with its code. -/
def ticketSave : SaveResourceParams where
  accountId := "acct-1"
  threadId := "thr-1"
  workflow := .events
  resourceKey := "TICKET-1"
  expectedResolutionDate := "2027-10-03T22:00:00.000Z"
  displayDate := some "2027-09-28"
  displayDateEnd := some "2027-10-03"
  title := some "Summit"
  description := none
  ttl := none
  assets := [⟨"qr_code", "Ticket", "QR-1", "sgn-1", none⟩]

/-- An update to the same event that states its new day only. -/
def movedSave : SaveResourceParams :=
  { ticketSave with displayDate := some "2027-11-05", displayDateEnd := none, assets := [] }

def noResources : State := ⟨.empty, []⟩

theorem sound_noResources : Sound noResources := fun _ hrow => absurd hrow List.not_mem_nil

/-- The mail is processed, and the user is done with the event. -/
def ticketDone : List Op :=
  [.saveResource ticketSave "2027-03-01T00:00:00.000Z",
    .setResourceStatus "acct-1" "thr-1" "events#TICKET-1" .complete "2027-03-02T00:00:00.000Z"]

theorem resources_sound_ticket : Always step Sound noResources ticketDone := by
  have hnew : NewAssets none ticketSave.assets :=
    ⟨List.nodup_singleton _, fun _ _ => List.not_mem_nil⟩
  have hfits : EachFits step Fits noResources ticketDone := ⟨⟨hnew, trivial⟩, trivial, trivial⟩
  exact ((resources_sound_iff noResources sound_noResources ticketDone).mpr hfits).1

/-- Saved again, the row holds the code twice; moved, it ends before it starts. -/
theorem resources_saved_again :
    ¬ Always step Sound noResources
        [.saveResource ticketSave "2027-03-01T00:00:00.000Z",
          .saveResource ticketSave "2027-03-01T00:05:00.000Z"] ∧
      ¬ Always step Sound noResources
        [.saveResource ticketSave "2027-03-01T00:00:00.000Z",
          .saveResource movedSave "2027-03-09T00:00:00.000Z"] := by
  constructor
  · intro halways
    have htwice := (halways.2.2 _ List.mem_cons_self).assets
    exact absurd htwice (by decide +kernel)
  · intro halways
    obtain ⟨params, hmem, -, hstart, hend⟩ :=
      (halways.2.2 _ List.mem_cons_self).dates "2027-10-03" rfl
    rcases List.mem_cons.mp hmem with rfl | hmem
    · cases hend
    · obtain rfl := List.mem_singleton.mp hmem
      exact absurd hstart (by decide +kernel)

end SesEmailAdapter.Resource.ResourceRows
