import SesEmailAdapter.Resource.ResourceCollapse

/-! # What collapsed resources keep

Collapsing loses no row and no asset. Each collapsed resource takes its status and its date from
the rows that were each updated later than all before them, but a time of resolution stays when a
later row is not complete, the end of the date is the one of the first row, and the assets of the
first row are taken over as they are. -/

namespace SesEmailAdapter.Resource.CollapseConservation
open Lib
open SesEmailAdapter.Types
open Database.Listing (resourceGsi1pk)
open Resource.ResourceRows Resource.ResourceCollapse

/-! ## Rows that come together -/

/-- What decides which rows a resource takes in. -/
structure Heading where
  title : Option String
  displayDate : Option String
  updatedAt : String

def headingOf (row : ResourceRow) : Heading := ⟨row.title, row.displayDate, row.updatedAt⟩

def Heading.accepts (texts : Texts) (heading : Heading) (row : ResourceRow) : Bool :=
  titlesMatch texts heading.title row.title && sameDay texts heading.displayDate row.displayDate

/-- The title and the date of a row that has been updated later. -/
def Heading.take (heading : Heading) (row : ResourceRow) : Heading :=
  if heading.updatedAt < row.updatedAt then
    ⟨row.title <|> heading.title, row.displayDate <|> heading.displayDate, row.updatedAt⟩
  else heading

/-- The rows that come together, by their titles, dates and times of update alone. -/
def gatherings (texts : Texts) (resources : List ResourceRow) : List (List ResourceRow) :=
  (groups groupKey resources).entries.flatMap fun entry =>
    (traced (Heading.accepts texts) Heading.take headingOf entry.2).map Prod.snd

/-- The rows that were each updated later than all before them, newest first. -/
def records (rows : List ResourceRow) : List ResourceRow :=
  rows.foldl (fun newest row =>
    match newest with
    | [] => [row]
    | last :: _ => if last.updatedAt < row.updatedAt then row :: newest else newest) []

def assetKeys (row : ResourceRow) : List (String × String) :=
  (row.assets.getD []).map fun asset => (asset.type, asset.rawValue)

/-! ## The property -/

def ResolvedWhenComplete (row : ResourceRow) : Prop :=
  row.status = .complete ↔ row.resolvedAt.isSome

/-- The invariants of a row, for a relation of a date to its end. -/
def Sound (Belongs : Option String → Option String → Prop) (row : ResourceRow) : Prop :=
  ResolvedWhenComplete row ∧ Belongs row.displayDate row.displayDateEnd

structure Conserves (Belongs : Option String → Option String → Prop)
    (resources : List ResourceRow) (collapsed : List CollapsedResource) : Prop where
  /-- Every row has its key in one collapsed resource. -/
  rows : ∃ parts : List (List ResourceRow), parts.flatten.Perm resources ∧
    collapsed.map CollapsedResource.memberResourceKeys =
      parts.map fun part => part.map ResourceRow.resourceKey
  assets : ∀ key, (∃ c ∈ collapsed, key ∈ assetKeys c.resource) ↔
    ∃ row ∈ resources, key ∈ assetKeys row
  distinct : ∀ c ∈ collapsed, (assetKeys c.resource).Nodup
  sound : (∀ row ∈ resources, Sound Belongs row) → ∀ c ∈ collapsed, Sound Belongs c.resource

/-! ## The condition -/

/-- The first row names no asset twice. -/
def FirstDistinct (rows : List ResourceRow) : Prop :=
  ∀ first, rows.head? = some first → (assetKeys first).Nodup

/-- The newest row is complete, or no row that was the newest once is. -/
def StaysComplete (rows : List ResourceRow) : Prop :=
  ∀ newest, (records rows).head? = some newest →
    newest.status = .complete ∨ ∀ row ∈ records rows, row.status ≠ .complete

/-- The end of the first row belongs to the date of the last of the newest rows with a date. -/
def EndFits (Belongs : Option String → Option String → Prop) (rows : List ResourceRow) : Prop :=
  ∀ first, rows.head? = some first →
    Belongs ((records rows).findSome? ResourceRow.displayDate) first.displayDateEnd

variable {texts : Texts} {Belongs : Option String → Option String → Prop}
  {resources rows : List ResourceRow} {row : ResourceRow} {c : CollapsedResource}

/-! ### The rows of a collapsed resource -/

/-- The collapsed resources, each with the rows that were merged into it. -/
def tracedResources (texts : Texts) (resources : List ResourceRow) :
    List (CollapsedResource × List ResourceRow) :=
  (groups groupKey resources).entries.flatMap fun entry => tracedGroup texts entry.2

theorem map_fst_tracedResources (resources : List ResourceRow) :
    (tracedResources texts resources).map Prod.fst = collapseResources texts resources := by
  rw [tracedResources, collapseResources, List.map_flatMap]
  exact congrArg (List.flatMap · _) (funext fun entry => map_fst_traced _ _ _ entry.2)

theorem headingOf_mergeInto (target other : ResourceRow) :
    headingOf (mergeInto target other) = (headingOf target).take other := by
  unfold Heading.take
  by_cases hlt : target.updatedAt < other.updatedAt
  · obtain ⟨-, hupdated, htitle, hdate⟩ := mergeInto_of_lt hlt
    rw [if_pos (show (headingOf target).updatedAt < other.updatedAt from hlt), headingOf, htitle,
      hdate, hupdated]
    rfl
  · obtain ⟨-, hupdated, htitle, hdate⟩ := mergeInto_of_not_lt hlt
    rw [if_neg (show ¬ (headingOf target).updatedAt < other.updatedAt from hlt), headingOf, htitle,
      hdate, hupdated]
    rfl

theorem map_snd_tracedResources (resources : List ResourceRow) :
    (tracedResources texts resources).map Prod.snd = gatherings texts resources := by
  rw [tracedResources, gatherings, List.map_flatMap]
  have haccepts : ∀ (m : CollapsedResource) row,
      rowsMatch texts m.resource row = Heading.accepts texts (headingOf m.resource) row :=
    fun _ _ => rfl
  have hmerge : ∀ (m : CollapsedResource) row,
      headingOf (m.push row).resource = (headingOf m.resource).take row :=
    fun m row => headingOf_mergeInto m.resource row
  refine congrArg (List.flatMap · _) (funext fun entry => ?_)
  exact map_snd_traced _ _ _ (headingOf ∘ CollapsedResource.resource) haccepts hmerge
    (fun _ => rfl) entry.2

theorem gatherings_perm (resources : List ResourceRow) :
    (gatherings texts resources).flatten.Perm resources := by
  have hgroup : ∀ entry : String × List ResourceRow,
      ((tracedGroup texts entry.2).flatMap Prod.snd).Perm entry.2 := fun entry => traced_perm _
  rw [← map_snd_tracedResources, ← List.flatMap_def, tracedResources, List.flatMap_assoc]
  refine List.Perm.trans ?_ (groups_perm groupKey resources)
  exact List.Perm.flatMap_left _ fun entry _ => hgroup entry

/-! ### Assets -/

def assetKey (asset : ResourceAsset) : String × String := (asset.type, asset.rawValue)

theorem any_same_iff {assets : List ResourceAsset} {asset : ResourceAsset} :
    (assets.any fun a => a.type = asset.type && a.rawValue = asset.rawValue) = true ↔
      assetKey asset ∈ assets.map assetKey := by
  simp [assetKey, Prod.ext_iff]

theorem mergeAssets_cons (target others : List ResourceAsset) (asset : ResourceAsset) :
    mergeAssets target (asset :: others) =
      if assetKey asset ∈ target.map assetKey then mergeAssets target others
      else mergeAssets (target ++ [asset]) others := by
  unfold mergeAssets
  rw [List.foldl_cons]
  by_cases hsame : assetKey asset ∈ target.map assetKey
  · rw [if_pos (any_same_iff.mpr hsame), if_pos hsame]
  · rw [if_neg (mt any_same_iff.mp hsame), if_neg hsame]

variable {target others : List ResourceAsset}

theorem mem_mergeAssets {key : String × String} :
    key ∈ (mergeAssets target others).map assetKey ↔
      key ∈ target.map assetKey ∨ key ∈ others.map assetKey := by
  induction others generalizing target with
  | nil => simp [mergeAssets]
  | cons asset others ih =>
    rw [mergeAssets_cons, List.map_cons, List.mem_cons]
    by_cases hsame : assetKey asset ∈ target.map assetKey
    · rw [if_pos hsame, ih]
      constructor
      · exact Or.imp_right .inr
      · rintro (htarget | rfl | hothers)
        · exact .inl htarget
        · exact .inl hsame
        · exact .inr hothers
    · rw [if_neg hsame, ih, List.map_append, List.mem_append, List.map_singleton,
        List.mem_singleton, or_assoc]

/-- A merge adds no asset twice, and leaves those that are there twice. -/
theorem nodup_mergeAssets :
    ((mergeAssets target others).map assetKey).Nodup ↔ (target.map assetKey).Nodup := by
  induction others generalizing target with
  | nil => exact Iff.rfl
  | cons asset others ih =>
    rw [mergeAssets_cons]
    by_cases hsame : assetKey asset ∈ target.map assetKey
    · rw [if_pos hsame, ih]
    · rw [if_neg hsame, ih, List.map_append, List.nodup_append]
      simp only [List.map_singleton, List.nodup_singleton, List.mem_singleton, true_and,
        and_iff_left_iff_imp]
      intro _ key hkey other hother heq
      exact hsame (hother ▸ heq ▸ hkey)

/-! ### Merges -/

theorem mergeInto_state_of_lt {target other : ResourceRow}
    (h : target.updatedAt < other.updatedAt) :
    (mergeInto target other).status = other.status ∧
      (mergeInto target other).resolvedAt = (other.resolvedAt <|> target.resolvedAt) := by
  have hlater : (addAssets target other).updatedAt < other.updatedAt := h
  unfold mergeInto takeNewer takeEarlier
  rw [if_pos hlater]
  split <;> exact ⟨rfl, rfl⟩

theorem mergeInto_state_of_not_lt {target other : ResourceRow}
    (h : ¬ target.updatedAt < other.updatedAt) :
    (mergeInto target other).status = target.status ∧
      (mergeInto target other).resolvedAt = target.resolvedAt := by
  have hearlier : ¬ (addAssets target other).updatedAt < other.updatedAt := h
  unfold mergeInto takeNewer takeEarlier
  rw [if_neg hearlier]
  split <;> exact ⟨rfl, rfl⟩

/-- The end of the date is never merged. -/
theorem mergeInto_displayDateEnd (target other : ResourceRow) :
    (mergeInto target other).displayDateEnd = target.displayDateEnd := by
  unfold mergeInto takeNewer takeEarlier
  split <;> split <;> rfl

theorem assetKeys_mergeInto (target other : ResourceRow) :
    assetKeys (mergeInto target other) =
      (mergeAssets (target.assets.getD []) (other.assets.getD [])).map assetKey := by
  unfold mergeInto takeNewer takeEarlier
  split <;> split <;> rfl

theorem records_append_of_cons {newest : ResourceRow} {older : List ResourceRow}
    (h : records rows = newest :: older) (row : ResourceRow) :
    records (rows ++ [row]) =
      if newest.updatedAt < row.updatedAt then row :: newest :: older else newest :: older := by
  unfold records at h ⊢
  rw [List.foldl_append, h]
  rfl

/-- What a collapsed resource has of the rows merged into it. -/
structure Merged (c : CollapsedResource) (rows : List ResourceRow) : Prop where
  keys : c.memberResourceKeys = rows.map ResourceRow.resourceKey
  assets : ∀ key, key ∈ assetKeys c.resource ↔ ∃ row ∈ rows, key ∈ assetKeys row
  first : ∃ first rest, rows = first :: rest ∧
    c.resource.displayDateEnd = first.displayDateEnd ∧
    ((assetKeys c.resource).Nodup ↔ (assetKeys first).Nodup)
  newest : ∃ newest older, records rows = newest :: older ∧
    c.resource.updatedAt = newest.updatedAt ∧ c.resource.status = newest.status
  resolvedAt : c.resource.resolvedAt = (records rows).findSome? ResourceRow.resolvedAt
  displayDate : c.resource.displayDate = (records rows).findSome? ResourceRow.displayDate

theorem merged_new (row : ResourceRow) : Merged (newCollapsed row) [row] where
  keys := rfl
  assets key := by simp [newCollapsed, assetKeys]
  first := ⟨row, [], rfl, rfl, Iff.rfl⟩
  newest := ⟨row, [], rfl, rfl, rfl⟩
  resolvedAt := by
    show row.resolvedAt = [row].findSome? ResourceRow.resolvedAt
    rw [List.findSome?_singleton]
  displayDate := by
    show row.displayDate = [row].findSome? ResourceRow.displayDate
    rw [List.findSome?_singleton]

theorem findSome_cons {α β : Type} (f : α → Option β) (a : α) (l : List α) :
    (a :: l).findSome? f = (f a <|> l.findSome? f) := by
  rw [List.findSome?_cons]
  cases f a <;> rfl

theorem Merged.push (h : Merged c rows) (row : ResourceRow) :
    Merged (c.push row) (rows ++ [row]) := by
  obtain ⟨first, rest, hrows, hend, hdistinct⟩ := h.first
  obtain ⟨newest, older, hrecords, hupdated, hstatus⟩ := h.newest
  have happend := records_append_of_cons hrecords row
  have hassets : assetKeys (c.push row).resource =
      (mergeAssets (c.resource.assets.getD []) (row.assets.getD [])).map assetKey :=
    assetKeys_mergeInto c.resource row
  have hfirst : ∃ first rest, rows ++ [row] = first :: rest ∧
      (c.push row).resource.displayDateEnd = first.displayDateEnd ∧
      ((assetKeys (c.push row).resource).Nodup ↔ (assetKeys first).Nodup) := by
    refine ⟨first, rest ++ [row], by rw [hrows]; rfl, ?_, ?_⟩
    · exact (mergeInto_displayDateEnd c.resource row).trans hend
    · rw [hassets, nodup_mergeAssets]
      exact hdistinct
  have hmem : ∀ key, key ∈ assetKeys (c.push row).resource ↔
      ∃ other ∈ rows ++ [row], key ∈ assetKeys other := by
    intro key
    rw [hassets, mem_mergeAssets]
    refine (or_congr (h.assets key) Iff.rfl).trans ?_
    simp only [List.mem_append, List.mem_singleton, or_and_right, exists_or, exists_eq_left]
    exact Iff.rfl
  have hkeys : (c.push row).memberResourceKeys = (rows ++ [row]).map ResourceRow.resourceKey := by
    simp [CollapsedResource.push, h.keys]
  by_cases hlt : newest.updatedAt < row.updatedAt
  · rw [if_pos hlt] at happend
    rw [← hupdated] at hlt
    refine ⟨hkeys, hmem, hfirst, ⟨row, newest :: older, happend, (mergeInto_of_lt hlt).2.1,
      (mergeInto_state_of_lt hlt).1⟩, ?_, ?_⟩
    · rw [happend, findSome_cons, ← hrecords, ← h.resolvedAt]
      exact (mergeInto_state_of_lt hlt).2
    · rw [happend, findSome_cons, ← hrecords, ← h.displayDate]
      exact (mergeInto_of_lt hlt).2.2.2
  · rw [if_neg hlt, ← hrecords] at happend
    rw [← hupdated] at hlt
    refine ⟨hkeys, hmem, hfirst, ⟨newest, older, happend.trans hrecords,
      (mergeInto_of_not_lt hlt).2.1.trans hupdated,
      (mergeInto_state_of_not_lt hlt).1.trans hstatus⟩, ?_, ?_⟩
    · rw [happend, ← h.resolvedAt]
      exact (mergeInto_state_of_not_lt hlt).2
    · rw [happend, ← h.displayDate]
      exact (mergeInto_of_not_lt hlt).2.2.2

theorem merged_traced : ∀ c ∈ tracedResources texts resources, Merged c.1 c.2 := by
  intro c hc
  obtain ⟨entry, -, hc⟩ := List.mem_flatMap.mp hc
  exact traced_induct (fun row _ => merged_new row) (fun row _ c members hc _ => hc.push row) c hc

theorem mem_of_mem_records {row : ResourceRow} (h : row ∈ records rows) : row ∈ rows := by
  induction rows using List.reverseRecOn with
  | nil => cases h
  | append_singleton rows last ih =>
    cases hrecords : records rows with
    | nil =>
      rw [records, List.foldl_append] at h
      unfold records at hrecords
      rw [hrecords] at h
      exact List.mem_append_right rows h
    | cons newest older =>
      rw [records_append_of_cons hrecords, ← hrecords] at h
      split at h
      · obtain rfl | h := List.mem_cons.mp h
        · exact List.mem_append_right rows (List.mem_singleton_self row)
        · exact List.mem_append_left [last] (ih h)
      · exact List.mem_append_left [last] (ih h)

theorem first_mem_records (first : ResourceRow) (rest : List ResourceRow) :
    first ∈ records (first :: rest) := by
  induction rest using List.reverseRecOn with
  | nil => exact List.mem_singleton_self first
  | append_singleton rest last ih =>
    obtain ⟨newest, older, hrecords⟩ := List.exists_cons_of_ne_nil (List.ne_nil_of_mem ih)
    rw [← List.cons_append, records_append_of_cons hrecords, ← hrecords]
    split
    · exact List.mem_cons_of_mem last ih
    · exact ih

/-- An end has a date. -/
def Dated (displayDate displayDateEnd : Option String) : Prop :=
  displayDateEnd.isSome → displayDate.isSome

/-- No end is left without a date; only the date that it is the end of may be another one. -/
theorem endFits_dated (h : ∀ row ∈ rows, Sound Dated row) : EndFits Dated rows := by
  intro first hfirst hend
  obtain ⟨rest, rfl⟩ := List.head?_eq_some_iff.mp hfirst
  have hdate := (h first List.mem_cons_self).2 hend
  exact List.findSome?_isSome_iff.mpr ⟨first, first_mem_records first rest, hdate⟩

/-! ### One collapsed resource -/

theorem Merged.distinct_iff (h : Merged c rows) :
    (assetKeys c.resource).Nodup ↔ FirstDistinct rows := by
  obtain ⟨first, rest, rfl, -, hdistinct⟩ := h.first
  rw [hdistinct]
  constructor
  · intro hnodup other hother
    cases hother
    exact hnodup
  · exact fun hfirst => hfirst first rfl

/-- The time of resolution of some row stays, so no row with one may have been the newest. -/
theorem Merged.resolved_iff (h : Merged c rows) (hrows : ∀ row ∈ rows, ResolvedWhenComplete row) :
    ResolvedWhenComplete c.resource ↔ StaysComplete rows := by
  obtain ⟨newest, older, hrecords, -, hstatus⟩ := h.newest
  have hall : ∀ row ∈ records rows, ResolvedWhenComplete row :=
    fun row hrow => hrows row (mem_of_mem_records hrow)
  have hnewest : newest ∈ records rows := hrecords ▸ List.mem_cons_self
  have hsome : c.resource.resolvedAt.isSome ↔ ∃ row ∈ records rows, row.status = .complete := by
    rw [h.resolvedAt, List.findSome?_isSome_iff]
    exact exists_congr fun row => and_congr_right fun hrow => (hall row hrow).symm
  unfold ResolvedWhenComplete StaysComplete
  rw [hsome, hstatus, hrecords]
  constructor
  · intro hiff last hlast
    obtain rfl : newest = last := Option.some.inj hlast
    by_cases hcomplete : newest.status = .complete
    · exact .inl hcomplete
    · exact .inr fun row hrow hrowComplete => hcomplete (hiff.mpr ⟨row, hrow, hrowComplete⟩)
  · intro hstays
    constructor
    · exact fun hcomplete => ⟨newest, List.mem_cons_self, hcomplete⟩
    · intro ⟨row, hrow, hrowComplete⟩
      obtain hcomplete | hnone := hstays newest rfl
      · exact hcomplete
      · exact absurd hrowComplete (hnone row hrow)

theorem Merged.end_iff (h : Merged c rows) :
    Belongs c.resource.displayDate c.resource.displayDateEnd ↔ EndFits Belongs rows := by
  obtain ⟨first, rest, hrows, hend, -⟩ := h.first
  unfold EndFits
  rw [h.displayDate, hend, hrows]
  constructor
  · intro hbelongs other hother
    cases hother
    exact hbelongs
  · exact fun hfits => hfits first rfl

theorem Merged.sound_iff (h : Merged c rows) (hrows : ∀ row ∈ rows, Sound Belongs row) :
    Sound Belongs c.resource ↔ StaysComplete rows ∧ EndFits Belongs rows :=
  and_congr (h.resolved_iff fun row hrow => (hrows row hrow).1) h.end_iff

/-! ### All of them -/

theorem forall_collapsed {P : CollapsedResource → Prop} {Q : List ResourceRow → Prop}
    (h : ∀ c ∈ tracedResources texts resources, P c.1 ↔ Q c.2) :
    (∀ c ∈ collapseResources texts resources, P c) ↔
      ∀ rows ∈ gatherings texts resources, Q rows := by
  rw [← map_fst_tracedResources, ← map_snd_tracedResources, List.forall_mem_map,
    List.forall_mem_map]
  exact forall₂_congr h

/-- Each row has its key in one collapsed resource. -/
theorem rows_kept : ∃ parts : List (List ResourceRow), parts.flatten.Perm resources ∧
    (collapseResources texts resources).map CollapsedResource.memberResourceKeys =
      parts.map fun part => part.map ResourceRow.resourceKey := by
  refine ⟨gatherings texts resources, gatherings_perm resources, ?_⟩
  rw [← map_fst_tracedResources, ← map_snd_tracedResources, List.map_map, List.map_map]
  exact List.map_congr_left fun c hc => (merged_traced c hc).keys

/-- No asset is lost, and none is made up. -/
theorem assets_kept (key : String × String) :
    (∃ c ∈ collapseResources texts resources, key ∈ assetKeys c.resource) ↔
      ∃ row ∈ resources, key ∈ assetKeys row := by
  have hmem : ∀ row, row ∈ resources ↔ ∃ c ∈ tracedResources texts resources, row ∈ c.2 := by
    intro row
    have hperm : (gatherings texts resources).flatten.Perm resources := gatherings_perm resources
    rw [← hperm.mem_iff, ← map_snd_tracedResources, List.mem_flatten]
    simp only [List.mem_map, exists_exists_and_eq_and]
  rw [← map_fst_tracedResources]
  simp only [List.mem_map, exists_exists_and_eq_and]
  constructor
  · intro ⟨c, hc, hkey⟩
    obtain ⟨row, hrow, hkey⟩ := ((merged_traced c hc).assets key).mp hkey
    exact ⟨row, (hmem row).mpr ⟨c, hc, hrow⟩, hkey⟩
  · intro ⟨row, hrow, hkey⟩
    obtain ⟨c, hc, hrow⟩ := (hmem row).mp hrow
    exact ⟨c, hc, ((merged_traced c hc).assets key).mpr ⟨row, hrow, hkey⟩⟩

/-- **When collapsing conserves.** Rows and assets are kept in every case. The invariants are kept,
and no resource has an asset twice, just when among the rows that come together the first one names
no asset twice, a row that is not complete is newer than none that is, and the end of the first row
belongs to the date that is shown. -/
theorem conserves_iff (texts : Texts) (Belongs : Option String → Option String → Prop)
    (resources : List ResourceRow) :
    Conserves Belongs resources (collapseResources texts resources) ↔
      (∀ rows ∈ gatherings texts resources, FirstDistinct rows) ∧
        ((∀ row ∈ resources, Sound Belongs row) →
          ∀ rows ∈ gatherings texts resources, StaysComplete rows ∧ EndFits Belongs rows) := by
  have hdistinct : (∀ c ∈ collapseResources texts resources, (assetKeys c.resource).Nodup) ↔
      ∀ rows ∈ gatherings texts resources, FirstDistinct rows :=
    forall_collapsed fun c hc => (merged_traced c hc).distinct_iff
  have hsound (h : ∀ row ∈ resources, Sound Belongs row) :
      (∀ c ∈ collapseResources texts resources, Sound Belongs c.resource) ↔
        ∀ rows ∈ gatherings texts resources, StaysComplete rows ∧ EndFits Belongs rows := by
    refine forall_collapsed fun c hc => (merged_traced c hc).sound_iff fun row hrow => h row ?_
    rw [← (gatherings_perm resources).mem_iff, ← @map_snd_tracedResources texts]
    exact List.mem_flatten.mpr ⟨c.2, List.mem_map_of_mem hc, hrow⟩
  constructor
  · intro h
    exact ⟨hdistinct.mp h.distinct, fun hrows => (hsound hrows).mp (h.sound hrows)⟩
  · intro ⟨hfirst, hrest⟩
    exact ⟨rows_kept, assets_kept, hdistinct.mpr hfirst, fun h => (hsound h).mpr (hrest h)⟩

/-! ### An event that was completed, and its next mail -/

def plainTexts : Texts where
  toLowerCase text := String.ofList (text.toList.map Char.toLower)
  utcDayKey text := String.ofList (text.toList.take 10)

def openDay : ResourceRow where
  accountId := "acct-1"
  threadId := "thr-1"
  workflow := .events
  resourceKey := "open day"
  status := .complete
  expectedResolutionDate := "2026-03-09T10:00:00.000Z"
  displayDate := none
  displayDateEnd := none
  title := some "Open day"
  description := none
  resolvedAt := some "2026-03-01T09:00:00.000Z"
  assets := none
  ttl := none
  gsi1pk := resourceGsi1pk "acct-1" .complete
  gsi1sk := "2026-03-09T10:00:00.000Z"
  createdAt := "2026-02-20T09:00:00.000Z"
  updatedAt := "2026-03-01T09:00:00.000Z"

/-- A later mail names the event a little differently, so it has a row of its own. -/
def openDayAgain : ResourceRow :=
  { openDay with
    resourceKey := "open day 2026"
    status := .active
    title := some "Open day 2026"
    resolvedAt := none
    gsi1pk := resourceGsi1pk "acct-1" .active
    createdAt := "2026-03-02T09:00:00.000Z"
    updatedAt := "2026-03-02T09:00:00.000Z" }

theorem collapsed_openDay :
    (collapseResources plainTexts [openDay, openDayAgain]).map
        (fun c => (c.resource.status, c.resource.resolvedAt)) =
      [(.active, some "2026-03-01T09:00:00.000Z")] := by decide +kernel

theorem openDay_stays_resolved :
    ¬ Conserves Dated [openDay, openDayAgain]
      (collapseResources plainTexts [openDay, openDayAgain]) := by
  intro h
  have hrows : ∀ row ∈ [openDay, openDayAgain], Sound Dated row := by
    intro row hrow
    obtain rfl | hrow := List.mem_cons.mp hrow
    · exact ⟨iff_of_true rfl rfl, fun hend => by cases hend⟩
    · rw [List.mem_singleton.mp hrow]
      exact ⟨iff_of_false (by decide) (by decide), fun hend => by cases hend⟩
  obtain ⟨c, hc, hstate⟩ : ∃ c ∈ collapseResources plainTexts [openDay, openDayAgain],
      (c.resource.status, c.resource.resolvedAt) =
        (.active, some "2026-03-01T09:00:00.000Z") := by
    refine List.mem_map.mp ?_
    rw [collapsed_openDay]
    exact List.mem_singleton_self _
  obtain ⟨hstatus, hresolved⟩ := Prod.mk.inj hstate
  have hsound := (h.sound hrows c hc).1.mpr (by rw [hresolved]; rfl)
  rw [hstatus] at hsound
  cases hsound

end SesEmailAdapter.Resource.CollapseConservation
