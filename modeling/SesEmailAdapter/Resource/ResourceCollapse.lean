import Mathlib.Data.List.Infix
import SesEmailAdapter.Lib.Clusters
import SesEmailAdapter.Lib.OrderedMap
import SesEmailAdapter.Resource.ResourceRows

/-! # Collapsed resources

Rows of a thread that stand for one thing (titles of which one contains the other, dates on one
day) are shown as one resource, grouped in one pass over the rows. Where no two rows match only by
way of a third, the groups are the classes of matching rows, whatever the order of the rows. -/

namespace SesEmailAdapter.Resource.ResourceCollapse
open Lib
open SesEmailAdapter.Types
open Resource.ResourceDatabase (truthy)
open Resource.ResourceRows

/-! ## Matching rows -/

/-- The lower-casing of a text, and the UTC day of the date that a text gives. -/
structure Texts where
  toLowerCase : String → String
  utcDayKey : String → String

variable (texts : Texts)

def isSubstringMatch (a b : String) : Bool :=
  let la := (texts.toLowerCase a).toList
  let lb := (texts.toLowerCase b).toList
  decide (lb <:+: la) || decide (la <:+: lb)

def sameDay (a b : Option String) : Bool :=
  match truthy a, truthy b with
  | some a, some b => texts.utcDayKey a = texts.utcDayKey b
  | _, _ => true

def titlesMatch (a b : Option String) : Bool :=
  match truthy a, truthy b with
  | some a, some b => isSubstringMatch texts a b
  | _, _ => false

def rowsMatch (a b : ResourceRow) : Bool :=
  titlesMatch texts a.title b.title && sameDay texts a.displayDate b.displayDate

/-! ## Merging -/

def mergeAssets (target other : List ResourceAsset) : List ResourceAsset :=
  other.foldl (fun assets asset =>
    if assets.any fun a => a.type = asset.type && a.rawValue = asset.rawValue then assets
    else assets ++ [asset]) target

/-- The other row's texts, where it has been updated later. -/
def takeNewer (target other : ResourceRow) : ResourceRow :=
  if target.updatedAt < other.updatedAt then
    { target with
      resourceKey := other.resourceKey
      status := other.status
      expectedResolutionDate := other.expectedResolutionDate
      displayDate := other.displayDate <|> target.displayDate
      title := other.title <|> target.title
      description := other.description <|> target.description
      resolvedAt := other.resolvedAt <|> target.resolvedAt
      updatedAt := other.updatedAt }
  else target

def takeEarlier (target other : ResourceRow) : ResourceRow :=
  if other.createdAt < target.createdAt then { target with createdAt := other.createdAt }
  else target

def addAssets (target other : ResourceRow) : ResourceRow :=
  { target with assets := some (mergeAssets (target.assets.getD []) (other.assets.getD [])) }

def mergeInto (target other : ResourceRow) : ResourceRow :=
  takeEarlier (takeNewer (addAssets target other) other) other

structure CollapsedResource where
  resource : ResourceRow
  memberResourceKeys : List String

def CollapsedResource.push (m : CollapsedResource) (resource : ResourceRow) : CollapsedResource :=
  ⟨mergeInto m.resource resource, m.memberResourceKeys ++ [resource.resourceKey]⟩

def newCollapsed (resource : ResourceRow) : CollapsedResource :=
  ⟨{ resource with assets := some (resource.assets.getD []) }, [resource.resourceKey]⟩

/-- A row is merged into the first resource it matches. -/
def collapseGroup (group : List ResourceRow) : List CollapsedResource :=
  clusters (fun m resource => rowsMatch texts m.resource resource) .push newCollapsed group

def groupKey (resource : ResourceRow) : String :=
  resource.threadId ++ "#" ++ resource.workflow.text

def collapseResources (resources : List ResourceRow) : List CollapsedResource :=
  (groups groupKey resources).entries.flatMap fun entry => collapseGroup texts entry.2

/-- The collapsed rows of one group, with the rows that were merged. -/
def tracedGroup (group : List ResourceRow) : List (CollapsedResource × List ResourceRow) :=
  traced (fun m resource => rowsMatch texts m.resource resource) .push newCollapsed group

variable {texts}

variable {c : CollapsedResource}

theorem mem_collapseResources {resources : List ResourceRow} :
    c ∈ collapseResources texts resources ↔ ∃ key members,
      (c, members) ∈ tracedGroup texts (resources.filter fun row => groupKey row = key) := by
  unfold collapseResources collapseGroup
  rw [List.mem_flatMap]
  constructor
  · intro ⟨⟨key, group⟩, hgroup, hc⟩
    obtain ⟨-, rfl⟩ := (mem_groups groupKey).mp hgroup
    obtain ⟨members, hmembers⟩ := mem_clusters _ _ _ hc
    exact ⟨key, members, hmembers⟩
  · intro ⟨key, members, hmembers⟩
    refine ⟨(key, resources.filter fun row => groupKey row = key),
      (mem_groups groupKey).mpr ⟨?_, rfl⟩, ?_⟩
    · by_contra hnone
      have hempty : resources.filter (fun row => groupKey row = key) = [] := by
        refine List.filter_eq_nil_iff.mpr fun row hrow hkey => hnone ?_
        exact List.mem_map.mpr ⟨row, hrow, of_decide_eq_true hkey⟩
      rw [hempty] at hmembers
      exact absurd hmembers List.not_mem_nil
    · rw [← map_fst_traced]
      exact List.mem_map.mpr ⟨_, hmembers, rfl⟩

/-! ## Merged rows -/

/-- The thread and the workflow that a row belongs to. -/
def placeOf (row : ResourceRow) : String × String × Workflow :=
  (row.accountId, row.threadId, row.workflow)

@[simp] theorem placeOf_mergeInto (target other : ResourceRow) :
    placeOf (mergeInto target other) = placeOf target := by
  unfold mergeInto takeEarlier takeNewer
  split <;> split <;> rfl

/-- A merge takes the key, the time and the texts of a row that has been updated later. -/
theorem mergeInto_of_lt {target other : ResourceRow} (h : target.updatedAt < other.updatedAt) :
    (mergeInto target other).resourceKey = other.resourceKey ∧
      (mergeInto target other).updatedAt = other.updatedAt ∧
      (mergeInto target other).title = (other.title <|> target.title) ∧
      (mergeInto target other).displayDate = (other.displayDate <|> target.displayDate) := by
  have hlater : (addAssets target other).updatedAt < other.updatedAt := h
  unfold mergeInto takeNewer takeEarlier
  rw [if_pos hlater]
  split <;> exact ⟨rfl, rfl, rfl, rfl⟩

theorem mergeInto_of_not_lt {target other : ResourceRow}
    (h : ¬ target.updatedAt < other.updatedAt) :
    (mergeInto target other).resourceKey = target.resourceKey ∧
      (mergeInto target other).updatedAt = target.updatedAt ∧
      (mergeInto target other).title = target.title ∧
      (mergeInto target other).displayDate = target.displayDate := by
  have hearlier : ¬ (addAssets target other).updatedAt < other.updatedAt := h
  unfold mergeInto takeNewer takeEarlier
  rw [if_neg hearlier]
  split <;> exact ⟨rfl, rfl, rfl, rfl⟩

theorem rowKey_eq_of_placeOf {row row' : ResourceRow} (hplace : placeOf row = placeOf row')
    (hkey : row.resourceKey = row'.resourceKey) : rowKey row = rowKey row' := by
  simp only [placeOf, Prod.mk.injEq] at hplace
  simp [rowKey, hplace, hkey]

/-- A collapsed resource has the keys of the rows merged into it, and one of them for its own. -/
structure Grown (place : String × String × Workflow) (c : CollapsedResource)
    (members : List ResourceRow) : Prop where
  keys : c.memberResourceKeys = members.map ResourceRow.resourceKey
  place : placeOf c.resource = place
  primary : ∃ row ∈ members, c.resource.resourceKey = row.resourceKey

variable {group : List ResourceRow} {place : String × String × Workflow}

theorem tracedGroup_grown (hgroup : ∀ row ∈ group, placeOf row = place) :
    ∀ c ∈ tracedGroup texts group, Grown place c.1 c.2 := by
  refine traced_induct ?_ ?_
  · intro row hrow
    exact ⟨rfl, hgroup row hrow, row, List.mem_singleton_self row, rfl⟩
  · intro row hrow c members hc _
    obtain ⟨primary, hprimary, hkey⟩ := hc.primary
    refine ⟨?_, ?_, ?_⟩
    · simp [CollapsedResource.push, hc.keys]
    · exact (placeOf_mergeInto _ _).trans hc.place
    · by_cases hlt : c.resource.updatedAt < row.updatedAt
      · exact ⟨row, List.mem_append_right members (List.mem_singleton_self row),
          (mergeInto_of_lt hlt).1⟩
      · exact ⟨primary, List.mem_append_left [row] hprimary,
          (mergeInto_of_not_lt hlt).1.trans hkey⟩

/-! ## Classes of matching rows -/

theorem titlesMatch_comm (a b : Option String) : titlesMatch texts a b = titlesMatch texts b a := by
  unfold titlesMatch
  cases truthy a <;> cases truthy b <;> simp [isSubstringMatch, Bool.or_comm]

theorem sameDay_comm (a b : Option String) : sameDay texts a b = sameDay texts b a := by
  unfold sameDay
  cases truthy a <;> cases truthy b <;> simp [eq_comm]

theorem rowsMatch_comm (a b : ResourceRow) : rowsMatch texts a b = rowsMatch texts b a := by
  unfold rowsMatch
  rw [titlesMatch_comm, sameDay_comm]

theorem title_isSome_of_titlesMatch {a b : Option String} (h : titlesMatch texts a b = true) :
    b.isSome = true := by
  cases b with
  | none =>
    simp [titlesMatch, truthy] at h
  | some b => rfl

/-- A row without a date matches by its title alone. -/
theorem rowsMatch_of_no_date {a b : ResourceRow} (h : a.displayDate = none)
    (htitles : titlesMatch texts a.title b.title = true) : rowsMatch texts a b = true := by
  simp [rowsMatch, htitles, h, sameDay, truthy]

/-- No two rows match only by way of a third. -/
def MatchesTransfer (texts : Texts) (group : List ResourceRow) : Prop :=
  ∀ a ∈ group, ∀ b ∈ group, ∀ c ∈ group, rowsMatch texts a b = true →
    rowsMatch texts b c = true → rowsMatch texts a c = true

/-- A collapsed resource reads as the newest of its rows, with a date of another one where that
has none. -/
structure ReadsAs (c : CollapsedResource) (members : List ResourceRow) (newest : ResourceRow) :
    Prop where
  mem : newest ∈ members
  resourceKey : c.resource.resourceKey = newest.resourceKey
  updatedAt : c.resource.updatedAt = newest.updatedAt
  title : c.resource.title = newest.title
  displayDate : c.resource.displayDate = newest.displayDate ∨
    newest.displayDate = none ∧ ∃ row ∈ members, c.resource.displayDate = row.displayDate
  latest : ∀ row ∈ members, row.updatedAt ≤ newest.updatedAt

/-- The rows of a collapsed resource match the newest of them. -/
def Newest (texts : Texts) (group : List ResourceRow) (c : CollapsedResource)
    (members : List ResourceRow) : Prop :=
  (∀ row ∈ members, row ∈ group) ∧ ∃ newest, ReadsAs c members newest ∧
    ∀ row ∈ members, row = newest ∨ rowsMatch texts newest row = true

/-- A collapsed resource takes in the rows that match one of its own. -/
theorem Newest.accepts (hgroup : MatchesTransfer texts group)
    {members : List ResourceRow} (h : Newest texts group c members) {row : ResourceRow}
    (hrow : row ∈ group) :
    rowsMatch texts c.resource row = true ↔ ∃ b ∈ members, rowsMatch texts b row = true := by
  obtain ⟨hin, newest, hreads, hmatch⟩ := h
  have hnewest := hin newest hreads.mem
  constructor
  · intro haccepts
    refine ⟨newest, hreads.mem, ?_⟩
    obtain hdate | ⟨hnone, -⟩ := hreads.displayDate
    · rwa [rowsMatch, hreads.title, hdate] at haccepts
    · rw [rowsMatch, hreads.title, Bool.and_eq_true] at haccepts
      exact rowsMatch_of_no_date hnone haccepts.1
  · intro ⟨b, hb, hbrow⟩
    have hall : rowsMatch texts newest row = true := by
      obtain rfl | hnewestb := hmatch b hb
      · exact hbrow
      · exact hgroup newest hnewest b (hin b hb) row hrow hnewestb hbrow
    obtain hdate | ⟨-, dated, hdated, hdate⟩ := hreads.displayDate
    · rwa [rowsMatch, hreads.title, hdate]
    · have hdatedRow : rowsMatch texts dated row = true := by
        obtain rfl | hnewestDated := hmatch dated hdated
        · exact hall
        · rw [rowsMatch_comm] at hnewestDated
          exact hgroup dated (hin dated hdated) newest hnewest row hrow hnewestDated hall
      rw [rowsMatch, Bool.and_eq_true] at hall hdatedRow
      rw [rowsMatch, hreads.title, hdate, hall.1, hdatedRow.2]
      rfl

theorem Newest.push (hgroup : MatchesTransfer texts group)
    {members : List ResourceRow} (h : Newest texts group c members) {row : ResourceRow}
    (hrow : row ∈ group) (haccepts : rowsMatch texts c.resource row = true) :
    Newest texts group (c.push row) (members ++ [row]) := by
  obtain ⟨b, hb, hbrow⟩ := (h.accepts hgroup hrow).mp haccepts
  obtain ⟨hin, newest, hreads, hmatch⟩ := h
  have hnewest := hin newest hreads.mem
  have hnewestRow : rowsMatch texts newest row = true := by
    obtain rfl | hnewestb := hmatch b hb
    · exact hbrow
    · exact hgroup newest hnewest b (hin b hb) row hrow hnewestb hbrow
  have htitle : row.title.isSome = true := by
    rw [rowsMatch, Bool.and_eq_true] at hnewestRow
    exact title_isSome_of_titlesMatch hnewestRow.1
  refine ⟨by simpa [or_imp, forall_and] using ⟨hin, hrow⟩, ?_⟩
  by_cases hlt : c.resource.updatedAt < row.updatedAt
  · obtain ⟨hkey, hupdated, htitles, hdate⟩ := mergeInto_of_lt hlt
    refine ⟨row, ⟨List.mem_append_right members (List.mem_singleton_self row), hkey, hupdated,
      ?_, ?_, ?_⟩, ?_⟩
    · refine htitles.trans ?_
      obtain ⟨title, htitle⟩ := Option.isSome_iff_exists.mp htitle
      simp [htitle]
    · cases hrowDate : row.displayDate with
      | some date => exact .inl (hdate.trans (by simp [hrowDate]))
      | none =>
        have hkept : (c.push row).resource.displayDate = c.resource.displayDate :=
          hdate.trans (by simp [hrowDate])
        refine .inr ⟨rfl, ?_⟩
        obtain hsame | ⟨-, dated, hdated, hsame⟩ := hreads.displayDate
        · exact ⟨newest, List.mem_append_left [row] hreads.mem, hkept.trans hsame⟩
        · exact ⟨dated, List.mem_append_left [row] hdated, hkept.trans hsame⟩
    · intro other hother
      obtain hother | hother := List.mem_append.mp hother
      · exact (hreads.latest other hother).trans (hreads.updatedAt ▸ hlt.le)
      · exact (List.mem_singleton.mp hother) ▸ le_rfl
    · intro other hother
      obtain hother | hother := List.mem_append.mp hother
      · refine .inr ?_
        rw [rowsMatch_comm] at hnewestRow
        obtain rfl | hnewestOther := hmatch other hother
        · exact hnewestRow
        · exact hgroup row hrow newest hnewest other (hin other hother) hnewestRow hnewestOther
      · exact .inl (List.mem_singleton.mp hother)
  · obtain ⟨hkey, hupdated, htitles, hdate⟩ := mergeInto_of_not_lt hlt
    refine ⟨newest, ⟨List.mem_append_left [row] hreads.mem, hkey.trans hreads.resourceKey,
      hupdated.trans hreads.updatedAt, htitles.trans hreads.title, ?_, ?_⟩, ?_⟩
    · obtain hsame | ⟨hnone, dated, hdated, hsame⟩ := hreads.displayDate
      · exact .inl (hdate.trans hsame)
      · exact .inr ⟨hnone, dated, List.mem_append_left [row] hdated, hdate.trans hsame⟩
    · intro other hother
      obtain hother | hother := List.mem_append.mp hother
      · exact hreads.latest other hother
      · rw [List.mem_singleton.mp hother, ← hreads.updatedAt]
        exact not_lt.mp hlt
    · intro other hother
      obtain hother | hother := List.mem_append.mp hother
      · exact hmatch other hother
      · exact .inr ((List.mem_singleton.mp hother) ▸ hnewestRow)

theorem tracedGroup_follows (hgroup : MatchesTransfer texts group) :
    Follows (fun m resource => rowsMatch texts m.resource resource) .push newCollapsed
      (Newest texts group) (fun a b => rowsMatch texts a b = true) group where
  start row hrow := by
    refine ⟨by simpa using hrow, row, ⟨List.mem_singleton_self row, rfl, rfl, rfl, .inl rfl, ?_⟩, ?_⟩
    · simp
    · simp
  merge row hrow c members hc haccepts := hc.push hgroup hrow haccepts
  accepts row hrow c members hc := hc.accepts hgroup hrow

/-- The rows merged into a resource are those that match one of them. -/
theorem mem_members_iff (hgroup : MatchesTransfer texts group)
    {c : CollapsedResource × List ResourceRow} (hc : c ∈ tracedGroup texts group)
    {a b : ResourceRow} (ha : a ∈ c.2) (hb : b ∈ group) :
    b ∈ c.2 ↔ b = a ∨ rowsMatch texts a b = true :=
  (tracedGroup_follows hgroup).mem_iff (fun a b hab => (rowsMatch_comm a b).symm.trans hab)
    hgroup hc ha hb

end SesEmailAdapter.Resource.ResourceCollapse
