import SesEmailAdapter.Lib.KeySort
import SesEmailAdapter.Resource.ResourceCollapse

/-! # Resources API

The listings of collapsed resources and the change of a status under the id of one of them. The id
of a resource that was collapsed from several rows stands for the group of its thread's rows, as
they are when the status is changed. -/

namespace SesEmailAdapter.Resource.ResourceApi
open Lib
open SesEmailAdapter.Types
open Resource.ResourceRows Resource.ResourceCollapse

/-! ## Ids -/

/-- The prefix, `res-cmp-` or `res-`, and the text that follows it in base64url. -/
structure ResourceId where
  compound : Bool
  payload : String
deriving DecidableEq, Repr

def encodeResourceId (threadId sk : String) (compound : Bool) : ResourceId :=
  ⟨compound, threadId ++ ":" ++ sk⟩

def decodeResourceId (resourceId : ResourceId) : Option (String × String) :=
  let decoded := resourceId.payload.toList
  if ':' ∈ decoded then
    some (String.ofList (decoded.takeWhile (· ≠ ':')),
      String.ofList ((decoded.dropWhile (· ≠ ':')).drop 1))
  else none

def skOf (resource : ResourceRow) : String := buildSk resource.workflow resource.resourceKey

def resourceIdOf (c : CollapsedResource) : ResourceId :=
  encodeResourceId c.resource.threadId (skOf c.resource) (1 < c.memberResourceKeys.length)

/-! ## Listings -/

/-- The rows of a thread, of any status, in the order of their sort keys. -/
def listResourcesByThread (t : ResourceTable) (accountId threadId : String) : List ResourceRow :=
  sortBy skOf (t.rows.filter fun row => row.accountId = accountId && row.threadId = threadId)

/-- The instant of a text is a past one. -/
def isPastEvent (isPast : String → Bool) (resource : ResourceRow) : Bool :=
  resource.workflow = .events && isPast resource.expectedResolutionDate

def threadResources (texts : Texts) (isPast : String → Bool) (t : ResourceTable)
    (accountId threadId : String) : List CollapsedResource :=
  (collapseResources texts (listResourcesByThread t accountId threadId)).filter fun c =>
    !isPastEvent isPast c.resource

/-! ## Status changes -/

def resolveCompoundMemberSks (texts : Texts) (t : ResourceTable)
    (accountId threadId primarySk : String) : List String :=
  let collapsed := collapseResources texts (listResourcesByThread t accountId threadId)
  match collapsed.find? fun c => skOf c.resource = primarySk with
  | none => []
  | some group => group.memberResourceKeys.map (buildSk group.resource.workflow)

inductive PatchResponse
  | notFound
  | updated (resource : ResourceRow) (memberCount : Nat)

/-- Each write has a time of its own. -/
def setStatuses (accountId threadId : String) (status : ResourceStatus) (now : String → String)
    (targetSks : List String) (t : ResourceTable) : ResourceTable :=
  targetSks.foldl (fun t sk => setResourceStatus accountId threadId sk status (now sk) t) t

def patchResource (texts : Texts) (t : ResourceTable) (accountId : String)
    (resourceId : ResourceId) (status : ResourceStatus) (now : String → String) :
    PatchResponse × ResourceTable :=
  match decodeResourceId resourceId with
  | none => (.notFound, t)
  | some (threadId, sk) =>
    match t.get (accountId, threadId, sk) with
    | none => (.notFound, t)
    | some _ =>
      let targetSks :=
        if resourceId.compound then resolveCompoundMemberSks texts t accountId threadId sk else [sk]
      let t' := setStatuses accountId threadId status now targetSks t
      match t'.get (accountId, threadId, sk), decide (sk ∈ targetSks) with
      | some primary, true => (.updated primary targetSks.length, t')
      | _, _ => (.notFound, t')

/-! ## What a change writes -/

abbrev RowKey := String × String × String

/-- A change of status under the id writes the rows under the keys, and no others. -/
def PatchUpdates (texts : Texts) (t : ResourceTable) (accountId : String) (resourceId : ResourceId)
    (keys : List RowKey) : Prop :=
  ∀ status now key, (patchResource texts t accountId resourceId status now).2.get key =
    if key ∈ keys then
      (t.get key).map fun row => row.withStatus accountId status (now key.2.2)
    else t.get key

def memberKeys (accountId : String) (c : CollapsedResource) : List RowKey :=
  c.memberResourceKeys.map fun resourceKey =>
    (accountId, c.resource.threadId, buildSk c.resource.workflow resourceKey)

/-- A change under the id of a resource writes just the rows that were merged into it. -/
def UpdatesMembers (texts : Texts) (t : ResourceTable) (accountId : String)
    (c : CollapsedResource) : Prop :=
  PatchUpdates texts t accountId (resourceIdOf c) (memberKeys accountId c)

/-- A change under the id of a resource writes the group of the thread's rows that reads as the row
of the id, and nothing where there is none. -/
def UpdatesLiveGroup (texts : Texts) (t : ResourceTable) (accountId : String)
    (c : CollapsedResource) : Prop :=
  let live := collapseResources texts (listResourcesByThread t accountId c.resource.threadId)
  (∀ group ∈ live, skOf group.resource = skOf c.resource →
    PatchUpdates texts t accountId (resourceIdOf c) (memberKeys accountId group)) ∧
  ((∀ group ∈ live, skOf group.resource ≠ skOf c.resource) → ∀ status now,
    patchResource texts t accountId (resourceIdOf c) status now = (.notFound, t))

def RESOURCE_WORKFLOWS : List Workflow :=
  [.package, .travel, .payments, .healthcare, .job, .events]

/-- The rows that saves leave: of a resource workflow, in a thread whose id has no colon. -/
def WellKeyed (t : ResourceTable) : Prop :=
  ∀ row ∈ t.rows, row.workflow ∈ RESOURCE_WORKFLOWS ∧ ':' ∉ row.threadId.toList

/-- Rows of an account, each once, in any order. -/
structure Shown (t : ResourceTable) (accountId : String) (rows : List ResourceRow) : Prop where
  nodup : rows.Nodup
  mem : ∀ row ∈ rows, row ∈ t.rows
  account : ∀ row ∈ rows, row.accountId = accountId

/-- Matching rows of one thread and workflow: they are listed together, none of them match only by
way of a third, and no two were updated at one time. -/
structure Settled (texts : Texts) (t : ResourceTable) (shown : List ResourceRow) : Prop where
  whole : ∀ a ∈ shown, ∀ b ∈ t.rows, placeOf a = placeOf b → rowsMatch texts a b = true → b ∈ shown
  transfer : ∀ place, MatchesTransfer texts (t.rows.filter fun row => placeOf row = place)
  apart : ∀ a ∈ t.rows, ∀ b ∈ t.rows, placeOf a = placeOf b → rowsMatch texts a b = true →
    a.updatedAt = b.updatedAt → a = b

/-! ## Keys -/

variable {threadId : String}

theorem decodeResourceId_encode (h : ':' ∉ threadId.toList) (sk : String) (compound : Bool) :
    decodeResourceId (encodeResourceId threadId sk compound) = some (threadId, sk) := by
  have hpayload : (threadId ++ ":" ++ sk).toList = threadId.toList ++ ':' :: sk.toList := by
    simp
  have hkeep : ∀ c ∈ threadId.toList, decide (c ≠ ':') = true := by
    intro c hc
    simp only [decide_eq_true_eq]
    rintro rfl
    exact h hc
  unfold decodeResourceId encodeResourceId
  simp only [hpayload]
  rw [if_pos (by simp), List.takeWhile_append_of_pos hkeep, List.dropWhile_append_of_pos hkeep]
  simp

theorem workflow_text_inj : ∀ w ∈ RESOURCE_WORKFLOWS, ∀ w' ∈ RESOURCE_WORKFLOWS,
    w.text = w'.text → w = w' := by
  decide

theorem hash_not_mem_text : ∀ w ∈ RESOURCE_WORKFLOWS, '#' ∉ w.text.toList := by
  decide

theorem groupKey_inj {row row' : ResourceRow} (h : row.workflow ∈ RESOURCE_WORKFLOWS)
    (h' : row'.workflow ∈ RESOURCE_WORKFLOWS) (hkey : groupKey row = groupKey row') :
    row.threadId = row'.threadId ∧ row.workflow = row'.workflow := by
  have htake : ∀ {l r : List Char}, '#' ∉ l → (l ++ '#' :: r).takeWhile (· ≠ '#') = l := by
    intro l r hl
    rw [List.takeWhile_append_of_pos]
    · simp
    · intro c hc
      simp only [decide_eq_true_eq]
      rintro rfl
      exact hl hc
  have htext : ∀ row : ResourceRow, (groupKey row).toList.reverse =
      row.workflow.text.toList.reverse ++ '#' :: row.threadId.toList.reverse := by
    simp [groupKey]
  have hreversed := congrArg (fun text : String => text.toList.reverse) hkey
  simp only [htext] at hreversed
  have hhash : ∀ {w : Workflow}, w ∈ RESOURCE_WORKFLOWS → '#' ∉ w.text.toList.reverse := by
    intro w hw hmem
    exact hash_not_mem_text w hw (List.mem_reverse.mp hmem)
  have hworkflows := congrArg (List.takeWhile (· ≠ '#')) hreversed
  rw [htake (hhash h), htake (hhash h')] at hworkflows
  rw [hworkflows] at hreversed
  have hthreads := (List.cons.inj (List.append_cancel_left hreversed)).2
  refine ⟨String.toList_injective (List.reverse_injective hthreads), ?_⟩
  exact workflow_text_inj _ h _ h' (String.toList_injective (List.reverse_injective hworkflows))

/-! ## Writes -/

theorem get_setResourceStatus (accountId threadId sk : String) (status : ResourceStatus)
    (now : String) (t : ResourceTable) (key : RowKey) :
    (setResourceStatus accountId threadId sk status now t).get key =
      if key = (accountId, threadId, sk) then
        (t.get key).map fun row => row.withStatus accountId status now
      else t.get key := by
  unfold setResourceStatus
  cases hget : t.get (accountId, threadId, sk) with
  | none =>
    by_cases hkey : key = (accountId, threadId, sk)
    · simp [hkey, hget]
    · simp [hkey]
  | some row =>
    have hrow : rowKey row = (accountId, threadId, sk) := KeyedTable.key_of_get hget
    have hwritten : rowKey (row.withStatus accountId status now) = (accountId, threadId, sk) := hrow
    by_cases hkey : key = (accountId, threadId, sk)
    · rw [if_pos hkey, hkey, hget, ← hwritten]
      exact KeyedTable.get_put_self t _
    · rw [if_neg hkey]
      exact KeyedTable.get_put_ne t _ (hwritten ▸ hkey)

theorem get_setStatuses (accountId threadId : String) (status : ResourceStatus)
    (now : String → String) (targetSks : List String) (t : ResourceTable) (key : RowKey) :
    (setStatuses accountId threadId status now targetSks t).get key =
      if key ∈ targetSks.map fun sk => (accountId, threadId, sk) then
        (t.get key).map fun row => row.withStatus accountId status (now key.2.2)
      else t.get key := by
  unfold setStatuses
  induction targetSks generalizing t with
  | nil => simp
  | cons sk targetSks ih =>
    rw [List.foldl_cons, ih, get_setResourceStatus, List.map_cons]
    by_cases hkey : key = (accountId, threadId, sk)
    · -- A second write of one row sets what the first has set.
      rw [hkey, if_pos rfl, if_pos List.mem_cons_self]
      split
      · cases t.get (accountId, threadId, sk) <;> rfl
      · rfl
    · rw [if_neg hkey]
      simp only [List.mem_cons, hkey, false_or]

section Patch

variable {texts : Texts} {t : ResourceTable} {accountId threadId sk : String}
  {resourceId : ResourceId} {status : ResourceStatus} {now : String → String}

variable {row : ResourceRow}

theorem patch_rows (hid : decodeResourceId resourceId = some (threadId, sk))
    (hrow : t.get (accountId, threadId, sk) = some row) :
    (patchResource texts t accountId resourceId status now).2 =
      setStatuses accountId threadId status now
        (if resourceId.compound then resolveCompoundMemberSks texts t accountId threadId sk
          else [sk]) t := by
  unfold patchResource
  simp only [hid, hrow]
  split <;> rfl

theorem patchUpdates_single (hid : decodeResourceId resourceId = some (threadId, sk))
    (hsingle : resourceId.compound = false) (hrow : t.get (accountId, threadId, sk) = some row) :
    PatchUpdates texts t accountId resourceId [(accountId, threadId, sk)] := by
  intro status now key
  rw [patch_rows hid hrow, hsingle]
  exact get_setStatuses accountId threadId status now [sk] t key

theorem patchUpdates_group (hid : decodeResourceId resourceId = some (threadId, sk))
    (hcompound : resourceId.compound = true)
    (hrow : t.get (accountId, threadId, sk) = some row) {group : CollapsedResource}
    (hgroup : (collapseResources texts (listResourcesByThread t accountId threadId)).find?
      (fun c => skOf c.resource = sk) = some group) (hthread : group.resource.threadId = threadId) :
    PatchUpdates texts t accountId resourceId (memberKeys accountId group) := by
  intro status now key
  have htargets : resolveCompoundMemberSks texts t accountId threadId sk =
      group.memberResourceKeys.map (buildSk group.resource.workflow) := by
    simp only [resolveCompoundMemberSks, hgroup]
  rw [patch_rows hid hrow, hcompound, if_pos rfl, htargets, get_setStatuses, List.map_map,
    memberKeys, hthread]
  rfl

theorem patch_no_group (hid : decodeResourceId resourceId = some (threadId, sk))
    (hcompound : resourceId.compound = true)
    (hnone : ∀ group ∈ collapseResources texts (listResourcesByThread t accountId threadId),
      skOf group.resource ≠ sk) :
    patchResource texts t accountId resourceId status now = (.notFound, t) := by
  have hfind : (collapseResources texts (listResourcesByThread t accountId threadId)).find?
      (fun c => skOf c.resource = sk) = none :=
    List.find?_eq_none.mpr fun group hgroup hsk => hnone group hgroup (of_decide_eq_true hsk)
  unfold patchResource
  simp only [hid, hcompound, if_true, resolveCompoundMemberSks, hfind]
  cases t.get (accountId, threadId, sk) <;> simp [setStatuses]

theorem PatchUpdates.congr {keys keys' : List RowKey}
    (h : PatchUpdates texts t accountId resourceId keys) (hkeys : ∀ key, key ∈ keys ↔ key ∈ keys') :
    PatchUpdates texts t accountId resourceId keys' := by
  intro status now key
  rw [h status now key]
  simp only [hkeys]

end Patch

/-! ## Shown resources -/

section Shown

variable {texts : Texts} {t : ResourceTable} {accountId : String} {rows : List ResourceRow}
  {key : String} {c : CollapsedResource} {members : List ResourceRow}

/-- The rows of a collapsed resource are of its thread and workflow. -/
theorem Shown.grown (hshown : Shown t accountId rows) (hkeyed : WellKeyed t)
    (hc : (c, members) ∈ tracedGroup texts (rows.filter fun row => groupKey row = key)) :
    Grown (placeOf c.resource) c members ∧
      ∀ row ∈ rows, groupKey row = key → placeOf row = placeOf c.resource := by
  have hnonempty : rows.filter (fun row => groupKey row = key) ≠ [] := by
    intro hnil
    rw [hnil] at hc
    exact absurd hc List.not_mem_nil
  obtain ⟨first, hfirst⟩ := List.exists_mem_of_ne_nil _ hnonempty
  obtain ⟨hfirstRow, hfirstKey⟩ := List.mem_filter.mp hfirst
  have hplace : ∀ row ∈ rows, groupKey row = key → placeOf row = placeOf first := by
    intro row hrow hrowKey
    have hkeys : groupKey row = groupKey first := hrowKey.trans (of_decide_eq_true hfirstKey).symm
    obtain ⟨hthread, hworkflow⟩ := groupKey_inj (hkeyed row (hshown.mem row hrow)).1
      (hkeyed first (hshown.mem first hfirstRow)).1 hkeys
    rw [placeOf, placeOf, hthread, hworkflow, hshown.account row hrow,
      hshown.account first hfirstRow]
  have hgroup : ∀ row ∈ rows.filter (fun row => groupKey row = key), placeOf row = placeOf first :=
    fun row hrow => hplace row (List.mem_filter.mp hrow).1
      (of_decide_eq_true (List.mem_filter.mp hrow).2)
  have hgrown := tracedGroup_grown hgroup _ hc
  have hresource : placeOf c.resource = placeOf first := hgrown.place
  rw [hresource]
  exact ⟨hgrown, hplace⟩

theorem mem_rows_of_member
    (hc : (c, members) ∈ tracedGroup texts (rows.filter fun row => groupKey row = key))
    (hrow : row ∈ members) : row ∈ rows ∧ groupKey row = key := by
  obtain ⟨hin, hkey⟩ := List.mem_filter.mp (mem_of_mem_traced hc hrow)
  exact ⟨hin, of_decide_eq_true hkey⟩

/-- A collapsed resource is under the key of one of its rows. -/
theorem Shown.primary (hshown : Shown t accountId rows) (hkeyed : WellKeyed t)
    (hc : (c, members) ∈ tracedGroup texts (rows.filter fun row => groupKey row = key)) :
    ∃ row ∈ members, row.resourceKey = c.resource.resourceKey ∧ rowKey row = rowKey c.resource := by
  obtain ⟨hgrown, hplace⟩ := hshown.grown hkeyed hc
  obtain ⟨row, hrow, hkey⟩ := hgrown.primary
  obtain ⟨hin, hrowKey⟩ := mem_rows_of_member hc hrow
  exact ⟨row, hrow, hkey.symm, rowKey_eq_of_placeOf (hplace row hin hrowKey) hkey.symm⟩

theorem Shown.accountId_eq (hshown : Shown t accountId rows) (hkeyed : WellKeyed t)
    (hc : (c, members) ∈ tracedGroup texts (rows.filter fun row => groupKey row = key)) :
    c.resource.accountId = accountId := by
  obtain ⟨row, hrow, -, hkey⟩ := hshown.primary hkeyed hc
  rw [← hshown.account row (mem_rows_of_member hc hrow).1]
  exact (congrArg Prod.fst hkey).symm

theorem Shown.memberKeys_eq (hshown : Shown t accountId rows) (hkeyed : WellKeyed t)
    (hc : (c, members) ∈ tracedGroup texts (rows.filter fun row => groupKey row = key)) :
    memberKeys accountId c = members.map rowKey := by
  obtain ⟨hgrown, hplace⟩ := hshown.grown hkeyed hc
  rw [memberKeys, hgrown.keys, List.map_map]
  refine List.map_congr_left fun row hrow => ?_
  obtain ⟨hin, hrowKey⟩ := mem_rows_of_member hc hrow
  have hrowPlace := hplace row hin hrowKey
  have haccount := hshown.account row hin
  simp only [placeOf, Prod.mk.injEq] at hrowPlace
  simp [rowKey, hrowPlace, ← haccount]

/-- No two collapsed resources are under one key. -/
theorem Shown.eq_of_rowKey (hshown : Shown t accountId rows) (hkeyed : WellKeyed t)
    {key' : String} {c' : CollapsedResource} {members' : List ResourceRow}
    (hc : (c, members) ∈ tracedGroup texts (rows.filter fun row => groupKey row = key))
    (hc' : (c', members') ∈ tracedGroup texts (rows.filter fun row => groupKey row = key'))
    (heq : rowKey c.resource = rowKey c'.resource) : c = c' := by
  obtain ⟨row, hrow, -, hkey⟩ := hshown.primary hkeyed hc
  obtain ⟨row', hrow', -, hkey'⟩ := hshown.primary hkeyed hc'
  obtain ⟨hin, hgroup⟩ := mem_rows_of_member hc hrow
  obtain ⟨hin', hgroup'⟩ := mem_rows_of_member hc' hrow'
  have hsame : row = row' := List.inj_on_of_nodup_map t.distinct (hshown.mem row hin)
    (hshown.mem row' hin') (hkey.trans (heq.trans hkey'.symm))
  subst hsame
  obtain rfl : key = key' := hgroup.symm.trans hgroup'
  exact congrArg Prod.fst (eq_of_mem_traced (hshown.nodup.filter _) hc hc' hrow hrow')

/-! ## Changes under the id of a shown resource -/

theorem listResourcesByThread_shown (t : ResourceTable) (accountId threadId : String) :
    Shown t accountId (listResourcesByThread t accountId threadId) := by
  have hmem : ∀ row ∈ listResourcesByThread t accountId threadId,
      row ∈ t.rows ∧ row.accountId = accountId := by
    intro row hrow
    obtain ⟨hrow, hthread⟩ := List.mem_filter.mp ((mem_sortBy skOf).mp hrow)
    simp only [Bool.and_eq_true, decide_eq_true_eq] at hthread
    exact ⟨hrow, hthread.1⟩
  refine ⟨?_, fun row hrow => (hmem row hrow).1, fun row hrow => (hmem row hrow).2⟩
  exact (sortBy_perm skOf _).nodup_iff.mpr ((List.Nodup.of_map rowKey t.distinct).filter _)

theorem mem_listResourcesByThread :
    row ∈ listResourcesByThread t accountId threadId ↔
      row ∈ t.rows ∧ row.accountId = accountId ∧ row.threadId = threadId := by
  simp [listResourcesByThread]

/-- The row of a shown resource's key is there, and its id decodes to that key. -/
theorem Shown.decodes (hshown : Shown t accountId rows) (hkeyed : WellKeyed t)
    (hc : (c, members) ∈ tracedGroup texts (rows.filter fun row => groupKey row = key)) :
    decodeResourceId (resourceIdOf c) = some (c.resource.threadId, skOf c.resource) ∧
      ∃ row, t.get (accountId, c.resource.threadId, skOf c.resource) = some row := by
  obtain ⟨row, hrow, -, hkey⟩ := hshown.primary hkeyed hc
  have hin := hshown.mem row (mem_rows_of_member hc hrow).1
  have hthread : row.threadId = c.resource.threadId := congrArg (fun key => key.2.1) hkey
  refine ⟨decodeResourceId_encode (hthread ▸ (hkeyed row hin).2) _ _, row, ?_⟩
  have hresource : rowKey c.resource = (accountId, c.resource.threadId, skOf c.resource) := by
    rw [rowKey, hshown.accountId_eq hkeyed hc]
    rfl
  rw [← hresource, ← hkey]
  exact KeyedTable.mem_rows_iff.mp hin

theorem Shown.updates_single (hshown : Shown t accountId rows) (hkeyed : WellKeyed t)
    (hc : c ∈ collapseResources texts rows) (hlength : c.memberResourceKeys.length = 1) :
    UpdatesMembers texts t accountId c := by
  obtain ⟨key, members, hc⟩ := mem_collapseResources.mp hc
  obtain ⟨hid, row, hrow⟩ := hshown.decodes hkeyed hc
  obtain ⟨hgrown, -⟩ := hshown.grown hkeyed hc
  have hsingle : (resourceIdOf c).compound = false := by
    simp [resourceIdOf, encodeResourceId, hlength]
  have hkeys : memberKeys accountId c = [(accountId, c.resource.threadId, skOf c.resource)] := by
    obtain ⟨primary, hprimary, hkey⟩ := hgrown.primary
    obtain ⟨only, honly⟩ := List.length_eq_one_iff.mp hlength
    have hmem : primary.resourceKey ∈ c.memberResourceKeys := by
      rw [hgrown.keys]
      exact List.mem_map.mpr ⟨primary, hprimary, rfl⟩
    rw [honly, List.mem_singleton] at hmem
    rw [memberKeys, honly, List.map_singleton, ← hmem, ← hkey]
    rfl
  rw [UpdatesMembers, hkeys]
  exact patchUpdates_single hid hsingle hrow

theorem Shown.updates_liveGroup (hshown : Shown t accountId rows) (hkeyed : WellKeyed t)
    (hc : c ∈ collapseResources texts rows) (hlength : 1 < c.memberResourceKeys.length) :
    UpdatesLiveGroup texts t accountId c := by
  obtain ⟨key, members, hc⟩ := mem_collapseResources.mp hc
  obtain ⟨hid, row, hrow⟩ := hshown.decodes hkeyed hc
  have hcompound : (resourceIdOf c).compound = true := by
    simp [resourceIdOf, encodeResourceId, hlength]
  refine ⟨fun group hgroup hsk => ?_, fun hnone status now => patch_no_group hid hcompound hnone⟩
  have hlive := listResourcesByThread_shown t accountId c.resource.threadId
  have hthread : ∀ group ∈ collapseResources texts
      (listResourcesByThread t accountId c.resource.threadId),
        rowKey group.resource = (accountId, c.resource.threadId, skOf group.resource) := by
    intro group hgroup
    obtain ⟨key, members, hgroup⟩ := mem_collapseResources.mp hgroup
    obtain ⟨row, hrow, -, hkey⟩ := hlive.primary hkeyed hgroup
    obtain ⟨-, haccount, hthread⟩ :=
      mem_listResourcesByThread.mp (mem_rows_of_member hgroup hrow).1
    have hplace : row.accountId = group.resource.accountId ∧
        row.threadId = group.resource.threadId :=
      ⟨congrArg Prod.fst hkey, congrArg (fun key => key.2.1) hkey⟩
    rw [rowKey, ← hplace.1, ← hplace.2, haccount, hthread]
    rfl
  have hfind : (collapseResources texts (listResourcesByThread t accountId
      c.resource.threadId)).find? (fun other => skOf other.resource = skOf c.resource) =
        some group := by
    obtain ⟨found, hfound⟩ := Option.isSome_iff_exists.mp
      (List.find?_isSome (p := fun other => skOf other.resource = skOf c.resource).mpr
        ⟨group, hgroup, decide_eq_true hsk⟩)
    have hin := List.mem_of_find?_eq_some hfound
    have hfoundSk : skOf found.resource = skOf c.resource := by
      simpa using List.find?_some hfound
    have hrowKeys : rowKey found.resource = rowKey group.resource := by
      rw [hthread found hin, hthread group hgroup, hfoundSk, hsk]
    obtain ⟨key, members, hin⟩ := mem_collapseResources.mp hin
    obtain ⟨key', members', hgroup⟩ := mem_collapseResources.mp hgroup
    rw [hfound, hlive.eq_of_rowKey hkeyed hin hgroup hrowKeys]
  exact patchUpdates_group hid hcompound hrow hfind
    (congrArg (fun key => key.2.1) (hthread group hgroup))

/-- The resources of a thread's listing are the groups that a change of status finds. -/
theorem threadResources_updates (hkeyed : WellKeyed t) {isPast : String → Bool}
    (hc : c ∈ threadResources texts isPast t accountId threadId) :
    UpdatesMembers texts t accountId c := by
  have hlive := listResourcesByThread_shown t accountId threadId
  have hin := (List.mem_filter.mp hc).1
  obtain ⟨key, members, htraced⟩ := mem_collapseResources.mp hin
  obtain ⟨row, hrow, -, hkey⟩ := hlive.primary hkeyed htraced
  obtain ⟨-, -, hthread⟩ := mem_listResourcesByThread.mp (mem_rows_of_member htraced hrow).1
  obtain rfl : threadId = c.resource.threadId :=
    hthread.symm.trans (congrArg (fun key => key.2.1) hkey)
  obtain hlength | hlength : c.memberResourceKeys.length = 1 ∨ 1 < c.memberResourceKeys.length := by
    have hpos : c.memberResourceKeys.length ≠ 0 := by
      rw [(hlive.grown hkeyed htraced).1.keys, List.length_map]
      exact List.length_pos_of_mem hrow |>.ne'
    omega
  · exact hlive.updates_single hkeyed hin hlength
  · exact (hlive.updates_liveGroup hkeyed hin hlength).1 c hin rfl

theorem Settled.group (hsettled : Settled texts t rows) {group : List ResourceRow}
    {place : String × String × Workflow} (hgroup : ∀ row ∈ group, row ∈ t.rows)
    (hplace : ∀ row ∈ group, placeOf row = place) : MatchesTransfer texts group := by
  have hin : ∀ row ∈ group, row ∈ t.rows.filter fun row => placeOf row = place := fun row hrow =>
    List.mem_filter.mpr ⟨hgroup row hrow, decide_eq_true (hplace row hrow)⟩
  intro a ha b hb c hc
  exact hsettled.transfer place a (hin a ha) b (hin b hb) c (hin c hc)

/-- Where matching rows are settled, the live rows of a thread make the group that is shown, under
the key of the row updated last. -/
theorem Shown.live_group (hshown : Shown t accountId rows) (hkeyed : WellKeyed t)
    (hsettled : Settled texts t rows) (hc : c ∈ collapseResources texts rows) :
    ∃ group ∈ collapseResources texts
        (listResourcesByThread t accountId c.resource.threadId),
      skOf group.resource = skOf c.resource ∧
        ∀ key, key ∈ memberKeys accountId group ↔ key ∈ memberKeys accountId c := by
  obtain ⟨key, members, hc⟩ := mem_collapseResources.mp hc
  have hlive := listResourcesByThread_shown t accountId c.resource.threadId
  obtain ⟨hgrown, hplace⟩ := hshown.grown hkeyed hc
  have hrowsTransfer : MatchesTransfer texts (rows.filter fun row => groupKey row = key) :=
    hsettled.group (fun row hrow => hshown.mem row (List.mem_filter.mp hrow).1) fun row hrow =>
      hplace row (List.mem_filter.mp hrow).1 (of_decide_eq_true (List.mem_filter.mp hrow).2)
  obtain ⟨-, newest, hnewest, -⟩ := (tracedGroup_follows hrowsTransfer).holds _ hc
  obtain ⟨hrow, hrowKey⟩ := mem_rows_of_member hc hnewest.mem
  have hin := hshown.mem newest hrow
  have hnewestPlace := hplace newest hrow hrowKey
  have hlisted : ∀ row ∈ t.rows, placeOf row = placeOf c.resource →
      row ∈ listResourcesByThread t accountId c.resource.threadId := by
    intro row hrow hrowPlace
    simp only [placeOf, Prod.mk.injEq, hshown.accountId_eq hkeyed hc] at hrowPlace
    exact mem_listResourcesByThread.mpr ⟨hrow, hrowPlace.1, hrowPlace.2.1⟩
  -- The group of the live rows that the newest row is in.
  have hmemLive : newest ∈ (listResourcesByThread t accountId c.resource.threadId).filter
      fun row => groupKey row = key :=
    List.mem_filter.mpr ⟨hlisted newest hin hnewestPlace, decide_eq_true hrowKey⟩
  obtain ⟨⟨group, members'⟩, hgroup, hnewest'⟩ := mem_traced_iff.mp hmemLive
  obtain ⟨hgrown', hplace'⟩ := hlive.grown hkeyed hgroup
  have hsame : placeOf group.resource = placeOf c.resource :=
    (hplace' newest (List.mem_filter.mp hmemLive).1 hrowKey).symm.trans hnewestPlace
  have hliveTransfer : MatchesTransfer texts ((listResourcesByThread t accountId
      c.resource.threadId).filter fun row => groupKey row = key) :=
    hsettled.group (fun row hrow => hlive.mem row (List.mem_filter.mp hrow).1) fun row hrow =>
      hplace' row (List.mem_filter.mp hrow).1 (of_decide_eq_true (List.mem_filter.mp hrow).2)
  have hmembers : ∀ row, row ∈ members' ↔ row ∈ members := by
    intro row
    constructor
    · intro hmem
      obtain ⟨hlisted, hkey⟩ := mem_rows_of_member hgroup hmem
      have hrelated := (mem_members_iff hliveTransfer hgroup hnewest'
        (mem_of_mem_traced hgroup hmem)).mp hmem
      have hshownRow : row ∈ rows := by
        obtain rfl | hmatch := hrelated
        · exact hrow
        · refine hsettled.whole newest hrow row (hlive.mem row hlisted) ?_ hmatch
          rw [hnewestPlace, hplace' row hlisted hkey, hsame]
      exact (mem_members_iff hrowsTransfer hc hnewest.mem (List.mem_filter.mpr
        ⟨hshownRow, decide_eq_true hkey⟩)).mpr hrelated
    · intro hmem
      obtain ⟨hrow, hkey⟩ := mem_rows_of_member hc hmem
      have hrelated := (mem_members_iff hrowsTransfer hc hnewest.mem
        (mem_of_mem_traced hc hmem)).mp hmem
      exact (mem_members_iff hliveTransfer hgroup hnewest' (List.mem_filter.mpr
        ⟨hlisted row (hshown.mem row hrow) (hplace row hrow hkey), decide_eq_true hkey⟩)).mpr hrelated
  -- Both groups read as the one row that was updated last.
  obtain ⟨-, newest', hreads, hmatch⟩ := (tracedGroup_follows hliveTransfer).holds _ hgroup
  have hone : newest' = newest := by
    have htime : newest'.updatedAt = newest.updatedAt :=
      (hnewest.latest newest' ((hmembers newest').mp hreads.mem)).antisymm
        (hreads.latest newest hnewest')
    obtain heq | hmatch := hmatch newest hnewest'
    · exact heq.symm
    · obtain ⟨hlisted, hkey⟩ := mem_rows_of_member hgroup hreads.mem
      refine hsettled.apart newest' (hlive.mem newest' hlisted) newest hin ?_ hmatch htime
      rw [hplace' newest' hlisted hkey, hsame, hnewestPlace]
  refine ⟨group, mem_collapseResources.mpr ⟨key, members', hgroup⟩, ?_, fun key => ?_⟩
  · have hworkflow : group.resource.workflow = c.resource.workflow :=
      congrArg (fun place => place.2.2) hsame
    rw [skOf, skOf, hworkflow, hreads.resourceKey, hone, hnewest.resourceKey]
  · rw [hlive.memberKeys_eq hkeyed hgroup, hshown.memberKeys_eq hkeyed hc, List.mem_map,
      List.mem_map]
    simp only [hmembers]

theorem Shown.updates_settled (hshown : Shown t accountId rows) (hkeyed : WellKeyed t)
    (hsettled : Settled texts t rows) (hc : c ∈ collapseResources texts rows) :
    UpdatesMembers texts t accountId c := by
  by_cases hlength : 1 < c.memberResourceKeys.length
  · obtain ⟨group, hgroup, hsk, hkeys⟩ := hshown.live_group hkeyed hsettled hc
    exact ((hshown.updates_liveGroup hkeyed hc hlength).1 group hgroup hsk).congr hkeys
  · obtain ⟨key, members, htraced⟩ := mem_collapseResources.mp hc
    obtain ⟨row, hrow, -⟩ := hshown.primary hkeyed htraced
    have hpos : 0 < c.memberResourceKeys.length := by
      rw [(hshown.grown hkeyed htraced).1.keys, List.length_map]
      exact List.length_pos_of_mem hrow
    exact hshown.updates_single hkeyed hc (by omega)

end Shown

/-- **What a change under an id writes.** The id of a resource of one row writes that row. The id
of one of several rows writes the group of its thread's live rows that reads as the same row. That
is what was shown in the thread's own listing, and in every other one whose matching rows are
settled. -/
theorem patch_writes (texts : Texts) (t : ResourceTable) (accountId : String)
    (hkeyed : WellKeyed t) :
    (∀ rows, Shown t accountId rows → ∀ c ∈ collapseResources texts rows,
      (c.memberResourceKeys.length = 1 → UpdatesMembers texts t accountId c) ∧
      (1 < c.memberResourceKeys.length → UpdatesLiveGroup texts t accountId c)) ∧
    (∀ isPast threadId, ∀ c ∈ threadResources texts isPast t accountId threadId,
      UpdatesMembers texts t accountId c) ∧
    (∀ rows, Shown t accountId rows → Settled texts t rows →
      ∀ c ∈ collapseResources texts rows, UpdatesMembers texts t accountId c) :=
  ⟨fun _ hshown _ hc => ⟨hshown.updates_single hkeyed hc, hshown.updates_liveGroup hkeyed hc⟩,
    fun _ _ _ hc => threadResources_updates hkeyed hc,
    fun _ hshown hsettled _ hc => hshown.updates_settled hkeyed hsettled hc⟩

/-! ## A concert in three mails -/

def asWritten : Texts := ⟨id, id⟩

def concert (resourceKey : String) (status : ResourceStatus) (updatedAt : String) : ResourceRow where
  accountId := "acct-1"
  threadId := "thr-1"
  workflow := .events
  resourceKey := resourceKey
  status := status
  expectedResolutionDate := "2024-07-01T19:00:00Z"
  displayDate := some "2024-07-01"
  displayDateEnd := none
  title := some "Concert"
  description := none
  resolvedAt := none
  assets := none
  ttl := none
  gsi1pk := "ACCT#acct-1#STATUS#active"
  gsi1sk := "2024-07-01T19:00:00Z"
  createdAt := "2024-06-15"
  updatedAt := updatedAt

def concertA : ResourceRow := concert "a" .active "2024-06-15"
def concertB : ResourceRow := concert "b" .active "2024-06-16"
def concertC : ResourceRow := concert "c" .complete "2024-06-14"

def twoMails : ResourceTable := ⟨[concertA, concertB], by decide⟩
def threeMails : ResourceTable := ⟨[concertA, concertB, concertC], by decide⟩

theorem active_shown {t : ResourceTable} (ha : concertA ∈ t.rows) (hb : concertB ∈ t.rows) :
    Shown t "acct-1" [concertB, concertA] := by
  refine ⟨?_, ?_, ?_⟩
  · refine List.Nodup.of_map ResourceRow.resourceKey ?_
    decide
  · simp [ha, hb]
  · simp [concertA, concertB, concert]

/-- Two mails make one resource, whose status is changed in both rows. -/
theorem patch_writes_two_mails :
    (collapseResources asWritten [concertB, concertA]).length = 1 ∧
      ∀ c ∈ collapseResources asWritten [concertB, concertA],
        UpdatesMembers asWritten twoMails "acct-1" c := by
  have hkeyed : WellKeyed twoMails := by
    intro row hrow
    simp [twoMails] at hrow
    obtain rfl | rfl := hrow <;> decide
  refine ⟨by decide, (patch_writes asWritten twoMails "acct-1" hkeyed).2.2 [concertB, concertA]
    (active_shown (by simp [twoMails]) (by simp [twoMails])) ⟨?_, ?_, ?_⟩⟩
  · intro a ha b hb _ _
    simp [twoMails] at hb
    simpa using hb.symm
  · intro place a ha b hb c hc _ _
    have hin := (List.mem_filter.mp ha).1
    have hin' := (List.mem_filter.mp hc).1
    simp [twoMails] at hin hin'
    obtain rfl | rfl := hin <;> obtain rfl | rfl := hin' <;> decide
  · intro a ha b hb _ _ htime
    simp [twoMails] at ha hb
    obtain rfl | rfl := ha <;> obtain rfl | rfl := hb
    · rfl
    · exact absurd htime (by decide)
    · exact absurd htime (by decide)
    · rfl

/-- Of the active mails' resource, a change reopens the third mail's row, which is complete. -/
theorem hidden_row_reopened : ¬ ∀ (texts : Texts) (t : ResourceTable) (accountId : String)
    (rows : List ResourceRow), WellKeyed t → Shown t accountId rows →
      ∀ c ∈ collapseResources texts rows, UpdatesMembers texts t accountId c := by
  intro hall
  have hkeyed : WellKeyed threeMails := by
    intro row hrow
    simp [threeMails] at hrow
    obtain rfl | rfl | rfl := hrow <;> decide
  have hlive : listResourcesByThread threeMails "acct-1" "thr-1" =
      [concertA, concertB, concertC] := by
    refine (sortBy_unique ?_ (List.Perm.refl _) ?_).symm
    · decide
    · change [concertA, concertB, concertC].Pairwise fun a b => skOf a ≤ skOf b
      decide
  have hshown : (newCollapsed concertB).push concertA ∈
      collapseResources asWritten [concertB, concertA] := List.mem_singleton_self _
  have hgroup : ((newCollapsed concertA).push concertB).push concertC ∈
      collapseResources asWritten [concertA, concertB, concertC] := List.mem_singleton_self _
  have hrows := active_shown (t := threeMails) (by simp [threeMails]) (by simp [threeMails])
  have hmembers := hall asWritten threeMails "acct-1" _ hkeyed hrows _ hshown .active
    (fun _ => "2024-07-02") (rowKey concertC)
  have hlength : 1 < ((newCollapsed concertB).push concertA).memberResourceKeys.length := by decide
  have hwritten := (hrows.updates_liveGroup hkeyed hshown hlength).1 _ (hlive ▸ hgroup) (by decide)
    .active (fun _ => "2024-07-02") (rowKey concertC)
  rw [if_neg (by decide)] at hmembers
  rw [if_pos (by decide), hmembers] at hwritten
  have hstatus := congrArg (Option.map ResourceRow.status) hwritten
  exact absurd hstatus (by decide)

end SesEmailAdapter.Resource.ResourceApi
