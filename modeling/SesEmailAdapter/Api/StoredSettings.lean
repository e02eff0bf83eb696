import Mathlib.Algebra.Order.Ring.Unbundled.Rat
import SesEmailAdapter.Api.RulesApi
import SesEmailAdapter.Lib.KeySort

/-! # Stored settings

The requests that create and change the rules, labels and views of an account, beside what they ask
for. What is read back is what was asked for as long as no request names one of three fields: the
status of a new rule, the instruction of a label that is there, the layout of a view. -/

namespace SesEmailAdapter.Api.StoredSettings
open Lib
open SesEmailAdapter.Types
open Processor.RuleEngine
open Api.RulesApi (UpdateRuleRequest Outcomes SYSTEM_RULES listRules withOverride
  userRules nextPriority)

/-! ## Requests -/

inductive SortField
  | lastSignalAt | createdAt
deriving DecidableEq, Repr

inductive SortDirection
  | asc | desc
deriving DecidableEq, Repr

structure CreateViewRequest where
  name : String
  workflow : Option Workflow
  labels : Option (List String)
  sortField : Option SortField
  sortDirection : Option SortDirection
  icon : Option String
  color : Option String
  position : Option ℚ

/-- A `layout` may be null. -/
structure UpdateViewRequest where
  name : Option String
  workflow : Option Workflow
  labels : Option (List String)
  sortField : Option SortField
  sortDirection : Option SortDirection
  icon : Option String
  color : Option String
  position : Option ℚ
  layout : Option (Option (List Json))

structure CreateLabelRequest where
  name : String
  color : Option String
  icon : Option String
  applyInstruction : String
deriving DecidableEq, Repr

structure UpdateLabelRequest where
  name : Option String
  color : Option String
  icon : Option String
  applyInstruction : Option String
deriving DecidableEq, Repr

/-- With the field that `createRule` does not read. -/
structure CreateRuleRequest extends RulesApi.CreateRuleRequest where
  status : Option RuleStatus
deriving DecidableEq, Repr

/-! ## Rows -/

structure View where
  id : String
  accountId : String
  name : String
  icon : Option String
  color : Option String
  workflow : Option Workflow
  labels : List String
  sortField : SortField
  sortDirection : SortDirection
  position : ℚ
  layout : Option (List Json)
  createdAt : String
  updatedAt : String

/-- The id of a label is its name. Older rows have no instruction. -/
structure Label where
  accountId : String
  name : String
  color : Option String
  icon : Option String
  applyInstruction : Option String
  createdAt : String
deriving DecidableEq, Repr

def viewKey (view : View) : String × String := (view.accountId, view.id)

def labelKey (label : Label) : String × String := (label.accountId, label.name)

structure Store where
  rules : RulesApi.Store
  labels : KeyedTable labelKey
  views : KeyedTable viewKey

/-- Whether a write is reported as done, and the store after it. -/
def written (write : Fate) (s next : Store) : Bool × Store :=
  match write with
  | .done => (true, next)
  | .refused => (false, s)
  | .lost => (false, next)

/-! ## Views -/

def listViews (s : Store) (accountId : String) : List View :=
  (s.views.rows.filter fun view => view.accountId = accountId).mergeSort fun a b =>
    a.position ≤ b.position

def nextPosition (views : List View) : ℚ :=
  match (views.map View.position).max? with
  | some last => last + 1
  | none => 0

def newView (views : List View) (accountId id now : String) (data : CreateViewRequest) : View where
  id := id
  accountId := accountId
  name := data.name
  icon := data.icon
  color := data.color
  workflow := data.workflow
  labels := data.labels.getD []
  sortField := data.sortField.getD .lastSignalAt
  sortDirection := data.sortDirection.getD .desc
  position := data.position.getD (nextPosition views)
  layout := none
  createdAt := now
  updatedAt := now

def createView (listed : Bool) (write : Fate) (accountId id now : String)
    (data : CreateViewRequest) (s : Store) : Bool × Store :=
  if ¬ listed then (false, s)
  else
    let view := newView (listViews s accountId) accountId id now data
    written write s { s with views := s.views.put view }

def View.updated (view : View) (now : String) (data : UpdateViewRequest) : View :=
  { view with
    name := data.name.getD view.name
    workflow := data.workflow <|> view.workflow
    labels := data.labels.getD view.labels
    sortField := data.sortField.getD view.sortField
    sortDirection := data.sortDirection.getD view.sortDirection
    icon := data.icon <|> view.icon
    color := data.color <|> view.color
    position := data.position.getD view.position
    updatedAt := now }

def updateView (read : Bool) (write : Fate) (accountId viewId now : String)
    (data : UpdateViewRequest) (s : Store) : Bool × Store :=
  if ¬ read then (false, s)
  else match s.views.get (accountId, viewId) with
    | none => (false, s)
    | some view => written write s { s with views := s.views.put (view.updated now data) }

/-! ## Labels -/

def listLabels (s : Store) (accountId : String) : List Label :=
  (s.labels.rows.filter fun label => label.accountId = accountId).map fun label =>
    { label with applyInstruction := some (label.applyInstruction.getD "") }

def newLabel (accountId now : String) (data : CreateLabelRequest) : Label where
  accountId := accountId
  name := data.name
  color := data.color
  icon := data.icon
  applyInstruction := some data.applyInstruction
  createdAt := now

def createLabel (write : Fate) (accountId now : String) (data : CreateLabelRequest) (s : Store) :
    Bool × Store :=
  written write s { s with labels := s.labels.put (newLabel accountId now data) }

/-- Only color and icon are updated. -/
def Label.updated (label : Label) (data : UpdateLabelRequest) : Label :=
  { label with
    color := data.color <|> label.color
    icon := data.icon <|> label.icon }

def updateLabel (listed : Bool) (write : Fate) (accountId labelId : String)
    (data : UpdateLabelRequest) (s : Store) : Bool × Store :=
  if ¬ listed then (false, s)
  else match (listLabels s accountId).find? fun label => label.name = labelId with
    | none => (false, s)
    | some _ =>
      match s.labels.get (accountId, labelId) with
      | none => (false, s)
      | some label =>
        if data.color.isNone && data.icon.isNone then
          -- A read in the place of the write.
          written write s s
        else written write s { s with labels := s.labels.put (label.updated data) }

/-! ## What is read -/

structure RuleSettings where
  name : String
  condition : String
  conditionType : Option ConditionType
  actions : List RuleAction
  status : RuleStatus
  priorityOrder : Nat
  tags : Option Fields
deriving DecidableEq, Repr

def ruleSettings (rule : StoredRule) : RuleSettings where
  name := rule.name
  condition := rule.condition
  conditionType := rule.conditionType
  actions := rule.actions
  status := rule.status
  priorityOrder := rule.priorityOrder
  tags := rule.tags

structure LabelSettings where
  color : Option String
  icon : Option String
  applyInstruction : String
deriving DecidableEq, Repr

def labelSettings (label : Label) : LabelSettings where
  color := label.color
  icon := label.icon
  applyInstruction := label.applyInstruction.getD ""

structure ViewSettings where
  name : String
  workflow : Option Workflow
  labels : List String
  sortField : SortField
  sortDirection : SortDirection
  icon : Option String
  color : Option String
  position : ℚ
  layout : Option (List Json)

def viewSettings (view : View) : ViewSettings where
  name := view.name
  workflow := view.workflow
  labels := view.labels
  sortField := view.sortField
  sortDirection := view.sortDirection
  icon := view.icon
  color := view.color
  position := view.position
  layout := view.layout

/-- An account and the id of one of its objects. -/
abbrev ObjectKey := String × String

def readRule (s : Store) (key : ObjectKey) : Option RuleSettings :=
  ((listRules s.rules key.1).find? fun rule => rule.id = key.2).map ruleSettings

def readLabel (s : Store) (key : ObjectKey) : Option LabelSettings :=
  ((listLabels s key.1).find? fun label => label.name = key.2).map labelSettings

def readView (s : Store) (key : ObjectKey) : Option ViewSettings :=
  (s.views.get key).map viewSettings

/-! ## What is asked for -/

/-- For every object, the values that the requests have named last, or its defaults. -/
structure Wanted where
  rules : ObjectKey → Option RuleSettings
  labels : ObjectKey → Option LabelSettings
  views : ObjectKey → Option ViewSettings

/-- The settings of a new rule, where a body that names no priority puts it behind the others. -/
def CreateRuleRequest.asked (body : CreateRuleRequest) (lastPriority : Nat) : RuleSettings where
  name := body.name
  condition := body.condition.getD ""
  conditionType := body.conditionType
  actions := body.actions
  status := body.status.getD .enabled
  priorityOrder := body.priorityOrder.getD lastPriority
  tags := body.tags

def askedRule (body : UpdateRuleRequest) (rule : RuleSettings) : RuleSettings where
  name := body.name.getD rule.name
  condition := body.condition.getD rule.condition
  conditionType := body.conditionType <|> rule.conditionType
  actions := body.actions.getD rule.actions
  status := body.status.getD rule.status
  priorityOrder := body.priorityOrder.getD rule.priorityOrder
  tags := body.tags <|> rule.tags

/-- A request under the name of a label that is there names some of its fields anew. -/
def CreateLabelRequest.asked (data : CreateLabelRequest) (label : Option LabelSettings) :
    LabelSettings where
  color := data.color <|> label.bind LabelSettings.color
  icon := data.icon <|> label.bind LabelSettings.icon
  applyInstruction := data.applyInstruction

def UpdateLabelRequest.asked (data : UpdateLabelRequest) (label : LabelSettings) :
    LabelSettings where
  color := data.color <|> label.color
  icon := data.icon <|> label.icon
  applyInstruction := data.applyInstruction.getD label.applyInstruction

def CreateViewRequest.asked (data : CreateViewRequest) (lastPosition : ℚ) : ViewSettings where
  name := data.name
  workflow := data.workflow
  labels := data.labels.getD []
  sortField := data.sortField.getD .lastSignalAt
  sortDirection := data.sortDirection.getD .desc
  icon := data.icon
  color := data.color
  position := data.position.getD lastPosition
  layout := none

def UpdateViewRequest.asked (data : UpdateViewRequest) (view : ViewSettings) : ViewSettings where
  name := data.name.getD view.name
  workflow := data.workflow <|> view.workflow
  labels := data.labels.getD view.labels
  sortField := data.sortField.getD view.sortField
  sortDirection := data.sortDirection.getD view.sortDirection
  icon := data.icon <|> view.icon
  color := data.color <|> view.color
  position := data.position.getD view.position
  layout := data.layout.getD view.layout

/-! ## Runs -/

inductive Request
  | createRule (o : Outcomes) (accountId id now : String) (body : CreateRuleRequest)
  | updateRule (o : Outcomes) (accountId ruleId now : String) (body : UpdateRuleRequest)
  | createLabel (write : Fate) (accountId now : String) (body : CreateLabelRequest)
  | updateLabel (listed : Bool) (write : Fate) (accountId labelId : String)
      (body : UpdateLabelRequest)
  | createView (listed : Bool) (write : Fate) (accountId id now : String)
      (body : CreateViewRequest)
  | updateView (read : Bool) (write : Fate) (accountId viewId now : String)
      (body : UpdateViewRequest)

/-- Whether the request is answered as done, and the store after it. -/
def handle (env : Env) (s : Store) : Request → Bool × Store
  | .createRule o accountId id now body =>
    let (answer, rules) :=
      RulesApi.createRule env o accountId id now body.toCreateRuleRequest s.rules
    (answer.isOk, { s with rules := rules })
  | .updateRule o accountId ruleId now body =>
    let (answer, rules) := RulesApi.updateRule env o accountId ruleId now body s.rules
    (answer.isOk, { s with rules := rules })
  | .createLabel write accountId now body => createLabel write accountId now body s
  | .updateLabel listed write accountId labelId body =>
    updateLabel listed write accountId labelId body s
  | .createView listed write accountId id now body =>
    createView listed write accountId id now body s
  | .updateView read write accountId viewId now body =>
    updateView read write accountId viewId now body s

structure State where
  store : Store
  wanted : Wanted

/-- What is wanted after a request that is done. -/
def want (st : State) : Request → Wanted
  | .createRule _ accountId id _ body =>
    { st.wanted with
      rules := Function.update st.wanted.rules (accountId, id)
        (some (body.asked (nextPriority (userRules st.store.rules accountId)))) }
  | .updateRule _ accountId ruleId _ body =>
    { st.wanted with
      rules := Function.update st.wanted.rules (accountId, ruleId)
        ((st.wanted.rules (accountId, ruleId)).map (askedRule body)) }
  | .createLabel _ accountId _ body =>
    { st.wanted with
      labels := Function.update st.wanted.labels (accountId, body.name)
        (some (body.asked (st.wanted.labels (accountId, body.name)))) }
  | .updateLabel _ _ accountId labelId body =>
    { st.wanted with
      labels := Function.update st.wanted.labels (accountId, labelId)
        ((st.wanted.labels (accountId, labelId)).map body.asked) }
  | .createView _ _ accountId id _ body =>
    { st.wanted with
      views := Function.update st.wanted.views (accountId, id)
        (some (body.asked (nextPosition (listViews st.store accountId)))) }
  | .updateView _ _ accountId viewId _ body =>
    { st.wanted with
      views := Function.update st.wanted.views (accountId, viewId)
        ((st.wanted.views (accountId, viewId)).map body.asked) }

def step (env : Env) (st : State) (request : Request) : State :=
  ⟨(handle env st.store request).2, want st request⟩

/-- Nothing has been asked of the store yet. -/
def start (store : Store) : State :=
  ⟨store, readRule store, readLabel store, readView store⟩

/-- Every object reads as it is wanted. -/
structure Stored (st : State) : Prop where
  rules : ∀ key, readRule st.store key = st.wanted.rules key
  labels : ∀ key, readLabel st.store key = st.wanted.labels key
  views : ∀ key, readView st.store key = st.wanted.views key

/-- The request is done, with a new id for a new rule or view. -/
def Succeeds (env : Env) (st : State) (request : Request) : Prop :=
  (handle env st.store request).1 = true ∧
    match request with
    | .createRule _ accountId id _ _ =>
      ¬ "SR-".toList.isPrefixOf id.toList = true ∧ st.store.rules.rules.get (accountId, id) = none
    | .createView _ _ accountId id _ _ => st.store.views.get (accountId, id) = none
    | _ => True

/-- The request names no field that is dropped: a new rule is wanted enabled, a label keeps its
instruction, a view its layout, and a label that is made again is not to keep a color or icon. -/
def Kept (st : State) : Request → Prop
  | .createRule _ _ _ _ body => body.status.getD .enabled = .enabled
  | .createLabel _ accountId _ body =>
    ∀ label, st.store.labels.get (accountId, body.name) = some label →
      (body.color = none → label.color = none) ∧ (body.icon = none → label.icon = none)
  | .updateLabel _ _ accountId labelId body =>
    ∀ label, st.store.labels.get (accountId, labelId) = some label →
      ∀ text, body.applyInstruction = some text → text = label.applyInstruction.getD ""
  | .updateView _ _ accountId viewId _ body =>
    ∀ view, st.store.views.get (accountId, viewId) = some view →
      ∀ layout, body.layout = some layout → layout = view.layout
  | _ => True

/-! ## Reads -/

/-- The id is one of a system rule. -/
def IsSystemId (id : String) : Prop := "SR-".toList.isPrefixOf id.toList = true

instance (id : String) : Decidable (IsSystemId id) :=
  inferInstanceAs (Decidable (_ = true))

theorem systemRules_ids : (SYSTEM_RULES.map fun rule => rule.id).Nodup ∧
    ∀ rule ∈ SYSTEM_RULES, IsSystemId rule.id := by
  decide +kernel

theorem withOverride_id (s : RulesApi.Store) (accountId : String) (rule : StoredRule) :
    (withOverride s accountId rule).id = rule.id := by
  unfold withOverride
  split <;> rfl

theorem withOverride_accountId (s : RulesApi.Store) (accountId : String) (rule : StoredRule) :
    (withOverride s accountId rule).accountId = rule.accountId := by
  unfold withOverride
  split <;> rfl

variable {o : Outcomes} {listed : Bool} {rule : StoredRule}

theorem mem_userRules_iff {s : RulesApi.Store} {accountId : String} :
    rule ∈ userRules s accountId ↔
      rule ∈ s.rules.rows ∧ rule.accountId = accountId ∧ ¬ IsSystemId rule.id := by
  simp [userRules, IsSystemId]

theorem ids_nodup (s : RulesApi.Store) (accountId : String) :
    ((SYSTEM_RULES.map (withOverride s accountId) ++ userRules s accountId).map
      fun rule => rule.id).Nodup := by
  rw [List.map_append, List.map_map]
  have hsystem : ((fun rule : StoredRule => rule.id) ∘ withOverride s accountId) =
      fun rule => rule.id := funext fun rule => withOverride_id s accountId rule
  rw [hsystem]
  refine List.nodup_append.mpr ⟨systemRules_ids.1, ?_, ?_⟩
  · have hkeys := (s.rules.distinct).sublist
      ((List.filter_sublist (p := fun rule => decide (rule.accountId = accountId ∧
        ¬ "SR-".toList.isPrefixOf rule.id.toList = true))).map RulesApi.ruleKey)
    refine List.Nodup.of_map (fun id => (accountId, id)) ?_
    rw [List.map_map]
    refine (List.map_congr_left fun rule hrule => ?_) ▸ hkeys
    have haccount := (mem_userRules_iff.mp hrule).2.1
    simp [RulesApi.ruleKey, haccount]
  · intro id hid id' hid' heq
    obtain ⟨system, hsystem, rfl⟩ := List.mem_map.mp hid
    obtain ⟨rule, hrule, rfl⟩ := List.mem_map.mp hid'
    exact (mem_userRules_iff.mp hrule).2.2 (heq ▸ systemRules_ids.2 system hsystem)

/-- A rule is read from the code, with what the account has set of it, or from its own row. -/
theorem find_rule (s : RulesApi.Store) (accountId id : String) :
    ((listRules s accountId).find? fun rule => rule.id = id) =
      if IsSystemId id then
        (SYSTEM_RULES.find? fun rule => rule.id = id).map (withOverride s accountId)
      else s.rules.get (accountId, id) := by
  have hperm : (listRules s accountId).Perm
      (SYSTEM_RULES.map (withOverride s accountId) ++ userRules s accountId) :=
    List.mergeSort_perm _ _
  rw [find?_eq_of_perm (ids_nodup s accountId) hperm, List.find?_append, List.find?_map]
  have hsame : ((fun rule : StoredRule => decide (rule.id = id)) ∘ withOverride s accountId) =
      fun rule => decide (rule.id = id) :=
    funext fun rule => by simp [withOverride_id]
  rw [hsame]
  by_cases hid : IsSystemId id
  · have huser : ((userRules s accountId).find? fun rule => rule.id = id) = none := by
      refine List.find?_eq_none.mpr fun rule hrule hkey => ?_
      exact (mem_userRules_iff.mp hrule).2.2 (of_decide_eq_true hkey ▸ hid)
    rw [if_pos hid, huser, Option.or_none]
  · have hnone : (SYSTEM_RULES.find? fun rule => rule.id = id) = none := by
      refine List.find?_eq_none.mpr fun rule hrule hkey => ?_
      exact hid (of_decide_eq_true hkey ▸ systemRules_ids.2 rule hrule)
    rw [if_neg hid, hnone, Option.map_none, Option.none_or, userRules, List.find?_filter]
    refine congrArg (List.find? · s.rules.rows) (funext fun rule => ?_)
    by_cases hkey : rule.id = id
    · rw [IsSystemId, List.isPrefixOf_iff_prefix] at hid
      simp only [hkey, RulesApi.ruleKey, Prod.mk.injEq, and_true, List.isPrefixOf_iff_prefix, hid,
        not_false_eq_true, decide_true, Bool.decide_eq_true]
    · simp [hkey, RulesApi.ruleKey]

theorem find_label (s : Store) (accountId name : String) :
    ((listLabels s accountId).find? fun label => label.name = name) =
      (s.labels.get (accountId, name)).map fun label =>
        { label with applyInstruction := some (label.applyInstruction.getD "") } := by
  rw [listLabels, List.find?_map, List.find?_filter]
  refine congrArg (Option.map _) (congrArg (List.find? · s.labels.rows) (funext fun label => ?_))
  simp [labelKey]

theorem readLabel_eq (s : Store) (key : ObjectKey) :
    readLabel s key = (s.labels.get key).map labelSettings := by
  rw [readLabel, find_label, Option.map_map]
  cases s.labels.get (key.1, key.2) <;> rfl

/-! ## One request -/

section Step

variable {env : Env} {st : State} {s next : Store} {write : Fate}

theorem written_done (h : (written write s next).1 = true) : (written write s next).2 = next := by
  cases write with
  | done => rfl
  | refused => cases h
  | lost => cases h

/-- A read of one object after a write of another, and of what has been asked for. -/
theorem forall_update_iff {V : Type} {read read' : ObjectKey → Option V}
    {wanted : ObjectKey → Option V} {key : ObjectKey} {value asked : Option V}
    (hread : ∀ key', read' key' = if key' = key then value else read key')
    (hwanted : ∀ key', read key' = wanted key') :
    (∀ key', read' key' = Function.update wanted key asked key') ↔ value = asked := by
  constructor
  · intro h
    simpa [hread] using h key
  · intro heq key'
    by_cases hkey : key' = key
    · subst hkey
      simp [hread, heq]
    · simp [hread, hkey, hwanted]

/-! ### Views -/

theorem readView_put (s : Store) (view : View) (key : ObjectKey) :
    readView { s with views := s.views.put view } key =
      if key = viewKey view then some (viewSettings view) else readView s key := by
  rw [readView, KeyedTable.get_put]
  split <;> rfl

variable {accountId id now : String} {body : UpdateRuleRequest}

theorem createView_done {data : CreateViewRequest}
    (h : (createView listed write accountId id now data s).1 = true) :
    (createView listed write accountId id now data s).2 =
      { s with views := s.views.put (newView (listViews s accountId) accountId id now data) } := by
  unfold createView at h ⊢
  split at h
  · cases h
  · next hlisted =>
    rw [if_neg hlisted]
    exact written_done h

theorem updateView_done {read : Bool} {accountId viewId now : String} {data : UpdateViewRequest}
    (h : (updateView read write accountId viewId now data s).1 = true) :
    ∃ view, s.views.get (accountId, viewId) = some view ∧
      (updateView read write accountId viewId now data s).2 =
        { s with views := s.views.put (view.updated now data) } := by
  unfold updateView at h ⊢
  split at h
  · cases h
  · next hread =>
    rw [if_neg hread]
    cases hget : s.views.get (accountId, viewId) with
    | none => simp [hget] at h
    | some view =>
      simp only [hget] at h
      exact ⟨view, rfl, written_done h⟩

theorem viewSettings_new (views : List View) (accountId id now : String)
    (data : CreateViewRequest) :
    viewSettings (newView views accountId id now data) = data.asked (nextPosition views) := rfl

theorem viewSettings_updated (view : View) (now : String) (data : UpdateViewRequest) :
    viewSettings (view.updated now data) = data.asked (viewSettings view) ↔
      ∀ layout, data.layout = some layout → layout = view.layout := by
  cases hlayout : data.layout with
  | none =>
    refine iff_of_true ?_ nofun
    simp [viewSettings, View.updated, UpdateViewRequest.asked, hlayout]
  | some layout =>
    simp [viewSettings, View.updated, UpdateViewRequest.asked, hlayout, eq_comm]

/-! ### Labels -/

theorem readLabel_put (s : Store) (label : Label) (key : ObjectKey) :
    readLabel { s with labels := s.labels.put label } key =
      if key = labelKey label then some (labelSettings label) else readLabel s key := by
  rw [readLabel_eq, readLabel_eq, KeyedTable.get_put]
  split <;> rfl

theorem updateLabel_done {accountId labelId : String} {data : UpdateLabelRequest}
    (h : (updateLabel listed write accountId labelId data s).1 = true) :
    ∃ label labels, s.labels.get (accountId, labelId) = some label ∧
      (updateLabel listed write accountId labelId data s).2 = { s with labels := labels } ∧
      ∀ key, readLabel { s with labels := labels } key =
        if key = (accountId, labelId) then some (labelSettings (label.updated data))
        else readLabel s key := by
  unfold updateLabel at h ⊢
  split at h
  · cases h
  · next hlisted =>
    rw [if_neg hlisted]
    cases hget : s.labels.get (accountId, labelId) with
    | none => simp [find_label, hget] at h
    | some label =>
      have hlabel : labelKey label = (accountId, labelId) := KeyedTable.key_of_get hget
      have hkey : labelKey (label.updated data) = (accountId, labelId) := hlabel
      simp only [find_label, hget, Option.map_some] at h ⊢
      by_cases hnone : (data.color.isNone && data.icon.isNone) = true
      · rw [if_pos hnone] at h ⊢
        refine ⟨label, s.labels, rfl, written_done h, fun key => ?_⟩
        simp only [Bool.and_eq_true, Option.isNone_iff_eq_none] at hnone
        have hsame : label.updated data = label := by
          simp [Label.updated, hnone]
        split
        · next heq => rw [heq, readLabel_eq, hget, hsame, Option.map_some]
        · rfl
      · rw [if_neg hnone] at h ⊢
        refine ⟨label, s.labels.put (label.updated data), rfl, written_done h, fun key => ?_⟩
        rw [readLabel_put, hkey]

theorem labelSettings_new (accountId now : String) (data : CreateLabelRequest)
    (label : Option LabelSettings) :
    labelSettings (newLabel accountId now data) = data.asked label ↔
      ∀ l, label = some l →
        (data.color = none → l.color = none) ∧ (data.icon = none → l.icon = none) := by
  cases label with
  | none =>
    refine iff_of_true ?_ nofun
    simp [labelSettings, newLabel, CreateLabelRequest.asked]
  | some label =>
    simp only [labelSettings, newLabel, CreateLabelRequest.asked, LabelSettings.mk.injEq]
    cases data.color <;> cases data.icon <;> simp [eq_comm]

theorem labelSettings_updated (label : Label) (data : UpdateLabelRequest) :
    labelSettings (label.updated data) = data.asked (labelSettings label) ↔
      ∀ text, data.applyInstruction = some text → text = label.applyInstruction.getD "" := by
  cases htext : data.applyInstruction with
  | none =>
    refine iff_of_true ?_ nofun
    simp [labelSettings, Label.updated, UpdateLabelRequest.asked, htext]
  | some text =>
    simp [labelSettings, Label.updated, UpdateLabelRequest.asked, htext, eq_comm]

/-! ### Rules -/

theorem readRule_put (hrule : ¬ IsSystemId rule.id) (s : Store) (key : ObjectKey) :
    readRule { s with rules := s.rules.putRule rule } key =
      if key = RulesApi.ruleKey rule then some (ruleSettings rule) else readRule s key := by
  have hoverrides : withOverride (s.rules.putRule rule) key.1 = withOverride s.rules key.1 := rfl
  rw [readRule, readRule, find_rule, find_rule, hoverrides]
  by_cases hid : IsSystemId key.2
  · have hne : key ≠ RulesApi.ruleKey rule := by
      rintro rfl
      exact hrule hid
    rw [if_pos hid, if_pos hid, if_neg hne]
  · rw [if_neg hid, if_neg hid, RulesApi.Store.putRule, KeyedTable.get_put]
    split <;> rfl

theorem rules_written_done {s next : RulesApi.Store}
    (h : (RulesApi.written o rule s next).1.isOk = true) :
    (RulesApi.written o rule s next).2 = next := by
  unfold RulesApi.written at h ⊢
  cases hwrite : o.write with
  | done => rfl
  | refused => simp [hwrite, Except.isOk, Except.toBool] at h
  | lost => rfl

theorem createRule_done {body : RulesApi.CreateRuleRequest} {s : RulesApi.Store}
    (h : (RulesApi.createRule env o accountId id now body s).1.isOk = true) :
    (RulesApi.createRule env o accountId id now body s).2 =
      s.putRule (RulesApi.newRule s accountId id now body) := by
  unfold RulesApi.createRule at h ⊢
  cases herror : RulesApi.createError env o body with
  | some error => simp [herror, Except.isOk, Except.toBool] at h
  | none =>
    simp only [herror] at h ⊢
    split at h
    · simp [Except.isOk, Except.toBool] at h
    · next hlisted =>
      rw [if_neg hlisted]
      exact rules_written_done h

/-- An update of a rule's own row. -/
theorem ruleSettings_updated (now : String) (rule : StoredRule) (body : UpdateRuleRequest) :
    ruleSettings (RulesApi.updated now rule body) = askedRule body (ruleSettings rule) := rfl

/-- An update of what an account sets of a system rule, where the body names nothing else. -/
theorem ruleSettings_overridden (s : RulesApi.Store) (accountId : String) (system : StoredRule)
    (hbody : RulesApi.onlyOverrides body = true) :
    ruleSettings (withOverride ⟨s.rules, s.overrides.put
        (RulesApi.overridden s accountId system body)⟩ accountId system) =
      askedRule body (ruleSettings (withOverride s accountId system)) := by
  simp only [RulesApi.onlyOverrides, Bool.decide_and, Bool.and_eq_true, decide_eq_true_eq,
    Option.isNone_iff_eq_none] at hbody
  obtain ⟨hname, htype, hcondition, hactions, htags⟩ := hbody
  have hget : (s.overrides.put (RulesApi.overridden s accountId system body)).get
      (accountId, system.id) = some (RulesApi.overridden s accountId system body) :=
    KeyedTable.get_put_self _ _
  simp only [withOverride, hget]
  cases hexisting : s.overrides.get (accountId, system.id) with
  | none =>
    simp [ruleSettings, askedRule, RulesApi.overridden, hexisting, hname, htype, hcondition,
      hactions, htags]
  | some existing =>
    cases hstatus : body.status <;> cases hpriority : body.priorityOrder <;>
      simp [ruleSettings, askedRule, RulesApi.overridden, hexisting, hname, htype, hcondition,
        hactions, htags, hstatus, hpriority]

/-- An update of a system rule changes what is read of that rule. -/
theorem readRule_override {accountId ruleId : String} (s : Store)
    {system : StoredRule} (hsystem : SYSTEM_RULES.find? (fun rule => rule.id = ruleId) = some system)
    (hbody : RulesApi.onlyOverrides body = true) (key : ObjectKey) :
    readRule { s with rules := ⟨s.rules.rules, s.rules.overrides.put
        (RulesApi.overridden s.rules accountId system body)⟩ } key =
      if key = (accountId, ruleId) then (readRule s key).map (askedRule body)
      else readRule s key := by
  have hid : system.id = ruleId := by simpa using List.find?_some hsystem
  have hsystemId : IsSystemId ruleId :=
    hid ▸ systemRules_ids.2 system (List.mem_of_find?_eq_some hsystem)
  rw [readRule, readRule, find_rule, find_rule]
  by_cases hkey : key = (accountId, ruleId)
  · subst hkey
    rw [if_pos rfl, if_pos hsystemId, if_pos hsystemId, hsystem, Option.map_some, Option.map_some,
      Option.map_some, Option.map_some, Option.map_some, ← ruleSettings_overridden _ _ _ hbody]
  · rw [if_neg hkey]
    by_cases hkeyId : IsSystemId key.2
    · rw [if_pos hkeyId, if_pos hkeyId]
      cases hfind : SYSTEM_RULES.find? fun rule => rule.id = key.2 with
      | none => rfl
      | some other =>
        have hotherId : other.id = key.2 := by simpa using List.find?_some hfind
        have hne : (key.1, other.id) ≠ RulesApi.overrideKey
            (RulesApi.overridden s.rules accountId system body) := by
          intro heq
          have haccount : key.1 = accountId := congrArg Prod.fst heq
          have hother : other.id = system.id := congrArg Prod.snd heq
          exact hkey (Prod.ext haccount (hotherId.symm.trans (hother.trans hid)))
        simp only [Option.map_some, withOverride]
        rw [KeyedTable.get_put_ne _ _ hne]
    · rw [if_neg hkeyId, if_neg hkeyId]

theorem system_accountId : ∀ system ∈ SYSTEM_RULES, system.accountId = "SYSTEM" := by
  decide

theorem updateRule_done {accountId ruleId now : String}
    {s : Store} (h : (RulesApi.updateRule env o accountId ruleId now body s.rules).1.isOk = true)
    (key : ObjectKey) :
    readRule { s with rules := (RulesApi.updateRule env o accountId ruleId now body s.rules).2 } key =
      if key = (accountId, ruleId) then (readRule s key).map (askedRule body)
      else readRule s key := by
  unfold RulesApi.updateRule at h ⊢
  split at h
  · cases h
  · next hlisted =>
    rw [if_neg hlisted]
    cases hfind : (listRules s.rules accountId).find? fun rule => rule.id = ruleId with
    | none => simp [hfind, Except.isOk, Except.toBool] at h
    | some rule =>
      have hruleId : rule.id = ruleId := by simpa using List.find?_some hfind
      simp only [hfind] at h ⊢
      rw [find_rule] at hfind
      by_cases hsystemRule : rule.accountId = "SYSTEM"
      · rw [if_pos hsystemRule] at h ⊢
        split at h
        · cases h
        · next hbody =>
          rw [if_neg hbody]
          unfold RulesApi.upsertSystemRuleOverride at h ⊢
          rw [hruleId] at h ⊢
          cases hsystem : SYSTEM_RULES.find? fun system => system.id = ruleId with
          | none => simp [hsystem, Except.isOk, Except.toBool] at h
          | some system =>
            simp only [hsystem] at h ⊢
            rw [rules_written_done h]
            refine readRule_override s hsystem ?_ key
            by_contra hnot
            exact hbody (.inl hnot)
      · rw [if_neg hsystemRule] at h ⊢
        by_cases hid : IsSystemId ruleId
        · -- A rule under the id of a system rule is read from the code.
          rw [if_pos hid] at hfind
          obtain ⟨system, hsystem, rfl⟩ := Option.map_eq_some_iff.mp hfind
          rw [withOverride_accountId] at hsystemRule
          exact absurd (system_accountId system (List.mem_of_find?_eq_some hsystem)) hsystemRule
        · rw [if_neg hid] at hfind
          cases herror : RulesApi.updateError env o rule body with
          | some error => simp [herror, Except.isOk, Except.toBool] at h
          | none =>
            simp only [herror] at h ⊢
            rw [rules_written_done h]
            have hrule : RulesApi.ruleKey rule = (accountId, ruleId) := KeyedTable.key_of_get hfind
            have hupdated : RulesApi.ruleKey (RulesApi.updated now rule body) =
                (accountId, ruleId) := hrule
            have hupdatedId : ¬ IsSystemId (RulesApi.updated now rule body).id := hruleId ▸ hid
            rw [readRule_put hupdatedId, hupdated]
            by_cases hkey : key = (accountId, ruleId)
            · subst hkey
              rw [if_pos rfl, if_pos rfl, ruleSettings_updated, readRule, find_rule, if_neg hid,
                hfind]
              rfl
            · rw [if_neg hkey, if_neg hkey]

/-! ### All objects -/

theorem stored_iff_rules (h : Stored st) {rules : RulesApi.Store}
    {wanted : ObjectKey → Option RuleSettings} :
    Stored ⟨{ st.store with rules := rules }, { st.wanted with rules := wanted }⟩ ↔
      ∀ key, readRule { st.store with rules := rules } key = wanted key :=
  ⟨Stored.rules, fun hrules => ⟨hrules, h.labels, h.views⟩⟩

theorem stored_iff_labels (h : Stored st) {labels : KeyedTable labelKey}
    {wanted : ObjectKey → Option LabelSettings} :
    Stored ⟨{ st.store with labels := labels }, { st.wanted with labels := wanted }⟩ ↔
      ∀ key, readLabel { st.store with labels := labels } key = wanted key :=
  ⟨Stored.labels, fun hlabels => ⟨h.rules, hlabels, h.views⟩⟩

theorem stored_iff_views (h : Stored st) {views : KeyedTable viewKey}
    {wanted : ObjectKey → Option ViewSettings} :
    Stored ⟨{ st.store with views := views }, { st.wanted with views := wanted }⟩ ↔
      ∀ key, readView { st.store with views := views } key = wanted key :=
  ⟨Stored.views, fun hviews => ⟨h.rules, h.labels, hviews⟩⟩

theorem ruleSettings_new (s : RulesApi.Store) (accountId id now : String)
    (body : CreateRuleRequest) :
    ruleSettings (RulesApi.newRule s accountId id now body.toCreateRuleRequest) =
        body.asked (nextPriority (userRules s accountId)) ↔
      body.status.getD .enabled = .enabled := by
  simp [ruleSettings, RulesApi.newRule, CreateRuleRequest.asked, eq_comm]

theorem stored_createRule (h : Stored st) {body : CreateRuleRequest}
    (hok : (handle env st.store (.createRule o accountId id now body)).1 = true)
    (hid : ¬ IsSystemId id) :
    Stored (step env st (.createRule o accountId id now body)) ↔
      Kept st (.createRule o accountId id now body) := by
  have hstep : step env st (.createRule o accountId id now body) =
      ⟨{ st.store with rules := st.store.rules.putRule (RulesApi.newRule st.store.rules accountId id
          now body.toCreateRuleRequest) }, want st (.createRule o accountId id now body)⟩ := by
    rw [← createRule_done hok]
    rfl
  have hnew : ¬ IsSystemId (RulesApi.newRule st.store.rules accountId id now
    body.toCreateRuleRequest).id := hid
  rw [hstep]
  refine (stored_iff_rules h).trans ((forall_update_iff (fun key =>
    readRule_put hnew st.store key) h.rules).trans ?_)
  rw [Option.some.injEq]
  exact ruleSettings_new st.store.rules accountId id now body

theorem stored_updateRule (h : Stored st) {accountId ruleId now : String}
    (hok : (handle env st.store (.updateRule o accountId ruleId now body)).1 = true) :
    Stored (step env st (.updateRule o accountId ruleId now body)) := by
  have hstep : step env st (.updateRule o accountId ruleId now body) =
      ⟨{ st.store with
          rules := (RulesApi.updateRule env o accountId ruleId now body st.store.rules).2 },
        want st (.updateRule o accountId ruleId now body)⟩ := rfl
  rw [hstep]
  refine (stored_iff_rules h).mpr fun key => ?_
  rw [updateRule_done hok, h.rules]
  by_cases hkey : key = (accountId, ruleId)
  · subst hkey
    simp
  · simp [hkey]

theorem stored_createLabel (h : Stored st) {accountId now : String} {body : CreateLabelRequest}
    (hok : (createLabel write accountId now body st.store).1 = true) :
    Stored (step env st (.createLabel write accountId now body)) ↔
      Kept st (.createLabel write accountId now body) := by
  have hdone : (createLabel write accountId now body st.store).2 =
      { st.store with labels := st.store.labels.put (newLabel accountId now body) } :=
    written_done hok
  have hstep : step env st (.createLabel write accountId now body) =
      ⟨{ st.store with labels := st.store.labels.put (newLabel accountId now body) },
        want st (.createLabel write accountId now body)⟩ := by
    rw [← hdone]
    rfl
  rw [hstep]
  refine (stored_iff_labels h).trans ((forall_update_iff (fun key =>
    readLabel_put st.store (newLabel accountId now body) key) h.labels).trans ?_)
  rw [Option.some.injEq, labelSettings_new, ← h.labels, readLabel_eq]
  constructor
  · intro hkept label hlabel
    exact hkept (labelSettings label) (by rw [hlabel]; rfl)
  · intro hkept l hl
    obtain ⟨label, hlabel, rfl⟩ := Option.map_eq_some_iff.mp hl
    exact hkept label hlabel

theorem stored_updateLabel (h : Stored st) {accountId labelId : String} {body : UpdateLabelRequest}
    (hok : (updateLabel listed write accountId labelId body st.store).1 = true) :
    Stored (step env st (.updateLabel listed write accountId labelId body)) ↔
      Kept st (.updateLabel listed write accountId labelId body) := by
  obtain ⟨label, labels, hget, hdone, hread⟩ := updateLabel_done hok
  have hstep : step env st (.updateLabel listed write accountId labelId body) =
      ⟨{ st.store with labels := labels },
        want st (.updateLabel listed write accountId labelId body)⟩ := by
    rw [← hdone]
    rfl
  rw [hstep]
  refine (stored_iff_labels h).trans ((forall_update_iff hread h.labels).trans ?_)
  rw [← h.labels, readLabel_eq, hget, Option.map_some, Option.map_some, Option.some.injEq,
    labelSettings_updated]
  constructor
  · intro hkept other hother
    rw [hget] at hother
    obtain rfl := Option.some.inj hother
    exact hkept
  · exact fun hkept => hkept label hget

theorem stored_createView (h : Stored st) {body : CreateViewRequest}
    (hok : (createView listed write accountId id now body st.store).1 = true) :
    Stored (step env st (.createView listed write accountId id now body)) := by
  have hstep : step env st (.createView listed write accountId id now body) =
      ⟨(createView listed write accountId id now body st.store).2,
        want st (.createView listed write accountId id now body)⟩ := rfl
  rw [hstep, createView_done hok]
  refine (stored_iff_views h).mpr ((forall_update_iff (fun key => readView_put st.store _ key)
    h.views).mpr ?_)
  rw [viewSettings_new]

theorem stored_updateView (h : Stored st) {read : Bool} {accountId viewId now : String}
    {body : UpdateViewRequest}
    (hok : (updateView read write accountId viewId now body st.store).1 = true) :
    Stored (step env st (.updateView read write accountId viewId now body)) ↔
      Kept st (.updateView read write accountId viewId now body) := by
  obtain ⟨view, hget, hdone⟩ := updateView_done hok
  have hkey : viewKey view = (accountId, viewId) := KeyedTable.key_of_get hget
  have hupdated : viewKey (view.updated now body) = (accountId, viewId) := hkey
  have hstep : step env st (.updateView read write accountId viewId now body) =
      ⟨{ st.store with views := st.store.views.put (view.updated now body) },
        want st (.updateView read write accountId viewId now body)⟩ := by
    rw [← hdone]
    rfl
  rw [hstep]
  refine (stored_iff_views h).trans ((forall_update_iff (fun key =>
    hupdated ▸ readView_put st.store (view.updated now body) key) h.views).trans ?_)
  rw [← h.views, readView, hget, Option.map_some, Option.map_some, Option.some.injEq,
    viewSettings_updated]
  constructor
  · intro hkept other hother
    rw [hget] at hother
    obtain rfl := Option.some.inj hother
    exact hkept
  · exact fun hkept => hkept view hget

/-- A request that is done keeps what is wanted just when it names no dropped field. -/
theorem stored_step (st : State) (request : Request) (h : Stored st)
    (hdone : Succeeds env st request) : Stored (step env st request) ↔ Kept st request := by
  cases request with
  | createRule o accountId id now body => exact stored_createRule h hdone.1 hdone.2.1
  | updateRule o accountId ruleId now body =>
    exact iff_of_true (stored_updateRule h hdone.1) trivial
  | createLabel write accountId now body => exact stored_createLabel h hdone.1
  | updateLabel listed write accountId labelId body => exact stored_updateLabel h hdone.1
  | createView listed write accountId id now body =>
    exact iff_of_true (stored_createView h hdone.1) trivial
  | updateView read write accountId viewId now body => exact stored_updateView h hdone.1

end Step

/-- **What is accepted is stored.** In a run of requests that are done, every object reads as it is
wanted, and no other has changed, just when no request names a field that is dropped. -/
theorem settings_stored_iff (env : Env) (store : Store) (requests : List Request)
    (hdone : EachFits (step env) (Succeeds env) (start store) requests) :
    Always (step env) Stored (start store) requests ↔
      EachFits (step env) Kept (start store) requests :=
  always_iff_eachFits_of stored_step ⟨fun _ => rfl, fun _ => rfl, fun _ => rfl⟩ hdone

/-! ## A new account -/

def noSettings : Store := ⟨RulesApi.noRules, .empty, .empty⟩

/-- A rule without a condition, which applies to every mail. -/
def archiveAll (status : Option RuleStatus) : Request :=
  .createRule RulesApi.fineOutcomes "acct-1" "rule-1" "2026-03-01T08:00:00.000Z"
    ⟨⟨"Archive", none, none, [⟨.archive, none⟩], none, none⟩, status⟩

def urgentLabel : Request :=
  .createLabel .done "acct-1" "2026-03-01T08:01:00.000Z"
    ⟨"urgent", some "#ff0000", none, "Apply to mail that needs an answer"⟩

def recolor : Request :=
  .updateLabel true .done "acct-1" "urgent" ⟨none, some "#00ff00", none, none⟩

def inbox : Request :=
  .createView true .done "acct-1" "view-1" "2026-03-01T08:02:00.000Z"
    ⟨"Inbox", none, none, none, none, none, none, none⟩

theorem settings_stored_new_account :
    Always (step RulesApi.strictEnv) Stored (start noSettings)
      [archiveAll (some .enabled), urgentLabel, recolor, inbox] := by
  have hdone : EachFits (step RulesApi.strictEnv) (Succeeds RulesApi.strictEnv) (start noSettings)
      [archiveAll (some .enabled), urgentLabel, recolor, inbox] :=
    ⟨⟨rfl, by decide, rfl⟩, ⟨rfl, trivial⟩, ⟨rfl, trivial⟩, ⟨rfl, rfl⟩, trivial⟩
  refine (settings_stored_iff RulesApi.strictEnv noSettings _ hdone).mpr
    ⟨rfl, ?_, ?_, trivial, trivial⟩
  · intro label hlabel
    cases hlabel
  · intro label _ text htext
    cases htext

/-- A rule that is created as disabled is stored, and reads, as enabled. -/
theorem disabled_rule_enabled : ¬ ∀ (env : Env) (store : Store) (requests : List Request),
    EachFits (step env) (Succeeds env) (start store) requests →
      Always (step env) Stored (start store) requests := by
  intro hall
  have hdone : EachFits (step RulesApi.strictEnv) (Succeeds RulesApi.strictEnv) (start noSettings)
      [archiveAll (some .disabled)] := ⟨⟨rfl, by decide, rfl⟩, trivial⟩
  have hstored := (hall _ _ _ hdone).2.head
  have hkept := (stored_createRule ⟨fun _ => rfl, fun _ => rfl, fun _ => rfl⟩ rfl (by decide)).mp
    hstored
  cases hkept

end SesEmailAdapter.Api.StoredSettings
