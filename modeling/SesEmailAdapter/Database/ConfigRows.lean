import SesEmailAdapter.Api.StoredSettings
import SesEmailAdapter.Lib.ItemTable
import SesEmailAdapter.Processor.OutboundService

/-! # Configuration rows

The attributes that the rows of accounts, views, labels, rules, domains and templates really have. A
create writes all that its kind requires. Most updates do not ask for their row to be there, so one
that comes after a delete makes a row of the few attributes it sets. -/

namespace SesEmailAdapter.Database.ConfigRows
open Lib
open SesEmailAdapter.Types Database.Shared
open Database.AccountDatabase (isSystemAccount)
open Database.AccountsTable (DomainSetup)
open Forwarding.Targets (DigestConfig)
open Processor.RuleEngine (ConditionType RuleStatus StoredRule)
open Api.RulesApi (SYSTEM_RULES UpdateRuleRequest)
open Api.StoredSettings (SortField SortDirection CreateViewRequest
  UpdateViewRequest CreateLabelRequest UpdateLabelRequest CreateRuleRequest)

/-! ## Attributes -/

inductive Attr
  | id | accountId | name | createdAt | updatedAt | gsi1pk | gsi1sk | status
  | timezone | ambiguousDateFormat | retentionDuration | digest | filtering | onboarding
  | billingPlan | defaultCalendarInviteForwardingTargetId
  | workflow | labels | sortField | sortDirection | icon | color | position
  | applyInstruction
  | condition | conditionType | actions | priorityOrder | tags | lastError
  | domain | receivingSetupComplete | senderSetupComplete | receivingHealthy | senderHealthy
  | failingRecords | lastCheckedAt | lastHealthyAt
  | subject | body | functions
deriving DecidableEq, Repr

structure AccountOnboarding where
  completed : Bool
  completedAt : Option String
  testEmailReceived : Option Bool
  testEmailReceivedAt : Option String
deriving DecidableEq, Repr

structure TemplateFunction extends Processor.OutboundService.TemplateFunction where
  lastError : Option String
deriving DecidableEq, Repr

/-- The type of an attribute's values. A `digest` may be null. -/
@[reducible] def Attr.Value : Attr → Type
  | .digest => Option DigestConfig
  | .filtering => UnknownSenderPolicy
  | .onboarding => AccountOnboarding
  | .workflow => Workflow
  | .labels => List String
  | .sortField => SortField
  | .sortDirection => SortDirection
  | .position => ℚ
  | .conditionType => ConditionType
  | .actions => List RuleAction
  | .priorityOrder => Nat
  | .tags => Fields
  | .receivingSetupComplete => Bool
  | .senderSetupComplete => Bool
  | .receivingHealthy => Bool
  | .senderHealthy => Bool
  | .failingRecords => List String
  | .functions => List TemplateFunction
  | _ => String

abbrev Attrs := List (Sigma Attr.Value)

/-- An attribute that is written if there is a value for it. -/
def given (attr : Attr) (value : Option attr.Value) : Attrs := (value.map (Sigma.mk attr)).toList

inductive SortKey
  | account
  | view (id : String)
  | label (id : String)
  | rule (id : String)
  | domain (domain : String)
  | template (id : String)
deriving DecidableEq, Repr

structure RowKey where
  accountId : String
  sk : SortKey
deriving DecidableEq, Repr

abbrev Row := Item RowKey Attr.Value

abbrev Table := ItemTable RowKey Attr.Value

abbrev Request := Write RowKey Attr.Value

def pk (accountId : String) : String := "ACCT#" ++ accountId

/-! ## Requests -/

def putItem (key : RowKey) (attrs : Attrs) : Request := .put ⟨key, attrs⟩ fun _ => true

/-- An update that sets and removes, without a condition. -/
def updateItem (key : RowKey) (sets : Attrs) (removes : List Attr) : Request :=
  .update key (fun _ => true) fun attrs => removeAttrs removes (setAttrs sets attrs)

/-! ## Accounts -/

structure Account where
  id : String
  name : String
  timezone : String
  ambiguousDateFormat : Option String
  retentionDuration : Option String
  digest : Option (Option DigestConfig)
  filtering : Option UnknownSenderPolicy
  onboarding : Option AccountOnboarding
  billingPlan : Option String
  defaultCalendarInviteForwardingTargetId : Option String
  createdAt : String
  updatedAt : String

/-- `some none` is null, which removes the attribute. -/
structure UpdateAccountRequest where
  name : Option String
  retentionDuration : Option String
  digest : Option (Option DigestConfig)
  filtering : Option UnknownSenderPolicy
  onboarding : Option AccountOnboarding
  defaultCalendarInviteForwardingTargetId : Option (Option String)
  timezone : Option String
  ambiguousDateFormat : Option String

/-- Conditional on the account not being there. -/
def createAccount (account : Account) : Request :=
  .put ⟨⟨account.id, .account⟩,
    [⟨.id, account.id⟩, ⟨.name, account.name⟩, ⟨.timezone, account.timezone⟩,
      ⟨.createdAt, account.createdAt⟩, ⟨.updatedAt, account.updatedAt⟩, ⟨.gsi1pk, "META"⟩,
      ⟨.gsi1sk, pk account.id⟩] ++
    (given .ambiguousDateFormat account.ambiguousDateFormat ++
      given .retentionDuration account.retentionDuration ++ given .digest account.digest ++
      given .filtering account.filtering ++ given .onboarding account.onboarding ++
      given .billingPlan account.billingPlan ++
      given .defaultCalendarInviteForwardingTargetId
        account.defaultCalendarInviteForwardingTargetId)⟩ Option.isNone

/-- The name of an attribute that is set to null. -/
def nulled {α : Type} (attr : Attr) (value : Option (Option α)) : List Attr :=
  if value.any Option.isNone then [attr] else []

def updateAccount (accountId now : String) (update : UpdateAccountRequest) : Request :=
  updateItem ⟨accountId, .account⟩
    ([⟨.updatedAt, now⟩, ⟨.gsi1pk, "META"⟩, ⟨.gsi1sk, pk accountId⟩] ++
      (given .name update.name ++ given .retentionDuration update.retentionDuration ++
        given .digest (update.digest.join.map some) ++ given .filtering update.filtering ++
        given .onboarding update.onboarding ++
        given .defaultCalendarInviteForwardingTargetId
          update.defaultCalendarInviteForwardingTargetId.join ++
        given .timezone update.timezone ++
        given .ambiguousDateFormat update.ambiguousDateFormat))
    (nulled .digest update.digest ++
      nulled .defaultCalendarInviteForwardingTargetId
        update.defaultCalendarInviteForwardingTargetId)

/-! ## Views -/

/-- The rows of an account's views. -/
def viewRows (t : Table) (accountId : String) : List Row :=
  t.rows.filter fun row =>
    row.key.accountId = accountId && (match row.key.sk with | .view _ => true | _ => false)

/-- The position behind all others; a row without one makes it no number, which cannot be
written. -/
def nextPosition (rows : List Row) : Option ℚ :=
  (rows.mapM fun (row : Row) => row.get .position).map fun (positions : List ℚ) =>
    match positions.max? with
    | some last => last + 1
    | none => 0

def createView (accountId id now : String) (data : CreateViewRequest) (t : Table) :
    List Request :=
  match data.position <|> nextPosition (viewRows t accountId) with
  | none => []
  | some position =>
    [putItem ⟨accountId, .view id⟩
      ([⟨.id, id⟩, ⟨.accountId, accountId⟩, ⟨.name, data.name⟩,
        ⟨.labels, data.labels.getD []⟩, ⟨.sortField, data.sortField.getD .lastSignalAt⟩,
        ⟨.sortDirection, data.sortDirection.getD .desc⟩, ⟨.position, position⟩,
        ⟨.createdAt, now⟩, ⟨.updatedAt, now⟩] ++
        (given .workflow data.workflow ++ given .icon data.icon ++ given .color data.color))]

def updateView (accountId id now : String) (data : UpdateViewRequest) : Request :=
  updateItem ⟨accountId, .view id⟩
    ([⟨.updatedAt, now⟩] ++
      (given .name data.name ++ given .workflow data.workflow ++ given .labels data.labels ++
        given .sortField data.sortField ++ given .sortDirection data.sortDirection ++
        given .icon data.icon ++ given .color data.color ++ given .position data.position)) []

def deleteView (accountId id : String) : Request := .delete ⟨accountId, .view id⟩

/-- One request a view, all at once. -/
def reorderViews (accountId : String) (orderedIds : List String) : List Request :=
  orderedIds.mapIdx fun position id =>
    updateItem ⟨accountId, .view id⟩ [⟨.position, (position : ℚ)⟩] []

/-! ## Labels -/

def createLabel (accountId now : String) (data : CreateLabelRequest) : Request :=
  putItem ⟨accountId, .label data.name⟩
    ([⟨.id, data.name⟩, ⟨.accountId, accountId⟩, ⟨.name, data.name⟩,
      ⟨.applyInstruction, data.applyInstruction⟩, ⟨.createdAt, now⟩] ++
      (given .color data.color ++ given .icon data.icon))

/-- A request that sets nothing is a read. -/
def updateLabel (accountId id : String) (data : UpdateLabelRequest) : List Request :=
  match given .color data.color ++ given .icon data.icon with
  | [] => []
  | sets => [updateItem ⟨accountId, .label id⟩ sets []]

def deleteLabel (accountId id : String) : Request := .delete ⟨accountId, .label id⟩

/-! ## Rules -/

def statusText : RuleStatus → String
  | .enabled => "enabled"
  | .disabled => "disabled"

def padStart (length : Nat) (text : String) : String :=
  String.ofList (text.toList.leftpad length '0')

def ruleGsi1sk (status : String) (priorityOrder : Nat) (id : String) : String :=
  "RULE#" ++ status ++ "#" ++ padStart 6 priorityOrder.repr ++ "#" ++ id

/-- A rule as it is read; a row may lack what its type says is there. -/
structure ReadRule where
  id : String
  condition : Option String
  actions : Option (List RuleAction)
  status : Option String
  priorityOrder : Option Nat
deriving DecidableEq, Repr

/-- `none` where the id cannot be read. -/
def readRule (row : Row) : Option ReadRule :=
  (row.get .id).map fun id =>
    ⟨id, row.get .condition, row.get .actions, row.get .status, row.get .priorityOrder⟩

def isListed (accountId : String) (row : Row) : Bool :=
  row.get .gsi1pk = some (pk accountId) &&
    (row.get .gsi1sk).any fun gsi1sk => "RULE#".toList.isPrefixOf gsi1sk.toList

/-- The items that the index has under an account, by sort key. -/
def ruleRows (t : Table) (accountId : String) : List Row :=
  (t.rows.filter (isListed accountId)).mergeSort fun a b =>
    decide ((a.get .gsi1sk).getD "" ≤ (b.get .gsi1sk).getD "")

def systemRule (rule : StoredRule) : ReadRule :=
  ⟨rule.id, some rule.condition, some rule.actions, some (statusText rule.status),
    some rule.priorityOrder⟩

def isSystemRuleId (id : String) : Bool := "SR-".toList.isPrefixOf id.toList

/-- A system rule with the status and priority of the account's row for it. -/
def withOverride (ddbRules : List ReadRule) (rule : ReadRule) : ReadRule :=
  match ddbRules.reverse.find? fun override => override.id = rule.id with
  | some override =>
    { rule with status := override.status, priorityOrder := override.priorityOrder }
  | none => rule

/-- The difference of a missing priority is no number, which leaves the order. -/
def byPriority (a b : ReadRule) : Bool :=
  match a.priorityOrder, b.priorityOrder with
  | some a, some b => a ≤ b
  | _, _ => true

def startsWithError : DbError :=
  ⟨"Cannot read properties of undefined (reading 'startsWith')"⟩

def listRules (t : Table) (accountId : String) : Except DbError (List ReadRule) :=
  match (ruleRows t accountId).mapM readRule with
  | none => .error startsWithError
  | some ddbRules =>
    let systemRules := SYSTEM_RULES.map fun rule => withOverride ddbRules (systemRule rule)
    let userRules := ddbRules.filter fun rule => ¬ isSystemRuleId rule.id
    .ok ((systemRules ++ userRules).mergeSort byPriority)

def listEnabledRules (t : Table) (accountId : String) : Except DbError (List ReadRule) :=
  let enabled (rules : List ReadRule) := rules.filter fun rule => rule.status = some "enabled"
  if isSystemAccount accountId then .ok (enabled (SYSTEM_RULES.map systemRule))
  else (listRules t accountId).map enabled

/-- The row of a rule. -/
def ruleItem (accountId id name condition status createdAt updatedAt : String)
    (actions : List RuleAction) (priorityOrder : Nat) (rest : Attrs) : Request :=
  putItem ⟨accountId, .rule id⟩
    ([⟨.id, id⟩, ⟨.accountId, accountId⟩, ⟨.name, name⟩, ⟨.condition, condition⟩,
      ⟨.actions, actions⟩, ⟨.status, status⟩, ⟨.priorityOrder, priorityOrder⟩,
      ⟨.createdAt, createdAt⟩, ⟨.updatedAt, updatedAt⟩, ⟨.gsi1pk, pk accountId⟩,
      ⟨.gsi1sk, ruleGsi1sk status priorityOrder id⟩] ++ rest)

/-- The system rule, with what the call, the account's row or the code says. -/
def upsertSystemRuleOverride (accountId ruleId : String) (status : Option RuleStatus)
    (priorityOrder : Option Nat) (t : Table) : List Request :=
  match SYSTEM_RULES.find? fun rule => rule.id = ruleId with
  | none => []
  | some rule =>
    let existing := t.get ⟨accountId, .rule ruleId⟩
    let status := ((status.map statusText).or (existing.bind fun row => row.get .status)).getD
      (statusText rule.status)
    let priorityOrder := (priorityOrder.or (existing.bind fun row => row.get .priorityOrder)).getD
      rule.priorityOrder
    [ruleItem accountId ruleId rule.name rule.condition status rule.createdAt rule.updatedAt
      rule.actions priorityOrder []]

/-- The priority behind all others; a rule without one makes it no number, which cannot be
written. -/
def nextPriority (rules : List ReadRule) : Option Nat :=
  (rules.mapM ReadRule.priorityOrder).map fun priorities =>
    match priorities.max? with
    | some last => last + 1
    | none => 1801

def createRule (accountId id now : String) (data : CreateRuleRequest) (t : Table) :
    List Request :=
  match listRules t accountId with
  | .error _ => []
  | .ok allRules =>
    let userRules := allRules.filter fun rule => ¬ isSystemRuleId rule.id
    match data.priorityOrder <|> nextPriority userRules with
    | none => []
    | some priorityOrder =>
      [ruleItem accountId id data.name (data.condition.getD "") "enabled" now now data.actions
        priorityOrder (given .conditionType data.conditionType ++ given .tags data.tags)]

/-- Reads the rule for the index key of the row. Where a status or priority is neither named nor to
be read, the call fails before its update. -/
def updateRule (accountId id now : String) (data : UpdateRuleRequest) (clearError : Bool)
    (t : Table) : List Request :=
  let existing := t.get ⟨accountId, .rule id⟩
  let mergedStatus := (data.status.map statusText).or
    (existing.map fun row => (row.get .status).getD "undefined")
  let mergedPriority := data.priorityOrder.or (existing.bind fun row => row.get .priorityOrder)
  match mergedStatus, mergedPriority with
  | some status, some priorityOrder =>
    [updateItem ⟨accountId, .rule id⟩
      ([⟨.updatedAt, now⟩, ⟨.gsi1pk, pk accountId⟩,
        ⟨.gsi1sk, ruleGsi1sk status priorityOrder id⟩] ++
        (given .name data.name ++ given .condition data.condition ++
          given .conditionType data.conditionType ++ given .actions data.actions ++
          given .priorityOrder data.priorityOrder ++
          given .status (data.status.map statusText) ++ given .tags data.tags))
      (if clearError then [.lastError] else [])]
  | _, _ => []

def annotateRuleError (accountId ruleId errorMessage now : String) : Request :=
  updateItem ⟨accountId, .rule ruleId⟩ [⟨.lastError, errorMessage⟩, ⟨.updatedAt, now⟩] []

def deleteRule (accountId id : String) : Request := .delete ⟨accountId, .rule id⟩

/-! ## Domains -/

/-- Conditional on the row not being there or being one of a deleted domain. -/
def createDomain (accountId domain now : String) : Request :=
  .put ⟨⟨accountId, .domain domain⟩,
    [⟨.accountId, accountId⟩, ⟨.domain, domain⟩, ⟨.status, "active"⟩,
      ⟨.receivingSetupComplete, false⟩, ⟨.senderSetupComplete, false⟩, ⟨.createdAt, now⟩,
      ⟨.updatedAt, now⟩, ⟨.gsi1pk, "DOMAIN#" ++ domain⟩, ⟨.gsi1sk, pk accountId⟩]⟩
    fun item => item.isNone || item.bind (fun row => row.get .status) = some "deleted"

def deleteDomain (accountId domain now : String) : Request :=
  updateItem ⟨accountId, .domain domain⟩ [⟨.status, "deleted"⟩, ⟨.updatedAt, now⟩] []

structure DomainHealth where
  receivingHealthy : Bool
  senderHealthy : Bool
  failingRecords : List String
  lastCheckedAt : String
  lastHealthyAt : Option String
deriving DecidableEq, Repr

/-- An empty time is left out. -/
def updateDomainHealth (accountId domain : String) (health : DomainHealth) : Request :=
  updateItem ⟨accountId, .domain domain⟩
    ([⟨.receivingHealthy, health.receivingHealthy⟩, ⟨.senderHealthy, health.senderHealthy⟩,
      ⟨.failingRecords, health.failingRecords⟩, ⟨.lastCheckedAt, health.lastCheckedAt⟩,
      ⟨.updatedAt, health.lastCheckedAt⟩] ++
      given .lastHealthyAt (health.lastHealthyAt.filter (· ≠ ""))) []

def updateDomainSetup (accountId domain now : String) (setup : DomainSetup) : Request :=
  updateItem ⟨accountId, .domain domain⟩
    ([⟨.updatedAt, now⟩] ++
      (given .receivingSetupComplete setup.receivingSetupComplete ++
        given .senderSetupComplete setup.senderSetupComplete)) []

/-! ## Templates -/

structure EmailTemplate where
  id : String
  accountId : String
  name : String
  subject : String
  body : String
  functions : Option (List TemplateFunction)
  createdAt : String
  updatedAt : String
deriving DecidableEq, Repr

structure UpdateTemplateRequest where
  name : Option String
  subject : Option String
  body : Option String
  functions : Option (List TemplateFunction)
deriving DecidableEq, Repr

def createTemplate (template : EmailTemplate) : Request :=
  putItem ⟨template.accountId, .template template.id⟩
    ([⟨.id, template.id⟩, ⟨.accountId, template.accountId⟩, ⟨.name, template.name⟩,
      ⟨.subject, template.subject⟩, ⟨.body, template.body⟩, ⟨.createdAt, template.createdAt⟩,
      ⟨.updatedAt, template.updatedAt⟩] ++ given .functions template.functions)

def updateTemplate (accountId id now : String) (update : UpdateTemplateRequest) : Request :=
  updateItem ⟨accountId, .template id⟩
    ([⟨.updatedAt, now⟩] ++
      (given .name update.name ++ given .subject update.subject ++ given .body update.body ++
        given .functions update.functions)) []

/-- The error goes to the first function, whichever failed. -/
def annotated (message : String) : List TemplateFunction → List TemplateFunction
  | first :: rest => { first with lastError := some message } :: rest
  | [] => []

/-- Conditional on the template being there; its first function is a path of the request. -/
def annotateTemplateError (accountId templateId functionName errorMessage now : String) : Request :=
  .update ⟨accountId, .template templateId⟩
    (fun item => (item.bind fun row => row.get .functions).any fun functions => functions ≠ [])
    fun attrs =>
      setAttrs [⟨.functions, annotated ("[" ++ functionName ++ "] " ++ errorMessage)
        ((attrs.dlookup .functions).getD [])⟩, ⟨.updatedAt, now⟩] attrs

def deleteTemplate (accountId id : String) : Request := .delete ⟨accountId, .template id⟩

/-! ## Calls -/

inductive Call
  | createAccount (account : Account)
  | updateAccount (accountId now : String) (update : UpdateAccountRequest)
  | createView (accountId id now : String) (data : CreateViewRequest)
  | updateView (accountId id now : String) (data : UpdateViewRequest)
  | deleteView (accountId id : String)
  | reorderViews (accountId : String) (orderedIds : List String)
  | createLabel (accountId now : String) (data : CreateLabelRequest)
  | updateLabel (accountId id : String) (data : UpdateLabelRequest)
  | deleteLabel (accountId id : String)
  | upsertSystemRuleOverride (accountId ruleId : String) (status : Option RuleStatus)
      (priorityOrder : Option Nat)
  | createRule (accountId id now : String) (data : CreateRuleRequest)
  | updateRule (accountId id now : String) (data : UpdateRuleRequest) (clearError : Bool)
  | annotateRuleError (accountId ruleId errorMessage now : String)
  | deleteRule (accountId id : String)
  | createDomain (accountId domain now : String)
  | deleteDomain (accountId domain now : String)
  | updateDomainHealth (accountId domain : String) (health : DomainHealth)
  | updateDomainSetup (accountId domain now : String) (setup : DomainSetup)
  | createTemplate (template : EmailTemplate)
  | updateTemplate (accountId id now : String) (update : UpdateTemplateRequest)
  | annotateTemplateError (accountId templateId functionName errorMessage now : String)
  | deleteTemplate (accountId id : String)

/-- The writes of a call that reads this table. -/
def requests : Call → Table → List Request
  | .createAccount account, _ => [createAccount account]
  | .updateAccount accountId now update, _ => [updateAccount accountId now update]
  | .createView accountId id now data, t => createView accountId id now data t
  | .updateView accountId id now data, _ => [updateView accountId id now data]
  | .deleteView accountId id, _ => [deleteView accountId id]
  | .reorderViews accountId orderedIds, _ => reorderViews accountId orderedIds
  | .createLabel accountId now data, _ => [createLabel accountId now data]
  | .updateLabel accountId id data, _ => updateLabel accountId id data
  | .deleteLabel accountId id, _ => [deleteLabel accountId id]
  | .upsertSystemRuleOverride accountId ruleId status priorityOrder, t =>
    upsertSystemRuleOverride accountId ruleId status priorityOrder t
  | .createRule accountId id now data, t => createRule accountId id now data t
  | .updateRule accountId id now data clearError, t => updateRule accountId id now data clearError t
  | .annotateRuleError accountId ruleId errorMessage now, _ =>
    [annotateRuleError accountId ruleId errorMessage now]
  | .deleteRule accountId id, _ => [deleteRule accountId id]
  | .createDomain accountId domain now, _ => [createDomain accountId domain now]
  | .deleteDomain accountId domain now, _ => [deleteDomain accountId domain now]
  | .updateDomainHealth accountId domain health, _ => [updateDomainHealth accountId domain health]
  | .updateDomainSetup accountId domain now setup, _ =>
    [updateDomainSetup accountId domain now setup]
  | .createTemplate template, _ => [createTemplate template]
  | .updateTemplate accountId id now update, _ => [updateTemplate accountId id now update]
  | .annotateTemplateError accountId templateId functionName errorMessage now, _ =>
    [annotateTemplateError accountId templateId functionName errorMessage now]
  | .deleteTemplate accountId id, _ => [deleteTemplate accountId id]

/-! ## What is wanted -/

/-- What the create of the kind always writes. -/
def required (key : RowKey) : List Attr :=
  match key.sk with
  | .account => [.id, .name, .timezone, .createdAt, .updatedAt, .gsi1pk, .gsi1sk]
  | .view _ =>
    [.id, .accountId, .name, .labels, .sortField, .sortDirection, .position, .createdAt,
      .updatedAt]
  | .label _ => [.id, .accountId, .name, .applyInstruction, .createdAt]
  | .rule _ =>
    [.id, .accountId, .name, .condition, .actions, .status, .priorityOrder, .createdAt,
      .updatedAt, .gsi1pk, .gsi1sk]
  | .domain _ =>
    [.accountId, .domain, .status, .receivingSetupComplete, .senderSetupComplete, .createdAt,
      .updatedAt, .gsi1pk, .gsi1sk]
  | .template _ => [.id, .accountId, .name, .subject, .body, .createdAt, .updatedAt]

/-- The rules of every account can be listed, and each has a condition and actions. -/
def RulesListed (t : Table) : Prop :=
  ∀ accountId, ∃ rules, listEnabledRules t accountId = .ok rules ∧
    ∀ rule ∈ rules, rule.condition.isSome ∧ rule.actions.isSome

structure Sound (s : Callers RowKey Attr.Value) : Prop where
  whole : Whole required s.table
  rules : RulesListed s.table

/-! ## One request -/

variable {key : RowKey} {sets attrs : Attrs} {removes : List Attr}

@[simp] theorem mem_keys_given {attr n : Attr} {value : Option attr.Value} :
    n ∈ (given attr value).keys ↔ n = attr ∧ value.isSome := by
  cases value <;> simp [given]

theorem createdAt_required (key : RowKey) : .createdAt ∈ required key := by
  obtain ⟨accountId, sk⟩ := key
  cases sk <;> simp [required]

variable {base rest : Attrs}

theorem whole_item (h : required key = base.keys) :
    required key ⊆ (base ++ rest).keys := by
  rw [List.keys_append, h]
  exact List.subset_append_left _ _

/-- No update writes when the row was made. -/
theorem regular_updateItem (hcreated : .createdAt ∉ sets.keys)
    (hremoved : ∀ n ∈ required key, n ∉ removes) :
    (updateItem key sets removes).Regular required := by
  refine ⟨fun attrs hattrs => subset_removeAttrs (subset_setAttrs hattrs) hremoved, fun _ h => ?_⟩
  have hset := (mem_keys_removeAttrs.mp (h (createdAt_required key))).1
  exact hcreated (setAttrs_nil_keys.mp hset)

def SortKey.IsRule : SortKey → Prop
  | .rule _ => True
  | _ => False

/-- The index has under an account only its rules. -/
def Indexed (row : Row) : Prop :=
  ∀ accountId, row.get .gsi1pk = some (pk accountId) → row.key.sk.IsRule

/-- The attributes put a row under no account of the index. -/
def Elsewhere (attrs : Attrs) : Prop :=
  ∀ accountId, attrs.dlookup .gsi1pk ≠ some (pk accountId)

theorem Elsewhere.of_absent (h : .gsi1pk ∉ attrs.keys) : Elsewhere attrs := by
  intro accountId
  simp [List.dlookup_eq_none.mpr h]

theorem meta_ne_pk (accountId : String) : "META" ≠ pk accountId := by
  intro h
  have htext := congrArg String.toList h
  simp [pk, String.toList_append] at htext

theorem domain_ne_pk (domain accountId : String) : "DOMAIN#" ++ domain ≠ pk accountId := by
  intro h
  have htext := congrArg String.toList h
  simp [pk, String.toList_append] at htext

theorem keeps_updateItem (h : Elsewhere sets) : (updateItem key sets removes).Keeps Indexed := by
  have hupdate (attrs : Attrs) (hattrs : Indexed ⟨key, attrs⟩) :
      Indexed ⟨key, removeAttrs removes (setAttrs sets attrs)⟩ := by
    intro accountId hpk
    have hset := dlookup_of_removeAttrs hpk
    rw [dlookup_setAttrs, Option.or_eq_some_iff] at hset
    obtain hset | ⟨-, hold⟩ := hset
    · exact absurd hset (h accountId)
    · exact hattrs accountId hold
  refine ⟨hupdate [] fun accountId hpk => ?_, hupdate⟩
  cases hpk

theorem keeps_of_rule (h : key.sk.IsRule) : (updateItem key sets removes).Keeps Indexed :=
  ⟨fun _ _ => h, fun _ _ _ _ => h⟩

/-- What every request of a call satisfies. -/
def Proper (request : Request) : Prop := request.Regular required ∧ request.Keeps Indexed

/-- An update that leaves the index alone. -/
theorem proper_updateItem (hcreated : .createdAt ∉ sets.keys) (hpk : .gsi1pk ∉ sets.keys) :
    Proper (updateItem key sets []) :=
  ⟨regular_updateItem hcreated (by simp), keeps_updateItem (.of_absent hpk)⟩

theorem proper_put {asks : Option Row → Bool}
    (hbase : required key = base.keys) (h : Elsewhere (base ++ rest)) :
    Proper (.put ⟨key, base ++ rest⟩ asks) :=
  ⟨whole_item hbase, fun accountId hpk => absurd hpk (h accountId)⟩

theorem elsewhere_append (hbase : .gsi1pk ∉ base.keys)
    (hrest : .gsi1pk ∉ rest.keys) : Elsewhere (base ++ rest) := by
  refine .of_absent ?_
  simp [hbase, hrest]

theorem proper_delete (key : RowKey) : Proper (.delete key) := ⟨trivial, trivial⟩

/-! ## Every call -/

theorem proper_createAccount (account : Account) : Proper (createAccount account) := by
  refine proper_put rfl fun accountId hpk => ?_
  exact meta_ne_pk accountId (Option.some.inj hpk)

theorem proper_updateAccount (accountId now : String) (update : UpdateAccountRequest) :
    Proper (updateAccount accountId now update) := by
  refine ⟨regular_updateItem (by simp) fun n hn hremoved => ?_,
    keeps_updateItem fun other hpk => ?_⟩
  · have hn' : n = .digest ∨ n = .defaultCalendarInviteForwardingTargetId := by
      simp only [nulled, List.mem_append, List.mem_ite_nil_right, List.mem_singleton] at hremoved
      tauto
    obtain rfl | rfl := hn' <;> simp [required] at hn
  · exact meta_ne_pk other (Option.some.inj hpk)

theorem proper_createView (accountId id now : String) (data : CreateViewRequest) (t : Table) :
    ∀ request ∈ createView accountId id now data t, Proper request := by
  intro request hrequest
  rw [createView] at hrequest
  split at hrequest
  · cases hrequest
  · obtain rfl := List.mem_singleton.mp hrequest
    exact proper_put rfl (elsewhere_append (by simp) (by simp))

theorem proper_updateView (accountId id now : String) (data : UpdateViewRequest) :
    Proper (updateView accountId id now data) := proper_updateItem (by simp) (by simp)

theorem proper_reorderViews (accountId : String) (orderedIds : List String) :
    ∀ request ∈ reorderViews accountId orderedIds, Proper request := by
  intro request hrequest
  obtain ⟨position, hposition, rfl⟩ := List.mem_mapIdx.mp hrequest
  exact proper_updateItem (by simp) (by simp)

theorem proper_createLabel (accountId now : String) (data : CreateLabelRequest) :
    Proper (createLabel accountId now data) :=
  proper_put rfl (elsewhere_append (by simp) (by simp))

theorem proper_updateLabel (accountId id : String) (data : UpdateLabelRequest) :
    ∀ request ∈ updateLabel accountId id data, Proper request := by
  intro request hrequest
  rw [updateLabel] at hrequest
  split at hrequest
  · cases hrequest
  · obtain rfl := List.mem_singleton.mp hrequest
    have habsent (n : Attr) (hn : n ≠ .color) (hn' : n ≠ .icon) :
        n ∉ (given .color data.color ++ given .icon data.icon).keys := by simp [hn, hn']
    exact proper_updateItem (habsent _ (by simp) (by simp)) (habsent _ (by simp) (by simp))

theorem proper_ruleItem (accountId id name condition status createdAt updatedAt : String)
    (actions : List RuleAction) (priorityOrder : Nat) (rest : Attrs) :
    Proper (ruleItem accountId id name condition status createdAt updatedAt actions priorityOrder
      rest) := ⟨whole_item rfl, fun _ _ => trivial⟩

theorem proper_upsertSystemRuleOverride (accountId ruleId : String) (status : Option RuleStatus)
    (priorityOrder : Option Nat) (t : Table) :
    ∀ request ∈ upsertSystemRuleOverride accountId ruleId status priorityOrder t,
      Proper request := by
  intro request hrequest
  rw [upsertSystemRuleOverride] at hrequest
  split at hrequest
  · cases hrequest
  · obtain rfl := List.mem_singleton.mp hrequest
    exact proper_ruleItem ..

theorem proper_createRule (accountId id now : String) (data : CreateRuleRequest) (t : Table) :
    ∀ request ∈ createRule accountId id now data t, Proper request := by
  intro request hrequest
  rw [createRule] at hrequest
  split at hrequest
  · cases hrequest
  · dsimp only at hrequest
    split at hrequest
    · cases hrequest
    · obtain rfl := List.mem_singleton.mp hrequest
      exact proper_ruleItem ..

theorem proper_updateRule (accountId id now : String) (data : UpdateRuleRequest)
    (clearError : Bool) (t : Table) :
    ∀ request ∈ updateRule accountId id now data clearError t, Proper request := by
  intro request hrequest
  rw [updateRule] at hrequest
  split at hrequest
  · obtain rfl := List.mem_singleton.mp hrequest
    refine ⟨regular_updateItem (by simp) fun n hn hremoved => ?_, keeps_of_rule trivial⟩
    rw [List.mem_ite_nil_right, List.mem_singleton] at hremoved
    obtain ⟨-, rfl⟩ := hremoved
    simp [required] at hn
  · cases hrequest

theorem proper_createDomain (accountId domain now : String) :
    Proper (createDomain accountId domain now) :=
  ⟨List.Subset.refl _, fun other hpk => absurd (Option.some.inj hpk) (domain_ne_pk domain other)⟩

/-- The annotation of a template asks for the row. -/
theorem proper_annotateTemplateError
    (accountId templateId functionName errorMessage now : String) :
    Proper (annotateTemplateError accountId templateId functionName errorMessage now) := by
  refine ⟨⟨fun attrs hattrs => subset_setAttrs hattrs, ?_⟩, ?_⟩
  · intro hasks
    cases hasks
  · have hupdate (attrs : Attrs) (hattrs : Indexed ⟨⟨accountId, .template templateId⟩, attrs⟩) :
        Indexed ⟨⟨accountId, .template templateId⟩, setAttrs
          [⟨.functions, annotated ("[" ++ functionName ++ "] " ++ errorMessage)
            ((attrs.dlookup .functions).getD [])⟩, ⟨.updatedAt, now⟩] attrs⟩ := by
      intro other hpk
      refine hattrs other ?_
      have hset := dlookup_setAttrs.symm.trans hpk
      rw [List.dlookup_eq_none.mpr (by simp), Option.none_or] at hset
      exact hset
    refine ⟨hupdate [] fun _ hpk => ?_, hupdate⟩
    cases hpk

theorem proper_requests (call : Call) (t : Table) :
    ∀ request ∈ requests call t, Proper request := by
  have one {request : Request} (h : Proper request) : ∀ other ∈ [request], Proper other :=
    List.forall_mem_singleton.mpr h
  cases call with
  | createAccount account => exact one (proper_createAccount account)
  | updateAccount accountId now update =>
    exact one (proper_updateAccount accountId now update)
  | createView accountId id now data => exact proper_createView accountId id now data t
  | updateView accountId id now data =>
    exact one (proper_updateView accountId id now data)
  | deleteView accountId id => exact one (proper_delete ⟨accountId, .view id⟩)
  | reorderViews accountId orderedIds => exact proper_reorderViews accountId orderedIds
  | createLabel accountId now data => exact one (proper_createLabel accountId now data)
  | updateLabel accountId id data => exact proper_updateLabel accountId id data
  | deleteLabel accountId id => exact one (proper_delete ⟨accountId, .label id⟩)
  | upsertSystemRuleOverride accountId ruleId status priorityOrder =>
    exact proper_upsertSystemRuleOverride accountId ruleId status priorityOrder t
  | createRule accountId id now data => exact proper_createRule accountId id now data t
  | updateRule accountId id now data clearError =>
    exact proper_updateRule accountId id now data clearError t
  | annotateRuleError accountId ruleId errorMessage now =>
    exact one (proper_updateItem (by simp) (by simp))
  | deleteRule accountId id => exact one (proper_delete ⟨accountId, .rule id⟩)
  | createDomain accountId domain now =>
    exact one (proper_createDomain accountId domain now)
  | deleteDomain accountId domain now =>
    exact one (proper_updateItem (by simp) (by simp))
  | updateDomainHealth accountId domain health =>
    exact one (proper_updateItem (by simp) (by simp))
  | updateDomainSetup accountId domain now setup =>
    exact one (proper_updateItem (by simp) (by simp))
  | createTemplate template =>
    exact one (proper_put rfl (elsewhere_append (by simp) (by simp)))
  | updateTemplate accountId id now update =>
    exact one (proper_updateItem (by simp) (by simp))
  | annotateTemplateError accountId templateId functionName errorMessage now =>
    exact one
      (proper_annotateTemplateError accountId templateId functionName errorMessage now)
  | deleteTemplate accountId id => exact one (proper_delete ⟨accountId, .template id⟩)

/-! ## Listing rules -/

theorem mapM_some {α β : Type} {f : α → Option β} {Q : β → Prop} {items : List α}
    (h : ∀ a ∈ items, ∃ b, f a = some b ∧ Q b) :
    ∃ results, items.mapM f = some results ∧ ∀ b ∈ results, Q b := by
  induction items with
  | nil => exact ⟨[], rfl, by simp⟩
  | cons a items ih =>
    obtain ⟨b, hb, hQ⟩ := h a List.mem_cons_self
    obtain ⟨results, hresults, hall⟩ := ih fun a ha => h a (List.mem_cons_of_mem _ ha)
    refine ⟨b :: results, by simp [List.mapM_cons, hb, hresults], ?_⟩
    intro other hother
    obtain rfl | hother := List.mem_cons.mp hother
    · exact hQ
    · exact hall other hother

/-- The rule can be evaluated and carried out. -/
def ReadRule.Whole (rule : ReadRule) : Prop := rule.condition.isSome ∧ rule.actions.isSome

theorem readRule_whole {row : Row} (hrow : required row.key ⊆ row.attrs.keys)
    (hrule : row.key.sk.IsRule) : ∃ rule, readRule row = some rule ∧ rule.Whole := by
  obtain ⟨⟨accountId, sk⟩, attrs⟩ := row
  cases sk with
  | rule id =>
    have hhas {n : Attr} (hn : n ∈ required ⟨accountId, .rule id⟩) :
        (Item.get (⟨⟨accountId, .rule id⟩, attrs⟩ : Row) n).isSome := Item.Has.isSome hrow hn
    obtain ⟨ruleId, hid⟩ := Option.isSome_iff_exists.mp (hhas (n := .id) (by simp [required]))
    have hcondition := hhas (n := .condition) (by simp [required])
    have hactions := hhas (n := .actions) (by simp [required])
    exact ⟨_, by rw [readRule, hid]; rfl, hcondition, hactions⟩
  | _ => cases hrule

theorem withOverride_whole (ddbRules : List ReadRule) (rule : StoredRule) :
    (withOverride ddbRules (systemRule rule)).Whole := by
  rw [withOverride]
  split
  · exact ⟨rfl, rfl⟩
  · exact ⟨rfl, rfl⟩

theorem listRules_whole {t : Table} (hwhole : Whole required t)
    (hindexed : ∀ row ∈ t.rows, Indexed row) (accountId : String) :
    ∃ rules, listRules t accountId = .ok rules ∧ ∀ rule ∈ rules, rule.Whole := by
  have hread : ∀ row ∈ ruleRows t accountId, ∃ rule, readRule row = some rule ∧ rule.Whole := by
    intro row hrow
    obtain ⟨hmem, hlisted⟩ := List.mem_filter.mp (List.mem_mergeSort.mp hrow)
    simp only [isListed, Bool.and_eq_true, decide_eq_true_eq] at hlisted
    exact readRule_whole (hwhole row hmem) (hindexed row hmem accountId hlisted.1)
  obtain ⟨ddbRules, hddbRules, hall⟩ := mapM_some hread
  refine ⟨_, by rw [listRules, hddbRules], fun rule hrule => ?_⟩
  obtain hrule | hrule := List.mem_append.mp (List.mem_mergeSort.mp hrule)
  · obtain ⟨system, -, rfl⟩ := List.mem_map.mp hrule
    exact withOverride_whole ddbRules system
  · exact hall rule (List.mem_filter.mp hrule).1

theorem rulesListed_of_whole {t : Table} (hwhole : Whole required t)
    (hindexed : ∀ row ∈ t.rows, Indexed row) : RulesListed t := by
  intro accountId
  rw [listEnabledRules]
  split
  · refine ⟨_, rfl, fun rule hrule => ?_⟩
    obtain ⟨system, -, rfl⟩ := List.mem_map.mp (List.mem_filter.mp hrule).1
    exact ⟨rfl, rfl⟩
  · obtain ⟨rules, hrules, hall⟩ := listRules_whole hwhole hindexed accountId
    refine ⟨_, by rw [hrules]; rfl, fun rule hrule => ?_⟩
    exact hall rule (List.mem_filter.mp hrule).1

/-! ## Runs -/

/-- **The rows are whole, and the rules of every account can be read, in every state that calls
reach just when no update of theirs comes to a row that is not there.** -/
theorem sound_always_iff (moves : List (CallerMove Call)) :
    Always (Callers.move requests) Sound Callers.start moves ↔
      EachFits (Callers.move requests) Callers.Finds Callers.start moves :=
  Callers.always_iff proper_requests
    (fun _ h => ⟨h.whole, rulesListed_of_whole h.whole h.items⟩) (fun _ h => h.whole) moves

/-! ## An update after a delete -/

def archiveRule : CreateRuleRequest :=
  ⟨⟨"Archive", none, some "", [⟨.archive, none⟩], some 2000, none⟩, none⟩

def renamed : UpdateRuleRequest := ⟨some "Old mail", none, none, none, none, none, none⟩

/-- The update has read the rule when the delete comes. -/
def racingMoves : List (CallerMove Call) :=
  [.begin (.createRule "acct" "rule-1" "2026-01-01T00:00:00.000Z" archiveRule), .send 0,
    .begin (.updateRule "acct" "rule-1" "2026-01-02T00:00:00.000Z" renamed false),
    .begin (.deleteRule "acct" "rule-1"), .send 1, .send 0]

def racedState : Callers RowKey Attr.Value :=
  racingMoves.foldl (Callers.move requests) Callers.start

/-- What is left has no id, so the rules of the account cannot be listed any more. -/
theorem racedState_unlisted :
    listEnabledRules racedState.table "acct" = .error startsWithError := by
  decide +kernel

theorem racingMoves_unsound : ¬ Always (Callers.move requests) Sound Callers.start racingMoves := by
  rintro ⟨-, -, -, -, -, -, hlast⟩
  obtain ⟨rules, hrules, -⟩ := hlast.rules "acct"
  cases hrules.symm.trans racedState_unlisted

end SesEmailAdapter.Database.ConfigRows
