import Mathlib.Algebra.GroupWithZero.Nat
import SesEmailAdapter.Api.ThreadsApi
import SesEmailAdapter.Lib.Runs
import SesEmailAdapter.Processor.RuleEngine

/-! # The rules API

The requests that create and change rules. A condition is validated when it is written, by the type
that the rule has after the request. -/

namespace SesEmailAdapter.Api.RulesApi
open Lib
open SesEmailAdapter.Types Email.Address
open Api.ThreadsApi (ApiError internalError)
open Processor.RuleOutcome (Rule actionValue)
open Processor.RuleEngine

/-! ## System rules -/

/-- A JSON object with one member. -/
def member (name value : String) : String := "\x7b\"" ++ name ++ "\":" ++ value ++ "\x7d"

def quoted (text : String) : String := "\"" ++ text ++ "\""

def listOf (items : List String) : String := "[" ++ String.intercalate "," items ++ "]"

def var_ (path : String) : String := member "var" (quoted path)

def equals (a b : String) : String := member "==" (listOf [a, b])

def and_ (conditions : List String) : String := member "and" (listOf conditions)

def not_ (condition : String) : String := member "!" (listOf [condition])

def oneOf (value : String) (texts : List String) : String :=
  member "in" (listOf [value, listOf (texts.map quoted)])

def in_ (label : String) : String := member "in" (listOf [quoted label, var_ "thread.labels"])

def wf_ (workflow : String) : String := equals (var_ "signal.workflow") (quoted workflow)

def wfData_ (field : String) : String := var_ ("signal.workflowData." ++ field)

def signalField_ (field : String) : String := var_ ("signal." ++ field)

def systemRule (id name condition : String) (type : RuleActionType) (value : Option String)
    (priorityOrder : Nat) : StoredRule where
  id := id
  accountId := "SYSTEM"
  name := name
  condition := condition
  actions := [⟨type, value⟩]
  conditionType := none
  status := .enabled
  priorityOrder := priorityOrder
  tags := none
  lastError := none
  createdAt := ""
  updatedAt := ""

def SYSTEM_RULES : List StoredRule := [
  systemRule "SR-01" "Auto-approve sender on matched conversation"
    (and_ [wf_ "conversation", in_ "system:sender:untrusted", var_ "isMatchedThread"])
    .approveSender none 100,
  systemRule "SR-02" "Show onboarding emails with action URL in quarantine"
    (and_ [wf_ "onboarding", in_ "system:action"]) .quarantineVisible none 200,
  systemRule "SR-03" "Block onboarding emails" (wf_ "onboarding") .quarantineHidden none 300,
  systemRule "SR-04" "Block notice emails" (wf_ "notice") .blockHidden none 400,
  systemRule "SR-05" "Quarantine security alert emails" (in_ "system:auth:security_alert")
    .quarantineHidden none 500,
  systemRule "SR-06" "Suppress notification for content emails" (wf_ "content")
    .suppressNotification none 600,
  systemRule "SR-07" "Conversation: high urgency when reply needed and urgent/negative"
    (and_ [wf_ "conversation", equals (wfData_ "requiresReply") "true",
      oneOf (wfData_ "sentiment") ["urgent", "negative"]]) .setUrgency (some "high") 700,
  systemRule "SR-08" "Conversation: low urgency when user has never replied"
    (and_ [wf_ "conversation", not_ (in_ "system:replied")]) .setUrgency (some "low") 800,
  systemRule "SR-09" "CRM: normal urgency" (and_ [wf_ "crm"]) .setUrgency (some "normal") 900,
  systemRule "SR-10" "Support: critical urgency for urgent-priority tickets"
    (and_ [wf_ "support", equals (wfData_ "priority") (quoted "urgent")])
    .setUrgency (some "critical") 1000,
  systemRule "SR-11" "Support: high urgency for high-priority tickets"
    (and_ [wf_ "support", equals (wfData_ "priority") (quoted "high")])
    .setUrgency (some "high") 1100,
  systemRule "SR-12" "Support: high urgency when agent is awaiting response"
    (and_ [wf_ "support", equals (wfData_ "eventType") (quoted "awaiting_response")])
    .setUrgency (some "high") 1200,
  systemRule "SR-13" "Support: low urgency for low-priority tickets"
    (and_ [wf_ "support", equals (wfData_ "priority") (quoted "low"),
      not_ (in_ "system:replied")]) .setUrgency (some "low") 1300,
  systemRule "SR-14" "Support: low urgency for passive lifecycle events"
    (and_ [wf_ "support",
      oneOf (wfData_ "eventType") ["ticket_opened", "ticket_resolved", "ticket_closed"],
      not_ (in_ "system:replied")]) .setUrgency (some "low") 1400,
  systemRule "SR-16" "Forward calendar invite to user's real calendar"
    (equals (signalField_ "hasCalendarInvite") "true") .forwardCalendarInvite none 1600]

/-! ## Rows -/

def ruleKey (rule : StoredRule) : String × String := (rule.accountId, rule.id)

/-- What an account sets of a system rule. The row copies the rest from the code, where the rule is
read from. -/
structure SystemRuleOverride where
  accountId : String
  ruleId : String
  status : RuleStatus
  priorityOrder : Nat
deriving DecidableEq, Repr

def overrideKey (override : SystemRuleOverride) : String × String :=
  (override.accountId, override.ruleId)

structure Store where
  rules : KeyedTable ruleKey
  overrides : KeyedTable overrideKey

def withOverride (s : Store) (accountId : String) (rule : StoredRule) : StoredRule :=
  match s.overrides.get (accountId, rule.id) with
  | some override =>
    { rule with status := override.status, priorityOrder := override.priorityOrder }
  | none => rule

def byPriority (a b : StoredRule) : Bool := a.priorityOrder ≤ b.priorityOrder

def userRules (s : Store) (accountId : String) : List StoredRule :=
  s.rules.rows.filter fun rule =>
    rule.accountId = accountId ∧ ¬ "SR-".toList.isPrefixOf rule.id.toList

def listRules (s : Store) (accountId : String) : List StoredRule :=
  (SYSTEM_RULES.map (withOverride s accountId) ++ userRules s accountId).mergeSort byPriority

/-! ## Requests -/

structure CreateRuleRequest where
  name : String
  conditionType : Option ConditionType
  condition : Option String
  actions : List RuleAction
  priorityOrder : Option Nat
  tags : Option Fields
deriving DecidableEq, Repr

structure UpdateRuleRequest where
  name : Option String
  conditionType : Option ConditionType
  condition : Option String
  actions : Option (List RuleAction)
  priorityOrder : Option Nat
  status : Option RuleStatus
  tags : Option Fields
deriving DecidableEq, Repr

structure RuleApiError extends ApiError where
  /-- Where the validator found the error. -/
  location : Option Location
deriving DecidableEq, Repr

/-- What a request meets outside the rules themselves. -/
structure Outcomes where
  /-- The executor does not answer; its error is a message. -/
  validatorError : Option String
  /-- The list of the account's verified targets, if it can be read. -/
  verifiedTargets : Option (List String)
  listed : Bool
  write : Fate
deriving DecidableEq, Repr

def ruleError (status : Nat) (message code : String) : RuleApiError :=
  ⟨⟨status, message, some code⟩, none⟩

def ruleInternalError : RuleApiError := ⟨internalError, none⟩

def MAX_CODE_LENGTH : Nat := 10000

/-- `text.length`, in UTF-16 code units. -/
def codeUnits (text : String) : Nat :=
  (text.toList.map fun c => if 0x10000 ≤ c.toNat then 2 else 1).sum

/-- The error of `validateAst`, a message with a location. -/
def validateAst (env : Env) (o : Outcomes) (code : String) : Option (String × Option Location) :=
  match o.validatorError with
  | some message => some (message, none)
  | none =>
    if MAX_CODE_LENGTH < codeUnits code then
      some ("functionCode exceeds maximum length of 10000 characters", none)
    else
      match env.validateCodeAst code with
      | .valid => none
      | .invalid error location => some (error, location)

def missingCode : RuleApiError :=
  ruleError 400 "condition field is required when conditionType is 'js'" "MISSING_CODE"

def codeError (env : Env) (o : Outcomes) (condition : String) : Option RuleApiError :=
  if trim condition.toList = [] then some missingCode
  else (validateAst env o condition).map fun error =>
    ⟨⟨400, error.1, some "INVALID_CODE"⟩, error.2⟩

def expressionError (env : Env) (condition : String) : Option RuleApiError :=
  if condition = "" then none
  else (validateRuleCondition env condition).map fun message =>
    ruleError 400 message "INVALID_CONDITION"

def validateForwardTargets (o : Outcomes) (actions : List RuleAction) : Option RuleApiError :=
  let forwardTargets := (actions.filter fun action => action.type = .forward).filterMap actionValue
  let error (message : String) := ruleError 400 message "UNVERIFIED_FORWARD_TARGET"
  if forwardTargets = [] then none
  else match o.verifiedTargets with
    | none => some (error "Internal error validating forward targets")
    | some verified =>
      let unverified := forwardTargets.filter fun target => target ∉ verified
      if unverified = [] then none
      else some (error ("Forward targets not verified: " ++ String.intercalate ", " unverified))

/-- The store after a write of `next`, and whether it is reported. -/
def written (o : Outcomes) (rule : StoredRule) (s next : Store) :
    Except RuleApiError StoredRule × Store :=
  match o.write with
  | .done => (.ok rule, next)
  | .refused => (.error ruleInternalError, s)
  | .lost => (.error ruleInternalError, next)

def Store.putRule (s : Store) (rule : StoredRule) : Store := { s with rules := s.rules.put rule }

/-! ### Create -/

def createError (env : Env) (o : Outcomes) (body : CreateRuleRequest) : Option RuleApiError :=
  (if body.conditionType.getD .jsonLogic = .js then
    match body.condition with
    | none => some missingCode
    | some condition => codeError env o condition
  else body.condition.bind (expressionError env)) <|>
    validateForwardTargets o body.actions

def nextPriority (rules : List StoredRule) : Nat :=
  match (rules.map StoredRule.priorityOrder).max? with
  | some highest => highest + 1
  | none => 1801

def newRule (s : Store) (accountId id now : String) (body : CreateRuleRequest) : StoredRule where
  id := id
  accountId := accountId
  name := body.name
  condition := body.condition.getD ""
  actions := body.actions
  conditionType := body.conditionType
  status := .enabled
  priorityOrder := body.priorityOrder.getD (nextPriority (userRules s accountId))
  tags := body.tags
  lastError := none
  createdAt := now
  updatedAt := now

def createRule (env : Env) (o : Outcomes) (accountId id now : String) (body : CreateRuleRequest)
    (s : Store) : Except RuleApiError StoredRule × Store :=
  match createError env o body with
  | some error => (.error error, s)
  | none =>
    if ¬ o.listed then (.error ruleInternalError, s)
    else
      let rule := newRule s accountId id now body
      written o rule s (s.putRule rule)

/-! ### Update -/

def effectiveConditionType (rule : StoredRule) (body : UpdateRuleRequest) : ConditionType :=
  (body.conditionType <|> rule.conditionType).getD .jsonLogic

def updateError (env : Env) (o : Outcomes) (rule : StoredRule) (body : UpdateRuleRequest) :
    Option RuleApiError :=
  (if effectiveConditionType rule body = .js then
    match body.condition with
    | some condition => codeError env o condition
    | none =>
      if body.conditionType = some .js ∧ rule.condition = "" then some missingCode else none
  else body.condition.bind (expressionError env)) <|>
    body.actions.bind (validateForwardTargets o)

def updated (now : String) (rule : StoredRule) (body : UpdateRuleRequest) : StoredRule :=
  { rule with
    name := body.name.getD rule.name
    condition := body.condition.getD rule.condition
    conditionType := body.conditionType <|> rule.conditionType
    actions := body.actions.getD rule.actions
    priorityOrder := body.priorityOrder.getD rule.priorityOrder
    status := body.status.getD rule.status
    tags := body.tags <|> rule.tags
    lastError :=
      if effectiveConditionType rule body = .js ∧ body.condition.isSome then none
      else rule.lastError
    updatedAt := now }

/-- The body changes nothing but `status` and `priorityOrder`. -/
def onlyOverrides (body : UpdateRuleRequest) : Bool :=
  body.name.isNone ∧ body.conditionType.isNone ∧ body.condition.isNone ∧ body.actions.isNone ∧
    body.tags.isNone

def systemRuleImmutable : RuleApiError :=
  ruleError 403 "System rules can only be enabled/disabled or reordered" "SYSTEM_RULE_IMMUTABLE"

/-- The override keeps what an earlier one has set. -/
def overridden (s : Store) (accountId : String) (rule : StoredRule) (body : UpdateRuleRequest) :
    SystemRuleOverride :=
  let existing := s.overrides.get (accountId, rule.id)
  { accountId := accountId
    ruleId := rule.id
    status := (body.status <|> existing.map SystemRuleOverride.status).getD rule.status
    priorityOrder :=
      (body.priorityOrder <|> existing.map SystemRuleOverride.priorityOrder).getD
        rule.priorityOrder }

def upsertSystemRuleOverride (o : Outcomes) (accountId : String) (rule : StoredRule)
    (body : UpdateRuleRequest) (s : Store) : Except RuleApiError StoredRule × Store :=
  match SYSTEM_RULES.find? fun system => system.id = rule.id with
  | none => (.error ruleInternalError, s)
  | some system =>
    written o
      { rule with
        status := body.status.getD rule.status
        priorityOrder := body.priorityOrder.getD rule.priorityOrder }
      s { s with overrides := s.overrides.put (overridden s accountId system body) }

def updateRule (env : Env) (o : Outcomes) (accountId ruleId now : String) (body : UpdateRuleRequest)
    (s : Store) : Except RuleApiError StoredRule × Store :=
  if ¬ o.listed then (.error ruleInternalError, s)
  else
    match (listRules s accountId).find? fun rule => rule.id = ruleId with
    | none => (.error (ruleError 404 "Rule not found" "RULE_NOT_FOUND"), s)
    | some rule =>
      if rule.accountId = "SYSTEM" then
        if ¬ onlyOverrides body ∨ (body.status.isNone ∧ body.priorityOrder.isNone) then
          (.error systemRuleImmutable, s)
        else upsertSystemRuleOverride o accountId rule body s
      else
        match updateError env o rule body with
        | some error => (.error error, s)
        | none => written o (updated now rule body) s (s.putRule (updated now rule body))

/-! ## Runs -/

inductive Request
  | create (accountId id now : String) (body : CreateRuleRequest) (o : Outcomes)
  | update (accountId ruleId now : String) (body : UpdateRuleRequest) (o : Outcomes)

def step (env : Env) (s : Store) : Request → Store
  | .create accountId id now body o => (createRule env o accountId id now body s).2
  | .update accountId ruleId now body o => (updateRule env o accountId ruleId now body s).2

variable {env : Env} {s : Store} {o : Outcomes} {rule : StoredRule}

/-- The write reaches the table. -/
def Outcomes.Reached (o : Outcomes) : Prop := o.write ≠ .refused

/-- The condition has not the prefix that marks code in a JSONLogic rule. -/
def Unprefixed (condition : Option String) : Prop :=
  ∀ text, condition = some text → isJsPrefixed text = false

variable {accountId id now : String}

variable {body : UpdateRuleRequest}

/-- A change of a rule that leaves it validated: a JSONLogic rule gets no condition with a prefix,
and where the type is switched without a condition, the one that is there suits the new type. -/
structure Suits (env : Env) (rule : StoredRule) (body : UpdateRuleRequest) : Prop where
  unprefixed : effectiveConditionType rule body = .jsonLogic → Unprefixed body.condition
  toJs : effectiveConditionType rule body = .js → ¬ rule.isJs → body.condition = none →
    env.validateCodeAst rule.condition = .valid
  toJsonLogic : effectiveConditionType rule body = .jsonLogic → rule.isJs →
    body.condition = none →
      isJsPrefixed rule.condition = false ∧ validateRuleCondition env rule.condition = none

/-- The request, where it gets as far as the write, keeps clear of the two gaps of the checks. -/
def Fits (env : Env) (s : Store) : Request → Prop
  | .create _ _ _ body o => createError env o body = none → o.listed → o.Reached →
      body.conditionType.getD .jsonLogic = .jsonLogic → Unprefixed body.condition
  | .update accountId ruleId _ body o => o.listed → o.Reached →
      ∀ rule, (listRules s accountId).find? (fun rule => rule.id = ruleId) = some rule →
        rule.accountId ≠ "SYSTEM" → updateError env o rule body = none → Suits env rule body

def noRules : Store := ⟨.empty, .empty⟩

/-- A validator that takes nothing, and expressions that are all false. -/
def strictEnv : Env := ⟨fun _ _ => .ok (.bool false), fun _ => .invalid "not allowed" none⟩

def fineOutcomes : Outcomes := ⟨none, some [], true, .done⟩

def renamed : UpdateRuleRequest := ⟨some "Old mail", none, none, none, none, none, none⟩

end SesEmailAdapter.Api.RulesApi
