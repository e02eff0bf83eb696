import SesEmailAdapter.Lib.Json
import SesEmailAdapter.Email.Address
import SesEmailAdapter.Processor.RuleOutcome

/-! # Rule conditions

A condition is a JSONLogic expression or JavaScript. What is JavaScript is told by the type of the
rule, and beside it by a prefix of the text; the two run in different engines. -/

namespace SesEmailAdapter.Processor.RuleEngine
open Lib
open SesEmailAdapter.Types Email.Address
open Processor.RuleOutcome (Rule)

inductive ConditionType
  | jsonLogic | js
deriving DecidableEq, Repr

inductive RuleStatus
  | enabled | disabled
deriving DecidableEq, Repr

structure StoredRule extends Rule where
  conditionType : Option ConditionType
  status : RuleStatus
  priorityOrder : Nat
  tags : Option Fields
  lastError : Option String
  createdAt : String
  updatedAt : String
deriving DecidableEq, Repr

structure Location where
  line : Nat
  column : Nat
deriving DecidableEq, Repr

inductive AstValidationResult
  | valid
  | invalid (error : String) (location : Option Location)
deriving DecidableEq, Repr

/-- The libraries behind the conditions. -/
structure Env where
  /-- An exception is its message. -/
  jsonLogicApply : Json → Json → Except String Json
  validateCodeAst : String → AstValidationResult

/-! ## Validation -/

def isJsPrefixed (condition : String) : Bool := "js:".toList.isPrefixOf condition.toList

/-- `condition.slice(3)` -/
def afterJsPrefix (condition : String) : String := String.ofList (condition.toList.drop 3)

/-- The message of what is wrong with a condition. -/
def validateRuleCondition (env : Env) (condition : String) : Option String :=
  if isJsPrefixed condition then
    if trim (afterJsPrefix condition).toList = [] then
      some "JS condition must contain code after the 'js:' prefix"
    else none
  else
    match Json.parse condition with
    | none => some "Condition is not valid JSON"
    | some .null => some "Condition must be a JSON object, boolean, number, or string"
    | some parsed =>
      match env.jsonLogicApply parsed (.obj []) with
      | .error message => some ("Invalid JSONLogic condition: " ++ message)
      | .ok _ => none

/-! ## Evaluation -/

inductive Engine
  | userCodeExecutor | quickJs
deriving DecidableEq, Repr

structure CodeRun where
  engine : Engine
  code : String
deriving DecidableEq, Repr

inductive Evaluation
  | ran (run : CodeRun)
  | matched (value : Bool)
  | threw
deriving DecidableEq, Repr

def evalCondition (env : Env) (condition : String) (ctx : Json) : Evaluation :=
  if ¬ isJsPrefixed condition then
    match Json.parse condition with
    | none => .threw
    | some parsed =>
      match env.jsonLogicApply parsed ctx with
      | .error _ => .threw
      | .ok value => .matched value.truthy
  else .ran ⟨.quickJs, afterJsPrefix condition⟩

def evaluate (env : Env) (rule : StoredRule) (ctx : Json) : Evaluation :=
  if rule.conditionType = some .js then .ran ⟨.userCodeExecutor, rule.condition⟩
  else evalCondition env rule.condition ctx

def StoredRule.isJs (rule : StoredRule) : Prop := rule.conditionType = some .js

end SesEmailAdapter.Processor.RuleEngine
