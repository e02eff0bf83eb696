import SesEmailAdapter.Types

/-! # The outcome of rules

What a matching rule contributes to the list of matched rules, and the outcome that the list
stands for. The first status and the first urgency win. -/

namespace SesEmailAdapter.Processor.RuleOutcome
open SesEmailAdapter.Types

structure Rule where
  id : String
  accountId : String
  name : String
  condition : String
  actions : List RuleAction
deriving DecidableEq, Repr

structure RuleEvalResult where
  matched : Bool
  dynamicActions : List RuleAction
  warnings : List String
deriving DecidableEq, Repr

/-! ## Matched rules -/

def actionValue (action : RuleAction) : Option String := action.value.filter (· ≠ "")

def labelsOf (actions : List RuleAction) : List String :=
  (actions.filter fun a => a.type = .assignLabel).filterMap actionValue

def hasAction (actions : List RuleAction) (type : RuleActionType) : Bool :=
  actions.any fun a => a.type = type

def statusChangeOf (actions : List RuleAction) : Option StatusChange :=
  if hasAction actions .blockReject then some .blockReject
  else if hasAction actions .blockHidden then some .blockHidden
  else if hasAction actions .quarantineHidden then some .quarantineHidden
  else if hasAction actions .quarantineVisible then some .quarantineVisible
  else if hasAction actions .archive then some .archived
  else none

/-- `STATUS_ACTION_TYPES` -/
def isStatusAction : RuleActionType → Bool
  | .blockReject => true
  | .blockHidden => true
  | .quarantineHidden => true
  | .quarantineVisible => true
  | .archive => true
  | _ => false

/-- What a rule that matched adds to the matched rules; nothing when an earlier one has set the
status and this one only changes the status. -/
def matchedRule (matchedRules : List MatchedRuleResult) (rule : Rule) (result : RuleEvalResult) :
    Option MatchedRuleResult :=
  let actions := rule.actions ++ result.dynamicActions
  let labelsAdded := labelsOf actions
  let statusChange := statusChangeOf actions
  if matchedRules.any (fun r => r.statusChange.isSome) ∧ statusChange.isSome ∧ labelsAdded = [] ∧
      actions.all (fun a => isStatusAction a.type) then none
  else some ⟨rule.id, actions, labelsAdded, statusChange, none⟩

/-- The workflow that a matched rule assigns. -/
def assignedWorkflow (actions : List RuleAction) : Option Workflow :=
  ((actions.find? fun a => a.type = .assignWorkflow).bind actionValue).map Workflow.ofText

/-- The last assignment among all matched rules. -/
def finalWorkflow (matchedRules : List MatchedRuleResult) : Option Workflow :=
  (((matchedRules.flatMap MatchedRuleResult.actions).reverse.find? fun a =>
    a.type = .assignWorkflow ∧ (actionValue a).isSome).bind actionValue).map Workflow.ofText

def hasForwardCalendarInvite (matchedRules : List MatchedRuleResult) : Bool :=
  matchedRules.any fun r => hasAction r.actions .forwardCalendarInvite

/-- The rule that calendar processing adds for the side effects. -/
def calendarForwardRule : MatchedRuleResult :=
  ⟨"SR-19", [⟨.forwardCalendarInvite, none⟩], [], none, none⟩

/-! ## The outcome -/

structure ProcessingOutcome where
  blockDisposition : Option SignalStatus
  quarantine : Bool
  quarantineHidden : Bool
  approveSender : Bool
  archive : Bool
  urgency : Option ThreadUrgency
  suppressNotification : Bool
  forwardAddresses : List String
  additionalLabels : List String
deriving DecidableEq, Repr

def emptyOutcome : ProcessingOutcome := ⟨none, false, false, false, false, none, false, [], []⟩

/-- Some action has determined the status. -/
def ProcessingOutcome.statusSet (outcome : ProcessingOutcome) : Bool :=
  outcome.blockDisposition.isSome || outcome.quarantine || outcome.archive

def applyAction (outcome : ProcessingOutcome) (action : RuleAction) : ProcessingOutcome :=
  match action.type with
  | .blockHidden =>
    if outcome.statusSet then outcome
    else { outcome with blockDisposition := some .blockHidden }
  | .blockReject =>
    if outcome.statusSet then outcome
    else { outcome with blockDisposition := some .blockReject }
  | .quarantineVisible =>
    if outcome.statusSet then outcome else { outcome with quarantine := true }
  | .quarantineHidden =>
    if outcome.statusSet then outcome
    else { outcome with quarantine := true, quarantineHidden := true }
  | .archive => if outcome.statusSet then outcome else { outcome with archive := true }
  | .approveSender => { outcome with approveSender := true }
  | .suppressNotification => { outcome with suppressNotification := true }
  | .setUrgency => match actionValue action with
    | none => outcome
    | some value =>
      { outcome with urgency := outcome.urgency <|> some (ThreadUrgency.ofText value) }
  | .assignLabel =>
    { outcome with additionalLabels := outcome.additionalLabels ++ (actionValue action).toList }
  | .forward =>
    { outcome with forwardAddresses := outcome.forwardAddresses ++ (actionValue action).toList }
  | _ => outcome

def deriveOutcome (matchedRules : List MatchedRuleResult) : ProcessingOutcome :=
  (matchedRules.flatMap MatchedRuleResult.actions).foldl applyAction emptyOutcome

/-- The targets an outcome forwards to are the values of the forward actions. -/
theorem forwardAddresses_foldl (actions : List RuleAction) (outcome : ProcessingOutcome) :
    (actions.foldl applyAction outcome).forwardAddresses =
      outcome.forwardAddresses ++
        (actions.filter fun a => a.type = .forward).filterMap actionValue := by
  induction actions generalizing outcome with
  | nil => simp
  | cons action actions ih =>
    rw [List.foldl_cons, ih]
    cases htype : action.type <;> simp only [applyAction, htype, List.filter_cons] <;>
      first
        | rfl
        | (split <;> rfl)
        | (cases hvalue : actionValue action <;> simp [hvalue])

end SesEmailAdapter.Processor.RuleOutcome
