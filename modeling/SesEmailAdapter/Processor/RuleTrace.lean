import SesEmailAdapter.Processor.RuleActions

/-! # The trace of rules and their outcome

The matched rules are kept as a trace, from which redundant ones are left out. The trace records for
a rule the most severe status among its actions; the outcome takes the first one in the list. -/

namespace SesEmailAdapter.Processor.RuleTrace
open SesEmailAdapter.Types Processor.RuleOutcome
open Processor.RuleActions (applyResults)

/-! ## Status actions -/

/-- The status that an action asks for. -/
def dispositionOf : RuleActionType → Option StatusChange
  | .blockReject => some .blockReject
  | .blockHidden => some .blockHidden
  | .quarantineHidden => some .quarantineHidden
  | .quarantineVisible => some .quarantineVisible
  | .archive => some .archived
  | _ => none

/-- The place of a status action in the order in which a rule's status is recorded. -/
def severity : RuleActionType → Nat
  | .blockReject => 5
  | .blockHidden => 4
  | .quarantineHidden => 3
  | .quarantineVisible => 2
  | .archive => 1
  | _ => 0

def isStatus (action : RuleAction) : Bool := isStatusAction action.type

/-- The status of the first status action of the list. -/
def firstStatus (actions : List RuleAction) : Option StatusChange :=
  actions.findSome? fun a => dispositionOf a.type

/-- The urgency that an action sets. -/
def urgencyOf (action : RuleAction) : Option ThreadUrgency :=
  if action.type = .setUrgency then (actionValue action).map ThreadUrgency.ofText else none

/-- The urgency of the first action that sets one. -/
def firstUrgency (actions : List RuleAction) : Option ThreadUrgency := actions.findSome? urgencyOf

def forwardsOf (actions : List RuleAction) : List String :=
  (actions.filter fun a => a.type = .forward).filterMap actionValue

variable {actions : List RuleAction} {action : RuleAction} {outcome : ProcessingOutcome}
  {matchedRules : List MatchedRuleResult} {evaluations : List (Rule × RuleEvalResult)}

theorem isStatus_iff : isStatus action = true ↔ (dispositionOf action.type).isSome := by
  rw [isStatus]
  cases action.type <;> simp [isStatusAction, dispositionOf]

theorem severity_pos_iff : 0 < severity action.type ↔ isStatus action = true := by
  rw [isStatus]
  cases action.type <;> simp [isStatusAction, severity]

theorem firstStatus_eq (actions : List RuleAction) :
    firstStatus actions = (actions.find? isStatus).bind fun a => dispositionOf a.type := by
  induction actions with
  | nil => rfl
  | cons action actions ih =>
    rw [firstStatus, List.findSome?_cons, List.find?_cons]
    by_cases h : isStatus action = true
    · obtain ⟨status, hstatus⟩ := Option.isSome_iff_exists.mp (isStatus_iff.mp h)
      simp [h, hstatus]
    · have hnone : dispositionOf action.type = none := by
        rw [isStatus_iff] at h
        simpa using h
      rw [hnone, Bool.eq_false_iff.mpr h]
      exact ih

theorem firstStatus_isSome : (firstStatus actions).isSome = actions.any isStatus := by
  rw [Bool.eq_iff_iff, firstStatus, List.findSome?_isSome_iff, List.any_eq_true]
  simp only [isStatus_iff]

theorem statusChangeOf_isSome (actions : List RuleAction) :
    (statusChangeOf actions).isSome = actions.any isStatus := by
  rw [Bool.eq_iff_iff, List.any_eq_true]
  constructor
  · intro h
    have hexists : ∃ type, hasAction actions type = true ∧ isStatusAction type = true := by
      unfold statusChangeOf at h
      split at h
      · exact ⟨_, ‹_›, rfl⟩
      split at h
      · exact ⟨_, ‹_›, rfl⟩
      split at h
      · exact ⟨_, ‹_›, rfl⟩
      split at h
      · exact ⟨_, ‹_›, rfl⟩
      split at h
      · exact ⟨_, ‹_›, rfl⟩
      · cases h
    obtain ⟨type, hhas, hstatus⟩ := hexists
    obtain ⟨a, ha, htype⟩ := List.any_eq_true.mp hhas
    rw [decide_eq_true_eq] at htype
    exact ⟨a, ha, by rw [isStatus, htype, hstatus]⟩
  · rintro ⟨a, ha, hstatus⟩
    have hhas : hasAction actions a.type = true :=
      List.any_eq_true.mpr ⟨a, ha, decide_eq_true rfl⟩
    unfold statusChangeOf
    split
    · rfl
    split
    · rfl
    split
    · rfl
    split
    · rfl
    split
    · rfl
    · rw [isStatus] at hstatus
      cases htype : a.type <;> simp_all [isStatusAction]

/-- The order in which the status of a rule is looked for. -/
def severityOrder : List RuleActionType :=
  [.blockReject, .blockHidden, .quarantineHidden, .quarantineVisible, .archive]

theorem statusChangeOf_eq (actions : List RuleAction) :
    statusChangeOf actions = (severityOrder.find? (hasAction actions)).bind dispositionOf := by
  simp only [statusChangeOf, severityOrder, List.find?_cons, List.find?_nil]
  cases hasAction actions .blockReject
  · cases hasAction actions .blockHidden
    · cases hasAction actions .quarantineHidden
      · cases hasAction actions .quarantineVisible
        · cases hasAction actions .archive <;> rfl
        · rfl
      · rfl
    · rfl
  · rfl

theorem mem_before {before after : List RuleActionType} {type other : RuleActionType}
    (h : severityOrder = before ++ type :: after) (hlt : severity type < severity other) :
    other ∈ before := by
  have hsorted : severityOrder.Pairwise fun a b => severity b < severity a := by decide
  have hmem : other ∈ severityOrder := by
    have hpos : 0 < severity other := by omega
    revert hpos
    cases other <;> decide
  rw [h] at hsorted hmem
  obtain hin | hin := List.mem_append.mp hmem
  · exact hin
  · obtain rfl | hin := List.mem_cons.mp hin
    · omega
    · have := List.rel_of_pairwise_cons (List.pairwise_append.mp hsorted).2.1 hin
      omega

/-- The status recorded for a rule is that of a most severe action. -/
theorem mostSevere_of_statusChangeOf {status : StatusChange}
    (h : statusChangeOf actions = some status) :
    ∃ a ∈ actions, dispositionOf a.type = some status ∧
      ∀ b ∈ actions, severity b.type ≤ severity a.type := by
  rw [statusChangeOf_eq] at h
  obtain ⟨type, hfind, hstatus⟩ := Option.bind_eq_some_iff.mp h
  obtain ⟨hhas, before, after, horder, hbefore⟩ := List.find?_eq_some_iff_append.mp hfind
  obtain ⟨a, ha, htype⟩ := List.any_eq_true.mp hhas
  rw [decide_eq_true_eq] at htype
  subst htype
  refine ⟨a, ha, hstatus, fun b hb => ?_⟩
  by_contra hle
  have hnot := hbefore b.type (mem_before horder (by omega))
  have hin : hasAction actions b.type = true := List.any_eq_true.mpr ⟨b, hb, decide_eq_true rfl⟩
  rw [hin] at hnot
  cases hnot

theorem type_of_disposition {a b : RuleActionType} {status : StatusChange}
    (ha : dispositionOf a = some status) (hb : dispositionOf b = some status) : a = b := by
  cases a <;> cases ha <;> cases b <;> first | rfl | cases hb

theorem type_of_severity {a b : RuleActionType} (ha : 0 < severity a)
    (h : severity a = severity b) : a = b := by
  cases a <;> cases b <;> first | rfl | simp_all [severity]

/-- The first status action of a rule is a most severe one. -/
def SevereFirst (actions : List RuleAction) : Prop :=
  ∀ first, actions.find? isStatus = some first →
    ∀ a ∈ actions, severity a.type ≤ severity first.type

theorem statusChangeOf_eq_iff (actions : List RuleAction) :
    statusChangeOf actions = firstStatus actions ↔ SevereFirst actions := by
  rw [firstStatus_eq]
  cases hfind : actions.find? isStatus with
  | none =>
    have hnone : statusChangeOf actions = none := by
      rw [← Option.isNone_iff_eq_none, ← Option.not_isSome, statusChangeOf_isSome, Bool.not_eq_true',
        ← Bool.not_eq_true, List.any_eq_true]
      rintro ⟨a, ha, hstatus⟩
      exact List.find?_eq_none.mp hfind a ha hstatus
    rw [hnone]
    exact iff_of_true rfl fun first hfirst => by rw [hfind] at hfirst; cases hfirst
  | some first =>
    have hfirst := List.find?_some hfind
    have hmem := List.mem_of_find?_eq_some hfind
    have hsome : (statusChangeOf actions).isSome = true := by
      rw [statusChangeOf_isSome]
      exact List.any_eq_true.mpr ⟨first, hmem, hfirst⟩
    obtain ⟨status, hstatus⟩ := Option.isSome_iff_exists.mp hsome
    obtain ⟨a, ha, hof, hmax⟩ := mostSevere_of_statusChangeOf hstatus
    rw [hstatus, Option.bind_some]
    constructor
    · intro heq other hother
      rw [hfind] at hother
      obtain rfl := Option.some.inj hother
      rw [type_of_disposition heq.symm hof]
      exact hmax
    · intro hsevere
      have hle := hsevere first hfind a ha
      have htype : first.type = a.type :=
        type_of_severity (severity_pos_iff.mpr hfirst) (le_antisymm (hmax first hmem) hle)
      rw [htype, hof]

/-! ## What the outcome applies -/

/-- The part of an outcome that its first status action decides. -/
structure StatusPart where
  blockDisposition : Option SignalStatus
  quarantine : Bool
  quarantineHidden : Bool
  archive : Bool
deriving DecidableEq

def statusPart (outcome : ProcessingOutcome) : StatusPart :=
  ⟨outcome.blockDisposition, outcome.quarantine, outcome.quarantineHidden, outcome.archive⟩

def statusPartOf : Option StatusChange → StatusPart
  | some .blockReject => ⟨some .blockReject, false, false, false⟩
  | some .blockHidden => ⟨some .blockHidden, false, false, false⟩
  | some .quarantineHidden => ⟨none, true, true, false⟩
  | some .quarantineVisible => ⟨none, true, false, false⟩
  | some .archived => ⟨none, false, false, true⟩
  | _ => ⟨none, false, false, false⟩

/-- The disposition that an outcome applies. -/
def applied (outcome : ProcessingOutcome) : Option StatusChange :=
  if outcome.blockDisposition = some .blockReject then some .blockReject
  else if outcome.blockDisposition = some .blockHidden then some .blockHidden
  else if outcome.quarantineHidden then some .quarantineHidden
  else if outcome.quarantine then some .quarantineVisible
  else if outcome.archive then some .archived
  else none

theorem statusSet_eq (outcome : ProcessingOutcome) : outcome.statusSet =
    ((statusPart outcome).blockDisposition.isSome || (statusPart outcome).quarantine ||
      (statusPart outcome).archive) := rfl

/-- The status is decided once. -/
theorem statusPart_applyAction_of_set (h : outcome.statusSet = true) (action : RuleAction) :
    statusPart (applyAction outcome action) = statusPart outcome := by
  unfold applyAction
  cases action.type <;> simp only [h, if_true] <;> try rfl
  cases actionValue action <;> rfl

theorem statusPart_applyAction (h : outcome.statusSet = false) (hhidden : outcome.quarantineHidden =
    false) (action : RuleAction) :
    statusPart (applyAction outcome action) = statusPartOf (dispositionOf action.type) := by
  obtain ⟨⟨hblock, hquarantine⟩, harchive⟩ : (outcome.blockDisposition = none ∧
      outcome.quarantine = false) ∧ outcome.archive = false := by
    simpa [ProcessingOutcome.statusSet] using h
  unfold applyAction
  cases action.type <;> simp only [h] <;>
    try simp [statusPart, statusPartOf, dispositionOf, hblock, hquarantine, hhidden, harchive]
  cases actionValue action <;> simp [hblock, hquarantine, hhidden, harchive]

theorem statusSet_of_statusPart {other : ProcessingOutcome}
    (h : statusPart other = statusPart outcome) : other.statusSet = outcome.statusSet := by
  rw [statusSet_eq, statusSet_eq, h]

theorem statusPart_foldl_of_set (actions : List RuleAction) (h : outcome.statusSet = true) :
    statusPart (actions.foldl applyAction outcome) = statusPart outcome := by
  induction actions generalizing outcome with
  | nil => rfl
  | cons action actions ih =>
    have hpart := statusPart_applyAction_of_set h action
    rw [List.foldl_cons, ih ((statusSet_of_statusPart hpart).trans h), hpart]

/-- The first status action decides the status. -/
theorem statusPart_foldl (actions : List RuleAction)
    (h : statusPart outcome = statusPartOf none) :
    statusPart (actions.foldl applyAction outcome) = statusPartOf (firstStatus actions) := by
  induction actions generalizing outcome with
  | nil => exact h
  | cons action actions ih =>
    have hset : outcome.statusSet = false := by
      rw [statusSet_eq, h]
      rfl
    have hpart := statusPart_applyAction hset (congrArg StatusPart.quarantineHidden h) action
    rw [List.foldl_cons, firstStatus, List.findSome?_cons]
    cases hstatus : dispositionOf action.type with
    | none =>
      rw [hstatus] at hpart
      exact ih hpart
    | some status =>
      rw [hstatus] at hpart
      rw [statusPart_foldl_of_set, hpart]
      rw [statusSet_eq, hpart]
      cases htype : action.type <;> rw [htype] at hstatus <;> cases hstatus <;> rfl

theorem applied_of_statusPart {status : Option StatusChange}
    (h : statusPart outcome = statusPartOf status)
    (hstatus : ∀ change, status = some change → ∃ type, dispositionOf type = some change) :
    applied outcome = status := by
  obtain ⟨hblock, hquarantine, hhidden, harchive⟩ := StatusPart.mk.inj h
  rw [applied, hblock, hquarantine, hhidden, harchive]
  cases status with
  | none => rfl
  | some change =>
    obtain ⟨type, htype⟩ := hstatus change rfl
    cases type <;> cases htype <;> rfl

theorem applied_deriveOutcome (matchedRules : List MatchedRuleResult) :
    applied (deriveOutcome matchedRules) =
      firstStatus (matchedRules.flatMap MatchedRuleResult.actions) := by
  refine applied_of_statusPart (statusPart_foldl _ rfl) fun change hchange => ?_
  obtain ⟨action, -, haction⟩ := List.exists_of_findSome?_eq_some hchange
  exact ⟨action.type, haction⟩

theorem statusSet_foldl (actions : List RuleAction) (h : statusPart outcome = statusPartOf none) :
    (actions.foldl applyAction outcome).statusSet = actions.any isStatus := by
  rw [statusSet_eq, statusPart_foldl actions h, ← firstStatus_isSome]
  cases hstatus : firstStatus actions with
  | none => rfl
  | some status =>
    obtain ⟨action, -, haction⟩ := List.exists_of_findSome?_eq_some hstatus
    cases htype : action.type <;> rw [htype] at haction <;> cases haction <;> rfl

/-- Status actions change nothing once the status is decided. -/
theorem foldl_redundant (actions : List RuleAction) (h : outcome.statusSet = true)
    (hall : actions.all isStatus = true) : actions.foldl applyAction outcome = outcome := by
  induction actions with
  | nil => rfl
  | cons action actions ih =>
    rw [List.all_cons, Bool.and_eq_true] at hall
    have hsame : applyAction outcome action = outcome := by
      have hstatus := hall.1
      unfold applyAction
      rw [isStatus] at hstatus
      cases htype : action.type <;> simp_all [isStatusAction]
    rw [List.foldl_cons, hsame]
    exact ih hall.2

/-! ## Urgency, labels and forwards -/

theorem urgency_applyAction (outcome : ProcessingOutcome) (action : RuleAction) :
    (applyAction outcome action).urgency = outcome.urgency.or (urgencyOf action) := by
  unfold applyAction urgencyOf
  cases htype : action.type <;> simp only [reduceCtorEq, if_false, if_true, Option.or_none] <;>
    first
      | rfl
      | (split <;> rfl)
      | (cases actionValue action <;> cases outcome.urgency <;> rfl)

theorem urgency_foldl (actions : List RuleAction) (outcome : ProcessingOutcome) :
    (actions.foldl applyAction outcome).urgency = outcome.urgency.or (firstUrgency actions) := by
  induction actions generalizing outcome with
  | nil => exact (Option.or_none).symm
  | cons action actions ih =>
    rw [List.foldl_cons, ih, urgency_applyAction, Option.or_assoc]
    unfold firstUrgency
    rw [List.findSome?_cons]
    cases urgencyOf action <;> rfl

theorem labels_foldl (actions : List RuleAction) (outcome : ProcessingOutcome) :
    (actions.foldl applyAction outcome).additionalLabels =
      outcome.additionalLabels ++ labelsOf actions := by
  induction actions generalizing outcome with
  | nil => simp [labelsOf]
  | cons action actions ih =>
    rw [List.foldl_cons, ih]
    cases htype : action.type <;> simp only [applyAction, htype, labelsOf, List.filter_cons] <;>
      first
        | rfl
        | (split <;> rfl)
        | (cases hvalue : actionValue action <;> simp [hvalue])

/-! ## What is left out -/

def actionsOf (e : Rule × RuleEvalResult) : List RuleAction := e.1.actions ++ e.2.dynamicActions

/-- What a rule adds to the trace when it is not left out. -/
def entryOf (e : Rule × RuleEvalResult) : MatchedRuleResult :=
  ⟨e.1.id, actionsOf e, labelsOf (actionsOf e), statusChangeOf (actionsOf e), none⟩

/-- The entries of all rules that matched, the redundant ones too. -/
def entries (evaluations : List (Rule × RuleEvalResult)) : List MatchedRuleResult :=
  (evaluations.filter fun e => e.2.matched).map entryOf

theorem entries_cons (e : Rule × RuleEvalResult) (evaluations : List (Rule × RuleEvalResult)) :
    entries (e :: evaluations) =
      if e.2.matched then entryOf e :: entries evaluations else entries evaluations := by
  simp only [entries, List.filter_cons]
  split <;> rfl

/-- The trace that is stored. -/
def trace (evaluations : List (Rule × RuleEvalResult)) : List MatchedRuleResult :=
  applyResults evaluations []

/-- The entry has a status. -/
def decides (entry : MatchedRuleResult) : Bool := entry.statusChange.isSome

/-- The entry records the labels and the status of its actions. -/
structure Recorded (entry : MatchedRuleResult) : Prop where
  labels : entry.labelsAdded = labelsOf entry.actions
  status : entry.statusChange = statusChangeOf entry.actions

theorem recorded_entryOf (e : Rule × RuleEvalResult) : Recorded (entryOf e) := ⟨rfl, rfl⟩

variable {entry : MatchedRuleResult}

theorem decides_eq (h : Recorded entry) :
    decides entry = entry.actions.any isStatus := by
  rw [decides, h.status, statusChangeOf_isSome]

/-- A rule is left out where an earlier one decided the status and it has status actions only. -/
theorem matchedRule_eq (matchedRules : List MatchedRuleResult) (e : Rule × RuleEvalResult) :
    matchedRule matchedRules e.1 e.2 = some (entryOf e) ∨
      (matchedRule matchedRules e.1 e.2 = none ∧ matchedRules.any decides = true ∧
        (actionsOf e).all isStatus = true) := by
  unfold matchedRule
  dsimp only
  split
  · next h => exact .inr ⟨rfl, h.1, h.2.2.2⟩
  · exact .inl rfl

theorem recorded_trace (hbefore : ∀ entry ∈ matchedRules, Recorded entry)
    (h : entry ∈ applyResults evaluations matchedRules) : Recorded entry := by
  induction evaluations generalizing matchedRules with
  | nil => exact hbefore entry h
  | cons e evaluations ih =>
    unfold applyResults at h
    split at h
    · exact ih hbefore h
    · refine ih (fun other hother => ?_) h
      obtain hother | hother := List.mem_append.mp hother
      · exact hbefore other hother
      · obtain hentry | ⟨hnone, -, -⟩ := matchedRule_eq matchedRules e
        · rw [hentry] at hother
          rw [List.mem_singleton.mp hother]
          exact recorded_entryOf e
        · rw [hnone] at hother
          cases hother

theorem statusSet_deriveOutcome (h : ∀ entry ∈ matchedRules, Recorded entry) :
    (deriveOutcome matchedRules).statusSet = matchedRules.any decides := by
  rw [deriveOutcome, statusSet_foldl _ rfl, List.any_flatMap, Bool.eq_iff_iff, List.any_eq_true,
    List.any_eq_true]
  constructor
  · rintro ⟨entry, hentry, hstatus⟩
    exact ⟨entry, hentry, (decides_eq (h entry hentry)).trans hstatus⟩
  · rintro ⟨entry, hentry, hstatus⟩
    exact ⟨entry, hentry, (decides_eq (h entry hentry)).symm.trans hstatus⟩

theorem deriveOutcome_append (first second : List MatchedRuleResult) :
    deriveOutcome (first ++ second) =
      (second.flatMap MatchedRuleResult.actions).foldl applyAction (deriveOutcome first) := by
  rw [deriveOutcome, List.flatMap_append, List.foldl_append, deriveOutcome]

/-- Rules that are left out change nothing of the outcome. -/
theorem deriveOutcome_applyResults (hbefore : ∀ entry ∈ matchedRules, Recorded entry) :
    deriveOutcome (applyResults evaluations matchedRules) =
      deriveOutcome (matchedRules ++ entries evaluations) := by
  induction evaluations generalizing matchedRules with
  | nil => rw [applyResults, entries, List.filter_nil, List.map_nil, List.append_nil]
  | cons e evaluations ih =>
    unfold applyResults
    rw [entries_cons]
    by_cases hmatched : e.2.matched = true
    · rw [if_neg (not_not.mpr hmatched), if_pos hmatched]
      obtain hentry | ⟨hnone, hset, hall⟩ := matchedRule_eq matchedRules e
      · rw [hentry, ih, Option.toList_some, List.append_assoc]
        · rfl
        · intro entry hin
          obtain hin | hin := List.mem_append.mp hin
          · exact hbefore entry hin
          · rw [List.mem_singleton.mp hin]
            exact recorded_entryOf e
      · have hredundant : deriveOutcome (matchedRules ++ [entryOf e]) =
            deriveOutcome matchedRules := by
          rw [deriveOutcome_append, List.flatMap_singleton]
          exact foldl_redundant _ ((statusSet_deriveOutcome hbefore).trans hset) hall
        rw [hnone, Option.toList_none, List.append_nil, ih hbefore, deriveOutcome_append,
          ← hredundant, ← deriveOutcome_append, List.append_assoc]
        rfl
    · rw [if_pos hmatched, if_neg hmatched]
      exact ih hbefore

/-- The first rule with a status is not left out. -/
theorem find_applyResults (evaluations : List (Rule × RuleEvalResult))
    (matchedRules : List MatchedRuleResult) :
    (applyResults evaluations matchedRules).find? decides =
      (matchedRules ++ entries evaluations).find? decides := by
  induction evaluations generalizing matchedRules with
  | nil => rw [applyResults, entries, List.filter_nil, List.map_nil, List.append_nil]
  | cons e evaluations ih =>
    unfold applyResults
    rw [entries_cons]
    by_cases hmatched : e.2.matched = true
    · rw [if_neg (not_not.mpr hmatched), if_pos hmatched]
      obtain hentry | ⟨hnone, hset, -⟩ := matchedRule_eq matchedRules e
      · rw [hentry, ih, Option.toList_some, List.append_assoc]
        rfl
      · obtain ⟨entry, hentry⟩ := Option.isSome_iff_exists.mp
          (List.find?_isSome.mpr (List.any_eq_true.mp hset))
        rw [hnone, Option.toList_none, List.append_nil, ih, List.find?_append, List.find?_append,
          hentry]
        rfl
    · rw [if_pos hmatched, if_neg hmatched]
      exact ih matchedRules

/-! ## Coherence -/

/-- The entry is of a rule with a status action. -/
def carriesStatus (entry : MatchedRuleResult) : Bool := entry.actions.any isStatus

/-- The trace of the matched rules and the outcome that is derived from it agree. -/
structure Coherent (evaluations : List (Rule × RuleEvalResult)) : Prop where
  skipped : deriveOutcome (trace evaluations) = deriveOutcome (entries evaluations)
  status : applied (deriveOutcome (trace evaluations)) =
    (trace evaluations).findSome? fun entry => firstStatus entry.actions
  urgency : (deriveOutcome (trace evaluations)).urgency =
    (trace evaluations).findSome? fun entry => firstUrgency entry.actions
  labels : (deriveOutcome (trace evaluations)).additionalLabels =
    (trace evaluations).flatMap MatchedRuleResult.labelsAdded
  forwards : (deriveOutcome (trace evaluations)).forwardAddresses =
    (trace evaluations).flatMap fun entry => forwardsOf entry.actions
  recorded : ∀ entry, (trace evaluations).find? carriesStatus = some entry →
    entry.statusChange = applied (deriveOutcome (trace evaluations))

/-- In the first matched rule that has a status action, the first one is a most severe one. -/
def MostSevereFirst (evaluations : List (Rule × RuleEvalResult)) : Prop :=
  ∀ e, evaluations.find? (fun e => e.2.matched && (actionsOf e).any isStatus) = some e →
    SevereFirst (actionsOf e)

theorem findSome?_flatMap {α β γ : Type} (f : β → Option γ) (g : α → List β) (l : List α) :
    (l.flatMap g).findSome? f = l.findSome? fun a => (g a).findSome? f := by
  induction l with
  | nil => rfl
  | cons a l ih =>
    rw [List.flatMap_cons, List.findSome?_append, List.findSome?_cons, ih]
    cases (g a).findSome? f <;> rfl

theorem recorded_of_mem_trace (h : entry ∈ trace evaluations) :
    Recorded entry :=
  recorded_trace (fun _ hin => absurd hin List.not_mem_nil) h

theorem status_trace (evaluations : List (Rule × RuleEvalResult)) :
    applied (deriveOutcome (trace evaluations)) =
      (trace evaluations).findSome? fun entry => firstStatus entry.actions := by
  rw [applied_deriveOutcome, firstStatus, findSome?_flatMap]
  rfl

theorem labels_trace (evaluations : List (Rule × RuleEvalResult)) :
    (deriveOutcome (trace evaluations)).additionalLabels =
      (trace evaluations).flatMap MatchedRuleResult.labelsAdded := by
  have hlabels : ∀ entries : List MatchedRuleResult, (∀ entry ∈ entries, Recorded entry) →
      labelsOf (entries.flatMap MatchedRuleResult.actions) =
        entries.flatMap MatchedRuleResult.labelsAdded := by
    intro entries hentries
    induction entries with
    | nil => rfl
    | cons entry entries ih =>
      rw [List.flatMap_cons, List.flatMap_cons, labelsOf, List.filter_append, List.filterMap_append,
        (hentries entry List.mem_cons_self).labels,
        ← ih fun other hother => hentries other (List.mem_cons_of_mem _ hother)]
      rfl
  rw [deriveOutcome, labels_foldl, hlabels _ fun entry => recorded_of_mem_trace]
  rfl

theorem forwards_trace (evaluations : List (Rule × RuleEvalResult)) :
    (deriveOutcome (trace evaluations)).forwardAddresses =
      (trace evaluations).flatMap fun entry => forwardsOf entry.actions := by
  rw [deriveOutcome, forwardAddresses_foldl]
  show forwardsOf ((trace evaluations).flatMap MatchedRuleResult.actions) = _
  induction trace evaluations with
  | nil => rfl
  | cons entry entries ih =>
    rw [List.flatMap_cons, List.flatMap_cons, ← ih, forwardsOf, List.filter_append,
      List.filterMap_append]
    rfl

/-- The entry that decides the status is that of the first matched rule with a status action. -/
theorem find_trace (evaluations : List (Rule × RuleEvalResult)) :
    (trace evaluations).find? carriesStatus = (evaluations.find? fun e =>
      e.2.matched && (actionsOf e).any isStatus).map entryOf := by
  have hcarries : ∀ entries : List MatchedRuleResult, (∀ entry ∈ entries, Recorded entry) →
      entries.find? carriesStatus = entries.find? decides := by
    intro entries hentries
    induction entries with
    | nil => rfl
    | cons entry entries ih =>
      rw [List.find?_cons, List.find?_cons, carriesStatus,
        decides_eq (hentries entry List.mem_cons_self),
        ih fun other hother => hentries other (List.mem_cons_of_mem _ hother)]
  rw [hcarries _ fun entry => recorded_of_mem_trace, trace, find_applyResults, List.nil_append,
    entries, List.find?_map, List.find?_filter]
  congr 2
  funext e
  rw [Function.comp_apply, decides_eq (recorded_entryOf e), Bool.decide_and, Bool.decide_eq_true,
    Bool.decide_eq_true]
  rfl

theorem applied_of_find (h : (trace evaluations).find? carriesStatus = some entry) :
    applied (deriveOutcome (trace evaluations)) = firstStatus entry.actions := by
  rw [status_trace]
  generalize trace evaluations = entries at h
  induction entries with
  | nil => cases h
  | cons first entries ih =>
    rw [List.find?_cons] at h
    rw [List.findSome?_cons]
    by_cases hfirst : carriesStatus first = true
    · rw [hfirst] at h
      obtain rfl := Option.some.inj h
      rw [carriesStatus, ← firstStatus_isSome] at hfirst
      obtain ⟨status, hstatus⟩ := Option.isSome_iff_exists.mp hfirst
      rw [hstatus]
    · rw [Bool.eq_false_iff.mpr hfirst] at h
      rw [carriesStatus, ← firstStatus_isSome] at hfirst
      rw [Option.not_isSome_iff_eq_none.mp hfirst]
      exact ih h

theorem recorded_iff (evaluations : List (Rule × RuleEvalResult)) :
    (∀ entry, (trace evaluations).find? carriesStatus = some entry →
      entry.statusChange = applied (deriveOutcome (trace evaluations))) ↔
        MostSevereFirst evaluations := by
  have hentry : ∀ e, (trace evaluations).find? carriesStatus = some (entryOf e) →
      ((entryOf e).statusChange = applied (deriveOutcome (trace evaluations)) ↔
        SevereFirst (actionsOf e)) := by
    intro e hfind
    rw [applied_of_find hfind]
    exact statusChangeOf_eq_iff (actionsOf e)
  constructor
  · intro h e he
    have hfind : (trace evaluations).find? carriesStatus = some (entryOf e) := by
      rw [find_trace, he]
      rfl
    exact (hentry e hfind).mp (h _ hfind)
  · intro h entry hfind
    have hfind' := hfind
    rw [find_trace] at hfind
    obtain ⟨e, he, rfl⟩ := Option.map_eq_some_iff.mp hfind
    exact (hentry e hfind').mpr (h e he)

/-- **The trace and the outcome agree just when the deciding rule has its most severe status
first.** -/
theorem coherent_iff (evaluations : List (Rule × RuleEvalResult)) :
    Coherent evaluations ↔ MostSevereFirst evaluations := by
  rw [← recorded_iff]
  constructor
  · exact Coherent.recorded
  · intro hrecorded
    refine ⟨?_, status_trace evaluations, ?_, labels_trace evaluations, forwards_trace evaluations,
      hrecorded⟩
    · exact deriveOutcome_applyResults fun _ hin => absurd hin List.not_mem_nil
    · rw [deriveOutcome, urgency_foldl, firstUrgency, findSome?_flatMap]
      rfl

/-- A rule that archives what it rejects. -/
def archivingRule : Rule :=
  ⟨"rule-1", "acct-1", "Newsletters", "js:() => true", [⟨.archive, none⟩, ⟨.blockReject, none⟩]⟩

theorem archivingRule_incoherent : ¬ Coherent [(archivingRule, ⟨true, [], []⟩)] := by
  intro h
  have hrecorded := h.recorded _ rfl
  revert hrecorded
  decide

end SesEmailAdapter.Processor.RuleTrace
