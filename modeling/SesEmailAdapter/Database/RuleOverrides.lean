import SesEmailAdapter.Database.ConfigRows

/-! # Overrides of system rules

The row of an override has both the status and the priority, so a call that sets one of them reads
the other first. The row is then put without a condition, and a call that has read too early takes
back what another one has set in between. -/

namespace SesEmailAdapter.Database.RuleOverrides
open Lib
open SesEmailAdapter.Types
open Processor.RuleEngine (RuleStatus StoredRule)
open Api.RulesApi (SYSTEM_RULES UpdateRuleRequest)
open Api.StoredSettings (CreateRuleRequest systemRules_ids)
open Database.ConfigRows

/-! ## Writes of rules -/

/-- The id of a rule of a user; `generateId("rule-")` makes no other. -/
structure UserRuleId where
  id : String
  user : ¬ isSystemRuleId id

inductive RuleWrite
  | upsertSystemRuleOverride (accountId ruleId : String) (status : Option RuleStatus)
      (priorityOrder : Option Nat)
  | createRule (accountId : String) (id : UserRuleId) (now : String) (data : CreateRuleRequest)
  | updateRule (accountId : String) (id : UserRuleId) (now : String) (data : UpdateRuleRequest)
      (clearError : Bool)
  | annotateRuleError (accountId : String) (id : UserRuleId) (errorMessage now : String)
  | deleteRule (accountId : String) (id : UserRuleId)

namespace RuleWrite

def call : RuleWrite → Call
  | .upsertSystemRuleOverride accountId ruleId status priorityOrder =>
    .upsertSystemRuleOverride accountId ruleId status priorityOrder
  | .createRule accountId id now data => .createRule accountId id.id now data
  | .updateRule accountId id now data clearError => .updateRule accountId id.id now data clearError
  | .annotateRuleError accountId id errorMessage now =>
    .annotateRuleError accountId id.id errorMessage now
  | .deleteRule accountId id => .deleteRule accountId id.id

def isOverride : RuleWrite → Bool
  | .upsertSystemRuleOverride .. => true
  | _ => false

/-- The status that the call sets of a system rule. -/
def status (accountId ruleId : String) : RuleWrite → Option RuleStatus
  | .upsertSystemRuleOverride accountId' ruleId' status _ =>
    if accountId' = accountId ∧ ruleId' = ruleId then status else none
  | _ => none

/-- The priority that the call sets of a system rule. -/
def priorityOrder (accountId ruleId : String) : RuleWrite → Option Nat
  | .upsertSystemRuleOverride accountId' ruleId' _ priorityOrder =>
    if accountId' = accountId ∧ ruleId' = ruleId then priorityOrder else none
  | _ => none

end RuleWrite

/-- A write, with the call that has decided on it and the table that the call has read. -/
structure Pending where
  call : RuleWrite
  read : Table
  request : Request
  decided : request ∈ requests call.call read

structure Service where
  table : Table
  waiting : List Pending
  /-- What has reached the table, the last one first. -/
  written : List Pending

namespace Service

def start : Service := ⟨.empty, [], []⟩

/-- The writes that a call decides on now. -/
def decisions (s : Service) (call : RuleWrite) : List Pending :=
  (requests call.call s.table).attach.map fun request => ⟨call, s.table, request.1, request.2⟩

def move (s : Service) : CallerMove RuleWrite → Service
  | .begin call => { s with waiting := s.waiting ++ s.decisions call }
  | .send n =>
    match s.waiting[n]? with
    | some pending =>
      ⟨pending.request.apply s.table, s.waiting.eraseIdx n, pending :: s.written⟩
    | none => s

end Service

/-! ## What is wanted -/

def lastStatus (written : List Pending) (accountId : String) (rule : StoredRule) : RuleStatus :=
  (written.findSome? fun pending => pending.call.status accountId rule.id).getD rule.status

def lastPriority (written : List Pending) (accountId : String) (rule : StoredRule) : Nat :=
  (written.findSome? fun pending => pending.call.priorityOrder accountId rule.id).getD
    rule.priorityOrder

/-- The built-in rule, with the last values that have been written for it. -/
def overridden (written : List Pending) (accountId : String) (rule : StoredRule) : ReadRule :=
  { systemRule rule with
    status := some (statusText (lastStatus written accountId rule))
    priorityOrder := some (lastPriority written accountId rule) }

/-- The table as the writes of user rules alone have left it. -/
def userTable : List Pending → Table
  | [] => .empty
  | pending :: written =>
    if pending.call.isOverride then userTable written
    else pending.request.apply (userTable written)

/-- The rules that are listed are each system rule once, with what has been written for it, and the
user's own. -/
structure Shows (written : List Pending) (accountId : String) (rules : List ReadRule) : Prop where
  system : ∀ rule ∈ SYSTEM_RULES,
    (rules.filter fun read => read.id = rule.id) = [overridden written accountId rule]
  user : (rules.filter fun read => ¬ isSystemRuleId read.id).Perm
    ((ruleRows (userTable written) accountId).filterMap readRule)

/-- The tables have the same rows of user rules. -/
def SameUsers (t u : Table) : Prop :=
  ∀ accountId (id : UserRuleId), t.get ⟨accountId, .rule id.id⟩ = u.get ⟨accountId, .rule id.id⟩

structure Kept (s : Service) : Prop where
  lists : ∀ accountId, ∃ rules, listRules s.table accountId = .ok rules ∧
    Shows s.written accountId rules
  users : SameUsers s.table (userTable s.written)

/-! ## When it holds -/

def currentStatus (t : Table) (accountId : String) (rule : StoredRule) : String :=
  ((t.get ⟨accountId, .rule rule.id⟩).bind fun row => row.get .status).getD (statusText rule.status)

def currentPriority (t : Table) (accountId : String) (rule : StoredRule) : Nat :=
  ((t.get ⟨accountId, .rule rule.id⟩).bind fun row => row.get .priorityOrder).getD
    rule.priorityOrder

/-- The fields that an override does not set have not changed since it has read them, and an update
of a user rule finds the rule there. -/
def Pending.UpToDate (t : Table) (pending : Pending) : Prop :=
  match pending.call with
  | .upsertSystemRuleOverride accountId ruleId status priorityOrder =>
    ∀ rule ∈ SYSTEM_RULES, rule.id = ruleId →
      (status = none →
        currentStatus pending.read accountId rule = currentStatus t accountId rule) ∧
      (priorityOrder = none →
        currentPriority pending.read accountId rule = currentPriority t accountId rule)
  | .updateRule accountId id .. =>
    ((t.get ⟨accountId, .rule id.id⟩).bind fun row => row.get .id).isSome
  | _ => True

def Service.Fits (s : Service) : CallerMove RuleWrite → Prop
  | .begin _ => True
  | .send n => ∀ pending, s.waiting[n]? = some pending → pending.UpToDate s.table

/-! ## Rows -/

variable {t : Table} {s : Service} {pending : Pending} {accountId : String} {rule : StoredRule}

theorem pk_inj {a b : String} (h : pk a = pk b) : a = b := by
  have htext := congrArg String.toList h
  simp only [pk, String.toList_append, List.append_cancel_left_eq] at htext
  exact String.toList_inj.mp htext

structure Tidy (row : Row) : Prop where
  account : ∀ text, row.get .gsi1pk = some text → text = pk row.key.accountId
  named : ∀ id, row.get .id = some id → row.key.sk = .rule id
  listed : (row.get .gsi1pk).isSome → (row.get .id).isSome

structure IsOverride (rule : StoredRule) (row : Row) : Prop where
  named : row.get .id = some rule.id
  listed : isListed row.key.accountId row = true
  status : (row.get .status).isSome
  priority : (row.get .priorityOrder).isSome

/-- What the writes keep of the table. -/
structure Shape (t : Table) : Prop where
  tidy : ∀ row ∈ t.rows, Tidy row
  overrides : ∀ accountId, ∀ rule ∈ SYSTEM_RULES, ∀ row,
    t.get ⟨accountId, .rule rule.id⟩ = some row → IsOverride rule row

variable {row : Row}

variable {key : RowKey}

theorem Shape.tidy_of_get (h : Shape t) (hget : t.get key = some row) :
    Tidy row := h.tidy row (KeyedTable.mem_rows_of_get hget)

theorem shape_apply (h : Shape t) {w : Request}
    (htidy : ∀ row, w.result (t.get w.key) = some row → Tidy row)
    (hoverride : ∀ accountId, ∀ rule ∈ SYSTEM_RULES, w.key = ⟨accountId, .rule rule.id⟩ →
      ∀ row, w.result (t.get w.key) = some row → IsOverride rule row) :
    Shape (w.apply t) := by
  constructor
  · intro row hrow
    have hget := KeyedTable.mem_rows_iff.mp hrow
    by_cases hkey : row.key = w.key
    · rw [hkey, Write.get_apply_self] at hget
      exact htidy row hget
    · rw [Write.get_apply_ne t hkey] at hget
      exact h.tidy_of_get hget
  · intro accountId rule hrule row hget
    by_cases hkey : (⟨accountId, .rule rule.id⟩ : RowKey) = w.key
    · rw [hkey, Write.get_apply_self] at hget
      exact hoverride accountId rule hrule hkey.symm row hget
    · rw [Write.get_apply_ne t hkey] at hget
      exact h.overrides accountId rule hrule row hget

/-- A row as the put of a rule writes it. -/
structure IsRuleRow (accountId id status : String) (priorityOrder : Nat) (row : Row) : Prop where
  key : row.key = ⟨accountId, .rule id⟩
  named : row.get .id = some id
  gsi1pk : row.get .gsi1pk = some (pk accountId)
  gsi1sk : row.get .gsi1sk = some (ruleGsi1sk status priorityOrder id)
  status : row.get .status = some status
  priorityOrder : row.get .priorityOrder = some priorityOrder

theorem ruleGsi1sk_prefixed (status id : String) (priorityOrder : Nat) :
    "RULE#".toList.isPrefixOf (ruleGsi1sk status priorityOrder id).toList = true := by
  rw [List.isPrefixOf_iff_prefix, ruleGsi1sk]
  simp only [String.toList_append, List.append_assoc]
  exact List.prefix_append _ _

section IsRuleRow
variable {id status : String} {priorityOrder : Nat} {row : Row}

theorem IsRuleRow.tidy (h : IsRuleRow accountId id status priorityOrder row) : Tidy row := by
  refine ⟨fun text htext => ?_, fun id' hid => ?_, fun _ => ?_⟩
  · rw [h.key]
    exact Option.some.inj (htext.symm.trans h.gsi1pk)
  · rw [h.key, Option.some.inj (hid.symm.trans h.named)]
  · rw [h.named]
    rfl

theorem isListed_of {text : String} (hpk : row.get .gsi1pk = some (pk accountId))
    (hsk : row.get .gsi1sk = some text)
    (hprefixed : "RULE#".toList.isPrefixOf text.toList = true) : isListed accountId row = true := by
  rw [isListed, hpk, hsk, Option.any_some, hprefixed]
  simp

theorem IsRuleRow.isOverride (h : IsRuleRow accountId rule.id status priorityOrder row) :
    IsOverride rule row := by
  refine ⟨h.named, ?_, Option.isSome_of_eq_some h.status, Option.isSome_of_eq_some h.priorityOrder⟩
  rw [h.key]
  exact isListed_of h.gsi1pk h.gsi1sk (ruleGsi1sk_prefixed status rule.id priorityOrder)

end IsRuleRow

/-- The write puts a row of the rule, whatever is there. -/
def PutsRule (accountId id status : String) (priorityOrder : Nat) (w : Request) : Prop :=
  w.key = ⟨accountId, .rule id⟩ ∧
    ∃ row, IsRuleRow accountId id status priorityOrder row ∧ ∀ item, w.result item = some row

theorem putsRule_ruleItem (accountId id name condition status createdAt updatedAt : String)
    (actions : List RuleAction) (priorityOrder : Nat) (rest : Attrs) :
    PutsRule accountId id status priorityOrder
      (ruleItem accountId id name condition status createdAt updatedAt actions priorityOrder
        rest) :=
  ⟨rfl, _, ⟨rfl, rfl, rfl, rfl, rfl, rfl⟩, fun _ => rfl⟩

/-! ## One write -/

theorem decided_of {call : RuleWrite} (h : pending.call = call) :
    pending.request ∈ requests call.call pending.read := h ▸ pending.decided

/-- An override puts what it sets, and what it has read of the rest. -/
theorem putsRule_override {ruleId : String} {status : Option RuleStatus}
    {priorityOrder : Option Nat}
    (h : pending.call = .upsertSystemRuleOverride accountId ruleId status priorityOrder) :
    ∃ rule ∈ SYSTEM_RULES, rule.id = ruleId ∧
      PutsRule accountId ruleId
        ((status.map statusText).getD (currentStatus pending.read accountId rule))
        (priorityOrder.getD (currentPriority pending.read accountId rule)) pending.request := by
  have hdecided : pending.request ∈
      upsertSystemRuleOverride accountId ruleId status priorityOrder pending.read := decided_of h
  rw [upsertSystemRuleOverride] at hdecided
  split at hdecided
  case h_1 => cases hdecided
  case h_2 rule hfind =>
    have hkey := List.find?_some hfind
    obtain rfl : rule.id = ruleId := of_decide_eq_true hkey
    rw [List.mem_singleton.mp hdecided]
    refine ⟨rule, List.mem_of_find?_eq_some hfind, rfl, ?_⟩
    simp only [Option.getD_or, currentStatus, currentPriority]
    exact putsRule_ruleItem ..

variable {written : List Pending} {id : UserRuleId}

theorem putsRule_create {now : String} {data : CreateRuleRequest}
    (h : pending.call = .createRule accountId id now data) :
    ∃ status priorityOrder, PutsRule accountId id.id status priorityOrder pending.request := by
  have hdecided : pending.request ∈ createRule accountId id.id now data pending.read :=
    decided_of h
  rw [createRule] at hdecided
  split at hdecided
  case h_1 => cases hdecided
  case h_2 =>
    dsimp only at hdecided
    split at hdecided
    case h_1 => cases hdecided
    case h_2 =>
      rw [List.mem_singleton.mp hdecided]
      exact ⟨_, _, putsRule_ruleItem ..⟩

theorem result_updateItem {sets : Attrs} {removes : List Attr} (item : Option Row) :
    ∃ row, (updateItem key sets removes).result item = some row ∧ row.key = key ∧
      ∀ n ∉ removes, row.get n = (sets.dlookup n).or (item.bind fun row => row.get n) := by
  refine ⟨_, rfl, rfl, fun n hn => ?_⟩
  show (removeAttrs removes (setAttrs sets _)).dlookup n = _
  rw [dlookup_removeAttrs hn, dlookup_setAttrs]
  cases item with
  | none => rfl
  | some row => rfl

/-- An update keeps the id, and puts the row under its account of the index. -/
theorem update_result {now : String} {data : UpdateRuleRequest} {clearError : Bool}
    (h : pending.call = .updateRule accountId id now data clearError) :
    pending.request.key = ⟨accountId, .rule id.id⟩ ∧
      ∀ item, ∃ row, pending.request.result item = some row ∧
        row.key = ⟨accountId, .rule id.id⟩ ∧
        row.get .id = item.bind (fun row => row.get .id) ∧
        row.get .gsi1pk = some (pk accountId) ∧ isListed accountId row = true := by
  have hdecided :
      pending.request ∈ updateRule accountId id.id now data clearError pending.read := decided_of h
  rw [updateRule] at hdecided
  split at hdecided
  case h_2 => cases hdecided
  case h_1 status priorityOrder _ _ =>
    rw [List.mem_singleton.mp hdecided]
    refine ⟨rfl, fun item => ?_⟩
    obtain ⟨row, hresult, hkey, hget⟩ := result_updateItem item
    have hkept (n : Attr) (hn : n ≠ .lastError) :
        n ∉ (if clearError = true then [.lastError] else []) := by
      cases clearError <;> simp [hn]
    have hpk := hget .gsi1pk (hkept _ (by simp))
    have hsk := hget .gsi1sk (hkept _ (by simp))
    refine ⟨row, hresult, hkey, ?_, hpk, ?_⟩
    · rw [hget .id (hkept _ (by simp)), List.dlookup_eq_none.mpr (by simp), Option.none_or]
    · exact isListed_of hpk hsk (ruleGsi1sk_prefixed status id.id priorityOrder)

/-- The annotation of an error keeps the id and the place in the index. -/
theorem annotate_result {errorMessage now : String}
    (h : pending.call = .annotateRuleError accountId id errorMessage now) :
    pending.request.key = ⟨accountId, .rule id.id⟩ ∧
      ∀ item, ∃ row, pending.request.result item = some row ∧
        row.key = ⟨accountId, .rule id.id⟩ ∧
        row.get .id = item.bind (fun row => row.get .id) ∧
        row.get .gsi1pk = item.bind (fun row => row.get .gsi1pk) := by
  have hdecided : pending.request ∈ [annotateRuleError accountId id.id errorMessage now] :=
    decided_of h
  rw [List.mem_singleton.mp hdecided]
  refine ⟨rfl, fun item => ?_⟩
  obtain ⟨row, hresult, hkey, hget⟩ := result_updateItem item
  exact ⟨row, hresult, hkey, hget .id List.not_mem_nil, hget .gsi1pk List.not_mem_nil⟩

theorem delete_result (h : pending.call = .deleteRule accountId id) :
    pending.request = .delete ⟨accountId, .rule id.id⟩ := List.mem_singleton.mp (decided_of h)

theorem key_of_user (h : pending.call.isOverride = false) :
    ∃ accountId, ∃ id : UserRuleId, pending.request.key = ⟨accountId, .rule id.id⟩ := by
  cases hcall : pending.call with
  | upsertSystemRuleOverride =>
    rw [hcall] at h
    cases h
  | createRule accountId id =>
    obtain ⟨_, _, hputs⟩ := putsRule_create hcall
    exact ⟨accountId, id, hputs.1⟩
  | updateRule accountId id => exact ⟨accountId, id, (update_result hcall).1⟩
  | annotateRuleError accountId id => exact ⟨accountId, id, (annotate_result hcall).1⟩
  | deleteRule accountId id => exact ⟨accountId, id, by rw [delete_result hcall]; rfl⟩

/-- What a row has that keeps the id of the one before. -/
theorem named_of_kept (hshape : Shape t) (hkey : row.key = key)
    (hkept : row.get .id = (t.get key).bind fun row => row.get .id) :
    ∀ id, row.get .id = some id → row.key.sk = .rule id := by
  intro id hid
  rw [hkept] at hid
  obtain ⟨old, hget, hold⟩ := Option.bind_eq_some_iff.mp hid
  rw [hkey, ← KeyedTable.key_of_get hget]
  exact (hshape.tidy_of_get hget).named id hold

theorem tidy_of_user (h : pending.call.isOverride = false) (hshape : Shape t)
    (hfits : pending.UpToDate t) :
    ∀ row, pending.request.result (t.get pending.request.key) = some row → Tidy row := by
  intro row hrow
  cases hcall : pending.call with
  | upsertSystemRuleOverride =>
    rw [hcall] at h
    cases h
  | createRule accountId id =>
    obtain ⟨_, _, hkey, new, hnew, hresult⟩ := putsRule_create hcall
    obtain rfl := Option.some.inj ((hresult _).symm.trans hrow)
    exact hnew.tidy
  | updateRule accountId id =>
    obtain ⟨hwrite, hupdate⟩ := update_result hcall
    obtain ⟨new, hresult, hkey, hkept, hpk, -⟩ := hupdate (t.get pending.request.key)
    obtain rfl := Option.some.inj (hresult.symm.trans hrow)
    rw [hwrite] at hkept
    rw [Pending.UpToDate, hcall] at hfits
    refine ⟨fun text htext => ?_, named_of_kept hshape hkey hkept, fun _ => hkept ▸ hfits⟩
    rw [hkey]
    exact Option.some.inj (htext.symm.trans hpk)
  | annotateRuleError accountId id =>
    obtain ⟨hwrite, hannotate⟩ := annotate_result hcall
    obtain ⟨new, hresult, hkey, hkept, hpk⟩ := hannotate (t.get pending.request.key)
    obtain rfl := Option.some.inj (hresult.symm.trans hrow)
    rw [hwrite] at hkept hpk
    refine ⟨fun text htext => ?_, named_of_kept hshape hkey hkept, fun hlisted => ?_⟩
    · rw [hpk] at htext
      obtain ⟨old, hget, hold⟩ := Option.bind_eq_some_iff.mp htext
      rw [hkey, ← KeyedTable.key_of_get hget]
      exact (hshape.tidy_of_get hget).account text hold
    · rw [hpk] at hlisted
      rw [hkept]
      cases hget : t.get ⟨accountId, .rule id.id⟩ with
      | none =>
        rw [hget] at hlisted
        cases hlisted
      | some old =>
        rw [hget] at hlisted
        exact (hshape.tidy_of_get hget).listed hlisted
  | deleteRule accountId id =>
    rw [delete_result hcall] at hrow
    cases hrow

theorem system_ne_user (hrule : rule ∈ SYSTEM_RULES) (id : UserRuleId) : rule.id ≠ id.id := by
  intro hsame
  exact id.user (hsame ▸ systemRules_ids.2 rule hrule)

theorem key_ne_user (hrule : rule ∈ SYSTEM_RULES) (h : pending.call.isOverride = false) :
    (⟨accountId, .rule rule.id⟩ : RowKey) ≠ pending.request.key := by
  obtain ⟨accountId', id, hkey⟩ := key_of_user h
  rw [hkey]
  intro hsame
  exact system_ne_user hrule id (SortKey.rule.inj (RowKey.mk.inj hsame).2)

theorem PutsRule.shape {id status : String} {priorityOrder : Nat} {w : Request}
    (h : PutsRule accountId id status priorityOrder w) (hshape : Shape t) : Shape (w.apply t) := by
  obtain ⟨hkey, new, hnew, hresult⟩ := h
  refine shape_apply hshape (fun row hrow => ?_) fun accountId' rule hrule hsame row hrow => ?_
  · obtain rfl := Option.some.inj ((hresult _).symm.trans hrow)
    exact hnew.tidy
  · obtain rfl := Option.some.inj ((hresult _).symm.trans hrow)
    obtain ⟨rfl, hid⟩ := RowKey.mk.inj (hkey.symm.trans hsame)
    obtain rfl := SortKey.rule.inj hid
    exact hnew.isOverride

theorem shape_send (hshape : Shape t) (hfits : pending.UpToDate t) :
    Shape (pending.request.apply t) := by
  cases hcall : pending.call with
  | upsertSystemRuleOverride =>
    obtain ⟨_, -, -, hputs⟩ := putsRule_override hcall
    exact hputs.shape hshape
  | _ =>
    have huser : pending.call.isOverride = false := by rw [hcall]; rfl
    refine shape_apply hshape (tidy_of_user huser hshape hfits) ?_
    intro accountId rule hrule hkey
    exact absurd hkey.symm (key_ne_user hrule huser)

/-! ## Listing -/

theorem isSome_of_mapM {α β : Type} {f : α → Option β} {items : List α} {results : List β}
    (h : items.mapM f = some results) : ∀ a ∈ items, (f a).isSome := by
  induction items generalizing results with
  | nil => simp
  | cons a items ih =>
    rw [List.mapM_cons] at h
    obtain ⟨b, hb, hrest⟩ := Option.bind_eq_some_iff.mp h
    obtain ⟨bs, hbs, -⟩ := Option.bind_eq_some_iff.mp hrest
    exact List.forall_mem_cons.mpr ⟨Option.isSome_of_eq_some hb, ih hbs⟩

theorem mapM_eq_filterMap {α β : Type} {f : α → Option β} {items : List α}
    (h : ∀ a ∈ items, (f a).isSome) : items.mapM f = some (items.filterMap f) := by
  induction items with
  | nil => rfl
  | cons a items ih =>
    obtain ⟨ha, hitems⟩ := List.forall_mem_cons.mp h
    obtain ⟨b, hb⟩ := Option.isSome_iff_exists.mp ha
    rw [List.mapM_cons, hb, ih hitems, List.filterMap_cons_some hb]
    rfl

theorem mem_ruleRows :
    row ∈ ruleRows t accountId ↔ row ∈ t.rows ∧ isListed accountId row = true := by
  rw [ruleRows, List.mem_mergeSort, List.mem_filter]

theorem pk_of_listed (h : isListed accountId row = true) :
    row.get .gsi1pk = some (pk accountId) := by
  rw [isListed, Bool.and_eq_true, decide_eq_true_eq] at h
  exact h.1

theorem Shape.isSome_readRule (h : Shape t) (hrow : row ∈ ruleRows t accountId) :
    (readRule row).isSome := by
  obtain ⟨hmem, hlisted⟩ := mem_ruleRows.mp hrow
  rw [readRule, Option.isSome_map]
  exact (h.tidy row hmem).listed (Option.isSome_of_eq_some (pk_of_listed hlisted))

/-- The built-in rule, with what the account's row has of it. -/
def current (t : Table) (accountId : String) (rule : StoredRule) : ReadRule :=
  { systemRule rule with
    status := some (currentStatus t accountId rule)
    priorityOrder := some (currentPriority t accountId rule) }

/-- The account's rows of rules, as they are read. -/
def readRules (t : Table) (accountId : String) : List ReadRule :=
  (ruleRows t accountId).filterMap readRule

theorem readRule_eq {id : String} (h : row.get .id = some id) :
    readRule row = some ⟨id, row.get .condition, row.get .actions, row.get .status,
      row.get .priorityOrder⟩ := by
  rw [readRule, h]
  rfl

/-- A rule that is read under the id of a system rule is the one of the account's row for it. -/
theorem Shape.mem_readRules (h : Shape t) {read : ReadRule} (hread : read ∈ readRules t accountId) :
    ∃ row, t.get ⟨accountId, .rule read.id⟩ = some row ∧ readRule row = some read := by
  obtain ⟨row, hrow, hreads⟩ := List.mem_filterMap.mp hread
  obtain ⟨hmem, hlisted⟩ := mem_ruleRows.mp hrow
  obtain ⟨id, hid, rfl⟩ := Option.map_eq_some_iff.mp hreads
  have htidy := h.tidy row hmem
  have hkey : row.key = ⟨accountId, .rule id⟩ := by
    rw [pk_inj (htidy.account _ (pk_of_listed hlisted)), ← htidy.named id hid]
  refine ⟨row, ?_, hreads⟩
  rw [← hkey]
  exact KeyedTable.mem_rows_iff.mp hmem

theorem Shape.withOverride_eq (h : Shape t) (hrule : rule ∈ SYSTEM_RULES) :
    withOverride (readRules t accountId) (systemRule rule) = current t accountId rule := by
  have hunique {read : ReadRule} (hread : read ∈ readRules t accountId) (hid : read.id = rule.id) :
      ∃ row, t.get ⟨accountId, .rule rule.id⟩ = some row ∧ readRule row = some read :=
    hid ▸ h.mem_readRules hread
  rw [withOverride]
  cases hget : t.get ⟨accountId, .rule rule.id⟩ with
  | none =>
    have hnone : ((readRules t accountId).reverse.find? fun read =>
        read.id = (systemRule rule).id) = none := by
      refine List.find?_eq_none.mpr fun read hread hid => ?_
      obtain ⟨row, hrow, -⟩ := hunique (List.mem_reverse.mp hread) (of_decide_eq_true hid)
      cases hget.symm.trans hrow
    rw [hnone]
    simp only [current, currentStatus, currentPriority, hget, Option.bind_none, Option.getD_none]
    rfl
  | some row =>
    have hrow := h.overrides accountId rule hrule row hget
    have hreads := readRule_eq hrow.named
    have hlisted := hrow.listed
    rw [KeyedTable.key_of_get hget] at hlisted
    have hmem := List.mem_filterMap.mpr
      ⟨row, mem_ruleRows.mpr ⟨KeyedTable.mem_rows_of_get hget, hlisted⟩, hreads⟩
    cases hfind : (readRules t accountId).reverse.find? fun read =>
        read.id = (systemRule rule).id with
    | none =>
      have habsent := List.find?_eq_none.mp hfind _ (List.mem_reverse.mpr hmem)
      exact absurd (decide_eq_true rfl) habsent
    | some override =>
      have hid := List.find?_some hfind
      obtain ⟨row', hrow', hread'⟩ := hunique
        (List.mem_reverse.mp (List.mem_of_find?_eq_some hfind)) (of_decide_eq_true hid)
      obtain rfl := Option.some.inj (hget.symm.trans hrow')
      obtain rfl := Option.some.inj (hreads.symm.trans hread')
      obtain ⟨status, hstatus⟩ := Option.isSome_iff_exists.mp hrow.status
      obtain ⟨priorityOrder, hpriority⟩ := Option.isSome_iff_exists.mp hrow.priority
      simp only [current, currentStatus, currentPriority, hget, Option.bind_some, hstatus,
        hpriority, Option.getD_some]

/-- The rules of the account, before they are sorted. -/
def listed (t : Table) (accountId : String) : List ReadRule :=
  SYSTEM_RULES.map (current t accountId) ++
    (readRules t accountId).filter fun read => ¬ isSystemRuleId read.id

theorem Shape.listRules_eq (h : Shape t) (accountId : String) :
    listRules t accountId = .ok ((listed t accountId).mergeSort byPriority) := by
  rw [listRules, mapM_eq_filterMap fun row hrow => h.isSome_readRule hrow]
  have hsystem : (SYSTEM_RULES.map fun rule =>
      withOverride (readRules t accountId) (systemRule rule)) =
        SYSTEM_RULES.map (current t accountId) :=
    List.map_congr_left fun rule hrule => h.withOverride_eq hrule
  rw [listed, ← hsystem]
  rfl

theorem filter_key_eq {α β : Type} [DecidableEq β] {f : α → β} {items : List α}
    (hdistinct : (items.map f).Nodup) {a : α} (ha : a ∈ items) :
    (items.filter fun b => f b = f a) = [a] := by
  refine List.perm_singleton.mp ((List.perm_ext_iff_of_nodup
    ((hdistinct.of_map f).filter _) (List.nodup_singleton a)).mpr fun b => ?_)
  rw [List.mem_filter, List.mem_singleton, decide_eq_true_eq]
  constructor
  · intro ⟨hb, hsame⟩
    exact List.inj_on_of_nodup_map hdistinct hb ha hsame
  · rintro rfl
    exact ⟨ha, rfl⟩

theorem system_of_listed (hrule : rule ∈ SYSTEM_RULES) :
    (((listed t accountId).mergeSort byPriority).filter fun read => read.id = rule.id) =
      [current t accountId rule] := by
  refine List.perm_singleton.mp (((List.mergeSort_perm _ _).filter _).trans (.of_eq ?_))
  have hsystem : ((SYSTEM_RULES.map (current t accountId)).filter fun read => read.id = rule.id) =
      [current t accountId rule] := by
    rw [List.filter_map]
    exact congrArg (List.map (current t accountId)) (filter_key_eq systemRules_ids.1 hrule)
  have huser : (((readRules t accountId).filter fun read => ¬ isSystemRuleId read.id).filter
      fun read => read.id = rule.id) = [] := by
    refine List.filter_eq_nil_iff.mpr fun read hread hid => ?_
    have hsystemId := systemRules_ids.2 rule hrule
    rw [← of_decide_eq_true hid] at hsystemId
    exact of_decide_eq_true (List.mem_filter.mp hread).2 hsystemId
  rw [listed, List.filter_append, hsystem, huser, List.append_nil]

theorem user_of_listed :
    (((listed t accountId).mergeSort byPriority).filter fun read => ¬ isSystemRuleId read.id).Perm
      ((readRules t accountId).filter fun read => ¬ isSystemRuleId read.id) := by
  refine ((List.mergeSort_perm _ _).filter _).trans (.of_eq ?_)
  have hsystem : ((SYSTEM_RULES.map (current t accountId)).filter
      fun read => ¬ isSystemRuleId read.id) = [] := by
    refine List.filter_eq_nil_iff.mpr fun read hread huser => ?_
    obtain ⟨rule, hrule, rfl⟩ := List.mem_map.mp hread
    exact of_decide_eq_true huser (systemRules_ids.2 rule hrule)
  rw [listed, List.filter_append, hsystem, List.nil_append, List.filter_filter]
  simp

/-! ## User rules -/

theorem nodup_ruleRows (t : Table) (accountId : String) : (ruleRows t accountId).Nodup := by
  have hrows : t.rows.Nodup := t.distinct.of_map
  exact (List.mergeSort_perm _ _).nodup_iff.mpr (hrows.filter _)

theorem key_of_userTable :
    ∀ row ∈ (userTable written).rows, ∃ id : UserRuleId, row.key.sk = .rule id.id := by
  induction written with
  | nil => simp [userTable, KeyedTable.empty]
  | cons pending written ih =>
    intro row hrow
    rw [userTable] at hrow
    split at hrow
    case isTrue => exact ih row hrow
    case isFalse huser =>
      obtain ⟨accountId, id, hkey⟩ := key_of_user (Bool.eq_false_iff.mpr huser)
      by_cases hsame : row.key = pending.request.key
      · exact ⟨id, by rw [hsame, hkey]⟩
      · have hget := KeyedTable.mem_rows_iff.mp hrow
        rw [Write.get_apply_ne _ hsame] at hget
        exact ih row (KeyedTable.mem_rows_of_get hget)

def hasUserId (row : Row) : Bool := (row.get .id).any fun id => ¬ isSystemRuleId id

theorem hasUserId_iff :
    hasUserId row = true ↔ ∃ id : UserRuleId, row.get .id = some id.id := by
  rw [hasUserId, Option.any_eq_true]
  constructor
  · intro ⟨id, hid, huser⟩
    exact ⟨⟨id, of_decide_eq_true huser⟩, hid⟩
  · intro ⟨id, hid⟩
    exact ⟨id.id, hid, decide_eq_true id.user⟩

theorem SameUsers.get {u : Table} (h : SameUsers t u)
    (hkey : key.sk = .rule id.id) : t.get key = u.get key := by
  obtain ⟨accountId, sk⟩ := key
  subst hkey
  exact h accountId id

theorem Shape.user_rows (h : Shape t)
    (husers : SameUsers t (userTable written)) (accountId : String) :
    ((ruleRows t accountId).filter hasUserId).Perm (ruleRows (userTable written) accountId) := by
  refine (List.perm_ext_iff_of_nodup ((nodup_ruleRows t accountId).filter _)
    (nodup_ruleRows _ accountId)).mpr fun row => ?_
  rw [List.mem_filter, mem_ruleRows, mem_ruleRows, KeyedTable.mem_rows_iff]
  constructor
  · intro ⟨⟨hget, hlisted⟩, huser⟩
    obtain ⟨id, hid⟩ := hasUserId_iff.mp huser
    have hkey := (h.tidy_of_get hget).named id.id hid
    rw [husers.get hkey] at hget
    exact ⟨KeyedTable.mem_rows_of_get hget, hlisted⟩
  · intro ⟨hmem, hlisted⟩
    obtain ⟨id, hkey⟩ := key_of_userTable row hmem
    have hget := KeyedTable.mem_rows_iff.mp hmem
    rw [← husers.get hkey] at hget
    have hrow := mem_ruleRows.mpr ⟨KeyedTable.mem_rows_of_get hget, hlisted⟩
    have hreads := h.isSome_readRule hrow
    rw [readRule, Option.isSome_map] at hreads
    obtain ⟨id', hid⟩ := Option.isSome_iff_exists.mp hreads
    have hsame := SortKey.rule.inj (hkey.symm.trans ((h.tidy_of_get hget).named id' hid))
    exact ⟨⟨hget, hlisted⟩, hasUserId_iff.mpr ⟨id, hsame ▸ hid⟩⟩

theorem filter_readRules (t : Table) (accountId : String) :
    ((readRules t accountId).filter fun read => ¬ isSystemRuleId read.id) =
      ((ruleRows t accountId).filter hasUserId).filterMap readRule := by
  rw [readRules, List.filter_filterMap, List.filterMap_filter]
  refine congrArg (List.filterMap · _) (funext fun row => ?_)
  cases hid : row.get .id with
  | none => simp [readRule, hid]
  | some id => simp [readRule, hid, hasUserId, Option.filter]

/-! ## System rules -/

theorem lastStatus_cons (written : List Pending) :
    lastStatus (pending :: written) accountId rule =
      (pending.call.status accountId rule.id).getD (lastStatus written accountId rule) := by
  rw [lastStatus, List.findSome?_cons]
  cases pending.call.status accountId rule.id with
  | none => rfl
  | some status => rfl

theorem lastPriority_cons (written : List Pending) :
    lastPriority (pending :: written) accountId rule =
      (pending.call.priorityOrder accountId rule.id).getD
        (lastPriority written accountId rule) := by
  rw [lastPriority, List.findSome?_cons]
  cases pending.call.priorityOrder accountId rule.id with
  | none => rfl
  | some priorityOrder => rfl

theorem current_eq_iff :
    current t accountId rule = overridden written accountId rule ↔
      currentStatus t accountId rule = statusText (lastStatus written accountId rule) ∧
        currentPriority t accountId rule = lastPriority written accountId rule := by
  simp [current, overridden]

theorem current_apply_ne {w : Request} (h : (⟨accountId, .rule rule.id⟩ : RowKey) ≠ w.key) :
    current (w.apply t) accountId rule = current t accountId rule := by
  simp only [current, currentStatus, currentPriority, Write.get_apply_ne t h]

theorem overridden_cons_ne (hstatus : pending.call.status accountId rule.id = none)
    (hpriority : pending.call.priorityOrder accountId rule.id = none) :
    overridden (pending :: written) accountId rule = overridden written accountId rule := by
  rw [overridden, lastStatus_cons, lastPriority_cons, hstatus, hpriority]
  rfl

/-- An override leaves the last values just when it sets the fields that have changed since. -/
theorem override_iff {status : Option RuleStatus} {priorityOrder : Option Nat}
    (hcall : pending.call = .upsertSystemRuleOverride accountId rule.id status priorityOrder)
    (hrule : rule ∈ SYSTEM_RULES)
    (hcurrent : current t accountId rule = overridden written accountId rule) :
    current (pending.request.apply t) accountId rule =
        overridden (pending :: written) accountId rule ↔
      (status = none →
        currentStatus pending.read accountId rule = currentStatus t accountId rule) ∧
      (priorityOrder = none →
        currentPriority pending.read accountId rule = currentPriority t accountId rule) := by
  obtain ⟨hstatus, hpriority⟩ := current_eq_iff.mp hcurrent
  obtain ⟨same, hsame, hid, hkey, row, hrow, hresult⟩ := putsRule_override hcall
  obtain rfl := List.inj_on_of_nodup_map systemRules_ids.1 hsame hrule hid
  have hget := Write.get_apply_self t pending.request
  rw [hkey, hresult] at hget
  have hset : pending.call.status accountId same.id = status ∧
      pending.call.priorityOrder accountId same.id = priorityOrder := by
    rw [hcall]
    exact ⟨if_pos ⟨rfl, rfl⟩, if_pos ⟨rfl, rfl⟩⟩
  rw [current_eq_iff, lastStatus_cons, lastPriority_cons, hset.1, hset.2, hstatus, hpriority,
    currentStatus, currentPriority, hget, Option.bind_some, Option.bind_some, hrow.status,
    hrow.priorityOrder]
  refine and_congr ?_ ?_
  · cases status with
    | none => simp
    | some status => simp
  · cases priorityOrder with
    | none => simp
    | some priorityOrder => simp

/-! ## Runs -/

structure Inv (s : Service) : Prop where
  shape : Shape s.table
  users : SameUsers s.table (userTable s.written)
  system : ∀ accountId, ∀ rule ∈ SYSTEM_RULES,
    current s.table accountId rule = overridden s.written accountId rule

theorem inv_start : Inv Service.start where
  shape := ⟨fun _ hrow => absurd hrow List.not_mem_nil, fun _ _ _ _ hget => by cases hget⟩
  users := fun _ _ => rfl
  system := fun _ _ _ => rfl

theorem Inv.kept (h : Inv s) : Kept s := by
  refine ⟨fun accountId => ⟨_, h.shape.listRules_eq accountId, fun rule hrule => ?_, ?_⟩, h.users⟩
  · rw [system_of_listed hrule, h.system accountId rule hrule]
  · refine user_of_listed.trans ?_
    rw [filter_readRules]
    exact (h.shape.user_rows h.users accountId).filterMap readRule

/-- What a listing says of a system rule is what the last values are. -/
theorem Kept.system (h : Kept s) (hshape : Shape s.table) (hrule : rule ∈ SYSTEM_RULES) :
    current s.table accountId rule = overridden s.written accountId rule := by
  obtain ⟨rules, hrules, hshows⟩ := h.lists accountId
  cases (hshape.listRules_eq accountId).symm.trans hrules
  exact List.singleton_inj.mp ((system_of_listed hrule).symm.trans (hshows.system rule hrule))

theorem sameUsers_override (h : SameUsers t (userTable written))
    (hcall : pending.call.isOverride = true) :
    SameUsers (pending.request.apply t) (userTable (pending :: written)) := by
  intro accountId id
  rw [userTable, if_pos hcall, ← h accountId id]
  refine Write.get_apply_ne t fun hsame => ?_
  cases hc : pending.call with
  | upsertSystemRuleOverride =>
    obtain ⟨rule, hrule, hid, hkey, -⟩ := putsRule_override hc
    have hrow := RowKey.mk.inj (hsame.trans hkey)
    exact system_ne_user hrule id (hid.trans (SortKey.rule.inj hrow.2).symm)
  | _ =>
    rw [hc] at hcall
    cases hcall

theorem sameUsers_user (h : SameUsers t (userTable written))
    (hcall : pending.call.isOverride = false) :
    SameUsers (pending.request.apply t) (userTable (pending :: written)) := by
  intro accountId id
  rw [userTable, if_neg (Bool.eq_false_iff.mp hcall)]
  obtain ⟨accountId', id', hkey⟩ := key_of_user hcall
  by_cases hsame : (⟨accountId, .rule id.id⟩ : RowKey) = pending.request.key
  · rw [hsame, Write.get_apply_self, Write.get_apply_self, hkey, h accountId' id']
  · rw [Write.get_apply_ne _ hsame, Write.get_apply_ne _ hsame, h accountId id]

theorem system_send (h : ∀ accountId, ∀ rule ∈ SYSTEM_RULES,
      current t accountId rule = overridden written accountId rule)
    (hfits : pending.UpToDate t) (hrule : rule ∈ SYSTEM_RULES) :
    current (pending.request.apply t) accountId rule =
      overridden (pending :: written) accountId rule := by
  cases hcall : pending.call with
  | upsertSystemRuleOverride accountId' ruleId status priorityOrder =>
    obtain ⟨rule', hrule', rfl, hkey, -⟩ := putsRule_override hcall
    by_cases hsame : accountId' = accountId ∧ rule'.id = rule.id
    · obtain ⟨rfl, hid⟩ := hsame
      obtain rfl := List.inj_on_of_nodup_map systemRules_ids.1 hrule' hrule hid
      rw [Pending.UpToDate, hcall] at hfits
      exact (override_iff hcall hrule (h accountId' rule' hrule)).mpr (hfits rule' hrule rfl)
    · have hne : (⟨accountId, .rule rule.id⟩ : RowKey) ≠ pending.request.key := by
        rw [hkey]
        intro hkeys
        have hrow := RowKey.mk.inj hkeys
        exact hsame ⟨hrow.1.symm, (SortKey.rule.inj hrow.2).symm⟩
      rw [current_apply_ne hne, h accountId rule hrule,
        overridden_cons_ne (by rw [hcall]; exact if_neg hsame) (by rw [hcall]; exact if_neg hsame)]
  | _ =>
    have huser : pending.call.isOverride = false := by rw [hcall]; rfl
    rw [current_apply_ne (key_ne_user hrule huser), h accountId rule hrule,
      overridden_cons_ne (by rw [hcall]; rfl) (by rw [hcall]; rfl)]

theorem inv_move (h : Inv s) {m : CallerMove RuleWrite} (hfits : s.Fits m) : Inv (s.move m) := by
  cases m with
  | begin call => exact ⟨h.shape, h.users, h.system⟩
  | send n =>
    rw [Service.move]
    cases hn : s.waiting[n]? with
    | none => exact h
    | some pending =>
      have hpending := hfits pending hn
      refine ⟨shape_send h.shape hpending, ?_, fun _ _ => system_send h.system hpending⟩
      cases hcall : pending.call.isOverride with
      | true => exact sameUsers_override h.users hcall
      | false => exact sameUsers_user h.users hcall

/-- The rules cannot be listed after an update of one that is not there. -/
theorem updated_of_listed {now : String} {data : UpdateRuleRequest}
    {clearError : Bool} (hcall : pending.call = .updateRule accountId id now data clearError)
    {rules : List ReadRule} (h : listRules (pending.request.apply t) accountId = .ok rules) :
    ((t.get ⟨accountId, .rule id.id⟩).bind fun row => row.get .id).isSome := by
  obtain ⟨hkey, hupdate⟩ := update_result hcall
  obtain ⟨row, hresult, -, hkept, -, hlisted⟩ := hupdate (t.get pending.request.key)
  have hget := (Write.get_apply_self t pending.request).trans hresult
  rw [listRules] at h
  split at h
  case h_1 => cases h
  case h_2 ddbRules hreads =>
    have hread := isSome_of_mapM hreads row
      (mem_ruleRows.mpr ⟨KeyedTable.mem_rows_of_get hget, hlisted⟩)
    rwa [readRule, Option.isSome_map, hkept, hkey] at hread

theorem fits_of_kept (h : Inv s) {m : CallerMove RuleWrite} (hkept : Kept (s.move m)) :
    s.Fits m := by
  cases m with
  | begin call => trivial
  | send n =>
    intro pending hn
    rw [Service.move, hn] at hkept
    rw [Pending.UpToDate]
    cases hcall : pending.call with
    | upsertSystemRuleOverride accountId ruleId status priorityOrder =>
      intro rule hrule hid
      subst hid
      obtain ⟨_, -, -, hputs⟩ := putsRule_override hcall
      exact (override_iff hcall hrule (h.system accountId rule hrule)).mp
        (hkept.system (hputs.shape h.shape) hrule)
    | updateRule accountId id =>
      obtain ⟨rules, hrules, -⟩ := hkept.lists accountId
      exact updated_of_listed hcall hrules
    | _ => trivial

/-- **When overrides only override what they say.** In every state of a run the rules that are
listed are each system rule once, with the last values written for it, and the user's own, just
when every override comes before the fields that it leaves out have changed, and every update of a
user rule before the rule is gone. -/
theorem kept_always_iff (moves : List (CallerMove RuleWrite)) :
    Always Service.move Kept Service.start moves ↔
      EachFits Service.move Service.Fits Service.start moves := by
  have hmove (s : Service) (m : CallerMove RuleWrite) (h : Inv s) (hfits : s.Fits m) :
      Inv (s.move m) := inv_move h hfits
  have hfits (s : Service) (m : CallerMove RuleWrite) (h : Inv s) (hkept : Kept (s.move m)) :
      s.Fits m := fits_of_kept h hkept
  exact always_iff_eachFits_under hmove (fun _ h => h.kept) hfits inv_start

/-! ## Two overrides at once -/

def disable : RuleWrite :=
  .upsertSystemRuleOverride "acct-1" "SR-02" (some .disabled) none

def reorder : RuleWrite :=
  .upsertSystemRuleOverride "acct-1" "SR-02" none (some 1850)

/-- Both read before either writes. -/
def racingMoves : List (CallerMove RuleWrite) := [.begin disable, .begin reorder, .send 0, .send 0]

def bothRead : Service := (Service.start.move (.begin disable)).move (.begin reorder)

/-- The reordering still waits. -/
def disabledState : Service := bothRead.move (.send 0)

theorem inv_bothRead : Inv bothRead := by
  have hdisable : Inv (Service.start.move (.begin disable)) := inv_move inv_start trivial
  exact inv_move hdisable trivial

theorem inv_disabledState : Inv disabledState := by
  refine inv_move inv_bothRead fun pending hn => ?_
  obtain rfl := Option.some.inj hn
  intro rule hrule hid
  refine ⟨fun hnone => ?_, fun _ => rfl⟩
  cases hnone

/-- The reordering has read that the rule is enabled. -/
theorem reorder_stale : ∃ pending, disabledState.waiting[0]? = some pending ∧
    ¬ pending.UpToDate disabledState.table := by
  refine ⟨_, rfl, fun hfresh => ?_⟩
  have hstale : ∃ rule ∈ SYSTEM_RULES, rule.id = "SR-02" ∧
      currentStatus .empty "acct-1" rule ≠ currentStatus disabledState.table "acct-1" rule := by
    decide +kernel
  obtain ⟨rule, hrule, hid, hne⟩ := hstale
  exact hne ((hfresh rule hrule hid).1 rfl)

theorem racingMoves_lose : ¬ Always Service.move Kept Service.start racingMoves := by
  intro h
  have hkept : Kept (disabledState.move (.send 0)) := h.2.2.2.2
  obtain ⟨pending, hn, hstale⟩ := reorder_stale
  exact hstale (fits_of_kept inv_disabledState hkept pending hn)

end SesEmailAdapter.Database.RuleOverrides
