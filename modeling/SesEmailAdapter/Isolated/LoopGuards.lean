import SesEmailAdapter.Isolated.AstValidator

/-! # LoopGuards

The guard that the validator asks of a loop: a number among the operands of its test, or a break
below its blocks and branches. Such a break exits the loop; whether the number bounds it is left to
the timeout of the sandbox. -/

namespace SesEmailAdapter.Isolated.LoopGuards
open Isolated.EsTree Isolated.AstValidator

/-! ## Numbers in a test -/

/-- An operand of the binary and logical operators of a test. -/
inductive Operand : Node → Node → Prop
  | self (n : Node) : Operand n n
  | under {n m operand : Node}
    (type : n.type = "BinaryExpression" ∨ n.type = "LogicalExpression")
    (child : n.child? "left" = some m ∨ n.child? "right" = some m) (rest : Operand m operand) :
    Operand n operand

def IsNumber (n : Node) : Prop :=
  n.type = "Literal" ∧ ∃ value, n.primitive? "value" = some (.num value)

variable {n : Node}

theorem hasNumericBound_operator
    (htype : n.type = "BinaryExpression" ∨ n.type = "LogicalExpression") :
    hasNumericBound n = ((n.child? "left").any hasNumericBound ||
      (n.child? "right").any hasNumericBound) := by
  have hliteral : n.type ≠ "Literal" := by rcases htype with htype | htype <;> simp [htype]
  rw [hasNumericBound, if_neg hliteral, if_pos htype]
  congr 1
  · split <;> simp [*]
  · split <;> simp [*]

theorem hasNumericBound_iff :
    hasNumericBound n = true ↔ ∃ operand, Operand n operand ∧ IsNumber operand := by
  constructor
  · intro h
    induction n using Node.induction with
    | step n ih =>
      by_cases htype : n.type = "BinaryExpression" ∨ n.type = "LogicalExpression"
      · rw [hasNumericBound_operator htype, Bool.or_eq_true, Option.any_eq_true,
          Option.any_eq_true] at h
        rcases h with ⟨m, hm, hbound⟩ | ⟨m, hm, hbound⟩
        · obtain ⟨operand, hoperand, hnumber⟩ := ih m (isChild_of_child hm) hbound
          exact ⟨operand, .under htype (.inl hm) hoperand, hnumber⟩
        · obtain ⟨operand, hoperand, hnumber⟩ := ih m (isChild_of_child hm) hbound
          exact ⟨operand, .under htype (.inr hm) hoperand, hnumber⟩
      · rw [hasNumericBound, if_neg htype] at h
        split_ifs at h with hliteral
        split at h
        · next value hvalue => exact ⟨n, .self n, hliteral, value, hvalue⟩
        · cases h
  · intro h
    obtain ⟨operand, hoperand, hnumber⟩ := h
    induction hoperand with
    | self n =>
      obtain ⟨htype, value, hvalue⟩ := hnumber
      simp [hasNumericBound, htype, hvalue]
    | under htype hchild _ ih =>
      rw [hasNumericBound_operator htype]
      rcases hchild with hchild | hchild
      · simp [hchild, ih hnumber]
      · simp [hchild, ih hnumber]

/-! ## Breaks in a body -/

/-- A break below a statement, and the blocks and branches on the way to it, the innermost first. -/
inductive Counted : Node → List Node → Node → Prop
  | here {n : Node} (type : n.type = "BreakStatement") : Counted n [] n
  | block {n s b : Node} {path : List Node} (type : n.type = "BlockStatement")
    (mem : s ∈ n.children "body") (rest : Counted s path b) : Counted n (path ++ [n]) b
  | branch {n s b : Node} {path : List Node} (type : n.type = "IfStatement")
    (child : n.child? "consequent" = some s ∨ n.child? "alternate" = some s)
    (rest : Counted s path b) : Counted n (path ++ [n]) b

theorem hasBreakStatement_block (htype : n.type = "BlockStatement") :
    hasBreakStatement n = (n.children "body").any hasBreakStatement := by
  rw [hasBreakStatement]
  simp [htype]

theorem hasBreakStatement_branch (htype : n.type = "IfStatement") :
    hasBreakStatement n = ((n.child? "consequent").any hasBreakStatement ||
      (n.child? "alternate").any hasBreakStatement) := by
  rw [hasBreakStatement, if_neg (by simp [htype]), if_neg (by simp [htype]), if_pos htype]
  congr 1
  · split <;> simp [*]
  · split <;> simp [*]

theorem hasBreakStatement_iff :
    hasBreakStatement n = true ↔ ∃ path b, Counted n path b := by
  constructor
  · intro h
    induction n using Node.induction with
    | step n ih =>
      by_cases hblock : n.type = "BlockStatement"
      · rw [hasBreakStatement_block hblock, List.any_eq_true] at h
        obtain ⟨s, hs, hbreak⟩ := h
        obtain ⟨path, b, hpath⟩ := ih s (isChild_of_mem_children hs) hbreak
        exact ⟨_, b, .block hblock hs hpath⟩
      by_cases hbranch : n.type = "IfStatement"
      · rw [hasBreakStatement_branch hbranch, Bool.or_eq_true, Option.any_eq_true,
          Option.any_eq_true] at h
        rcases h with ⟨s, hs, hbreak⟩ | ⟨s, hs, hbreak⟩
        · obtain ⟨path, b, hpath⟩ := ih s (isChild_of_child hs) hbreak
          exact ⟨_, b, .branch hbranch (.inl hs) hpath⟩
        · obtain ⟨path, b, hpath⟩ := ih s (isChild_of_child hs) hbreak
          exact ⟨_, b, .branch hbranch (.inr hs) hpath⟩
      · rw [hasBreakStatement, if_neg hblock, if_neg hbranch] at h
        split_ifs at h with hbreak
        exact ⟨[], n, .here hbreak⟩
  · intro h
    obtain ⟨path, b, h⟩ := h
    induction h with
    | here htype => simp [hasBreakStatement, htype]
    | block htype hmem _ ih =>
      rw [hasBreakStatement_block htype]
      exact List.any_eq_true.mpr ⟨_, hmem, ih⟩
    | branch htype hchild _ ih =>
      rw [hasBreakStatement_branch htype]
      rcases hchild with hchild | hchild
      · simp [hchild, ih]
      · simp [hchild, ih]

/-! ## Where a break goes -/

def labelOf (n : Node) : Option String := (n.child? "label").bind fun label => label.str? "name"

def breakable : List String :=
  ["WhileStatement", "DoWhileStatement", "ForStatement", "ForInStatement", "ForOfStatement",
    "SwitchStatement"]

/-- A break without a label leaves a loop or a `switch`, one with a label the statement of it. -/
def leaves : Option String → Node → Bool
  | none, n => breakable.contains n.type
  | some label, n => n.type == "LabeledStatement" && labelOf n == some label

/-- The statement that a break leaves, of those around it with the innermost first. -/
def breakTarget (label : Option String) (around : List Node) : Option Node :=
  around.find? (leaves label)

theorem Counted.leaves_eq {n b : Node} {path : List Node} (h : Counted n path b)
    (label : Option String) : ∀ m ∈ path, leaves label m = false := by
  have hplain {m : Node} (htype : m.type = "BlockStatement" ∨ m.type = "IfStatement") :
      leaves label m = false := by
    cases label <;> rcases htype with htype | htype <;> simp [leaves, breakable, htype]
  induction h with
  | here => exact fun _ hm => absurd hm List.not_mem_nil
  | block htype _ _ ih =>
    exact List.forall_mem_append.mpr ⟨ih, List.forall_mem_singleton.mpr (hplain (.inl htype))⟩
  | branch htype _ _ ih =>
    exact List.forall_mem_append.mpr ⟨ih, List.forall_mem_singleton.mpr (hplain (.inr htype))⟩

def loopTypes : List String := ["WhileStatement", "DoWhileStatement", "ForStatement"]

/-- The guard of a loop. Its breaks leave the loop, or a statement of their label around it. -/
structure Guarded (loop : Node) : Prop where
  guard : (∃ test operand, loop.child? "test" = some test ∧ Operand test operand ∧
      IsNumber operand) ∨ ∃ body path b, loop.child? "body" = some body ∧ Counted body path b
  exits : ∀ body path b, loop.child? "body" = some body → Counted body path b → ∀ outer,
    breakTarget (labelOf b) (path ++ loop :: outer) =
      if labelOf b = none then some loop else breakTarget (labelOf b) outer

theorem breakTarget_counted {loop body b : Node} {path : List Node} (hloop : loop.type ∈ loopTypes)
    (h : Counted body path b) (label : Option String) (outer : List Node) :
    breakTarget label (path ++ loop :: outer) =
      if label = none then some loop else breakTarget label outer := by
  have hpath : path.find? (leaves label) = none :=
    List.find?_eq_none.mpr fun m hm => Bool.eq_false_iff.mp (h.leaves_eq label m hm)
  rw [breakTarget, List.find?_append, hpath, Option.none_or]
  simp only [loopTypes, List.mem_cons, List.not_mem_nil, or_false] at hloop
  cases label with
  | none => rcases hloop with h | h | h <;> simp [leaves, breakable, h]
  | some label => rcases hloop with h | h | h <;> simp [leaves, h, breakTarget]

/-- Every loop of an accepted function is guarded. -/
theorem loops_guarded {expr loop : Node} (h : validateExpression expr = .valid)
    (hin : expr.Within loop) (hloop : loop.type ∈ loopTypes) : Guarded loop := by
  refine ⟨?_, fun body path b _ hb => breakTarget_counted hloop hb _⟩
  unfold validateExpression at h
  split_ifs at h with hfunction
  rw [walkNode_eq, firstReport_eq_valid_iff] at h
  have hguard : hasBoundedGuard loop = true := by
    have hallowed := violation_eq_none_iff.mp (h loop (mem_preorder_iff.mpr hin))
    cases hbound : hasBoundedGuard loop with
    | true => rfl
    | false => exact absurd (.loop hloop hbound) hallowed
  unfold hasBoundedGuard at hguard
  split_ifs at hguard
  simp only [Bool.or_eq_true, Option.any_eq_true, hasNumericBound_iff, hasBreakStatement_iff]
    at hguard
  rcases hguard with ⟨test, htest, operand, hoperand⟩ | ⟨body, hbody, path, b, hb⟩
  · exact .inl ⟨test, operand, htest, hoperand⟩
  · exact .inr ⟨body, path, b, hbody, hb⟩

/-! ## A loop without an end -/

theorem params_free : "params" ∉ passedOver := by decide
theorem body_free : "body" ∉ passedOver := by decide
theorem test_free : "test" ∉ passedOver := by decide
theorem value_free : "value" ∉ passedOver := by decide

def one : Node := .mk "Literal" none [(⟨"value", value_free⟩, .primitive (.num 1))]

def block (body : List Node) : Node :=
  .mk "BlockStatement" none [(⟨"body", body_free⟩, .array (body.map some))]

/-- `while (1) ∅` -/
def forever : Node :=
  .mk "WhileStatement" none
    [(⟨"test", test_free⟩, .node one), (⟨"body", body_free⟩, .node (block []))]

def endless : Node :=
  .mk "ArrowFunctionExpression" none
    [(⟨"params", params_free⟩, .array []), (⟨"body", body_free⟩, .node (block [forever]))]

theorem forever_type : forever.type = "WhileStatement" := rfl

theorem endless_preorder :
    endless.preorder = [endless, block [forever], forever, one, block []] := rfl

theorem forever_within : endless.Within forever :=
  mem_preorder_iff.mp (by simp [endless_preorder])

theorem endless_valid : validateExpression endless = .valid := by
  have hguard : hasBoundedGuard forever = true := by
    have hbound : hasNumericBound one = true :=
      hasNumericBound_iff.mpr ⟨one, .self one, rfl, 1, rfl⟩
    simp [hasBoundedGuard, forever, Node.type, Node.child?, Node.field?, Node.fields, hbound]
  have hforever : violation forever = none := by simp [violation, forever_type, hguard]
  have hothers : violation endless = none ∧ violation (block [forever]) = none ∧
      violation one = none ∧ violation (block []) = none := by
    simp [violation, endless, block, one, Node.type]
  have hfunction : isFunction endless = true := by simp [isFunction, endless, Node.type]
  rw [validateExpression, if_pos hfunction, walkNode_eq, firstReport_eq_valid_iff,
    endless_preorder]
  simp [hforever, hothers]

/-- The guard that it is accepted for. -/
theorem forever_guarded : Guarded forever :=
  loops_guarded endless_valid forever_within (by simp [loopTypes, forever_type])

/-- Its test is a number and no comparison, and nothing in its body leaves it. -/
theorem endless_accepted : validateExpression endless = .valid ∧ endless.Within forever ∧
    forever.child? "test" = some one ∧ IsNumber one ∧
    (∀ operand, Operand one operand → operand = one) ∧
    forever.child? "body" = some (block []) ∧ ∀ n, (block []).Within n → n = block [] := by
  refine ⟨endless_valid, forever_within, rfl, ⟨rfl, 1, rfl⟩, fun operand h => ?_, rfl,
    fun n h => List.mem_singleton.mp (mem_preorder_iff.mpr h)⟩
  cases h with
  | self => rfl
  | under htype => simp [one, Node.type] at htype

end SesEmailAdapter.Isolated.LoopGuards
