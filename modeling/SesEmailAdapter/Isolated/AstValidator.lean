import Mathlib.Tactic.SplitIfs
import SesEmailAdapter.Isolated.EsTree

/-! # The validator of rule code

Code of a rule is a single function expression without constructs that escape the sandbox or
loop without bound. The validator walks the whole syntax tree and reports the first node that is
not allowed. -/

namespace SesEmailAdapter.Isolated.AstValidator
open Isolated.EsTree

inductive AstValidationResult
  | valid
  | invalid (error : String) (location : Option Location)
deriving DecidableEq

def DISALLOWED_GLOBALS : List String := ["globalThis", "process", "Deno", "Bun"]

/-! ## Loop guards -/

/-- The expression contains a numeric literal. -/
def hasNumericBound (n : Node) : Bool :=
  if n.type = "Literal" then
    match n.primitive? "value" with
    | some (.num _) => true
    | _ => false
  else if n.type = "BinaryExpression" ∨ n.type = "LogicalExpression" then
    (match _hleft : n.child? "left" with
      | some left => hasNumericBound left
      | none => false) ||
    (match _hright : n.child? "right" with
      | some right => hasNumericBound right
      | none => false)
  else false
termination_by sizeOf n
decreasing_by
  · exact sizeOf_lt_of_child _hleft
  · exact sizeOf_lt_of_child _hright

/-- The statement or block contains a break statement. -/
def hasBreakStatement (n : Node) : Bool :=
  if n.type = "BreakStatement" then true
  else if n.type = "BlockStatement" then
    (n.children "body").attach.any fun ⟨s, _⟩ => hasBreakStatement s
  else if n.type = "IfStatement" then
    (match _hthen : n.child? "consequent" with
      | some consequent => hasBreakStatement consequent
      | none => false) ||
    (match _helse : n.child? "alternate" with
      | some alternate => hasBreakStatement alternate
      | none => false)
  else false
termination_by sizeOf n
decreasing_by
  · exact sizeOf_lt_of_isChild (isChild_of_mem_children ‹_›)
  · exact sizeOf_lt_of_child _hthen
  · exact sizeOf_lt_of_child _helse

def hasBoundedGuard (n : Node) : Bool :=
  if n.type = "WhileStatement" ∨ n.type = "DoWhileStatement" ∨ n.type = "ForStatement" then
    (n.child? "test").any hasNumericBound || (n.child? "body").any hasBreakStatement
  else false

/-! ## The walk -/

def isIdentifier (n : Option Node) (name : String) : Bool :=
  n.any fun m => m.type == "Identifier" && m.str? "name" == some name

/-- What the walk rejects at the node itself. -/
def violation (n : Node) : Option String :=
  if n.type = "CallExpression" then
    if isIdentifier (n.child? "callee") "eval" then some "eval() calls are not allowed"
    else if isIdentifier (n.child? "callee") "Function" then
      some "Function constructor is not allowed"
    else if isIdentifier (n.child? "callee") "require" then
      some "require() calls are not allowed"
    else none
  else if n.type = "NewExpression" then
    if isIdentifier (n.child? "callee") "Function" then
      some "Function constructor is not allowed"
    else none
  else if n.type = "ImportExpression" then some "import() expressions are not allowed"
  else if n.type = "MemberExpression" then
    (DISALLOWED_GLOBALS.find? (isIdentifier (n.child? "object"))).map fun name =>
      "Access on '" ++ name ++ "' is not allowed"
  else if n.type = "WhileStatement" ∨ n.type = "DoWhileStatement" then
    if hasBoundedGuard n then none
    else some ("Unbounded " ++ n.type ++ " is not allowed; add a numeric limit or break")
  else if n.type = "ForStatement" then
    if hasBoundedGuard n then none
    else some "Unbounded ForStatement is not allowed; add a numeric limit in the condition"
  else if n.type = "VariableDeclaration" then
    if n.str? "kind" = some "var" then
      some "'var' declarations are not allowed; use 'const' or 'let'"
    else none
  else none

mutual

def walkNode : Node → AstValidationResult
  | .mk type loc fields =>
    match violation (.mk type loc fields) with
    | some error => .invalid error loc
    | none => walkChildren fields

def walkChildren : List (Key × Value Node) → AstValidationResult
  | [] => .valid
  | field :: rest =>
    match walkField field with
    | .valid => walkChildren rest
    | .invalid error location => .invalid error location

def walkField : Key × Value Node → AstValidationResult
  | (_, value) => walkValue value

def walkValue : Value Node → AstValidationResult
  | .primitive _ => .valid
  | .node n => walkNode n
  | .array items => walkItems items

def walkItems : List (Option Node) → AstValidationResult
  | [] => .valid
  | item :: rest =>
    match walkItem item with
    | .valid => walkItems rest
    | .invalid error location => .invalid error location

def walkItem : Option Node → AstValidationResult
  | none => .valid
  | some n => walkNode n

end

def isFunction (expr : Node) : Bool :=
  expr.type == "ArrowFunctionExpression" || expr.type == "FunctionExpression"

/-- The decision on the parsed expression. -/
def validateExpression (expr : Node) : AstValidationResult :=
  if isFunction expr then walkNode expr
  else
    .invalid ("Top-level " ++ expr.type ++
      " is not allowed; code must be an arrow function or function expression") none

/-- The parser: an expression at the start of the code with its end, or a whole program. A failed
parse of a program may carry the message and the place of a syntax error. -/
structure Parser where
  parseExpressionAt : List Char → Option (Node × Nat)
  parse : List Char → Except (Option (String × Option Location)) (List Node)

def validateCodeAst (acorn : Parser) (code : List Char) : AstValidationResult :=
  match (acorn.parseExpressionAt code).filter fun parsed => parsed.2 == code.length with
  | some (expr, _) => validateExpression expr
  | none =>
    match acorn.parse code with
    | .error (some (message, location)) => .invalid message location
    | .error none => .invalid "Failed to parse code" none
    | .ok [stmt] =>
      if stmt.type ≠ "ExpressionStatement" then
        .invalid ("Top-level " ++ stmt.type ++
          " is not allowed; code must be a function expression") none
      else
        match stmt.child? "expression" with
        | some expr => validateExpression expr
        | none => .invalid "Failed to parse code" none
    | .ok _ => .invalid "Code must be a single function expression" none

/-! ## The first violation -/

/-- The report on the node itself. -/
def report (n : Node) : Option AstValidationResult :=
  (violation n).map (.invalid · n.loc)

/-- The report on the first node of a list that is not allowed. -/
def firstReport (nodes : List Node) : AstValidationResult :=
  (nodes.findSome? report).getD .valid

theorem firstReport_append (xs ys : List Node) :
    firstReport (xs ++ ys) =
      match firstReport xs with
      | .valid => firstReport ys
      | .invalid error location => .invalid error location := by
  unfold firstReport
  rw [List.findSome?_append]
  cases hxs : xs.findSome? report with
  | none => rfl
  | some result =>
    obtain ⟨n, -, hn⟩ := List.exists_of_findSome?_eq_some hxs
    obtain ⟨error, -, rfl⟩ := Option.map_eq_some_iff.mp hn
    rfl

mutual

/-- The walk reports the first node in its order that is not allowed. -/
theorem walkNode_eq : ∀ n, walkNode n = firstReport n.preorder
  | .mk type loc fields => by
    rw [walkNode, Node.preorder, firstReport, List.findSome?_cons, report, walkChildren_eq fields]
    cases violation (.mk type loc fields) <;> rfl

theorem walkChildren_eq : ∀ fields, walkChildren fields = firstReport (preorderFields fields)
  | [] => rfl
  | field :: rest => by
    rw [walkChildren, preorderFields, firstReport_append, walkField_eq field,
      walkChildren_eq rest]

theorem walkField_eq : ∀ field, walkField field = firstReport (preorderField field)
  | (_, value) => walkValue_eq value

theorem walkValue_eq : ∀ value, walkValue value = firstReport (preorderValue value)
  | .primitive _ => rfl
  | .node n => walkNode_eq n
  | .array items => walkItems_eq items

theorem walkItems_eq : ∀ items, walkItems items = firstReport (preorderItems items)
  | [] => rfl
  | item :: rest => by
    rw [walkItems, preorderItems, firstReport_append, walkItem_eq item, walkItems_eq rest]

theorem walkItem_eq : ∀ item, walkItem item = firstReport (preorderItem item)
  | none => rfl
  | some n => walkNode_eq n

end

theorem firstReport_eq_valid_iff {nodes : List Node} :
    firstReport nodes = .valid ↔ ∀ n ∈ nodes, violation n = none := by
  induction nodes with
  | nil => simp [firstReport]
  | cons n nodes ih =>
    rw [List.forall_mem_cons, ← ih, firstReport, firstReport, List.findSome?_cons, report]
    cases violation n <;> simp

theorem firstReport_eq_invalid {nodes : List Node} {error : String} {location : Option Location}
    (h : firstReport nodes = .invalid error location) :
    ∃ before n after, nodes = before ++ n :: after ∧ violation n = some error ∧
      location = n.loc ∧ ∀ m ∈ before, violation m = none := by
  induction nodes with
  | nil => cases h
  | cons n nodes ih =>
    cases hn : violation n with
    | some found =>
      rw [firstReport, List.findSome?_cons, report, hn] at h
      obtain ⟨rfl, rfl⟩ := AstValidationResult.invalid.inj h
      exact ⟨[], n, nodes, rfl, hn, rfl, by simp⟩
    | none =>
      rw [firstReport, List.findSome?_cons, report, hn] at h
      obtain ⟨before, m, after, rfl, hm, hloc, hbefore⟩ := ih h
      exact ⟨n :: before, m, after, rfl, hm, hloc, List.forall_mem_cons.mpr ⟨hn, hbefore⟩⟩

/-! ## What is not allowed -/

/-- The field is an identifier of that name. -/
def Names (n : Node) (key name : String) : Prop :=
  ∃ m, n.child? key = some m ∧ m.type = "Identifier" ∧ m.str? "name" = some name

inductive Disallowed (n : Node) : Prop
  | call (type : n.type = "CallExpression") (name : String)
    (mem : name ∈ ["eval", "Function", "require"]) (callee : Names n "callee" name)
  | construct (type : n.type = "NewExpression") (callee : Names n "callee" "Function")
  | dynamicImport (type : n.type = "ImportExpression")
  | access (type : n.type = "MemberExpression") (name : String)
    (mem : name ∈ ["globalThis", "process", "Deno", "Bun"]) (object : Names n "object" name)
  | varDeclaration (type : n.type = "VariableDeclaration") (kind : n.str? "kind" = some "var")
  | loop (type : n.type ∈ ["WhileStatement", "DoWhileStatement", "ForStatement"])
    (guard : hasBoundedGuard n = false)

theorem isIdentifier_iff {n : Node} {key name : String} :
    isIdentifier (n.child? key) name = true ↔ Names n key name := by
  unfold isIdentifier Names
  cases n.child? key <;> simp

theorem Disallowed.of_violation {n : Node} {error : String} (h : violation n = some error) :
    Disallowed n := by
  unfold violation at h
  split_ifs at h with hcall heval hfunction hrequire hnew hconstruct himport hmember hloop hguard
    hfor hguard hvar hkind
  · exact .call hcall "eval" (by simp) (isIdentifier_iff.mp heval)
  · exact .call hcall "Function" (by simp) (isIdentifier_iff.mp hfunction)
  · exact .call hcall "require" (by simp) (isIdentifier_iff.mp hrequire)
  · exact .construct hnew (isIdentifier_iff.mp hconstruct)
  · exact .dynamicImport himport
  · obtain ⟨name, hname, -⟩ := Option.map_eq_some_iff.mp h
    exact .access hmember name (List.mem_of_find?_eq_some hname)
      (isIdentifier_iff.mp (List.find?_some hname))
  · refine .loop ?_ (Bool.eq_false_iff.mpr hguard)
    rcases hloop with htype | htype <;> simp [htype]
  · exact .loop (by simp [hfor]) (Bool.eq_false_iff.mpr hguard)
  · exact .varDeclaration hvar hkind

theorem Disallowed.violation_ne_none {n : Node} (h : Disallowed n) : violation n ≠ none := by
  cases h with
  | call htype name hmem hcallee =>
    have hname := isIdentifier_iff.mpr hcallee
    simp only [List.mem_cons, List.not_mem_nil, or_false] at hmem
    rcases hmem with rfl | rfl | rfl
    · simp [violation, htype, hname]
    · simp only [violation, htype, hname, if_true]
      split_ifs <;> simp
    · simp only [violation, htype, hname, if_true]
      split_ifs <;> simp
  | construct htype hcallee => simp [violation, htype, isIdentifier_iff.mpr hcallee]
  | dynamicImport htype => simp [violation, htype]
  | access htype name hmem hobject =>
    simp only [violation, htype, String.reduceEq, if_false, if_true, ne_eq,
      Option.map_eq_none_iff, List.find?_eq_none]
    exact fun hnone => hnone name hmem (isIdentifier_iff.mpr hobject)
  | varDeclaration htype hkind => simp [violation, htype, hkind]
  | loop htype hguard =>
    simp only [List.mem_cons, List.not_mem_nil, or_false] at htype
    rcases htype with htype | htype | htype <;> simp [violation, htype, hguard]

theorem violation_eq_none_iff {n : Node} : violation n = none ↔ ¬ Disallowed n := by
  constructor
  · exact fun hnone h => h.violation_ne_none hnone
  · intro h
    cases hviolation : violation n with
    | none => rfl
    | some error => exact absurd (Disallowed.of_violation hviolation) h

/-- The expression is accepted just if it is a function in which nothing disallowed stands. A
function is rejected at the first disallowed node in the order of the walk, and what is no
function without a place. -/
theorem validateExpression_spec (expr : Node) :
    (validateExpression expr = .valid ↔
      isFunction expr = true ∧ ∀ n, expr.Within n → ¬ Disallowed n) ∧
    (∀ error location, validateExpression expr = .invalid error location →
      (isFunction expr = false ∧ location = none) ∨
        ∃ before n after, expr.preorder = before ++ n :: after ∧ Disallowed n ∧
          location = n.loc ∧ ∀ m ∈ before, ¬ Disallowed m) := by
  unfold validateExpression
  split_ifs with hfunction
  · rw [walkNode_eq, firstReport_eq_valid_iff]
    refine ⟨by simp only [mem_preorder_iff, violation_eq_none_iff, hfunction, true_and], ?_⟩
    intro error location h
    obtain ⟨before, n, after, horder, hviolation, hloc, hbefore⟩ := firstReport_eq_invalid h
    exact .inr ⟨before, n, after, horder, .of_violation hviolation, hloc,
      fun m hm => violation_eq_none_iff.mp (hbefore m hm)⟩
  · refine ⟨by simp [hfunction], ?_⟩
    intro error location h
    obtain ⟨-, rfl⟩ := AstValidationResult.invalid.inj h
    exact .inl ⟨Bool.eq_false_iff.mpr hfunction, rfl⟩

end SesEmailAdapter.Isolated.AstValidator
