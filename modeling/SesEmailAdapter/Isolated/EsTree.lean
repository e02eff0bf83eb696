import Mathlib.Logic.Relation

/-! # Syntax trees

The trees of the JavaScript parser. A node is an object with a type, a location and further
fields; a field holds a primitive, a node, or an array of nodes with holes. -/

namespace SesEmailAdapter.Isolated.EsTree

structure Location where
  line : Nat
  column : Nat
deriving DecidableEq

/-- What is no node: `other` stands for a big integer, a regular expression, or an object that
has no `type`. -/
inductive Primitive
  | null
  | bool (b : Bool)
  | num (value : Rat)
  | str (s : String)
  | other
deriving DecidableEq

inductive Value (Node : Type)
  | primitive (p : Primitive)
  | node (n : Node)
  | array (items : List (Option Node))

/-- The keys that a walk over the fields passes over. -/
def passedOver : List String := ["type", "start", "end", "loc", "range"]

/-- The key of a further field. -/
def Key : Type := { key : String // key ∉ passedOver }

inductive Node
  | mk (type : String) (loc : Option Location) (fields : List (Key × Value Node))

namespace Node

def type : Node → String
  | mk type _ _ => type

def loc : Node → Option Location
  | mk _ loc _ => loc

def fields : Node → List (Key × Value Node)
  | mk _ _ fields => fields

def field? (n : Node) (key : String) : Option (Value Node) :=
  (n.fields.find? fun f => f.1.val == key).map (·.2)

/-- The node in a field, if one is there. -/
def child? (n : Node) (key : String) : Option Node :=
  match n.field? key with
  | some (.node m) => some m
  | _ => none

/-- The nodes in the array of a field. -/
def children (n : Node) (key : String) : List Node :=
  match n.field? key with
  | some (.array items) => items.filterMap id
  | _ => []

def primitive? (n : Node) (key : String) : Option Primitive :=
  match n.field? key with
  | some (.primitive p) => some p
  | _ => none

def str? (n : Node) (key : String) : Option String :=
  match n.primitive? key with
  | some (.str s) => some s
  | _ => none

/-- A node in a field, or in the array of a field. -/
def IsChild (n m : Node) : Prop :=
  ∃ key, (key, .node m) ∈ n.fields ∨ ∃ items, (key, .array items) ∈ n.fields ∧ some m ∈ items

/-- The node itself or a node below it. -/
def Within : Node → Node → Prop := Relation.ReflTransGen IsChild

end Node

/-! ## The order of a walk -/

mutual

/-- The nodes of a tree, each before the nodes below it, and these field by field. -/
def Node.preorder : Node → List Node
  | .mk type loc fields => .mk type loc fields :: preorderFields fields

def preorderFields : List (Key × Value Node) → List Node
  | [] => []
  | field :: rest => preorderField field ++ preorderFields rest

def preorderField : Key × Value Node → List Node
  | (_, value) => preorderValue value

def preorderValue : Value Node → List Node
  | .primitive _ => []
  | .node n => n.preorder
  | .array items => preorderItems items

def preorderItems : List (Option Node) → List Node
  | [] => []
  | item :: rest => preorderItem item ++ preorderItems rest

def preorderItem : Option Node → List Node
  | none => []
  | some n => n.preorder

end

variable {n m : Node} {key : String}

theorem mem_preorderItems {items : List (Option Node)} :
    m ∈ preorderItems items ↔ ∃ item, some item ∈ items ∧ m ∈ item.preorder := by
  induction items with
  | nil => simp [preorderItems]
  | cons item rest ih =>
    rw [preorderItems, List.mem_append, ih]
    cases item <;> simp [preorderItem]

theorem mem_preorderFields {fields : List (Key × Value Node)} :
    m ∈ preorderFields fields ↔ ∃ field ∈ fields, m ∈ preorderValue field.2 := by
  induction fields with
  | nil => simp [preorderFields]
  | cons field rest ih =>
    obtain ⟨key, value⟩ := field
    rw [preorderFields, List.mem_append, ih]
    simp [preorderField]

theorem mem_preorder :
    m ∈ n.preorder ↔ m = n ∨ ∃ child, n.IsChild child ∧ m ∈ child.preorder := by
  obtain ⟨type, loc, fields⟩ := n
  rw [Node.preorder, List.mem_cons, mem_preorderFields]
  apply or_congr_right
  constructor
  · intro h
    obtain ⟨⟨key, value⟩, hfield, hm⟩ := h
    cases value with
    | primitive p => simp [preorderValue] at hm
    | node child => exact ⟨child, ⟨key, .inl hfield⟩, hm⟩
    | array items =>
      obtain ⟨child, hitem, hm⟩ := mem_preorderItems.mp hm
      exact ⟨child, ⟨key, .inr ⟨items, hfield, hitem⟩⟩, hm⟩
  · intro h
    obtain ⟨child, ⟨key, hchild⟩, hm⟩ := h
    rcases hchild with hfield | ⟨items, hfield, hitem⟩
    · exact ⟨(key, .node child), hfield, hm⟩
    · exact ⟨(key, .array items), hfield, mem_preorderItems.mpr ⟨child, hitem, hm⟩⟩

theorem self_mem_preorder : n ∈ n.preorder := mem_preorder.mpr (.inl rfl)

/-! ## Sizes -/

theorem sizeOf_lt_of_mem_fields {field : Key × Value Node} (h : field ∈ n.fields) :
    sizeOf field.2 < sizeOf n := by
  obtain ⟨type, loc, fields⟩ := n
  have hmem := List.sizeOf_lt_of_mem h
  obtain ⟨key, value⟩ := field
  simp only [Node.fields, Prod.mk.sizeOf_spec, Node.mk.sizeOf_spec] at hmem ⊢
  omega

theorem sizeOf_lt_of_isChild (h : n.IsChild m) : sizeOf m < sizeOf n := by
  obtain ⟨key, hfield | ⟨items, hfield, hitem⟩⟩ := h
  · have hlt := sizeOf_lt_of_mem_fields hfield
    rw [Value.node.sizeOf_spec] at hlt
    omega
  · have hlt := sizeOf_lt_of_mem_fields hfield
    have hitem := List.sizeOf_lt_of_mem hitem
    rw [Value.array.sizeOf_spec] at hlt
    rw [Option.some.sizeOf_spec] at hitem
    omega

theorem isChild_of_mem_children (h : m ∈ n.children key) : n.IsChild m := by
  unfold Node.children at h
  split at h
  · next items hfield =>
    obtain ⟨field, hfind, hvalue⟩ := Option.map_eq_some_iff.mp hfield
    have hmem := List.mem_of_find?_eq_some hfind
    obtain ⟨key', value⟩ := field
    obtain rfl := hvalue
    exact ⟨key', .inr ⟨items, hmem, by simpa using h⟩⟩
  · cases h

theorem isChild_of_child (h : n.child? key = some m) : n.IsChild m := by
  unfold Node.child? at h
  split at h
  · next child hfield =>
    obtain rfl := Option.some.inj h
    obtain ⟨field, hfind, hvalue⟩ := Option.map_eq_some_iff.mp hfield
    have hmem := List.mem_of_find?_eq_some hfind
    obtain ⟨key', value⟩ := field
    obtain rfl := hvalue
    exact ⟨key', .inl hmem⟩
  · cases h

theorem sizeOf_lt_of_child (h : n.child? key = some m) : sizeOf m < sizeOf n :=
  sizeOf_lt_of_isChild (isChild_of_child h)

/-- Induction on what stands below a node. -/
theorem Node.induction {motive : Node → Prop}
    (step : ∀ n, (∀ child, n.IsChild child → motive child) → motive n) (n : Node) : motive n :=
  step n fun child _ => Node.induction step child
termination_by sizeOf n
decreasing_by exact sizeOf_lt_of_isChild ‹_›

/-- The walk reaches just the nodes below. -/
theorem mem_preorder_iff : m ∈ n.preorder ↔ n.Within m := by
  constructor
  · intro h
    induction n using Node.induction with
    | step n ih =>
      rcases mem_preorder.mp h with rfl | ⟨child, hchild, hm⟩
      · exact .refl
      · exact .head hchild (ih child hchild hm)
  · intro h
    induction h using Relation.ReflTransGen.head_induction_on with
    | refl => exact self_mem_preorder
    | head hchild _ ih => exact mem_preorder.mpr (.inr ⟨_, hchild, ih⟩)

end SesEmailAdapter.Isolated.EsTree
