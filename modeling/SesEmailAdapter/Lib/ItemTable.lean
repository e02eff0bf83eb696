import Mathlib.Data.List.Sigma
import SesEmailAdapter.Lib.KeyedTable
import SesEmailAdapter.Lib.Runs

/-! # Items with attributes

A table whose items have a key and any number of named attributes. A put writes a whole item. An
update changes the attributes of the item under a key, and makes one of what it sets where there is
none. Callers read the table, and the writes that they decide on reach it later, in any order. -/

namespace SesEmailAdapter.Lib

/-- An item of a table with keys `K`, whose attribute `n` has a value of type `V n`. -/
structure Item {N : Type} (K : Type) (V : N → Type) where
  key : K
  attrs : List (Sigma V)

namespace Item
variable {N K : Type} {V : N → Type} [DecidableEq N]

def get (item : Item K V) (n : N) : Option (V n) := item.attrs.dlookup n

/-- The item has a value for every one of the names. -/
def Has (names : List N) (item : Item K V) : Prop := names ⊆ item.attrs.keys

theorem Has.isSome {names : List N} {item : Item K V} (h : item.Has names) {n : N}
    (hn : n ∈ names) : (item.get n).isSome := List.dlookup_isSome.mpr (h hn)

end Item

/-! ## Changes of attributes -/

section Changes
variable {N : Type} {V : N → Type} [DecidableEq N]

def setAttrs (sets attrs : List (Sigma V)) : List (Sigma V) := sets.kunion attrs

def removeAttrs (names : List N) (attrs : List (Sigma V)) : List (Sigma V) :=
  attrs.filter fun attr => attr.1 ∉ names

variable {names removed : List N} {sets attrs : List (Sigma V)}

theorem subset_setAttrs (h : names ⊆ attrs.keys) : names ⊆ (setAttrs sets attrs).keys :=
  fun _ hn => List.mem_keys_kunion.mpr (.inr (h hn))

theorem mem_keys_removeAttrs {n : N} :
    n ∈ (removeAttrs removed attrs).keys ↔ n ∈ attrs.keys ∧ n ∉ removed := by
  simp only [List.mem_keys, removeAttrs, List.mem_filter, decide_eq_true_eq]
  exact exists_and_right

theorem subset_removeAttrs (h : names ⊆ attrs.keys) (hkept : ∀ n ∈ names, n ∉ removed) :
    names ⊆ (removeAttrs removed attrs).keys :=
  fun n hn => mem_keys_removeAttrs.mpr ⟨h hn, hkept n hn⟩

theorem setAttrs_nil_keys {n : N} : n ∈ (setAttrs sets ([] : List (Sigma V))).keys ↔
    n ∈ sets.keys := by
  simp [setAttrs]

theorem dlookup_setAttrs {n : N} :
    (setAttrs sets attrs).dlookup n = (sets.dlookup n).or (attrs.dlookup n) := by
  by_cases hn : n ∈ sets.keys
  · obtain ⟨value, hvalue⟩ := Option.isSome_iff_exists.mp (List.dlookup_isSome.mpr hn)
    rw [setAttrs, List.dlookup_kunion_left hn, hvalue, Option.or]
  · rw [setAttrs, List.dlookup_kunion_right hn, List.dlookup_eq_none.mpr hn, Option.or]

theorem dlookup_removeAttrs {n : N} (hn : n ∉ removed) :
    (removeAttrs removed attrs).dlookup n = attrs.dlookup n := by
  induction attrs with
  | nil => rfl
  | cons attr attrs ih =>
    obtain ⟨m, value⟩ := attr
    by_cases hm : n = m
    · subst hm
      simp [removeAttrs, hn]
    · rw [List.dlookup_cons_ne _ ⟨m, value⟩ hm, ← ih]
      by_cases hremoved : m ∈ removed
      · simp only [removeAttrs, List.filter_cons, hremoved, not_true_eq_false, decide_false]
        rfl
      · simp only [removeAttrs, List.filter_cons, hremoved, not_false_eq_true, decide_true,
          if_true, List.dlookup_cons_ne _ (⟨m, value⟩ : Sigma V) hm]

theorem dlookup_of_removeAttrs {n : N} {v : V n}
    (h : (removeAttrs removed attrs).dlookup n = some v) : attrs.dlookup n = some v := by
  have hkey := List.dlookup_isSome.mp (Option.isSome_of_eq_some h)
  rwa [dlookup_removeAttrs (mem_keys_removeAttrs.mp hkey).2] at h

end Changes

/-! ## Writes -/

abbrev ItemTable {N : Type} (K : Type) (V : N → Type) := KeyedTable (Item.key : Item K V → K)

/-- A write asks something of the item under its key. -/
inductive Write {N : Type} (K : Type) (V : N → Type)
  | put (item : Item K V) (asks : Option (Item K V) → Bool)
  | update (key : K) (asks : Option (Item K V) → Bool)
      (change : List (Sigma V) → List (Sigma V))
  | delete (key : K)

section Table
variable {N K : Type} {V : N → Type} [DecidableEq K]

/-- The attributes that an update of the key starts from. -/
def attrsAt (t : ItemTable K V) (key : K) : List (Sigma V) :=
  ((t.get key).map Item.attrs).getD []

def Write.apply (t : ItemTable K V) : Write K V → ItemTable K V
  | .put item asks => if asks (t.get item.key) then t.put item else t
  | .update key asks change =>
    if asks (t.get key) then t.put ⟨key, change (attrsAt t key)⟩ else t
  | .delete key => t.erase key

def Write.key : Write K V → K
  | .put item _ => item.key
  | .update key _ _ => key
  | .delete key => key

/-- What the write makes of the item under its key. -/
def Write.result (item : Option (Item K V)) : Write K V → Option (Item K V)
  | .put new asks => if asks item then some new else item
  | .update key asks change =>
    if asks item then some ⟨key, change ((item.map Item.attrs).getD [])⟩ else item
  | .delete _ => none

@[simp] theorem Write.get_apply_self (t : ItemTable K V) (w : Write K V) :
    (w.apply t).get w.key = w.result (t.get w.key) := by
  cases w with
  | put item asks =>
    show (if asks (t.get item.key) then t.put item else t).get item.key =
      if asks (t.get item.key) then some item else t.get item.key
    split
    · exact KeyedTable.get_put_self t item
    · rfl
  | update key asks change =>
    show (if asks (t.get key) then t.put ⟨key, change (attrsAt t key)⟩ else t).get key =
      if asks (t.get key) then some ⟨key, change (attrsAt t key)⟩ else t.get key
    split
    · exact KeyedTable.get_put_self t ⟨key, change (attrsAt t key)⟩
    · rfl
  | delete key => exact (KeyedTable.get_erase t key key).trans (if_pos rfl)

/-- A write leaves the items under all other keys. -/
theorem Write.get_apply_ne (t : ItemTable K V) {w : Write K V} {k : K} (h : k ≠ w.key) :
    (w.apply t).get k = t.get k := by
  cases w with
  | put item asks =>
    rw [Write.apply]
    split
    · exact KeyedTable.get_put_ne t item h
    · rfl
  | update key asks change =>
    rw [Write.apply]
    split
    · exact KeyedTable.get_put_ne t ⟨key, change (attrsAt t key)⟩ h
    · rfl
  | delete key => exact (KeyedTable.get_erase t key k).trans (if_neg h)

/-- An update finds its item, unless it is refused. -/
def Write.Finds (t : ItemTable K V) : Write K V → Prop
  | .update key asks _ => asks (t.get key) = true → (t.get key).isSome
  | _ => True

/-! ## Whole items -/

variable {required : K → List N}

/-- Every item has the attributes that its key requires. -/
def Whole (required : K → List N) (t : ItemTable K V) : Prop :=
  ∀ item ∈ t.rows, required item.key ⊆ item.attrs.keys

/-- The write puts whole items only, its update keeps what is required, and is no way to make an
item. -/
def Write.Regular (required : K → List N) : Write K V → Prop
  | .put item _ => required item.key ⊆ item.attrs.keys
  | .update key asks change =>
    (∀ attrs : List (Sigma V), required key ⊆ attrs.keys → required key ⊆ (change attrs).keys) ∧
      (asks none = true → ¬ required key ⊆ (change []).keys)
  | .delete _ => True

variable {t : ItemTable K V}

theorem whole_put {item : Item K V} (h : Whole required t) :
    Whole required (t.put item) ↔ required item.key ⊆ item.attrs.keys := by
  constructor
  · intro hput
    exact hput item (KeyedTable.mem_put.mpr (.inl rfl))
  · intro hitem other hother
    obtain rfl | ⟨hother, -⟩ := KeyedTable.mem_put.mp hother
    · exact hitem
    · exact h other hother

/-- **A regular write leaves the items whole just when it is no update of a missing one.** -/
theorem Write.whole_apply_iff (h : Whole required t) {w : Write K V}
    (hw : w.Regular required) : Whole required (w.apply t) ↔ w.Finds t := by
  cases w with
  | put item asks =>
    refine iff_of_true ?_ trivial
    rw [Write.apply]
    split
    · exact (whole_put h).mpr hw
    · exact h
  | update key asks change =>
    rw [Write.apply]
    by_cases hasks : asks (t.get key) = true
    · rw [if_pos hasks, whole_put h, Write.Finds]
      cases hget : t.get key with
      | none =>
        rw [hget] at hasks
        have hbare : attrsAt t key = [] := by rw [attrsAt, hget]; rfl
        rw [hbare]
        exact iff_of_false (hw.2 hasks) (by simp [hasks])
      | some item =>
        have hitem : required key ⊆ item.attrs.keys := by
          rw [← KeyedTable.key_of_get hget]
          exact h item (KeyedTable.mem_rows_of_get hget)
        have hattrs : attrsAt t key = item.attrs := by rw [attrsAt, hget]; rfl
        rw [hattrs]
        exact iff_of_true (hw.1 _ hitem) (by simp)
    · rw [if_neg hasks]
      exact iff_of_true h fun hyes => absurd hyes hasks
  | delete key =>
    refine iff_of_true (fun item hitem => ?_) trivial
    exact h item (List.mem_filter.mp hitem).1

/-! ## Other properties of items -/

/-- The write makes only items with the property, from such items or from none. -/
def Write.Keeps (P : Item K V → Prop) : Write K V → Prop
  | .put item _ => P item
  | .update key _ change =>
    P ⟨key, change []⟩ ∧ ∀ attrs : List (Sigma V), P ⟨key, attrs⟩ → P ⟨key, change attrs⟩
  | .delete _ => True

theorem Write.keeps_apply {P : Item K V → Prop}
    (h : ∀ item ∈ t.rows, P item) {w : Write K V} (hw : w.Keeps P) :
    ∀ item ∈ (w.apply t).rows, P item := by
  have hput {item : Item K V} (hitem : P item) : ∀ other ∈ (t.put item).rows, P other := by
    intro other hother
    obtain rfl | ⟨hother, -⟩ := KeyedTable.mem_put.mp hother
    · exact hitem
    · exact h other hother
  cases w with
  | put item asks =>
    rw [Write.apply]
    split
    · exact hput hw
    · exact h
  | update key asks change =>
    rw [Write.apply]
    split
    · refine hput ?_
      cases hget : t.get key with
      | none => rw [attrsAt, hget]; exact hw.1
      | some item =>
        obtain rfl := KeyedTable.key_of_get hget
        rw [attrsAt, hget]
        exact hw.2 _ (h item (KeyedTable.mem_rows_of_get hget))
    · exact h
  | delete key => exact fun item hitem => h item (List.mem_filter.mp hitem).1

end Table

/-! ## Callers -/

/-- The table, and the writes that calls have decided on. -/
structure Callers {N : Type} (K : Type) (V : N → Type) [DecidableEq K] where
  table : ItemTable K V
  waiting : List (Write K V)

/-- A call reads and decides on its writes. A write that waits reaches the table. -/
inductive CallerMove (C : Type)
  | begin (call : C)
  | send (n : Nat)

section Callers
variable {N K C : Type} {V : N → Type} [DecidableEq K]
  (writes : C → ItemTable K V → List (Write K V))

def Callers.start : Callers K V := ⟨.empty, []⟩

def Callers.move (s : Callers K V) : CallerMove C → Callers K V
  | .begin call => { s with waiting := s.waiting ++ writes call s.table }
  | .send n =>
    match s.waiting[n]? with
    | some w => ⟨w.apply s.table, s.waiting.eraseIdx n⟩
    | none => s

/-- The write that reaches the table is no update of a missing item. -/
def Callers.Finds (s : Callers K V) : CallerMove C → Prop
  | .begin _ => True
  | .send n => ∀ w, s.waiting[n]? = some w → w.Finds s.table

variable {required : K → List N} {P : Item K V → Prop}

/-- What moves keep as long as every update finds its item. -/
structure Callers.Orderly (required : K → List N) (P : Item K V → Prop) (s : Callers K V) :
    Prop where
  whole : Whole required s.table
  items : ∀ item ∈ s.table.rows, P item
  waiting : ∀ w ∈ s.waiting, w.Regular required ∧ w.Keeps P

variable {writes}

theorem Callers.orderly_start : Callers.Orderly required P (Callers.start : Callers K V) where
  whole := by intro item hitem; cases hitem
  items := by intro item hitem; cases hitem
  waiting := by intro w hw; cases hw

/-- In an orderly state the items stay whole just when the move is no update of a missing one. -/
theorem Callers.whole_move_iff {s : Callers K V} (h : s.Orderly required P) (m : CallerMove C) :
    Whole required (s.move writes m).table ↔ s.Finds m := by
  cases m with
  | begin call => exact iff_of_true h.whole trivial
  | send n =>
    simp only [Callers.move, Callers.Finds]
    cases hn : s.waiting[n]? with
    | none => exact iff_of_true h.whole (by simp)
    | some w =>
      simp only [Option.some.injEq, forall_eq']
      exact Write.whole_apply_iff h.whole (h.waiting w (List.mem_of_getElem? hn)).1

theorem Callers.orderly_move
    (hwrites : ∀ call t, ∀ w ∈ writes call t, w.Regular required ∧ w.Keeps P) {s : Callers K V}
    (h : s.Orderly required P) {m : CallerMove C}
    (hwhole : Whole required (s.move writes m).table) :
    (s.move writes m).Orderly required P := by
  cases m with
  | begin call =>
    refine ⟨h.whole, h.items, fun w hw => ?_⟩
    obtain hw | hw := List.mem_append.mp hw
    · exact h.waiting w hw
    · exact hwrites call s.table w hw
  | send n =>
    simp only [Callers.move] at hwhole ⊢
    cases hn : s.waiting[n]? with
    | none => exact h
    | some w =>
      rw [hn] at hwhole
      have hw := h.waiting w (List.mem_of_getElem? hn)
      refine ⟨hwhole, Write.keeps_apply h.items hw.2, fun other hother => ?_⟩
      exact h.waiting other (List.mem_of_mem_eraseIdx hother)

/-- **Runs of callers.** A property that orderly states have, and that leaves items whole, holds in
every state of a run just when every update of the run finds its item. -/
theorem Callers.always_iff {Q : Callers K V → Prop}
    (hwrites : ∀ call t, ∀ w ∈ writes call t, w.Regular required ∧ w.Keeps P)
    (hgood : ∀ s : Callers K V, s.Orderly required P → Q s)
    (hwhole : ∀ s, Q s → Whole required s.table) (moves : List (CallerMove C)) :
    Always (Callers.move writes) Q Callers.start moves ↔
      EachFits (Callers.move writes) Callers.Finds Callers.start moves := by
  have hkept (s : Callers K V) (m : CallerMove C) (h : s.Orderly required P) (hfinds : s.Finds m) :
      (s.move writes m).Orderly required P :=
    Callers.orderly_move hwrites h ((Callers.whole_move_iff h m).mpr hfinds)
  have hfits (s : Callers K V) (m : CallerMove C) (h : s.Orderly required P)
      (hnext : Q (s.move writes m)) : s.Finds m :=
    (Callers.whole_move_iff h m).mp (hwhole _ hnext)
  exact always_iff_eachFits_under hkept hgood hfits Callers.orderly_start

end Callers

end SesEmailAdapter.Lib
