import Mathlib.Algebra.BigOperators.Group.List.Basic
import Mathlib.Algebra.Order.Group.Int
import Mathlib.Algebra.Ring.Int.Defs
import Mathlib.Data.List.Dedup
import Mathlib.Data.List.Nodup
import Mathlib.Data.List.Sublists

/-! # Tables with a primary key

A finite table whose rows carry their own key, with at most one row per key. Reads and writes by
key satisfy the usual laws, and a row is in the table just when a read of its key finds it. -/

namespace SesEmailAdapter.Lib

structure KeyedTable {K V : Type} (key : V → K) where
  rows : List V
  distinct : (rows.map key).Nodup

namespace KeyedTable

variable {K V : Type} [DecidableEq K] {key : V → K}

def empty : KeyedTable key := ⟨[], List.nodup_nil⟩

def get (t : KeyedTable key) (k : K) : Option V := t.rows.find? fun v => key v = k

def erase (t : KeyedTable key) (k : K) : KeyedTable key where
  rows := t.rows.filter fun v => key v ≠ k
  distinct := t.distinct.sublist (List.filter_sublist.map _)

/-- Writes a row, replacing the one under its key. -/
def put (t : KeyedTable key) (v : V) : KeyedTable key where
  rows := v :: (t.erase (key v)).rows
  distinct := by
    refine List.nodup_cons.mpr ⟨fun hk => ?_, (t.erase (key v)).distinct⟩
    obtain ⟨w, hw, heq⟩ := List.mem_map.mp hk
    have hne := (List.mem_filter.mp hw).2
    rw [decide_eq_true_eq] at hne
    exact hne heq

variable {t : KeyedTable key}

variable {k : K} {v : V}

theorem key_of_get (h : t.get k = some v) : key v = k := by
  have := List.find?_some h
  exact of_decide_eq_true this

theorem mem_rows_iff : v ∈ t.rows ↔ t.get (key v) = some v := by
  obtain ⟨rows, hd⟩ := t
  induction rows with
  | nil => simp [get]
  | cons w ws ih =>
    obtain ⟨hw, hws⟩ := List.nodup_cons.mp hd
    have ih := ih hws
    simp only [get] at ih
    by_cases hk : key w = key v
    · have hnot : v ∉ ws := fun h => hw (hk ▸ List.mem_map.mpr ⟨v, h, rfl⟩)
      simp only [get, List.find?_cons, hk, decide_true, List.mem_cons, hnot, or_false,
        Option.some.injEq]
      exact eq_comm
    · have hne : v ≠ w := fun h => hk (by rw [h])
      simp only [get, List.find?_cons, hk, decide_false, List.mem_cons, hne, false_or]
      exact ih

theorem mem_rows_of_get (h : t.get k = some v) :
    v ∈ t.rows :=
  List.mem_of_find?_eq_some h

@[simp] theorem get_empty (k : K) : (empty : KeyedTable key).get k = none := rfl

theorem get_erase (t : KeyedTable key) (k k' : K) :
    (t.erase k).get k' = if k' = k then none else t.get k' := by
  unfold get erase
  rw [List.find?_filter]
  by_cases h : k' = k
  · rw [if_pos h, List.find?_eq_none]
    intro v _
    simp [h]
  · rw [if_neg h]
    refine congrArg (List.find? · t.rows) (funext fun v => ?_)
    by_cases hv : key v = k'
    · simp [hv, h]
    · simp [hv]

theorem mem_erase :
    v ∈ (t.erase k).rows ↔ v ∈ t.rows ∧ key v ≠ k := by
  simp [erase]

theorem mem_of_mem_foldl_erase {X : Type} {f : X → K} {xs : List X}
    (h : v ∈ (xs.foldl (fun t x => t.erase (f x)) t).rows) : v ∈ t.rows := by
  induction xs generalizing t with
  | nil => exact h
  | cons x xs ih => exact (mem_erase.mp (ih h)).1

theorem mem_put {v w : V} :
    w ∈ (t.put v).rows ↔ w = v ∨ (w ∈ t.rows ∧ key w ≠ key v) := by
  simp [put, erase]

theorem get_put (t : KeyedTable key) (v : V) (k : K) :
    (t.put v).get k = if k = key v then some v else t.get k := by
  by_cases h : k = key v
  · simp [get, put, h]
  · have herase := get_erase t (key v) k
    rw [if_neg h] at herase
    rw [if_neg h, ← herase]
    simp [get, put, Ne.symm h]

@[simp] theorem get_put_self (t : KeyedTable key) (v : V) : (t.put v).get (key v) = some v := by
  rw [get_put, if_pos rfl]

theorem get_put_ne (t : KeyedTable key) (v : V) (h : k ≠ key v) :
    (t.put v).get k = t.get k := by
  rw [get_put, if_neg h]

theorem get_foldl_erase_of_not_mem {ks : List K} (h : k ∉ ks) (t : KeyedTable key) :
    (ks.foldl erase t).get k = t.get k := by
  induction ks generalizing t with
  | nil => rfl
  | cons k' ks ih =>
    rw [List.mem_cons, not_or] at h
    rw [List.foldl_cons, ih h.2, get_erase, if_neg h.1]

theorem get_foldl_erase_of_mem {ks : List K} (h : k ∈ ks) (t : KeyedTable key) :
    (ks.foldl erase t).get k = none := by
  induction ks generalizing t with
  | nil => cases h
  | cons k' ks ih =>
    rw [List.foldl_cons]
    by_cases hrest : k ∈ ks
    · exact ih hrest _
    · obtain rfl := (List.mem_cons.mp h).resolve_right hrest
      rw [get_foldl_erase_of_not_mem hrest, get_erase, if_pos rfl]

theorem get_foldl_put_of_not_mem {vs : List V} (h : k ∉ vs.map key)
    (t : KeyedTable key) : (vs.foldl put t).get k = t.get k := by
  induction vs generalizing t with
  | nil => rfl
  | cons v vs ih =>
    rw [List.map_cons, List.mem_cons, not_or] at h
    rw [List.foldl_cons, ih h.2, get_put_ne t v h.1]

/-- Rows written in turn are there when those of one key are one row. -/
theorem get_foldl_put_of_mem {vs : List V} (hv : v ∈ vs)
    (hone : ∀ w ∈ vs, key w = key v → w = v) (t : KeyedTable key) :
    (vs.foldl put t).get (key v) = some v := by
  induction vs generalizing t with
  | nil => cases hv
  | cons w vs ih =>
    rw [List.foldl_cons]
    by_cases hrest : key v ∈ vs.map key
    · obtain ⟨u, hu, hkey⟩ := List.mem_map.mp hrest
      have huv := hone u (List.mem_cons_of_mem w hu) hkey
      exact ih (huv ▸ hu) (fun x hx => hone x (List.mem_cons_of_mem w hx)) _
    · have hvs : v ∉ vs := fun h => hrest (List.mem_map.mpr ⟨v, h, rfl⟩)
      obtain rfl := (List.mem_cons.mp hv).resolve_right hvs
      rw [get_foldl_put_of_not_mem hrest, get_put_self]

/-- There are as many rows under the keys of a list as there are distinct keys in it. -/
theorem length_rows_under (t : KeyedTable key) {ks : List K} {under : V → Bool}
    (hunder : ∀ v, under v = true ↔ key v ∈ ks) (hrows : ∀ k ∈ ks, ∃ v, t.get k = some v) :
    (t.rows.filter under).length = ks.dedup.length := by
  have hnodup : ((t.rows.filter under).map key).Nodup :=
    t.distinct.sublist (List.filter_sublist.map _)
  rw [← List.length_map (f := key)]
  refine List.Perm.length_eq ((List.perm_ext_iff_of_nodup hnodup ks.nodup_dedup).mpr fun k => ?_)
  simp only [List.mem_map, List.mem_filter, hunder, List.mem_dedup]
  constructor
  · rintro ⟨v, ⟨-, hv⟩, rfl⟩
    exact hv
  · intro hk
    obtain ⟨v, hv⟩ := hrows k hk
    obtain rfl := key_of_get hv
    exact ⟨v, ⟨mem_rows_of_get hv, hk⟩, rfl⟩

/-! ## Sums over the rows -/

def sum (t : KeyedTable key) (f : V → Int) : Int := (t.rows.map f).sum

theorem sum_erase (t : KeyedTable key) (k : K) (f : V → Int) :
    (t.erase k).sum f = t.sum f - (t.get k).elim 0 f := by
  obtain ⟨rows, hd⟩ := t
  simp only [sum, erase, get]
  induction rows with
  | nil => rfl
  | cons v vs ih =>
    obtain ⟨hv, hvs⟩ := List.nodup_cons.mp hd
    have ih := ih hvs
    by_cases hk : key v = k
    · have hkeep : vs.filter (fun w => key w ≠ k) = vs := by
        refine List.filter_eq_self.mpr fun w hw => ?_
        have hne : key w ≠ k := fun h => hv (List.mem_map.mpr ⟨w, hw, h.trans hk.symm⟩)
        simpa using hne
      rw [List.filter_cons, if_neg (by simp [hk]), hkeep, List.find?_cons_of_pos (by simp [hk])]
      simp
    · rw [List.filter_cons, if_pos (by simp [hk]), List.find?_cons_of_neg (by simp [hk])]
      simp only [List.map_cons, List.sum_cons, ih]
      omega

theorem sum_put (t : KeyedTable key) (v : V) (f : V → Int) :
    (t.put v).sum f = t.sum f - (t.get (key v)).elim 0 f + f v := by
  have herase := sum_erase t (key v) f
  have hput : (t.put v).sum f = f v + (t.erase (key v)).sum f := List.sum_cons
  omega

omit [DecidableEq K] in
/-- The rows of a kind, counted. -/
theorem sum_indicator (t : KeyedTable key) (p : V → Bool) :
    t.sum (fun v => if p v then 1 else 0) = ((t.rows.filter p).length : Int) := by
  simp only [sum]
  induction t.rows with
  | nil => rfl
  | cons v vs ih =>
    rw [List.map_cons, List.sum_cons, ih, List.filter_cons]
    cases p v <;> simp
    omega

end KeyedTable

end SesEmailAdapter.Lib
