import Mathlib.Data.List.Sort

/-! # Batches above a position

A consumer of numbered items keeps a position, takes the lowest items above it, a bounded number at
a time, and moves to the last one it took. -/

namespace SesEmailAdapter.Lib.Batches

variable {α : Type} [LinearOrder α] {items l waiting batch : List α} {position last x : α} {n : Nat}

/-- The items above a position, in ascending order. -/
def above (position : α) (items : List α) : List α :=
  (items.filter (position < ·)).mergeSort fun a b => decide (a ≤ b)

theorem mem_above : x ∈ above position items ↔ x ∈ items ∧ position < x := by
  simp [above, List.mem_mergeSort]

theorem above_sorted (position : α) (items : List α) :
    (above position items).Pairwise (· ≤ ·) := by
  have : Std.Total fun a b : α => a ≤ b := ⟨le_total⟩
  have : IsTrans α fun a b => a ≤ b := ⟨fun _ _ _ => le_trans⟩
  exact List.pairwise_mergeSort' (· ≤ ·) _

theorem above_nodup (h : items.Nodup) : (above position items).Nodup :=
  (List.mergeSort_perm _ _).nodup_iff.mpr (h.filter _)

theorem le_last_of_mem (hl : l.Pairwise (· ≤ ·)) (hlast : l.getLast? = some last) (hx : x ∈ l) :
    x ≤ last := by
  obtain ⟨front, rfl⟩ := List.getLast?_eq_some_iff.mp hlast
  rcases List.mem_append.mp hx with hx | hx
  · exact (List.pairwise_append.mp hl).2.2 x hx last (List.mem_singleton.mpr rfl)
  · exact le_of_eq (List.mem_singleton.mp hx)

/-- A batch holds every item up to its last one. -/
theorem mem_take_of_le_last (hl : l.Pairwise (· ≤ ·)) (hlast : (l.take n).getLast? = some last)
    (hx : x ∈ l) (hle : x ≤ last) : x ∈ l.take n := by
  rw [← List.take_append_drop n l] at hx hl
  rcases List.mem_append.mp hx with hx | hx
  · exact hx
  · have hmem : last ∈ l.take n := List.mem_of_getLast? hlast
    have hge := (List.pairwise_append.mp hl).2.2 last hmem x hx
    rwa [le_antisymm hle hge]

/-! ## What is left -/

/-- How many of the waiting items lie beyond a position. -/
def remaining (waiting : List α) (position : α) : Nat := waiting.countP (position < ·)

/-- A batch takes as many off as it holds beyond the position, where nothing in it came before an
item that waits. -/
theorem remaining_advance (hsorted : batch.Pairwise (· ≤ ·)) (hnodup : batch.Nodup)
    (hlast : batch.getLast? = some last) (hpast : position ≤ last)
    (hbatch : ∀ x ∈ batch, position < x → x ∈ waiting ∨ ∀ y ∈ waiting, y < x) :
    remaining waiting last + batch.countP (position < ·) ≤ remaining waiting position ∨
      remaining waiting last = 0 := by
  by_cases hafter : ∃ x ∈ batch, ∀ y ∈ waiting, y < x
  · obtain ⟨x, hx, hy⟩ := hafter
    refine .inr (List.countP_eq_zero.mpr fun y hmem => ?_)
    simpa using (hy y hmem).le.trans (le_last_of_mem hsorted hlast hx)
  · refine .inl ?_
    have htaken : batch.filter (position < ·) ⊆
        (waiting.filter (· ≤ last)).filter (position < ·) := by
      intro x hx
      obtain ⟨hmem, hlt⟩ := List.mem_filter.mp hx
      have hwaits := (hbatch x hmem (of_decide_eq_true hlt)).resolve_right
        fun hy => hafter ⟨x, hmem, hy⟩
      have hle : x ≤ last := le_last_of_mem hsorted hlast hmem
      simp [hwaits, hle, of_decide_eq_true hlt]
    have hlength : batch.countP (position < ·) ≤
        (waiting.filter (· ≤ last)).countP (position < ·) := by
      rw [List.countP_eq_length_filter, List.countP_eq_length_filter]
      exact (List.subperm_of_subset (hnodup.filter _) htaken).length_le
    have hsplit : remaining waiting position =
        (waiting.filter (· ≤ last)).countP (position < ·) +
          (waiting.filter fun x => !decide (x ≤ last)).countP (position < ·) :=
      List.countP_eq_countP_filter_add _ _ _
    have hrest : remaining waiting last =
        (waiting.filter fun x => !decide (x ≤ last)).countP (position < ·) := by
      rw [remaining, List.countP_filter]
      refine List.countP_congr fun x _ => ?_
      simpa using fun hlt => hpast.trans_lt hlt
    omega

end SesEmailAdapter.Lib.Batches
