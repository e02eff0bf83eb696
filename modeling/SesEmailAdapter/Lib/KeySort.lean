import Mathlib.Data.List.Find
import Mathlib.Data.List.Nodup
import Mathlib.Data.List.Sort

/-! # Sorts by a key

The sort of a list by keys that no two of its elements share: it is the same for every order of the
list, it commutes with a filter, and its last element is the one with the greatest key. -/

namespace SesEmailAdapter.Lib

variable {α β : Type} [LinearOrder β] (key : α → β)

def sortBy (l : List α) : List α := l.mergeSort fun a b => decide (key a ≤ key b)

theorem sortBy_perm (l : List α) : (sortBy key l).Perm l := List.mergeSort_perm _ _

@[simp] theorem mem_sortBy {l : List α} {a : α} : a ∈ sortBy key l ↔ a ∈ l := List.mem_mergeSort

theorem pairwise_sortBy (l : List α) : (sortBy key l).Pairwise fun a b => key a ≤ key b := by
  have hsorted : (sortBy key l).Pairwise fun a b => decide (key a ≤ key b) = true :=
    List.pairwise_mergeSort (fun a b c hab hbc => by simp at *; exact hab.trans hbc)
      (fun a b => by simpa using le_total (key a) (key b)) l
  exact hsorted.imp of_decide_eq_true

variable {key} {l l' : List α}

/-- There is one sorted order of a list. -/
theorem sortBy_unique (hdistinct : (l.map key).Nodup) (hperm : l'.Perm l)
    (hsorted : l'.Pairwise fun a b => key a ≤ key b) : l' = sortBy key l := by
  refine List.Perm.eq_of_pairwise ?_ hsorted (pairwise_sortBy key l)
    (hperm.trans (sortBy_perm key l).symm)
  intro a b ha hb hab hba
  exact List.inj_on_of_nodup_map hdistinct (hperm.mem_iff.mp ha) ((mem_sortBy key).mp hb)
    (hab.antisymm hba)

theorem sortBy_eq_of_perm (hdistinct : (l.map key).Nodup) (hperm : l'.Perm l) :
    sortBy key l' = sortBy key l :=
  sortBy_unique hdistinct ((sortBy_perm key l').trans hperm) (pairwise_sortBy key l')

theorem filter_sortBy (hdistinct : (l.map key).Nodup) (p : α → Bool) :
    (sortBy key l).filter p = sortBy key (l.filter p) := by
  have hfiltered : ((l.filter p).map key).Nodup := hdistinct.sublist (List.filter_sublist.map key)
  exact sortBy_unique hfiltered ((sortBy_perm key l).filter p) ((pairwise_sortBy key l).filter p)

theorem getLast?_sortBy_iff (hdistinct : (l.map key).Nodup) {a : α} :
    (sortBy key l).getLast? = some a ↔ a ∈ l ∧ ∀ b ∈ l, key b ≤ key a := by
  have hgreatest : ∀ {c}, (sortBy key l).getLast? = some c → c ∈ l ∧ ∀ b ∈ l, key b ≤ key c := by
    intro c hlast
    refine ⟨(mem_sortBy key).mp (List.mem_of_getLast? hlast), fun b hb => ?_⟩
    obtain ⟨before, hbefore⟩ := List.getLast?_eq_some_iff.mp hlast
    have hsorted := pairwise_sortBy key l
    rw [← mem_sortBy key] at hb
    rw [hbefore] at hsorted hb
    obtain hin | hin := List.mem_append.mp hb
    · exact (List.pairwise_append.mp hsorted).2.2 b hin c List.mem_cons_self
    · rw [List.mem_singleton.mp hin]
  constructor
  · exact hgreatest
  · intro ⟨ha, hmax⟩
    cases hlast : (sortBy key l).getLast? with
    | none =>
      rw [List.getLast?_eq_none_iff] at hlast
      rw [← mem_sortBy key, hlast] at ha
      exact absurd ha List.not_mem_nil
    | some c =>
      obtain ⟨hc, hge⟩ := hgreatest hlast
      rw [List.inj_on_of_nodup_map hdistinct hc ha ((hmax c hc).antisymm (hge a ha))]

/-- The first of the least elements heads the sorted list. -/
theorem head?_sortBy (l : List α) :
    (sortBy key l).head? = l.find? fun a => l.all fun b => decide (key a ≤ key b) := by
  induction l with
  | nil => simp [sortBy]
  | cons a l ih =>
    have hcons := @List.mergeSort_cons α (fun a b => decide (key a ≤ key b))
      (fun _ _ _ hab hbc => by simp at *; exact hab.trans hbc)
      (fun a b => by simpa using le_total (key a) (key b)) a l
    obtain ⟨below, above, hsort, htail, hbelow⟩ := hcons
    change sortBy key (a :: l) = below ++ a :: above at hsort
    change sortBy key l = below ++ above at htail
    have hsorted := pairwise_sortBy key (a :: l)
    rw [hsort] at hsorted ⊢
    cases below with
    | nil =>
      have hleast : ∀ b ∈ l, key a ≤ key b := by
        intro b hb
        have hmem := (mem_sortBy key).mpr hb
        rw [htail] at hmem
        exact (List.pairwise_cons.mp hsorted).1 b hmem
      rw [List.find?_cons_of_pos (by simpa using hleast)]
      rfl
    | cons first below =>
      have hfirst : key first < key a := by simpa using hbelow first List.mem_cons_self
      have hmem : first ∈ l := by
        rw [← mem_sortBy key, htail]
        exact List.mem_cons_self
      rw [List.find?_cons_of_neg (by simpa using ⟨first, hmem, hfirst⟩)]
      rw [htail] at ih
      change some first = _ at ih
      change some first = _
      rw [ih]
      -- what is least in the tail lies below the head
      refine List.find?_congr fun b hb => ?_
      rw [List.all_cons]
      refine (Bool.and_eq_right_iff_imp.mpr fun hall => ?_).symm
      have hle : key b ≤ key first := by simpa using List.all_eq_true.mp hall first hmem
      exact decide_eq_true (hle.trans hfirst.le)

omit [LinearOrder β] in
/-- The element of a key is found in every order of a list. -/
theorem find?_eq_of_perm [DecidableEq β] (hdistinct : (l.map key).Nodup) (hperm : l'.Perm l)
    (k : β) : (l'.find? fun a => key a = k) = l.find? fun a => key a = k := by
  cases hfind : l.find? fun a => key a = k with
  | none =>
    refine List.find?_eq_none.mpr fun a ha => ?_
    exact List.find?_eq_none.mp hfind a (hperm.mem_iff.mp ha)
  | some a =>
    have hkey : key a = k := by simpa using List.find?_some hfind
    have ha := List.mem_of_find?_eq_some hfind
    obtain ⟨b, hb⟩ := Option.isSome_iff_exists.mp (List.find?_isSome (p := fun a => key a = k).mpr
      ⟨a, hperm.mem_iff.mpr ha, decide_eq_true hkey⟩)
    have hkey' : key b = k := by simpa using List.find?_some hb
    have hb' := hperm.mem_iff.mp (List.mem_of_find?_eq_some hb)
    rw [hb, List.inj_on_of_nodup_map hdistinct hb' ha (hkey'.trans hkey.symm)]

end SesEmailAdapter.Lib
