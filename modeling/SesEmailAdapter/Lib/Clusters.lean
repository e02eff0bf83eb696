import Mathlib.Data.List.Induction
import Mathlib.Data.List.Nodup
import Mathlib.Data.List.Pairwise
import Mathlib.Data.List.Perm.Basic

/-! # Clusters

The grouping of a list in one pass, in which each element joins the first cluster that accepts it.
Where a cluster accepts just the elements that are related to one of its own, and the relation is
symmetric and transitive, the clusters are the classes of the relation, in whatever order the list
is. -/

namespace SesEmailAdapter.Lib

section Place

variable {C A : Type} (accepts : C → A → Bool) (merge : C → A → C) (start : A → C)

/-- An element joins the first cluster that accepts it, or starts one. -/
def place (a : A) : List C → List C
  | [] => [start a]
  | c :: cs => if accepts c a then merge c a :: cs else c :: place a cs

def clusters (l : List A) : List C := l.foldl (fun cs a => place accepts merge start a cs) []

/-- The clusters with the elements that have joined them. -/
def traced (l : List A) : List (C × List A) :=
  clusters (fun c a => accepts c.1 a) (fun c a => (merge c.1 a, c.2 ++ [a]))
    (fun a => (start a, [a])) l

theorem clusters_append_singleton (l : List A) (a : A) :
    clusters accepts merge start (l ++ [a]) =
      place accepts merge start a (clusters accepts merge start l) := by
  unfold clusters
  rw [List.foldl_append]
  rfl

theorem map_fst_place (a : A) (cs : List (C × List A)) :
    (place (fun c a => accepts c.1 a) (fun c a => (merge c.1 a, c.2 ++ [a]))
      (fun a => (start a, [a])) a cs).map Prod.fst =
        place accepts merge start a (cs.map Prod.fst) := by
  induction cs with
  | nil => rfl
  | cons c cs ih =>
    by_cases hc : accepts c.1 a = true
    · simp [place, hc]
    · simp [place, hc, ih]

theorem map_fst_traced (l : List A) :
    (traced accepts merge start l).map Prod.fst = clusters accepts merge start l := by
  unfold traced
  induction l using List.reverseRecOn with
  | nil => rfl
  | append_singleton l a ih =>
    rw [clusters_append_singleton, clusters_append_singleton, map_fst_place, ih]

variable {l : List A}

theorem mem_clusters {c : C} (h : c ∈ clusters accepts merge start l) :
    ∃ members, (c, members) ∈ traced accepts merge start l := by
  rw [← map_fst_traced] at h
  obtain ⟨⟨_, members⟩, hmem, rfl⟩ := List.mem_map.mp h
  exact ⟨members, hmem⟩

/-- Where what a cluster accepts depends on a part of it alone, so do the elements that join it. -/
theorem map_snd_traced {D : Type} {accepts' : D → A → Bool} {merge' : D → A → D} {start' : A → D}
    (part : C → D) (haccepts : ∀ c a, accepts c a = accepts' (part c) a)
    (hmerge : ∀ c a, part (merge c a) = merge' (part c) a) (hstart : ∀ a, part (start a) = start' a)
    (l : List A) :
    (traced accepts merge start l).map Prod.snd =
      (traced accepts' merge' start' l).map Prod.snd := by
  suffices hparts : (traced accepts merge start l).map (Prod.map part id) =
      traced accepts' merge' start' l by
    rw [← hparts, List.map_map]
    rfl
  unfold traced
  induction l using List.reverseRecOn with
  | nil => rfl
  | append_singleton l a ih =>
    rw [clusters_append_singleton, clusters_append_singleton, ← ih]
    generalize clusters _ _ _ l = cs
    induction cs with
    | nil => simp [place, hstart]
    | cons c cs ih =>
      simp only [place, List.map_cons, Prod.map_fst, ← haccepts]
      split
      · simp [hmerge]
      · rw [List.map_cons, ih]

variable {accepts merge start}

theorem members_place (a : A) (cs : List (C × List A)) :
    ((place (fun c a => accepts c.1 a) (fun c a => (merge c.1 a, c.2 ++ [a]))
      (fun a => (start a, [a])) a cs).flatMap Prod.snd).Perm (cs.flatMap Prod.snd ++ [a]) := by
  induction cs with
  | nil => exact List.Perm.refl _
  | cons c cs ih =>
    by_cases hc : accepts c.1 a = true
    · simp only [place, hc, if_true, List.flatMap_cons, List.append_assoc]
      exact List.Perm.append_left _ List.perm_append_comm
    · simp only [place, hc, List.flatMap_cons, List.append_assoc]
      exact List.Perm.append_left _ ih

/-- Every element has joined one cluster. -/
theorem traced_perm (l : List A) :
    ((traced accepts merge start l).flatMap Prod.snd).Perm l := by
  unfold traced
  induction l using List.reverseRecOn with
  | nil => exact List.Perm.refl _
  | append_singleton l a ih =>
    rw [clusters_append_singleton]
    exact (members_place a _).trans (ih.append_right [a])

theorem mem_traced_iff {a : A} :
    a ∈ l ↔ ∃ c ∈ traced accepts merge start l, a ∈ c.2 := by
  have hperm : ((traced accepts merge start l).flatMap Prod.snd).Perm l := traced_perm l
  rw [← hperm.mem_iff, List.mem_flatMap]

/-- No element has joined two clusters. -/
theorem eq_of_mem_traced (hl : l.Nodup) {c d : C × List A}
    (hc : c ∈ traced accepts merge start l) (hd : d ∈ traced accepts merge start l) {a : A}
    (hac : a ∈ c.2) (had : a ∈ d.2) : c = d := by
  by_contra hne
  have hnodup : ((traced accepts merge start l).flatMap Prod.snd).Nodup :=
    (traced_perm l).nodup_iff.mpr hl
  have hdisjoint := (List.nodup_flatMap.mp hnodup).2
  have hswap : Std.Symm (Function.onFun List.Disjoint (Prod.snd : C × List A → List A)) :=
    ⟨fun c d hcd a had hac => hcd hac had⟩
  exact hdisjoint.forall hc hd hne hac had

/-! ## Induction -/

variable {P : C → List A → Prop}

theorem forall_place {a : A} (hstart : P (start a) [a])
    (hmerge : ∀ c members, P c members → accepts c a = true → P (merge c a) (members ++ [a]))
    {cs : List (C × List A)} (h : ∀ c ∈ cs, P c.1 c.2) :
    ∀ c ∈ place (fun c a => accepts c.1 a) (fun c a => (merge c.1 a, c.2 ++ [a]))
      (fun a => (start a, [a])) a cs, P c.1 c.2 := by
  induction cs with
  | nil =>
    intro c hc
    rw [List.mem_singleton.mp hc]
    exact hstart
  | cons c cs ih =>
    obtain ⟨hhead, htail⟩ := List.forall_mem_cons.mp h
    by_cases hc : accepts c.1 a = true
    · simp only [place, hc, if_true]
      exact List.forall_mem_cons.mpr ⟨hmerge c.1 c.2 hhead hc, htail⟩
    · simp only [place, hc]
      exact List.forall_mem_cons.mpr ⟨hhead, ih htail⟩

/-- What holds of a new cluster, and of one that a further element joins, holds of all. -/
theorem traced_induct (hstart : ∀ a ∈ l, P (start a) [a])
    (hmerge : ∀ a ∈ l, ∀ c members, P c members → accepts c a = true →
      P (merge c a) (members ++ [a])) :
    ∀ c ∈ traced accepts merge start l, P c.1 c.2 := by
  unfold traced
  induction l using List.reverseRecOn with
  | nil => exact fun c hc => absurd hc List.not_mem_nil
  | append_singleton l a ih =>
    have hlast : a ∈ l ++ [a] := List.mem_append_right l (List.mem_singleton_self a)
    rw [clusters_append_singleton]
    refine forall_place (hstart a hlast) (hmerge a hlast) (ih ?_ ?_)
    · exact fun b hb => hstart b (List.mem_append_left [a] hb)
    · exact fun b hb => hmerge b (List.mem_append_left [a] hb)

/-! ## Classes -/

variable {R : A → A → Prop}

/-- No element of one cluster is related to one of another. -/
def Apart (R : A → A → Prop) (c d : C × List A) : Prop := ∀ a ∈ c.2, ∀ b ∈ d.2, ¬ R a b

theorem pairwise_place {a : A} {cs : List (C × List A)} (hP : ∀ c ∈ cs, P c.1 c.2)
    (haccepts : ∀ c members, P c members → (accepts c a = true ↔ ∃ b ∈ members, R b a))
    (htrans : ∀ c ∈ cs, ∀ b ∈ c.2, ∀ d ∈ cs, ∀ e ∈ d.2, R b a → R a e → R b e)
    (h : cs.Pairwise (Apart R)) :
    (place (fun c a => accepts c.1 a) (fun c a => (merge c.1 a, c.2 ++ [a]))
      (fun a => (start a, [a])) a cs).Pairwise (Apart R) := by
  induction cs with
  | nil => exact List.pairwise_singleton _ _
  | cons c cs ih =>
    obtain ⟨hhead, htail⟩ := List.forall_mem_cons.mp hP
    obtain ⟨hapart, hrest⟩ := List.pairwise_cons.mp h
    by_cases hc : accepts c.1 a = true
    · simp only [place, hc, if_true]
      refine List.pairwise_cons.mpr ⟨fun d hd b hb e he => ?_, hrest⟩
      obtain hb | hb := List.mem_append.mp hb
      · exact hapart d hd b hb e he
      · rw [List.mem_singleton.mp hb]
        obtain ⟨b', hb', hrelated⟩ := (haccepts _ _ hhead).mp hc
        intro hae
        exact hapart d hd b' hb' e he (htrans c List.mem_cons_self b' hb' d
          (List.mem_cons_of_mem c hd) e he hrelated hae)
    · simp only [place, hc]
      have hnot : ∀ b ∈ c.2, ¬ R b a := fun b hb hrelated =>
        hc ((haccepts _ _ hhead).mpr ⟨b, hb, hrelated⟩)
      refine List.pairwise_cons.mpr ⟨?_, ih htail (fun c' hc' b hb d hd => htrans c'
        (List.mem_cons_of_mem c hc') b hb d (List.mem_cons_of_mem c hd)) hrest⟩
      refine forall_place (P := fun _ members => ∀ b ∈ c.2, ∀ e ∈ members, ¬ R b e) ?_ ?_ ?_
      · intro b hb e he
        rw [List.mem_singleton.mp he]
        exact hnot b hb
      · intro c' members hmembers _ b hb e he
        obtain he | he := List.mem_append.mp he
        · exact hmembers b hb e he
        · rw [List.mem_singleton.mp he]
          exact hnot b hb
      · exact fun d hd b hb e he => hapart d hd b hb e he

end Place

section Classes

variable {C A : Type} {accepts : C → A → Bool} {merge : C → A → C} {start : A → C}
  {P : C → List A → Prop} {R : A → A → Prop} {l : List A}

/-- A property of the clusters of a list under which a cluster accepts what one of its elements is
related to. -/
structure Follows (accepts : C → A → Bool) (merge : C → A → C) (start : A → C)
    (P : C → List A → Prop) (R : A → A → Prop) (l : List A) : Prop where
  start : ∀ a ∈ l, P (start a) [a]
  merge : ∀ a ∈ l, ∀ c members, P c members → accepts c a = true →
    P (merge c a) (members ++ [a])
  accepts : ∀ a ∈ l, ∀ c members, P c members →
    (accepts c a = true ↔ ∃ b ∈ members, R b a)

theorem Follows.left {l' : List A} (h : Follows accepts merge start P R (l ++ l')) :
    Follows accepts merge start P R l where
  start a ha := h.start a (List.mem_append_left l' ha)
  merge a ha := h.merge a (List.mem_append_left l' ha)
  accepts a ha := h.accepts a (List.mem_append_left l' ha)

theorem Follows.holds (h : Follows accepts merge start P R l) :
    ∀ c ∈ traced accepts merge start l, P c.1 c.2 :=
  traced_induct h.start h.merge

theorem mem_of_mem_traced {c : C × List A} (hc : c ∈ traced accepts merge start l) {a : A}
    (ha : a ∈ c.2) : a ∈ l :=
  mem_traced_iff.mpr ⟨c, hc, ha⟩

theorem Follows.apart (h : Follows accepts merge start P R l)
    (htrans : ∀ a ∈ l, ∀ b ∈ l, ∀ c ∈ l, R a b → R b c → R a c) :
    (traced accepts merge start l).Pairwise (Apart R) := by
  induction l using List.reverseRecOn with
  | nil => exact List.Pairwise.nil
  | append_singleton l a ih =>
    have hlast : a ∈ l ++ [a] := List.mem_append_right l (List.mem_singleton_self a)
    have hin : ∀ b ∈ l, b ∈ l ++ [a] := fun b hb => List.mem_append_left [a] hb
    have hprefix := ih h.left fun b hb c hc d hd =>
      htrans b (hin b hb) c (hin c hc) d (hin d hd)
    unfold traced
    rw [clusters_append_singleton]
    refine pairwise_place h.left.holds (h.accepts a hlast) ?_ hprefix
    intro c hc b hb d hd e he
    exact htrans b (hin b (mem_of_mem_traced hc hb)) a hlast e (hin e (mem_of_mem_traced hd he))

variable (h : Follows accepts merge start P R l) (hsymm : ∀ a b, R a b → R b a)
  (htrans : ∀ a ∈ l, ∀ b ∈ l, ∀ c ∈ l, R a b → R b c → R a c)
include h hsymm htrans

theorem Follows.related {c : C × List A} (hc : c ∈ traced accepts merge start l) :
    ∀ a ∈ c.2, ∀ b ∈ c.2, a = b ∨ R a b := by
  suffices hall : ∀ c ∈ traced accepts merge start l, P c.1 c.2 ∧ (∀ a ∈ c.2, a ∈ l) ∧
      ∀ a ∈ c.2, ∀ b ∈ c.2, a = b ∨ R a b from (hall c hc).2.2
  refine traced_induct (P := fun c members => P c members ∧ (∀ a ∈ members, a ∈ l) ∧
    ∀ a ∈ members, ∀ b ∈ members, a = b ∨ R a b) ?_ ?_
  · intro a ha
    refine ⟨h.start a ha, by simpa using ha, ?_⟩
    simp
  · intro a ha c members ⟨hP, hin, hrelated⟩ haccepts
    obtain ⟨b, hb, hba⟩ := (h.accepts a ha c members hP).mp haccepts
    have hnew : ∀ b' ∈ members, R b' a := by
      intro b' hb'
      obtain rfl | hb'b := hrelated b' hb' b hb
      · exact hba
      · exact htrans b' (hin b' hb') b (hin b hb) a ha hb'b hba
    refine ⟨h.merge a ha c members hP haccepts, ?_, ?_⟩
    · simpa [or_imp, forall_and] using ⟨hin, ha⟩
    · intro x hx y hy
      obtain hx | hx := List.mem_append.mp hx <;> obtain hy | hy := List.mem_append.mp hy
      · exact hrelated x hx y hy
      · rw [List.mem_singleton.mp hy]
        exact .inr (hnew x hx)
      · rw [List.mem_singleton.mp hx]
        exact .inr (hsymm y a (hnew y hy))
      · exact .inl ((List.mem_singleton.mp hx).trans (List.mem_singleton.mp hy).symm)

/-- The clusters are the classes of the relation. -/
theorem Follows.mem_iff {c : C × List A} (hc : c ∈ traced accepts merge start l) {a b : A}
    (ha : a ∈ c.2) (hb : b ∈ l) : b ∈ c.2 ↔ b = a ∨ R a b := by
  constructor
  · intro hmem
    exact (h.related hsymm htrans hc a ha b hmem).imp Eq.symm id
  · intro hrelated
    obtain rfl | hab := hrelated
    · exact ha
    · obtain ⟨d, hd, hbd⟩ := mem_traced_iff.mp hb
      by_contra hnot
      have hne : c ≠ d := fun heq => hnot (heq ▸ hbd)
      have hswap : Std.Symm (Apart (C := C) R) :=
        ⟨fun c d hcd b hb a ha hba => hcd a ha b hb (hsymm b a hba)⟩
      exact (h.apart htrans).forall hc hd hne a ha b hbd hab

end Classes

end SesEmailAdapter.Lib
