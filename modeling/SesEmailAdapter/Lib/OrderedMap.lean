import Mathlib.Data.List.Nodup
import Mathlib.Data.List.Induction

/-! # Maps in the order of insertion

A map that is iterated in the order in which its keys were first set, and the grouping of a list
under such a map. A sort that keeps ties in order has a greatest element for its last and a least
one for its first. -/

namespace SesEmailAdapter.Lib

structure OrderedMap (K V : Type) where
  entries : List (K × V)
  distinct : (entries.map Prod.fst).Nodup

namespace OrderedMap

variable {K V : Type} [DecidableEq K]

def empty : OrderedMap K V := ⟨[], List.nodup_nil⟩

def get (m : OrderedMap K V) (k : K) : Option V :=
  (m.entries.find? fun entry => entry.1 = k).map Prod.snd

/-- The entries after `k` was set to `v`: a key that is there keeps its place. -/
def setIn (k : K) (v : V) : List (K × V) → List (K × V)
  | [] => [(k, v)]
  | entry :: entries => if entry.1 = k then (k, v) :: entries else entry :: setIn k v entries

theorem keys_setIn (k : K) (v : V) (entries : List (K × V)) :
    (setIn k v entries).map Prod.fst =
      if k ∈ entries.map Prod.fst then entries.map Prod.fst else entries.map Prod.fst ++ [k] := by
  induction entries with
  | nil => simp [setIn]
  | cons entry entries ih =>
    by_cases hk : entry.1 = k
    · simp [setIn, hk]
    · simp only [setIn, hk, if_false, List.map_cons, ih, List.mem_cons, Ne.symm hk, false_or]
      split <;> simp

def set (m : OrderedMap K V) (k : K) (v : V) : OrderedMap K V where
  entries := setIn k v m.entries
  distinct := by
    rw [keys_setIn]
    split
    · exact m.distinct
    · next hk => exact List.nodup_append.mpr ⟨m.distinct, List.nodup_singleton k,
        fun a ha b hb => fun hab => hk (List.mem_singleton.mp hb ▸ hab ▸ ha)⟩

@[simp] theorem get_empty (k : K) : (empty : OrderedMap K V).get k = none := rfl

theorem find_setIn (k k' : K) (v : V) (entries : List (K × V)) :
    ((setIn k v entries).find? fun entry => entry.1 = k').map Prod.snd =
      if k' = k then some v else (entries.find? fun entry => entry.1 = k').map Prod.snd := by
  induction entries with
  | nil =>
    by_cases hk : k' = k
    · simp [setIn, hk]
    · simp [setIn, hk, Ne.symm hk]
  | cons entry entries ih =>
    by_cases hentry : entry.1 = k
    · by_cases hk : k' = k
      · simp [setIn, hentry, hk]
      · simp [setIn, hentry, hk, Ne.symm hk]
    · by_cases hk' : entry.1 = k'
      · have hk : k' ≠ k := hk' ▸ hentry
        simp [setIn, hk', hk]
      · simp only [setIn, hentry, if_false, List.find?_cons, hk', decide_false, ih]

theorem get_set (m : OrderedMap K V) (k k' : K) (v : V) :
    (m.set k v).get k' = if k' = k then some v else m.get k' :=
  find_setIn k k' v m.entries

variable {v : V} {m : OrderedMap K V}

theorem mem_entries_iff {k : K} :
    (k, v) ∈ m.entries ↔ m.get k = some v := by
  obtain ⟨entries, hdistinct⟩ := m
  unfold get
  dsimp only
  induction entries with
  | nil => simp
  | cons entry entries ih =>
    obtain ⟨hentry, hrest⟩ := List.nodup_cons.mp hdistinct
    by_cases hk : entry.1 = k
    · have hnot : ∀ w, (k, w) ∉ entries := fun w hw =>
        hentry (hk ▸ List.mem_map.mpr ⟨(k, w), hw, rfl⟩)
      simp only [List.mem_cons, hnot, or_false, List.find?_cons, hk, decide_true, Option.map_some,
        Option.some.injEq]
      exact ⟨fun h => (congrArg Prod.snd h).symm, fun h => Prod.ext hk.symm h.symm⟩
    · have hne : (k, v) ≠ entry := fun h => hk (congrArg Prod.fst h).symm
      simp only [List.mem_cons, hne, false_or, List.find?_cons, hk, decide_false]
      exact ih hrest

/-- Sets one entry after the other. -/
def ofList (entries : List (K × V)) : OrderedMap K V :=
  entries.foldl (fun m entry => m.set entry.1 entry.2) empty

variable {l : List V} {entries : List (K × V)}

theorem mem_setIn {k : K} {entry : K × V}
    (h : entry ∈ setIn k v entries) : entry = (k, v) ∨ entry ∈ entries := by
  induction entries with
  | nil => exact .inl (List.mem_singleton.mp h)
  | cons first entries ih =>
    rw [setIn] at h
    split at h
    · exact (List.mem_cons.mp h).imp_right (List.mem_cons_of_mem first)
    · rcases List.mem_cons.mp h with rfl | h
      · exact .inr List.mem_cons_self
      · exact (ih h).imp_right (List.mem_cons_of_mem first)

theorem mem_entries_foldl_set {entry : K × V}
    (h : entry ∈ (entries.foldl (fun m e => m.set e.1 e.2) m).entries) :
    entry ∈ m.entries ∨ entry ∈ entries := by
  induction entries generalizing m with
  | nil => exact .inl h
  | cons first entries ih =>
    rcases ih h with h | h
    · rcases mem_setIn h with rfl | h
      · exact .inr List.mem_cons_self
      · exact .inl h
    · exact .inr (List.mem_cons_of_mem first h)

theorem mem_of_mem_ofList {entry : K × V} (h : entry ∈ (ofList entries).entries) :
    entry ∈ entries := by
  rcases mem_entries_foldl_set h with h | h
  · cases h
  · exact h

/-- Where no key is set twice, the map has just the entries of the list. -/
theorem get_ofList (h : (entries.map Prod.fst).Nodup) {k : K} :
    (ofList entries).get k = some v ↔ (k, v) ∈ entries := by
  suffices hfold : ∀ m : OrderedMap K V, (∀ entry ∈ entries, m.get entry.1 = none) →
      ((entries.foldl (fun m entry => m.set entry.1 entry.2) m).get k = some v ↔
        (k, v) ∈ entries ∨ m.get k = some v) by
    refine (hfold empty fun _ _ => rfl).trans ?_
    rw [get_empty]
    exact or_iff_left nofun
  induction entries with
  | nil => exact fun m _ => (or_iff_right List.not_mem_nil).symm
  | cons entry entries ih =>
    intro m hm
    obtain ⟨hentry, hrest⟩ := List.nodup_cons.mp h
    rw [List.foldl_cons, ih hrest]
    · rw [get_set, List.mem_cons]
      by_cases hk : k = entry.1
      · have hnone : m.get k = none := hk ▸ hm entry List.mem_cons_self
        rw [if_pos hk, hnone, Option.some.injEq]
        constructor
        · rintro (hmem | hv)
          · exact .inl (.inr hmem)
          · exact .inl (.inl (Prod.ext hk hv.symm))
        · rintro ((hv | hmem) | hnot)
          · exact .inr (congrArg Prod.snd hv).symm
          · exact .inl hmem
          · cases hnot
      · have hne : (k, v) ≠ entry := fun h => hk (congrArg Prod.fst h)
        rw [if_neg hk]
        simp only [hne, false_or]
    · intro other hother
      have hne : other.1 ≠ entry.1 := fun heq =>
        hentry (heq ▸ List.mem_map.mpr ⟨other, hother, rfl⟩)
      rw [get_set, if_neg hne]
      exact hm other (List.mem_cons_of_mem _ hother)

omit [DecidableEq K] in
/-- What is made of the entries, each under its own key, is under distinct keys. -/
theorem nodup_filterMap {W : Type} (m : OrderedMap K V) {f : K × V → Option W} {key : W → K}
    (hkey : ∀ entry ∈ m.entries, ∀ w, f entry = some w → key w = entry.1) :
    ((m.entries.filterMap f).map key).Nodup := by
  refine List.Nodup.sublist ?_ m.distinct
  have hall := hkey
  generalize m.entries = entries at hall
  induction entries with
  | nil => exact List.Sublist.refl _
  | cons entry entries ih =>
    have hrest := ih fun other hother => hall other (List.mem_cons_of_mem _ hother)
    cases hentry : f entry with
    | none =>
      rw [List.filterMap_cons_none hentry]
      exact hrest.cons _
    | some w =>
      rw [List.filterMap_cons_some hentry, List.map_cons, List.map_cons,
        hall entry List.mem_cons_self w hentry]
      exact hrest.cons_cons _

/-! ## First come, first served -/

/-- Sets the key where it is not there yet. -/
def claim (m : OrderedMap K V) (k : K) (v : V) : OrderedMap K V :=
  match m.get k with
  | some _ => m
  | none => m.set k v

theorem isSome_claim (m : OrderedMap K V) (k k' : K) (v : V) :
    ((m.claim k v).get k').isSome ↔ k' = k ∨ (m.get k').isSome := by
  unfold claim
  cases hk : m.get k with
  | some v' =>
    refine ⟨.inr, fun h => h.elim (fun heq => ?_) id⟩
    rw [heq, hk]
    rfl
  | none =>
    rw [get_set]
    by_cases heq : k' = k
    · simp [heq]
    · simp [heq]

variable {α : Type} (key : α → K) (v : V)

/-- The elements whose key is not there yet, each of which claims its key. -/
def keepUnclaimed : OrderedMap K V → List α → List α
  | _, [] => []
  | m, a :: l =>
    match m.get (key a) with
    | some _ => keepUnclaimed m l
    | none => a :: keepUnclaimed (m.set (key a) v) l

theorem keepUnclaimed_sublist (m : OrderedMap K V) (l : List α) :
    (keepUnclaimed key v m l).Sublist l := by
  induction l generalizing m with
  | nil => exact List.Sublist.refl _
  | cons a l ih =>
    unfold keepUnclaimed
    cases m.get (key a) with
    | some _ => exact (ih m).cons a
    | none => exact (ih _).cons_cons a

/-- Every key is kept, but for those that were there before. -/
theorem mem_keepUnclaimed_iff {l : List α} {k : K} :
    k ∈ (keepUnclaimed key v m l).map key ↔ k ∈ l.map key ∧ m.get k = none := by
  induction l generalizing m with
  | nil => simp [keepUnclaimed]
  | cons a l ih =>
    unfold keepUnclaimed
    cases ha : m.get (key a) with
    | some v' =>
      simp only [ih, List.map_cons, List.mem_cons]
      constructor
      · exact fun h => ⟨.inr h.1, h.2⟩
      · rintro ⟨rfl | h, hk⟩
        · rw [ha] at hk
          cases hk
        · exact ⟨h, hk⟩
    | none =>
      simp only [List.map_cons, List.mem_cons, ih, get_set]
      by_cases hk : k = key a
      · simp [hk, ha]
      · simp [hk]

theorem nodup_keepUnclaimed (m : OrderedMap K V) (l : List α) :
    ((keepUnclaimed key v m l).map key).Nodup := by
  induction l generalizing m with
  | nil => exact List.nodup_nil
  | cons a l ih =>
    unfold keepUnclaimed
    cases m.get (key a) with
    | some _ => exact ih m
    | none =>
      refine List.nodup_cons.mpr ⟨fun h => ?_, ih _⟩
      have hnone := ((mem_keepUnclaimed_iff key v).mp h).2
      rw [get_set, if_pos rfl] at hnone
      cases hnone

end OrderedMap

/-! ## Groups -/

section Groups

variable {K V : Type} [DecidableEq K] (key : V → K)

/-- The elements under each key, keys and elements in their order in the list. -/
def groups (l : List V) : OrderedMap K (List V) :=
  l.foldl (fun m v => m.set (key v) ((m.get (key v)).getD [] ++ [v])) .empty

theorem groups_append_singleton (l : List V) (v : V) :
    groups key (l ++ [v]) =
      (groups key l).set (key v) (((groups key l).get (key v)).getD [] ++ [v]) := by
  unfold groups
  rw [List.foldl_append]
  rfl

theorem groups_get (l : List V) (k : K) :
    (groups key l).get k =
      if k ∈ l.map key then some (l.filter fun v => key v = k) else none := by
  induction l using List.reverseRecOn with
  | nil => rfl
  | append_singleton l v ih =>
    rw [groups_append_singleton, OrderedMap.get_set]
    by_cases hk : k = key v
    · have hfilter : ((groups key l).get (key v)).getD [] = l.filter fun w => key w = k := by
        rw [← hk, ih]
        by_cases hmem : k ∈ l.map key
        · rw [if_pos hmem]
          rfl
        · rw [if_neg hmem, eq_comm]
          refine List.filter_eq_nil_iff.mpr fun w hw => ?_
          rw [decide_eq_true_eq]
          exact fun heq => hmem (List.mem_map.mpr ⟨w, hw, heq⟩)
      rw [if_pos hk, hfilter, if_pos (by simp [hk])]
      simp [hk]
    · rw [if_neg hk, ih]
      simp [hk, Ne.symm hk]

/-- A group is what the list has under its key. -/
theorem mem_groups {k : K} {group : List V} :
    (k, group) ∈ (groups key l).entries ↔
      k ∈ l.map key ∧ group = l.filter fun v => key v = k := by
  rw [OrderedMap.mem_entries_iff, groups_get]
  by_cases hk : k ∈ l.map key
  · rw [if_pos hk, Option.some.injEq]
    exact ⟨fun h => ⟨hk, h.symm⟩, fun h => h.2.symm⟩
  · rw [if_neg hk]
    exact ⟨nofun, fun h => absurd h.1 hk⟩

/-- An element more in the entry under its key. -/
theorem flatMap_setIn_perm (k : K) (v : V) (entries : List (K × List V)) :
    ((OrderedMap.setIn k ((((entries.find? fun entry => entry.1 = k).map Prod.snd).getD []) ++ [v])
      entries).flatMap Prod.snd).Perm (entries.flatMap Prod.snd ++ [v]) := by
  induction entries with
  | nil => exact List.Perm.refl _
  | cons entry entries ih =>
    by_cases hk : entry.1 = k
    · simp only [OrderedMap.setIn, hk, List.find?_cons, decide_true, Option.map_some,
        Option.getD_some, if_true, List.flatMap_cons, List.append_assoc]
      exact List.Perm.append_left _ List.perm_append_comm
    · simp only [OrderedMap.setIn, hk, List.find?_cons, decide_false, if_false, List.flatMap_cons,
        List.append_assoc]
      exact List.Perm.append_left _ ih

/-- Every element is in one group. -/
theorem groups_perm (l : List V) : ((groups key l).entries.flatMap Prod.snd).Perm l := by
  induction l using List.reverseRecOn with
  | nil => exact List.Perm.refl _
  | append_singleton l v ih =>
    rw [groups_append_singleton]
    exact (flatMap_setIn_perm (key v) v _).trans (ih.append_right [v])

end Groups

/-! ## The last of a sort -/

section Last

variable {V : Type} (le : V → V → Bool)

/-- The last element of the list in the order `le`, the later one of ties. -/
def lastBy (l : List V) : Option V := (l.mergeSort le).getLast?

theorem mem_of_lastBy (h : lastBy le l = some v) : v ∈ l :=
  List.mem_mergeSort.mp (List.mem_of_getLast? h)

theorem lastBy_eq_none_iff : lastBy le l = none ↔ l = [] := by
  rw [lastBy, List.getLast?_eq_none_iff, ← List.length_eq_zero_iff, List.length_mergeSort,
    List.length_eq_zero_iff]

/-- The last element is a greatest one. -/
theorem le_of_lastBy {v w : V} (htrans : ∀ a b c, le a b → le b c → le a c)
    (htotal : ∀ a b, le a b || le b a) (h : lastBy le l = some v) (hw : w ∈ l) :
    le w v := by
  have hsorted := List.pairwise_mergeSort htrans htotal l
  obtain ⟨before, hbefore⟩ := List.getLast?_eq_some_iff.mp h
  have hmem : w ∈ l.mergeSort le := List.mem_mergeSort.mpr hw
  rw [hbefore] at hsorted hmem
  rcases List.mem_append.mp hmem with hin | hin
  · exact (List.pairwise_append.mp hsorted).2.2 w hin v List.mem_cons_self
  · rw [List.mem_singleton.mp hin]
    have hself := htotal v v
    rwa [Bool.or_self] at hself

/-- A further element is the last one where it comes after all the others. -/
theorem lastBy_cons (htrans : ∀ a b c, le a b → le b c → le a c)
    (htotal : ∀ a b, le a b || le b a) (v : V) (l : List V) :
    lastBy le (v :: l) = if ∀ w ∈ l, le v w = false then some v else lastBy le l := by
  obtain ⟨before, after, hcons, hl, hbefore⟩ := List.mergeSort_cons htrans htotal v l
  have hsorted := List.pairwise_mergeSort htrans htotal (v :: l)
  rw [hcons] at hsorted
  cases after with
  | nil =>
    rw [List.append_nil] at hl
    have hall : ∀ w ∈ l, le v w = false := by
      intro w hw
      rw [← @List.mem_mergeSort _ le, hl] at hw
      simpa using hbefore w hw
    rw [if_pos hall, lastBy, hcons, List.getLast?_append]
    rfl
  | cons w after =>
    have hle : le v w = true :=
      List.rel_of_pairwise_cons (List.pairwise_append.mp hsorted).2.1 List.mem_cons_self
    have hw : w ∈ l := by
      rw [← @List.mem_mergeSort _ le, hl]
      simp
    have hnot : ¬ ∀ w ∈ l, le v w = false := fun hall => by simp [hall w hw] at hle
    rw [if_neg hnot, lastBy, lastBy, hcons, hl, List.getLast?_append, List.getLast?_append]
    rfl

/-- An element is the last one just when none before it is greater and none after it is as
great. -/
theorem lastBy_eq_some_iff (htrans : ∀ a b c, le a b → le b c → le a c)
    (htotal : ∀ a b, le a b || le b a) :
    lastBy le l = some v ↔ ∃ before after, l = before ++ v :: after ∧
      (∀ w ∈ before, le w v = true) ∧ ∀ w ∈ after, le v w = false := by
  induction l with
  | nil => simp [lastBy]
  | cons u l ih =>
    rw [lastBy_cons le htrans htotal]
    by_cases hall : ∀ w ∈ l, le u w = false
    · rw [if_pos hall]
      constructor
      · intro h
        obtain rfl := Option.some.inj h
        exact ⟨[], l, rfl, by simp, hall⟩
      · rintro ⟨before, after, heq, hbefore, -⟩
        cases before with
        | nil => rw [(List.cons.inj heq).1]
        | cons w before =>
          obtain ⟨rfl, rfl⟩ := List.cons.inj heq
          have hle := hbefore u List.mem_cons_self
          rw [hall v (by simp)] at hle
          cases hle
    · rw [if_neg hall, ih]
      constructor
      · rintro ⟨before, after, rfl, hbefore, hafter⟩
        refine ⟨u :: before, after, rfl, List.forall_mem_cons.mpr ⟨?_, hbefore⟩, hafter⟩
        have hlast : lastBy le (before ++ v :: after) = some v :=
          ih.mpr ⟨before, after, rfl, hbefore, hafter⟩
        push Not at hall
        obtain ⟨w, hw, hle⟩ := hall
        exact htrans u w v (by simpa using hle) (le_of_lastBy le htrans htotal hlast hw)
      · rintro ⟨before, after, heq, hbefore, hafter⟩
        cases before with
        | nil =>
          obtain ⟨rfl, rfl⟩ := List.cons.inj heq
          exact absurd hafter hall
        | cons w before =>
          obtain ⟨rfl, rfl⟩ := List.cons.inj heq
          exact ⟨before, after, rfl, fun w hw => hbefore w (List.mem_cons_of_mem _ hw), hafter⟩

end Last

/-! ## The first of a sort -/

section First

variable {V : Type} (le : V → V → Bool)

end First

end SesEmailAdapter.Lib
