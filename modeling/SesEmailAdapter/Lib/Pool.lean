import Mathlib.Data.List.Basic
import SesEmailAdapter.Lib.Prog

/-! # Interleavings

A pool of programs over one store. Any task may make its next call at any time and with any
turn, a task may crash, and new tasks may start. The tasks carry the history states
of a monitor, which the rules of a run and its invariant speak about. -/

namespace SesEmailAdapter.Lib

variable {C : Type} {A : C → Type} {α S F σ : Type}

structure Task (C : Type) (A : C → Type) (α σ : Type) where
  prog : Prog C A α
  phase : σ
  alive : Bool

structure Pool (C : Type) (A : C → Type) (α σ S : Type) where
  store : S
  tasks : List (Task C A α σ)

/-- What an invariant sees of a task: its history state and whether it has crashed. -/
def Task.view (t : Task C A α σ) : σ × Bool := (t.phase, t.alive)

def Pool.views (pool : Pool C A α σ S) : List (σ × Bool) := pool.tasks.map Task.view

inductive Move (C : Type) (A : C → Type) (α F σ : Type)
  | spawn (prog : Prog C A α) (phase : σ)
  | step (i : Nat) (turn : F)
  | crash (i : Nat)

/-- One move; a task that has crashed or returned makes no more steps. -/
def Pool.move (sv : Service C A S F) (M : Monitor C A F σ) (pool : Pool C A α σ S) :
    Move C A α F σ → Option (Pool C A α σ S)
  | .spawn prog phase => some { pool with tasks := pool.tasks ++ [⟨prog, phase, true⟩] }
  | .step i turn => match pool.tasks[i]? with
    | some ⟨.call c k, q, true⟩ => some {
        store := (sv.settle c pool.store turn).2
        tasks := pool.tasks.set i
          ⟨k (sv.settle c pool.store turn).1, M.next q c turn (sv.settle c pool.store turn).1, true⟩ }
    | _ => none
  | .crash i => match pool.tasks[i]? with
    | some ⟨prog, q, true⟩ => some { pool with tasks := pool.tasks.set i ⟨prog, q, false⟩ }
    | _ => none

/-- Which moves a run may contain, by what they meet: the store and the views of the tasks. -/
structure Rules (C : Type) (A : C → Type) (α S F σ : Type) where
  spawn : Prog C A α → σ → S → List (σ × Bool) → Prop
  step : Nat → σ → C → F → S → List (σ × Bool) → Prop
  crash : Nat → σ → S → List (σ × Bool) → Prop

def Rules.Allows (rules : Rules C A α S F σ) (pool : Pool C A α σ S) : Move C A α F σ → Prop
  | .spawn prog phase => rules.spawn prog phase pool.store pool.views
  | .step i turn => ∀ c k q, pool.tasks[i]? = some ⟨.call c k, q, true⟩ →
      rules.step i q c turn pool.store pool.views
  | .crash i => ∀ prog q, pool.tasks[i]? = some ⟨prog, q, true⟩ →
      rules.crash i q pool.store pool.views

/-- The pools that a run within the rules leads to. -/
inductive Reaches (sv : Service C A S F) (M : Monitor C A F σ) (rules : Rules C A α S F σ)
    (start : Pool C A α σ S) : Pool C A α σ S → Prop
  | refl : Reaches sv M rules start start
  | tail {pool pool' : Pool C A α σ S} {m : Move C A α F σ} :
      Reaches sv M rules start pool → rules.Allows pool m → pool.move sv M m = some pool' →
      Reaches sv M rules start pool'

variable {rules : Rules C A α S F σ} {sv : Service C A S F} {M : Monitor C A F σ}
  {start pool : Pool C A α σ S}

theorem Reaches.step (h : Reaches sv M rules start pool) {i : Nat} {c : C}
    {k : A c → Prog C A α} {q : σ} {f : F} (ht : pool.tasks[i]? = some ⟨.call c k, q, true⟩)
    (ha : rules.step i q c f pool.store pool.views) :
    Reaches sv M rules start {
      store := (sv.settle c pool.store f).2
      tasks := pool.tasks.set i
        ⟨k (sv.settle c pool.store f).1, M.next q c f (sv.settle c pool.store f).1, true⟩ } := by
  have hallows : rules.Allows pool (.step i f) := by
    intro c' k' q' ht'
    obtain ⟨hp, rfl, -⟩ := Task.mk.inj (Option.some.inj (ht.symm.trans ht'))
    cases hp
    exact ha
  refine .tail h hallows ?_
  simp only [Pool.move, ht]

/-- What every allowed call keeps of the store holds in every pool a run reaches. -/
theorem Reaches.store {P : S → Prop}
    (hkeep : ∀ i q c f s ts, P s → rules.step i q c f s ts → P (sv.settle c s f).2)
    (h : Reaches sv M rules start pool) (hs : P start.store) :
    P pool.store := by
  induction h with
  | refl => exact hs
  | @tail pool pool' m _ hallows hmove ih =>
    cases m with
    | spawn prog phase =>
      cases hmove
      exact ih
    | step i turn =>
      simp only [Pool.move] at hmove
      split at hmove
      case h_2 => cases hmove
      case h_1 c k q hi =>
        cases hmove
        exact hkeep i q c turn pool.store pool.views ih (hallows c k q hi)
    | crash i =>
      simp only [Pool.move] at hmove
      split at hmove
      case h_2 => cases hmove
      case h_1 => cases hmove; exact ih

/-- Every task obeys the monitor from its history state on. -/
def Pool.Obeys (M : Monitor C A F σ) (Q : σ → α → Prop) (pool : Pool C A α σ S) : Prop :=
  ∀ t ∈ pool.tasks, t.prog.Obeys M Q t.phase

/-- What a run needs to keep an invariant: new tasks obey the monitor and keep it, every allowed
call keeps it, and so does a crash. -/
structure Keeps (sv : Service C A S F) (M : Monitor C A F σ) (Q : σ → α → Prop)
    (rules : Rules C A α S F σ) (Inv : S → List (σ × Bool) → Prop) : Prop where
  spawn : ∀ s ts prog q, Inv s ts → rules.spawn prog q s ts →
    prog.Obeys M Q q ∧ Inv s (ts ++ [(q, true)])
  step : ∀ s ts i q c f, Inv s ts → ts[i]? = some (q, true) → M.allow q c →
    rules.step i q c f s ts →
    Inv (sv.settle c s f).2 (ts.set i (M.next q c f (sv.settle c s f).1, true))
  crash : ∀ s ts i q, Inv s ts → ts[i]? = some (q, true) → rules.crash i q s ts →
    Inv s (ts.set i (q, false))

theorem getElem?_views {pool : Pool C A α σ S} {i : Nat} {t : Task C A α σ}
    (h : pool.tasks[i]? = some t) : pool.views[i]? = some t.view := by
  rw [Pool.views, List.getElem?_map, h]
  rfl

variable {Inv : S → List (σ × Bool) → Prop}

theorem Keeps.move {Q : σ → α → Prop}
    (h : Keeps sv M Q rules Inv) {pool pool' : Pool C A α σ S} {m : Move C A α F σ}
    (ho : pool.Obeys M Q) (hi : Inv pool.store pool.views) (ha : rules.Allows pool m)
    (hm : pool.move sv M m = some pool') :
    pool'.Obeys M Q ∧ Inv pool'.store pool'.views := by
  cases m with
  | spawn prog phase =>
    cases hm
    obtain ⟨hp, hinv⟩ := h.spawn _ _ _ _ hi ha
    refine ⟨fun t ht => ?_, ?_⟩
    · rcases List.mem_append.mp ht with ht | ht
      · exact ho t ht
      · rw [List.mem_singleton.mp ht]
        exact hp
    · simpa [Pool.views, Task.view] using hinv
  | step i turn =>
    simp only [Pool.move] at hm
    split at hm
    case h_2 => cases hm
    case h_1 c k q hi' =>
      cases hm
      have hobeys := ho _ (List.mem_of_getElem? hi')
      refine ⟨fun t ht => ?_, ?_⟩
      · rcases List.mem_or_eq_of_mem_set ht with ht | rfl
        · exact ho t ht
        · exact hobeys.2 _ _
      · have hinv := h.step _ _ i q c turn hi (getElem?_views hi') hobeys.1 (ha c k q hi')
        simpa only [Pool.views, List.map_set, Task.view] using hinv
  | crash i =>
    simp only [Pool.move] at hm
    split at hm
    case h_2 => cases hm
    case h_1 prog q hi' =>
      cases hm
      have hobeys := ho _ (List.mem_of_getElem? hi')
      refine ⟨fun t ht => ?_, ?_⟩
      · rcases List.mem_or_eq_of_mem_set ht with ht | rfl
        · exact ho t ht
        · exact hobeys
      · have hinv := h.crash _ _ i q hi (getElem?_views hi') (ha prog q hi')
        simpa only [Pool.views, List.map_set, Task.view] using hinv

/-- **Invariants of interleavings.** What the spawns, the allowed calls and the crashes keep holds
in every pool a run reaches. -/
theorem Reaches.invariant {Q : σ → α → Prop}
    (hk : Keeps sv M Q rules Inv) (ho : start.Obeys M Q) (hi : Inv start.store start.views)
    (h : Reaches sv M rules start pool) : pool.Obeys M Q ∧ Inv pool.store pool.views := by
  induction h with
  | refl => exact ⟨ho, hi⟩
  | tail _ ha hm ih => exact hk.move ih.1 ih.2 ha hm

/-- The moves of a list, one after the other. -/
def Pool.moves (sv : Service C A S F) (M : Monitor C A F σ) (pool : Pool C A α σ S) :
    List (Move C A α F σ) → Option (Pool C A α σ S)
  | [] => some pool
  | m :: ms => (pool.move sv M m).bind fun next => next.moves sv M ms

theorem Reaches.moves {start pool pool' : Pool C A α σ S} {ms : List (Move C A α F σ)}
    (h : Reaches sv M rules start pool) (hallow : ∀ m ∈ ms, ∀ pool, rules.Allows pool m)
    (hmoves : pool.moves sv M ms = some pool') : Reaches sv M rules start pool' := by
  induction ms generalizing pool with
  | nil =>
    cases hmoves
    exact h
  | cons m ms ih =>
    obtain ⟨next, hmove, hrest⟩ := Option.bind_eq_some_iff.mp hmoves
    obtain ⟨hm, hms⟩ := List.forall_mem_cons.mp hallow
    exact ih (h.tail (hm pool) hmove) hms hrest

/-! ## Tasks that do not move -/

theorem mem_set_of_ne {β : Type} {l : List β} {i : Nat} {u v x : β} (hv : v ∈ l)
    (hu : l[i]? = some u) (hne : v ≠ u) : v ∈ l.set i x := by
  obtain ⟨j, hj⟩ := List.mem_iff_getElem?.mp hv
  have hij : i ≠ j := by
    rintro rfl
    exact hne (Option.some.inj (hj.symm.trans hu))
  refine List.mem_iff_getElem?.mpr ⟨j, ?_⟩
  rw [List.getElem?_set_ne hij, hj]

/-! ## Counting tasks -/

theorem countP_spawn {β : Type} (p : β → Bool) (l : List β) (v : β) :
    (l ++ [v]).countP p = l.countP p + (p v).toNat := by
  rw [List.countP_append, List.countP_singleton]
  cases p v <;> rfl

/-- A task that changes moves every count by what it counted before and counts now. -/
theorem countP_change {β : Type} (p : β → Bool) {l : List β} {i : Nat} {v : β} (v' : β)
    (h : l[i]? = some v) :
    (l.set i v').countP p + (p v).toNat = l.countP p + (p v').toNat := by
  obtain ⟨hi, rfl⟩ := List.getElem?_eq_some_iff.mp h
  have hpos : (p l[i]).toNat ≤ l.countP p := by
    cases hp : p l[i] with
    | false => exact Nat.zero_le _
    | true => exact List.countP_pos_iff.mpr ⟨l[i], List.getElem_mem hi, hp⟩
  rw [List.countP_set hi]
  revert hpos
  cases p l[i] <;> cases p v' <;>
    simp only [Bool.toNat_true, Bool.toNat_false, if_true, if_false, Bool.false_eq_true] <;> omega

end SesEmailAdapter.Lib
