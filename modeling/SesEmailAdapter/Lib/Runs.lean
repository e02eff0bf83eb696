import Mathlib.Init

/-! # Runs of operations

A state that a list of operations moves on, one after the other. When it is known just when one
operation keeps a property, it is known just when every state of a run has it. -/

namespace SesEmailAdapter.Lib

variable {S A : Type} (step : S → A → S)

/-- Every state of the run has the property, the first one included. -/
def Always (P : S → Prop) : S → List A → Prop
  | s, [] => P s
  | s, a :: as => P s ∧ Always P (step s a) as

/-- Every operation of the run fits the state it meets. -/
def EachFits (Fits : S → A → Prop) : S → List A → Prop
  | _, [] => True
  | s, a :: as => Fits s a ∧ EachFits Fits (step s a) as

variable {step} {P : S → Prop} {Fits : S → A → Prop}

variable {as : List A}

variable {s : S}

theorem Always.head (h : Always step P s as) : P s := by
  cases as with
  | nil => exact h
  | cons a as => exact h.1

theorem Always.imp {Q : S → Prop} (himp : ∀ s, P s → Q s)
    (h : Always step P s as) : Always step Q s as := by
  induction as generalizing s with
  | nil => exact himp s h
  | cons a as ih => exact ⟨himp s h.1, ih h.2⟩

theorem EachFits.imp {Fits' : S → A → Prop} (h : EachFits step Fits s as)
    (himp : ∀ s, ∀ a ∈ as, Fits s a → Fits' s a) : EachFits step Fits' s as := by
  induction as generalizing s with
  | nil => trivial
  | cons a as ih =>
    exact ⟨himp s a List.mem_cons_self h.1, ih h.2 fun s b hb => himp s b (.tail _ hb)⟩

theorem eachFits_congr {Fits' : S → A → Prop} (h : ∀ s a, Fits s a ↔ Fits' s a) (s : S)
    (as : List A) : EachFits step Fits s as ↔ EachFits step Fits' s as := by
  induction as generalizing s with
  | nil => exact Iff.rfl
  | cons a as ih => exact and_congr (h s a) (ih (step s a))

/-- **Runs, from one step.** If an operation of a kind keeps the property just when it fits, then
every state of a run of such operations has the property just when every operation fits. -/
theorem always_iff_eachFits_of {Kind : S → A → Prop}
    (hstep : ∀ s a, P s → Kind s a → (P (step s a) ↔ Fits s a)) (hs : P s)
    (hkind : EachFits step Kind s as) : Always step P s as ↔ EachFits step Fits s as := by
  induction as generalizing s with
  | nil => exact ⟨fun _ => trivial, fun _ => hs⟩
  | cons a as ih =>
    constructor
    · intro h
      have hfits := (hstep s a hs hkind.1).mp h.2.head
      exact ⟨hfits, (ih ((hstep s a hs hkind.1).mpr hfits) hkind.2).mp h.2⟩
    · intro h
      have hnext := (hstep s a hs hkind.1).mpr h.1
      exact ⟨hs, (ih hnext hkind.2).mpr h.2⟩

theorem eachFits_true (s : S) (as : List A) : EachFits step (fun _ _ => True) s as := by
  induction as generalizing s with
  | nil => trivial
  | cons a as ih => exact ⟨trivial, ih (step s a)⟩

/-- The rule for operations of every kind. -/
theorem always_iff_eachFits (hstep : ∀ s a, P s → (P (step s a) ↔ Fits s a))
    (hs : P s) (as : List A) : Always step P s as ↔ EachFits step Fits s as :=
  always_iff_eachFits_of (fun s a hp _ => hstep s a hp) hs (eachFits_true s as)

/-- Every state of a run of fitting operations has an invariant that they keep. -/
theorem always_of_eachFits (hstep : ∀ s a, P s → Fits s a → P (step s a)) (hs : P s)
    (h : EachFits step Fits s as) : Always step P s as := by
  induction as generalizing s with
  | nil => exact hs
  | cons a as ih => exact ⟨hs, ih (hstep s a hs h.1) h.2⟩

/-- The rule for a property that holds under an invariant which fitting operations keep. -/
theorem always_iff_eachFits_under {Q : S → Prop} (hkept : ∀ s a, P s → Fits s a → P (step s a))
    (hgood : ∀ s, P s → Q s) (hfits : ∀ s a, P s → Q (step s a) → Fits s a) (hs : P s)
    : Always step Q s as ↔ EachFits step Fits s as := by
  constructor
  · intro h
    induction as generalizing s with
    | nil => trivial
    | cons a as ih =>
      have hfit := hfits s a hs h.2.head
      exact ⟨hfit, ih (hkept s a hs hfit) h.2⟩
  · intro h
    exact (always_of_eachFits hkept hs h).imp hgood

/-- An invariant that fitting operations keep, and under which they are good. -/
theorem eachFits_of_invariant {Good : S → A → Prop}
    (hstep : ∀ s a, P s → Fits s a → P (step s a) ∧ Good s a) (hs : P s)
    (h : EachFits step Fits s as) : EachFits step Good s as := by
  induction as generalizing s with
  | nil => trivial
  | cons a as ih =>
    obtain ⟨hnext, hgood⟩ := hstep s a hs h.1
    exact ⟨hgood, ih hnext h.2⟩

end SesEmailAdapter.Lib
