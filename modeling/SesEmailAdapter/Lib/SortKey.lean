import Mathlib.Data.List.Lex
import Mathlib.Order.Lattice

/-! # Sort keys of several fields

Sequences of fields with a separator behind each, in the lexicographic order. Where the separator
lies below everything that a field holds, the fields are compared one after the other. -/

namespace SesEmailAdapter.Lib.SortKey

variable {α : Type} [LinearOrder α] {sep : α} {a b s t : List α}

/-- Everything in the field lies above the separator. -/
def Above (sep : α) (field : List α) : Prop := ∀ c ∈ field, sep < c

instance (sep : α) (field : List α) : Decidable (Above sep field) :=
  inferInstanceAs (Decidable (∀ c ∈ field, sep < c))

theorem append_lt_append_iff (front : List α) : front ++ a < front ++ b ↔ a < b := by
  induction front with
  | nil => rfl
  | cons c front ih => simp [ih]

theorem append_le_append_iff (front : List α) : front ++ a ≤ front ++ b ↔ a ≤ b := by
  rw [← not_lt, append_lt_append_iff, not_lt]

/-- What follows a field decides only between equal fields. -/
theorem field_lt_field_iff (ha : Above sep a) (hb : Above sep b) :
    a ++ sep :: s < b ++ sep :: t ↔ a < b ∨ a = b ∧ s < t := by
  induction a generalizing b with
  | nil =>
    cases b with
    | nil => simp
    | cons d b =>
      have hsep : sep < d := hb d List.mem_cons_self
      simp [List.cons_lt_cons_iff, hsep]
  | cons c a ih =>
    have hc : sep < c := ha c List.mem_cons_self
    cases b with
    | nil => simp [List.cons_lt_cons_iff, hc.not_gt, hc.ne']
    | cons d b =>
      have ih := ih (fun e he => ha e (List.mem_cons_of_mem c he))
        (fun e he => hb e (List.mem_cons_of_mem d he))
      simp only [List.cons_append, List.cons_lt_cons_iff, ih, List.cons.injEq]
      tauto

theorem field_le_field_iff (ha : Above sep a) (hb : Above sep b) :
    a ++ sep :: s ≤ b ++ sep :: t ↔ a < b ∨ a = b ∧ s ≤ t := by
  rw [← not_lt, field_lt_field_iff hb ha]
  constructor
  · intro h
    rcases lt_trichotomy a b with hlt | rfl | hgt
    · exact .inl hlt
    · exact .inr ⟨rfl, not_lt.mp fun hst => h (.inr ⟨rfl, hst⟩)⟩
    · exact absurd (.inl hgt) h
  · rintro (hlt | ⟨rfl, hst⟩) (hgt | ⟨heq, hts⟩)
    · exact hlt.asymm hgt
    · exact hlt.ne heq.symm
    · exact lt_irrefl _ hgt
    · exact hst.not_gt hts

/-- A bound without a separator behind it lets all of its own field in. -/
theorem le_field_iff (ha : Above sep a) : a ≤ b ++ sep :: t ↔ a ≤ b := by
  induction b generalizing a with
  | nil =>
    cases a with
    | nil => simp [← not_lt]
    | cons c a =>
      have hc : sep < c := ha c List.mem_cons_self
      simp [← not_lt, List.cons_lt_cons_iff, hc]
  | cons d b ih =>
    cases a with
    | nil => simp [← not_lt]
    | cons c a =>
      have ih := ih fun e he => ha e (List.mem_cons_of_mem c he)
      rw [← not_lt, ← not_lt] at ih ⊢
      have ih := not_iff_not.mp ih
      simp only [List.cons_append, List.cons_lt_cons_iff, ih]

end SesEmailAdapter.Lib.SortKey
