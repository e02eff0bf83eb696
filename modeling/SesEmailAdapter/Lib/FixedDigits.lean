import Mathlib.Algebra.Group.Nat.Defs
import Mathlib.Data.List.Lex
import Mathlib.Order.Lattice

/-! # Numbers in a fixed number of digits

A number below a power of the base is written with a fixed number of digits, the leading one first.
Where the digits of an alphabet stand in the order of their values, the order of the texts is that
of the numbers. -/

namespace SesEmailAdapter.Lib.FixedDigits

/-- The digits of a number, for a width. -/
def digits (base : Nat) : Nat → Nat → List Nat
  | 0, _ => []
  | width + 1, n => n / base ^ width :: digits base width (n % base ^ width)

variable {base width m n : Nat}

@[simp] theorem length_digits (base width n : Nat) : (digits base width n).length = width := by
  induction width generalizing n with
  | zero => rfl
  | succ width ih => simp [digits, ih]

theorem mod_pow_lt (h : n < base ^ (width + 1)) : n % base ^ width < base ^ width := by
  refine Nat.mod_lt _ (Nat.pos_of_ne_zero fun hzero => ?_)
  rw [Nat.pow_succ, hzero, Nat.zero_mul] at h
  exact absurd h (Nat.not_lt_zero _)

theorem digits_lt_base (h : n < base ^ width) : ∀ d ∈ digits base width n, d < base := by
  induction width generalizing n with
  | zero => simp [digits]
  | succ width ih =>
    intro d hd
    rcases List.mem_cons.mp hd with rfl | hd
    · rw [Nat.pow_succ, Nat.mul_comm] at h
      exact Nat.div_lt_of_lt_mul (by rwa [Nat.mul_comm])
    · exact ih (mod_pow_lt h) d hd

/-- Two numbers compare as their leading parts do, or as the rest where these are equal. -/
theorem lt_iff_div_mod (p : Nat) (hp : 0 < p) :
    m < n ↔ m / p < n / p ∨ m / p = n / p ∧ m % p < n % p := by
  have hm := Nat.div_add_mod m p
  have hn := Nat.div_add_mod n p
  have hmlt := Nat.mod_lt m hp
  have hnlt := Nat.mod_lt n hp
  constructor
  · intro hlt
    rcases Nat.lt_or_eq_of_le (Nat.div_le_div_right (c := p) (Nat.le_of_lt hlt)) with h | h
    · exact .inl h
    · refine .inr ⟨h, ?_⟩
      rw [h] at hm
      omega
  · rintro (h | ⟨h, hmod⟩)
    · have hstep : p * (m / p) + p ≤ p * (n / p) := by
        rw [← Nat.mul_succ]
        exact Nat.mul_le_mul_left p h
      omega
    · rw [h] at hm
      omega

/-- **The digits compare as the numbers do.** -/
theorem digits_lt_iff (hm : m < base ^ width) (hn : n < base ^ width) :
    digits base width m < digits base width n ↔ m < n := by
  induction width generalizing m n with
  | zero =>
    rw [Nat.pow_zero] at hm hn
    refine iff_of_false ?_ (by omega)
    simp [digits]
  | succ width ih =>
    have hp : 0 < base ^ width := by
      refine Nat.pos_of_ne_zero fun hzero => ?_
      rw [Nat.pow_succ, hzero, Nat.zero_mul] at hm
      exact absurd hm (Nat.not_lt_zero _)
    rw [digits, digits, List.cons_lt_cons_iff, ih (mod_pow_lt hm) (mod_pow_lt hn),
      ← lt_iff_div_mod _ hp]

/-! ## Alphabets -/

variable {α : Type} [LinearOrder α]

/-- The digits stand in the order of their values. -/
def Sorted (base : Nat) (digit : Nat → α) : Prop :=
  ∀ i j, i < j → j < base → digit i < digit j

variable {digit : Nat → α}

theorem map_lt_of_lt (h : Sorted base digit) {l l' : List Nat}
    (hl : ∀ d ∈ l, d < base) (hl' : ∀ d ∈ l', d < base) (hlt : l < l') :
    l.map digit < l'.map digit := by
  induction l generalizing l' with
  | nil =>
    cases l' with
    | nil => exact absurd hlt (List.lt_irrefl _)
    | cons d l' => simp
  | cons c l ih =>
    cases l' with
    | nil => simp at hlt
    | cons d l' =>
      obtain ⟨-, hrest⟩ := List.forall_mem_cons.mp hl
      obtain ⟨hd, hrest'⟩ := List.forall_mem_cons.mp hl'
      rw [List.cons_lt_cons_iff] at hlt
      rw [List.map_cons, List.map_cons, List.cons_lt_cons_iff]
      rcases hlt with hlt | ⟨rfl, hlt⟩
      · exact .inl (h c d hlt hd)
      · exact .inr ⟨rfl, ih hrest hrest' hlt⟩

def encode (base width : Nat) (digit : Nat → α) (n : Nat) : List α :=
  (digits base width n).map digit

omit [LinearOrder α] in
@[simp] theorem length_encode (base width : Nat) (digit : Nat → α) (n : Nat) :
    (encode base width digit n).length = width := by
  simp [encode]

theorem encode_lt_of_lt (h : Sorted base digit) (hn : n < base ^ width)
    (hlt : m < n) : encode base width digit m < encode base width digit n := by
  have hm := Nat.lt_trans hlt hn
  exact map_lt_of_lt h (digits_lt_base hm) (digits_lt_base hn) ((digits_lt_iff hm hn).mpr hlt)

/-- Texts of one length compare before what follows them does. -/
theorem append_lt_append {l l' : List α} (hlength : l.length = l'.length) (h : l < l')
    (rest rest' : List α) : l ++ rest < l' ++ rest' := by
  induction l generalizing l' with
  | nil =>
    obtain rfl := List.eq_nil_of_length_eq_zero hlength.symm
    exact absurd h (List.lt_irrefl _)
  | cons c l ih =>
    cases l' with
    | nil => simp at hlength
    | cons d l' =>
      rw [List.cons_lt_cons_iff] at h
      rw [List.cons_append, List.cons_append, List.cons_lt_cons_iff]
      rcases h with h | ⟨rfl, h⟩
      · exact .inl h
      · exact .inr ⟨rfl, ih (Nat.succ.inj hlength) h⟩

/-- **The order of numbers is the order of their texts**, with anything before and behind them that
depends on the number only. -/
theorem encode_lt_iff (h : Sorted base digit) (hm : m < base ^ width)
    (hn : n < base ^ width) (start : List α) (rest : Nat → List α) :
    start ++ (encode base width digit m ++ rest m) <
        start ++ (encode base width digit n ++ rest n) ↔ m < n := by
  have hforward {m n : Nat} (hn : n < base ^ width) (hlt : m < n) :
      start ++ (encode base width digit m ++ rest m) <
        start ++ (encode base width digit n ++ rest n) := by
    have hrest := append_lt_append (by simp) (encode_lt_of_lt h hn hlt) (rest m) (rest n)
    induction start with
    | nil => exact hrest
    | cons c start ih => exact List.cons_lt_cons_iff.mpr (.inr ⟨rfl, ih⟩)
  refine ⟨fun hlt => ?_, hforward hn⟩
  rcases Nat.lt_trichotomy m n with h | rfl | h
  · exact h
  · exact absurd hlt (List.lt_irrefl _)
  · exact absurd hlt (List.lt_asymm (hforward hm h))

end SesEmailAdapter.Lib.FixedDigits
