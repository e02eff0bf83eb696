import Mathlib.Data.List.Lex
import Mathlib.Data.Nat.Basic
import Mathlib.Tactic.Positivity

/-! # Numbers with leading zeros

A number written in a fixed count of decimal digits. Texts of one width are in the order of their
numbers, whatever follows them. -/

namespace SesEmailAdapter.Lib.DigitText

def digits : Nat → Nat → List Char
  | 0, _ => []
  | width + 1, n => (n / 10 ^ width).digitChar :: digits width (n % 10 ^ width)

variable {width n m : Nat}

@[simp] theorem length_digits (width n : Nat) : (digits width n).length = width := by
  induction width generalizing n with
  | zero => rfl
  | succ width ih => simp [digits, ih]

theorem div_lt_ten (h : n < 10 ^ (width + 1)) : n / 10 ^ width < 10 :=
  Nat.div_lt_of_lt_mul (by rwa [pow_succ] at h)

theorem isDigit_digitChar : ∀ d < 10, (Nat.digitChar d).isDigit = true := by decide

theorem isDigit_of_mem (h : n < 10 ^ width) : ∀ c ∈ digits width n, c.isDigit = true := by
  induction width generalizing n with
  | zero => simp [digits]
  | succ width ih =>
    intro c hc
    obtain rfl | hc := List.mem_cons.mp hc
    · exact isDigit_digitChar _ (div_lt_ten h)
    · exact ih (Nat.mod_lt n (by positivity)) c hc

theorem digitChar_lt_iff : ∀ a < 10, ∀ b < 10, Nat.digitChar a < Nat.digitChar b ↔ a < b := by
  decide

theorem digitChar_inj {a b : Nat} (ha : a < 10) (hb : b < 10) :
    Nat.digitChar a = Nat.digitChar b ↔ a = b := by
  constructor
  · intro h
    have hab := (digitChar_lt_iff a ha b hb).not
    have hba := (digitChar_lt_iff b hb a ha).not
    rw [h] at hab hba
    have hle := hab.mp (Char.lt_irrefl _)
    have hge := hba.mp (Char.lt_irrefl _)
    omega
  · rintro rfl
    rfl

/-- A number comes before another by its first digit, or by what is left of it. -/
theorem lt_iff_div_mod (k : Nat) :
    n < m ↔ n / k < m / k ∨ (n / k = m / k ∧ n % k < m % k) := by
  have hn := Nat.div_add_mod n k
  have hm := Nat.div_add_mod m k
  constructor
  · intro h
    obtain hlt | heq := (Nat.div_le_div_right (c := k) h.le).lt_or_eq
    · exact .inl hlt
    · refine .inr ⟨heq, ?_⟩
      rw [heq] at hn
      omega
  · rintro (h | ⟨heq, h⟩)
    · by_contra hle
      exact absurd (Nat.div_le_div_right (c := k) (not_lt.mp hle)) (not_le.mpr h)
    · rw [heq] at hn
      omega

/-- **Digits are in the order of their numbers**, and then in that of what follows. -/
theorem digits_append_lt_iff (hn : n < 10 ^ width) (hm : m < 10 ^ width) (s t : List Char) :
    digits width n ++ s < digits width m ++ t ↔ n < m ∨ (n = m ∧ s < t) := by
  induction width generalizing n m with
  | zero =>
    have hn : n = 0 := by simpa using hn
    have hm : m = 0 := by simpa using hm
    simp [digits, hn, hm]
  | succ width ih =>
    have hpos : 0 < 10 ^ width := by positivity
    have hdn := div_lt_ten hn
    have hdm := div_lt_ten hm
    rw [digits, digits, List.cons_append, List.cons_append, List.cons_lt_cons_iff,
      digitChar_lt_iff _ hdn _ hdm, digitChar_inj hdn hdm,
      ih (Nat.mod_lt n hpos) (Nat.mod_lt m hpos), @lt_iff_div_mod n m (10 ^ width)]
    have heq : n = m ↔ n / 10 ^ width = m / 10 ^ width ∧ n % 10 ^ width = m % 10 ^ width := by
      constructor
      · rintro rfl
        exact ⟨rfl, rfl⟩
      · rintro ⟨hdiv, hmod⟩
        rw [← Nat.div_add_mod n (10 ^ width), ← Nat.div_add_mod m (10 ^ width), hdiv, hmod]
    rw [heq]
    tauto

/-! ## Numbers as they are printed -/

theorem toDigits_injective (h : Nat.toDigits 10 m = Nat.toDigits 10 n) : m = n := by
  have hread := congrArg (fun digits => Nat.ofDigitChars 10 digits 0) h
  simpa only [Nat.ofDigitChars_ten_toDigits] using hread

/-- A number is read back up to a character that is no digit. -/
theorem takeWhile_toDigits {stop : Char} (hstop : stop.isDigit = false) (n : Nat)
    (text : List Char) :
    (Nat.toDigits 10 n ++ stop :: text).takeWhile (· ≠ stop) = Nat.toDigits 10 n := by
  have hdigits : ∀ c ∈ Nat.toDigits 10 n, decide (c ≠ stop) = true := by
    intro c hc
    have hdigit : c.isDigit = true := Nat.isDigit_of_mem_toDigits (by decide) (by decide) hc
    apply decide_eq_true
    intro heq
    rw [heq, hstop] at hdigit
    cases hdigit
  rw [List.takeWhile_append_of_pos hdigits]
  simp

theorem number_injective {stop : Char} (hstop : stop.isDigit = false) {text more : List Char}
    (h : Nat.toDigits 10 m ++ stop :: text = Nat.toDigits 10 n ++ stop :: more) : m = n := by
  apply toDigits_injective
  rw [← takeWhile_toDigits hstop m text, h, takeWhile_toDigits hstop]

end SesEmailAdapter.Lib.DigitText
