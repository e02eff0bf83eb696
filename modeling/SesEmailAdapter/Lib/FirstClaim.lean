import Mathlib.Data.Prod.Lex
import Mathlib.Logic.Function.Basic

/-! # First claims

Of the claims to a thing, each with its time, the oldest one counts, and of two of one time the one
of the smaller claimant. A claim that is made, or made again, leaves the first one to its claimant
just when it does not come before it. -/

namespace SesEmailAdapter.Lib

variable {K T : Type} [LinearOrder K] [LinearOrder T]

/-- The claimant has the oldest claim. -/
def FirstClaim (claims : K → Option T) (k : K) : Prop :=
  ∃ t, claims k = some t ∧ ∀ k' t', claims k' = some t' → toLex (t, k) ≤ toLex (t', k')

theorem FirstClaim.unique {claims : K → Option T} {k k' : K} (h : FirstClaim claims k)
    (h' : FirstClaim claims k') : k = k' := by
  obtain ⟨t, ht, hle⟩ := h
  obtain ⟨t', ht', hle'⟩ := h'
  have heq := le_antisymm (hle k' t' ht') (hle' k t ht)
  exact (Prod.mk.inj (toLex.injective heq)).2

end SesEmailAdapter.Lib
