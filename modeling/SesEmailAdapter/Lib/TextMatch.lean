import Mathlib.Init

/-! # Matches in a text

A pattern that is not anchored is tried at every place of a text, from the left. -/

namespace SesEmailAdapter.Lib.TextMatch

variable {α : Type}

/-- The pattern matches somewhere in the text. -/
def somewhere (test : List Char → Bool) : List Char → Bool
  | [] => test []
  | c :: rest => test (c :: rest) || somewhere test rest

/-- The match at the first place that has one. -/
def firstMatch (here : List Char → Option α) : List Char → Option α
  | [] => here []
  | c :: rest => here (c :: rest) <|> firstMatch here rest

/-- The matches from left to right, each with its length; no two overlap. The first `skip`
characters belong to the match before. -/
def matchesFrom (here : List Char → Option (α × Nat)) : Nat → List Char → List α
  | _, [] => []
  | skip + 1, _ :: rest => matchesFrom here skip rest
  | 0, c :: rest =>
    match here (c :: rest) with
    | some (a, length) => a :: matchesFrom here (length - 1) rest
    | none => matchesFrom here 0 rest

def allMatches (here : List Char → Option (α × Nat)) (text : List Char) : List α :=
  matchesFrom here 0 text

/-- The text without the matches. -/
def removeFrom (here : List Char → Option (α × Nat)) : Nat → List Char → List Char
  | _, [] => []
  | skip + 1, _ :: rest => removeFrom here skip rest
  | 0, c :: rest =>
    match here (c :: rest) with
    | some (_, length) => removeFrom here (length - 1) rest
    | none => c :: removeFrom here 0 rest

def removeMatches (here : List Char → Option (α × Nat)) (text : List Char) : List Char :=
  removeFrom here 0 text

theorem somewhere_iff {test : List Char → Bool} {text : List Char} :
    somewhere test text = true ↔ ∃ before after, text = before ++ after ∧ test after = true := by
  induction text with
  | nil =>
    constructor
    · intro h
      exact ⟨[], [], rfl, h⟩
    · rintro ⟨before, after, htext, h⟩
      obtain ⟨rfl, rfl⟩ := List.append_eq_nil_iff.mp htext.symm
      exact h
  | cons c rest ih =>
    rw [somewhere, Bool.or_eq_true, ih]
    constructor
    · rintro (h | ⟨before, after, rfl, h⟩)
      · exact ⟨[], c :: rest, rfl, h⟩
      · exact ⟨c :: before, after, rfl, h⟩
    · rintro ⟨before, after, htext, h⟩
      cases before with
      | nil =>
        obtain rfl : c :: rest = after := htext
        exact .inl h
      | cons b before =>
        obtain ⟨-, rfl⟩ := List.cons.inj htext
        exact .inr ⟨before, after, rfl, h⟩

/-- What stands before a match is passed over when nothing matches there. -/
theorem firstMatch_append {here : List Char → Option α} {before after : List Char} {a : α}
    (hnone : ∀ u v, before = u ++ v → v ≠ [] → here (v ++ after) = none) (h : here after = some a) :
    firstMatch here (before ++ after) = some a := by
  induction before with
  | nil =>
    cases after with
    | nil => exact h
    | cons c after => simp [firstMatch, h]
  | cons c before ih =>
    have hhead : here (c :: (before ++ after)) = none := hnone [] (c :: before) rfl (by simp)
    have hrest : firstMatch here (before ++ after) = some a :=
      ih fun u v hsplit hv => hnone (c :: u) v (by rw [hsplit]; rfl) hv
    simp [firstMatch, hhead, hrest]

section MatchesFrom
variable {here : List Char → Option (α × Nat)}

theorem matchesFrom_skip (before after : List Char) :
    matchesFrom here before.length (before ++ after) = matchesFrom here 0 after := by
  induction before with
  | nil => rfl
  | cons c before ih => exact ih

/-- The match at the start of a text is the first one. -/
theorem allMatches_hit {c : Char} {before after : List Char} {a : α}
    (h : here (c :: (before ++ after)) = some (a, (c :: before).length)) :
    allMatches here (c :: (before ++ after)) = a :: allMatches here after := by
  rw [allMatches, matchesFrom, h]
  exact congrArg _ (matchesFrom_skip before after)

theorem allMatches_miss {c : Char} {rest : List Char} (h : here (c :: rest) = none) :
    allMatches here (c :: rest) = allMatches here rest := by
  rw [allMatches, matchesFrom, h]
  rfl

end MatchesFrom

end SesEmailAdapter.Lib.TextMatch
