import Mathlib.Init

/-! # Filtering by what stands before

A filter whose test sees the items before the one it decides on. -/

namespace SesEmailAdapter.Lib.PlacedFilter

variable {α : Type} (keeps : List α → α → Bool)

/-- The items that are kept where they stand. -/
def keptFrom (before : List α) : List α → List α
  | [] => []
  | a :: rest =>
    if keeps before a then a :: keptFrom (before ++ [a]) rest else keptFrom (before ++ [a]) rest

variable {keeps}

theorem mem_keptFrom {before items : List α} {a : α} :
    a ∈ keptFrom keeps before items ↔
      ∃ front after, items = front ++ a :: after ∧ keeps (before ++ front) a = true := by
  induction items generalizing before with
  | nil => simp [keptFrom]
  | cons b rest ih =>
    have hrest : a ∈ keptFrom keeps (before ++ [b]) rest ↔ ∃ front after,
        rest = front ++ a :: after ∧ keeps (before ++ b :: front) a = true := by
      rw [ih]
      simp
    have hsplit : (∃ front after, b :: rest = front ++ a :: after ∧
          keeps (before ++ front) a = true) ↔
        (a = b ∧ keeps before b = true) ∨ ∃ front after, rest = front ++ a :: after ∧
          keeps (before ++ b :: front) a = true := by
      constructor
      · rintro ⟨front, after, heq, hkeeps⟩
        cases front with
        | nil =>
          obtain ⟨rfl, -⟩ := List.cons.inj heq
          exact .inl ⟨rfl, by simpa using hkeeps⟩
        | cons c front =>
          obtain ⟨rfl, rfl⟩ := List.cons.inj heq
          exact .inr ⟨front, after, rfl, hkeeps⟩
      · rintro (⟨rfl, hkeeps⟩ | ⟨front, after, rfl, hkeeps⟩)
        · exact ⟨[], rest, rfl, by simpa using hkeeps⟩
        · exact ⟨b :: front, after, rfl, hkeeps⟩
    rw [hsplit, keptFrom, ← hrest]
    split
    · rename_i hkeeps
      simp [hkeeps]
    · rename_i hkeeps
      simp [hkeeps]

/-- The kept items are related pairwise when any two are at their places. -/
theorem pairwise_keptFrom {R : α → α → Prop} {before items : List α} :
    (keptFrom keeps before items).Pairwise R ↔
      ∀ front a middle b after, items = front ++ a :: (middle ++ b :: after) →
        keeps (before ++ front) a = true → keeps (before ++ front ++ a :: middle) b = true →
          R a b := by
  induction items generalizing before with
  | nil => simp [keptFrom]
  | cons c rest ih =>
    have hstep : (∀ front a middle b after, c :: rest = front ++ a :: (middle ++ b :: after) →
          keeps (before ++ front) a = true → keeps (before ++ front ++ a :: middle) b = true →
            R a b) ↔
        (keeps before c = true → ∀ b ∈ keptFrom keeps (before ++ [c]) rest, R c b) ∧
          (keptFrom keeps (before ++ [c]) rest).Pairwise R := by
      rw [ih]
      constructor
      · intro h
        refine ⟨?_, ?_⟩
        · intro hc b hb
          obtain ⟨middle, after, rfl, hkeeps⟩ := mem_keptFrom.mp hb
          exact h [] c middle b after rfl (by simpa using hc) (by simpa using hkeeps)
        · intro front a middle b after hrest ha hb
          exact h (c :: front) a middle b after (by rw [hrest]; rfl) (by simpa using ha)
            (by simpa using hb)
      · rintro ⟨hhead, htail⟩ front a middle b after hsplit ha hb
        cases front with
        | nil =>
          obtain ⟨rfl, rfl⟩ := List.cons.inj hsplit
          refine hhead (by simpa using ha) b (mem_keptFrom.mpr ⟨middle, after, rfl, ?_⟩)
          simpa using hb
        | cons d front =>
          obtain ⟨rfl, rfl⟩ := List.cons.inj hsplit
          exact htail front a middle b after rfl (by simpa using ha) (by simpa using hb)
    rw [hstep, keptFrom]
    split
    · rename_i hkeeps
      simp [List.pairwise_cons, hkeeps]
    · rename_i hkeeps
      simp [hkeeps]

theorem keptFrom_append (before items more : List α) :
    keptFrom keeps before (items ++ more) =
      keptFrom keeps before items ++ keptFrom keeps (before ++ items) more := by
  induction items generalizing before with
  | nil => simp [keptFrom]
  | cons a items ih =>
    rw [List.cons_append, keptFrom, keptFrom, ih]
    have hplace : before ++ [a] ++ items = before ++ a :: items := by simp
    split <;> simp [hplace]

theorem filter_keptFrom (p : α → Bool) (before items : List α) :
    (keptFrom keeps before items).filter p =
      keptFrom (fun before a => keeps before a && p a) before items := by
  induction items generalizing before with
  | nil => rfl
  | cons a items ih =>
    rw [keptFrom, keptFrom, ← ih]
    cases hkeeps : keeps before a <;> cases hp : p a <;> simp [hp]

theorem keptFrom_all (before items : List α) : keptFrom (fun _ _ => true) before items = items := by
  induction items generalizing before with
  | nil => rfl
  | cons a items ih => rw [keptFrom, if_pos rfl, ih]

end SesEmailAdapter.Lib.PlacedFilter
