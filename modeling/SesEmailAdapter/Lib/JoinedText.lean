import Mathlib.Data.List.Basic

/-! # Texts joined by a separator

A text and, after a separator, the rest of it. Where a part may hold the separator, two joins can
agree though their parts do not: the head of one runs on over the separator of the other. -/

namespace SesEmailAdapter.Lib.JoinedText

def joined (separator : Char) (head : String) : Option String → String
  | none => head
  | some rest => head ++ String.singleton separator ++ rest

/-- The other head goes on where this one ends, into the rest of this one. -/
def RunsOn (separator : Char) (head : String) (rest : Option String) (head' : String)
    (rest' : Option String) : Prop :=
  ∃ middle, head' = joined separator head (some middle) ∧
    rest = some (joined separator middle rest')

/-- The characters of a join after its head. -/
def tailChars (separator : Char) : Option String → List Char
  | none => []
  | some rest => separator :: rest.toList

variable {separator : Char} {head head' : String} {rest rest' : Option String}

theorem toList_joined (separator : Char) (head : String) (rest : Option String) :
    (joined separator head rest).toList = head.toList ++ tailChars separator rest := by
  cases rest <;> simp [joined, tailChars]

theorem tailChars_inj (h : tailChars separator rest = tailChars separator rest') :
    rest = rest' := by
  cases rest <;> cases rest' <;> simp_all [tailChars, String.toList_inj]

theorem RunsOn.joined_eq (h : RunsOn separator head rest head' rest') :
    joined separator head rest = joined separator head' rest' := by
  obtain ⟨middle, rfl, rfl⟩ := h
  refine String.toList_inj.mp ?_
  simp [toList_joined, tailChars]

/-- A head that ends inside the tail of the other has run on over the separator. -/
theorem runsOn_of_append {gap : List Char} (hgap : gap ≠ [])
    (hhead : head'.toList = head.toList ++ gap)
    (htail : tailChars separator rest = gap ++ tailChars separator rest') :
    RunsOn separator head rest head' rest' := by
  cases rest with
  | none => simp_all [tailChars]
  | some rest =>
    obtain ⟨c, middle, rfl⟩ := List.exists_cons_of_ne_nil hgap
    obtain ⟨rfl, hrest⟩ := List.cons.inj htail
    refine ⟨String.ofList middle, ?_, congrArg some ?_⟩
    · rw [← String.toList_inj, toList_joined, hhead]
      simp [tailChars]
    · rw [← String.toList_inj, toList_joined, hrest]
      simp

/-- Two joins agree just when their parts do, or one head runs on into the rest of the other. -/
theorem joined_eq_iff :
    joined separator head rest = joined separator head' rest' ↔
      (head = head' ∧ rest = rest') ∨ RunsOn separator head rest head' rest' ∨
        RunsOn separator head' rest' head rest := by
  constructor
  · intro h
    have hchars := congrArg String.toList h
    rw [toList_joined, toList_joined, List.append_eq_append_iff] at hchars
    obtain ⟨gap, hhead, htail⟩ | ⟨gap, hhead, htail⟩ := hchars
    · by_cases hgap : gap = []
      · subst hgap
        rw [List.append_nil] at hhead
        exact .inl ⟨(String.toList_inj.mp hhead).symm, tailChars_inj htail⟩
      · exact .inr (.inl (runsOn_of_append hgap hhead htail))
    · by_cases hgap : gap = []
      · subst hgap
        rw [List.append_nil] at hhead
        exact .inl ⟨String.toList_inj.mp hhead, tailChars_inj htail.symm⟩
      · exact .inr (.inr (runsOn_of_append hgap hhead htail))
  · rintro (⟨rfl, rfl⟩ | h | h)
    · rfl
    · exact h.joined_eq
    · exact h.joined_eq.symm

/-- The head that runs on is not the other one. -/
theorem RunsOn.head_ne (h : RunsOn separator head rest head' rest') : head ≠ head' := by
  obtain ⟨middle, rfl, -⟩ := h
  intro heq
  have hlength := congrArg (fun text => text.toList.length) heq
  simp [toList_joined, tailChars] at hlength

theorem RunsOn.separator_mem (h : RunsOn separator head rest head' rest') :
    separator ∈ head'.toList := by
  obtain ⟨middle, rfl, -⟩ := h
  simp [toList_joined, tailChars]

/-- Heads without the separator are told apart by their joins. -/
theorem joined_inj (hhead : separator ∉ head.toList) (hhead' : separator ∉ head'.toList)
    (h : joined separator head rest = joined separator head' rest') :
    head = head' ∧ rest = rest' := by
  rcases joined_eq_iff.mp h with hparts | hruns | hruns
  · exact hparts
  · exact absurd hruns.separator_mem hhead'
  · exact absurd hruns.separator_mem hhead

end SesEmailAdapter.Lib.JoinedText
