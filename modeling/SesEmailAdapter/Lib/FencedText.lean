import Mathlib.Data.List.Infix

/-! # Marked tokens

A token that begins with a mark and has it nowhere else lies between two marks of a text, so it
never runs across the start of another one. A text in which every match of a token has its mark
replaced holds no such token. -/

namespace SesEmailAdapter.Lib.FencedText

variable {α : Type} {mark : α} {token : List α}

structure Marked (mark : α) (token : List α) : Prop where
  head : token.head? = some mark
  alone : mark ∉ token.tail

theorem Marked.ne_nil (h : Marked mark token) : token ≠ [] := by
  intro hnil
  have hhead := h.head
  rw [hnil] at hhead
  cases hhead

theorem Marked.mem (h : Marked mark token) : mark ∈ token := List.mem_of_head? h.head

theorem Marked.head_of_prefix {text : List α} (h : Marked mark token) (hfront : token <+: text) :
    text.head? = some mark := by
  obtain ⟨rest, rfl⟩ := hfront
  rw [List.head?_append, h.head, Option.some_or]

section Occurrences
variable {text rest before after : List α}

/-- Where a text begins with the mark, a token lies on one side of that place. -/
theorem Marked.split (h : Marked mark token) (hrest : rest.head? = some mark)
    (hsplit : text ++ rest = before ++ token ++ after) :
    (∃ more, text = before ++ token ++ more) ∨
      ∃ more, before = text ++ more ∧ rest = more ++ token ++ after := by
  rw [List.append_assoc] at hsplit
  rcases List.append_eq_append_iff.mp hsplit with h' | h'
  · obtain ⟨more, hbefore, hmore⟩ := h'
    exact .inr ⟨more, hbefore, by rw [hmore, List.append_assoc]⟩
  · obtain ⟨more, htext, hmore⟩ := h'
    rcases List.append_eq_append_iff.mp hmore with h'' | h''
    · obtain ⟨tail, hmore', -⟩ := h''
      exact .inl ⟨tail, by rw [htext, hmore', List.append_assoc]⟩
    · obtain ⟨tail, htoken, htail⟩ := h''
      cases tail with
      | nil =>
        rw [List.append_nil] at htoken
        exact .inl ⟨[], by rw [htext, htoken, List.append_nil]⟩
      | cons c tail =>
        -- the mark that begins the rest would stand inside the token
        rw [htail] at hrest
        obtain rfl := Option.some.inj hrest
        cases more with
        | nil => exact .inr ⟨[], by rw [htext]; simp, by rw [htail, htoken]; simp⟩
        | cons d more =>
          refine absurd ?_ h.alone
          rw [htoken]
          simp

/-- What stands before the first mark holds no part of a token. -/
theorem Marked.infix_append (h : Marked mark token) (hfree : mark ∉ text) :
    token <:+: text ++ rest ↔ token <:+: rest := by
  induction text with
  | nil => rfl
  | cons c text ih =>
    obtain ⟨hc, hfree⟩ := not_or.mp fun hmem => hfree (List.mem_cons.mpr hmem)
    rw [List.cons_append, List.infix_cons_iff, ih hfree]
    exact or_iff_right fun hfront => hc (Option.some.inj (h.head_of_prefix hfront)).symm

/-- What stands behind the last end mark holds no part of a token either. -/
theorem Marked.infix_append_right (h : Marked mark token.reverse) (hfree : mark ∉ rest) :
    token <:+: text ++ rest ↔ token <:+: text := by
  rw [← List.reverse_infix, List.reverse_append,
    h.infix_append fun hmem => hfree (List.mem_reverse.mp hmem), List.reverse_infix]

/-- Of two tokens with the end mark at their ends none begins the other. -/
theorem Marked.eq_of_prefix {token' : List α} (h : Marked mark token.reverse)
    (h' : Marked mark token'.reverse) (hfront : token <+: token') : token = token' := by
  obtain ⟨more, rfl⟩ := hfront
  rw [List.reverse_append] at h'
  cases hmore : more.reverse with
  | nil => rw [List.reverse_eq_nil_iff.mp hmore, List.append_nil]
  | cons c more' =>
    refine absurd ?_ h'.alone
    rw [hmore]
    exact List.mem_append_right more' h.mem

/-- An element that no token has keeps its two sides apart. -/
theorem infix_append_cons {c : α} (hne : token ≠ []) (hfree : c ∉ token) :
    token <:+: text ++ c :: rest ↔ token <:+: text ∨ token <:+: rest := by
  constructor
  · intro h
    obtain ⟨before, after, hsplit⟩ := h
    rw [List.append_assoc] at hsplit
    rcases List.append_eq_append_iff.mp hsplit with h' | h'
    · obtain ⟨more, htext, hmore⟩ := h'
      rcases List.append_eq_append_iff.mp hmore with h'' | h''
      · obtain ⟨tail, rfl, -⟩ := h''
        exact .inl ⟨before, tail, by rw [htext, List.append_assoc]⟩
      · obtain ⟨tail, htoken, htail⟩ := h''
        cases tail with
        | nil =>
          rw [List.append_nil] at htoken
          exact .inl ⟨before, [], by rw [htext, htoken, List.append_nil]⟩
        | cons d tail =>
          obtain ⟨rfl, -⟩ := List.cons.inj htail
          exact absurd (htoken ▸ by simp) hfree
    · obtain ⟨more, hbefore, hmore⟩ := h'
      cases more with
      | nil =>
        cases token with
        | nil => exact absurd rfl hne
        | cons d token =>
          obtain ⟨rfl, -⟩ := List.cons.inj hmore
          exact absurd List.mem_cons_self hfree
      | cons d more =>
        obtain ⟨-, rfl⟩ := List.cons.inj hmore
        exact .inr ⟨more, after, by simp⟩
  · intro h
    rcases h with h | h
    · exact h.trans (List.infix_append [] text (c :: rest))
    · exact h.trans ((List.suffix_cons c rest).isInfix.trans (List.suffix_append text _).isInfix)

theorem prefix_append_cons {c : α} (hfree : c ∉ token) :
    token <+: text ++ c :: rest ↔ token <+: text := by
  constructor
  · intro h
    have hstop : text ++ [c] <+: text ++ c :: rest := ⟨rest, by simp⟩
    rcases List.prefix_or_prefix_of_prefix h hstop with h' | h'
    · rcases List.prefix_concat_iff.mp h' with rfl | h'
      · exact absurd (by simp) hfree
      · exact h'
    · exact absurd (h'.subset (by simp)) hfree
  · intro h
    exact h.trans (List.prefix_append text _)

/-- Items with a separator between them that no token has. -/
theorem infix_intercalate {c : α} (hne : token ≠ []) (hfree : c ∉ token) {items : List (List α)} :
    token <:+: [c].intercalate items ↔ ∃ item ∈ items, token <:+: item := by
  induction items with
  | nil => simp [hne]
  | cons item items ih =>
    cases items with
    | nil => simp
    | cons next items =>
      rw [List.intercalate_cons_cons, List.append_assoc, List.singleton_append,
        infix_append_cons hne hfree, ih]
      simp

end Occurrences

/-! ## Masked matches -/

/-- The masked text, where some of the next elements belong to a match. -/
def maskFrom (here : List α → Option Nat) (mask : α → α) : Nat → List α → List α
  | _, [] => []
  | skip + 1, c :: rest => mask c :: maskFrom here mask skip rest
  | 0, c :: rest =>
    match here (c :: rest) with
    | some length => mask c :: maskFrom here mask (length - 1) rest
    | none => c :: maskFrom here mask 0 rest

/-- Every match, from the left and without overlaps, is masked element by element. -/
def maskMatches (here : List α → Option Nat) (mask : α → α) (text : List α) : List α :=
  maskFrom here mask 0 text

section Masked
variable {here : List α → Option Nat} {mask : α → α}

/-- An element of the masked text that masking never gives stood there before. -/
theorem prefix_of_prefix_maskFrom (hkeep : ∀ c, mask c ∈ token → mask c = c) {skip : Nat}
    {text : List α} (h : token <+: maskFrom here mask skip text) : token <+: text := by
  induction token generalizing skip text with
  | nil => exact List.nil_prefix
  | cons d token ih =>
    replace ih := fun {skip text} => @ih (fun c hc => hkeep c (List.mem_cons_of_mem d hc)) skip text
    cases text with
    | nil => simp [maskFrom] at h
    | cons c text =>
      cases skip with
      | succ skip =>
        obtain ⟨rfl, hrest⟩ := List.cons_prefix_cons.mp h
        rw [hkeep c List.mem_cons_self]
        exact List.cons_prefix_cons.mpr ⟨rfl, ih hrest⟩
      | zero =>
        rw [maskFrom] at h
        split at h
        · obtain ⟨rfl, hrest⟩ := List.cons_prefix_cons.mp h
          rw [hkeep c List.mem_cons_self]
          exact List.cons_prefix_cons.mpr ⟨rfl, ih hrest⟩
        · obtain ⟨rfl, hrest⟩ := List.cons_prefix_cons.mp h
          exact List.cons_prefix_cons.mpr ⟨rfl, ih hrest⟩

theorem not_prefix_maskFrom (hmark : Marked mark token) (hmask : ∀ c, mask c ≠ mark)
    (hkeep : ∀ c, mask c ∈ token → mask c = c) (hfound : ∀ rest, here (token ++ rest) ≠ none)
    (skip : Nat) (text : List α) : ¬ token <+: maskFrom here mask skip text := by
  intro hfront
  have hback := prefix_of_prefix_maskFrom hkeep hfront
  have hhead := hmark.head_of_prefix hfront
  cases text with
  | nil => simp [maskFrom] at hhead
  | cons c text =>
    cases skip with
    | succ skip => exact hmask c (Option.some.inj hhead)
    | zero =>
      obtain ⟨rest, hrest⟩ := hback
      cases hhere : here (c :: text) with
      | none => exact hfound rest (hrest ▸ hhere)
      | some length =>
        rw [maskFrom, hhere] at hhead
        exact hmask c (Option.some.inj hhead)

/-- No token is left, when every one is matched where it stands and masking takes the mark away. -/
theorem not_infix_maskMatches (hmark : Marked mark token) (hmask : ∀ c, mask c ≠ mark)
    (hkeep : ∀ c, mask c ∈ token → mask c = c) (hfound : ∀ rest, here (token ++ rest) ≠ none)
    (text : List α) : ¬ token <:+: maskMatches here mask text := by
  have hany : ∀ skip, ¬ token <:+: maskFrom here mask skip text := by
    induction text with
    | nil =>
      intro skip h
      have hskip : maskFrom here mask skip [] = [] := by simp [maskFrom]
      exact hmark.ne_nil (List.infix_nil.mp (hskip ▸ h))
    | cons c text ih =>
      intro skip h
      have hstart := not_prefix_maskFrom hmark hmask hkeep hfound skip (c :: text)
      cases skip with
      | succ skip => exact (List.infix_cons_iff.mp h).elim hstart (ih skip)
      | zero =>
        cases hhere : here (c :: text) with
        | some length =>
          simp only [maskFrom, hhere] at h hstart
          exact (List.infix_cons_iff.mp h).elim hstart (ih _)
        | none =>
          simp only [maskFrom, hhere] at h hstart
          exact (List.infix_cons_iff.mp h).elim hstart (ih 0)
  exact hany 0

end Masked

end SesEmailAdapter.Lib.FencedText
