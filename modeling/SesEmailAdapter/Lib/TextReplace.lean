import Mathlib.Data.List.Infix

/-! # Replacement of a text in a text

Every occurrence of a pattern, from the left and without overlaps, is replaced by an answer that may
depend on what stands before and behind it. A substitution has one answer for all of them. -/

namespace SesEmailAdapter.Lib.TextReplace

variable {α : Type} [DecidableEq α]

/-- The replacement from a place on, where some of the next elements belong to an occurrence. -/
@[grind =] def replaceFrom (pattern : List α) (answer : List α → List α → List α) (before : List α) :
    Nat → List α → List α
  | _, [] => []
  | skip + 1, c :: rest => replaceFrom pattern answer (before ++ [c]) skip rest
  | 0, c :: rest =>
    if pattern.isPrefixOf (c :: rest) then
      answer before ((c :: rest).drop pattern.length) ++
        replaceFrom pattern answer (before ++ [c]) (pattern.length - 1) rest
    else c :: replaceFrom pattern answer (before ++ [c]) 0 rest

def replaceAll (pattern : List α) (answer : List α → List α → List α) (text : List α) : List α :=
  replaceFrom pattern answer [] 0 text

def substitute (pattern replacement text : List α) : List α :=
  replaceAll pattern (fun _ _ => replacement) text

section Substitute
variable {pattern replacement text more : List α}

theorem replaceFrom_const (before before' : List α) (skip : Nat) (text : List α) :
    replaceFrom pattern (fun _ _ => replacement) before skip text =
      replaceFrom pattern (fun _ _ => replacement) before' skip text := by
  induction text generalizing before before' skip with
  | nil => simp [replaceFrom]
  | cons c text ih =>
    cases skip with
    | zero =>
      rw [replaceFrom, replaceFrom, ih (before ++ [c]) (before' ++ [c]) (pattern.length - 1),
        ih (before ++ [c]) (before' ++ [c]) 0]
    | succ skip => rw [replaceFrom, replaceFrom, ih (before ++ [c]) (before' ++ [c]) skip]

theorem replaceFrom_skip {answer : List α → List α → List α} (text more before : List α) :
    replaceFrom pattern answer before text.length (text ++ more) =
      replaceFrom pattern answer (before ++ text) 0 more := by
  induction text generalizing before with
  | nil => simp
  | cons c text ih =>
    rw [List.cons_append, List.length_cons, replaceFrom, ih]
    simp

theorem substitute_nil : substitute pattern replacement [] = [] := rfl

theorem substitute_hit (hpattern : pattern ≠ []) (more : List α) :
    substitute pattern replacement (pattern ++ more) =
      replacement ++ substitute pattern replacement more := by
  unfold substitute replaceAll
  cases hform : pattern with
  | nil => exact absurd hform hpattern
  | cons c rest =>
    have hfront : (c :: rest).isPrefixOf (c :: (rest ++ more)) = true := by
      simp [List.isPrefixOf_iff_prefix]
    have hlength : (c :: rest).length - 1 = rest.length := rfl
    rw [List.cons_append, replaceFrom, if_pos hfront, hlength, replaceFrom_skip,
      replaceFrom_const _ [] 0 more]

theorem substitute_miss {c : α} (h : ¬ pattern <+: c :: text) :
    substitute pattern replacement (c :: text) = c :: substitute pattern replacement text := by
  have hmiss : ¬ pattern.isPrefixOf (c :: text) = true := by
    rwa [List.isPrefixOf_iff_prefix]
  unfold substitute replaceAll
  rw [replaceFrom, if_neg hmiss, replaceFrom_const _ [] 0 text]

/-- A text has an occurrence at its start, with a text behind it, or an element. -/
theorem substitute_induction {motive : List α → Prop} (hpattern : pattern ≠ []) (nil : motive [])
    (hit : ∀ more, motive more → motive (pattern ++ more))
    (miss : ∀ c text, ¬ pattern <+: c :: text → motive text → motive (c :: text))
    (text : List α) : motive text := by
  induction hlength : text.length using Nat.strong_induction_on generalizing text with
  | _ length ih =>
    cases text with
    | nil => exact nil
    | cons c rest =>
      by_cases hfront : pattern <+: c :: rest
      · obtain ⟨more, hmore⟩ := hfront
        rw [← hmore]
        have hpos := List.length_pos_of_ne_nil hpattern
        have hsum := congrArg List.length hmore
        rw [List.length_append, hlength] at hsum
        exact hit more (ih more.length (by omega) more rfl)
      · rw [List.length_cons] at hlength
        exact miss c rest hfront (ih rest.length (by omega) rest rfl)

theorem substitute_eq_self (h : ¬ pattern <:+: text) :
    substitute pattern replacement text = text := by
  induction text with
  | nil => rfl
  | cons c text ih =>
    rw [List.infix_cons_iff, not_or] at h
    rw [substitute_miss h.1, ih h.2]

/-- An element that no occurrence starts with is passed over. -/
theorem substitute_of_not_mem {d : α} (hpattern : pattern.head? = some d) (h : d ∉ text) :
    substitute pattern replacement (text ++ more) =
      text ++ substitute pattern replacement more := by
  induction text with
  | nil => rfl
  | cons c text ih =>
    have hmiss : ¬ pattern <+: c :: (text ++ more) := by
      intro hfront
      obtain ⟨rest, hrest⟩ := hfront
      cases pattern with
      | nil => cases hpattern
      | cons e pattern =>
        obtain rfl := Option.some.inj hpattern
        obtain ⟨rfl, -⟩ := List.cons.inj hrest
        exact h List.mem_cons_self
    rw [List.cons_append, substitute_miss hmiss, ih fun hmem => h (List.mem_cons_of_mem c hmem),
      List.cons_append]

/-- A reading of the elements that gives a replacement what it gives the pattern. -/
theorem flatMap_substitute {β : Type} {f : α → List β} (hne : pattern ≠ [])
    (hsame : replacement.flatMap f = pattern.flatMap f) (text : List α) :
    (substitute pattern replacement text).flatMap f = text.flatMap f := by
  induction text using substitute_induction hne with
  | nil => rfl
  | hit more ih =>
    rw [substitute_hit hne, List.flatMap_append, List.flatMap_append, ih, hsame]
  | miss c text hmiss ih => rw [substitute_miss hmiss, List.flatMap_cons, List.flatMap_cons, ih]

/-! ## Split and join -/

/-- `text.split(separator).join(replacement)`: an empty separator splits between all elements. -/
def splitJoin (separator replacement text : List α) : List α :=
  if separator = [] then replacement.intercalate (text.map fun c => [c])
  else substitute separator replacement text

theorem flatMap_splitJoin {β : Type} {f : α → List β} {separator : List α}
    (hsame : replacement.flatMap f = separator.flatMap f) (text : List α) :
    (splitJoin separator replacement text).flatMap f = text.flatMap f := by
  unfold splitJoin
  split
  · next hempty =>
    rw [hempty, List.flatMap_nil] at hsame
    induction text with
    | nil => rfl
    | cons c text ih =>
      cases text with
      | nil => simp
      | cons d text =>
        rw [List.map_cons, List.map_cons, List.intercalate_cons_cons, List.append_assoc,
          List.flatMap_append, List.flatMap_append, hsame, ← List.map_cons (f := fun c => [c]), ih]
        simp
  · next hne => exact flatMap_substitute hne hsame text

theorem mem_splitJoin {separator : List α} {a : α}
    (h : a ∈ splitJoin separator replacement text) : a ∈ replacement ∨ a ∈ text := by
  unfold splitJoin at h
  split at h
  · induction text with
    | nil => simp at h
    | cons c text ih =>
      cases text with
      | nil => exact .inr (by simpa using h)
      | cons d text =>
        rw [List.map_cons, List.map_cons, List.intercalate_cons_cons,
          ← List.map_cons (f := fun c => [c]), List.append_assoc, List.mem_append,
          List.mem_append] at h
        rcases h with h | h | h
        · exact .inr (List.mem_cons.mpr (.inl (List.mem_singleton.mp h)))
        · exact .inl h
        · exact (ih h).imp_right (List.mem_cons_of_mem c)
  · next hne =>
    induction text using substitute_induction hne with
    | nil => exact .inr h
    | hit more ih =>
      rw [substitute_hit hne, List.mem_append] at h
      rcases h with h | h
      · exact .inl h
      · exact (ih h).imp_right (List.mem_append_right separator)
    | miss c text hmiss ih =>
      rw [substitute_miss hmiss, List.mem_cons] at h
      rcases h with rfl | h
      · exact .inr List.mem_cons_self
      · exact (ih h).imp_right (List.mem_cons_of_mem c)

/-! ## Texts of a kind -/

variable {kind : α → Bool}

omit [DecidableEq α] in
/-- Elements of one kind in front of one of another kind hold every occurrence that starts in
them. -/
theorem prefix_of_kind (hpattern : ∀ c ∈ pattern, kind c = true)
    (hmore : ∀ c ∈ more.head?, kind c = false) (h : pattern <+: text ++ more) :
    pattern <+: text := by
  rcases Nat.lt_or_ge text.length pattern.length with hlong | hshort
  · exfalso
    have htext : text <+: pattern :=
      List.prefix_of_prefix_length_le (List.prefix_append _ _) h (Nat.le_of_lt hlong)
    obtain ⟨rest, rfl⟩ := htext
    obtain ⟨tail, htail⟩ := h
    rw [List.append_assoc] at htail
    have hsame := List.append_cancel_left htail
    cases rest with
    | nil => simp at hlong
    | cons c rest =>
      have hkind := hmore c (by rw [← hsame]; rfl)
      rw [hpattern c (by simp)] at hkind
      cases hkind
  · exact List.prefix_of_prefix_length_le h (List.prefix_append _ _) hshort

/-- Before an element of another kind a substitution is one of its own. -/
theorem substitute_append (hne : pattern ≠ []) (hpattern : ∀ c ∈ pattern, kind c = true)
    (hmore : ∀ c ∈ more.head?, kind c = false) (text : List α) :
    substitute pattern replacement (text ++ more) =
      substitute pattern replacement text ++ substitute pattern replacement more := by
  induction text using substitute_induction hne with
  | nil => rfl
  | hit rest ih =>
    rw [List.append_assoc, substitute_hit hne, substitute_hit hne, ih, List.append_assoc]
  | miss c text hmiss ih =>
    have hmiss' : ¬ pattern <+: c :: (text ++ more) := fun h =>
      hmiss (prefix_of_kind hpattern hmore h)
    rw [List.cons_append, substitute_miss hmiss', substitute_miss hmiss, ih, List.cons_append]

theorem substitute_kind (hne : pattern ≠ []) (hreplacement : ∀ c ∈ replacement, kind c = true)
    (htext : ∀ c ∈ text, kind c = true) :
    ∀ c ∈ substitute pattern replacement text, kind c = true := by
  induction text using substitute_induction hne with
  | nil => exact htext
  | hit rest ih =>
    rw [substitute_hit hne]
    intro c hc
    rcases List.mem_append.mp hc with hc | hc
    · exact hreplacement c hc
    · exact ih (fun d hd => htext d (List.mem_append_right _ hd)) c hc
  | miss d rest hmiss ih =>
    rw [substitute_miss hmiss]
    intro c hc
    rcases List.mem_cons.mp hc with rfl | hc
    · exact htext c List.mem_cons_self
    · exact ih (fun e he => htext e (List.mem_cons_of_mem _ he)) c hc

/-- A text begins as before, or with a replacement. -/
theorem head_substitute (hne : pattern ≠ []) (hreplacement : replacement ≠ []) {avoided : List α}
    (hstart : ∀ c ∈ replacement.head?, c ∉ avoided) (htext : text ≠ [])
    (hhead : ∀ c ∈ text.head?, c ∉ avoided) : substitute pattern replacement text ≠ [] ∧
      ∀ c ∈ (substitute pattern replacement text).head?, c ∉ avoided := by
  cases text using substitute_induction hne with
  | nil => exact absurd rfl htext
  | hit rest _ =>
    rw [substitute_hit hne]
    refine ⟨by simp [hreplacement], ?_⟩
    rwa [List.head?_append_of_ne_nil _ hreplacement]
  | miss c rest hmiss _ =>
    rw [substitute_miss hmiss]
    exact ⟨by simp, hhead⟩

end Substitute

end SesEmailAdapter.Lib.TextReplace
