import SesEmailAdapter.Lib.TextReplace

/-! # References in a text

A reference is a marker with all the elements of one kind that follow it. A text is cut into its
references and the elements between them, and rendered with an answer for every reference. -/

namespace SesEmailAdapter.Lib.MarkedText
open Lib.TextReplace

inductive Segment (α : Type)
  | plain (c : α)
  | reference (id : List α)
deriving DecidableEq, Repr

variable {α : Type}

def render (answer : List α → List α) (segments : List (Segment α)) : List α :=
  segments.flatMap fun
    | .plain c => [c]
    | .reference id => answer id

def references (segments : List (Segment α)) : List (List α) :=
  segments.filterMap fun
    | .plain _ => none
    | .reference id => some id

section Render
variable {answer : List α → List α} {c : α} {id : List α} {segments : List (Segment α)}

@[simp] theorem render_nil : render answer [] = [] := rfl

@[simp] theorem render_plain : render answer (.plain c :: segments) = c :: render answer segments :=
  rfl

@[simp] theorem render_reference :
    render answer (.reference id :: segments) = answer id ++ render answer segments := rfl

@[simp] theorem references_nil : references ([] : List (Segment α)) = [] := rfl

@[simp] theorem references_plain : references (.plain c :: segments) = references segments := rfl

@[simp] theorem references_reference :
    references (.reference id :: segments) = id :: references segments := rfl

end Render

variable [DecidableEq α] (m : α) (ms : List α) (kind : α → Bool)

/-- The reference at the start of a text, whose marker is `m :: ms`. -/
def referenceAt (text : List α) : Option (List α) :=
  if (m :: ms).isPrefixOf text then
    let id := (text.drop (ms.length + 1)).takeWhile kind
    if id = [] then none else some id
  else none

/-- The segments from a place on, where some of the next elements belong to a reference. -/
def segmentsFrom : Nat → List α → List (Segment α)
  | _, [] => []
  | skip + 1, _ :: rest => segmentsFrom skip rest
  | 0, c :: rest => match referenceAt m ms kind (c :: rest) with
    | some id => .reference id :: segmentsFrom (ms.length + id.length) rest
    | none => .plain c :: segmentsFrom 0 rest

def segmentsOf (text : List α) : List (Segment α) := segmentsFrom m ms kind 0 text

/-- How a text is cut: a reference has all that belongs to it, and no reference is left out. -/
inductive Cut : List α → List (Segment α) → Prop
  | nil : Cut [] []
  | plain {c : α} {text : List α} {segments : List (Segment α)} :
      referenceAt m ms kind (c :: text) = none → Cut text segments →
        Cut (c :: text) (.plain c :: segments)
  | reference {id text : List α} {segments : List (Segment α)} : id ≠ [] →
      (∀ c ∈ id, kind c = true) → (∀ c ∈ text.head?, kind c = false) → Cut text segments →
        Cut (m :: (ms ++ (id ++ text))) (.reference id :: segments)

variable {m ms kind} {id text more : List α} {segments : List (Segment α)}

theorem referenceAt_eq_some (h : referenceAt m ms kind text = some id) :
    ∃ more, text = m :: (ms ++ (id ++ more)) ∧ id ≠ [] ∧ (∀ c ∈ id, kind c = true) ∧
      ∀ c ∈ more.head?, kind c = false := by
  unfold referenceAt at h
  split at h
  · next hmarker =>
    obtain ⟨rest, rfl⟩ := List.isPrefixOf_iff_prefix.mp hmarker
    have hdrop : (m :: ms ++ rest).drop (ms.length + 1) = rest := by simp
    simp only [hdrop] at h
    split at h
    · cases h
    · next hne =>
      obtain rfl := Option.some.inj h
      refine ⟨rest.dropWhile kind, ?_, hne, ?_, ?_⟩
      · simp [List.takeWhile_append_dropWhile]
      · exact List.all_eq_true.mp List.all_takeWhile
      · intro c hc
        have hhead := List.head?_dropWhile_not kind rest
        rw [hc] at hhead
        simpa using hhead
  · cases h

theorem segmentsFrom_skip (text more : List α) :
    segmentsFrom m ms kind text.length (text ++ more) = segmentsFrom m ms kind 0 more := by
  induction text with
  | nil => rfl
  | cons c text ih => exact ih

/-- A text is cut into its segments. -/
theorem cut_segmentsOf (text : List α) : Cut m ms kind text (segmentsOf m ms kind text) := by
  unfold segmentsOf
  induction hlength : text.length using Nat.strong_induction_on generalizing text with
  | _ length ih =>
    cases text with
    | nil => exact .nil
    | cons c rest =>
      rw [segmentsFrom]
      split
      · next id hid =>
        obtain ⟨more, htext, hne, hkind, hmore⟩ := referenceAt_eq_some hid
        obtain ⟨hc, rfl⟩ := List.cons.inj htext
        have hskip : segmentsFrom m ms kind (ms.length + id.length) (ms ++ (id ++ more)) =
            segmentsFrom m ms kind 0 more := by
          rw [← List.length_append, ← List.append_assoc, segmentsFrom_skip]
        rw [hskip]
        rw [hc]
        refine .reference hne hkind hmore (ih more.length ?_ more rfl)
        simp only [List.length_cons, List.length_append] at hlength
        omega
      · next hnone => exact .plain hnone (ih rest.length (by simp at hlength; omega) rest rfl)

/-- The marker as it stands before a reference. -/
def unresolved (m : α) (ms id : List α) : List α := m :: (ms ++ id)

theorem Cut.render_unresolved (hcut : Cut m ms kind text segments) :
    render (unresolved m ms) segments = text := by
  induction hcut with
  | nil => rfl
  | plain _ _ ih => rw [render_plain, ih]
  | reference _ _ _ _ ih => simp [ih, unresolved]

omit [DecidableEq α] in
theorem unresolved_kind (hmark : ∀ c ∈ m :: ms, kind c = true) (hid : ∀ c ∈ id, kind c = true) :
    ∀ c ∈ unresolved m ms id, kind c = true := by
  intro c hc
  rw [unresolved, ← List.cons_append] at hc
  rcases List.mem_append.mp hc with hc | hc
  · exact hmark c hc
  · exact hid c hc

theorem Cut.references (hcut : Cut m ms kind text segments) :
    ∀ id ∈ references segments, id ≠ [] ∧ ∀ c ∈ id, kind c = true := by
  induction hcut with
  | nil => simp
  | plain _ _ ih => simpa using ih
  | reference hne hkind _ _ ih =>
    intro other hother
    rcases List.mem_cons.mp hother with rfl | hother
    · exact ⟨hne, hkind⟩
    · exact ih other hother

/-- The answers leave the end of a reference where it is. -/
theorem Cut.head_render (hcut : Cut m ms kind text segments) (hm : kind m = true)
    (htext : ∀ c ∈ text.head?, kind c = false) (answer : List α → List α) :
    ∀ c ∈ (render answer segments).head?, kind c = false := by
  cases hcut with
  | nil => simp
  | plain _ _ => simpa using htext
  | reference _ _ _ _ =>
    have hfalse := htext m rfl
    rw [hm] at hfalse
    cases hfalse

/-! ## Replacement in a rendered text -/

/-- The answers begin otherwise than a marker goes on. -/
def Apart (ms : List α) (answer : List α → List α) : Prop :=
  ∀ id, answer id ≠ [] ∧ ∀ c ∈ (answer id).head?, c ∉ ms

theorem Cut.peel {answer : List α → List α} {marks want : List α}
    (hcut : Cut m ms kind text segments) (hm : m ∉ marks) (hanswer : Apart marks answer)
    (h : marks ++ want <+: render answer segments) :
    ∃ text' segments', text = marks ++ text' ∧ Cut m ms kind text' segments' ∧
      want <+: render answer segments' := by
  induction marks generalizing text segments with
  | nil => exact ⟨text, segments, rfl, hcut, h⟩
  | cons d marks ih =>
    cases hcut with
    | nil =>
      obtain ⟨tail, htail⟩ := h
      simp at htail
    | @plain c text segments hnone hcut =>
      rw [render_plain, List.cons_append, List.cons_prefix_cons] at h
      obtain ⟨rfl, h⟩ := h
      have hrest : m ∉ marks := fun hmem => hm (List.mem_cons_of_mem _ hmem)
      have hapart : Apart marks answer := fun id => ⟨(hanswer id).1, fun c hc hmem =>
        (hanswer id).2 c hc (List.mem_cons_of_mem _ hmem)⟩
      obtain ⟨text', segments', rfl, hcut', hwant⟩ := ih hcut hrest hapart h
      exact ⟨text', segments', rfl, hcut', hwant⟩
    | @reference id text segments =>
      exfalso
      obtain ⟨hne, hhead⟩ := hanswer id
      obtain ⟨tail, htail⟩ := h
      cases hform : answer id with
      | nil => exact hne hform
      | cons c rest =>
        rw [render_reference, hform] at htail
        obtain ⟨rfl, -⟩ := List.cons.inj htail
        exact hhead d (by rw [hform]; rfl) List.mem_cons_self

/-- No occurrence of a marker with an id starts where the text has no reference. -/
theorem Cut.no_reference {answer : List α → List α} {c : α}
    (hcut : Cut m ms kind text segments) (hnone : referenceAt m ms kind (c :: text) = none)
    (hm : m ∉ ms) (hkind : kind m = true) (hanswer : Apart ms answer) (hid : id ≠ [])
    (hids : ∀ c ∈ id, kind c = true) :
    ¬ unresolved m ms id <+: c :: render answer segments := by
  intro h
  rw [unresolved, List.cons_prefix_cons] at h
  obtain ⟨rfl, h⟩ := h
  obtain ⟨text', segments', rfl, hcut', hwant⟩ := hcut.peel hm hanswer h
  have hempty : text'.takeWhile kind = [] := by
    by_cases htake : text'.takeWhile kind = []
    · exact htake
    · simp [referenceAt, htake] at hnone
  have hhead : ∀ c ∈ text'.head?, kind c = false := by
    intro c hc
    cases text' with
    | nil => cases hc
    | cons d rest =>
      obtain rfl := Option.some.inj hc
      by_cases hd : kind d = true
      · simp [hd] at hempty
      · simpa using hd
  have hrender := hcut'.head_render hkind hhead answer
  obtain ⟨tail, htail⟩ := hwant
  cases id with
  | nil => exact hid rfl
  | cons d rest =>
    have hd := hrender d (by rw [← htail]; rfl)
    rw [hids d List.mem_cons_self] at hd
    cases hd

/-- A substitution for a reference is one in every answer. -/
theorem Cut.substitute_render {answer : List α → List α} {replacement : List α}
    (hcut : Cut m ms kind text segments) (hm : m ∉ ms) (hmark : ∀ c ∈ m :: ms, kind c = true)
    (hanswer : Apart ms answer) (hid : id ≠ []) (hids : ∀ c ∈ id, kind c = true) :
    substitute (unresolved m ms id) replacement (render answer segments) =
      render (fun other => substitute (unresolved m ms id) replacement (answer other))
        segments := by
  have hkind := hmark m List.mem_cons_self
  have hne : unresolved m ms id ≠ [] := by simp [unresolved]
  have hpattern := unresolved_kind hmark hids
  induction hcut with
  | nil => rfl
  | plain hnone hcut ih =>
    rw [render_plain, render_plain,
      substitute_miss (hcut.no_reference hnone hm hkind hanswer hid hids), ih]
  | reference _ _ hend hcut ih =>
    rw [render_reference, render_reference,
      substitute_append hne hpattern (hcut.head_render hkind hend answer), ih]

/-! ## Markers -/

/-- The number of places where the pattern stands. -/
def occurrences (pattern : List α) : List α → Nat
  | [] => 0
  | c :: rest => (if pattern.isPrefixOf (c :: rest) then 1 else 0) + occurrences pattern rest

/-- No occurrence of the pattern starts in the text, where more stands behind it. -/
def NoStart (pattern text more : List α) : Prop :=
  ∀ front back, text = front ++ back → back ≠ [] → ¬ pattern <+: back ++ more

theorem occurrences_append_le (pattern text more : List α) :
    occurrences pattern more ≤ occurrences pattern (text ++ more) := by
  induction text with
  | nil => exact Nat.le_refl _
  | cons c text ih =>
    rw [List.cons_append, occurrences]
    omega

theorem occurrences_append {pattern : List α} (h : NoStart pattern text more) :
    occurrences pattern (text ++ more) = occurrences pattern more := by
  induction text with
  | nil => rfl
  | cons c text ih =>
    have hmiss : ¬ pattern.isPrefixOf (c :: (text ++ more)) = true := by
      rw [List.isPrefixOf_iff_prefix]
      exact h [] (c :: text) rfl (by simp)
    have hrest : NoStart pattern text more := fun front back hsplit hback =>
      h (c :: front) back (by rw [hsplit]; rfl) hback
    rw [List.cons_append, occurrences, if_neg hmiss, ih hrest, Nat.zero_add]

/-- A marker does not go on in a replacement. -/
theorem prefix_of_substitute {pattern replacement marks : List α} (hpattern : pattern ≠ [])
    (hne : replacement ≠ []) (hstart : ∀ c ∈ replacement.head?, c ∉ marks)
    (h : marks <+: substitute pattern replacement text) : marks <+: text := by
  induction marks generalizing text with
  | nil => exact List.nil_prefix
  | cons d marks ih =>
    cases text using substitute_induction hpattern with
    | nil => exact h
    | hit rest _ =>
      exfalso
      rw [substitute_hit hpattern] at h
      obtain ⟨tail, htail⟩ := h
      cases hform : replacement with
      | nil => exact hne hform
      | cons c rest' =>
        rw [hform] at htail
        obtain ⟨rfl, -⟩ := List.cons.inj htail
        exact hstart d (by rw [hform]; rfl) List.mem_cons_self
    | miss c rest hmiss _ =>
      rw [substitute_miss hmiss, List.cons_prefix_cons] at h
      obtain ⟨rfl, h⟩ := h
      have hrest : ∀ c ∈ replacement.head?, c ∉ marks := fun c hc hmem =>
        hstart c hc (List.mem_cons_of_mem _ hmem)
      exact List.cons_prefix_cons.mpr ⟨rfl, ih hrest h⟩

/-- A substitution for references brings no markers, and takes one away where it finds any. -/
theorem occurrences_substitute {replacement : List α} (hne : replacement ≠ [])
    (hstart : ∀ c ∈ replacement.head?, c ∉ ms)
    (hquiet : ∀ more, NoStart (m :: ms) replacement more) (text : List α) :
    occurrences (m :: ms) (substitute (unresolved m ms id) replacement text) ≤
        occurrences (m :: ms) text ∧
      (unresolved m ms id <:+: text →
        occurrences (m :: ms) (substitute (unresolved m ms id) replacement text) <
          occurrences (m :: ms) text) := by
  have hpattern : unresolved m ms id ≠ [] := by simp [unresolved]
  induction text using substitute_induction hpattern with
  | nil => simp [substitute_nil, unresolved]
  | hit rest ih =>
    rw [substitute_hit hpattern, occurrences_append (hquiet _)]
    have hmarker : (m :: ms).isPrefixOf (m :: (ms ++ (id ++ rest))) = true := by
      simp [List.isPrefixOf_iff_prefix]
    have hcount : occurrences (m :: ms) (unresolved m ms id ++ rest) =
        1 + occurrences (m :: ms) (ms ++ (id ++ rest)) := by
      simp [unresolved, occurrences, hmarker]
    have hle := occurrences_append_le (m :: ms) (ms ++ id) rest
    rw [List.append_assoc] at hle
    omega
  | miss c rest hmiss ih =>
    rw [substitute_miss hmiss, occurrences, occurrences]
    have hfirst : (m :: ms).isPrefixOf (c :: substitute (unresolved m ms id) replacement rest) =
        true → (m :: ms).isPrefixOf (c :: rest) = true := by
      intro h
      rw [List.isPrefixOf_iff_prefix, List.cons_prefix_cons] at h ⊢
      exact ⟨h.1, prefix_of_substitute hpattern hne hstart h.2⟩
    have hplace : (if (m :: ms).isPrefixOf (c :: substitute (unresolved m ms id) replacement rest)
        then 1 else 0) ≤ (if (m :: ms).isPrefixOf (c :: rest) then 1 else 0) := by
      split
      · next h => rw [if_pos (hfirst h)]
      · exact Nat.zero_le _
    refine ⟨by omega, fun hin => ?_⟩
    rw [List.infix_cons_iff] at hin
    have hlt := ih.2 (hin.resolve_left hmiss)
    omega

/-! ## Equal renderings -/

omit [DecidableEq α] in
theorem append_inj_of_kind {front front' back back' : List α}
    (hfront : ∀ c ∈ front, kind c = true) (hfront' : ∀ c ∈ front', kind c = true)
    (hback : ∀ c ∈ back.head?, kind c = false) (hback' : ∀ c ∈ back'.head?, kind c = false)
    (h : front ++ back = front' ++ back') : front = front' ∧ back = back' := by
  have hle : front <+: front' := prefix_of_kind hfront hback' ⟨back, h⟩
  have hge : front' <+: front := prefix_of_kind hfront' hback ⟨back', h.symm⟩
  obtain rfl := hle.eq_of_length_le hge.length_le
  exact ⟨rfl, List.append_cancel_left h⟩

/-- Answers of the kind of the ids can be read off the rendered text. -/
theorem Cut.render_inj {answer answer' : List α → List α} (hcut : Cut m ms kind text segments)
    (hkind : kind m = true)
    (hanswer : ∀ id ∈ MarkedText.references segments, ∀ c ∈ answer id, kind c = true)
    (hanswer' : ∀ id ∈ MarkedText.references segments, ∀ c ∈ answer' id, kind c = true)
    (h : render answer segments = render answer' segments) :
    ∀ id ∈ MarkedText.references segments, answer id = answer' id := by
  induction hcut with
  | nil => simp
  | plain _ _ ih =>
    rw [render_plain, render_plain] at h
    exact ih hanswer hanswer' (List.cons.inj h).2
  | @reference id text segments _ _ hend hcut ih =>
    rw [render_reference, render_reference] at h
    obtain ⟨hsame, hrest⟩ := append_inj_of_kind (hanswer id (by simp)) (hanswer' id (by simp))
      (hcut.head_render hkind hend answer) (hcut.head_render hkind hend answer') h
    intro other hother
    rcases List.mem_cons.mp hother with rfl | hother
    · exact hsame
    · refine ih (fun later hlater => hanswer later (by simp [hlater]))
        (fun later hlater => hanswer' later (by simp [hlater])) hrest other hother

omit [DecidableEq α] in
theorem render_congr {answer answer' : List α → List α}
    (h : ∀ id ∈ references segments, answer id = answer' id) :
    render answer segments = render answer' segments := by
  induction segments with
  | nil => rfl
  | cons segment segments ih =>
    cases segment with
    | plain c => rw [render_plain, render_plain, ih h]
    | reference id =>
      rw [render_reference, render_reference, h id (by simp),
        ih fun other hother => h other (by simp [hother])]

end SesEmailAdapter.Lib.MarkedText
