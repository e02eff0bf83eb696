import SesEmailAdapter.Lib.Utf16

/-! # Truncation of html bodies

A body over the byte limit is cut after the last closing tag of a block that ends within the limit.
Where there is none, the cut is at a place that is in proportion to the limit by length, as if all
characters were equally wide. -/

namespace SesEmailAdapter.Processor.HtmlTruncation
open Lib.Utf16

/-! ## Double arithmetic -/

/-- A number that is not negative: `significand · 2 ^ exponent`. -/
structure Double where
  significand : Nat
  exponent : Int
deriving DecidableEq, Repr

/-- The natural number closest to `a / b`, the even one of two. -/
def roundQuotient (a b : Nat) : Nat :=
  if 2 * (a % b) < b ∨ (2 * (a % b) = b ∧ a / b % 2 = 0) then a / b else a / b + 1

/-- The double closest to `a / b`, with a significand of 53 bits. -/
def Double.ofQuotient (a b : Nat) : Double :=
  let guess : Int := a.log2 - b.log2 - 52
  let exponent :=
    if a <<< (-guess).toNat < (b <<< guess.toNat) <<< 52 then guess - 1 else guess
  ⟨roundQuotient (a <<< (-exponent).toNat) (b <<< exponent.toNat), exponent⟩

def Double.mulNat (n : Nat) (d : Double) : Double :=
  .ofQuotient ((n * d.significand) <<< d.exponent.toNat) (1 <<< (-d.exponent).toNat)

/-- `x | 0` -/
def Double.toInt32 (d : Double) : Int :=
  Int.bmod ((d.significand <<< d.exponent.toNat) >>> (-d.exponent).toNat : Nat) 4294967296

/-! ## Closing tags -/

def blockTags : List String :=
  ["div", "tr", "p", "table", "section", "article", "li", "td", "th", "blockquote", "header",
    "footer"]

def closeTag (name : String) : Text := ofString ("</" ++ name ++ ">")

def lower (u : UInt16) : UInt16 := if 0x41 ≤ u && u ≤ 0x5A then u + 0x20 else u

/-- The length of the closing tag of a block that the text begins with. -/
def closeHere (text : Text) : Option Nat :=
  blockTags.findSome? fun name =>
    let tag := closeTag name
    if (text.take tag.length).map lower = tag then some tag.length else none

/-- Where the matches of the pattern end, from `index` on; the first units of the text are part of
the last match. -/
@[grind =] def closeEnds : Nat → Nat → Text → List Nat
  | _, _, [] => []
  | index, skipped + 1, _ :: rest => closeEnds (index + 1) skipped rest
  | index, 0, u :: rest =>
    match closeHere (u :: rest) with
    | some length => (index + length) :: closeEnds (index + 1) (length - 1) rest
    | none => closeEnds (index + 1) 0 rest

/-! ## Truncation -/

def MAX_HTML_BODY_BYTES : Nat := 300000

structure TruncatedHtml where
  html : Text
  truncated : Bool
deriving DecidableEq, Repr

/-- The last match that ends within the limit, before the first that does not. -/
@[grind =] def lastSafeCut (html : Text) (maxBytes : Nat) (cut : Nat) : List Nat → Nat
  | [] => cut
  | endPos :: rest =>
    if byteLength (html.take endPos) ≤ maxBytes then lastSafeCut html maxBytes endPos rest else cut

def GT : UInt16 := 0x3E

def estimatedCharPos (length maxBytes encoded : Nat) : Int :=
  ((Double.ofQuotient maxBytes encoded).mulNat length).toInt32

def fallbackCut (html : Text) (maxBytes encoded : Nat) : Int :=
  let estimated := estimatedCharPos html.length maxBytes encoded
  let lastClose := lastIndexOf GT html estimated
  if lastClose ≤ 0 then estimated else lastClose

def truncateHtml (html : Text) (maxBytes : Nat) : TruncatedHtml :=
  let encoded := byteLength html
  if encoded ≤ maxBytes then ⟨html, false⟩
  else
    let safeCut := lastSafeCut html maxBytes 0 (closeEnds 0 0 html)
    if safeCut = 0 then ⟨sliceTo html (fallbackCut html maxBytes encoded), true⟩
    else ⟨html.take safeCut, true⟩

/-! ## Matches -/

/-- A closing tag of a block, in whatever case it is written. -/
def BlockClose (tag : Text) : Prop := ∃ name ∈ blockTags, tag.map lower = closeTag name

theorem closeHere_eq_some {text : Text} {length : Nat} (h : closeHere text = some length) :
    BlockClose (text.take length) ∧ (text.take length).length = length := by
  obtain ⟨name, hname, h⟩ := List.exists_of_findSome?_eq_some h
  simp only at h
  split at h
  · next htag =>
    obtain rfl := Option.some.inj h
    refine ⟨⟨name, hname, htag⟩, ?_⟩
    have hlength := congrArg List.length htag
    rwa [List.length_map] at hlength
  · cases h

theorem closeHere_isSome {tag rest : Text} (h : BlockClose tag) :
    (closeHere (tag ++ rest)).isSome = true := by
  obtain ⟨name, hname, htag⟩ := h
  rw [closeHere, List.findSome?_isSome_iff]
  refine ⟨name, hname, ?_⟩
  have hlength : (closeTag name).length = tag.length := by
    rw [← htag, List.length_map]
  simp [hlength, htag]

theorem eq_of_lower {u : UInt16} (h : lower u = 0x3C) : u = 0x3C := by
  unfold lower at h
  split at h
  · next hupper =>
    rw [Bool.and_eq_true, decide_eq_true_eq, decide_eq_true_eq, UInt16.le_iff_toNat_le,
      UInt16.le_iff_toNat_le] at hupper
    have hsum := congrArg UInt16.toNat h
    rw [UInt16.toNat_add] at hsum
    simp at hupper hsum
    omega
  · exact h

theorem closeTag_cons : ∀ name ∈ blockTags, ∃ rest, closeTag name = 0x3C :: rest ∧
    (0x3C : UInt16) ∉ rest := by
  have htags : ∀ name ∈ blockTags, (closeTag name).head? = some 0x3C ∧
      (0x3C : UInt16) ∉ (closeTag name).tail := by
    decide +kernel
  intro name hname
  obtain ⟨hhead, htail⟩ := htags name hname
  obtain ⟨rest, hrest⟩ := List.head?_eq_some_iff.mp hhead
  rw [hrest] at htail
  exact ⟨rest, hrest, htail⟩

/-- No closing tag begins another. -/
theorem closeTag_eq_of_prefix : ∀ name ∈ blockTags, ∀ other ∈ blockTags,
    (closeTag name).isPrefixOf (closeTag other) = true →
      (closeTag name).length = (closeTag other).length := by
  decide +kernel

/-- A closing tag begins with `<` and has no other. -/
theorem BlockClose.cons {tag : Text} (h : BlockClose tag) :
    ∃ rest, tag = 0x3C :: rest ∧ (0x3C : UInt16) ∉ rest := by
  obtain ⟨name, hname, htag⟩ := h
  obtain ⟨lowered, hclose, hnot⟩ := closeTag_cons name hname
  rw [hclose] at htag
  cases tag with
  | nil => simp at htag
  | cons u rest =>
    obtain ⟨hfirst, hrest⟩ := List.cons.inj htag
    refine ⟨rest, by rw [eq_of_lower hfirst], fun hmem => hnot ?_⟩
    rw [← hrest]
    exact List.mem_map.mpr ⟨0x3C, hmem, by decide⟩

theorem BlockClose.length_le {tag other text : Text} (h : BlockClose tag) (h' : BlockClose other)
    (hin : tag <+: text) (hin' : other <+: text) : other.length ≤ tag.length := by
  rcases Nat.lt_or_ge tag.length other.length with hlt | hle
  case inr => exact hle
  obtain ⟨name, hname, htag⟩ := h
  obtain ⟨otherName, hother, htag'⟩ := h'
  have hinside : tag <+: other := List.prefix_of_prefix_length_le hin hin' (by omega)
  have hcloses : closeTag name <+: closeTag otherName := by
    rw [← htag, ← htag']
    exact hinside.map lower
  have hlength := closeTag_eq_of_prefix name hname otherName hother
    (List.isPrefixOf_iff_prefix.mpr hcloses)
  rw [← htag, ← htag', List.length_map, List.length_map] at hlength
  omega

theorem closeEnds_of_match {index length : Nat} {u : UInt16} {text : Text}
    (h : closeHere (u :: text) = some length) : closeEnds index 0 (u :: text) =
      (index + length) :: closeEnds (index + 1) (length - 1) text := by
  simp only [closeEnds, h]

/-- Where a closing tag ends, a match has ended. -/
theorem closeEnds_first {tag : Text} (h : BlockClose tag) (index : Nat) (pre post : Text) :
    ∃ endPos rest, closeEnds index 0 (pre ++ tag ++ post) = endPos :: rest ∧
      endPos ≤ index + (pre ++ tag).length := by
  induction pre generalizing index with
  | nil =>
    have hmatch : (closeHere (tag ++ post)).isSome = true := closeHere_isSome h
    obtain ⟨length, hlength⟩ := Option.isSome_iff_exists.mp hmatch
    obtain ⟨hclose, hsize⟩ := closeHere_eq_some hlength
    have hle := h.length_le hclose (List.prefix_append _ post) (List.take_prefix _ _)
    obtain ⟨tail, rfl, -⟩ := h.cons
    refine ⟨index + length, _, closeEnds_of_match hlength, ?_⟩
    rw [List.nil_append]
    omega
  | cons u pre ih =>
    cases hmatch : closeHere (u :: (pre ++ tag ++ post)) with
    | none =>
      obtain ⟨endPos, rest, hends, hle⟩ := ih (index + 1)
      refine ⟨endPos, rest, ?_, ?_⟩
      · simp only [List.cons_append, closeEnds, hmatch]
        exact hends
      · simp only [List.cons_append, List.length_cons]
        omega
    | some length =>
      refine ⟨index + length, _, closeEnds_of_match hmatch, ?_⟩
      obtain ⟨hclose, hsize⟩ := closeHere_eq_some hmatch
      rcases Nat.lt_or_ge (pre.length + 1) length with hlt | hle
      · obtain ⟨rest, htag, -⟩ := h.cons
        obtain ⟨tail, hmatched, hnot⟩ := hclose.cons
        refine absurd ?_ hnot
        obtain ⟨taken, rfl⟩ : ∃ taken, length = taken + 1 := ⟨length - 1, by omega⟩
        have htail : tail = (pre ++ tag ++ post).take taken := (List.cons.inj hmatched).2.symm
        refine List.mem_of_getElem? (i := pre.length) ?_
        rw [htail, List.getElem?_take_of_lt (by omega), htag]
        simp
      · simp only [List.cons_append, List.length_cons, List.length_append]
        omega

theorem closeEnds_sound {text : Text} {index skipped endPos : Nat}
    (h : endPos ∈ closeEnds index skipped text) :
    ∃ pre tag post, text = pre ++ tag ++ post ∧ BlockClose tag ∧
      endPos = index + (pre ++ tag).length := by
  induction text generalizing index skipped with
  | nil => cases skipped <;> cases h
  | cons u text ih =>
    have hlater {skipped : Nat} (h : endPos ∈ closeEnds (index + 1) skipped text) :
        ∃ pre tag post, u :: text = pre ++ tag ++ post ∧ BlockClose tag ∧
          endPos = index + (pre ++ tag).length := by
      obtain ⟨pre, tag, post, rfl, hclose, rfl⟩ := ih h
      refine ⟨u :: pre, tag, post, rfl, hclose, ?_⟩
      simp only [List.cons_append, List.length_cons]
      omega
    cases skipped with
    | succ skipped => exact hlater h
    | zero =>
      simp only [closeEnds] at h
      split at h
      · next length hmatch =>
        rcases List.mem_cons.mp h with rfl | h
        · obtain ⟨hclose, hsize⟩ := closeHere_eq_some hmatch
          refine ⟨[], (u :: text).take length, (u :: text).drop length, ?_, hclose, ?_⟩
          · rw [List.nil_append, List.take_append_drop]
          · rw [List.nil_append, hsize]
        · exact hlater h
      · exact hlater h

/-! ## The bound -/

section Bound
variable {html : Text} {maxBytes : Nat}

theorem lastSafeCut_mem (cut : Nat) (ends : List Nat) :
    lastSafeCut html maxBytes cut ends ∈ cut :: ends := by
  induction ends generalizing cut with
  | nil => exact List.mem_singleton.mpr rfl
  | cons endPos ends ih =>
    simp only [lastSafeCut]
    split
    · exact List.mem_cons_of_mem _ (ih endPos)
    · exact List.mem_cons_self

theorem lastSafeCut_within {cut : Nat} (ends : List Nat)
    (h : byteLength (html.take cut) ≤ maxBytes) :
    byteLength (html.take (lastSafeCut html maxBytes cut ends)) ≤ maxBytes := by
  induction ends generalizing cut with
  | nil => exact h
  | cons endPos ends ih =>
    simp only [lastSafeCut]
    split
    · next hfits => exact ih hfits
    · exact h

/-- The closing tag of a block ends within the limit. -/
def BlockEndsWithin (html : Text) (maxBytes : Nat) : Prop :=
  ∃ pre tag post, html = pre ++ tag ++ post ∧ BlockClose tag ∧ byteLength (pre ++ tag) ≤ maxBytes

theorem BlockClose.length_pos {tag : Text} (h : BlockClose tag) : 0 < tag.length := by
  obtain ⟨rest, rfl, -⟩ := h.cons
  simp

theorem safeCut_eq_zero_iff :
    lastSafeCut html maxBytes 0 (closeEnds 0 0 html) = 0 ↔ ¬ BlockEndsWithin html maxBytes := by
  constructor
  · rintro hzero ⟨pre, tag, post, rfl, hclose, hfits⟩
    obtain ⟨endPos, ends, hends, hle⟩ := closeEnds_first hclose 0 pre post
    have hfirst : byteLength ((pre ++ tag ++ post).take endPos) ≤ maxBytes := by
      have hle' : endPos ≤ (pre ++ tag).length := by omega
      have hbytes := byteLength_take_le (pre ++ tag ++ post) hle'
      rw [List.take_left] at hbytes
      omega
    have hmem : lastSafeCut (pre ++ tag ++ post) maxBytes endPos ends ∈ endPos :: ends :=
      lastSafeCut_mem endPos ends
    rw [hends, lastSafeCut, if_pos hfirst] at hzero
    rw [hzero, ← hends] at hmem
    obtain ⟨before, found, -, -, hfound, hlength⟩ := closeEnds_sound hmem
    have hpos := hfound.length_pos
    simp at hlength
    omega
  · intro hnone
    have hmem : lastSafeCut html maxBytes 0 (closeEnds 0 0 html) ∈ 0 :: closeEnds 0 0 html :=
      lastSafeCut_mem 0 _
    rcases List.mem_cons.mp hmem with hzero | hmem
    · exact hzero
    · obtain ⟨pre, tag, post, hhtml, hclose, hlength⟩ := closeEnds_sound hmem
      refine absurd ⟨pre, tag, post, hhtml, hclose, ?_⟩ hnone
      have hstart : byteLength (html.take 0) ≤ maxBytes := by simp [byteLength]
      have hwithin := lastSafeCut_within (closeEnds 0 0 html) hstart
      rw [hlength, Nat.zero_add, hhtml, List.take_left] at hwithin
      exact hwithin

/-- What stands before the last `>` up to the proportional position, or before that position if
there is none, keeps within the limit. The first unit does not count as a `>`. -/
def ShareWithin (html : Text) (maxBytes : Nat) : Prop :=
  let share := estimatedCharPos html.length maxBytes (byteLength html)
  (∃ i : Nat, 0 < i ∧ i ≤ share ∧ html[i]? = some GT ∧
    (∀ j : Nat, i < j → j ≤ share → html[j]? ≠ some GT) ∧
      byteLength (html.take i) ≤ maxBytes) ∨
  (∀ j : Nat, 0 < j → j ≤ share → html[j]? ≠ some GT) ∧
    byteLength (sliceTo html share) ≤ maxBytes

theorem lastIndexOf_cases (html : Text) (share : Int) :
    (lastIndexOf GT html share ≤ 0 ∧ ∀ j : Nat, 0 < j → j ≤ share → html[j]? ≠ some GT) ∨
    ∃ i : Nat, lastIndexOf GT html share = i ∧ 0 < i ∧ i ≤ share ∧ html[i]? = some GT ∧
      ∀ j : Nat, i < j → j ≤ share → html[j]? ≠ some GT := by
  cases hlast : lastAt GT html share.toNat with
  | none =>
    have hnone := lastAt_eq_none hlast
    rw [lastIndexOf_of_none hlast]
    exact .inl ⟨by omega, fun j _ hle => hnone j (by omega)⟩
  | some i =>
    obtain ⟨hle, hat, hafter⟩ := lastAt_eq_some hlast
    rw [lastIndexOf_of_some hlast]
    rcases Nat.eq_zero_or_pos i with rfl | hpos
    · exact .inl ⟨by omega, fun j hj hle => hafter j hj (by omega)⟩
    · exact .inr ⟨i, rfl, hpos, by omega, hat, fun j hj hle => hafter j hj (by omega)⟩

theorem fallbackCut_within_iff :
    byteLength (sliceTo html (fallbackCut html maxBytes (byteLength html))) ≤ maxBytes ↔
      ShareWithin html maxBytes := by
  unfold fallbackCut ShareWithin
  generalize estimatedCharPos html.length maxBytes (byteLength html) = share
  dsimp only
  obtain ⟨hlast, hnone⟩ | ⟨i, hlast, hpos, hle, hat, hafter⟩ := lastIndexOf_cases html share
  · rw [if_pos hlast]
    constructor
    · intro hbytes
      exact .inr ⟨hnone, hbytes⟩
    · rintro (⟨i, hpos, hle, hat, -, -⟩ | ⟨-, hbytes⟩)
      · exact absurd hat (hnone i hpos hle)
      · exact hbytes
  · rw [hlast, if_neg (by omega), sliceTo_natCast]
    constructor
    · intro hbytes
      exact .inl ⟨i, hpos, hle, hat, hafter, hbytes⟩
    · rintro (⟨j, -, hle', hat', hafter', hbytes⟩ | ⟨hnone, -⟩)
      · have hij : i = j := by
          rcases Nat.lt_trichotomy i j with hlt | rfl | hlt
          · exact absurd hat' (hafter j hlt hle')
          · rfl
          · exact absurd hat (hafter' i hlt hle)
        rwa [hij]
      · exact absurd hat (hnone i hpos hle)

/-- A text cut to its limit. -/
structure CutWithin (html : Text) (maxBytes : Nat) (result : Text) : Prop where
  bound : byteLength result ≤ maxBytes
  starts : result <+: html
  whole : byteLength html ≤ maxBytes → result = html

/-- **Truncation keeps within the limit just where the text fits, a block ends in time, or what the
share of the length holds does not take more than the share of the bytes.** -/
theorem truncateHtml_within_iff (html : Text) (maxBytes : Nat) :
    CutWithin html maxBytes (truncateHtml html maxBytes).html ↔
      byteLength html ≤ maxBytes ∨ BlockEndsWithin html maxBytes ∨ ShareWithin html maxBytes := by
  by_cases hfits : byteLength html ≤ maxBytes
  · simp only [truncateHtml, hfits, if_true, true_or, iff_true]
    exact ⟨hfits, List.prefix_refl _, fun _ => rfl⟩
  · by_cases hblock : BlockEndsWithin html maxBytes
    · have hsafe := mt safeCut_eq_zero_iff.mp (not_not_intro hblock)
      have hstart : byteLength (html.take 0) ≤ maxBytes := by simp [byteLength]
      simp only [truncateHtml, hfits, hsafe, hblock, if_false, true_or, or_true, iff_true]
      exact ⟨lastSafeCut_within _ hstart, List.take_prefix _ _, fun h => absurd h hfits⟩
    · have hsafe := safeCut_eq_zero_iff.mpr hblock
      simp only [truncateHtml, hfits, hsafe, hblock, if_true, if_false, false_or]
      constructor
      · intro h
        exact fallbackCut_within_iff.mp h.bound
      · intro h
        exact ⟨fallbackCut_within_iff.mpr h, sliceTo_prefix _ _, fun h => absurd h hfits⟩

end Bound

/-! ## Wide characters at the start -/

/-- Three characters of three bytes, and nine of one. -/
def wideStart : Text := ofString "€€€aaaaaaaaa"

/-- Half the bytes are allowed, and half the characters are kept. -/
theorem wideStart_over : truncateHtml wideStart 9 = ⟨ofString "€€€aaa", true⟩ ∧
    byteLength (ofString "€€€aaa") = 12 := by
  decide +kernel

theorem wideStart_not_within : ¬ CutWithin wideStart 9 (truncateHtml wideStart 9).html := by
  intro h
  have hbound := h.bound
  rw [wideStart_over.1, wideStart_over.2] at hbound
  omega

end SesEmailAdapter.Processor.HtmlTruncation
