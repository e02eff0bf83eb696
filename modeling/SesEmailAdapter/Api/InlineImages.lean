import SesEmailAdapter.Email.Address
import SesEmailAdapter.Lib.MarkedText

/-! # Inline images

A body shows an image of its mail by a reference, `cid:` with the content id of the image. The
images that are no part of the body get their addresses when the body is read, one after the
other. -/

namespace SesEmailAdapter.Api.InlineImages
open Lib.TextReplace Lib.MarkedText
open Email.Address (isSpace)

/-! ## Resolution -/

structure InlineImageRef where
  contentId : List Char
  s3Key : List Char
deriving DecidableEq, Repr

/-- The text for a match without groups: `$$`, `$&` and the two patterns for what stands before and
behind the match are replaced in it. -/
def expandReplacement (matched before after : List Char) : List Char → List Char
  | '$' :: c :: rest =>
    if c = '$' then '$' :: expandReplacement matched before after rest
    else if c = '&' then matched ++ expandReplacement matched before after rest
    else if c.toNat = 0x60 then before ++ expandReplacement matched before after rest
    else if c.toNat = 0x27 then after ++ expandReplacement matched before after rest
    else '$' :: expandReplacement matched before after (c :: rest)
  | c :: rest => c :: expandReplacement matched before after rest
  | [] => []

/-- The letters of `cid:` after the first. -/
def idMark : List Char := ['i', 'd', ':']

/-- `cid:` with a content id. -/
def cid (contentId : List Char) : List Char := unresolved 'c' idMark contentId

def imageUrl (cdnBase : List Char) (ref : InlineImageRef) : List Char := cdnBase ++ '/' :: ref.s3Key

/-- The replacement of all matches of `cid:` with the escaped content id. -/
def resolveImage (cdnBase resolved : List Char) (ref : InlineImageRef) : List Char :=
  replaceAll (cid ref.contentId)
    (fun before after => expandReplacement (cid ref.contentId) before after (imageUrl cdnBase ref))
    resolved

def resolveInlineImageUrls (htmlBody : List Char) (inlineImages : Option (List InlineImageRef))
    (cdnBase : List Char) : List Char :=
  match inlineImages with
  | none => htmlBody
  | some refs => if refs = [] then htmlBody else refs.foldl (resolveImage cdnBase) htmlBody

/-! ## References -/

/-- `[^"'\s>]`: what the sanitizer takes for a part of a content id, `/cid:([^"'\s>]+)/g`. -/
def isReferenceChar (c : Char) : Bool :=
  c.toNat ≠ 0x22 && c.toNat ≠ 0x27 && !isSpace c && c ≠ '>'

def bodySegments (htmlBody : List Char) : List (Segment Char) :=
  segmentsOf 'c' idMark isReferenceChar htmlBody

/-- The content ids of the references of a body. -/
def cidReferences (htmlBody : List Char) : List (List Char) := references (bodySegments htmlBody)

/-- The address of the image with the content id, or the reference as it is. -/
def ownUrl (cdnBase : List Char) (inlineImages : List InlineImageRef) (id : List Char) :
    List Char :=
  ((inlineImages.find? fun ref => ref.contentId = id).map (imageUrl cdnBase)).getD (cid id)

/-- Each reference is the address of exactly its image, whatever the order of the images. -/
def ResolvesExactly (cdnBase htmlBody : List Char) (inlineImages : List InlineImageRef) : Prop :=
  ∀ order : List InlineImageRef, order.Perm inlineImages →
    resolveInlineImageUrls htmlBody (some order) cdnBase =
      render (ownUrl cdnBase inlineImages) (bodySegments htmlBody)

/-! ## Images and bodies -/

/-- A content id that can stand in a reference, and that holds no further `cid:`. -/
structure Referable (id : List Char) : Prop where
  ne_nil : id ≠ []
  kind : ∀ c ∈ id, isReferenceChar c = true
  noMark : ¬ ('c' :: idMark) <:+: id

/-- An address that has no `$`, and that neither holds nor completes a `cid:`. -/
structure Plain (url : List Char) : Prop where
  ne_nil : url ≠ []
  kind : ∀ c ∈ url, isReferenceChar c = true
  noDollar : '$' ∉ url
  noMark : ¬ ('c' :: idMark) <:+: url
  head : ∀ c ∈ url.head?, c ∉ idMark
  last : ∀ c ∈ url.getLast?, c ∉ ['c', 'i', 'd']

/-- No `cid:` with the content id of an image stands inside another reference. -/
def AtStarts (htmlBody : List Char) (inlineImages : List InlineImageRef) : Prop :=
  ∀ id ∈ cidReferences htmlBody, ∀ ref ∈ inlineImages, ¬ cid ref.contentId <:+: id

/-- No reference begins with a content id that is not its own, unless the address with the rest of
the reference behind it is that of its own image. -/
def NoneShadowed (cdnBase htmlBody : List Char) (inlineImages : List InlineImageRef) : Prop :=
  ∀ id ∈ cidReferences htmlBody, ∀ ref ∈ inlineImages, ref.contentId <+: id →
    ref.contentId = id ∨ ∃ own ∈ inlineImages, own.contentId = id ∧
      imageUrl cdnBase ref ++ id.drop ref.contentId.length = imageUrl cdnBase own

section Texts
variable {cdnBase url rest id : List Char} {ref : InlineImageRef}

theorem expandReplacement_plain (h : '$' ∉ url) (matched before after : List Char) :
    expandReplacement matched before after url = url := by
  induction url with
  | nil => rfl
  | cons c url ih =>
    have hrest : '$' ∉ url := fun hmem => h (List.mem_cons_of_mem _ hmem)
    have hc : c ≠ '$' := fun heq => h (by simp [heq])
    rw [expandReplacement, ih hrest]
    simp [hc]

theorem resolveImage_plain (hurl : Plain (imageUrl cdnBase ref)) (resolved : List Char) :
    resolveImage cdnBase resolved ref =
      substitute (cid ref.contentId) (imageUrl cdnBase ref) resolved := by
  simp [resolveImage, substitute, expandReplacement_plain hurl.noDollar]

theorem cid_eq (id : List Char) : cid id = ('c' :: idMark) ++ id := rfl

theorem cid_ne_nil (id : List Char) : cid id ≠ [] := by
  simp [cid_eq]

theorem mark_kind : ∀ c ∈ 'c' :: idMark, isReferenceChar c = true := by
  have hmark : ('c' :: idMark).all isReferenceChar = true := rfl
  exact List.all_eq_true.mp hmark

theorem cid_kind (h : ∀ c ∈ id, isReferenceChar c = true) :
    ∀ c ∈ cid id, isReferenceChar c = true :=
  unresolved_kind mark_kind h

/-- No `cid:` starts in a plain address. -/
theorem Plain.noStart (hurl : Plain url) (more : List Char) : NoStart ('c' :: idMark) url more := by
  intro front back hsplit hback hmark
  obtain ⟨tail, htail⟩ := hmark
  have hlast (c : Char) (middle : List Char) (hform : back = middle ++ [c]) :
      c ∉ ['c', 'i', 'd'] := by
    refine hurl.last c ?_
    simp [hsplit, hform]
  rcases back with _ | ⟨c, _ | ⟨i, _ | ⟨d, _ | ⟨k, back⟩⟩⟩⟩
  · exact hback rfl
  · obtain ⟨rfl, -⟩ := List.cons.inj htail
    exact hlast 'c' [] rfl (by simp)
  · simp [idMark] at htail
    obtain ⟨rfl, rfl, -⟩ := htail
    exact hlast 'i' ['c'] rfl (by simp)
  · simp [idMark] at htail
    obtain ⟨rfl, rfl, rfl, -⟩ := htail
    exact hlast 'd' ['c', 'i'] rfl (by simp)
  · simp [idMark] at htail
    obtain ⟨rfl, rfl, rfl, rfl, -⟩ := htail
    exact hurl.noMark ⟨front, back, by simp [idMark, hsplit]⟩

/-- Behind a plain address there is no reference that is none in the text behind it. -/
theorem Plain.not_infix (hurl : Plain url) (hrest : ¬ cid id <:+: rest) :
    ¬ cid id <:+: url ++ rest := by
  rintro ⟨front, tail, h⟩
  rw [List.append_assoc] at h
  rcases List.append_eq_append_iff.mp h with ⟨between, rfl, hsplit⟩ | ⟨between, rfl, hsplit⟩
  · by_cases hempty : between = []
    · exact hrest ⟨[], tail, by simpa [hempty] using hsplit⟩
    · refine hurl.noStart rest front between rfl hempty ⟨id ++ tail, ?_⟩
      rw [← hsplit, cid_eq, List.append_assoc]
  · exact hrest ⟨between, tail, by rw [hsplit, List.append_assoc]⟩

/-- A reference with no match at the start of its id and in it has none. -/
theorem not_infix_cid {other : List Char} (hfront : ¬ other <+: id) (hin : ¬ cid other <:+: id) :
    ¬ cid other <:+: cid id := by
  have hin' : ¬ 'c' :: 'i' :: 'd' :: ':' :: other <:+: id := hin
  rw [cid_eq, cid_eq]
  simp [idMark, List.infix_cons_iff, hfront, hin']

end Texts

/-! ## One reference -/

/-- What a reference is after the replacement of some images: that of the first whose content id
the reference begins with. -/
def shown (cdnBase : List Char) (done : List InlineImageRef) (id : List Char) : List Char :=
  match done.find? fun ref => ref.contentId.isPrefixOf id with
  | some ref => imageUrl cdnBase ref ++ id.drop ref.contentId.length
  | none => cid id

section Reference
variable {cdnBase id text : List Char} {ref : InlineImageRef} {done refs : List InlineImageRef}

/-- A reference is passed over or replaced, and one that is replaced is passed over. -/
theorem substitute_shown (hdone : ∀ before ∈ done, Plain (imageUrl cdnBase before))
    (hstart : ¬ cid ref.contentId <:+: id) :
    substitute (cid ref.contentId) (imageUrl cdnBase ref) (shown cdnBase done id) =
      shown cdnBase (done ++ [ref]) id := by
  have hrest (n : Nat) : ¬ cid ref.contentId <:+: id.drop n :=
    fun h => hstart (h.trans (List.drop_suffix n id).isInfix)
  unfold shown
  rw [List.find?_append]
  cases hfound : done.find? fun ref => ref.contentId.isPrefixOf id with
  | some earlier =>
    have hplain := hdone earlier (List.mem_of_find?_eq_some hfound)
    exact substitute_eq_self (hplain.not_infix (hrest _))
  | none =>
    by_cases hfront : ref.contentId <+: id
    · obtain ⟨back, rfl⟩ := hfront
      have hback : ¬ cid ref.contentId <:+: back := by simpa using hrest ref.contentId.length
      have hsplit : cid (ref.contentId ++ back) = cid ref.contentId ++ back := by
        simp [cid_eq]
      have hhit : ref.contentId.isPrefixOf (ref.contentId ++ back) = true := by
        simp [List.isPrefixOf_iff_prefix]
      simp [hhit, hsplit, substitute_hit (cid_ne_nil _), substitute_eq_self hback]
    · have hmiss : ref.contentId.isPrefixOf id = false := by
        rw [Bool.eq_false_iff]
        exact fun h => hfront (List.isPrefixOf_iff_prefix.mp h)
      simp [hmiss, substitute_eq_self (not_infix_cid hfront hstart)]

theorem foldl_shown (hurls : ∀ ref ∈ done ++ refs, Plain (imageUrl cdnBase ref))
    (hstarts : ∀ ref ∈ refs, ¬ cid ref.contentId <:+: id) :
    refs.foldl (resolveImage cdnBase) (shown cdnBase done id) =
      shown cdnBase (done ++ refs) id := by
  induction refs generalizing done with
  | nil => simp
  | cons ref refs ih =>
    have hdone : ∀ before ∈ done, Plain (imageUrl cdnBase before) :=
      fun before hbefore => hurls before (List.mem_append_left _ hbefore)
    have hstep : resolveImage cdnBase (shown cdnBase done id) ref =
        shown cdnBase (done ++ [ref]) id := by
      rw [resolveImage_plain (hurls ref (by simp)),
        substitute_shown hdone (hstarts ref List.mem_cons_self)]
    have hurls' : ∀ other ∈ (done ++ [ref]) ++ refs, Plain (imageUrl cdnBase other) := by
      simpa using hurls
    have hrest := ih hurls' fun other hother => hstarts other (List.mem_cons_of_mem _ hother)
    rw [List.foldl_cons, hstep, hrest]
    simp

/-- Images take `cid:` away, and at least one where one of them is referred to. -/
theorem occurrences_foldl (hurls : ∀ ref ∈ refs, Plain (imageUrl cdnBase ref)) (text : List Char) :
    occurrences ('c' :: idMark) (refs.foldl (resolveImage cdnBase) text) ≤
        occurrences ('c' :: idMark) text ∧
      ((∃ ref ∈ refs, cid ref.contentId <:+: text) →
        occurrences ('c' :: idMark) (refs.foldl (resolveImage cdnBase) text) <
          occurrences ('c' :: idMark) text) := by
  induction refs generalizing text with
  | nil => simp
  | cons ref refs ih =>
    have hurl := hurls ref List.mem_cons_self
    have hstep : occurrences ('c' :: idMark) (resolveImage cdnBase text ref) ≤
          occurrences ('c' :: idMark) text ∧
        (cid ref.contentId <:+: text →
          occurrences ('c' :: idMark) (resolveImage cdnBase text ref) <
            occurrences ('c' :: idMark) text) := by
      rw [resolveImage_plain hurl]
      exact occurrences_substitute hurl.ne_nil hurl.head hurl.noStart text
    have hrest := ih (fun other hother => hurls other (List.mem_cons_of_mem _ hother))
      (resolveImage cdnBase text ref)
    rw [List.foldl_cons]
    refine ⟨by omega, ?_⟩
    rintro ⟨other, hother, hin⟩
    by_cases href : cid ref.contentId <:+: text
    · have hlt := hstep.2 href
      omega
    · have hsame : resolveImage cdnBase text ref = text := by
        rw [resolveImage_plain hurl, substitute_eq_self href]
      rcases List.mem_cons.mp hother with rfl | hother
      · exact absurd hin href
      · rw [hsame] at hrest ⊢
        exact hrest.2 ⟨other, hother, hin⟩

end Reference

/-! ## The references of a body -/

section Body
variable {cdnBase htmlBody id : List Char} {refs order : List InlineImageRef} {ref : InlineImageRef}

theorem cut_bodySegments (htmlBody : List Char) :
    Cut 'c' idMark isReferenceChar htmlBody (bodySegments htmlBody) :=
  cut_segmentsOf htmlBody

/-- The images are put into every reference by itself. -/
theorem foldl_render (hids : ∀ ref ∈ refs, Referable ref.contentId)
    (hurls : ∀ ref ∈ refs, Plain (imageUrl cdnBase ref)) {answer : List Char → List Char}
    (hanswer : Apart idMark answer) :
    refs.foldl (resolveImage cdnBase) (render answer (bodySegments htmlBody)) =
      render (fun id => refs.foldl (resolveImage cdnBase) (answer id)) (bodySegments htmlBody) := by
  induction refs generalizing answer with
  | nil => rfl
  | cons ref refs ih =>
    have hid := hids ref List.mem_cons_self
    have hurl := hurls ref List.mem_cons_self
    have hnext : Apart idMark fun id => resolveImage cdnBase (answer id) ref := by
      intro id
      dsimp only
      rw [resolveImage_plain hurl]
      exact head_substitute (cid_ne_nil _) hurl.ne_nil hurl.head (hanswer id).1 (hanswer id).2
    have hstep : resolveImage cdnBase (render answer (bodySegments htmlBody)) ref =
        render (fun id => resolveImage cdnBase (answer id) ref) (bodySegments htmlBody) := by
      simp only [resolveImage_plain hurl]
      exact (cut_bodySegments htmlBody).substitute_render (by simp [idMark]) mark_kind hanswer
        hid.ne_nil hid.kind
    rw [List.foldl_cons, hstep, ih (fun other hother => hids other (List.mem_cons_of_mem _ hother))
      (fun other hother => hurls other (List.mem_cons_of_mem _ hother)) hnext]
    rfl

theorem resolveInlineImageUrls_eq (hids : ∀ ref ∈ refs, Referable ref.contentId)
    (hurls : ∀ ref ∈ refs, Plain (imageUrl cdnBase ref)) :
    resolveInlineImageUrls htmlBody (some refs) cdnBase =
      render (fun id => refs.foldl (resolveImage cdnBase) (cid id)) (bodySegments htmlBody) := by
  have happart : Apart idMark cid := fun id => ⟨cid_ne_nil id, by simp [cid_eq, idMark]⟩
  have hself : render cid (bodySegments htmlBody) = htmlBody :=
    (cut_bodySegments htmlBody).render_unresolved
  have hfold : refs.foldl (resolveImage cdnBase) htmlBody =
      render (fun id => refs.foldl (resolveImage cdnBase) (cid id)) (bodySegments htmlBody) := by
    rw [← foldl_render hids hurls happart, hself]
  unfold resolveInlineImageUrls
  split
  · next hnone => cases hnone
  · next found hfound =>
    obtain rfl := Option.some.inj hfound
    split
    · next hnil =>
      subst hnil
      exact hfold
    · exact hfold

theorem foldl_kind (hurls : ∀ ref ∈ refs, Plain (imageUrl cdnBase ref)) {text : List Char}
    (htext : ∀ c ∈ text, isReferenceChar c = true) :
    ∀ c ∈ refs.foldl (resolveImage cdnBase) text, isReferenceChar c = true := by
  induction refs generalizing text with
  | nil => exact htext
  | cons ref refs ih =>
    have hurl := hurls ref List.mem_cons_self
    refine ih (fun other hother => hurls other (List.mem_cons_of_mem _ hother)) ?_
    rw [resolveImage_plain hurl]
    exact substitute_kind (cid_ne_nil _) hurl.kind htext

theorem ownUrl_kind (hurls : ∀ ref ∈ refs, Plain (imageUrl cdnBase ref))
    (hid : ∀ c ∈ id, isReferenceChar c = true) :
    ∀ c ∈ ownUrl cdnBase refs id, isReferenceChar c = true := by
  unfold ownUrl
  cases hfound : refs.find? fun ref => ref.contentId = id with
  | none => exact cid_kind hid
  | some ref => exact (hurls ref (List.mem_of_find?_eq_some hfound)).kind

/-- The image of a content id is the only one with it. -/
theorem ownUrl_of_mem (hdistinct : (refs.map InlineImageRef.contentId).Nodup) (href : ref ∈ refs) :
    ownUrl cdnBase refs ref.contentId = imageUrl cdnBase ref := by
  have hfind : (refs.find? fun other => other.contentId = ref.contentId) = some ref := by
    induction refs with
    | nil => cases href
    | cons other refs ih =>
      obtain ⟨hfresh, hrest⟩ := List.nodup_cons.mp hdistinct
      rcases List.mem_cons.mp href with rfl | href
      · simp
      · have hne : other.contentId ≠ ref.contentId := fun heq =>
          hfresh (List.mem_map.mpr ⟨ref, href, heq.symm⟩)
        simp [hne, ih hrest href]
  simp [ownUrl, hfind]

theorem ownUrl_of_not_mem (h : ∀ ref ∈ refs, ref.contentId ≠ id) :
    ownUrl cdnBase refs id = cid id := by
  have hfind : (refs.find? fun ref => ref.contentId = id) = none := by
    simpa using h
  simp [ownUrl, hfind]

/-- Every reference by itself becomes the address of exactly its image. -/
theorem resolvesExactly_iff_each (hids : ∀ ref ∈ refs, Referable ref.contentId)
    (hurls : ∀ ref ∈ refs, Plain (imageUrl cdnBase ref)) :
    ResolvesExactly cdnBase htmlBody refs ↔ ∀ order : List InlineImageRef, order.Perm refs →
      ∀ id ∈ cidReferences htmlBody,
        order.foldl (resolveImage cdnBase) (cid id) = ownUrl cdnBase refs id := by
  have hkind := fun id hid => ((cut_bodySegments htmlBody).references id hid).2
  have heq {order : List InlineImageRef} (horder : order.Perm refs) :
      resolveInlineImageUrls htmlBody (some order) cdnBase =
        render (fun id => order.foldl (resolveImage cdnBase) (cid id)) (bodySegments htmlBody) :=
    resolveInlineImageUrls_eq (fun ref href => hids ref (horder.mem_iff.mp href))
      (fun ref href => hurls ref (horder.mem_iff.mp href))
  constructor
  · intro h order horder
    refine (cut_bodySegments htmlBody).render_inj rfl (fun id hid => ?_)
      (fun id hid => ownUrl_kind hurls (hkind id hid)) ((heq horder).symm.trans (h order horder))
    exact foldl_kind (fun ref href => hurls ref (horder.mem_iff.mp href)) (cid_kind (hkind id hid))
  · intro h order horder
    rw [heq horder]
    exact render_congr (h order horder)

end Body

/-! ## Exactly its image -/

section Exact
variable {cdnBase htmlBody id : List Char} {refs order : List InlineImageRef} {ref : InlineImageRef}

/-- A reference in which no other stands, after the images in some order. -/
theorem foldl_cid (hurls : ∀ ref ∈ refs, Plain (imageUrl cdnBase ref))
    (hstarts : ∀ ref ∈ refs, ¬ cid ref.contentId <:+: id) :
    refs.foldl (resolveImage cdnBase) (cid id) = shown cdnBase refs id := by
  have hall : refs.foldl (resolveImage cdnBase) (shown cdnBase [] id) =
      shown cdnBase ([] ++ refs) id := foldl_shown hurls hstarts
  exact hall

theorem shown_eq_ownUrl (hdistinct : (refs.map InlineImageRef.contentId).Nodup)
    (hnone : NoneShadowed cdnBase htmlBody refs) (hid : id ∈ cidReferences htmlBody)
    (horder : order.Perm refs) : shown cdnBase order id = ownUrl cdnBase refs id := by
  unfold shown
  cases hfound : order.find? fun ref => ref.contentId.isPrefixOf id with
  | none =>
    have hmiss := List.find?_eq_none.mp hfound
    refine (ownUrl_of_not_mem fun ref href heq => hmiss ref (horder.mem_iff.mpr href) ?_).symm
    simp [List.isPrefixOf_iff_prefix, heq]
  | some ref =>
    have href := horder.mem_iff.mp (List.mem_of_find?_eq_some hfound)
    have hhit : ref.contentId.isPrefixOf id = true := by simpa using List.find?_some hfound
    have hfront := List.isPrefixOf_iff_prefix.mp hhit
    rcases hnone id hid ref href hfront with rfl | ⟨own, hown, rfl, hsame⟩
    · simp [ownUrl_of_mem hdistinct href]
    · rw [ownUrl_of_mem hdistinct hown]
      exact hsame

/-- A reference that stays as it is has no place for an image. -/
theorem not_infix_of_kept (hurls : ∀ ref ∈ refs, Plain (imageUrl cdnBase ref))
    (h : refs.foldl (resolveImage cdnBase) (cid id) = cid id) (href : ref ∈ refs) :
    ¬ cid ref.contentId <:+: cid id := by
  intro hin
  have hlt := (occurrences_foldl hurls (cid id)).2 ⟨ref, href, hin⟩
  rw [h] at hlt
  exact Nat.lt_irrefl _ hlt

/-- **Each reference of a body becomes the address of exactly its image, in every order of the
images, exactly when** no content id stands behind a `cid:` as a part of a reference. -/
theorem resolvesExactly_iff (hdistinct : (refs.map InlineImageRef.contentId).Nodup)
    (hids : ∀ ref ∈ refs, Referable ref.contentId)
    (hurls : ∀ ref ∈ refs, Plain (imageUrl cdnBase ref)) :
    ResolvesExactly cdnBase htmlBody refs ↔
      AtStarts htmlBody refs ∧ NoneShadowed cdnBase htmlBody refs := by
  rw [resolvesExactly_iff_each hids hurls]
  constructor
  · intro h
    have hkept {id : List Char} (hid : id ∈ cidReferences htmlBody)
        (hunknown : ∀ own ∈ refs, own.contentId ≠ id) {ref : InlineImageRef} (href : ref ∈ refs) :
        ¬ cid ref.contentId <:+: cid id := by
      refine not_infix_of_kept hurls ?_ href
      rw [h refs (List.Perm.refl _) id hid, ownUrl_of_not_mem hunknown]
    have hstarts : AtStarts htmlBody refs := by
      intro id hid ref href hin
      by_cases hknown : ∃ own ∈ refs, own.contentId = id
      · obtain ⟨own, hown, rfl⟩ := hknown
        have hmark : ('c' :: idMark) <:+: cid ref.contentId := (List.prefix_append _ _).isInfix
        exact (hids own hown).noMark (hmark.trans hin)
      · refine hkept hid (fun own hown heq => hknown ⟨own, hown, heq⟩) href (hin.trans ?_)
        rw [cid_eq]
        exact (List.suffix_append _ _).isInfix
    refine ⟨hstarts, fun id hid ref href hfront => ?_⟩
    by_cases hknown : ∃ own ∈ refs, own.contentId = id
    · obtain ⟨own, hown, rfl⟩ := hknown
      -- the image comes first
      have horder : (ref :: refs.erase ref).Perm refs := (List.perm_cons_erase href).symm
      have hshown : shown cdnBase (ref :: refs.erase ref) own.contentId = imageUrl cdnBase own := by
        rw [← foldl_cid (fun other hother => hurls other (horder.mem_iff.mp hother))
          (fun other hother => hstarts _ hid other (horder.mem_iff.mp hother)),
          h _ horder _ hid, ownUrl_of_mem hdistinct hown]
      have hhit := List.isPrefixOf_iff_prefix.mpr hfront
      exact .inr ⟨own, hown, rfl, by simpa [shown, hhit] using hshown⟩
    · refine absurd ?_ (hkept hid (fun own hown heq => hknown ⟨own, hown, heq⟩) href)
      rw [cid_eq, cid_eq]
      exact ((List.prefix_append_right_inj _).mpr hfront).isInfix
  · rintro ⟨hstarts, hnone⟩ order horder id hid
    rw [foldl_cid (fun ref href => hurls ref (horder.mem_iff.mp href))
      (fun ref href => hstarts id hid ref (horder.mem_iff.mp href))]
    exact shown_eq_ownUrl hdistinct hnone hid horder

end Exact

/-! ## Numbered images -/

def cdnBase : List Char := "https://cdn.example.com".toList

/-- The first image of a mail and the tenth. -/
def firstImage : InlineImageRef := ⟨"img1".toList, "m/0".toList⟩

def tenthImage : InlineImageRef := ⟨"img10".toList, "m/9".toList⟩

def tenthBody : List Char := "<img src='cid:img10'>".toList

def tenthShown : List Char := "<img src='https://cdn.example.com/m/9'>".toList

/-- The tenth is shown as the first with a zero behind it, unless it comes first. -/
theorem tenth_shadowed :
    resolveInlineImageUrls tenthBody (some [firstImage, tenthImage]) cdnBase =
        "<img src='https://cdn.example.com/m/00'>".toList ∧
      resolveInlineImageUrls tenthBody (some [tenthImage, firstImage]) cdnBase = tenthShown ∧
      ¬ ResolvesExactly cdnBase tenthBody [firstImage, tenthImage] := by
  refine ⟨by decide, by decide, fun h => ?_⟩
  have hsame := h [firstImage, tenthImage] (List.Perm.refl _)
  revert hsame
  decide

def secondImage : InlineImageRef := ⟨"img2".toList, "m/1".toList⟩

def secondBody : List Char := "<img src='cid:img2'><img src='cid:gone'>".toList

theorem plain_of_ends {url : List Char} {first last : Char} (hfirst : url.head? = some first)
    (hlast : url.getLast? = some last) (hends : first ∉ idMark ∧ last ∉ ['c', 'i', 'd'])
    (hkind : url.all isReferenceChar = true) (hdollar : '$' ∉ url)
    (hmark : ¬ ('c' :: idMark) <:+: url) : Plain url where
  ne_nil := by
    rintro rfl
    cases hfirst
  kind := List.all_eq_true.mp hkind
  noDollar := hdollar
  noMark := hmark
  head := by
    intro c hc
    obtain rfl := Option.some.inj (hfirst.symm.trans hc)
    exact hends.1
  last := by
    intro c hc
    obtain rfl := Option.some.inj (hlast.symm.trans hc)
    exact hends.2

theorem plain_numbered : ∀ ref ∈ [firstImage, secondImage], Plain (imageUrl cdnBase ref) := by
  have hfirst : Plain (imageUrl cdnBase firstImage) :=
    plain_of_ends rfl rfl (by decide) rfl (by decide) (by decide)
  have hsecond : Plain (imageUrl cdnBase secondImage) :=
    plain_of_ends rfl rfl (by decide) rfl (by decide) (by decide)
  simp [hfirst, hsecond]

theorem referable_numbered : ∀ ref ∈ [firstImage, secondImage], Referable ref.contentId := by
  have hfirst : firstImage.contentId.all isReferenceChar = true := rfl
  have hsecond : secondImage.contentId.all isReferenceChar = true := rfl
  intro ref href
  rcases List.mem_pair.mp href with rfl | rfl
  · exact ⟨by decide, List.all_eq_true.mp hfirst, by decide⟩
  · exact ⟨by decide, List.all_eq_true.mp hsecond, by decide⟩

theorem second_exact : ResolvesExactly cdnBase secondBody [firstImage, secondImage] := by
  have hdistinct : ([firstImage, secondImage].map InlineImageRef.contentId).Nodup := by decide
  have hstarts : AtStarts secondBody [firstImage, secondImage] := by
    unfold AtStarts
    decide
  have hnone : NoneShadowed cdnBase secondBody [firstImage, secondImage] := by
    unfold NoneShadowed
    decide
  exact (resolvesExactly_iff hdistinct referable_numbered plain_numbered).mpr ⟨hstarts, hnone⟩

end SesEmailAdapter.Api.InlineImages
