import SesEmailAdapter.Email.Service
import SesEmailAdapter.Lib.PlacedFilter

/-! # Tags of a send

Headers and tags of the caller become tags of the send, the first of each name in any case, behind
the tag of the send type. Their names are compared as they were given and cleaned afterwards, so
two of them can end up the same. -/

namespace SesEmailAdapter.Email.SendTags
open Lib.PlacedFilter
open Email.Service

abbrev Text := List Char

/-! ## The code -/

/-- `[a-z0-9_-]`, in any case -/
def isTagChar (c : Char) : Bool := c.isAlphanum || c == '_' || c == '-'

def sanitizeTagValue (value : Text) : Text := (value.filter isTagChar).take 255

def sanitizeTagName (name : Text) : Text := (name.filter isTagChar).take 255

structure Tag where
  Name : Text
  Value : Text
deriving DecidableEq, Repr

def tagType : Text := ['X', '-', 'N', 'u', 'm', 'a', 'e', 'e', 'l', '-', 'T', 'y', 'p', 'e']

def sendTypeText : EmailSendType → String
  | .healthcheck => "healthcheck"
  | .digest => "digest"
  | .onboarding => "onboarding"
  | .accountInvite => "account-invite"
  | .forwardVerification => "forward-verification"
  | .forward => "forward"
  | .reply => "reply"
  | .pong => "pong"
  | .draftSend => "draft-send"
  | .calendarForward => "calendar-forward"
  | .calendarRsvp => "calendar-rsvp"

def sanitizeTags (tags : Option (List Tag)) : Option (List Tag) :=
  match tags with
  | none | some [] => none
  | some tags =>
    let sanitized := (tags.map fun t =>
      (⟨sanitizeTagName t.Name, sanitizeTagValue t.Value⟩ : Tag)).filter
        fun t => 0 < t.Name.length && 0 < t.Value.length
    if 0 < sanitized.length then some sanitized else none

section Merging
variable (toLowerCase : Text → Text)

/-- One of the loops: the tags whose name was not seen are pushed. -/
def mergeInto (seen : List Text) (merged : List Tag) : List Tag → List Text × List Tag
  | [] => (seen, merged)
  | t :: rest =>
    let key := toLowerCase t.Name
    if seen.contains key then mergeInto seen merged rest
    else mergeInto (key :: seen) (merged ++ [t]) rest

def mergeHeadersIntoTags (headers tags : Option (List Tag)) : Option (List Tag) :=
  if (headers.getD []).length = 0 ∧ (tags.getD []).length = 0 then none
  else
    let afterHeaders := mergeInto toLowerCase [] [] (headers.getD [])
    let merged := (mergeInto toLowerCase afterHeaders.1 afterHeaders.2 (tags.getD [])).2
    if 0 < merged.length then some merged else none

def withSendTypeTag (sendType : EmailSendType) (tags : Option (List Tag)) : List Tag :=
  let withoutType := (tags.getD []).filter fun t => toLowerCase t.Name != toLowerCase tagType
  ⟨tagType, (sendTypeText sendType).toList⟩ :: withoutType

/-- The tags that `send` hands to the provider. -/
def sendTags (sendType : EmailSendType) (headers tags : Option (List Tag)) : Option (List Tag) :=
  sanitizeTags (some (withSendTypeTag toLowerCase sendType
    (mergeHeadersIntoTags toLowerCase headers tags)))

/-- The tags that `sendRaw` hands to the provider. -/
def sendRawTags (sendType : EmailSendType) (tags : Option (List Tag)) : Option (List Tag) :=
  sanitizeTags (some (withSendTypeTag toLowerCase sendType tags))

end Merging

/-! ## What the provider is to get -/

/-- A name or value within the provider's rules. -/
def Allowed (text : Text) : Prop :=
  text ≠ [] ∧ (∀ c ∈ text, isTagChar c = true) ∧ text.length ≤ 255

/-- Names that differ, names and values that are allowed, and the send type under its name. -/
def WellTagged (sendType : EmailSendType) (sent : Option (List Tag)) : Prop :=
  ∃ tags, sent = some tags ∧ (tags.map Tag.Name).Nodup ∧
    (∀ t ∈ tags, Allowed t.Name ∧ Allowed t.Value) ∧
    ∀ value, ⟨tagType, value⟩ ∈ tags ↔ value = (sendTypeText sendType).toList

/-- Something of the name and the value is left when they are cleaned. -/
def survives (t : Tag) : Bool :=
  0 < (sanitizeTagName t.Name).length && 0 < (sanitizeTagValue t.Value).length

/-- A tag at its place: it is not named as the send type is, nothing before it is named the same
where the send merges, and something of it is left. -/
def carries (toLowerCase : Text → Text) (merges : Bool) (before : List Tag) (t : Tag) : Bool :=
  toLowerCase t.Name != toLowerCase tagType &&
    !(merges && before.any fun b => toLowerCase b.Name == toLowerCase t.Name) && survives t

/-- The names of the tags that are carried are still different when they are cleaned, and none is
the name of the send type. -/
structure Separate (toLowerCase : Text → Text) (merges : Bool) (given : List Tag) : Prop where
  apart : ∀ before a middle b after, given = before ++ a :: (middle ++ b :: after) →
    carries toLowerCase merges before a = true →
    carries toLowerCase merges (before ++ a :: middle) b = true →
    sanitizeTagName a.Name ≠ sanitizeTagName b.Name
  own : ∀ before a after, given = before ++ a :: after →
    carries toLowerCase merges before a = true → sanitizeTagName a.Name ≠ tagType

/-! ## Merging -/

section Merge
variable {toLowerCase : Text → Text}

/-- Nothing before is named the same. -/
def isFirst (toLowerCase : Text → Text) (before : List Tag) (t : Tag) : Bool :=
  !(before.any fun b => toLowerCase b.Name == toLowerCase t.Name)

/-- The names seen are those of the tags before. -/
def Seen (toLowerCase : Text → Text) (seen : List Text) (before : List Tag) : Prop :=
  ∀ name, name ∈ seen ↔ ∃ b ∈ before, toLowerCase b.Name = name

theorem Seen.contains {seen : List Text} {before : List Tag} (h : Seen toLowerCase seen before)
    (t : Tag) : seen.contains (toLowerCase t.Name) = !isFirst toLowerCase before t := by
  rw [Bool.eq_iff_iff]
  simp [isFirst, h (toLowerCase t.Name)]

/-- A loop pushes the tags that are the first of their name, and has seen all of them after. -/
theorem mergeInto_spec {seen : List Text} {before : List Tag} (h : Seen toLowerCase seen before)
    (merged items : List Tag) :
    Seen toLowerCase (mergeInto toLowerCase seen merged items).1 (before ++ items) ∧
      (mergeInto toLowerCase seen merged items).2 =
        merged ++ keptFrom (isFirst toLowerCase) before items := by
  induction items generalizing seen before merged with
  | nil => exact ⟨by simpa [mergeInto] using h, by simp [mergeInto, keptFrom]⟩
  | cons t items ih =>
    rw [mergeInto, keptFrom, h.contains t]
    cases hfirst : isFirst toLowerCase before t with
    | true =>
      have hseen : Seen toLowerCase (toLowerCase t.Name :: seen) (before ++ [t]) := by
        intro name
        rw [List.mem_cons, h name]
        constructor
        · rintro (rfl | ⟨b, hb, rfl⟩)
          · exact ⟨t, by simp, rfl⟩
          · exact ⟨b, List.mem_append_left _ hb, rfl⟩
        · rintro ⟨b, hb, rfl⟩
          rcases List.mem_append.mp hb with hb | hb
          · exact .inr ⟨b, hb, rfl⟩
          · exact .inl (by rw [List.mem_singleton.mp hb])
      obtain ⟨hlast, hmerged⟩ := ih hseen (merged ++ [t])
      simp only [Bool.not_true, Bool.false_eq_true, if_false, if_true]
      exact ⟨by simpa using hlast, by simpa using hmerged⟩
    | false =>
      have hmem : toLowerCase t.Name ∈ seen := by
        have hcontains := h.contains t
        rw [hfirst] at hcontains
        simpa using hcontains
      have hseen : Seen toLowerCase seen (before ++ [t]) := by
        intro name
        rw [h name]
        constructor
        · rintro ⟨b, hb, rfl⟩
          exact ⟨b, List.mem_append_left _ hb, rfl⟩
        · rintro ⟨b, hb, rfl⟩
          rcases List.mem_append.mp hb with hb | hb
          · exact ⟨b, hb, rfl⟩
          · rw [List.mem_singleton.mp hb]
            exact (h _).mp hmem
      obtain ⟨hlast, hmerged⟩ := ih hseen merged
      simp only [Bool.not_false, if_true, Bool.false_eq_true, if_false]
      exact ⟨by simpa using hlast, hmerged⟩

/-- The merged tags are the first of each name among the headers and then the tags. -/
theorem mergeHeadersIntoTags_getD (headers tags : Option (List Tag)) :
    (mergeHeadersIntoTags toLowerCase headers tags).getD [] =
      keptFrom (isFirst toLowerCase) [] (headers.getD [] ++ tags.getD []) := by
  have hempty : Seen toLowerCase [] [] := by simp [Seen]
  obtain ⟨hseen, hheaders⟩ := mergeInto_spec hempty [] (headers.getD [])
  obtain ⟨-, htags⟩ := mergeInto_spec hseen
    (mergeInto toLowerCase [] [] (headers.getD [])).2 (tags.getD [])
  rw [hheaders, List.nil_append] at htags
  unfold mergeHeadersIntoTags
  split
  · rename_i hnone
    rw [List.length_eq_zero_iff.mp hnone.1, List.length_eq_zero_iff.mp hnone.2]
    rfl
  · dsimp only
    rw [hheaders, List.nil_append, htags, keptFrom_append, List.nil_append]
    split
    · rfl
    · rename_i hzero
      rw [List.length_eq_zero_iff.mp (Nat.eq_zero_of_not_pos hzero)]
      rfl

end Merge

/-! ## Cleaning -/

def clean (t : Tag) : Tag := ⟨sanitizeTagName t.Name, sanitizeTagValue t.Value⟩

theorem sendType_clean (sendType : EmailSendType) :
    clean ⟨tagType, (sendTypeText sendType).toList⟩ =
      ⟨tagType, (sendTypeText sendType).toList⟩ := by
  cases sendType <;> decide +kernel

theorem sanitizeTags_eq (t : Tag) (rest : List Tag) (hfirst : clean t = t)
    (hsurvives : survives t = true) :
    sanitizeTags (some (t :: rest)) = some (t :: (rest.filter survives).map clean) := by
  have hkept : ((t :: rest).map clean).filter
      (fun t => 0 < t.Name.length && 0 < t.Value.length) =
        t :: (rest.filter survives).map clean := by
    rw [List.filter_map]
    have hcleaned : ((fun t : Tag => decide (0 < t.Name.length) && decide (0 < t.Value.length)) ∘
        clean) = survives := rfl
    rw [hcleaned, List.filter_cons_of_pos hsurvives, List.map_cons, hfirst]
  have hclean : (fun t : Tag => (⟨sanitizeTagName t.Name, sanitizeTagValue t.Value⟩ : Tag)) =
      clean := rfl
  unfold sanitizeTags
  dsimp only
  rw [hclean, hkept]
  rfl

/-- What is sent is the tag of the send type and the cleaned tags that are carried. -/
theorem sanitizeTags_withSendTypeTag (toLowerCase : Text → Text) (sendType : EmailSendType)
    (merges : Bool) (given : List Tag) (tags : Option (List Tag))
    (htags : tags.getD [] =
      keptFrom (fun before t => !merges || isFirst toLowerCase before t) [] given) :
    sanitizeTags (some (withSendTypeTag toLowerCase sendType tags)) =
      some (⟨tagType, (sendTypeText sendType).toList⟩ ::
        (keptFrom (carries toLowerCase merges) [] given).map clean) := by
  have hclean := sendType_clean sendType
  unfold withSendTypeTag
  have hsurvives : survives ⟨tagType, (sendTypeText sendType).toList⟩ = true := by
    cases sendType <;> decide
  have hcarries : (fun before t => (!merges || isFirst toLowerCase before t) &&
      (survives t && toLowerCase t.Name != toLowerCase tagType)) =
        carries toLowerCase merges := by
    funext before t
    unfold carries isFirst
    cases merges <;> cases survives t <;>
      cases (toLowerCase t.Name != toLowerCase tagType) <;> simp
  rw [sanitizeTags_eq _ _ hclean hsurvives, htags, List.filter_filter, filter_keptFrom, hcarries]

/-! ## When the tags are right -/

theorem clean_allowed {t : Tag} (h : survives t = true) :
    Allowed (clean t).Name ∧ Allowed (clean t).Value := by
  have hallowed : ∀ text : Text, 0 < (sanitizeTagName text).length →
      Allowed (sanitizeTagName text) := by
    intro text hpos
    refine ⟨List.length_pos_iff.mp hpos, ?_, ?_⟩
    · intro c hc
      exact (List.mem_filter.mp (List.mem_of_mem_take hc)).2
    · rw [sanitizeTagName, List.length_take]
      omega
  obtain ⟨hname, hvalue⟩ := Bool.and_eq_true_iff.mp h
  exact ⟨hallowed _ (of_decide_eq_true hname), hallowed _ (of_decide_eq_true hvalue)⟩

theorem wellTagged_iff (toLowerCase : Text → Text) (sendType : EmailSendType) (merges : Bool)
    (given : List Tag) :
    WellTagged sendType (some (⟨tagType, (sendTypeText sendType).toList⟩ ::
        (keptFrom (carries toLowerCase merges) [] given).map clean)) ↔
      Separate toLowerCase merges given := by
  let own : Tag := ⟨tagType, (sendTypeText sendType).toList⟩
  let kept := keptFrom (carries toLowerCase merges) [] given
  have hnames : ((own :: kept.map clean).map Tag.Name).Nodup ↔
      Separate toLowerCase merges given := by
    rw [List.map_cons, List.nodup_cons, List.map_map, List.Nodup, List.pairwise_map,
      pairwise_keptFrom]
    have hown : tagType ∉ kept.map (Tag.Name ∘ clean) ↔ ∀ before a after,
        given = before ++ a :: after → carries toLowerCase merges before a = true →
          sanitizeTagName a.Name ≠ tagType := by
      constructor
      · intro h before a after hgiven hcarries heq
        exact h (List.mem_map.mpr ⟨a, mem_keptFrom.mpr ⟨before, after, hgiven, hcarries⟩, heq⟩)
      · intro h hmem
        obtain ⟨a, ha, heq⟩ := List.mem_map.mp hmem
        obtain ⟨before, after, hgiven, hcarries⟩ := mem_keptFrom.mp ha
        exact h before a after hgiven hcarries heq
    rw [hown]
    constructor
    · rintro ⟨h, hapart⟩
      exact ⟨hapart, h⟩
    · rintro ⟨hapart, h⟩
      exact ⟨h, hapart⟩
  constructor
  · rintro ⟨tags, htags, hnodup, -, -⟩
    obtain rfl := Option.some.inj htags
    exact hnames.mp hnodup
  · intro hseparate
    have hnodup := hnames.mpr hseparate
    refine ⟨_, rfl, hnodup, ?_, ?_⟩
    · have hfirst : survives own = true := by cases sendType <;> decide
      intro t ht
      rcases List.mem_cons.mp ht with rfl | ht
      · exact sendType_clean sendType ▸ clean_allowed hfirst
      · obtain ⟨a, ha, rfl⟩ := List.mem_map.mp ht
        obtain ⟨before, after, -, hcarries⟩ := mem_keptFrom.mp ha
        exact clean_allowed (Bool.and_eq_true_iff.mp hcarries).2
    · intro value
      constructor
      · intro hmem
        rcases List.mem_cons.mp hmem with heq | hmem
        · exact congrArg Tag.Value heq
        · have hname : tagType ∈ (kept.map clean).map Tag.Name :=
            List.mem_map.mpr ⟨_, hmem, rfl⟩
          exact absurd hname (List.nodup_cons.mp hnodup).1
      · rintro rfl
        exact .head _

/-- **Tags of a send.** Whatever headers and tags the caller gives, the tags that go to the provider
are right exactly when the names of the tags that are carried are still different after they are
cleaned, and none is then the name of the send type. -/
theorem tags_right_iff (toLowerCase : Text → Text) (sendType : EmailSendType)
    (headers tags : Option (List Tag)) :
    (WellTagged sendType (sendTags toLowerCase sendType headers tags) ↔
      Separate toLowerCase true (headers.getD [] ++ tags.getD [])) ∧
    (WellTagged sendType (sendRawTags toLowerCase sendType tags) ↔
      Separate toLowerCase false (tags.getD [])) := by
  constructor
  · unfold sendTags
    rw [sanitizeTags_withSendTypeTag toLowerCase sendType true _ _
      (mergeHeadersIntoTags_getD headers tags), wellTagged_iff]
  · unfold sendRawTags
    rw [sanitizeTags_withSendTypeTag toLowerCase sendType false _ tags (keptFrom_all _ _).symm,
      wellTagged_iff]

/-- A tag whose name cleans to that of the send type. -/
def dottedType : Tag := ⟨tagType ++ ['.'], ['r', 'e', 'p', 'l', 'y']⟩

theorem dottedType_sent : ¬ WellTagged .digest
    (sendTags Address.toLowerCase .digest none (some [dottedType])) := by
  rintro ⟨tags, htags, hnodup, -⟩
  have hsent : sendTags Address.toLowerCase .digest none (some [dottedType]) =
      some [⟨tagType, ['d', 'i', 'g', 'e', 's', 't']⟩, ⟨tagType, ['r', 'e', 'p', 'l', 'y']⟩] := by
    decide +kernel
  rw [hsent] at htags
  obtain rfl := Option.some.inj htags
  simp at hnodup

end SesEmailAdapter.Email.SendTags
