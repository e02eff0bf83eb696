import SesEmailAdapter.Classifier.CoerceWorkflowData
import SesEmailAdapter.Lib.OrderedMap
import SesEmailAdapter.Lib.TextMatch
import SesEmailAdapter.Processor.IngestService

/-! # The links of a signal

The links of an email come from three places: the unsubscribe link, the link fields of the workflow
data and the actions. Each URL is claimed by the first place that has it. An action whose URL is
claimed is stripped; a field of the workflow data whose URL is claimed is only logged, and stays. -/

namespace SesEmailAdapter.Processor.LinkBuckets
open Lib Lib.TextMatch
open SesEmailAdapter.Types
open Classifier.CoerceWorkflowData (Record)
open Email.Address (isSpace trim)
open Processor.IngestService (ParsedMime)
open Resource.ResourceDatabase (truthy)

/-! ## The unsubscribe link -/

inductive UnsubscribeType
  | server | website | mailto
deriving DecidableEq, Repr

structure UnsubscribeInfo where
  type : UnsubscribeType
  url : String
deriving DecidableEq, Repr

/-- `/<([^>]+)>/` at the start of the text, with the length of the match. -/
def angled : List Char → Option (List Char × Nat)
  | '<' :: text =>
    let inner := text.takeWhile (· ≠ '>')
    if inner ≠ [] ∧ inner.length < text.length then some (inner, inner.length + 2) else none
  | _ => none

def startsWith (start : String) (text : List Char) : Bool := start.toList.isPrefixOf text

def parseUnsubscribeHeaders (headers : Fields) : Option UnsubscribeInfo := do
  let listUnsubscribe ← truthy (headers.get "list-unsubscribe")
  let hasPost := (truthy (headers.get "list-unsubscribe-post")).isSome
  let urls := allMatches angled listUnsubscribe.toList
  match urls.find? (startsWith "https://"), urls.find? (startsWith "mailto:") with
  | some httpsUrl, _ => some ⟨if hasPost then .server else .website, String.ofList httpsUrl⟩
  | none, some mailtoUrl => some ⟨.mailto, String.ofList mailtoUrl⟩
  | none, none => none

/-- The text begins with the mark, whatever the case of its letters. -/
def begins (mark : String) (text : List Char) : Bool :=
  (text.take mark.length).map Char.toLower = mark.toList

def isQuote (c : Char) : Bool := c.toNat = 0x22 ∨ c.toNat = 0x27

/-- What stands before the first mark, and what stands behind it. -/
def splitAtMark (mark : String) : List Char → Option (List Char × List Char)
  | [] => none
  | c :: text =>
    if begins mark (c :: text) then some ([], (c :: text).drop mark.length)
    else (splitAtMark mark text).map fun (front, rest) => (c :: front, rest)

/-- `/href=["']([^"']+)["'][^>]*>([\s\S]*?)<\/a>/i` at the start of the text: the reference, the
content and what follows. -/
def hrefAndContent (text : List Char) : Option (List Char × List Char × List Char) := do
  guard (begins "href=" text)
  let value ← (text.drop 5).tail?
  guard ((text.drop 5).head?.any isQuote)
  let href := value.takeWhile fun c => !isQuote c
  guard (href ≠ [])
  let closed ← (value.drop href.length).tail?
  let inside ← (closed.dropWhile (· ≠ '>')).tail?
  let (content, rest) ← splitAtMark "</a>" inside
  some (href, content, rest)

/-- `/<a\s[^>]*href=["']([^"']+)["'][^>]*>([\s\S]*?)<\/a>/i` at the start of the text. The run
before `href=` is as long as it can be. -/
def anchorPattern (text : List Char) : Option ((List Char × List Char) × Nat) := do
  guard (begins "<a" text)
  let attributes ← (text.drop 2).tail?
  guard ((text.drop 2).head?.any isSpace)
  let run := (attributes.takeWhile (· ≠ '>')).length
  let (href, content, rest) ←
    (List.range (run + 1)).reverse.findSome? fun n => hrefAndContent (attributes.drop n)
  some ((href, content), text.length - rest.length)

def includes (part : String) (text : List Char) : Bool := somewhere part.toList.isPrefixOf text

/-- `urlProtocol` is `new URL(href).protocol`, where the reference is a URL. -/
def parseUnsubscribeFromBody (urlProtocol : String → Option String) (htmlBody : Option String) :
    Option UnsubscribeInfo := do
  let html ← truthy htmlBody
  (allMatches anchorPattern html.toList).findSome? fun (href, content) =>
    let text := trim (removeMatches angled content)
    let combined := (text ++ ' ' :: href).map Char.toLower
    if includes "unsubscribe" combined then
      match urlProtocol (String.ofList href) with
      | some "https:" | some "http:" => some ⟨.website, String.ofList href⟩
      | _ => none
    else none

/-! ## The links -/

structure SignalAction where
  url : String
  text : Option String
deriving DecidableEq, Repr

/-- The links of `ClassificationOutput`. -/
structure ClassifiedLinks where
  workflowData : Record
  actions : List SignalAction

/-- Who claimed a URL. -/
inductive Bucket
  | unsubscribe
  | workflowData (field : String)
  | actions
deriving DecidableEq, Repr

def workflowDataUrlFields : List String :=
  ["trackingUrl", "downloadUrl", "managementUrl", "paymentUrl", "documentUrl", "portalUrl",
    "responseUrl", "ticketUrl", "actionUrl", "muteUrl"]

abbrev ClassifiedUrls := OrderedMap String Bucket

def claimUnsubscribe (unsubscribe : Option UnsubscribeInfo) : ClassifiedUrls :=
  match unsubscribe with
  | some info => OrderedMap.empty.set info.url .unsubscribe
  | none => OrderedMap.empty

/-- A URL that is claimed already is logged, and neither claimed again nor removed. -/
def claimField (workflowData : Record) (classifiedUrls : ClassifiedUrls) (field : String) :
    ClassifiedUrls :=
  match workflowData.read field with
  | .str value => classifiedUrls.claim value (.workflowData field)
  | _ => classifiedUrls

def classifiedUrls (unsubscribe : Option UnsubscribeInfo) (workflowData : Record) :
    ClassifiedUrls :=
  workflowDataUrlFields.foldl (claimField workflowData) (claimUnsubscribe unsubscribe)

/-- The links of `InboundEmailSignalData`. -/
structure SignalLinks where
  unsubscribe : Option UnsubscribeInfo
  workflowData : Record
  actions : List SignalAction

def unsubscribeOf (urlProtocol : String → Option String) (parsed : ParsedMime) :
    Option UnsubscribeInfo :=
  parseUnsubscribeHeaders parsed.headers <|> parseUnsubscribeFromBody urlProtocol parsed.htmlBody

/-- The links of the signal that `buildSignal` makes. -/
def buildLinks (urlProtocol : String → Option String) (parsed : ParsedMime)
    (classification : ClassifiedLinks) : SignalLinks where
  unsubscribe := unsubscribeOf urlProtocol parsed
  workflowData := classification.workflowData
  actions := OrderedMap.keepUnclaimed SignalAction.url .actions
    (classifiedUrls (unsubscribeOf urlProtocol parsed) classification.workflowData)
    classification.actions

/-! ## Where a URL occurs -/

def SignalLinks.Has (links : SignalLinks) (url : String) : Bucket → Prop
  | .unsubscribe => links.unsubscribe.map UnsubscribeInfo.url = some url
  | .workflowData field =>
    field ∈ workflowDataUrlFields ∧ links.workflowData.read field = .str url
  | .actions => url ∈ links.actions.map SignalAction.url

/-- A URL of the unsubscribe link or of a field. -/
def SignalLinks.HasAbove (links : SignalLinks) (url : String) : Prop :=
  links.Has url .unsubscribe ∨ ∃ field, links.Has url (.workflowData field)

variable {urlProtocol : String → Option String} {parsed : ParsedMime}
  {classification : ClassifiedLinks} {workflowData : Record} {links : SignalLinks} {url : String}

theorem isSome_claimUnsubscribe {unsubscribe : Option UnsubscribeInfo} :
    ((claimUnsubscribe unsubscribe).get url).isSome ↔
      unsubscribe.map UnsubscribeInfo.url = some url := by
  cases unsubscribe with
  | none => simp [claimUnsubscribe]
  | some info =>
    unfold claimUnsubscribe
    rw [OrderedMap.get_set]
    by_cases hurl : url = info.url
    · simp [hurl]
    · simp [hurl, Ne.symm hurl]

theorem isSome_claimField {urls : ClassifiedUrls} {field : String} :
    ((claimField workflowData urls field).get url).isSome ↔
      workflowData.read field = .str url ∨ (urls.get url).isSome := by
  unfold claimField
  cases hvalue : workflowData.read field with
  | str value =>
    refine OrderedMap.isSome_claim .. |>.trans (or_congr_left ?_)
    rw [Json.str.injEq, eq_comm]
  | _ => simp

theorem isSome_claimFields {fields : List String} {urls : ClassifiedUrls} :
    ((fields.foldl (claimField workflowData) urls).get url).isSome ↔
      (urls.get url).isSome ∨ ∃ field ∈ fields, workflowData.read field = .str url := by
  induction fields generalizing urls with
  | nil => simp
  | cons field fields ih =>
    rw [List.foldl_cons, ih, isSome_claimField]
    simp only [List.mem_cons, exists_eq_or_imp]
    tauto

/-- The map of the claimed URLs has those of the buckets above the actions. -/
theorem isSome_classifiedUrls :
    ((classifiedUrls (unsubscribeOf urlProtocol parsed) classification.workflowData).get
      url).isSome ↔ (buildLinks urlProtocol parsed classification).HasAbove url := by
  unfold classifiedUrls
  rw [isSome_claimFields, isSome_claimUnsubscribe]
  rfl

/-- **Nothing proposed is lost, and nothing claimed is kept.** -/
theorem has_actions_iff :
    (buildLinks urlProtocol parsed classification).Has url .actions ↔
      url ∈ classification.actions.map SignalAction.url ∧
        ¬ (buildLinks urlProtocol parsed classification).HasAbove url := by
  rw [← isSome_classifiedUrls, Bool.not_eq_true, Option.isSome_eq_false_iff,
    Option.isNone_iff_eq_none]
  exact OrderedMap.mem_keepUnclaimed_iff ..

/-! ## One bucket for a URL -/

inductive BucketKind
  | unsubscribe | workflowData | actions
deriving DecidableEq, Repr

def Bucket.kind : Bucket → BucketKind
  | .unsubscribe => .unsubscribe
  | .workflowData _ => .workflowData
  | .actions => .actions

section Places

variable {β : Type} (place : Bucket → β)

/-- No URL is in two places. -/
def SignalLinks.Single (links : SignalLinks) : Prop :=
  ∀ url b b', links.Has url b → links.Has url b' → place b = place b'

/-- What the links of a signal are to keep of the actions that were proposed. -/
structure Bucketed (proposed : List SignalAction) (links : SignalLinks) : Prop where
  single : links.Single place
  kept : links.actions.Sublist proposed
  distinct : (links.actions.map SignalAction.url).Nodup
  present : ∀ action ∈ proposed,
    ∃ b, links.Has action.url b ∧ ∀ b', links.Has action.url b' → place b' = place b

/-- The actions are kept as they should be, whatever the other links are. -/
theorem bucketed_iff_single :
    Bucketed place classification.actions (buildLinks urlProtocol parsed classification) ↔
      (buildLinks urlProtocol parsed classification).Single place := by
  refine ⟨Bucketed.single, fun hsingle => ⟨hsingle, OrderedMap.keepUnclaimed_sublist ..,
    OrderedMap.nodup_keepUnclaimed .., fun action haction => ?_⟩⟩
  have hurl : action.url ∈ classification.actions.map SignalAction.url :=
    List.mem_map_of_mem haction
  have hsome : ∃ b, (buildLinks urlProtocol parsed classification).Has action.url b := by
    by_cases habove : (buildLinks urlProtocol parsed classification).HasAbove action.url
    · cases habove with
      | inl hunsubscribe => exact ⟨.unsubscribe, hunsubscribe⟩
      | inr hfield =>
        obtain ⟨field, hfield⟩ := hfield
        exact ⟨.workflowData field, hfield⟩
    · exact ⟨.actions, has_actions_iff.mpr ⟨hurl, habove⟩⟩
  obtain ⟨b, hb⟩ := hsome
  exact ⟨b, hb, fun b' hb' => hsingle _ b' b hb' hb⟩

end Places

/-- No link field repeats the unsubscribe link. -/
def UnsubscribeApart (unsubscribe : Option UnsubscribeInfo) (workflowData : Record) : Prop :=
  ∀ info, unsubscribe = some info →
    ∀ field ∈ workflowDataUrlFields, workflowData.read field ≠ .str info.url

/-- No two link fields have one URL. -/
def FieldsApart (workflowData : Record) : Prop :=
  ∀ field ∈ workflowDataUrlFields, ∀ other ∈ workflowDataUrlFields, ∀ url,
    workflowData.read field = .str url → workflowData.read other = .str url → field = other

theorem unsubscribeApart_iff :
    UnsubscribeApart links.unsubscribe links.workflowData ↔
      ∀ url field, links.Has url .unsubscribe → ¬ links.Has url (.workflowData field) := by
  constructor
  · intro h url field hunsubscribe hfield
    obtain ⟨info, hinfo, rfl⟩ := Option.map_eq_some_iff.mp hunsubscribe
    exact h info hinfo field hfield.1 hfield.2
  · intro h info hinfo field hfield hread
    refine h info.url field ?_ ⟨hfield, hread⟩
    exact Option.map_eq_some_iff.mpr ⟨info, hinfo, rfl⟩

/-- The actions are apart from the buckets above them, so only those can share a URL. -/
theorem single_iff {β : Type} {place : Bucket → β} :
    (buildLinks urlProtocol parsed classification).Single place ↔
      ∀ url b b', b ≠ .actions → b' ≠ .actions →
        (buildLinks urlProtocol parsed classification).Has url b →
        (buildLinks urlProtocol parsed classification).Has url b' → place b = place b' := by
  constructor
  · intro h url b b' _ _
    exact h url b b'
  · intro h url b b' hb hb'
    have habove : ∀ c : Bucket, c ≠ .actions →
        (buildLinks urlProtocol parsed classification).Has url c →
        (buildLinks urlProtocol parsed classification).HasAbove url := by
      intro c hc hhas
      cases c with
      | unsubscribe => exact .inl hhas
      | workflowData field => exact .inr ⟨field, hhas⟩
      | actions => exact absurd rfl hc
    by_cases hactions : b = .actions
    · subst hactions
      by_cases hactions' : b' = .actions
      · rw [hactions']
      · exact absurd (habove b' hactions' hb') (has_actions_iff.mp hb).2
    · by_cases hactions' : b' = .actions
      · subst hactions'
        exact absurd (habove b hactions hb) (has_actions_iff.mp hb').2
      · exact h url b b' hactions hactions' hb hb'

theorem single_kind_iff :
    (buildLinks urlProtocol parsed classification).Single Bucket.kind ↔
      UnsubscribeApart (unsubscribeOf urlProtocol parsed) classification.workflowData := by
  refine single_iff.trans (Iff.trans ?_
    (@unsubscribeApart_iff (buildLinks urlProtocol parsed classification)).symm)
  constructor
  · intro h url field hunsubscribe hfield
    have hkind := h url .unsubscribe (.workflowData field) (by decide) (by simp) hunsubscribe hfield
    cases hkind
  · intro h url b b' hne hne' hb hb'
    cases b with
    | actions => exact absurd rfl hne
    | unsubscribe =>
      cases b' with
      | actions => exact absurd rfl hne'
      | unsubscribe => rfl
      | workflowData field => exact absurd hb' (h url field hb)
    | workflowData field =>
      cases b' with
      | actions => exact absurd rfl hne'
      | unsubscribe => exact absurd hb (h url field hb')
      | workflowData _ => rfl

theorem single_id_iff :
    (buildLinks urlProtocol parsed classification).Single id ↔
      UnsubscribeApart (unsubscribeOf urlProtocol parsed) classification.workflowData ∧
        FieldsApart classification.workflowData := by
  constructor
  · intro h
    refine ⟨single_kind_iff.mp fun url b b' hb hb' => congrArg Bucket.kind (h url b b' hb hb'), ?_⟩
    intro field hfield other hother url hread hread'
    exact Bucket.workflowData.inj
      (h url (.workflowData field) (.workflowData other) ⟨hfield, hread⟩ ⟨hother, hread'⟩)
  · intro ⟨hapart, hfields⟩ url b b' hb hb'
    have hkind := single_kind_iff.mpr hapart url b b' hb hb'
    cases b with
    | workflowData field =>
      cases b' with
      | workflowData other =>
        exact congrArg Bucket.workflowData (hfields field hb.1 other hb'.1 url hb.2 hb'.2)
      | _ => cases hkind
    | _ => cases b' <;> first | rfl | cases hkind

/-- **When each URL is in one bucket.** The actions are kept as they should be in every case. Among
the unsubscribe link, the workflow data and the actions, a URL is in one bucket just when no link
field repeats the unsubscribe link; with a bucket for each link field, no two of them may share a
URL either. -/
theorem bucketed_iff (urlProtocol : String → Option String) (parsed : ParsedMime)
    (classification : ClassifiedLinks) :
    (Bucketed Bucket.kind classification.actions (buildLinks urlProtocol parsed classification) ↔
      UnsubscribeApart (unsubscribeOf urlProtocol parsed) classification.workflowData) ∧
    (Bucketed id classification.actions (buildLinks urlProtocol parsed classification) ↔
      UnsubscribeApart (unsubscribeOf urlProtocol parsed) classification.workflowData ∧
        FieldsApart classification.workflowData) :=
  ⟨(bucketed_iff_single _).trans single_kind_iff, (bucketed_iff_single _).trans single_id_iff⟩

/-- A mail whose preferences page is its unsubscribe link. -/
def prefsMime : ParsedMime :=
  { sender := ⟨"news@shop.example", none⟩
    toAddresses := [⟨"me@example.com", none⟩]
    subject := "Weekly digest"
    attachments := []
    headers := [("list-unsubscribe", "<https://shop.example/prefs>")]
    replyTo := none
    textBody := none
    htmlBody := none }

/-- The model gives the same page as the link that mutes the conversation. -/
def prefsLinks : ClassifiedLinks :=
  ⟨AList.singleton "muteUrl" (.str "https://shop.example/prefs"), []⟩

theorem unsubscribeOf_prefs (urlProtocol : String → Option String) :
    unsubscribeOf urlProtocol prefsMime = some ⟨.website, "https://shop.example/prefs"⟩ := by
  have hheaders : parseUnsubscribeHeaders prefsMime.headers =
      some ⟨.website, "https://shop.example/prefs"⟩ := by decide +kernel
  rw [unsubscribeOf, hheaders]
  rfl

theorem prefs_twice :
    ¬ Bucketed Bucket.kind prefsLinks.actions
        (buildLinks (fun _ => none) prefsMime prefsLinks) := by
  intro h
  have hapart := single_kind_iff.mp h.single
  exact hapart _ (unsubscribeOf_prefs _) "muteUrl" (by decide) rfl

end SesEmailAdapter.Processor.LinkBuckets
