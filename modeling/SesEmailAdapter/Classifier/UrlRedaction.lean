import SesEmailAdapter.Email.Address
import SesEmailAdapter.Lib.DigitText
import SesEmailAdapter.Lib.OrderedMap
import SesEmailAdapter.Lib.TextMatch
import SesEmailAdapter.Lib.TextReplace

/-! # Redacted links

The links of a body are replaced by numbered placeholders: first the extracted links, longest
first, by substitution wherever their text occurs, then the bare URLs that are left, one by one. A
redaction is exact when every URL of the body becomes one placeholder that stands for it. -/

namespace SesEmailAdapter.Classifier.UrlRedaction
open Lib Lib.TextMatch Lib.TextReplace

abbrev Text := List Char

/-! ## Bare URLs -/

def httpScheme : Text := ['h', 't', 't', 'p', ':', '/', '/']

def httpsScheme : Text := ['h', 't', 't', 'p', 's', ':', '/', '/']

/-- `[^\s<>"')\]]` -/
def isUrlChar (c : Char) : Bool :=
  !(Email.Address.isSpace c || ['<', '>', '"', '\'', ')', ']'].contains c)

/-- `/https?:\/\/[^\s<>"')\]]+/` at the start of a text. -/
def bareUrlHere (text : Text) : Option Text :=
  match [httpsScheme, httpScheme].find? (·.isPrefixOf text) with
  | none => none
  | some scheme =>
    let run := (text.drop scheme.length).takeWhile isUrlChar
    if run = [] then none else some (scheme ++ run)

def bareUrls (text : Text) : List Text :=
  allMatches (fun rest => (bareUrlHere rest).map fun url => (url, url.length)) text

/-! ## The redaction -/

structure ExtractedLink where
  url : Text
  text : Option Text

/-- An entry of the index; its placeholder is kept as the number in it. -/
structure LinkIndex where
  number : Nat
  url : Text
  text : Option Text

def placeholder (n : Nat) : Text :=
  ['[', 'l', 'i', 'n', 'k', '-'] ++ Nat.toDigits 10 n ++ [']']

/-- `text.length`, in code units. -/
def utf16Length (text : Text) : Nat :=
  (text.map fun c => if c.toNat < 0x10000 then 1 else 2).foldl (· + ·) 0

def initialIndex (extractedLinks : List ExtractedLink) : List LinkIndex :=
  extractedLinks.mapIdx fun i l => ⟨i + 1, l.url, l.text⟩

/-- The known URLs with their numbers, longer ones first. -/
def sortedUrls (extractedLinks : List ExtractedLink) : List (Text × Nat) :=
  let urlToPlaceholder := OrderedMap.ofList ((initialIndex extractedLinks).map fun e =>
    (e.url, e.number))
  urlToPlaceholder.entries.mergeSort fun a b => decide (utf16Length b.1 ≤ utf16Length a.1)

def replacePass (redacted : Text) (entry : Text × Nat) : Text :=
  splitJoin entry.1 (placeholder entry.2) redacted

/-- One more URL that was found in the body. -/
def addExtra (state : Text × List LinkIndex) (url : Text) : Text × List LinkIndex :=
  let idx := state.2.length + 1
  (replacePass state.1 (url, idx), state.2 ++ [⟨idx, url, none⟩])

def redactUrls (body : Text) (extractedLinks : List ExtractedLink) : Text × List LinkIndex :=
  let redacted := (sortedUrls extractedLinks).foldl replacePass body
  let extraUrls := (bareUrls redacted).eraseDups
  extraUrls.foldl addExtra (redacted, initialIndex extractedLinks)

/-! ## Cells -/

/-- A text in which URLs and placeholders are not split: a character, a whole bare URL, or a
placeholder with the URL it stands for. `whole` tells a placeholder for a bare URL from one for a
link between the URLs. -/
inductive Cell
  | char (c : Char)
  | url (u : Text)
  | mark (n : Nat) (whole : Bool) (u : Text)
deriving DecidableEq

def Cell.text : Cell → Text
  | .char c => [c]
  | .url u => u
  | .mark n _ _ => placeholder n

/-- What stood there before. -/
def Cell.before : Cell → List Cell
  | .mark _ true u => [.url u]
  | .mark _ false u => u.map .char
  | cell => [cell]

def render (cells : List Cell) : Text := cells.flatMap Cell.text

def urlsOf (cells : List Cell) : List Text :=
  cells.filterMap fun
    | .url u => some u
    | _ => none

def cutFrom : Nat → Text → List Cell
  | _, [] => []
  | skip + 1, _ :: rest => cutFrom skip rest
  | 0, c :: rest =>
    match bareUrlHere (c :: rest) with
    | some u => .url u :: cutFrom (u.length - 1) rest
    | none => .char c :: cutFrom 0 rest

/-- The bare URLs of a text and the characters between them. -/
def cutUrls (text : Text) : List Cell := cutFrom 0 text

/-! ## Exact redactions -/

/-- No placeholder is written out in the text. -/
def NoToken (body : Text) : Prop := ∀ n, ¬ placeholder n <:+: body

def restoreFrom (index : List LinkIndex) : Nat → Text → Text
  | _, [] => []
  | skip + 1, _ :: rest => restoreFrom index skip rest
  | 0, c :: rest =>
    match index.find? fun e => (placeholder e.number).isPrefixOf (c :: rest) with
    | some e => e.url ++ restoreFrom index ((placeholder e.number).length - 1) rest
    | none => c :: restoreFrom index 0 rest

/-- The text with each placeholder of the index replaced by its URL. -/
def restore (index : List LinkIndex) (text : Text) : Text := restoreFrom index 0 text

/-- The redacted body is the body with every bare URL as one placeholder whose entry is that
URL, and the text between them as it was but for extracted links in it. -/
structure Redacts (index : List LinkIndex) (body redacted : Text) (cells : List Cell) : Prop where
  text : render cells = redacted
  before : cells.flatMap Cell.before = cutUrls body
  covered : urlsOf cells = []
  indexed : ∀ n whole u, .mark n whole u ∈ cells → ∃ e ∈ index, e.number = n ∧ e.url = u

structure Exact (body : Text) (extractedLinks : List ExtractedLink)
    (result : Text × List LinkIndex) : Prop where
  distinct : (result.2.map fun e => placeholder e.number).Nodup
  genuine : ∀ e ∈ result.2, e.url ∈ extractedLinks.map ExtractedLink.url ∨ e.url ∈ bareUrls body
  clean : bareUrls result.1 = []
  replaced : ∃ cells, Redacts result.2 body result.1 cells
  restored : NoToken body → restore result.2 result.1 = body

/-! ## Replacements that keep to the cells -/

/-- The bare URL `entry.1` becomes its placeholder. -/
def coverUrl (entry : Text × Nat) : Cell → Cell
  | .url u => if u = entry.1 then .mark entry.2 true u else .url u
  | cell => cell

/-- A pass that replaces whole bare URLs and text between them. -/
def markPass (cells : List Cell) (entry : Text × Nat) : List Cell :=
  (splitJoin (entry.1.map .char) [.mark entry.2 false entry.1] cells).map (coverUrl entry)

/-- Each pass on the text replaces only whole bare URLs and text between them: no part of a longer
URL, and nothing of a placeholder. -/
def Faithful : List (Text × Nat) → List Cell → Prop
  | [], _ => True
  | entry :: entries, cells =>
    replacePass (render cells) entry = render (markPass cells entry) ∧
      Faithful entries (markPass cells entry)

/-- A bare URL is found just where one is left. -/
inductive Aligned : List Cell → Prop
  | nil : Aligned []
  | char {c : Char} {cells : List Cell} : bareUrlHere (render (.char c :: cells)) = none →
      Aligned cells → Aligned (.char c :: cells)
  | url {u : Text} {cells : List Cell} : bareUrlHere (render (.url u :: cells)) = some u →
      Aligned cells → Aligned (.url u :: cells)
  | mark {n : Nat} {whole : Bool} {u : Text} {cells : List Cell} : Aligned cells →
      Aligned (.mark n whole u :: cells)

/-- The body after the passes for the extracted links. -/
def markedLinks (body : Text) (extractedLinks : List ExtractedLink) : List Cell :=
  (sortedUrls extractedLinks).foldl markPass (cutUrls body)

/-- The extracted links are replaced as whole URLs or between URLs, no placeholder comes to stand
where a URL would go on into it, and no URL that is left is part of one that is found later. -/
structure Separable (body : Text) (extractedLinks : List ExtractedLink) : Prop where
  faithful : Faithful (sortedUrls extractedLinks) (cutUrls body)
  aligned : Aligned (markedLinks body extractedLinks)
  apart : (urlsOf (markedLinks body extractedLinks)).eraseDups.Pairwise
    fun earlier later => ¬ earlier <:+: later

/-! ## The shape of a URL -/

section Shape
variable {text rest u : Text}

theorem schemes_urlChars : ∀ scheme ∈ [httpsScheme, httpScheme],
    scheme.head? = some 'h' ∧ scheme.all isUrlChar = true ∧ '[' ∉ scheme := by
  decide

theorem bareUrlHere_eq_some (h : bareUrlHere text = some u) :
    ∃ scheme ∈ [httpsScheme, httpScheme], ∃ run, u = scheme ++ run ∧ run ≠ [] ∧
      run.all isUrlChar = true ∧
      ∃ rest, text = u ++ rest ∧ ∀ c ∈ rest.head?, isUrlChar c = false := by
  unfold bareUrlHere at h
  split at h
  · cases h
  · next scheme hfind =>
    dsimp only at h
    split at h
    · cases h
    · next hrun =>
      obtain rfl := Option.some.inj h
      have hfront : scheme <+: text :=
        List.isPrefixOf_iff_prefix.mp (by simpa using List.find?_some hfind)
      obtain ⟨tail, rfl⟩ := hfront
      rw [List.drop_left] at hrun ⊢
      refine ⟨scheme, List.mem_of_find?_eq_some hfind, _, rfl, hrun,
        List.all_takeWhile, tail.dropWhile isUrlChar, ?_, ?_⟩
      · rw [List.append_assoc, List.takeWhile_append_dropWhile]
      · intro c hc
        have hhead := List.head?_dropWhile_not isUrlChar tail
        rw [Option.mem_def.mp hc] at hhead
        exact hhead

theorem all_isUrlChar (h : bareUrlHere text = some u) : u.all isUrlChar = true := by
  obtain ⟨scheme, hscheme, run, rfl, -, hrun, -⟩ := bareUrlHere_eq_some h
  rw [List.all_append, (schemes_urlChars scheme hscheme).2.1, hrun, Bool.and_self]

theorem head_of_bareUrlHere (h : bareUrlHere text = some u) : u.head? = some 'h' := by
  obtain ⟨scheme, hscheme, run, rfl, hne, -, -⟩ := bareUrlHere_eq_some h
  rw [List.head?_append, (schemes_urlChars scheme hscheme).1, Option.some_or]

theorem isUrlChar_eq_false_of_head (h : bareUrlHere (u ++ rest) = some u) :
    ∀ c ∈ rest.head?, isUrlChar c = false := by
  obtain ⟨scheme, hscheme, run, -, -, -, rest', hrest, hhead⟩ := bareUrlHere_eq_some h
  obtain rfl := List.append_cancel_left hrest
  exact hhead

/-- A text that begins like a URL has one there. -/
theorem bareUrlHere_isSome_iff :
    (bareUrlHere text).isSome = true ↔
      ∃ scheme ∈ [httpsScheme, httpScheme], ∃ c rest, text = scheme ++ c :: rest ∧
        isUrlChar c = true := by
  constructor
  · intro h
    obtain ⟨u, hu⟩ := Option.isSome_iff_exists.mp h
    obtain ⟨scheme, hscheme, run, rfl, hne, hrun, rest, rfl, -⟩ := bareUrlHere_eq_some hu
    obtain ⟨c, run, rfl⟩ := List.exists_cons_of_ne_nil hne
    exact ⟨scheme, hscheme, c, run ++ rest, by simp, List.all_eq_true.mp hrun c List.mem_cons_self⟩
  · intro h
    obtain ⟨scheme, hscheme, c, rest, rfl, hc⟩ := h
    have hfind : [httpsScheme, httpScheme].find? (·.isPrefixOf (scheme ++ c :: rest)) =
        some scheme := by
      simp only [List.mem_cons, List.not_mem_nil, or_false] at hscheme
      rcases hscheme with rfl | rfl <;> simp [httpsScheme, httpScheme, List.isPrefixOf]
    simp [bareUrlHere, hfind, hc]

theorem bareUrlHere_cons_of_ne {c : Char} (hc : c ≠ 'h') : bareUrlHere (c :: rest) = none := by
  cases h : bareUrlHere (c :: rest) with
  | none => rfl
  | some u =>
    obtain ⟨scheme, hscheme, run, rfl, -, -, rest', hrest, -⟩ := bareUrlHere_eq_some h
    have hhead := congrArg List.head? hrest
    rw [List.append_assoc, List.head?_append, (schemes_urlChars scheme hscheme).1] at hhead
    exact absurd (Option.some.inj hhead) hc

end Shape

/-! ## Placeholders -/

variable {text : Text} {cells : List Cell} {extractedLinks : List ExtractedLink} {n : Nat}

theorem mem_placeholder {c : Char} (h : c ∈ placeholder n) :
    c ∈ ['[', 'l', 'i', 'n', 'k', '-', ']'] ∨ c.isDigit = true := by
  rw [placeholder, List.mem_append, List.mem_append] at h
  rcases h with (h | h) | h
  · exact .inl (List.mem_append_left [']'] h)
  · exact .inr (Nat.isDigit_of_mem_toDigits (by decide) (by decide) h)
  · exact .inl (List.mem_append_right ['[', 'l', 'i', 'n', 'k', '-'] h)

theorem not_mem_placeholder (n : Nat) : 'h' ∉ placeholder n := by
  intro h
  rcases mem_placeholder h with h | h
  · simp at h
  · cases h

/-! ## Cells -/

section Cells
variable {cells more : List Cell} {cell : Cell} {u : Text}

@[simp] theorem render_nil : render [] = [] := rfl

@[simp] theorem render_cons : render (cell :: cells) = cell.text ++ render cells := rfl

@[simp] theorem render_append : render (cells ++ more) = render cells ++ render more :=
  List.flatMap_append

theorem cutFrom_spec (skip : Nat) (text : Text) :
    Aligned (cutFrom skip text) ∧ render (cutFrom skip text) = text.drop skip ∧
      (cutFrom skip text).flatMap Cell.before = cutFrom skip text := by
  induction text generalizing skip with
  | nil => exact ⟨by rw [cutFrom]; exact .nil, by simp [cutFrom], by simp [cutFrom]⟩
  | cons c rest ih =>
    cases skip with
    | succ skip => simpa [cutFrom] using ih skip
    | zero =>
      rw [cutFrom]
      cases hurl : bareUrlHere (c :: rest) with
      | none =>
        obtain ⟨haligned, hrender, hbefore⟩ := ih 0
        have htext : render (.char c :: cutFrom 0 rest) = c :: rest := by
          simp [Cell.text, hrender]
        exact ⟨.char (htext ▸ hurl) haligned, htext, by simp [Cell.before, hbefore]⟩
      | some u =>
        obtain ⟨haligned, hrender, hbefore⟩ := ih (u.length - 1)
        obtain ⟨-, -, -, -, -, -, after, hafter, -⟩ := bareUrlHere_eq_some hurl
        have hhead := head_of_bareUrlHere hurl
        have htext : render (.url u :: cutFrom (u.length - 1) rest) = c :: rest := by
          cases u with
          | nil => cases hhead
          | cons d u =>
            obtain ⟨rfl, rfl⟩ := List.cons.inj hafter
            simpa [Cell.text] using hrender
        exact ⟨.url (htext.symm ▸ hurl) haligned, htext, by simp [Cell.before, hbefore]⟩

theorem aligned_cutUrls (text : Text) : Aligned (cutUrls text) := (cutFrom_spec 0 text).1

theorem render_cutUrls (text : Text) : render (cutUrls text) = text := (cutFrom_spec 0 text).2.1

/-- A placeholder holds no URL, and none starts in it. -/
theorem bareUrls_placeholder (n : Nat) (text : Text) :
    bareUrls (placeholder n ++ text) = bareUrls text := by
  have hskip : ∀ front : Text, 'h' ∉ front → bareUrls (front ++ text) = bareUrls text := by
    intro front hfront
    induction front with
    | nil => rfl
    | cons c front ih =>
      have hc : c ≠ 'h' := fun hc => hfront (hc ▸ List.mem_cons_self)
      rw [← ih fun hmem => hfront (List.mem_cons_of_mem c hmem), bareUrls, List.cons_append,
        allMatches_miss (by rw [bareUrlHere_cons_of_ne hc]; rfl)]
      rfl
  exact hskip _ (not_mem_placeholder n)

/-- The URLs of aligned cells are the bare URLs of their text. -/
theorem Aligned.bareUrls_render (h : Aligned cells) : bareUrls (render cells) = urlsOf cells := by
  induction h with
  | nil => rfl
  | @char c cells hurl _ ih =>
    rw [render_cons] at hurl ⊢
    change bareUrls (c :: render cells) = urlsOf cells
    rw [← ih, bareUrls, allMatches_miss]
    · rfl
    · exact congrArg _ hurl
  | @url u cells hurl _ ih =>
    have hhead := head_of_bareUrlHere hurl
    rw [render_cons] at hurl ⊢
    change bareUrls (u ++ render cells) = u :: urlsOf cells
    cases u with
    | nil => cases hhead
    | cons c u =>
      rw [← ih, bareUrls, List.cons_append, allMatches_hit]
      · rfl
      · change (bareUrlHere (c :: (u ++ render cells))).map _ = _
        rw [← List.cons_append]
        exact congrArg _ hurl
  | @mark n whole u cells _ ih =>
    rw [render_cons]
    change bareUrls (placeholder n ++ render cells) = urlsOf cells
    rw [bareUrls_placeholder, ih]

/-! ## Passes -/

variable {entry : Text × Nat} {entries : List (Text × Nat)}

theorem foldl_replacePass (h : Faithful entries cells) :
    entries.foldl replacePass (render cells) = render (entries.foldl markPass cells) := by
  induction entries generalizing cells with
  | nil => rfl
  | cons entry entries ih =>
    obtain ⟨hpass, hrest⟩ := h
    rw [List.foldl_cons, List.foldl_cons, hpass, ih hrest]

theorem before_coverUrl (cell : Cell) : (coverUrl entry cell).before = cell.before := by
  cases cell with
  | char c => rfl
  | mark n whole u => rfl
  | url u =>
    by_cases hu : u = entry.1
    · rw [coverUrl, if_pos hu, hu]
      rfl
    · rw [coverUrl, if_neg hu]

theorem before_map_coverUrl (cells : List Cell) :
    (cells.map (coverUrl entry)).flatMap Cell.before = cells.flatMap Cell.before := by
  simp only [List.flatMap_map, before_coverUrl]

/-- A pass changes nothing of what stood there before. -/
theorem before_markPass :
    (markPass cells entry).flatMap Cell.before = cells.flatMap Cell.before := by
  have hlink : [Cell.mark entry.2 false entry.1].flatMap Cell.before =
      (entry.1.map Cell.char).flatMap Cell.before := by
    simp only [List.flatMap_singleton, Cell.before, List.flatMap_map]
    exact (List.flatMap_pure_eq_map _ _).symm
  rw [markPass, before_map_coverUrl]
  exact flatMap_splitJoin hlink cells

theorem before_foldl_markPass :
    (entries.foldl markPass cells).flatMap Cell.before = cells.flatMap Cell.before := by
  induction entries generalizing cells with
  | nil => rfl
  | cons entry entries ih => rw [List.foldl_cons, ih, before_markPass]

/-- The marks of the cells stand for entries of a list. -/
def MarksIn (entries : List (Text × Nat)) (cells : List Cell) : Prop :=
  ∀ n whole u, .mark n whole u ∈ cells → (u, n) ∈ entries

theorem MarksIn.cover (h : MarksIn entries cells) (hentry : entry ∈ entries) :
    MarksIn entries (cells.map (coverUrl entry)) := by
  intro n whole u hmark
  obtain ⟨cell, hcell, hcover⟩ := List.mem_map.mp hmark
  cases cell with
  | char c => cases hcover
  | mark m w v => exact h n whole u (hcover ▸ hcell)
  | url v =>
    by_cases hv : v = entry.1
    · rw [coverUrl, if_pos hv] at hcover
      obtain ⟨rfl, -, rfl⟩ := Cell.mark.inj hcover
      rw [hv]
      exact hentry
    · rw [coverUrl, if_neg hv] at hcover
      cases hcover

theorem MarksIn.markPass (h : MarksIn entries cells) (hentry : entry ∈ entries) :
    MarksIn entries (markPass cells entry) := by
  refine MarksIn.cover ?_ hentry
  intro n whole u hmark
  rcases mem_splitJoin hmark with hnew | hold
  · obtain ⟨rfl, -, rfl⟩ := Cell.mark.inj (List.mem_singleton.mp hnew)
    exact hentry
  · exact h n whole u hold

theorem marksIn_cutFrom (skip : Nat) (text : Text) : MarksIn entries (cutFrom skip text) := by
  intro n whole u hmark
  induction text generalizing skip with
  | nil => simp [cutFrom] at hmark
  | cons c rest ih =>
    cases skip with
    | succ skip => exact ih skip hmark
    | zero =>
      rw [cutFrom] at hmark
      cases hurl : bareUrlHere (c :: rest) with
      | none =>
        rw [hurl] at hmark
        exact ih 0 ((List.mem_cons.mp hmark).resolve_left (by simp))
      | some v =>
        rw [hurl] at hmark
        exact ih _ ((List.mem_cons.mp hmark).resolve_left (by simp))

theorem marksIn_foldl_markPass (h : MarksIn entries cells) {more : List (Text × Nat)}
    (hmore : ∀ entry ∈ more, entry ∈ entries) : MarksIn entries (more.foldl markPass cells) := by
  induction more generalizing cells with
  | nil => exact h
  | cons entry more ih =>
    obtain ⟨hentry, hmore⟩ := List.forall_mem_cons.mp hmore
    exact ih (h.markPass hentry) hmore

/-! ## The URLs that are left -/

/-- Text behind the first characters of a URL does not end it. -/
theorem isSome_bareUrlHere_append (h : (bareUrlHere text).isSome = true)
    (rest : Text) : (bareUrlHere (text ++ rest)).isSome = true := by
  obtain ⟨scheme, hscheme, c, tail, rfl, hc⟩ := bareUrlHere_isSome_iff.mp h
  exact bareUrlHere_isSome_iff.mpr ⟨scheme, hscheme, c, tail ++ rest, by simp, hc⟩

theorem eq_takeWhile (h : bareUrlHere text = some u) :
    u = text.takeWhile isUrlChar := by
  have hall := List.all_eq_true.mp (all_isUrlChar h)
  obtain ⟨-, -, -, -, -, -, rest, rfl, hhead⟩ := bareUrlHere_eq_some h
  rw [List.takeWhile_append_of_pos hall]
  cases rest with
  | nil => simp
  | cons c rest => simp [hhead c rfl]

theorem bareUrlHere_append {rest : Text} (hu : bareUrlHere u = some u)
    (hrest : ∀ c ∈ rest.head?, isUrlChar c = false) : bareUrlHere (u ++ rest) = some u := by
  have hall := List.all_eq_true.mp (all_isUrlChar hu)
  obtain ⟨v, hv⟩ := Option.isSome_iff_exists.mp
    (isSome_bareUrlHere_append (Option.isSome_iff_exists.mpr ⟨u, hu⟩) rest)
  rw [hv, eq_takeWhile hv, List.takeWhile_append_of_pos hall]
  cases rest with
  | nil => simp
  | cons c rest => simp [hrest c rfl]

/-- A URL is one by itself. -/
theorem bareUrlHere_self (h : bareUrlHere text = some u) :
    bareUrlHere u = some u := by
  have hall := List.all_eq_true.mp (all_isUrlChar h)
  obtain ⟨scheme, hscheme, run, rfl, hne, hrun, -⟩ := bareUrlHere_eq_some h
  obtain ⟨c, run, rfl⟩ := List.exists_cons_of_ne_nil hne
  have hc := List.all_eq_true.mp hrun c List.mem_cons_self
  obtain ⟨v, hv⟩ := Option.isSome_iff_exists.mp
    (bareUrlHere_isSome_iff.mpr ⟨scheme, hscheme, c, run, rfl, hc⟩)
  rw [hv, eq_takeWhile hv, List.takeWhile_eq_self_iff.mpr hall]

theorem not_prefix_of_none (hu : bareUrlHere u = some u)
    (h : bareUrlHere text = none) : ¬ u <+: text := by
  intro hfront
  obtain ⟨more, rfl⟩ := hfront
  have hsome := isSome_bareUrlHere_append (Option.isSome_iff_exists.mpr ⟨u, hu⟩) more
  rw [h] at hsome
  cases hsome

/-- A URL that is in no other URL that is left is replaced just where it is one. -/
theorem replacePass_of_aligned (h : Aligned cells) (hu : bareUrlHere u = some u)
    (hapart : ∀ v ∈ urlsOf cells, v ≠ u → ¬ u <:+: v) :
    replacePass (render cells) (u, n) = render (cells.map (coverUrl (u, n))) := by
  have hne : u ≠ [] := by
    rintro rfl
    cases head_of_bareUrlHere hu
  have hpass : ∀ text, replacePass text (u, n) = substitute u (placeholder n) text := by
    intro text
    rw [replacePass, splitJoin, if_neg hne]
  rw [hpass]
  induction h with
  | nil => rfl
  | @char c cells hurl _ ih =>
    rw [render_cons, Cell.text, List.singleton_append] at hurl ⊢
    rw [substitute_miss (not_prefix_of_none hu hurl), ih hapart]
    rfl
  | @url v cells hurl _ ih =>
    have hrest := ih fun w hw => hapart w (List.mem_cons_of_mem v hw)
    rw [render_cons, Cell.text] at hurl ⊢
    rw [List.map_cons, render_cons, coverUrl]
    by_cases hv : v = u
    · rw [if_pos hv, hv, substitute_hit hne, hrest]
      rfl
    · have hself : substitute u (placeholder n) v = v :=
        substitute_eq_self (hapart v List.mem_cons_self hv)
      rw [if_neg hv, substitute_append hne (List.all_eq_true.mp (all_isUrlChar hu))
        (isUrlChar_eq_false_of_head hurl), hself, hrest]
      rfl
  | @mark m whole v cells _ ih =>
    rw [render_cons, Cell.text,
      substitute_of_not_mem (head_of_bareUrlHere hu) (not_mem_placeholder m), ih hapart]
    rfl

/-- Covered cells read the same, or differ first where a URL became a placeholder. -/
theorem render_cover_cases (h : Aligned cells) :
    render (cells.map (coverUrl (u, n))) = render cells ∨
      ∃ front rest rest', render cells = front ++ 'h' :: rest ∧
        render (cells.map (coverUrl (u, n))) = front ++ '[' :: rest' := by
  have hkeep : ∀ (text : Text) (cells : List Cell),
      render (cells.map (coverUrl (u, n))) = render cells ∨
        (∃ front rest rest', render cells = front ++ 'h' :: rest ∧
          render (cells.map (coverUrl (u, n))) = front ++ '[' :: rest') →
      text ++ render (cells.map (coverUrl (u, n))) = text ++ render cells ∨
        ∃ front rest rest', text ++ render cells = front ++ 'h' :: rest ∧
          text ++ render (cells.map (coverUrl (u, n))) = front ++ '[' :: rest' := by
    intro text cells hcases
    rcases hcases with hsame | ⟨front, rest, rest', hold, hnew⟩
    · exact .inl (by rw [hsame])
    · exact .inr ⟨text ++ front, rest, rest', by simp [hold], by simp [hnew]⟩
  induction h with
  | nil => exact .inl rfl
  | @char c cells _ _ ih => exact hkeep [c] cells ih
  | @mark m whole v cells _ ih => exact hkeep (placeholder m) cells ih
  | @url v cells hurl _ ih =>
    by_cases hv : v = u
    · have hhead := head_of_bareUrlHere hurl
      rw [List.map_cons, coverUrl, if_pos hv]
      cases v with
      | nil => cases hhead
      | cons c v =>
        obtain rfl := Option.some.inj hhead
        exact .inr ⟨[], _, _, rfl, rfl⟩
    · rw [List.map_cons, coverUrl, if_neg hv]
      exact hkeep v cells ih

/-- What does not begin a URL before another URL does not begin one before a placeholder. -/
theorem bareUrlHere_none_of_placeholder {front rest rest' : Text}
    (h : bareUrlHere (front ++ 'h' :: rest) = none) :
    bareUrlHere (front ++ '[' :: rest') = none := by
  cases hsome : bareUrlHere (front ++ '[' :: rest') with
  | none => rfl
  | some v =>
    exfalso
    have hletter : isUrlChar 'h' = true := by decide
    have hother : (bareUrlHere (front ++ 'h' :: rest)).isSome = true := by
      obtain ⟨scheme, hscheme, c, tail, htail, hc⟩ :=
        bareUrlHere_isSome_iff.mp (Option.isSome_iff_exists.mpr ⟨v, hsome⟩)
      refine bareUrlHere_isSome_iff.mpr ⟨scheme, hscheme, ?_⟩
      rcases List.append_eq_append_iff.mp htail with ⟨s, rfl, hs⟩ | ⟨s, rfl, hs⟩
      · cases s with
        | nil => exact ⟨'h', rest, by simp, hletter⟩
        | cons d s =>
          obtain ⟨rfl, -⟩ := List.cons.inj hs
          exact absurd (by simp) (schemes_urlChars _ hscheme).2.2
      · cases s with
        | nil => exact ⟨'h', rest, by simp, hletter⟩
        | cons d s =>
          obtain ⟨rfl, -⟩ := List.cons.inj hs
          exact ⟨c, s ++ 'h' :: rest, by simp, hc⟩
    rw [h] at hother
    cases hother

theorem Aligned.cover (h : Aligned cells) : Aligned (cells.map (coverUrl (u, n))) := by
  induction h with
  | nil => exact .nil
  | mark _ ih => exact .mark ih
  | @char c cells hurl haligned ih =>
    refine .char ?_ ih
    rw [render_cons] at hurl ⊢
    rcases render_cover_cases haligned with hsame | ⟨front, rest, rest', hold, hnew⟩
    · rw [hsame]
      exact hurl
    · rw [hold, ← List.append_assoc] at hurl
      rw [hnew, ← List.append_assoc]
      exact bareUrlHere_none_of_placeholder hurl
  | @url v cells hurl haligned ih =>
    rw [List.map_cons, coverUrl]
    by_cases hv : v = u
    · rw [if_pos hv]
      exact .mark ih
    · rw [if_neg hv]
      refine .url ?_ ih
      rw [render_cons, Cell.text] at hurl ⊢
      have hend := isUrlChar_eq_false_of_head hurl
      rcases render_cover_cases haligned with hsame | ⟨front, rest, rest', hold, hnew⟩
      · rwa [hsame]
      · apply bareUrlHere_append (bareUrlHere_self hurl)
        rw [hold] at hend
        rw [hnew]
        cases front with
        | nil => exact absurd (hend 'h' rfl) (by decide)
        | cons d front => exact hend

end Cells

/-! ## Restoring -/

section Restoring
variable {cells : List Cell} {index : List LinkIndex} {text : Text}

/-- No placeholder begins another one. -/
theorem eq_of_placeholder_prefix {m n : Nat} (h : placeholder m <+: placeholder n ++ text) :
    m = n := by
  obtain ⟨rest, hrest⟩ := h
  simp only [placeholder, List.append_assoc, List.singleton_append] at hrest
  have hnumbers : Nat.toDigits 10 m ++ ']' :: rest = Nat.toDigits 10 n ++ ']' :: text :=
    List.append_cancel_left hrest
  exact DigitText.number_injective rfl hnumbers

theorem placeholder_injective {m n : Nat} (h : placeholder m = placeholder n) : m = n := by
  have hfront : placeholder m <+: placeholder n ++ [] := by rw [h, List.append_nil]
  exact eq_of_placeholder_prefix hfront

theorem placeholder_eq_cons (n : Nat) : ∃ rest, placeholder n = '[' :: rest ∧ '[' ∉ rest := by
  refine ⟨['l', 'i', 'n', 'k', '-'] ++ (Nat.toDigits 10 n ++ [']']), by simp [placeholder], ?_⟩
  intro h
  rw [List.mem_append, List.mem_append] at h
  rcases h with h | h | h
  · simp at h
  · have hdigit : '['.isDigit = true := Nat.isDigit_of_mem_toDigits (by decide) (by decide) h
    cases hdigit
  · simp at h

/-- The text that stood where the cells are. -/
def sourceText (cells : List Cell) : Text := render (cells.flatMap Cell.before)

theorem sourceText_char (c : Char) (cells : List Cell) :
    sourceText (.char c :: cells) = c :: sourceText cells := rfl

theorem sourceText_mark (n : Nat) (whole : Bool) (u : Text) (cells : List Cell) :
    sourceText (.mark n whole u :: cells) = u ++ sourceText cells := by
  have hchars : ∀ u : Text, render (u.map Cell.char) = u := by
    intro u
    rw [render, List.flatMap_map]
    exact List.flatMap_singleton' u
  rw [sourceText, List.flatMap_cons, render_append]
  cases whole with
  | true => simp [Cell.before, Cell.text, sourceText]
  | false => rw [Cell.before, hchars, sourceText]

/-- What holds no bracket and begins the text stood at its beginning before. -/
theorem prefix_sourceText {p : Text} (hcovered : urlsOf cells = []) (hp : '[' ∉ p)
    (h : p <+: render cells) : p <+: sourceText cells := by
  induction cells generalizing p with
  | nil => exact h
  | cons cell cells ih =>
    cases p with
    | nil => exact List.nil_prefix
    | cons c p =>
      cases cell with
      | url u => cases hcovered
      | char d =>
        rw [render_cons, Cell.text, List.singleton_append, List.cons_prefix_cons] at h
        rw [sourceText_char, List.cons_prefix_cons]
        exact ⟨h.1, ih hcovered (fun hmem => hp (List.mem_cons_of_mem c hmem)) h.2⟩
      | mark n whole u =>
        obtain ⟨rest, hrest, -⟩ := placeholder_eq_cons n
        rw [render_cons, Cell.text, hrest, List.cons_append, List.cons_prefix_cons] at h
        exact absurd (h.1 ▸ List.mem_cons_self) hp

theorem restoreFrom_skip (front more : Text) :
    restoreFrom index front.length (front ++ more) = restoreFrom index 0 more := by
  induction front with
  | nil => rfl
  | cons c front ih => exact ih

theorem restore_hit {e : LinkIndex}
    (h : index.find? (fun e => (placeholder e.number).isPrefixOf (placeholder n ++ text)) = some e)
    (hn : e.number = n) : restore index (placeholder n ++ text) = e.url ++ restore index text := by
  obtain ⟨rest, hrest, -⟩ := placeholder_eq_cons n
  rw [hrest, List.cons_append] at h ⊢
  rw [restore, restoreFrom, h]
  dsimp only
  rw [hn, hrest, List.length_cons, Nat.add_sub_cancel, restoreFrom_skip, restore]

theorem restore_miss {c : Char} (h : ∀ n, ¬ placeholder n <+: c :: text) :
    restore index (c :: text) = c :: restore index text := by
  have hfind : index.find? (fun e => (placeholder e.number).isPrefixOf (c :: text)) = none := by
    rw [List.find?_eq_none]
    intro e _ hfront
    exact h e.number (List.isPrefixOf_iff_prefix.mp hfront)
  rw [restore, restoreFrom, hfind, restore]

/-- Restoring gives back what stood there, if no placeholder was written out before. -/
theorem restore_render (hcovered : urlsOf cells = []) (htoken : NoToken (sourceText cells))
    (hnumbers : (index.map LinkIndex.number).Nodup)
    (hmarks : MarksIn (index.map fun e => (e.url, e.number)) cells) :
    restore index (render cells) = sourceText cells := by
  induction cells with
  | nil => rfl
  | cons cell cells ih =>
    have hcovered' : urlsOf cells = [] := by
      cases cell with
      | url u => cases hcovered
      | char c => exact hcovered
      | mark n whole u => exact hcovered
    have hmarks' : MarksIn (index.map fun e => (e.url, e.number)) cells :=
      fun n whole u hmem => hmarks n whole u (List.mem_cons_of_mem cell hmem)
    cases cell with
    | url u => cases hcovered
    | char c =>
      rw [sourceText_char] at htoken ⊢
      have hrest : NoToken (sourceText cells) := fun n h => htoken n (List.infix_cons h)
      rw [render_cons, Cell.text, List.singleton_append, restore_miss, ih hcovered' hrest hmarks']
      intro n hfront
      obtain ⟨rest, hplaceholder, hbracket⟩ := placeholder_eq_cons n
      rw [hplaceholder, List.cons_prefix_cons] at hfront
      obtain ⟨rfl, hfront⟩ := hfront
      apply htoken n
      rw [hplaceholder]
      exact (List.cons_prefix_cons.mpr
        ⟨rfl, prefix_sourceText hcovered' hbracket hfront⟩).isInfix
    | mark n whole u =>
      rw [sourceText_mark] at htoken ⊢
      have hrest : NoToken (sourceText cells) := fun m h =>
        htoken m (h.trans (List.suffix_append u _).isInfix)
      obtain ⟨e, he, hpair⟩ := List.mem_map.mp (hmarks n whole u List.mem_cons_self)
      obtain ⟨rfl, rfl⟩ := Prod.mk.inj hpair
      have hfound : (index.find? fun e' =>
          (placeholder e'.number).isPrefixOf (placeholder e.number ++ render cells)).isSome := by
        rw [List.find?_isSome]
        exact ⟨e, he, List.isPrefixOf_iff_prefix.mpr (List.prefix_append _ _)⟩
      obtain ⟨e', he'⟩ := Option.isSome_iff_exists.mp hfound
      have hnumber : e'.number = e.number := eq_of_placeholder_prefix
        (List.isPrefixOf_iff_prefix.mp (by simpa using List.find?_some he'))
      have hsame : e' = e :=
        List.inj_on_of_nodup_map hnumbers (List.mem_of_find?_eq_some he') he hnumber
      rw [render_cons, Cell.text, restore_hit he' hnumber, hsame, ih hcovered' hrest hmarks']

end Restoring

/-! ## The index -/

def pairsOf (index : List LinkIndex) : List (Text × Nat) := index.map fun e => (e.url, e.number)

/-- The entries are numbered from one. -/
def Numbered (index : List LinkIndex) : Prop :=
  index.map LinkIndex.number = List.range' 1 index.length

theorem numbered_initialIndex (extractedLinks : List ExtractedLink) :
    Numbered (initialIndex extractedLinks) := by
  unfold Numbered initialIndex
  apply List.ext_getElem
  · simp
  · intro i hi _
    simp [Nat.add_comm]

variable {index : List LinkIndex}

theorem Numbered.snoc (h : Numbered index) (url : Text) :
    Numbered (index ++ [⟨index.length + 1, url, none⟩]) := by
  unfold Numbered at h ⊢
  rw [List.map_append, h, List.length_append, List.length_singleton, List.range'_concat]
  simp [Nat.add_comm]

theorem Numbered.nodup (h : Numbered index) :
    (index.map LinkIndex.number).Nodup := by
  rw [h]
  exact List.nodup_range'

theorem url_mem_of_mem_initialIndex {e : LinkIndex}
    (h : e ∈ initialIndex extractedLinks) : e.url ∈ extractedLinks.map ExtractedLink.url := by
  obtain ⟨i, hi, rfl⟩ := List.mem_mapIdx.mp h
  exact List.mem_map.mpr ⟨extractedLinks[i], List.getElem_mem hi, rfl⟩

theorem mem_pairsOf_of_mem_sortedUrls {entry : Text × Nat}
    (h : entry ∈ sortedUrls extractedLinks) : entry ∈ pairsOf (initialIndex extractedLinks) :=
  OrderedMap.mem_of_mem_ofList (List.mem_mergeSort.mp h)

theorem mem_urlsOf {u : Text} : u ∈ urlsOf cells ↔ .url u ∈ cells := by
  unfold urlsOf
  rw [List.mem_filterMap]
  constructor
  · intro h
    obtain ⟨cell, hcell, hu⟩ := h
    cases cell with
    | url v => exact Option.some.inj hu ▸ hcell
    | char c => cases hu
    | mark n whole v => cases hu
  · exact fun h => ⟨_, h, rfl⟩

theorem Aligned.bareUrlHere_of_mem {u : Text} (h : Aligned cells)
    (hu : u ∈ urlsOf cells) : bareUrlHere u = some u := by
  induction h with
  | nil => cases hu
  | char _ _ ih => exact ih hu
  | mark _ ih => exact ih hu
  | @url v cells hurl _ ih =>
    rcases List.mem_cons.mp hu with rfl | hu
    · exact bareUrlHere_self hurl
    · exact ih hu

theorem mem_urlsOf_cover {entry : Text × Nat} {v : Text}
    (h : v ∈ urlsOf (cells.map (coverUrl entry))) : v ∈ urlsOf cells ∧ v ≠ entry.1 := by
  obtain ⟨cell, hcell, hcover⟩ := List.mem_map.mp (mem_urlsOf.mp h)
  cases cell with
  | char c => cases hcover
  | mark n whole u => cases hcover
  | url u =>
    by_cases hu : u = entry.1
    · rw [coverUrl, if_pos hu] at hcover
      cases hcover
    · rw [coverUrl, if_neg hu] at hcover
      obtain rfl := Cell.url.inj hcover
      exact ⟨mem_urlsOf.mpr hcell, hu⟩

/-! ## The URLs that are found -/

/-- What the loop over the URLs that were found keeps. -/
structure Covers (source : List Cell) (extras : List Text) (cells : List Cell)
    (index : List LinkIndex) : Prop where
  aligned : Aligned cells
  before : cells.flatMap Cell.before = source
  left : ∀ v ∈ urlsOf cells, v ∈ extras
  marks : MarksIn (pairsOf index) cells
  numbered : Numbered index

theorem Covers.step {source cells : List Cell} {u : Text} {extras : List Text}
    (h : Covers source (u :: extras) cells index) :
    Covers source extras (cells.map (coverUrl (u, index.length + 1)))
      (index ++ [⟨index.length + 1, u, none⟩]) where
  aligned := h.aligned.cover
  before := (before_map_coverUrl cells).trans h.before
  left v hv := by
    obtain ⟨hmem, hne⟩ := mem_urlsOf_cover hv
    exact (List.mem_cons.mp (h.left v hmem)).resolve_left hne
  marks := by
    refine MarksIn.cover ?_ (by simp [pairsOf])
    intro n whole v hmark
    rw [pairsOf, List.map_append]
    exact List.mem_append_left _ (h.marks n whole v hmark)
  numbered := h.numbered.snoc u

/-- Every URL that was found is covered by the loop. -/
theorem foldl_addExtra {source cells : List Cell} {extras : List Text}
    (h : Covers source extras cells index) (hextras : ∀ u ∈ extras, bareUrlHere u = some u)
    (hapart : extras.Pairwise fun earlier later => ¬ earlier <:+: later) :
    ∃ cells', (extras.foldl addExtra (render cells, index)).1 = render cells' ∧
      Covers source [] cells' (extras.foldl addExtra (render cells, index)).2 ∧
      ∀ e ∈ (extras.foldl addExtra (render cells, index)).2, e ∈ index ∨ e.url ∈ extras := by
  induction extras generalizing cells index with
  | nil => exact ⟨cells, rfl, h, fun e he => .inl he⟩
  | cons u extras ih =>
    obtain ⟨hu, hextras⟩ := List.forall_mem_cons.mp hextras
    obtain ⟨hfirst, hapart⟩ := List.pairwise_cons.mp hapart
    have hpass := replacePass_of_aligned (n := index.length + 1) h.aligned hu fun v hv hne =>
      hfirst v ((List.mem_cons.mp (h.left v hv)).resolve_left hne)
    have hadd : addExtra (render cells, index) u =
        (render (cells.map (coverUrl (u, index.length + 1))),
          index ++ [⟨index.length + 1, u, none⟩]) := by
      rw [addExtra, hpass]
    rw [List.foldl_cons, hadd]
    obtain ⟨cells', hrender, hcovers, hindex⟩ := ih h.step hextras hapart
    refine ⟨cells', hrender, hcovers, fun e he => ?_⟩
    rcases hindex e he with hold | hnew
    · rcases List.mem_append.mp hold with hold | hlast
      · exact .inl hold
      · rw [List.mem_singleton.mp hlast]
        exact .inr List.mem_cons_self
    · exact .inr (List.mem_cons_of_mem u hnew)

/-- A redaction whose replacements keep to whole URLs is exact. -/
theorem exact_of_separable {body : Text} {extractedLinks : List ExtractedLink}
    (h : Separable body extractedLinks) :
    Exact body extractedLinks (redactUrls body extractedLinks) := by
  have hlinks : (sortedUrls extractedLinks).foldl replacePass body =
      render (markedLinks body extractedLinks) := by
    rw [markedLinks, ← foldl_replacePass h.faithful, render_cutUrls]
  have hbefore : (markedLinks body extractedLinks).flatMap Cell.before = cutUrls body := by
    rw [markedLinks, before_foldl_markPass]
    exact (cutFrom_spec 0 body).2.2
  have hmarks : MarksIn (pairsOf (initialIndex extractedLinks)) (markedLinks body extractedLinks) :=
    marksIn_foldl_markPass (marksIn_cutFrom 0 body) fun entry => mem_pairsOf_of_mem_sortedUrls
  have hcovers : Covers (cutUrls body) (urlsOf (markedLinks body extractedLinks)).eraseDups
      (markedLinks body extractedLinks) (initialIndex extractedLinks) :=
    ⟨h.aligned, hbefore, fun v => List.mem_eraseDups.mpr, hmarks, numbered_initialIndex _⟩
  obtain ⟨cells, hrender, hfinal, hindex⟩ := foldl_addExtra hcovers
    (fun u hu => h.aligned.bareUrlHere_of_mem (List.mem_eraseDups.mp hu)) h.apart
  have hresult : redactUrls body extractedLinks =
      (urlsOf (markedLinks body extractedLinks)).eraseDups.foldl addExtra
        (render (markedLinks body extractedLinks), initialIndex extractedLinks) := by
    rw [redactUrls, hlinks, h.aligned.bareUrls_render]
  rw [← hresult] at hrender hfinal hindex
  have hcovered : urlsOf cells = [] :=
    List.eq_nil_iff_forall_not_mem.mpr fun v hv => absurd (hfinal.left v hv) (by simp)
  have hsource : sourceText cells = body := by
    rw [sourceText, hfinal.before, render_cutUrls]
  refine ⟨?_, ?_, ?_, ?_, ?_⟩
  · have hnodup := hfinal.numbered.nodup.map fun _ _ => placeholder_injective
    rwa [List.map_map] at hnodup
  · intro e he
    rcases hindex e he with hold | hnew
    · exact .inl (url_mem_of_mem_initialIndex hold)
    · refine .inr ?_
      have hcell := mem_urlsOf.mp (List.mem_eraseDups.mp hnew)
      have hsourceCell : .url e.url ∈ cutUrls body :=
        hbefore ▸ List.mem_flatMap.mpr ⟨_, hcell, List.mem_singleton_self _⟩
      rw [← render_cutUrls body, (aligned_cutUrls body).bareUrls_render]
      exact mem_urlsOf.mpr hsourceCell
  · rw [hrender, hfinal.aligned.bareUrls_render, hcovered]
  · refine ⟨cells, hrender.symm, hfinal.before, hcovered, ?_⟩
    intro n whole u hmark
    obtain ⟨e, he, hpair⟩ := List.mem_map.mp (hfinal.marks n whole u hmark)
    obtain ⟨rfl, rfl⟩ := Prod.mk.inj hpair
    exact ⟨e, he, rfl, rfl⟩
  · intro htoken
    rw [hrender, restore_render hcovered (hsource.symm ▸ htoken) hfinal.numbered.nodup hfinal.marks,
      hsource]

def longerUrl : Text := httpScheme ++ ['a', '/', 'x']

theorem longerUrl_exact :
    Exact longerUrl [⟨longerUrl, none⟩] (redactUrls longerUrl [⟨longerUrl, none⟩]) := by
  have hsorted : sortedUrls [⟨longerUrl, none⟩] = [(longerUrl, 1)] := by decide +kernel
  have hmarked : markedLinks longerUrl [⟨longerUrl, none⟩] = [.mark 1 true longerUrl] := by
    decide +kernel
  apply exact_of_separable
  refine ⟨?_, ?_, ?_⟩
  · rw [hsorted]
    exact ⟨by decide +kernel, trivial⟩
  · rw [hmarked]
    exact .mark .nil
  · rw [hmarked]
    exact .nil

/-! ## A listed URL that begins another one -/

def listedUrl : ExtractedLink := ⟨httpScheme ++ ['a'], none⟩

/-- The placeholder of the listed URL takes the place of the beginning of the other one, which
gets no entry. -/
theorem longerUrl_cut :
    (redactUrls longerUrl [listedUrl]).1 = placeholder 1 ++ ['/', 'x'] ∧
      ¬ Exact longerUrl [listedUrl] (redactUrls longerUrl [listedUrl]) := by
  have hindex : (redactUrls longerUrl [listedUrl]).2.map LinkIndex.url = [listedUrl.url] := by
    decide +kernel
  have hcells : cutUrls longerUrl = [.url longerUrl] := by decide +kernel
  refine ⟨by decide +kernel, fun hexact => ?_⟩
  obtain ⟨cells, hredacts⟩ := hexact.replaced
  have hmem : Cell.url longerUrl ∈ cells.flatMap Cell.before := by
    rw [hredacts.before, hcells]
    exact List.mem_singleton_self _
  obtain ⟨cell, hcell, hbefore⟩ := List.mem_flatMap.mp hmem
  cases cell with
  | char c => simp [Cell.before] at hbefore
  | url u =>
    have hleft := mem_urlsOf.mpr hcell
    rw [hredacts.covered] at hleft
    cases hleft
  | mark n whole u =>
    cases whole with
    | false => simp [Cell.before] at hbefore
    | true =>
      obtain rfl := Cell.url.inj (List.mem_singleton.mp hbefore)
      obtain ⟨e, he, -, hurl⟩ := hredacts.indexed n true longerUrl hcell
      have hlisted : e.url ∈ [listedUrl.url] := hindex ▸ List.mem_map.mpr ⟨e, he, rfl⟩
      rw [hurl] at hlisted
      exact absurd hlisted (by decide)

end SesEmailAdapter.Classifier.UrlRedaction
