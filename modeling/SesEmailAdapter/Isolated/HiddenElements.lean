import Mathlib.Data.List.TakeDrop
import SesEmailAdapter.Email.Address
import SesEmailAdapter.Lib.FencedText
import SesEmailAdapter.Lib.TextMatch

/-! # Hidden elements

The sanitizer removes an element when the text of its inline style, in lower case and without white
space, contains one of a few patterns. What hides an element are its effective declarations: the
last one of each property. A pattern is also found behind a longer property name, before a longer
value, in an overridden declaration and in the text of a value. -/

namespace SesEmailAdapter.Isolated.HiddenElements
open Lib Lib.FencedText Lib.TextMatch
open Email.Address

abbrev Text := List Char

/-! ## Numbers -/

/-- `mantissa * 10 ^ up / 10 ^ down`, with a sign. -/
structure Decimal where
  negative : Bool
  mantissa : Nat
  up : Nat
  down : Nat
deriving DecidableEq

def Decimal.isBelow (d : Decimal) (num den : Nat) : Bool :=
  d.negative || decide (d.mantissa * 10 ^ d.up * den < num * 10 ^ d.down)

def digitsValue (digits : Text) : Nat := digits.foldl (fun n c => 10 * n + (c.toNat - 48)) 0

/-- An optional sign of the list, and whether it is a minus. -/
def dropSign (signs : Text) : Text → Bool × Text
  | [] => (false, [])
  | c :: rest => if signs.contains c then (c == '-', rest) else (false, c :: rest)

/-- `(?:\.\d*)?`, or `(?:\.\d+)?` where a dot needs digits. -/
def dropFraction (bareDot : Bool) : Text → Text × Text
  | '.' :: rest =>
    let digits := rest.takeWhile Char.isDigit
    if digits = [] ∧ bareDot = false then ([], '.' :: rest)
    else (digits, rest.dropWhile Char.isDigit)
  | text => ([], text)

/-- `(?:e[signs]?\d+)?` -/
def dropExponent (signs : Text) : Text → (Bool × Nat) × Text
  | 'e' :: rest =>
    let unsigned := dropSign signs rest
    let digits := unsigned.2.takeWhile Char.isDigit
    if digits = [] then ((false, 0), 'e' :: rest)
    else ((unsigned.1, digitsValue digits), unsigned.2.dropWhile Char.isDigit)
  | text => ((false, 0), text)

/-- The number at the start of a text, and what stands behind it. -/
def numberFrom (signs : Text) (bareDot : Bool) (text : Text) : Option (Decimal × Text) :=
  let unsigned := dropSign signs text
  let whole := unsigned.2.takeWhile Char.isDigit
  let fraction := dropFraction (bareDot && whole ≠ []) (unsigned.2.dropWhile Char.isDigit)
  if whole = [] ∧ fraction.1 = [] then none
  else
    let exponent := dropExponent signs fraction.2
    let power := exponent.1.2
    some ({
      negative := unsigned.1
      mantissa := digitsValue (whole ++ fraction.1)
      up := if exponent.1.1 then 0 else power
      down := fraction.1.length + if exponent.1.1 then power else 0 }, exponent.2)

/-! ## The sanitizer's test -/

def colon (name value : Text) : Text := name ++ ':' :: value

def displayName : Text := ['d', 'i', 's', 'p', 'l', 'a', 'y']

def visibilityName : Text := ['v', 'i', 's', 'i', 'b', 'i', 'l', 'i', 't', 'y']

def opacityName : Text := ['o', 'p', 'a', 'c', 'i', 't', 'y']

def fontSizeName : Text := ['f', 'o', 'n', 't', '-', 's', 'i', 'z', 'e']

def heightName : Text := ['h', 'e', 'i', 'g', 'h', 't']

def widthName : Text := ['w', 'i', 'd', 't', 'h']

def overflowName : Text := ['o', 'v', 'e', 'r', 'f', 'l', 'o', 'w']

def noneWord : Text := ['n', 'o', 'n', 'e']

def hiddenWord : Text := ['h', 'i', 'd', 'd', 'e', 'n']

/-- `-?(?:\d+\.?\d*|\.\d+)(?:e-?\d+)?` at the start of a text. -/
def opacityNumber (text : Text) : Option Decimal := (numberFrom ['-'] true text).map Prod.fst

/-- The opacity pattern at the start of a text. -/
def opacityHere (text : Text) : Option Decimal :=
  let front := opacityName ++ [':']
  if front.isPrefixOf text then opacityNumber (text.drop front.length) else none

def parseOpacity (strippedStyle : Text) : Option Decimal := firstMatch opacityHere strippedStyle

/-- `Number(match) < 0.25`: from `1/4 - 2^-56` on a decimal is rounded to `0.25`. -/
def isBelowMinimum (opacity : Decimal) : Bool := opacity.isBelow (2 ^ 54 - 1) (2 ^ 56)

/-- `style.toLowerCase().replace(/\s/g, "")` -/
def squash (style : Text) : Text := (toLowerCase style).filter (!isSpace ·)

def includes (text pattern : Text) : Bool := somewhere (pattern.isPrefixOf ·) text

/-- Whether an element with this style and as many child elements is removed. -/
def isRemoved (style : Text) (children : Nat) : Bool :=
  let lower := squash style
  includes lower (colon displayName noneWord) ||
  includes lower (colon visibilityName hiddenWord) ||
  (parseOpacity lower).any isBelowMinimum ||
  (includes lower (colon fontSizeName ['0']) && children == 0) ||
  (includes lower (colon heightName ['0']) && includes lower (colon overflowName hiddenWord)) ||
  (includes lower (colon widthName ['0']) && includes lower (colon overflowName hiddenWord))

/-! ## Declarations and what they mean -/

structure Declaration where
  name : Text
  value : Text
  named : ∀ c ∈ name, c ≠ ':' ∧ c ≠ ';'

def Declaration.text (d : Declaration) : Text := colon d.name d.value

def styleText (declarations : List Declaration) : Text :=
  [';'].intercalate (declarations.map Declaration.text)

def Declaration.property (d : Declaration) : Text := trim (toLowerCase d.name)

def importantWord : Text := ['i', 'm', 'p', 'o', 'r', 't', 'a', 'n', 't']

/-- The value without `!important`. -/
def withoutImportant (value : Text) : Text :=
  if importantWord.isSuffixOf value then
    match (value.reverse.drop importantWord.length).dropWhile isSpace with
    | '!' :: rest => (rest.dropWhile isSpace).reverse
    | _ => value
  else value

def Declaration.meaning (d : Declaration) : Text := withoutImportant (trim (toLowerCase d.value))

/-- The value of the last declaration of a property. -/
def effective (declarations : List Declaration) (property : Text) : Option Text :=
  (declarations.reverse.find? fun d => d.property == property).map Declaration.meaning

def cssNumber (text : Text) : Option (Decimal × Text) := numberFrom ['+', '-'] false text

/-- A zero number, with a unit or without. -/
def isZero (value : Text) : Bool :=
  match cssNumber value with
  | some (d, unit) => d.mantissa == 0 && (unit == ['%'] || unit.all Char.isAlpha)
  | none => false

/-- A number or percentage below one quarter. -/
def isFaint (value : Text) : Bool :=
  match cssNumber value with
  | some (d, []) => d.isBelow 1 4
  | some (d, ['%']) => d.isBelow 25 1
  | _ => false

/-- What hides an element, and what the sanitizer looks for. -/
inductive Test
  | display
  | visibility
  | opacity
  | fontSize
  | height
  | width

def Test.Means (children : Nat) (declarations : List Declaration) : Test → Prop
  | .display => effective declarations displayName = some noneWord
  | .visibility => effective declarations visibilityName = some hiddenWord
  | .opacity => (effective declarations opacityName).any isFaint = true
  | .fontSize => (effective declarations fontSizeName).any isZero = true ∧ children = 0
  | .height => (effective declarations heightName).any isZero = true ∧
      effective declarations overflowName = some hiddenWord
  | .width => (effective declarations widthName).any isZero = true ∧
      effective declarations overflowName = some hiddenWord

/-- The effective declarations hide the element. -/
def Hides (children : Nat) (declarations : List Declaration) : Prop :=
  ∃ test : Test, test.Means children declarations

/-! ## How declarations read -/

/-- The name of the declaration ends in `name` and its value begins with `value`, or the value has
both in it. -/
def Declaration.Reads (d : Declaration) (name value : Text) : Prop :=
  name <:+ squash d.name ∧ value <+: squash d.value ∨ colon name value <:+: squash d.value

/-- The number behind a name that ends in `opacity`, or else behind one in the value. -/
def Declaration.opacity (d : Declaration) : Option Decimal :=
  (if opacityName.isSuffixOf (squash d.name) then opacityNumber (squash d.value) else none) <|>
    firstMatch opacityHere (squash d.value)

def Shows (declarations : List Declaration) (name value : Text) : Prop :=
  ∃ d ∈ declarations, d.Reads name value

def Test.Reads (children : Nat) (declarations : List Declaration) : Test → Prop
  | .display => Shows declarations displayName noneWord
  | .visibility => Shows declarations visibilityName hiddenWord
  | .opacity => (declarations.findSome? Declaration.opacity).any isBelowMinimum = true
  | .fontSize => Shows declarations fontSizeName ['0'] ∧ children = 0
  | .height => Shows declarations heightName ['0'] ∧ Shows declarations overflowName hiddenWord
  | .width => Shows declarations widthName ['0'] ∧ Shows declarations overflowName hiddenWord

instance (d : Declaration) (name value : Text) : Decidable (d.Reads name value) :=
  inferInstanceAs (Decidable (_ ∨ _))

instance (declarations : List Declaration) (name value : Text) :
    Decidable (Shows declarations name value) :=
  inferInstanceAs (Decidable (∃ d ∈ declarations, d.Reads name value))

instance (children : Nat) (declarations : List Declaration) :
    (test : Test) → Decidable (test.Reads children declarations)
  | .display => inferInstanceAs (Decidable (Shows _ _ _))
  | .visibility => inferInstanceAs (Decidable (Shows _ _ _))
  | .opacity => inferInstanceAs (Decidable (_ = true))
  | .fontSize => inferInstanceAs (Decidable (Shows _ _ _ ∧ _ = 0))
  | .height => inferInstanceAs (Decidable (Shows _ _ _ ∧ Shows _ _ _))
  | .width => inferInstanceAs (Decidable (Shows _ _ _ ∧ Shows _ _ _))

instance (children : Nat) (declarations : List Declaration) :
    (test : Test) → Decidable (test.Means children declarations)
  | .display => inferInstanceAs (Decidable (effective _ _ = _))
  | .visibility => inferInstanceAs (Decidable (effective _ _ = _))
  | .opacity => inferInstanceAs (Decidable (_ = true))
  | .fontSize => inferInstanceAs (Decidable (_ = true ∧ _ = 0))
  | .height => inferInstanceAs (Decidable (_ = true ∧ effective _ _ = _))
  | .width => inferInstanceAs (Decidable (_ = true ∧ effective _ _ = _))

/-! ## Numbers before a semicolon -/

section Stop
variable {signs text rest : Text} {bareDot : Bool}

theorem isDigit_semicolon : Char.isDigit ';' = false := by decide

theorem takeWhile_stop {p : Char → Bool} (hp : p ';' = false) :
    (text ++ ';' :: rest).takeWhile p = text.takeWhile p := by
  induction text with
  | nil => simp [hp]
  | cons c text ih => simp only [List.cons_append, List.takeWhile_cons, ih]

theorem dropWhile_stop {p : Char → Bool} (hp : p ';' = false) :
    (text ++ ';' :: rest).dropWhile p = text.dropWhile p ++ ';' :: rest := by
  induction text with
  | nil => simp [hp]
  | cons c text ih =>
    simp only [List.cons_append, List.dropWhile_cons, ih]
    split <;> rfl

theorem dropSign_stop (hsigns : ';' ∉ signs) :
    dropSign signs (text ++ ';' :: rest) =
      ((dropSign signs text).1, (dropSign signs text).2 ++ ';' :: rest) := by
  cases text with
  | nil => simp [dropSign, hsigns]
  | cons c text =>
    simp only [List.cons_append, dropSign]
    split <;> rfl

theorem dropFraction_of_ne {c : Char} (h : c ≠ '.') : dropFraction bareDot (c :: text) =
    ([], c :: text) := by
  simp [dropFraction, h]

theorem dropFraction_stop : dropFraction bareDot (text ++ ';' :: rest) =
    ((dropFraction bareDot text).1, (dropFraction bareDot text).2 ++ ';' :: rest) := by
  cases text with
  | nil => rfl
  | cons c text =>
    by_cases hc : c = '.'
    · rw [hc]
      simp only [List.cons_append, dropFraction, takeWhile_stop isDigit_semicolon,
        dropWhile_stop isDigit_semicolon]
      split <;> rfl
    · rw [List.cons_append, dropFraction_of_ne hc, dropFraction_of_ne hc, List.cons_append]

theorem dropExponent_of_ne {c : Char} (h : c ≠ 'e') : dropExponent signs (c :: text) =
    ((false, 0), c :: text) := by
  simp [dropExponent, h]

theorem dropExponent_stop (hsigns : ';' ∉ signs) : dropExponent signs (text ++ ';' :: rest) =
    ((dropExponent signs text).1, (dropExponent signs text).2 ++ ';' :: rest) := by
  cases text with
  | nil => rfl
  | cons c text =>
    by_cases hc : c = 'e'
    · rw [hc]
      simp only [List.cons_append, dropExponent, dropSign_stop hsigns,
        takeWhile_stop isDigit_semicolon,
        dropWhile_stop isDigit_semicolon]
      split <;> rfl
    · rw [List.cons_append, dropExponent_of_ne hc, dropExponent_of_ne hc, List.cons_append]

/-- A number ends before a semicolon. -/
theorem numberFrom_stop (hsigns : ';' ∉ signs) : numberFrom signs bareDot (text ++ ';' :: rest) =
    (numberFrom signs bareDot text).map fun p => (p.1, p.2 ++ ';' :: rest) := by
  simp only [numberFrom, dropSign_stop hsigns, dropFraction_stop, dropExponent_stop hsigns,
    takeWhile_stop isDigit_semicolon,
    dropWhile_stop isDigit_semicolon]
  split <;> rfl

theorem opacityNumber_stop : opacityNumber (text ++ ';' :: rest) = opacityNumber text := by
  rw [opacityNumber, numberFrom_stop (by decide), Option.map_map]
  rfl

end Stop

/-! ## Patterns in the text of a style -/

section Patterns
variable {name value text rest : Text} {declarations : List Declaration}

theorem includes_iff {pattern : Text} : includes text pattern = true ↔ pattern <:+: text := by
  rw [includes, somewhere_iff]
  constructor
  · intro h
    obtain ⟨before, after, rfl, hfront⟩ := h
    obtain ⟨more, rfl⟩ := List.isPrefixOf_iff_prefix.mp hfront
    exact ⟨before, more, by simp⟩
  · intro h
    obtain ⟨before, after, rfl⟩ := h
    exact ⟨before, pattern ++ after, by simp, by simp [List.isPrefixOf_iff_prefix]⟩

theorem squash_append (text text' : Text) :
    squash (text ++ text') = squash text ++ squash text' := by
  simp [squash, toLowerCase]

theorem squash_colon (name value : Text) :
    squash (colon name value) = colon (squash name) (squash value) := by
  have hcolon : squash (':' :: value) = ':' :: squash value := by
    have hmark : squash [':'] = [':'] := by decide
    rw [← List.singleton_append, squash_append, hmark, List.singleton_append]
  rw [colon, squash_append, hcolon, colon]

/-- The declaration as the sanitizer reads it. -/
def Declaration.squashed (d : Declaration) : Text := colon (squash d.name) (squash d.value)

theorem squash_styleText (declarations : List Declaration) : squash (styleText declarations) =
    [';'].intercalate (declarations.map Declaration.squashed) := by
  have hmark : squash [';'] = [';'] := by decide
  unfold styleText
  induction declarations with
  | nil => rfl
  | cons d declarations ih =>
    have htext : squash d.text = d.squashed := squash_colon d.name d.value
    cases declarations with
    | nil => simpa using htext
    | cons next declarations =>
      simp only [List.map_cons, List.intercalate_cons_cons] at ih ⊢
      rw [squash_append, squash_append, hmark, htext, ih]

theorem Declaration.not_mem_squash_name (d : Declaration) :
    ':' ∉ squash d.name ∧ ';' ∉ squash d.name := by
  have hkeep : ∀ c, c.toNat < 97 → c ∉ d.name → c ∉ squash d.name :=
    fun c hc hmem h => not_mem_toLowerCase hc hmem (List.mem_filter.mp h).1
  exact ⟨hkeep ':' (by decide) fun h => (d.named _ h).1 rfl,
    hkeep ';' (by decide) fun h => (d.named _ h).2 rfl⟩

/-- A name before a colon that begins a text is the whole text before its first colon. -/
theorem colon_prefix_iff {name' value' : Text} (hname : ':' ∉ name) (hname' : ':' ∉ name') :
    colon name value <+: colon name' value' ↔ name = name' ∧ value <+: value' := by
  induction name generalizing name' with
  | nil =>
    cases name' with
    | nil => simp [colon]
    | cons d name' =>
      have hd : ':' ≠ d := fun heq => hname' (heq ▸ List.mem_cons_self)
      simp [colon, hd]
  | cons c name ih =>
    obtain ⟨hc, hname⟩ := not_or.mp fun h => hname (List.mem_cons.mpr h)
    cases name' with
    | nil => simp [colon, Ne.symm hc]
    | cons d name' =>
      obtain ⟨-, hname'⟩ := not_or.mp fun h => hname' (List.mem_cons.mpr h)
      have hrest := ih hname hname'
      simp only [colon] at hrest ⊢
      rw [List.cons_append, List.cons_append, List.cons_prefix_cons, hrest, List.cons.injEq,
        and_assoc]

/-- A pattern with one colon stands across the colon of a declaration or in its value. -/
theorem colon_infix_iff {name' value' : Text} (hne : name ≠ []) (hname : ':' ∉ name)
    (hname' : ':' ∉ name') : colon name value <:+: colon name' value' ↔
      name <:+ name' ∧ value <+: value' ∨ colon name value <:+: value' := by
  induction name' with
  | nil =>
    have hcons : colon name value <+: colon [] value' ↔ name = [] ∧ value <+: value' :=
      colon_prefix_iff hname hname'
    have hempty : colon [] value' = ':' :: value' := rfl
    have hfront : ¬ colon name value <+: ':' :: value' := fun h => hne (hcons.mp h).1
    rw [hempty, List.infix_cons_iff]
    simp [hfront, hne]
  | cons c name' ih =>
    have hcons : colon name value <+: colon (c :: name') value' ↔
        name = c :: name' ∧ value <+: value' := colon_prefix_iff hname hname'
    have hrest := ih fun h => hname' (List.mem_cons_of_mem c h)
    rw [List.suffix_cons_iff, or_and_right, or_assoc, ← hrest, ← hcons]
    exact List.infix_cons_iff

theorem includes_iff_shows (hne : name ≠ []) (hname : ':' ∉ name)
    (hpattern : ';' ∉ colon name value) :
    includes (squash (styleText declarations)) (colon name value) = true ↔
      Shows declarations name value := by
  rw [includes_iff, squash_styleText, infix_intercalate (by simp [colon]) hpattern]
  simp only [List.mem_map, exists_exists_and_eq_and, Shows]
  exact exists_congr fun d => and_congr_right fun _ =>
    colon_infix_iff hne hname d.not_mem_squash_name.1

/-! ## The first opacity -/

theorem opacityHere_stop : opacityHere (text ++ ';' :: rest) = opacityHere text := by
  have hfree : ';' ∉ opacityName ++ [':'] := by decide
  unfold opacityHere
  by_cases hfront : opacityName ++ [':'] <+: text
  · obtain ⟨more, rfl⟩ := hfront
    simp only [List.append_assoc (opacityName ++ [':']), List.drop_left, opacityNumber_stop,
      List.isPrefixOf_iff_prefix, List.prefix_append, if_true]
  · have hfront' : ¬ opacityName ++ [':'] <+: text ++ ';' :: rest :=
      fun h => hfront ((prefix_append_cons hfree).mp h)
    simp only [List.isPrefixOf_iff_prefix, if_neg hfront, if_neg hfront']

theorem firstMatch_opacityHere_stop : firstMatch opacityHere (text ++ ';' :: rest) =
    (firstMatch opacityHere text <|> firstMatch opacityHere rest) := by
  induction text with
  | nil =>
    have hhead : opacityHere ([] ++ ';' :: rest) = none := opacityHere_stop
    rw [List.nil_append] at hhead ⊢
    rw [firstMatch.eq_2, hhead]
    rfl
  | cons c text ih =>
    have hhead : opacityHere ((c :: text) ++ ';' :: rest) = opacityHere (c :: text) :=
      opacityHere_stop
    rw [List.cons_append] at hhead ⊢
    rw [firstMatch, firstMatch, hhead, ih]
    cases opacityHere (c :: text) <;> rfl

theorem opacityHere_colon (hname : ':' ∉ name) : opacityHere (colon name value) =
    if name = opacityName then opacityNumber value else none := by
  have hfront : opacityName ++ [':'] <+: colon name value ↔ name = opacityName := by
    have hiff : colon opacityName [] <+: colon name value ↔ opacityName = name ∧ [] <+: value :=
      colon_prefix_iff (by decide) hname
    rw [eq_comm]
    simpa [colon] using hiff
  have htext : opacityName ++ ':' :: value = (opacityName ++ [':']) ++ value := by simp
  unfold opacityHere
  by_cases heq : name = opacityName
  · rw [if_pos heq, heq, colon, htext]
    simp [List.isPrefixOf_iff_prefix]
  · simp only [List.isPrefixOf_iff_prefix, if_neg heq, if_neg fun h => heq (hfront.mp h)]

theorem firstMatch_opacityHere_colon (hname : ':' ∉ name) :
    firstMatch opacityHere (colon name value) =
      ((if opacityName.isSuffixOf name then opacityNumber value else none) <|>
        firstMatch opacityHere value) := by
  induction name with
  | nil =>
    have hhead : opacityHere (colon [] value) =
        if [] = opacityName then opacityNumber value else none := opacityHere_colon hname
    rw [colon, List.nil_append] at hhead ⊢
    rw [firstMatch, hhead]
    rfl
  | cons c name ih =>
    have hhead : opacityHere (colon (c :: name) value) =
        if c :: name = opacityName then opacityNumber value else none := opacityHere_colon hname
    have hrest := ih fun h => hname (List.mem_cons_of_mem c h)
    rw [colon, List.cons_append] at hhead ⊢
    rw [← colon] at hhead ⊢
    rw [firstMatch, hhead, hrest]
    simp only [List.isSuffixOf_iff_suffix, List.suffix_cons_iff]
    by_cases heq : c :: name = opacityName
    · have hshort : ¬ opacityName <:+ name := by
        intro h
        have hlength := h.length_le
        rw [← heq, List.length_cons] at hlength
        omega
      rw [if_pos heq, if_neg hshort, if_pos (.inl heq.symm)]
      rfl
    · rw [if_neg heq]
      simp only [Ne.symm heq, false_or]
      rfl

theorem parseOpacity_styleText (declarations : List Declaration) :
    parseOpacity (squash (styleText declarations)) =
      declarations.findSome? Declaration.opacity := by
  rw [squash_styleText, parseOpacity]
  induction declarations with
  | nil => rfl
  | cons d declarations ih =>
    have hfirst : firstMatch opacityHere d.squashed = d.opacity :=
      firstMatch_opacityHere_colon d.not_mem_squash_name.1
    cases declarations with
    | nil =>
      simp only [List.map_cons, List.map_nil, List.intercalate_singleton, hfirst,
        List.findSome?_cons, List.findSome?_nil]
      cases d.opacity <;> rfl
    | cons next declarations =>
      rw [List.map_cons, List.map_cons, List.intercalate_cons_cons, List.append_assoc,
        List.singleton_append, firstMatch_opacityHere_stop, hfirst, ← List.map_cons, ih]
      simp only [List.findSome?_cons]
      cases d.opacity <;> rfl

end Patterns

/-! ## What is removed and what is hidden -/

section Verdict
variable {declarations : List Declaration} {children : Nat}

theorem Test.exists_iff {P : Test → Prop} : (∃ test, P test) ↔
    P .display ∨ P .visibility ∨ P .opacity ∨ P .fontSize ∨ P .height ∨ P .width := by
  constructor
  · intro h
    obtain ⟨test, h⟩ := h
    cases test <;> simp [h]
  · intro h
    rcases h with h | h | h | h | h | h <;> exact ⟨_, h⟩

/-- An element is removed when some test reads its declarations as hiding. -/
theorem isRemoved_iff : isRemoved (styleText declarations) children = true ↔
    ∃ test : Test, test.Reads children declarations := by
  have hdisplay : includes (squash (styleText declarations)) (colon displayName noneWord) = true ↔
      Shows declarations displayName noneWord :=
    includes_iff_shows (by decide) (by decide) (by decide)
  have hvisibility : includes (squash (styleText declarations))
      (colon visibilityName hiddenWord) = true ↔ Shows declarations visibilityName hiddenWord :=
    includes_iff_shows (by decide) (by decide) (by decide)
  have hfontSize : includes (squash (styleText declarations)) (colon fontSizeName ['0']) = true ↔
      Shows declarations fontSizeName ['0'] :=
    includes_iff_shows (by decide) (by decide) (by decide)
  have hheight : includes (squash (styleText declarations)) (colon heightName ['0']) = true ↔
      Shows declarations heightName ['0'] :=
    includes_iff_shows (by decide) (by decide) (by decide)
  have hwidth : includes (squash (styleText declarations)) (colon widthName ['0']) = true ↔
      Shows declarations widthName ['0'] :=
    includes_iff_shows (by decide) (by decide) (by decide)
  have hoverflow : includes (squash (styleText declarations)) (colon overflowName hiddenWord) =
      true ↔ Shows declarations overflowName hiddenWord :=
    includes_iff_shows (by decide) (by decide) (by decide)
  rw [Test.exists_iff]
  simp only [isRemoved, parseOpacity_styleText, Bool.or_eq_true, Bool.and_eq_true, beq_iff_eq,
    hdisplay, hvisibility, hfontSize, hheight, hwidth, hoverflow, Test.Reads, or_assoc]

/-- The sanitizer is right about an element when each test reads the declarations as they are
meant. Where the verdict rests on one test, it is right only then. -/
theorem isRemoved_iff_hides (declarations : List Declaration) (children : Nat) :
    ((∀ test : Test, test.Reads children declarations ↔ test.Means children declarations) →
      (isRemoved (styleText declarations) children = true ↔ Hides children declarations)) ∧
    ∀ test : Test, (∀ other : Test, other ≠ test →
        ¬ other.Reads children declarations ∧ ¬ other.Means children declarations) →
      ((isRemoved (styleText declarations) children = true ↔ Hides children declarations) ↔
        (test.Reads children declarations ↔ test.Means children declarations)) := by
  refine ⟨fun hagree => ?_, fun test hother => ?_⟩
  · rw [isRemoved_iff, Hides]
    exact exists_congr hagree
  · have hreads : (∃ t : Test, t.Reads children declarations) ↔
        test.Reads children declarations := by
      refine ⟨fun h => ?_, fun h => ⟨test, h⟩⟩
      obtain ⟨t, ht⟩ := h
      by_cases heq : t = test
      · exact heq ▸ ht
      · exact absurd ht (hother t heq).1
    have hmeans : Hides children declarations ↔ test.Means children declarations := by
      refine ⟨fun h => ?_, fun h => ⟨test, h⟩⟩
      obtain ⟨t, ht⟩ := h
      by_cases heq : t = test
      · exact heq ▸ ht
      · exact absurd ht (hother t heq).2
    rw [isRemoved_iff, hreads, hmeans]

end Verdict

/-! ## A style that reads as it is meant -/

theorem displayName_named : ∀ c ∈ displayName, c ≠ ':' ∧ c ≠ ';' := by simp [displayName]

def hiddenStyle : List Declaration := [⟨displayName, noneWord, displayName_named⟩]

theorem hiddenStyle_removed : isRemoved (styleText hiddenStyle) 1 = true ↔ Hides 1 hiddenStyle := by
  refine (isRemoved_iff_hides hiddenStyle 1).1 fun test => ?_
  cases test <;> decide +kernel

/-! ## A font size in fractions -/

theorem fontSizeName_named : ∀ c ∈ fontSizeName, c ≠ ':' ∧ c ≠ ';' := by simp [fontSizeName]

/-- `font-size:0.9em` -/
def smallPrint : List Declaration := [⟨fontSizeName, ['0', '.', '9', 'e', 'm'], fontSizeName_named⟩]

/-- An element with small print and no child elements is removed, though it is not hidden. -/
theorem smallPrint_lost : isRemoved (styleText smallPrint) 0 = true ∧ ¬ Hides 0 smallPrint := by
  refine ⟨by decide +kernel, fun h => ?_⟩
  obtain ⟨test, h⟩ := h
  revert h
  cases test <;> decide +kernel

end SesEmailAdapter.Isolated.HiddenElements
