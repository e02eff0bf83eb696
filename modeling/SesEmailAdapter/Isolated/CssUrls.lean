import SesEmailAdapter.Lib.CssTokens

/-! # External urls in CSS

The sanitizer empties what a pattern takes for the external urls of a CSS text. This is right for a
text just when the pattern matches its url tokens with an HTTP(S) value and nothing else, and does
not match again when they are emptied. -/

namespace SesEmailAdapter.Isolated.CssUrls
open Lib.TokenScan Lib.CssTokens Lib.FencedText
open Email.Address

/-! ## The pattern -/

def urlOpening : Text := ['u', 'r', 'l', '(']

def schemes : List Text :=
  [['h', 't', 't', 'p', 's', ':', '/', '/'], ['h', 't', 't', 'p', ':', '/', '/']]

def dropQuote : Text → Text
  | [] => []
  | c :: rest => if c = '\'' ∨ c = '"' then rest else c :: rest

/-- `[^'")]` -/
def isInner (c : Char) : Bool := !(c == '\'' || c == '"' || c == ')')

/-- `/url\(\s*['"]?(https?:\/\/[^'")]+)['"]?\s*\)/i` at the start of a text, and its length. -/
def externalUrlHere (text : Text) : Option Nat :=
  if toLowerCase (text.take urlOpening.length) = urlOpening then
    let behind := dropQuote ((text.drop urlOpening.length).dropWhile isSpace)
    match schemes.find? fun scheme => scheme.isPrefixOf (toLowerCase behind) with
    | none => none
    | some scheme =>
      let rest := behind.drop scheme.length
      let closing := (dropQuote (rest.dropWhile isInner)).dropWhile isSpace
      if rest.takeWhile isInner ≠ [] ∧ closing.head? = some ')' then
        some (text.length + 1 - closing.length)
      else none
  else none

/-- The text cut at the matches of the pattern; the first `skip` characters belong to the match
before. -/
def matchedFrom : Nat → Text → List (Piece Char)
  | _, [] => []
  | skip + 1, _ :: rest => matchedFrom skip rest
  | 0, c :: rest =>
    match externalUrlHere (c :: rest) with
    | some length => .token ((c :: rest).take length) :: matchedFrom (length - 1) rest
    | none => .single c :: matchedFrom 0 rest

def matchedPieces (css : Text) : List (Piece Char) := matchedFrom 0 css

/-- Every match is replaced by `url()`. -/
def stripExternalCssUrls (css : Text) : Text := replaced emptyUrl (matchedPieces css)

/-! ## External url tokens -/

/-- The value begins with `http:` or `https:`, in any case. -/
def isExternal (value : Text) : Bool :=
  ['h', 't', 't', 'p', ':'].isPrefixOf (toLowerCase value) ||
    ['h', 't', 't', 'p', 's', ':'].isPrefixOf (toLowerCase value)

def externalPieces (css : Text) : List (Piece Char) := urlPieces isExternal css

/-- The text with its external url tokens emptied. -/
def emptied (css : Text) : Text := replaced emptyUrl (externalPieces css)

/-- No external url token is left, and nothing but these is changed, also when it is done again. -/
structure Clean (css : Text) : Prop where
  complete : ∀ t, .token t ∉ externalPieces (stripExternalCssUrls css)
  minimal : stripExternalCssUrls css = emptied css
  again : stripExternalCssUrls (stripExternalCssUrls css) = stripExternalCssUrls css

/-! ## Matches -/

/-- A match begins with a letter `u`, and ends with the only closing parenthesis in it. -/
structure IsMatch (t : Text) : Prop where
  closed : Marked ')' t.reverse
  longer : emptyUrl.length < t.length
  opened : ∃ c ∈ ['u', 'U'], t.head? = some c

section Matches
variable {text rest : Text} {n : Nat}

theorem IsMatch.count {t : Text} (h : IsMatch t) : t.count ')' = 1 := by
  rw [← List.count_reverse]
  exact count_of_marked h.closed

theorem IsMatch.getLast {t : Text} (h : IsMatch t) : t.getLast? = some ')' := by
  rw [← List.head?_reverse]
  exact h.closed.head

end Matches

/-! ## The tokens that are emptied -/

section Tokens
variable {css : Text}

end Tokens

/-! ## A quote inside a url -/

end SesEmailAdapter.Isolated.CssUrls
