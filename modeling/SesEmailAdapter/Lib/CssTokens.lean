import SesEmailAdapter.Email.Address
import SesEmailAdapter.Lib.TokenScan

/-! # The url tokens of CSS

A scanner for the tokens `url(…)` of a CSS text, quoted or not, whose value has a given property.
Comments, strings, escapes, names that only end in `url` and malformed tokens are passed over. -/

namespace SesEmailAdapter.Lib.CssTokens
open Lib.TokenScan Email.Address

abbrev Text := List Char

/-! ## Characters -/

def isNewline (c : Char) : Bool := c == '\n' || c == '\r' || c == '\x0c'

def isCssSpace (c : Char) : Bool := c == ' ' || c == '\t' || isNewline c

def isNameChar (c : Char) : Bool := c.isAlphanum || c == '-' || c == '_' || 0x80 ≤ c.toNat

def isNonPrintable (c : Char) : Bool :=
  c.toNat ≤ 0x8 || c.toNat == 0xB || (0xE ≤ c.toNat && c.toNat ≤ 0x1F) || c.toNat == 0x7F

def isHexDigit (c : Char) : Bool :=
  c.isDigit || ('a' ≤ c && c ≤ 'f') || ('A' ≤ c && c ≤ 'F')

def hexDigitValue (c : Char) : Nat :=
  if c.isDigit then c.toNat - '0'.toNat
  else if 'a' ≤ c then c.toNat - 'a'.toNat + 10
  else c.toNat - 'A'.toNat + 10

/-- The character of an escape in hexadecimal digits. -/
def escapedChar (hex : Text) : Char :=
  let code := hex.foldl (fun n c => 16 * n + hexDigitValue c) 0
  if code = 0 ∨ ¬ code.isValidChar then '\uFFFD' else Char.ofNat code

/-! ## States -/

/-- Where no token is pending. -/
inductive Outside
  | plain
  | slash
  | comment
  | commentStar
  | less
  | lessBang
  | lessBangDash
  | string (quote : Char)
  | stringEscaped (quote : Char)
  | hashName
  | hashEscape (digits : Nat)
  | badUrl
  | badUrlEscaped

/-- Where a token is pending. -/
inductive Inside
  | name
  | urlStart
  | urlBare
  | urlBareEnd
  | urlQuoted (quote : Char)
  | urlQuotedEnd

/-- A pending token has a first character; its name or value is kept without escapes, and `escape`
has the digits of an escape that is being read. -/
inductive State
  | outside (mode : Outside)
  | inside (mode : Inside) (first : Char) (more value : Text) (escape : Option Text)

def State.pending : State → Text
  | .outside _ => []
  | .inside _ first more _ _ => first :: more

abbrev Step := List (Piece Char) × State

def urlName : Text := ['u', 'r', 'l']

/-- A character where nothing is pending and no context is open. -/
def plainStep (c : Char) : Step :=
  if c = '/' then ([.single c], .outside .slash)
  else if c = '<' then ([.single c], .outside .less)
  else if c = '"' ∨ c = '\'' then ([.single c], .outside (.string c))
  else if c = '#' ∨ c = '@' then ([.single c], .outside .hashName)
  else if c = '\\' then ([], .inside .name c [] [] (some []))
  else if isNameChar c then ([], .inside .name c [] [c] none)
  else ([.single c], .outside .plain)

/-- A character of a name that is no token of its own. -/
def hashStep (c : Char) : Step :=
  if c = '\\' then ([.single c], .outside (.hashEscape 0))
  else if isNameChar c then ([.single c], .outside .hashName)
  else plainStep c

def outsideStep (mode : Outside) (c : Char) : Step :=
  let next (mode : Outside) : Step := ([.single c], .outside mode)
  match mode with
  | .plain => plainStep c
  | .slash => if c = '*' then next .comment else plainStep c
  | .comment => next (if c = '*' then .commentStar else .comment)
  | .commentStar => next (if c = '/' then .plain else if c = '*' then .commentStar else .comment)
  | .less => if c = '!' then next .lessBang else plainStep c
  | .lessBang => if c = '-' then next .lessBangDash else plainStep c
  | .lessBangDash => if c = '-' then next .plain else hashStep c
  | .string quote =>
    next (if c = quote ∨ isNewline c then .plain
      else if c = '\\' then .stringEscaped quote else .string quote)
  | .stringEscaped quote => next (.string quote)
  | .hashName => hashStep c
  | .hashEscape digits =>
    if isHexDigit c ∧ digits < 6 then next (.hashEscape (digits + 1))
    else if digits = 0 then if isNewline c then plainStep c else next .hashName
    else if isCssSpace c then next .hashName
    else hashStep c
  | .badUrl => next (if c = ')' then .plain else if c = '\\' then .badUrlEscaped else .badUrl)
  | .badUrlEscaped => next .badUrl

/-- What is pending is no token, and the character stands behind it. -/
def flushStep (first : Char) (more : Text) (c : Char) : Step :=
  (singles (first :: more) ++ (plainStep c).1, (plainStep c).2)

/-- What is pending is no token, nor is the character. -/
def dropStep (mode : Outside) (first : Char) (more : Text) (c : Char) : Step :=
  (singles (first :: more ++ [c]), .outside mode)

def closeStep (wanted : Text → Bool) (first : Char) (more value : Text) (c : Char) : Step :=
  if wanted value then ([.token (first :: more ++ [c])], .outside .plain)
  else dropStep .plain first more c

def holdStep (mode : Inside) (first : Char) (more value : Text) (escape : Option Text) (c : Char) :
    Step :=
  ([], .inside mode first (more ++ [c]) value escape)

/-- A character of a value without quotes. -/
def bareStep (wanted : Text → Bool) (first : Char) (more value : Text) (c : Char) : Step :=
  if c = ')' then closeStep wanted first more value c
  else if isCssSpace c then holdStep .urlBareEnd first more value none c
  else if c = '"' ∨ c = '\'' ∨ c = '(' ∨ isNonPrintable c then dropStep .badUrl first more c
  else if c = '\\' then holdStep .urlBare first more value (some []) c
  else holdStep .urlBare first more (value ++ [c]) none c

def insideStep (wanted : Text → Bool) (mode : Inside) (first : Char) (more value : Text)
    (c : Char) : Step :=
  match mode with
  | .name =>
    if c = '\\' then holdStep .name first more value (some []) c
    else if isNameChar c then holdStep .name first more (value ++ [c]) none c
    else if c = '(' ∧ toLowerCase value = urlName then holdStep .urlStart first more [] none c
    else flushStep first more c
  | .urlStart =>
    if isCssSpace c then holdStep .urlStart first more value none c
    else if c = '"' ∨ c = '\'' then holdStep (.urlQuoted c) first more value none c
    else bareStep wanted first more value c
  | .urlBare => bareStep wanted first more value c
  | .urlBareEnd =>
    if isCssSpace c then holdStep .urlBareEnd first more value none c
    else if c = ')' then closeStep wanted first more value c
    else dropStep (if c = '\\' then .badUrlEscaped else .badUrl) first more c
  | .urlQuoted quote =>
    if c = quote then holdStep .urlQuotedEnd first more value none c
    else if isNewline c then dropStep .plain first more c
    else if c = '\\' then holdStep (.urlQuoted quote) first more value (some []) c
    else holdStep (.urlQuoted quote) first more (value ++ [c]) none c
  | .urlQuotedEnd =>
    if isCssSpace c then holdStep .urlQuotedEnd first more value none c
    else if c = ')' then closeStep wanted first more value c
    else flushStep first more c

/-- An escape has up to six hexadecimal digits and a space, or one other character. Before a new
line it is none, but in a string it is left out. -/
def escapeStep (wanted : Text → Bool) (mode : Inside) (first : Char) (more value hex : Text)
    (c : Char) : Step :=
  if isHexDigit c ∧ hex.length < 6 then holdStep mode first more value (some (hex ++ [c])) c
  else if hex = [] then
    if isNewline c then
      match mode with
      | .urlQuoted _ => holdStep mode first more value none c
      | .urlBare => dropStep .badUrl first more c
      | _ => flushStep first more c
    else holdStep mode first more (value ++ [c]) none c
  else if isCssSpace c then holdStep mode first more (value ++ [escapedChar hex]) none c
  else insideStep wanted mode first more (value ++ [escapedChar hex]) c

def step (wanted : Text → Bool) : State → Char → Step
  | .outside mode, c => outsideStep mode c
  | .inside mode first more value none, c => insideStep wanted mode first more value c
  | .inside mode first more value (some hex), c => escapeStep wanted mode first more value hex c

/-- The end of the text closes an open token. -/
def finish (wanted : Text → Bool) : State → List (Piece Char)
  | .outside _ => []
  | .inside .name first more _ _ => singles (first :: more)
  | .inside _ first more value escape =>
    if wanted (value ++ (escape.filter (· ≠ [])).toList.map escapedChar) then
      [.token (first :: more)]
    else singles (first :: more)

/-- The scanner for the url tokens with a wanted value. -/
def scanner (wanted : Text → Bool) : Scanner Char State where
  start := .outside .plain
  step := step wanted
  finish := finish wanted
  pending := State.pending
  closer := ')'

/-- The url tokens with a wanted value, and the characters between them. -/
def urlPieces (wanted : Text → Bool) (css : Text) : List (Piece Char) :=
  (scanner wanted).run (.outside .plain) css

/-! ## What a step does -/

section Moves
variable {wanted : Text → Bool} {first c : Char} {more value : Text} {mode : Inside}

end Moves

/-! ## The empty url -/

def emptyUrl : Text := ['u', 'r', 'l', '(', ')']

section Empty
variable {wanted : Text → Bool} {first c : Char} {more value : Text} {mode : Inside}

end Empty

end SesEmailAdapter.Lib.CssTokens
