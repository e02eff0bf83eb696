import Mathlib.Algebra.Group.Nat.Defs
import SesEmailAdapter.Lib.TextCodec

/-! # JSON texts

Reads a text as a JSON value: the text is cut into tokens character by character, and the tokens
are put together on a stack of the values that are still open. Both passes keep their whole state
in one value, so neither can run forever. -/

namespace SesEmailAdapter.Lib

/-- The number `digits * 10 ^ exponent`, below zero when `negative`. -/
structure Decimal where
  negative : Bool
  digits : Nat
  exponent : Int
deriving DecidableEq, Repr

/-- The number is read as zero: so is everything up to half of the least positive double. -/
def Decimal.isZero (d : Decimal) : Bool :=
  match d.exponent with
  | .ofNat _ => d.digits == 0
  | .negSucc n => d.digits * 2 ^ 1075 ≤ 10 ^ (n + 1)

/-- A JSON value. The members of an object are listed with the last one first, as a later member
takes the place of an earlier one with its name. -/
inductive Json
  | null
  | bool (b : Bool)
  | num (d : Decimal)
  | str (s : String)
  | arr (elems : List Json)
  | obj (members : List (String × Json))

namespace Json

/-- Whether the value counts as true in a condition. -/
def truthy : Json → Bool
  | .null => false
  | .bool b => b
  | .num d => !d.isZero
  | .str s => s != ""
  | .arr _ | .obj _ => true

/-! ## Tokens -/

inductive Token
  | openArray | closeArray | openObject | closeObject | colon | comma
  | value (v : Json)

/-- The code units and code points of a string literal as characters; half a surrogate pair
has none. -/
def ofUnits : List Nat → List Char
  | hi :: lo :: rest =>
    if 0xD800 ≤ hi ∧ hi ≤ 0xDBFF ∧ 0xDC00 ≤ lo ∧ lo ≤ 0xDFFF then
      Char.ofNat (0x10000 + (hi - 0xD800) * 0x400 + (lo - 0xDC00)) :: ofUnits rest
    else (if hi.isValidChar then Char.ofNat hi else '\uFFFD') :: ofUnits (lo :: rest)
  | [u] => [if u.isValidChar then Char.ofNat u else '\uFFFD']
  | [] => []

/-- `-? int frac? exp?` -/
def readNumber (text : List Char) : Option Decimal := do
  let negative := text.head? == some '-'
  let text := if negative then text.tail else text
  let int := text.takeWhile Char.isDigit
  let (frac, rest) := match text.dropWhile Char.isDigit with
    | '.' :: rest => (some (rest.takeWhile Char.isDigit), rest.dropWhile Char.isDigit)
    | rest => (none, rest)
  let exponent ← match rest with
    | [] => some 0
    | e :: rest =>
      if e ≠ 'e' ∧ e ≠ 'E' then none
      else
        let sign := rest.head?
        let digits := if sign = some '-' ∨ sign = some '+' then rest.tail else rest
        if digits = [] ∨ ¬ digits.all Char.isDigit then none
        else
          let size : Nat := (String.ofList digits).toNat?.getD 0
          some (if sign = some '-' then -(size : Int) else size)
  if int = [] ∨ (int.head? = some '0' ∧ int ≠ ['0']) ∨ frac = some [] then none
  else
    let fraction := frac.getD []
    some ⟨negative, (String.ofList (int ++ fraction)).toNat?.getD 0, exponent - fraction.length⟩

def readWord (text : List Char) : Option Json :=
  if text = "null".toList then some .null
  else if text = "true".toList then some (.bool true)
  else if text = "false".toList then some (.bool false)
  else none

/-- What the characters read so far are in the middle of; its own characters come last first. -/
inductive Reading
  | nothing
  | string (units : List Nat)
  | escape (units : List Nat)
  | codeUnit (units : List Nat) (hex : List Char)
  | number (text : List Char)
  | word (text : List Char)

/-- The tokens read, the last one first, and what has been begun. -/
structure Lexer where
  tokens : List Token
  reading : Reading

/-- Ends a number or a word. -/
def Lexer.close (l : Lexer) : Option (List Token) :=
  match l.reading with
  | .nothing => some l.tokens
  | .number text => (readNumber text.reverse).map fun d => .value (.num d) :: l.tokens
  | .word text => (readWord text.reverse).map fun v => .value v :: l.tokens
  | .string _ | .escape _ | .codeUnit _ _ => none

def beginToken (tokens : List Token) (c : Char) : Option Lexer :=
  if c = ' ' ∨ c = '\n' ∨ c = '\r' ∨ c = '\t' then some ⟨tokens, .nothing⟩
  else if c = '[' then some ⟨.openArray :: tokens, .nothing⟩
  else if c = ']' then some ⟨.closeArray :: tokens, .nothing⟩
  else if c = '\x7b' then some ⟨.openObject :: tokens, .nothing⟩
  else if c = '\x7d' then some ⟨.closeObject :: tokens, .nothing⟩
  else if c = ':' then some ⟨.colon :: tokens, .nothing⟩
  else if c = ',' then some ⟨.comma :: tokens, .nothing⟩
  else if c = '"' then some ⟨tokens, .string []⟩
  else if c = '-' ∨ c.isDigit then some ⟨tokens, .number [c]⟩
  else if c.isAlpha then some ⟨tokens, .word [c]⟩
  else none

def unescape (c : Char) : Option Nat :=
  if c = '"' ∨ c = '\\' ∨ c = '/' then some c.toNat
  else if c = 'b' then some 8
  else if c = 'f' then some 12
  else if c = 'n' then some 10
  else if c = 'r' then some 13
  else if c = 't' then some 9
  else none

def hexNumber (digits : List Char) : Option Nat :=
  digits.foldlM (fun n c => (TextCodec.hexValue c).map (n * 16 + ·)) 0

def Lexer.step (l : Lexer) (c : Char) : Option Lexer :=
  match l.reading with
  | .string units =>
    if c = '"' then
      some ⟨.value (.str (String.ofList (ofUnits units.reverse))) :: l.tokens, .nothing⟩
    else if c = '\\' then some ⟨l.tokens, .escape units⟩
    else if c.toNat < 0x20 then none
    else some ⟨l.tokens, .string (c.toNat :: units)⟩
  | .escape units =>
    if c = 'u' then some ⟨l.tokens, .codeUnit units []⟩
    else (unescape c).map fun u => ⟨l.tokens, .string (u :: units)⟩
  | .codeUnit units hex =>
    if hex.length < 3 then some ⟨l.tokens, .codeUnit units (c :: hex)⟩
    else (hexNumber (c :: hex).reverse).map fun u => ⟨l.tokens, .string (u :: units)⟩
  | .number text =>
    if c.isDigit ∨ c ∈ ['.', 'e', 'E', '+', '-'] then some ⟨l.tokens, .number (c :: text)⟩
    else l.close.bind (beginToken · c)
  | .word text =>
    if c.isAlpha then some ⟨l.tokens, .word (c :: text)⟩
    else l.close.bind (beginToken · c)
  | .nothing => beginToken l.tokens c

def tokens (text : String) : Option (List Token) :=
  ((text.toList.foldlM Lexer.step ⟨[], .nothing⟩).bind Lexer.close).map List.reverse

/-! ## Values -/

/-- An array or an object that is still open, with what it holds so far, the last first. -/
inductive Frame
  | array (elems : List Json)
  | object (members : List (String × Json)) (key : String)

/-- What has to come next; the value of `done` is the whole text's. -/
inductive Expect
  | value
  | elementOrClose
  | keyOrClose (members : List (String × Json))
  | key (members : List (String × Json))
  | colon
  | commaOrClose
  | done (v : Json)

structure Builder where
  frames : List Frame
  expect : Expect

/-- A value is complete: the innermost frame takes it. -/
def Builder.deliver (v : Json) : List Frame → Builder
  | [] => ⟨[], .done v⟩
  | .array elems :: frames => ⟨.array (v :: elems) :: frames, .commaOrClose⟩
  | .object members key :: frames => ⟨.object ((key, v) :: members) key :: frames, .commaOrClose⟩

def Builder.beginValue (frames : List Frame) : Token → Option Builder
  | .value v => some (deliver v frames)
  | .openArray => some ⟨.array [] :: frames, .elementOrClose⟩
  | .openObject => some ⟨frames, .keyOrClose []⟩
  | _ => none

def Builder.step (b : Builder) (t : Token) : Option Builder :=
  match b.expect, t, b.frames with
  | .value, t, frames => beginValue frames t
  | .elementOrClose, .closeArray, .array elems :: frames =>
    some (deliver (.arr elems.reverse) frames)
  | .elementOrClose, t, frames => beginValue frames t
  | .keyOrClose members, .closeObject, frames => some (deliver (.obj members) frames)
  | .keyOrClose members, .value (.str key), frames => some ⟨.object members key :: frames, .colon⟩
  | .key members, .value (.str key), frames => some ⟨.object members key :: frames, .colon⟩
  | .colon, .colon, frames => some ⟨frames, .value⟩
  | .commaOrClose, .comma, .array elems :: frames => some ⟨.array elems :: frames, .value⟩
  | .commaOrClose, .closeArray, .array elems :: frames =>
    some (deliver (.arr elems.reverse) frames)
  | .commaOrClose, .comma, .object members _ :: frames => some ⟨frames, .key members⟩
  | .commaOrClose, .closeObject, .object members _ :: frames => some (deliver (.obj members) frames)
  | _, _, _ => none

/-- The value a text is, or `none` for a text that is not JSON. -/
def parse (text : String) : Option Json := do
  let b ← (← tokens text).foldlM Builder.step ⟨[], .value⟩
  match b.expect with
  | .done v => some v
  | _ => none

end Json

end SesEmailAdapter.Lib
