import Mathlib.Algebra.GroupWithZero.Nat
import SesEmailAdapter.Email.Address
import SesEmailAdapter.Lib.TextMatch

/-! # The raw email for display

A copy of the raw message in which the bodies of files are replaced by a line that says so, made by
a walk over the lines: a boundary of any multipart begins a part, and the first line that closes
one ends the walk. A message that goes on there, as every nested one does, is cut. -/

namespace SesEmailAdapter.Isolated.RawEmailDisplay
open Lib.TextMatch Email.Address

abbrev Text := List Char

abbrev Line := List Char

/-! ## The patterns -/

/-- `[^";\r\n]` -/
def isValueChar (c : Char) : Bool := !(['"', ';', '\r', '\n'].contains c)

def dropQuote : Text → Text
  | '"' :: rest => rest
  | text => text

/-- A word in any case at the start of a text, and what stands behind it. -/
def dropWord (word text : Text) : Option Text :=
  if toLowerCase (text.take word.length) = word then some (text.drop word.length) else none

/-- `\s*"?([^";\r\n]+)"?`: what is captured, and the rest. Where nothing else is left for the
capture it takes back a space. -/
def capturedHere (text : Text) : Option (Text × Text) :=
  let spaces := text.takeWhile isSpace
  let opened := dropQuote (text.dropWhile isSpace)
  let captured := opened.takeWhile isValueChar
  if captured ≠ [] then some (captured, dropQuote (opened.dropWhile isValueChar))
  else
    (spaces.reverse.find? isValueChar).map fun c =>
      ([c], dropQuote ((spaces.reverse.takeWhile (!isValueChar ·)).reverse ++
        text.dropWhile isSpace))

def boundaryWord : Text := ['b', 'o', 'u', 'n', 'd', 'a', 'r', 'y']

def filenameWord : Text := ['f', 'i', 'l', 'e', 'n', 'a', 'm', 'e']

def nameWord : Text := ['n', 'a', 'm', 'e']

/-- What stands behind an equals sign at the start of a text. -/
def dropEquals : Text → Option Text
  | '=' :: rest => some rest
  | _ => none

def dropStar : Text → Text
  | '*' :: rest => rest
  | text => text

/-- `/boundary\s*=\s*"?([^";\r\n]+)"?/i`, with its length. -/
def boundaryHere (text : Text) : Option (Text × Nat) := do
  let value ← dropEquals ((← dropWord boundaryWord text).dropWhile isSpace)
  let (captured, rest) ← capturedHere value
  return (captured, text.length - rest.length)

/-- `/filename\*?=/i` -/
def filenameEquals (text : Text) : Option Text := do
  dropEquals (dropStar (← dropWord filenameWord text))

/-- `/name\s*=/i` -/
def nameEquals (text : Text) : Option Text := do
  dropEquals ((← dropWord nameWord text).dropWhile isSpace)

def isWordChar (c : Char) : Bool := c.isAlphanum || c == '_'

/-- `[^\r\n]*\b` and a word behind it; `before` is the character before the text. -/
def onLine (word : Text → Bool) (before : Char) : Text → Bool
  | [] => word []
  | c :: rest => (!isWordChar before && word (c :: rest)) ||
    (c ≠ '\r' && c ≠ '\n' && onLine word c rest)

/-- The field name stands somewhere in the text, with a match behind it. -/
def fieldTest (field : Text) (behind : Text → Bool) (headerText : Text) : Bool :=
  somewhere (fun text => (dropWord field text).any behind) headerText

def dispositionField : Text :=
  ['c', 'o', 'n', 't', 'e', 'n', 't', '-',
    'd', 'i', 's', 'p', 'o', 's', 'i', 't', 'i', 'o', 'n', ':']

def typeField : Text := ['c', 'o', 'n', 't', 'e', 'n', 't', '-', 't', 'y', 'p', 'e', ':']

def inlineWord : Text := ['i', 'n', 'l', 'i', 'n', 'e']

def attachmentWord : Text := ['a', 't', 't', 'a', 'c', 'h', 'm', 'e', 'n', 't']

def imageWord : Text := ['i', 'm', 'a', 'g', 'e', '/']

def spacedWord (word text : Text) : Bool := (dropWord word (text.dropWhile isSpace)).isSome

def isInlineImage (headerText : Text) : Bool :=
  fieldTest dispositionField (spacedWord inlineWord) headerText &&
    fieldTest typeField (spacedWord imageWord) headerText

def isFilePart (headerText : Text) : Bool :=
  fieldTest dispositionField (spacedWord attachmentWord) headerText ||
  fieldTest dispositionField (onLine (fun text => (filenameEquals text).isSome) ':') headerText ||
  fieldTest typeField (onLine (fun text => (nameEquals text).isSome) ':') headerText

/-! ## The walk -/

/-- `split(/\r\n|\n/)` -/
def splitLines : Text → List Line
  | [] => [[]]
  | '\r' :: '\n' :: rest => [] :: splitLines rest
  | '\n' :: rest => [] :: splitLines rest
  | c :: rest => (splitLines rest).modifyHead (c :: ·)

def crlf : Text := ['\r', '\n']

def dashes : Text := ['-', '-']

def boundariesOf (raw : Text) : List Text := allMatches boundaryHere raw

/-- `^--(boundary)(--)?\s*$` for one of the boundaries. -/
def isBoundaryLine (boundaries : List Text) (line : Line) : Bool :=
  boundaries.any fun boundary =>
    (dashes ++ boundary).isPrefixOf line &&
      let behind := line.drop (dashes ++ boundary).length
      behind.all isSpace || (dashes.isPrefixOf behind && (behind.drop dashes.length).all isSpace)

/-- Two dashes end the line, but for white space. -/
def isClosing (line : Line) : Bool := dashes.isSuffixOf (line.reverse.dropWhile isSpace).reverse

def maxDisplayInlineImageSize : Nat := 100 * 1024

def maxDisplayInlineTotalSize : Nat := 300 * 1024

/-- `(n / 10).toFixed(1)` -/
def tenthsText (n : Nat) : Text := Nat.toDigits 10 (n / 10) ++ ['.'] ++ Nat.toDigits 10 (n % 10)

/-- `bytes / unit` in tenths, rounded. -/
def tenthsOf (bytes unit : Nat) : Nat := (20 * bytes + unit) / (2 * unit)

def formatBytes (bytes : Nat) : Text :=
  if bytes < 1024 then Nat.toDigits 10 bytes ++ [' ', 'B']
  else if bytes < 1024 * 1024 then tenthsText (tenthsOf bytes 1024) ++ [' ', 'K', 'B']
  else tenthsText (tenthsOf bytes (1024 * 1024)) ++ [' ', 'M', 'B']

/-- The length in code units of the lines. -/
def utf16Length (lines : List Line) : Nat :=
  (lines.flatten.map fun c => if c.toNat < 0x10000 then 1 else 2).foldl (· + ·) 0

/-- `Math.floor(length * 0.75)` -/
def approxBytes (bodyLines : List Line) : Nat := utf16Length bodyLines * 3 / 4

def headerText (headerLines : List Line) : Text := ['\n'].intercalate headerLines

def filenameOf (headerText : Text) : Option Text :=
  firstMatch (fun text => (filenameEquals text).bind fun value =>
    (capturedHere value).map Prod.fst) headerText <|>
  firstMatch (fun text => (nameEquals text).bind fun value =>
    (capturedHere value).map Prod.fst) headerText

def inlineText : Text := "[inline image omitted: exceeds display size limit (~".toList

def attachmentText : Text := "[attachment content omitted".toList

def inlinePlaceholder (bytes : Nat) : Line := inlineText ++ formatBytes bytes ++ [')', ']']

def attachmentPlaceholder (filename : Option Text) (bytes : Nat) : Line :=
  attachmentText ++ (filename.map ([':', ' '] ++ ·)).getD [] ++
    [' ', '(', '~'] ++ formatBytes bytes ++ [')', ']']

/-- What a part is for the display. -/
inductive Kind
  | inlineImage
  | file
  | other
deriving DecidableEq

/-- What the header lines of a part say it is, as the patterns read them. -/
def kindOf (headerLines : List Line) : Kind :=
  if isInlineImage (headerText headerLines) then .inlineImage
  else if isFilePart (headerText headerLines) then .file
  else .other

def isBlank (line : Line) : Bool := line.all isSpace

/-- A part's body as it is shown, and what is left of the budget for inline images. -/
def displayBody (kind : List Line → Kind) (budget : Nat) (headerLines bodyLines : List Line) :
    List Line × Nat :=
  if bodyLines.all isBlank then (bodyLines, budget)
  else
    let bytes := approxBytes bodyLines
    match kind headerLines with
    | .inlineImage =>
      if bytes ≤ maxDisplayInlineImageSize ∧ bytes ≤ budget then (bodyLines, budget - bytes)
      else ([inlinePlaceholder bytes, []], budget)
    | .file => ([attachmentPlaceholder (filenameOf (headerText headerLines)) bytes, []], budget)
    | .other => (bodyLines, budget)

/-- The lines up to the next boundary line: header lines, an empty line and the body. -/
def displayPart (kind : List Line → Kind) (budget : Nat) (content : List Line) :
    List Line × Nat :=
  let headerLines := content.takeWhile (· ≠ [])
  let rest := content.dropWhile (· ≠ [])
  let body := displayBody kind budget headerLines (rest.drop 1)
  (headerLines ++ rest.take 1 ++ body.1, body.2)

/-- The lines before the first boundary line, and each boundary line with the lines up to the next
one. -/
def sections (isBoundary : Line → Bool) : List Line → List Line × List (Line × List Line)
  | [] => ([], [])
  | line :: lines =>
    let rest := sections isBoundary lines
    if isBoundary line then ([], (line, rest.1) :: rest.2) else (line :: rest.1, rest.2)

/-- The walk over the parts ends at the first closing boundary. -/
def displayParts (kind : List Line → Kind) : Nat → List (Line × List Line) → List Line
  | _, [] => []
  | budget, (boundaryLine, content) :: rest =>
    if isClosing boundaryLine then [boundaryLine]
    else
      let part := displayPart kind budget content
      boundaryLine :: part.1 ++ displayParts kind part.2 rest

def displayLines (isBoundary : Line → Bool) (lines : List Line) : List Line :=
  let parts := sections isBoundary lines
  parts.1 ++ displayParts kindOf maxDisplayInlineTotalSize parts.2

def buildDisplayRawEmail (raw : Text) : Text :=
  let boundaries := boundariesOf raw
  if boundaries = [] then raw
  else crlf.intercalate (displayLines (isBoundaryLine boundaries) (splitLines raw))

/-! ## What headers declare -/

def isContinuation (line : Line) : Bool :=
  match line with
  | c :: _ => c == ' ' || c == '\t'
  | [] => false

/-- The unfolded lines behind the continuation of a line before them. -/
def unfoldFrom : List Line → Text × List Line
  | [] => ([], [])
  | line :: lines =>
    let rest := unfoldFrom lines
    if isContinuation line then (line ++ rest.1, rest.2) else ([], (line ++ rest.1) :: rest.2)

def unfolded (headerLines : List Line) : List Line := (unfoldFrom headerLines).2

/-- The values of a field in any case. -/
def fieldValues (name : Text) (headerLines : List Line) : List Text :=
  (unfolded headerLines).filterMap fun line =>
    let front := line.takeWhile (· ≠ ':')
    if toLowerCase (trim front) = name then some (line.drop (front.length + 1)) else none

/-- The pieces between semicolons that are not quoted. -/
def splitParameters : Bool → Text → List Text
  | _, [] => [[]]
  | true, '\\' :: c :: rest => (splitParameters true rest).modifyHead ('\\' :: c :: ·)
  | quoted, c :: rest =>
    if c = '"' then (splitParameters (!quoted) rest).modifyHead (c :: ·)
    else if c = ';' ∧ quoted = false then [] :: splitParameters false rest
    else (splitParameters quoted rest).modifyHead (c :: ·)

def mainValue (value : Text) : Text :=
  toLowerCase (trim ((splitParameters false value).headD []))

/-- Whether a parameter is given, whole or in numbered or extended pieces. -/
def hasParameter (name value : Text) : Bool :=
  (splitParameters false value).tail.any fun parameter => parameter.contains '=' &&
    toLowerCase (trim (parameter.takeWhile fun c => c ≠ '=' ∧ c ≠ '*')) == name

/-- What the unfolded fields of a part declare it to be. -/
def declaredKind (headerLines : List Line) : Kind :=
  let dispositions := fieldValues dispositionField.dropLast headerLines
  let types := fieldValues typeField.dropLast headerLines
  if (dispositions.any fun value => mainValue value == inlineWord) &&
      types.any fun value => imageWord.isPrefixOf (mainValue value) then .inlineImage
  else if (dispositions.any fun value =>
        mainValue value == attachmentWord || hasParameter filenameWord value) ||
      types.any fun value => hasParameter nameWord value then .file
  else .other

/-! ## Messages -/

/-- The header lines of a part; the first empty line ends them. -/
abbrev HeaderLines := { lines : List Line // ∀ line ∈ lines, line ≠ [] }

/-- The white space behind a boundary. -/
abbrev Padding := { text : Text // text.all isSpace = true }

/-- The parts of a multipart in order, and what follows its closing boundary. A part is a leaf,
perhaps without a body, or a multipart with its own boundary. -/
inductive Parts
  | close (padding : Padding) (epilogue : List Line)
  | leaf (padding : Padding) (headers : HeaderLines) (body : Option (List Line)) (next : Parts)
  | multi (padding : Padding) (headers : HeaderLines) (boundary : Text) (preamble : List Line)
      (inner next : Parts)

inductive Message
  | single (lines : List Line)
  | multipart (headers : HeaderLines) (boundary : Text) (preamble : List Line) (parts : Parts)

def opening (boundary : Text) (padding : Padding) : Line := dashes ++ boundary ++ padding.1

def closing (boundary : Text) (padding : Padding) : Line :=
  dashes ++ boundary ++ dashes ++ padding.1

/-- An empty line and the body, if there is one. -/
def bodyPart (body : Option (List Line)) : List Line := (body.map ([] :: ·)).getD []

def Parts.lines (boundary : Text) : Parts → List Line
  | .close padding epilogue => closing boundary padding :: epilogue
  | .leaf padding headers body next =>
    opening boundary padding :: (headers.1 ++ bodyPart body ++ next.lines boundary)
  | .multi padding headers inside preamble inner next =>
    opening boundary padding ::
      (headers.1 ++ [] :: preamble ++ (inner.lines inside ++ next.lines boundary))

def Message.lines : Message → List Line
  | .single lines => lines
  | .multipart headers boundary preamble parts =>
    headers.1 ++ [] :: preamble ++ parts.lines boundary

/-- The lines with each body as it is to be shown, and what is left of the budget. -/
def Parts.shown (kind : List Line → Kind) (boundary : Text) (budget : Nat) :
    Parts → List Line × Nat
  | .close padding epilogue => (closing boundary padding :: epilogue, budget)
  | .leaf padding headers body next =>
    let part := displayBody kind budget headers.1 (body.getD [])
    let rest := next.shown kind boundary part.2
    (opening boundary padding :: (headers.1 ++ bodyPart (body.map fun _ => part.1) ++ rest.1),
      rest.2)
  | .multi padding headers inside preamble inner next =>
    let nested := inner.shown kind inside budget
    let rest := next.shown kind boundary nested.2
    (opening boundary padding :: (headers.1 ++ [] :: preamble ++ (nested.1 ++ rest.1)), rest.2)

/-- The message with the bodies replaced of the parts that are declared to be files. -/
def Message.shown : Message → List Line
  | .single lines => lines
  | .multipart headers boundary preamble parts =>
    headers.1 ++ [] :: preamble ++ (parts.shown declaredKind boundary maxDisplayInlineTotalSize).1

/-! ## When the walk follows the message -/

section Conditions
variable (isBoundary : Line → Bool)

def Plain (lines : List Line) : Prop := ∀ line ∈ lines, isBoundary line = false

/-- The boundary lines are those of the multiparts, and the closing ones are told apart. -/
def Parts.Found (boundary : Text) : Parts → Prop
  | .close padding epilogue =>
      isBoundary (closing boundary padding) = true ∧ isClosing (closing boundary padding) = true ∧
      Plain isBoundary epilogue
  | .leaf padding headers body next =>
      isBoundary (opening boundary padding) = true ∧
      isClosing (opening boundary padding) = false ∧
      Plain isBoundary (headers.1 ++ bodyPart body) ∧ next.Found boundary
  | .multi padding headers inside preamble inner next =>
      isBoundary (opening boundary padding) = true ∧
      isClosing (opening boundary padding) = false ∧
      Plain isBoundary (headers.1 ++ [] :: preamble) ∧ inner.Found inside ∧ next.Found boundary

def Message.Found : Message → Prop
  | .single lines => Plain isBoundary lines
  | .multipart headers boundary preamble parts =>
      Plain isBoundary (headers.1 ++ [] :: preamble) ∧ parts.Found isBoundary boundary

end Conditions

/-- No part is a multipart, and the closing boundary is the last line. -/
def Parts.EndsClosed : Parts → Prop
  | .close _ epilogue => epilogue = []
  | .leaf _ _ _ next => next.EndsClosed
  | .multi _ _ _ _ _ _ => False

def Message.EndsClosed : Message → Prop
  | .single _ => True
  | .multipart _ _ _ parts => parts.EndsClosed

/-- A body of so many bytes is kept in a part of the kind. -/
def Kind.Keeps (kind : Kind) (budget bytes : Nat) : Prop :=
  match kind with
  | .inlineImage => bytes ≤ maxDisplayInlineImageSize ∧ bytes ≤ budget
  | .file => False
  | .other => True

instance (kind : Kind) (budget bytes : Nat) : Decidable (kind.Keeps budget bytes) :=
  match kind with
  | .inlineImage => inferInstanceAs (Decidable (_ ∧ _))
  | .file => .isFalse id
  | .other => .isTrue trivial

/-- What stands for a body in a part of the kind. -/
def Kind.placeholder (kind : Kind) (headerLines : List Line) (bytes : Nat) : List Line :=
  match kind with
  | .inlineImage => [inlinePlaceholder bytes, []]
  | _ => [attachmentPlaceholder (filenameOf (headerText headerLines)) bytes, []]

/-- What a part leaves of the budget. -/
def Kind.spend (kind : Kind) (budget bytes : Nat) : Nat :=
  if kind = .inlineImage ∧ kind.Keeps budget bytes then budget - bytes else budget

/-- A part read as one kind is treated as it is when declared another: the body is kept in both, or
replaced in both as the same kind, or it is the placeholder itself. -/
def TreatedAlike (read declared : Kind) (readBudget budget : Nat)
    (headerLines bodyLines : List Line) : Prop :=
  let bytes := approxBytes bodyLines
  (read.Keeps readBudget bytes ∧ declared.Keeps budget bytes) ∨
  (¬ read.Keeps readBudget bytes ∧ ¬ declared.Keeps budget bytes ∧ read = declared) ∨
  (read.Keeps readBudget bytes ∧ ¬ declared.Keeps budget bytes ∧
    bodyLines = declared.placeholder headerLines bytes) ∨
  (¬ read.Keeps readBudget bytes ∧ declared.Keeps budget bytes ∧
    bodyLines = read.placeholder headerLines bytes)

/-- The parts with a body are treated as they are declared, each with the budget that the parts
before it leave. -/
def Parts.TreatedAsDeclared (readBudget budget : Nat) : Parts → Prop
  | .close _ _ => True
  | .leaf _ headers body next =>
      let bodyLines := body.getD []
      if bodyLines.all isBlank then next.TreatedAsDeclared readBudget budget
      else
        let read := kindOf headers.1
        let declared := declaredKind headers.1
        TreatedAlike read declared readBudget budget headers.1 bodyLines ∧
          next.TreatedAsDeclared (read.spend readBudget (approxBytes bodyLines))
            (declared.spend budget (approxBytes bodyLines))
  | .multi _ _ _ _ _ _ => True

def Message.TreatedAsDeclared : Message → Prop
  | .single _ => True
  | .multipart _ _ _ parts =>
      parts.TreatedAsDeclared maxDisplayInlineTotalSize maxDisplayInlineTotalSize

/-- The patterns read the headers of each part with a body as they are declared. -/
def Parts.HeadersRead : Parts → Prop
  | .close _ _ => True
  | .leaf _ headers body next =>
      ((body.getD []).all isBlank = false → kindOf headers.1 = declaredKind headers.1) ∧
        next.HeadersRead
  | .multi _ _ _ _ inner next => inner.HeadersRead ∧ next.HeadersRead

def Message.HeadersRead : Message → Prop
  | .single _ => True
  | .multipart _ _ _ parts => parts.HeadersRead

/-- Whether the output, read as lines, is the message with the declared bodies replaced. -/
def Faithful (raw : Text) (message : Message) : Prop :=
  splitLines (buildDisplayRawEmail raw) = message.shown

section Sections
variable {isBoundary : Line → Bool}

variable {lines more headerLines bodyLines : List Line} {parts : Parts} {boundary : Text}

theorem Plain.append (h : Plain isBoundary lines)
    (hmore : Plain isBoundary more) : Plain isBoundary (lines ++ more) := by
  intro line hline
  rcases List.mem_append.mp hline with hline | hline
  · exact h line hline
  · exact hmore line hline

variable {lines : List Line} {kind : List Line → Kind}

variable {readBudget budget : Nat} {line : Line}

end Sections

/-! ## Bodies -/

theorem inlineText_take : inlineText.take 2 = ['[', 'i'] := by decide +kernel

theorem attachmentText_take : attachmentText.take 2 = ['[', 'a'] := by decide +kernel

theorem inlinePlaceholder_take (n : Nat) : (inlinePlaceholder n).take 2 = ['[', 'i'] := by
  rw [inlinePlaceholder, List.append_assoc, List.take_append_of_le_length (by decide),
    inlineText_take]

theorem attachmentPlaceholder_take (filename : Option Text) (n : Nat) :
    (attachmentPlaceholder filename n).take 2 = ['[', 'a'] := by
  simp only [attachmentPlaceholder, List.append_assoc]
  rw [List.take_append_of_le_length (by decide), attachmentText_take]

/-- A placeholder tells the kind whose body it stands for. -/
theorem placeholder_injective {read declared : Kind} {headerLines : List Line} {budget n m : Nat}
    (hread : ¬ read.Keeps budget n) (hdeclared : ¬ declared.Keeps m n)
    (h : read.placeholder headerLines n = declared.placeholder headerLines n) :
    read = declared := by
  have hne : inlinePlaceholder n ≠
      attachmentPlaceholder (filenameOf (headerText headerLines)) n := by
    intro heq
    have htake := congrArg (List.take 2) heq
    rw [inlinePlaceholder_take, attachmentPlaceholder_take] at htake
    exact absurd htake (by decide)
  cases read with
  | inlineImage =>
    cases declared with
    | inlineImage => rfl
    | file => exact absurd (List.cons.inj h).1 hne
    | other => exact absurd trivial hdeclared
  | file =>
    cases declared with
    | inlineImage => exact absurd (List.cons.inj h).1.symm hne
    | file => rfl
    | other => exact absurd trivial hdeclared
  | other => exact absurd trivial hread

section Runs
variable {isBoundary : Line → Bool} {parts : Parts} {boundary : Text}
  (hdashes : ∀ line, isBoundary line = true → dashes <+: line)

include hdashes

omit hdashes

/-- A closing boundary line is the last line. -/
def ClosingLast (isBoundary : Line → Bool) (lines : List Line) : Prop :=
  ∀ front line back, lines = front ++ line :: back →
    isBoundary line = true → isClosing line = true → back = []

theorem ClosingLast.append (h : ClosingLast isBoundary more)
    (hlines : ∀ line ∈ lines, ¬ (isBoundary line = true ∧ isClosing line = true)) :
    ClosingLast isBoundary (lines ++ more) := by
  intro front line back hsplit hboundary hclosing
  rcases List.append_eq_append_iff.mp hsplit with ⟨inside, rfl, hmore⟩ | ⟨inside, rfl, hmore⟩
  · exact h inside line back hmore hboundary hclosing
  · cases inside with
    | nil => exact h [] line back hmore.symm hboundary hclosing
    | cons first inside =>
      obtain ⟨rfl, -⟩ := List.cons.inj hmore
      exact absurd ⟨hboundary, hclosing⟩ (hlines line (by simp))

include hdashes

omit hdashes

include hdashes

end Runs

def NoBreak (line : Line) : Prop := '\n' ∉ line

theorem splitLines_cons {c : Char} {rest : Text} (hc : c ≠ '\n') (hrest : rest.head? ≠ some '\n') :
    splitLines (c :: rest) = (splitLines rest).modifyHead (c :: ·) := by
  rw [splitLines]
  · intro more _ hmore
    exact hrest (by rw [hmore]; rfl)
  · exact hc

theorem splitLines_line (h : NoBreak line) : splitLines line = [line] := by
  induction line with
  | nil => rfl
  | cons c line ih =>
    have hline : NoBreak line := fun hmem => h (.tail _ hmem)
    rw [splitLines_cons (fun hc => h (hc ▸ .head _)) fun hhead => hline (List.mem_of_head? hhead),
      ih hline]
    rfl

theorem splitLines_append (rest : Text) (h : NoBreak line) :
    splitLines (line ++ (crlf ++ rest)) = line :: splitLines rest := by
  induction line with
  | nil => rfl
  | cons c line ih =>
    have hline : NoBreak line := fun hmem => h (.tail _ hmem)
    have hhead : (line ++ (crlf ++ rest)).head? ≠ some '\n' := by
      cases line with
      | nil =>
        intro hd
        exact absurd (Option.some.inj hd) (by decide)
      | cons d line => exact fun hd => hline (Option.some.inj hd ▸ .head _)
    rw [List.cons_append, splitLines_cons (fun hc => h (hc ▸ .head _)) hhead, ih hline]
    rfl

theorem splitLines_intercalate (hne : lines ≠ [])
    (h : ∀ line ∈ lines, NoBreak line) : splitLines (crlf.intercalate lines) = lines := by
  induction lines with
  | nil => exact absurd rfl hne
  | cons line lines ih =>
    cases lines with
    | nil => simpa [List.intercalate] using splitLines_line (h line (.head _))
    | cons next lines =>
      have hrest := ih (by simp) fun l hl => h l (.tail _ hl)
      have hjoined : crlf.intercalate (line :: next :: lines) =
          line ++ (crlf ++ crlf.intercalate (next :: lines)) := by
        simp [List.intercalate, List.intersperse]
      rw [hjoined, splitLines_append _ (h line (.head _)), hrest]

theorem NoBreak.append {line more : Line} (h : NoBreak line) (hmore : NoBreak more) :
    NoBreak (line ++ more) := by
  intro hmem
  rcases List.mem_append.mp hmem with hmem | hmem
  · exact h hmem
  · exact hmore hmem

theorem splitLines_ne_nil (text : Text) : splitLines text ≠ [] := by
  induction text using splitLines.induct with
  | case1 => simp [splitLines]
  | case2 rest ih => simp [splitLines]
  | case3 rest ih => simp [splitLines]
  | case4 c rest hcrlf hlf ih =>
    rw [splitLines.eq_4 c rest hcrlf hlf]
    cases hsplit : splitLines rest with
    | nil => exact absurd hsplit ih
    | cons first lines => simp

section Messages
variable {raw : Text} {message : Message}

end Messages

/-! ## A flat and a nested message -/

end SesEmailAdapter.Isolated.RawEmailDisplay
