import Mathlib.Data.List.Infix
import SesEmailAdapter.Lib.MessageFormat

/-! # Multipart bodies

A multipart body holds its parts between delimiter lines, which begin with the boundary that the
header declares. A body is read back into its parts if no line of a part begins like a delimiter.
Parameters of header fields are read behind their first semicolon. -/

namespace SesEmailAdapter.Lib.Multipart
open Lib.MessageFormat

/-! ## Lines -/

@[grind =] def splitLines : List Char → List (List Char)
  | '\r' :: '\n' :: rest => [] :: splitLines rest
  | c :: rest => (splitLines rest).modifyHead (c :: ·)
  | [] => [[]]

def joinCrlf (lines : List (List Char)) : List Char := List.intercalate crlf lines

variable {text line : List Char}

theorem splitLines_ne_nil (text : List Char) : splitLines text ≠ [] := by
  induction text using splitLines.induct with
  | case1 => simp [splitLines]
  | case2 c rest hc ih =>
    rw [splitLines]
    · simpa using ih
    · exact hc
  | case3 => simp [splitLines]

variable {parts lines : List (List Char)}

theorem modifyHead_append {f : List Char → List Char} (h : lines ≠ [])
    (more : List (List Char)) : (lines ++ more).modifyHead f = lines.modifyHead f ++ more := by
  cases lines with
  | nil => exact absurd rfl h
  | cons line lines => rfl

/-- A line break splits a text, whatever stands on its two sides. -/
theorem splitLines_append (text rest : List Char) :
    splitLines (text ++ crlf ++ rest) = splitLines text ++ splitLines rest := by
  induction text using splitLines.induct with
  | case1 text ih => simpa [splitLines] using ih
  | case2 c text hc ih =>
    have hstep : splitLines (c :: (text ++ crlf ++ rest)) =
        (splitLines (text ++ crlf ++ rest)).modifyHead (c :: ·) := by
      rw [splitLines]
      intro more hcr hlf
      cases text with
      | nil => simp [crlf] at hlf
      | cons d text =>
        obtain ⟨rfl, -⟩ := List.cons.inj hlf
        exact hc text hcr rfl
    have hself : splitLines (c :: text) = (splitLines text).modifyHead (c :: ·) := by
      rw [splitLines]
      exact hc
    rw [List.cons_append, List.cons_append, hstep, hself, ih,
      modifyHead_append (splitLines_ne_nil text)]
  | case3 => simp [splitLines, crlf]

theorem splitLines_oneLine (h : OneLine text) : splitLines text = [text] := by
  induction text with
  | nil => rfl
  | cons c text ih =>
    obtain ⟨⟨hr, -⟩, htext⟩ := oneLine_cons.mp h
    rw [splitLines]
    · simp [ih htext]
    · exact fun _ hc _ => hr hc

/-- A line goes with the first line of what follows it. -/
theorem splitLines_line (h : OneLine line) (text : List Char) :
    splitLines (line ++ text) = (splitLines text).modifyHead (line ++ ·) := by
  induction line with
  | nil =>
    obtain ⟨first, lines, hlines⟩ := List.exists_cons_of_ne_nil (splitLines_ne_nil text)
    simp [hlines]
  | cons c line ih =>
    obtain ⟨⟨hr, -⟩, hline⟩ := oneLine_cons.mp h
    obtain ⟨first, lines, hlines⟩ := List.exists_cons_of_ne_nil (splitLines_ne_nil text)
    rw [List.cons_append, splitLines, ih hline, hlines]
    · rfl
    · exact fun _ hc _ => hr hc

theorem joinCrlf_cons (h : lines ≠ []) (line : List Char) :
    joinCrlf (line :: lines) = line ++ crlf ++ joinCrlf lines := by
  obtain ⟨next, rest, rfl⟩ := List.exists_cons_of_ne_nil h
  exact List.intercalate_cons_cons

theorem joinCrlf_splitLines (text : List Char) : joinCrlf (splitLines text) = text := by
  induction text using splitLines.induct with
  | case1 text ih =>
    rw [splitLines, joinCrlf_cons (splitLines_ne_nil text), ih]
    rfl
  | case2 c text hc ih =>
    rw [splitLines]
    · obtain ⟨line, lines, hlines⟩ := List.exists_cons_of_ne_nil (splitLines_ne_nil text)
      rw [hlines] at ih ⊢
      rw [List.modifyHead_cons, ← ih]
      cases lines with
      | nil => simp [joinCrlf]
      | cons next lines => simp [joinCrlf_cons]
    · exact hc
  | case3 => rfl

/-- The lines of a text have its characters. -/
theorem mem_of_mem_splitLines {c : Char} (hline : line ∈ splitLines text) (hc : c ∈ line) :
    c ∈ text := by
  induction text using splitLines.induct generalizing line with
  | case1 text ih =>
    rw [splitLines] at hline
    rcases List.mem_cons.mp hline with rfl | hline
    · cases hc
    · simp [ih hline hc]
  | case2 d text hd ih =>
    rw [splitLines] at hline
    · obtain ⟨first, lines, hlines⟩ := List.exists_cons_of_ne_nil (splitLines_ne_nil text)
      rw [hlines] at hline ih
      rw [List.modifyHead_cons] at hline
      rcases List.mem_cons.mp hline with rfl | hline
      · rcases List.mem_cons.mp hc with rfl | hc
        · simp
        · simp [ih List.mem_cons_self hc]
      · simp [ih (List.mem_cons_of_mem _ hline) hc]
    · exact hd
  | case3 =>
    obtain rfl := List.mem_singleton.mp hline
    cases hc

/-! ## Parts -/

def dashes : List Char := ['-', '-']

def delimiter (boundary : List Char) : List Char := dashes ++ boundary

def closeDelimiter (boundary : List Char) : List Char := delimiter boundary ++ dashes

/-- The lines of each part; `current` holds those of the part that is open. -/
def partsFrom (boundary : List Char) : Option (List (List Char)) → List (List Char) →
    List (List (List Char))
  | _, [] => []
  | current, line :: lines =>
    if delimiter boundary <+: line then
      current.toList ++
        if closeDelimiter boundary <+: line then [] else partsFrom boundary (some []) lines
    else partsFrom boundary (current.map (· ++ [line])) lines

/-- What stands before the first delimiter and behind the last one is no part. -/
def partsOf (boundary body : List Char) : List (List Char) :=
  (partsFrom boundary none (splitLines body)).map joinCrlf

/-- The parts, and the line that closes the last one. -/
def multipart (boundary : List Char) (parts : List (List Char)) : List Char :=
  parts.flatMap (fun part => delimiter boundary ++ crlf ++ part ++ crlf) ++ closeDelimiter boundary

/-- No line of the text begins like a delimiter. -/
def Avoids (boundary text : List Char) : Prop :=
  ∀ line ∈ splitLines text, ¬ delimiter boundary <+: line

variable {boundary : List Char}

theorem partsFrom_append
    (h : ∀ line ∈ lines, ¬ delimiter boundary <+: line) (current more : List (List Char)) :
    partsFrom boundary (some current) (lines ++ more) =
      partsFrom boundary (some (current ++ lines)) more := by
  induction lines generalizing current with
  | nil => simp
  | cons line lines ih =>
    obtain ⟨hline, hlines⟩ := List.forall_mem_cons.mp h
    rw [List.cons_append, partsFrom, if_neg hline, Option.map_some, ih hlines]
    simp

theorem delimiter_oneLine (h : OneLine boundary) : OneLine (delimiter boundary) :=
  oneLine_append (by decide) h

theorem closeDelimiter_oneLine (h : OneLine boundary) : OneLine (closeDelimiter boundary) :=
  oneLine_append (delimiter_oneLine h) (by decide)

theorem partsFrom_multipart (hboundary : OneLine boundary)
    (h : ∀ part ∈ parts, Avoids boundary part) (epilogue : List Char)
    (current : Option (List (List Char))) :
    partsFrom boundary current (splitLines (multipart boundary parts ++ epilogue)) =
      current.toList ++ parts.map splitLines := by
  have hdelimiter := delimiter_oneLine hboundary
  induction parts generalizing current with
  | nil =>
    obtain ⟨line, lines, hlines⟩ := List.exists_cons_of_ne_nil (splitLines_ne_nil epilogue)
    have hsplit : splitLines (multipart boundary [] ++ epilogue) =
        (closeDelimiter boundary ++ line) :: lines := by
      rw [multipart, List.flatMap_nil, List.nil_append,
        splitLines_line (closeDelimiter_oneLine hboundary), hlines, List.modifyHead_cons]
    have hopen : delimiter boundary <+: closeDelimiter boundary ++ line := by
      rw [closeDelimiter, List.append_assoc]
      exact List.prefix_append _ _
    rw [hsplit, partsFrom, if_pos hopen, if_pos (List.prefix_append _ _)]
    simp
  | cons part parts ih =>
    obtain ⟨hpart, hparts⟩ := List.forall_mem_cons.mp h
    have hlines : splitLines (multipart boundary (part :: parts) ++ epilogue) =
        delimiter boundary ::
          (splitLines part ++ splitLines (multipart boundary parts ++ epilogue)) := by
      have hfirst := splitLines_append (delimiter boundary)
        (part ++ crlf ++ (multipart boundary parts ++ epilogue))
      rw [splitLines_append part, splitLines_oneLine hdelimiter] at hfirst
      simpa [multipart] using hfirst
    have hopen : ¬ closeDelimiter boundary <+: delimiter boundary := by
      intro hclose
      have hlength := hclose.length_le
      simp only [closeDelimiter, dashes, List.length_append, List.length_cons,
        List.length_nil] at hlength
      omega
    rw [hlines, partsFrom, if_pos List.prefix_rfl, if_neg hopen,
      partsFrom_append hpart, ih hparts]
    simp

/-- **A multipart body is read back into its parts**, whatever follows the last of them. -/
theorem partsOf_multipart (hboundary : OneLine boundary)
    (h : ∀ part ∈ parts, Avoids boundary part) (epilogue : List Char) :
    partsOf boundary (multipart boundary parts ++ epilogue) = parts := by
  rw [partsOf, partsFrom_multipart hboundary h]
  simp [joinCrlf_splitLines, Function.comp_def]

theorem Avoids.append {rest : List Char} (h : Avoids boundary text) (h' : Avoids boundary rest) :
    Avoids boundary (text ++ crlf ++ rest) := by
  intro line hline
  rw [splitLines_append, List.mem_append] at hline
  exact hline.elim (h line) (h' line)

/-- A text without dashes. -/
theorem avoids_of_not_mem (h : '-' ∉ text) : Avoids boundary text := by
  intro line hline hprefix'
  refine h (mem_of_mem_splitLines hline (hprefix'.subset ?_))
  simp [delimiter, dashes]

theorem avoids_line (h : OneLine text) (hdelimiter : ¬ delimiter boundary <+: text) :
    Avoids boundary text := by
  intro line hline
  rw [splitLines_oneLine h, List.mem_singleton] at hline
  rw [hline]
  exact hdelimiter

/-- A line that begins with another character. -/
theorem avoids_cons {c : Char} (hc : c ≠ '-') (h : OneLine (c :: text)) :
    Avoids boundary (c :: text) := by
  refine avoids_line h fun hdelimiter => hc ?_
  rw [delimiter, dashes, List.cons_append, List.cons_prefix_cons] at hdelimiter
  exact hdelimiter.1.symm

/-- A multipart body within a part of another one. -/
theorem avoids_multipart {inner : List Char} (hinner : OneLine inner)
    (hne : ¬ boundary <+: inner ++ dashes)
    (h : ∀ part ∈ parts, Avoids boundary part) : Avoids boundary (multipart inner parts) := by
  have hclose : ¬ delimiter boundary <+: closeDelimiter inner := by
    rw [closeDelimiter, delimiter, delimiter, List.append_assoc, List.prefix_append_right_inj]
    exact hne
  have hopen : ¬ delimiter boundary <+: delimiter inner := fun hdelimiter =>
    hclose (hdelimiter.trans (List.prefix_append _ _))
  induction parts with
  | nil => exact avoids_line (closeDelimiter_oneLine hinner) hclose
  | cons part parts ih =>
    obtain ⟨hpart, hparts⟩ := List.forall_mem_cons.mp h
    have hsplit : multipart inner (part :: parts) =
        delimiter inner ++ crlf ++ (part ++ crlf ++ multipart inner parts) := by
      simp [multipart]
    rw [hsplit]
    exact (avoids_line (delimiter_oneLine hinner) hopen).append (hpart.append (ih hparts))

/-- Header fields and what follows them. -/
theorem avoids_fieldsMessage {fields : List Field} {body : List Char}
    (h : ∀ f ∈ fields, Avoids boundary (fieldLine f)) (hbody : Avoids boundary body) :
    Avoids boundary (fieldsMessage fields body) := by
  induction fields with
  | nil => exact Avoids.append (avoids_of_not_mem List.not_mem_nil) hbody
  | cons f fields ih =>
    obtain ⟨hf, hfields⟩ := List.forall_mem_cons.mp h
    have hsplit : fieldsMessage (f :: fields) body =
        fieldLine f ++ crlf ++ fieldsMessage fields body := by
      simp [fieldsMessage, message]
    rw [hsplit]
    exact hf.append (ih hfields)

/-! ## Parameters -/

/-- The name of the parameter behind the first semicolon, and the text behind its equals sign. -/
def firstParameter (body : List Char) : Option (List Char × List Char) :=
  let parameters := ((body.dropWhile (· ≠ ';')).drop 1).dropWhile (· = ' ')
  if '=' ∈ parameters then
    some (parameters.takeWhile (· ≠ '='), (parameters.dropWhile (· ≠ '=')).drop 1)
  else none

/-- A quoted text up to its end, from behind its opening quote. -/
def readQuoted : List Char → Option (List Char)
  | [] => none
  | '"' :: _ => some []
  | '\\' :: c :: rest => (readQuoted rest).map (c :: ·)
  | c :: rest => (readQuoted rest).map (c :: ·)

theorem firstParameter_eq {kind name value : List Char} (hkind : ';' ∉ kind) (hname : '=' ∉ name)
    (hfirst : name.head? ≠ some ' ') (hne : name ≠ []) :
    firstParameter (kind ++ [';', ' '] ++ name ++ '=' :: value) = some (name, value) := by
  obtain ⟨c, rest, rfl⟩ := List.exists_cons_of_ne_nil hne
  have hspace : c ≠ ' ' := fun hc => hfirst (by rw [hc]; rfl)
  have hskip : ∀ d ∈ kind, decide (d ≠ ';') = true := fun d hd =>
    decide_eq_true (ne_of_mem_of_not_mem hd hkind)
  have hread : ∀ d ∈ c :: rest, decide (d ≠ '=') = true := fun d hd =>
    decide_eq_true (ne_of_mem_of_not_mem hd hname)
  have hparameters : (((kind ++ [';', ' '] ++ c :: rest ++ '=' :: value).dropWhile (· ≠ ';')).drop
      1).dropWhile (· = ' ') = c :: rest ++ '=' :: value := by
    rw [List.append_assoc, List.append_assoc, List.dropWhile_append_of_pos hskip]
    simp [hspace]
  have hmem : '=' ∈ c :: rest ++ '=' :: value := by simp
  unfold firstParameter
  dsimp only
  rw [hparameters, if_pos hmem, List.takeWhile_append_of_pos hread,
    List.dropWhile_append_of_pos hread, List.takeWhile_cons_of_neg (by decide),
    List.dropWhile_cons_of_neg (by decide), List.append_nil, List.drop_one, List.tail_cons]

theorem readQuoted_length {rest : List Char} (h : readQuoted rest = some text) :
    text.length < rest.length := by
  induction rest using readQuoted.induct generalizing text with
  | case1 => cases h
  | case2 rest =>
    obtain rfl := Option.some.inj h
    simp
  | case3 c rest ih =>
    obtain ⟨inner, hinner, rfl⟩ := Option.map_eq_some_iff.mp h
    have hlength := ih hinner
    simp only [List.length_cons]
    omega
  | case4 c rest hquote hescape ih =>
    rw [readQuoted] at h
    · obtain ⟨inner, hinner, rfl⟩ := Option.map_eq_some_iff.mp h
      have hlength := ih hinner
      simp only [List.length_cons]
      omega
    · exact hquote
    · exact hescape

/-- **A text stands for itself in quotes** just where it has no quotes and no backslashes. -/
theorem readQuoted_iff : readQuoted (text ++ ['"']) = some text ↔ '"' ∉ text ∧ '\\' ∉ text := by
  induction text with
  | nil => simp [readQuoted]
  | cons c text ih =>
    by_cases hquote : c = '"'
    · simp [hquote, readQuoted]
    by_cases hescape : c = '\\'
    · refine iff_of_false (fun hread => ?_) (by simp [hescape])
      have hne : text ++ ['"'] ≠ [] := by simp
      obtain ⟨d, rest, hrest⟩ := List.exists_cons_of_ne_nil hne
      rw [List.cons_append, hrest, hescape, readQuoted] at hread
      obtain ⟨inner, hinner, hsame⟩ := Option.map_eq_some_iff.mp hread
      have hlength := readQuoted_length hinner
      have htext := congrArg List.length (List.cons.inj hsame).2
      have htotal := congrArg List.length hrest
      simp only [List.length_append, List.length_cons, List.length_nil] at htotal
      omega
    · have hstep : readQuoted (c :: (text ++ ['"'])) =
          (readQuoted (text ++ ['"'])).map (c :: ·) := by
        rw [readQuoted]
        · exact hquote
        · exact fun _ _ hc _ => hescape hc
      have hcons : (readQuoted (text ++ ['"'])).map (c :: ·) = some (c :: text) ↔
          readQuoted (text ++ ['"']) = some text := by
        simp [Option.map_eq_some_iff]
      rw [List.cons_append, hstep, hcons, ih]
      simp [eq_comm, hquote, hescape]

end SesEmailAdapter.Lib.Multipart
