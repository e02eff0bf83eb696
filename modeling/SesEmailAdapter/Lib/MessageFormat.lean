import Mathlib.Data.List.Basic

/-! # Internet messages

A message is header lines, an empty line and a body. A header field is a line with its name before
the first colon, and the fields of recipients hold mailboxes: addresses with or without a display
name. -/

namespace SesEmailAdapter.Lib.MessageFormat

/-! ## Lines -/

/-- A text without line breaks. -/
def OneLine (text : List Char) : Prop := '\r' ∉ text ∧ '\n' ∉ text

instance (text : List Char) : Decidable (OneLine text) := inferInstanceAs (Decidable (_ ∧ _))

def crlf : List Char := ['\r', '\n']

def message (lines : List (List Char)) (body : List Char) : List Char :=
  lines.flatMap (· ++ crlf) ++ crlf ++ body

/-- The header lines up to the empty one, and what follows it. `current` is the line so far, in
reverse. -/
def readFrom (current : List Char) : List Char → List (List Char) × List Char
  | '\r' :: '\n' :: rest =>
    if current = [] then ([], rest)
    else (current.reverse :: (readFrom [] rest).1, (readFrom [] rest).2)
  | c :: rest => readFrom (c :: current) rest
  | [] => ([current.reverse], [])

def readMessage (text : List Char) : List (List Char) × List Char := readFrom [] text

theorem oneLine_cons {c : Char} {text : List Char} :
    OneLine (c :: text) ↔ (c ≠ '\r' ∧ c ≠ '\n') ∧ OneLine text := by
  simp only [OneLine, List.mem_cons, not_or]
  constructor
  · rintro ⟨⟨hr, hr'⟩, hn, hn'⟩
    exact ⟨⟨Ne.symm hr, Ne.symm hn⟩, hr', hn'⟩
  · rintro ⟨⟨hr, hn⟩, hr', hn'⟩
    exact ⟨⟨Ne.symm hr, hr'⟩, Ne.symm hn, hn'⟩

theorem oneLine_append {text text' : List Char} (h : OneLine text) (h' : OneLine text') :
    OneLine (text ++ text') :=
  ⟨by simp [h.1, h'.1], by simp [h.2, h'.2]⟩

theorem OneLine.subset {text text' : List Char} (h : OneLine text) (hsub : text' ⊆ text) :
    OneLine text' :=
  ⟨fun hr => h.1 (hsub hr), fun hn => h.2 (hsub hn)⟩

/-- A line is read up to its end. -/
theorem readFrom_line (line rest : List Char) (h : OneLine line) (current : List Char) :
    readFrom current (line ++ '\r' :: '\n' :: rest) =
      readFrom (line.reverse ++ current) ('\r' :: '\n' :: rest) := by
  induction line generalizing current with
  | nil => rfl
  | cons c line ih =>
    obtain ⟨⟨hr, -⟩, hline⟩ := oneLine_cons.mp h
    have hstep : readFrom current (c :: (line ++ '\r' :: '\n' :: rest)) =
        readFrom (c :: current) (line ++ '\r' :: '\n' :: rest) := by
      rw [readFrom]
      exact fun _ hc _ => hr hc
    rw [List.cons_append, hstep, ih hline]
    simp

/-- **A message is read back**, its lines and its body. -/
theorem readMessage_message (lines : List (List Char)) (body : List Char)
    (h : ∀ line ∈ lines, line ≠ [] ∧ OneLine line) :
    readMessage (message lines body) = (lines, body) := by
  induction lines with
  | nil => rfl
  | cons line lines ih =>
    obtain ⟨⟨hne, hline⟩, hlines⟩ := List.forall_mem_cons.mp h
    have hrest := ih hlines
    unfold readMessage message at hrest ⊢
    have hsplit : (line :: lines).flatMap (· ++ crlf) ++ crlf ++ body =
        line ++ '\r' :: '\n' :: (lines.flatMap (· ++ crlf) ++ crlf ++ body) := by
      simp [crlf]
    rw [hsplit, readFrom_line _ _ hline, readFrom, if_neg (by simpa using hne), hrest]
    simp

/-! ## Fields -/

/-- A field with its name. -/
abbrev Field := List Char × List Char

def fieldLine (f : Field) : List Char := f.1 ++ ':' :: ' ' :: f.2

/-- The name before the colon, in lower case, and the body after the colon and a space. -/
def readField (line : List Char) : Field :=
  ((line.takeWhile (· ≠ ':')).map Char.toLower, (line.dropWhile (· ≠ ':')).drop 2)

structure Field.Sound (f : Field) : Prop where
  nameLine : OneLine f.1
  bodyLine : OneLine f.2
  name : ':' ∉ f.1

theorem Field.Sound.line {f : Field} (h : f.Sound) :
    fieldLine f ≠ [] ∧ OneLine (fieldLine f) := by
  refine ⟨by simp [fieldLine], oneLine_append h.nameLine ?_⟩
  exact oneLine_cons.mpr ⟨by decide, oneLine_cons.mpr ⟨by decide, h.bodyLine⟩⟩

/-- A field is read back with its name in lower case. -/
theorem readField_fieldLine {f : Field} (h : f.Sound) :
    readField (fieldLine f) = (f.1.map Char.toLower, f.2) := by
  have hne : ∀ c ∈ f.1, decide (c ≠ ':') = true := fun c hc =>
    decide_eq_true fun heq => h.name (heq ▸ hc)
  rw [readField, fieldLine, List.takeWhile_append_of_pos hne, List.dropWhile_append_of_pos hne]
  simp

/-- The message of header fields and a body. -/
def fieldsMessage (fields : List Field) (body : List Char) : List Char :=
  message (fields.map fieldLine) body

/-- The header fields of a message. -/
def headerFields (text : List Char) : List Field := (readMessage text).1.map readField

/-- The message without the lines of a field. -/
def withoutField (name : List Char) (text : List Char) : List Char :=
  message ((readMessage text).1.filter fun line => (readField line).1 ≠ name) (readMessage text).2

variable {fields : List Field}

theorem readMessage_fields (h : ∀ f ∈ fields, f.Sound) (body : List Char) :
    readMessage (fieldsMessage fields body) = (fields.map fieldLine, body) := by
  refine readMessage_message _ _ fun line hline => ?_
  obtain ⟨f, hf, rfl⟩ := List.mem_map.mp hline
  exact (h f hf).line

theorem headerFields_message (h : ∀ f ∈ fields, f.Sound)
    (body : List Char) : headerFields (fieldsMessage fields body) =
      fields.map fun f => (f.1.map Char.toLower, f.2) := by
  rw [headerFields, readMessage_fields h, List.map_map]
  exact List.map_congr_left fun f hf => readField_fieldLine (h f hf)

theorem withoutField_message (h : ∀ f ∈ fields, f.Sound)
    (name body : List Char) : withoutField name (fieldsMessage fields body) =
      fieldsMessage (fields.filter fun f => f.1.map Char.toLower ≠ name) body := by
  have hfilter : (fields.map fieldLine).filter (fun line => (readField line).1 ≠ name) =
      (fields.filter fun f => f.1.map Char.toLower ≠ name).map fieldLine := by
    rw [List.filter_map]
    refine congrArg _ (List.filter_congr fun f hf => ?_)
    rw [Function.comp_apply, readField_fieldLine (h f hf)]
  rw [withoutField, readMessage_fields h, hfilter, fieldsMessage]

/-! ## Mailboxes -/

def isPrintable (c : Char) : Bool := 0x20 ≤ c.toNat ∧ c.toNat ≤ 0x7E

/-- Characters with a meaning of their own in lists of mailboxes. -/
def isSpecial (c : Char) : Bool :=
  c ∈ ['(', ')', '<', '>', '[', ']', ':', ';', '\\', ',', '"']

/-- The characters of addresses, the at sign among them. -/
def isAddressChar (c : Char) : Bool := isPrintable c && c ≠ ' ' && !isSpecial c

def isWordChar (c : Char) : Bool := isPrintable c && c ≠ '@' && !isSpecial c

structure IsAddress (address : List Char) : Prop where
  nonempty : address ≠ []
  chars : ∀ c ∈ address, isAddressChar c = true

def quoted (text : List Char) : List Char :=
  '"' :: text.flatMap (fun c => if c = '"' ∨ c = '\\' then ['\\', c] else [c]) ++ ['"']

/-- A display name: words, or a quoted text. -/
inductive IsPhrase : List Char → Prop
  | words {text : List Char} (h : ∀ c ∈ text, isWordChar c = true) : IsPhrase text
  | quoted {text : List Char} (h : ∀ c ∈ text, isPrintable c = true) : IsPhrase (quoted text)

/-- A text that stands for an address. -/
inductive IsMailbox (address : List Char) : List Char → Prop
  | bare : IsMailbox address address
  | named {phrase : List Char} (h : IsPhrase phrase) :
    IsMailbox address (phrase ++ [' '] ++ '<' :: address ++ ['>'])

/-- The addresses of a list of mailboxes, by any reader that follows the format. -/
structure MailboxReader where
  read : List Char → List (List Char)
  reads : ∀ mailboxes : List (List Char × List Char),
    (∀ mailbox ∈ mailboxes, IsAddress mailbox.1 ∧ IsMailbox mailbox.1 mailbox.2) →
      read (List.intercalate [',', ' '] (mailboxes.map Prod.snd)) = mailboxes.map Prod.fst

inductive ReadMode
  | plain | quoted | escaped
deriving DecidableEq, Repr

/-- What stands before a bracket is a display name. -/
@[grind =] def readMailboxes (mode : ReadMode) (current : List Char) : List Char → List (List Char)
  | [] => [current.reverse]
  | c :: rest =>
    match mode with
    | .escaped => readMailboxes .quoted current rest
    | .quoted =>
      readMailboxes (if c = '"' then .plain else if c = '\\' then .escaped else .quoted) current rest
    | .plain =>
      if c = '"' then readMailboxes .quoted current rest
      else if c = ',' then current.reverse :: readMailboxes .plain [] rest
      else if c = '<' then readMailboxes .plain [] rest
      else if c = '>' ∨ c = ' ' then readMailboxes .plain current rest
      else readMailboxes .plain (c :: current) rest

theorem readMailboxes_address {address : List Char} (h : ∀ c ∈ address, isAddressChar c = true)
    (current rest : List Char) : readMailboxes .plain current (address ++ rest) =
      readMailboxes .plain (address.reverse ++ current) rest := by
  induction address generalizing current with
  | nil => rfl
  | cons c address ih =>
    obtain ⟨hc, haddress⟩ := List.forall_mem_cons.mp h
    have hplain : c ≠ '"' ∧ c ≠ ',' ∧ c ≠ '<' ∧ c ≠ '>' ∧ c ≠ ' ' := by
      simp [isAddressChar, isSpecial] at hc
      tauto
    rw [List.cons_append, readMailboxes]
    simp only [hplain, if_false, or_self]
    rw [ih haddress]
    simp

theorem readMailboxes_words {text : List Char} (h : ∀ c ∈ text, isWordChar c = true)
    (current rest : List Char) : ∃ current', readMailboxes .plain current (text ++ rest) =
      readMailboxes .plain current' rest := by
  induction text generalizing current with
  | nil => exact ⟨current, rfl⟩
  | cons c text ih =>
    obtain ⟨hc, htext⟩ := List.forall_mem_cons.mp h
    have hplain : c ≠ '"' ∧ c ≠ ',' ∧ c ≠ '<' := by
      simp [isWordChar, isSpecial] at hc
      tauto
    rw [List.cons_append, readMailboxes]
    simp only [hplain, if_false]
    split
    · exact ih htext current
    · exact ih htext (c :: current)

theorem readMailboxes_quoted (text current rest : List Char) :
    readMailboxes .plain current (quoted text ++ rest) = readMailboxes .plain current rest := by
  have hclose (text : List Char) : readMailboxes .quoted current
      (text.flatMap (fun c => if c = '"' ∨ c = '\\' then ['\\', c] else [c]) ++ '"' :: rest) =
        readMailboxes .plain current rest := by
    induction text with
    | nil => simp [readMailboxes]
    | cons c text ih =>
      rw [List.flatMap_cons, List.append_assoc]
      split
      · simpa [readMailboxes] using ih
      · next hc =>
        rw [not_or] at hc
        simpa [readMailboxes, hc] using ih
  rw [quoted, List.cons_append, List.cons_append, readMailboxes, if_pos rfl, List.append_assoc]
  exact hclose text

theorem readMailboxes_mailbox {address text : List Char} (haddress : IsAddress address)
    (htext : IsMailbox address text) (rest : List Char) :
    readMailboxes .plain [] (text ++ rest) = readMailboxes .plain address.reverse rest := by
  have hbracketed (current : List Char) :
      readMailboxes .plain current ([' '] ++ '<' :: address ++ ['>'] ++ rest) =
        readMailboxes .plain address.reverse rest := by
    have haddr := readMailboxes_address haddress.chars [] ('>' :: rest)
    rw [List.append_nil] at haddr
    simp [readMailboxes, haddr]
  cases htext with
  | bare => rw [readMailboxes_address haddress.chars, List.append_nil]
  | named hphrase =>
    simp only [List.append_assoc] at hbracketed ⊢
    cases hphrase with
    | words hwords =>
      obtain ⟨current, hread⟩ := readMailboxes_words hwords [] _
      rw [hread]
      exact hbracketed current
    | quoted =>
      rw [readMailboxes_quoted]
      exact hbracketed []

theorem readMailboxes_list {mailboxes : List (List Char × List Char)}
    (h : ∀ mailbox ∈ mailboxes, IsAddress mailbox.1 ∧ IsMailbox mailbox.1 mailbox.2)
    (hne : mailboxes ≠ []) :
    readMailboxes .plain [] (List.intercalate [',', ' '] (mailboxes.map Prod.snd)) =
      mailboxes.map Prod.fst := by
  induction mailboxes with
  | nil => exact absurd rfl hne
  | cons mailbox mailboxes ih =>
    obtain ⟨⟨haddress, htext⟩, hrest⟩ := List.forall_mem_cons.mp h
    cases mailboxes with
    | nil =>
      have hread := readMailboxes_mailbox haddress htext []
      simpa [List.intercalate, readMailboxes] using hread
    | cons next mailboxes =>
      have hjoin : List.intercalate [',', ' '] ((mailbox :: next :: mailboxes).map Prod.snd) =
          mailbox.2 ++ ',' :: ' ' ::
            List.intercalate [',', ' '] ((next :: mailboxes).map Prod.snd) := by
        simp [List.intercalate]
      have hspace (text : List Char) : readMailboxes .plain [] (' ' :: text) =
          readMailboxes .plain [] text := by
        simp [readMailboxes]
      rw [hjoin, readMailboxes_mailbox haddress htext, readMailboxes]
      simp only [if_neg (by decide : ¬ ',' = '"'), if_true]
      rw [hspace, ih hrest (List.cons_ne_nil _ _), List.reverse_reverse]
      rfl

theorem IsMailbox.nonempty {address text : List Char} (haddress : IsAddress address)
    (h : IsMailbox address text) : text ≠ [] := by
  cases h with
  | bare => exact haddress.nonempty
  | named => simp

/-- The reader that goes over the text once. -/
def mailboxReader : MailboxReader where
  read text := if text = [] then [] else readMailboxes .plain [] text
  reads mailboxes h := by
    cases mailboxes with
    | nil => rfl
    | cons mailbox mailboxes =>
      rw [if_neg, readMailboxes_list h (List.cons_ne_nil _ _)]
      obtain ⟨⟨haddress, htext⟩, -⟩ := List.forall_mem_cons.mp h
      have htext := htext.nonempty haddress
      cases mailboxes <;> simp [List.intercalate, htext]

end SesEmailAdapter.Lib.MessageFormat
