import Mathlib.Data.List.Basic
import SesEmailAdapter.Email.Address
import SesEmailAdapter.Lib.MessageFormat

/-! # The message builder

A complete message from its fields. Values of headers can come from drafts, so line breaks are taken
out of them: what stands in a value cannot begin a header of its own. -/

namespace SesEmailAdapter.Email.MimeBuilder
open Lib Lib.MessageFormat
open SesEmailAdapter.Types (EmailAddress)
open Email.Address

structure MimeAttachment where
  filename : String
  mimeType : String
  content : List UInt8
deriving DecidableEq, Repr

/-- `toAddresses`, `cc` and `bcc` are comma-separated lists. -/
structure MimeMessageOptions where
  sender : List Char
  toAddresses : List Char
  cc : List Char
  bcc : List Char
  subject : List Char
  textBody : List Char
  htmlBody : List Char
  /-- The method of a calendar message. -/
  calendar : Option (List Char)
  headers : List Field
  attachments : List MimeAttachment

/-- The date of the message, with its zone as a number, and the ids of its boundaries. -/
structure MimeEnv where
  date : List Char
  alternativeId : List Char
  mixedId : List Char
  date_oneLine : OneLine date
  alternativeId_oneLine : OneLine alternativeId
  mixedId_oneLine : OneLine mixedId

/-! ## Header values -/

def sanitizeHeaderValue (value : List Char) : List Char := trim (joinLines false value)

def encodeUnstructured (value : List Char) : List Char :=
  let clean := sanitizeHeaderValue value
  if clean.all isAsciiPrintable then clean else encodeWord clean

/-- `splitAddressList`, from the text after `current`. -/
def splitAddressesFrom (inQuotes inBrackets escaped : Bool) (current : List Char) :
    List Char → List (List Char)
  | [] => if trim current.reverse = [] then [] else [trim current.reverse]
  | c :: rest =>
    if escaped then splitAddressesFrom inQuotes inBrackets false (c :: current) rest
    else if c = '\\' ∧ inQuotes then splitAddressesFrom inQuotes inBrackets true (c :: current) rest
    else
      let quotes := if c = '"' then !inQuotes else inQuotes
      let brackets := if c = '<' ∧ ¬ quotes then true else if c = '>' ∧ ¬ quotes then false
        else inBrackets
      if c = ',' ∧ ¬ quotes ∧ ¬ brackets then
        trim current.reverse :: splitAddressesFrom quotes brackets false [] rest
      else splitAddressesFrom quotes brackets false (c :: current) rest

def splitAddressList (value : List Char) : List (List Char) :=
  splitAddressesFrom false false false [] value

/-- `/^(.*?)\s*<([^>]+)>$/` -/
def mailboxParts (text : List Char) : Option (List Char × List Char) :=
  match text.reverse with
  | '>' :: before =>
    let segment := (before.takeWhile (· ≠ '>')).reverse
    match segment.dropWhile (· ≠ '<') with
    | _ :: c :: inner =>
      let front := (before.dropWhile (· ≠ '>')).reverse ++ segment.takeWhile (· ≠ '<')
      some ((front.reverse.dropWhile isSpace).reverse, c :: inner)
    | _ => none
  | _ => none

/-- `replace(/^"|"$/g, "")` -/
def unquote (text : List Char) : List Char :=
  let opened := if text.head? = some '"' then text.tail else text
  if opened.getLast? = some '"' then opened.dropLast else opened

def encodeAddress (entry : List Char) : List Char :=
  let trimmed := trim entry
  match mailboxParts trimmed with
  | none => if trimmed.all isAsciiPrintable then trimmed else encodeWord trimmed
  | some (front, address) =>
    let displayName := trim (unquote front)
    if displayName = [] then '<' :: address ++ ['>']
    else
      (if displayName.all isAsciiPrintable then '"' :: displayName ++ ['"']
        else encodeWord displayName) ++ [' '] ++ '<' :: address ++ ['>']

def joinAddresses (entries : List (List Char)) : List Char := List.intercalate [',', ' '] entries

def encodeAddressList (value : List Char) : List Char :=
  let clean := sanitizeHeaderValue value
  if clean.all isAsciiPrintable then clean
  else joinAddresses ((splitAddressList clean).map encodeAddress)

/-! ## The body -/

/-- Lines of 76 characters. -/
def wrap (encoded : List Char) : List Char := List.intercalate crlf (encoded.toChunks 76)

def encodeBody (body : List Char) : List Char :=
  wrap (encodeBase64 (TextCodec.utf8Bytes (String.ofList body)))

def RESERVED_HEADERS : List (List Char) :=
  ["from", "to", "cc", "bcc", "subject", "date", "mime-version", "content-type",
    "content-transfer-encoding"].map String.toList

/-- The leading letters, in upper case. -/
def calendarMethod (method : List Char) : List Char :=
  let letters := (trim method).takeWhile fun c => c.isAlpha
  (if letters = [] then "REQUEST".toList else letters).map Char.toUpper

def alternative (env : MimeEnv) : List Char := "alt_".toList ++ env.alternativeId

def mixed (env : MimeEnv) : List Char := "mixed_".toList ++ env.mixedId

def base64Encoding : Field := ("Content-Transfer-Encoding".toList, "base64".toList)

def contentType (value : List Char) : Field := ("Content-Type".toList, value)

def plainText : List Char := "text/plain; charset=UTF-8".toList

def innerContentFields (env : MimeEnv) (options : MimeMessageOptions) : List Field :=
  match options.calendar with
  | some method =>
    [contentType ("text/calendar; method=".toList ++ calendarMethod method ++
      "; charset=UTF-8".toList), base64Encoding]
  | none =>
    if options.htmlBody ≠ [] then
      [contentType ("multipart/alternative; boundary=\"".toList ++ alternative env ++ ['"'])]
    else [contentType plainText, base64Encoding]

/-- A part of a multipart body. -/
def part (boundary : List Char) (fields : List Field) (body : List Char) : List Char :=
  "--".toList ++ boundary ++ crlf ++ fieldsMessage fields body ++ crlf ++ crlf

def closing (boundary : List Char) : List Char := "--".toList ++ boundary ++ "--".toList ++ crlf

def innerBody (env : MimeEnv) (options : MimeMessageOptions) : List Char :=
  if options.htmlBody ≠ [] ∧ options.calendar = none then
    part (alternative env) [contentType plainText, base64Encoding] (encodeBody options.textBody) ++
      part (alternative env) [contentType "text/html; charset=UTF-8".toList, base64Encoding]
        (encodeBody options.htmlBody) ++ closing (alternative env)
  else encodeBody options.textBody ++ crlf

def orElse (text other : List Char) : List Char := if text = [] then other else text

def attachmentPart (env : MimeEnv) (attachment : MimeAttachment) : List Char :=
  let filename := orElse (sanitizeHeaderValue attachment.filename.toList) "attachment".toList
  let encodedName := if filename.all isAsciiPrintable then '"' :: filename ++ ['"']
    else encodeWord filename
  let mimeType := orElse (sanitizeHeaderValue attachment.mimeType.toList)
    "application/octet-stream".toList
  part (mixed env) [contentType (mimeType ++ "; name=".toList ++ encodedName), base64Encoding,
    ("Content-Disposition".toList, "attachment; filename=".toList ++ encodedName)]
    (wrap (encodeBase64 attachment.content))

/-- Attachments of a calendar message are left out. -/
def attachmentsOf (options : MimeMessageOptions) : List MimeAttachment :=
  if options.calendar.isSome then [] else options.attachments

def contentFields (env : MimeEnv) (options : MimeMessageOptions) : List Field :=
  if attachmentsOf options = [] then innerContentFields env options
  else [contentType ("multipart/mixed; boundary=\"".toList ++ mixed env ++ ['"'])]

def mimeBody (env : MimeEnv) (options : MimeMessageOptions) : List Char :=
  if attachmentsOf options = [] then innerBody env options
  else "--".toList ++ mixed env ++ crlf ++
    fieldsMessage (innerContentFields env options) (innerBody env options) ++
    (attachmentsOf options).flatMap (attachmentPart env) ++ closing (mixed env)

/-! ## The message -/

def extraHeaders (headers : List Field) : List Field :=
  headers.filterMap fun header =>
    if toLowerCase header.1 ∈ RESERVED_HEADERS then none
    else
      let value := sanitizeHeaderValue header.2
      if value = [] then none
      else some (sanitizeHeaderValue header.1,
        if value.all isAsciiPrintable then value else encodeWord value)

/-- A field of a list of addresses, where there are any. -/
def addressField (name value : List Char) : List Field :=
  if value = [] then [] else [(name, encodeAddressList value)]

/-- The fields after those of the recipients. -/
def otherFields (env : MimeEnv) (options : MimeMessageOptions) : List Field :=
  [("Subject".toList, encodeUnstructured options.subject), ("Date".toList, env.date),
    ("MIME-Version".toList, "1.0".toList)] ++ contentFields env options ++
    extraHeaders options.headers

def mimeFields (env : MimeEnv) (options : MimeMessageOptions) : List Field :=
  [("From".toList, encodeAddressList options.sender),
    ("To".toList, encodeAddressList options.toAddresses)] ++
  addressField "Cc".toList options.cc ++ addressField "Bcc".toList options.bcc ++
  otherFields env options

def buildMimeMessage (env : MimeEnv) (options : MimeMessageOptions) : List Char :=
  fieldsMessage (mimeFields env options) (mimeBody env options)

/-! ## Headers of the caller -/

/-- The values of headers of the caller, as they stand in the message. -/
def headerValue (value : List Char) : List Char :=
  let clean := sanitizeHeaderValue value
  if clean.all isAsciiPrintable then clean else encodeWord clean

/-- A header of the caller, unless it is empty or `checked` is the name of a field of the builder's
own. -/
def keptHeader (checked : List Char) (header : Field) : Option Field :=
  if toLowerCase checked ∈ RESERVED_HEADERS ∨ sanitizeHeaderValue header.2 = [] then none
  else some (sanitizeHeaderValue header.1, headerValue header.2)

/-- What is checked is the name that goes into the message. -/
def intendedHeader (header : Field) : Option Field :=
  keptHeader (sanitizeHeaderValue header.1) header

/-! ## No line breaks -/

variable {text : List Char} {options : MimeMessageOptions}

theorem oneLine_of_printable (h : ∀ c ∈ text, isPrintable c = true) :
    OneLine text := by
  refine ⟨fun hr => ?_, fun hn => ?_⟩
  · exact absurd (h _ hr) (by decide)
  · exact absurd (h _ hn) (by decide)

theorem isAsciiPrintable_eq : isAsciiPrintable = isPrintable := by
  unfold isAsciiPrintable isPrintable
  rfl

theorem isPrintable_of_word {c : Char} (h : isWordChar c = true) : isPrintable c = true := by
  simp only [isWordChar, Bool.and_eq_true] at h
  exact h.1.1

/-- What the characters of the alphabet and the padding have. -/
theorem encodeBase64_chars {P : Char → Prop}
    (hletter : ∀ c ∈ TextCodec.alphabet, P (if c = '-' then '+' else if c = '_' then '/' else c))
    (hpadding : P '=') (bytes : List UInt8) : ∀ c ∈ encodeBase64 bytes, P c := by
  intro c hc
  rw [encodeBase64, List.mem_append] at hc
  rcases hc with hc | hc
  · obtain ⟨d, hd, rfl⟩ := List.mem_map.mp hc
    obtain ⟨n, hn, rfl⟩ := List.mem_map.mp hd
    exact TextCodec.forall_sextetChar hletter (TextCodec.toSextets_lt bytes n hn)
  · rwa [List.eq_of_mem_replicate hc]

theorem encodeBase64_words (bytes : List UInt8) :
    ∀ c ∈ encodeBase64 bytes, isWordChar c = true := by
  have hletters : TextCodec.alphabet.all (fun c =>
      isWordChar (if c = '-' then '+' else if c = '_' then '/' else c)) = true := by
    rw [TextCodec.alphabet_eq]
    decide +kernel
  exact encodeBase64_chars (List.all_eq_true.mp hletters) (by decide) bytes

theorem encodeWord_words (value : List Char) : ∀ c ∈ encodeWord value, isWordChar c = true := by
  have hstart : ∀ c ∈ "=?UTF-8?B?".toList, isWordChar c = true := by simp; decide
  have hend : ∀ c ∈ "?=".toList, isWordChar c = true := by simp; decide
  unfold encodeWord
  simp only [List.forall_mem_append]
  exact ⟨⟨hstart, encodeBase64_words _⟩, hend⟩

theorem encodeWord_oneLine (value : List Char) : OneLine (encodeWord value) :=
  oneLine_of_printable fun c hc => isPrintable_of_word (encodeWord_words value c hc)

theorem joinLines_oneLine (inBreak : Bool) (text : List Char) :
    OneLine (joinLines inBreak text) := by
  induction text generalizing inBreak with
  | nil => exact ⟨List.not_mem_nil, List.not_mem_nil⟩
  | cons c text ih =>
    unfold joinLines
    split
    · split
      · exact ih true
      · exact oneLine_cons.mpr ⟨by decide, ih true⟩
    · next hc => exact oneLine_cons.mpr ⟨not_or.mp hc, ih false⟩

theorem trim_subset (text : List Char) : trim text ⊆ text := by
  intro c hc
  rw [trim, List.mem_reverse] at hc
  have hdrop := (List.dropWhile_suffix isSpace).mem hc
  exact (List.dropWhile_suffix isSpace).mem (List.mem_reverse.mp hdrop)

theorem sanitizeHeaderValue_oneLine (value : List Char) : OneLine (sanitizeHeaderValue value) :=
  (joinLines_oneLine false value).subset (trim_subset _)

theorem encodeUnstructured_oneLine (value : List Char) : OneLine (encodeUnstructured value) := by
  unfold encodeUnstructured
  dsimp only
  split
  · exact sanitizeHeaderValue_oneLine value
  · exact encodeWord_oneLine _

theorem splitAddressesFrom_oneLine (inQuotes inBrackets escaped : Bool)
    {current : List Char} (hcurrent : OneLine current) (htext : OneLine text) :
    ∀ entry ∈ splitAddressesFrom inQuotes inBrackets escaped current text, OneLine entry := by
  have hentry {current : List Char} (h : OneLine current) : OneLine (trim current.reverse) :=
    h.subset fun c hc => List.mem_reverse.mp (trim_subset _ hc)
  induction text generalizing inQuotes inBrackets escaped current with
  | nil =>
    intro entry hmem
    unfold splitAddressesFrom at hmem
    split at hmem
    · cases hmem
    · rw [List.mem_singleton.mp hmem]
      exact hentry hcurrent
  | cons c text ih =>
    obtain ⟨hc, hrest⟩ := oneLine_cons.mp htext
    have hcons : OneLine (c :: current) := oneLine_cons.mpr ⟨hc, hcurrent⟩
    intro entry hmem
    unfold splitAddressesFrom at hmem
    dsimp only at hmem
    generalize (if c = '"' then !inQuotes else inQuotes) = quotes at hmem
    generalize (if c = '<' ∧ ¬ quotes then true else if c = '>' ∧ ¬ quotes then false
      else inBrackets) = brackets at hmem
    split at hmem
    · exact ih _ _ _ hcons hrest entry hmem
    split at hmem
    · exact ih _ _ _ hcons hrest entry hmem
    split at hmem
    · obtain rfl | hmem := List.mem_cons.mp hmem
      · exact hentry hcurrent
      · exact ih _ _ _ ⟨List.not_mem_nil, List.not_mem_nil⟩ hrest entry hmem
    · exact ih _ _ _ hcons hrest entry hmem

theorem mailboxParts_subset {text front address : List Char}
    (h : mailboxParts text = some (front, address)) : front ⊆ text ∧ address ⊆ text := by
  unfold mailboxParts at h
  split at h
  · next before hreverse =>
    have hbefore {c : Char} (hc : c ∈ before) : c ∈ text :=
      List.mem_reverse.mp (hreverse ▸ List.mem_cons_of_mem _ hc)
    have hsegment {c : Char} (hc : c ∈ (before.takeWhile (· ≠ '>')).reverse) : c ∈ text :=
      hbefore ((List.takeWhile_prefix _).mem (List.mem_reverse.mp hc))
    dsimp only at h
    split at h
    · next c inner hinner =>
      obtain ⟨rfl, rfl⟩ := Prod.mk.inj (Option.some.inj h)
      refine ⟨fun d hd => ?_, fun d hd => ?_⟩
      · have hmem := (List.dropWhile_suffix isSpace).mem (List.mem_reverse.mp hd)
        obtain hd | hd := List.mem_append.mp (List.mem_reverse.mp hmem)
        · exact hbefore ((List.dropWhile_suffix _).mem (List.mem_reverse.mp hd))
        · exact hsegment ((List.takeWhile_prefix _).mem hd)
      · refine hsegment ((List.dropWhile_suffix (p := (· ≠ '<'))).mem ?_)
        rw [hinner]
        exact List.mem_cons_of_mem _ hd
    · cases h
  · cases h

theorem unquote_subset (text : List Char) : unquote text ⊆ text := by
  have hopened : (if text.head? = some '"' then text.tail else text) ⊆ text := by
    split
    · exact fun c hc => List.mem_of_mem_tail hc
    · exact fun c hc => hc
  unfold unquote
  dsimp only
  generalize (if text.head? = some '"' then text.tail else text) = opened at hopened
  split
  · exact fun c hc => hopened (List.dropLast_subset _ hc)
  · exact hopened

theorem encodeAddress_oneLine {entry : List Char} (h : OneLine entry) :
    OneLine (encodeAddress entry) := by
  have htrimmed : OneLine (trim entry) := h.subset (trim_subset entry)
  have hbracketed {address : List Char} (haddress : address ⊆ trim entry) :
      OneLine ('<' :: address ++ ['>']) :=
    oneLine_append (oneLine_cons.mpr ⟨by decide, htrimmed.subset haddress⟩)
      (oneLine_cons.mpr ⟨by decide, List.not_mem_nil, List.not_mem_nil⟩)
  unfold encodeAddress
  dsimp only
  split
  · split
    · exact htrimmed
    · exact encodeWord_oneLine _
  · next front address hparts =>
    obtain ⟨hfront, haddress⟩ := mailboxParts_subset hparts
    split
    · exact hbracketed haddress
    · rw [List.append_assoc, List.append_assoc]
      refine oneLine_append ?_ (oneLine_append (by decide) (hbracketed haddress))
      split
      · refine oneLine_append (oneLine_cons.mpr ⟨by decide, ?_⟩) (by decide)
        exact htrimmed.subset fun c hc => hfront (unquote_subset _ (trim_subset _ hc))
      · exact encodeWord_oneLine _

theorem joinAddresses_cons (entry next : List Char) (entries : List (List Char)) :
    joinAddresses (entry :: next :: entries) =
      entry ++ [',', ' '] ++ joinAddresses (next :: entries) :=
  List.intercalate_cons_cons

theorem joinAddresses_oneLine {entries : List (List Char)} (h : ∀ entry ∈ entries, OneLine entry) :
    OneLine (joinAddresses entries) := by
  induction entries with
  | nil => exact ⟨List.not_mem_nil, List.not_mem_nil⟩
  | cons entry entries ih =>
    obtain ⟨hentry, hentries⟩ := List.forall_mem_cons.mp h
    cases entries with
    | nil =>
      rw [joinAddresses, List.intercalate_singleton]
      exact hentry
    | cons next entries =>
      rw [joinAddresses_cons]
      exact oneLine_append (oneLine_append hentry (by decide)) (ih hentries)

theorem encodeAddressList_oneLine (value : List Char) : OneLine (encodeAddressList value) := by
  have hclean := sanitizeHeaderValue_oneLine value
  unfold encodeAddressList
  dsimp only
  split
  · exact hclean
  · refine joinAddresses_oneLine fun entry hentry => ?_
    obtain ⟨raw, hraw, rfl⟩ := List.mem_map.mp hentry
    exact encodeAddress_oneLine (splitAddressesFrom_oneLine _ _ _
      ⟨List.not_mem_nil, List.not_mem_nil⟩ hclean raw hraw)

/-! ## Fields of a message -/

/-- Headers of a caller that pass for no field of recipients. -/
structure PlainHeader (header : Field) : Prop where
  name : ':' ∉ sanitizeHeaderValue header.1
  unaddressed : (sanitizeHeaderValue header.1).map Char.toLower ∉
    ["to".toList, "cc".toList, "bcc".toList]

/-- A sound field that names no recipients. -/
def Unaddressed (f : Field) : Prop :=
  f.Sound ∧ f.1.map Char.toLower ∉ ["to".toList, "cc".toList, "bcc".toList]

theorem extraHeaders_unaddressed {headers : List Field} (h : ∀ header ∈ headers, PlainHeader header) :
    ∀ f ∈ extraHeaders headers, Unaddressed f := by
  intro f hf
  obtain ⟨header, hheader, hsome⟩ := List.mem_filterMap.mp hf
  dsimp only at hsome
  split at hsome
  · cases hsome
  · split at hsome
    · cases hsome
    · cases hsome
      refine ⟨⟨sanitizeHeaderValue_oneLine _, ?_, (h header hheader).name⟩,
        (h header hheader).unaddressed⟩
      dsimp only
      split
      · exact sanitizeHeaderValue_oneLine _
      · exact encodeWord_oneLine _

theorem unaddressed_of {name body : List Char} (hbody : OneLine body)
    (hname : OneLine name ∧ ':' ∉ name ∧
      name.map Char.toLower ∉ ["to".toList, "cc".toList, "bcc".toList]) :
    Unaddressed (name, body) :=
  ⟨⟨hname.1, hbody, hname.2.1⟩, hname.2.2⟩

theorem contentFields_unaddressed (env : MimeEnv)
    (hcalendar : options.calendar = none) : ∀ f ∈ contentFields env options, Unaddressed f := by
  have htype {value : List Char} (hvalue : OneLine value) : Unaddressed (contentType value) :=
    unaddressed_of hvalue (by decide +kernel)
  have hencoding : Unaddressed base64Encoding :=
    unaddressed_of (by decide +kernel) (by decide +kernel)
  have hquoted {front id : List Char} (hfront : OneLine front) (hid : OneLine id) :
      Unaddressed (contentType (front ++ id ++ ['"'])) :=
    htype (oneLine_append (oneLine_append hfront hid) (by decide))
  unfold contentFields innerContentFields
  rw [hcalendar]
  dsimp only
  intro f hf
  split at hf
  · split at hf
    · rw [List.mem_singleton.mp hf]
      exact hquoted (by decide +kernel)
        (oneLine_append (by decide +kernel) env.alternativeId_oneLine)
    · obtain rfl | hf := List.mem_cons.mp hf
      · exact htype (by decide +kernel)
      · rw [List.mem_singleton.mp hf]
        exact hencoding
  · rw [List.mem_singleton.mp hf]
    exact hquoted (by decide +kernel) (oneLine_append (by decide +kernel) env.mixedId_oneLine)

theorem otherFields_unaddressed (env : MimeEnv) (hcalendar : options.calendar = none)
    (hheaders : ∀ header ∈ options.headers, PlainHeader header) :
    ∀ f ∈ otherFields env options, Unaddressed f := by
  unfold otherFields
  simp only [List.forall_mem_append, List.forall_mem_cons, List.not_mem_nil, false_implies,
    implies_true, and_true]
  refine ⟨⟨⟨?_, ?_, ?_⟩, contentFields_unaddressed env hcalendar⟩,
    extraHeaders_unaddressed hheaders⟩
  · exact unaddressed_of (encodeUnstructured_oneLine _) (by decide +kernel)
  · exact unaddressed_of env.date_oneLine (by decide +kernel)
  · exact unaddressed_of (by decide +kernel) (by decide +kernel)

theorem sound_of {name body : List Char} (hbody : OneLine body)
    (hname : OneLine name ∧ ':' ∉ name) : Field.Sound (name, body) :=
  ⟨hname.1, hbody, hname.2⟩

theorem addressField_sound {name value : List Char} (hname : OneLine name ∧ ':' ∉ name) :
    ∀ f ∈ addressField name value, f.Sound := by
  unfold addressField
  split
  · exact fun f hf => absurd hf List.not_mem_nil
  · intro f hf
    rw [List.mem_singleton.mp hf]
    exact sound_of (encodeAddressList_oneLine _) hname

theorem mimeFields_sound (env : MimeEnv) (hcalendar : options.calendar = none)
    (hheaders : ∀ header ∈ options.headers, PlainHeader header) :
    ∀ f ∈ mimeFields env options, f.Sound := by
  unfold mimeFields
  simp only [List.forall_mem_append, List.forall_mem_cons, List.not_mem_nil, false_implies,
    implies_true, and_true]
  refine ⟨⟨⟨⟨?_, ?_⟩, addressField_sound (by decide +kernel)⟩,
    addressField_sound (by decide +kernel)⟩, fun f hf =>
      (otherFields_unaddressed env hcalendar hheaders f hf).1⟩
  · exact sound_of (encodeAddressList_oneLine _) (by decide +kernel)
  · exact sound_of (encodeAddressList_oneLine _) (by decide +kernel)

/-! ## Blind copies -/

def withoutBcc (options : MimeMessageOptions) : MimeMessageOptions := { options with bcc := [] }

theorem filter_addressField {name value field : List Char}
    (h : name.map Char.toLower ≠ field) :
    (addressField name value).filter (fun f => f.1.map Char.toLower ≠ field) =
      addressField name value := by
  unfold addressField
  split
  · rfl
  · simp [h]

/-- **Blind copies.** Without its field of blind copies, a message is the one that was built without
them. -/
theorem withoutField_buildMimeMessage (env : MimeEnv) (hcalendar : options.calendar = none)
    (hheaders : ∀ header ∈ options.headers, PlainHeader header) :
    withoutField "bcc".toList (buildMimeMessage env options) =
      buildMimeMessage env (withoutBcc options) := by
  rw [buildMimeMessage, withoutField_message (mimeFields_sound env hcalendar hheaders)]
  have hother : (otherFields env options).filter
      (fun f => f.1.map Char.toLower ≠ "bcc".toList) = otherFields env options := by
    refine List.filter_eq_self.mpr fun f hf => decide_eq_true fun hname => ?_
    have hunaddressed := (otherFields_unaddressed env hcalendar hheaders f hf).2
    rw [hname] at hunaddressed
    exact hunaddressed (by decide +kernel)
  have hbcc : (addressField "Bcc".toList options.bcc).filter
      (fun f => f.1.map Char.toLower ≠ "bcc".toList) = [] := by
    unfold addressField
    split
    · rfl
    · simp
  have hfields : (mimeFields env options).filter
      (fun f => f.1.map Char.toLower ≠ "bcc".toList) = mimeFields env (withoutBcc options) := by
    have hnames : ([("From".toList, encodeAddressList options.sender),
        ("To".toList, encodeAddressList options.toAddresses)] : List Field).filter
        (fun f => f.1.map Char.toLower ≠ "bcc".toList) =
          [("From".toList, encodeAddressList options.sender),
            ("To".toList, encodeAddressList options.toAddresses)] := by
      simp
    unfold mimeFields
    simp only [List.filter_append]
    rw [hother, hbcc, filter_addressField (by decide +kernel), hnames]
    rfl
  rw [hfields]
  rfl

/-! ## Lists of recipients -/

/-- Printable texts that neither begin nor end in white space. -/
structure Entry (text : List Char) : Prop where
  printable : ∀ c ∈ text, isPrintable c = true
  first : ∃ c rest, text = c :: rest ∧ isSpace c = false
  last : ∃ front c, text = front ++ [c] ∧ isSpace c = false

theorem Entry.trim (h : Entry text) : Address.trim text = text := by
  obtain ⟨c, rest, hfirst, hc⟩ := h.first
  obtain ⟨front, d, hlast, hd⟩ := h.last
  have hdrop : text.dropWhile isSpace = text := by
    rw [hfirst, List.dropWhile_cons_of_neg (by simp [hc])]
  rw [Address.trim, hdrop, hlast, reverse_dropWhile_isSpace_concat hd]

theorem joinLines_eq_self (h : OneLine text) : joinLines false text = text := by
  induction text with
  | nil => rfl
  | cons c text ih =>
    obtain ⟨hc, htext⟩ := oneLine_cons.mp h
    rw [joinLines, if_neg (not_or.mpr hc), ih htext]

theorem Entry.encodeAddressList (h : Entry text) :
    MimeBuilder.encodeAddressList text = text := by
  have hclean : sanitizeHeaderValue text = text := by
    rw [sanitizeHeaderValue, joinLines_eq_self (oneLine_of_printable h.printable), h.trim]
  unfold MimeBuilder.encodeAddressList
  rw [hclean, isAsciiPrintable_eq, if_pos (List.all_eq_true.mpr h.printable)]

theorem Entry.join {entries : List (List Char)} (hne : entries ≠ [])
    (h : ∀ entry ∈ entries, Entry entry) : Entry (joinAddresses entries) := by
  induction entries with
  | nil => exact absurd rfl hne
  | cons entry entries ih =>
    obtain ⟨hentry, hentries⟩ := List.forall_mem_cons.mp h
    cases entries with
    | nil =>
      rw [joinAddresses, List.intercalate_singleton]
      exact hentry
    | cons next entries =>
      have hrest := ih (List.cons_ne_nil _ _) hentries
      obtain ⟨c, rest, hfirst, hc⟩ := hentry.first
      obtain ⟨front, d, hlast, hd⟩ := hrest.last
      rw [joinAddresses_cons]
      refine ⟨?_, ⟨c, _, by rw [hfirst]; rfl, hc⟩, ⟨_, d, by rw [hlast, ← List.append_assoc], hd⟩⟩
      simp only [List.forall_mem_append]
      exact ⟨⟨hentry.printable, List.all_eq_true.mp rfl⟩, hrest.printable⟩

theorem isSpace_of_address {c : Char} (h : isAddressChar c = true) : isSpace c = false := by
  simp [isAddressChar, isPrintable] at h
  obtain ⟨⟨⟨hlow, hhigh⟩, hspace⟩, -⟩ := h
  have hne : c.toNat ≠ 0x20 := fun heq => hspace (Char.toNat_inj.mp heq)
  simp only [isSpace, List.mem_cons, List.not_mem_nil, or_false, decide_eq_false_iff_not]
  omega

theorem isPrintable_of_address {c : Char} (h : isAddressChar c = true) : isPrintable c = true := by
  simp only [isAddressChar, Bool.and_eq_true] at h
  exact h.1.1

theorem entry_of_address {address : List Char} (h : IsAddress address) : Entry address := by
  refine ⟨fun c hc => isPrintable_of_address (h.chars c hc), ?_, ?_⟩
  · obtain ⟨c, rest, hfirst⟩ := List.exists_cons_of_ne_nil h.nonempty
    exact ⟨c, rest, hfirst, isSpace_of_address (h.chars c (hfirst ▸ List.mem_cons_self))⟩
  · obtain ⟨front, c, hlast⟩ := (List.eq_nil_or_concat' address).resolve_left h.nonempty
    exact ⟨front, c, hlast, isSpace_of_address (h.chars c (by rw [hlast]; simp))⟩

theorem trim_first (h : trim text ≠ []) :
    ∃ c rest, trim text = c :: rest ∧ isSpace c = false := by
  obtain ⟨c, rest, hfirst⟩ := List.exists_cons_of_ne_nil h
  refine ⟨c, rest, hfirst, ?_⟩
  have hprefix : trim text <+: text.dropWhile isSpace := by
    rw [trim, ← List.reverse_suffix, List.reverse_reverse]
    exact List.dropWhile_suffix isSpace
  obtain ⟨more, hmore⟩ := hprefix
  rw [hfirst, List.cons_append] at hmore
  have hhead := List.head?_dropWhile_not isSpace text
  rw [← hmore] at hhead
  simpa using hhead

theorem plain_of_safe {c : Char} (h : isSafeUnquoted c = true) :
    c ≠ '@' ∧ isSpecial c = false := by
  refine ⟨fun hc => ?_, Bool.not_eq_true _ ▸ fun hc => ?_⟩
  · rw [hc] at h
    exact absurd h (by decide)
  · have hspecial : ∀ d ∈ ['(', ')', '<', '>', '[', ']', ':', ';', '\\', ',', '"'],
        isSafeUnquoted d = false := by
      refine fun d hd => (Bool.not_eq_true _).mp fun hsafe => ?_
      exact absurd (List.any_eq_true.mpr ⟨d, hd, hsafe⟩) (by decide)
    rw [hspecial c (of_decide_eq_true hc)] at h
    cases h

theorem quoted_printable (h : ∀ c ∈ text, isPrintable c = true) :
    ∀ c ∈ quoted text, isPrintable c = true := by
  unfold quoted
  simp only [List.forall_mem_append, List.forall_mem_cons, List.not_mem_nil, false_implies,
    implies_true, and_true, List.mem_flatMap]
  refine ⟨⟨by decide, ?_⟩, by decide⟩
  rintro c ⟨d, hd, hc⟩
  split at hc
  · obtain rfl | hc := List.mem_cons.mp hc
    · decide
    · exact List.mem_singleton.mp hc ▸ h d hd
  · exact List.mem_singleton.mp hc ▸ h d hd

/-- A display name stands as a phrase that is printable and begins with no white space. -/
theorem displayName_phrase {name : List Char} (hne : trim name ≠ []) :
    IsPhrase (displayName (trim name)) ∧ (∀ c ∈ displayName (trim name), isPrintable c = true) ∧
      ∃ c rest, displayName (trim name) = c :: rest ∧ isSpace c = false := by
  have hfirst := trim_first hne
  generalize trim name = clean at hfirst
  unfold displayName
  split
  · have hwords := encodeWord_words clean
    refine ⟨.words hwords, fun c hc => isPrintable_of_word (hwords c hc), '=', ?_⟩
    unfold encodeWord
    exact ⟨_, rfl, by decide⟩
  · next hprintable =>
    rw [not_not, isAsciiPrintable_eq, List.all_eq_true] at hprintable
    split
    · next hsafe =>
      refine ⟨.words fun c hc => ?_, hprintable, hfirst⟩
      obtain ⟨hat, hspecial⟩ := plain_of_safe (List.all_eq_true.mp hsafe c hc)
      simp [isWordChar, hprintable c hc, hat, hspecial]
    · exact ⟨.quoted hprintable, quoted_printable hprintable, '"', _, rfl, by decide⟩

/-- A formatted address is a mailbox of its address. -/
theorem formatAddress_mailbox {a : EmailAddress} (h : IsAddress a.address.toList) :
    IsMailbox a.address.toList (formatAddress a) ∧ Entry (formatAddress a) := by
  have haddress := entry_of_address h
  unfold formatAddress
  dsimp only
  rw [haddress.trim]
  split
  · exact ⟨.bare, haddress⟩
  · next hname =>
    obtain ⟨hphrase, hprintable, c, rest, hfirst, hc⟩ := displayName_phrase hname
    refine ⟨.named hphrase, ?_, ⟨c, _, by rw [hfirst]; rfl, hc⟩, ⟨_, '>', rfl, by decide⟩⟩
    simp only [List.forall_mem_append, List.forall_mem_cons]
    exact ⟨⟨⟨hprintable, by decide, List.forall_mem_nil _⟩, by decide, haddress.printable⟩,
      by decide, List.forall_mem_nil _⟩

end SesEmailAdapter.Email.MimeBuilder
