import SesEmailAdapter.Email.MimeBuilder
import SesEmailAdapter.Lib.Multipart

/-! # Messages, read back

A message of the builder is read as mail clients read it: its header fields, the parts between the
declared boundaries, the bytes of each part and the names of its files. No line of a part begins
like a boundary, so the parts that are read are those that were written. -/

namespace SesEmailAdapter.Email.MimeReading
open Lib Lib.MessageFormat Lib.Multipart
open Email.Address Email.MimeBuilder

/-! ## The reader -/

/-- Header fields, with their names in lower case, and a body. -/
abbrev Entity := List Field × List Char

def readEntity (text : List Char) : Entity := (headerFields text, (readMessage text).2)

def fieldOf (name : List Char) (fields : List Field) : Option (List Char) :=
  (fields.find? fun f => f.1 = name).map Prod.snd

/-- A parameter of a field, which is the first one in it. -/
def parameterOf (field parameter : List Char) (fields : List Field) : Option (List Char) :=
  ((fieldOf field fields).bind firstParameter).bind fun found =>
    if found.1 = parameter then some found.2 else none

/-- A quoted value. -/
def readQuotedValue : List Char → Option (List Char)
  | '"' :: rest => readQuoted rest
  | _ => none

def boundaryOf (fields : List Field) : Option (List Char) :=
  (parameterOf "content-type".toList "boundary".toList fields).bind readQuotedValue

def partsIn (e : Entity) : List Entity :=
  match boundaryOf e.1 with
  | some boundary => (partsOf boundary e.2).map readEntity
  | none => []

/-- Base64, whatever its line breaks are. -/
def bytesOf (e : Entity) : List UInt8 := TextCodec.decodeBase64url e.2

def decodeWord (word : List Char) : Option (List Char) :=
  if "=?UTF-8?B?".toList <+: word then
    (TextCodec.ofUtf8Bytes (TextCodec.decodeBase64url ((word.drop 10).takeWhile (· ≠ '?')))).map
      String.toList
  else none

/-- The name of a file, in quotes or as an encoded word. -/
def fileName (e : Entity) : Option (List Char) :=
  (parameterOf "content-disposition".toList "filename".toList e.1).bind fun value =>
    readQuotedValue value <|> decodeWord value

/-! ## What is meant -/

def lowerName (f : Field) : Field := (f.1.map Char.toLower, f.2)

def recipientFields (options : MimeMessageOptions) : List Field :=
  [("From".toList, encodeAddressList options.sender),
    ("To".toList, encodeAddressList options.toAddresses)] ++
  addressField "Cc".toList options.cc ++ addressField "Bcc".toList options.bcc

def subjectFields (env : MimeEnv) (options : MimeMessageOptions) : List Field :=
  [("Subject".toList, encodeUnstructured options.subject), ("Date".toList, env.date),
    ("MIME-Version".toList, "1.0".toList)]

/-- The fields of the builder's own. -/
def builderFields (env : MimeEnv) (options : MimeMessageOptions) : List Field :=
  recipientFields options ++ subjectFields env options ++ contentFields env options

def intendedFields (env : MimeEnv) (options : MimeMessageOptions) : List Field :=
  builderFields env options ++ options.headers.filterMap intendedHeader

def textBytes (text : List Char) : List UInt8 := TextCodec.utf8Bytes (String.ofList text)

/-- The name that a file is given. -/
def givenName (a : MimeAttachment) : List Char :=
  orElse (sanitizeHeaderValue a.filename.toList) "attachment".toList

/-- The text of the message, alone or beside its HTML. -/
def InnerRead (options : MimeMessageOptions) (e : Entity) : Prop :=
  if options.htmlBody ≠ [] ∧ options.calendar = none then
    (partsIn e).map (fun part => (fieldOf "content-type".toList part.1, bytesOf part)) =
      [(some plainText, textBytes options.textBody),
        (some "text/html; charset=UTF-8".toList, textBytes options.htmlBody)]
  else bytesOf e = textBytes options.textBody

/-- The message is read as it was meant. -/
structure ReadsAsMeant (env : MimeEnv) (options : MimeMessageOptions) : Prop where
  header : headerFields (buildMimeMessage env options) =
    (intendedFields env options).map lowerName
  single : attachmentsOf options = [] →
    InnerRead options (readEntity (buildMimeMessage env options))
  mixed : attachmentsOf options ≠ [] → ∃ inner files,
    partsIn (readEntity (buildMimeMessage env options)) = inner :: files ∧
      InnerRead options inner ∧
      files.map (fun file => (fileName file, bytesOf file)) =
        (attachmentsOf options).map fun a => (some (givenName a), a.content)

/-! ## Fields and their lines -/

/-- A field that is one line, whatever its name is. -/
structure Lined (f : Field) : Prop where
  name : OneLine f.1
  body : OneLine f.2

theorem Lined.line {f : Field} (h : Lined f) : fieldLine f ≠ [] ∧ OneLine (fieldLine f) := by
  refine ⟨by simp [fieldLine], oneLine_append h.name ?_⟩
  exact oneLine_cons.mpr ⟨by decide, oneLine_cons.mpr ⟨by decide, h.body⟩⟩

/-- A message is read back into its lines, also where a name has a colon. -/
theorem readMessage_lines {fields : List Field} (h : ∀ f ∈ fields, Lined f) (body : List Char) :
    readMessage (fieldsMessage fields body) = (fields.map fieldLine, body) := by
  refine readMessage_message _ _ fun line hline => ?_
  obtain ⟨f, hf, rfl⟩ := List.mem_map.mp hline
  exact (h f hf).line

theorem readEntity_message {fields : List Field} (h : ∀ f ∈ fields, f.Sound) (body : List Char) :
    readEntity (fieldsMessage fields body) = (fields.map lowerName, body) := by
  rw [readEntity, headerFields_message h, readMessage_fields h]
  rfl

/-- What stands behind the text of a message is part of its body. -/
theorem fieldsMessage_append (fields : List Field) (body rest : List Char) :
    fieldsMessage fields body ++ rest = fieldsMessage fields (body ++ rest) := by
  simp [fieldsMessage, message]

theorem toUpper_alpha {c : Char} (h : c.isAlpha = true) : 65 ≤ c.toUpper.toNat := by
  unfold Char.toUpper
  split
  · next hlower =>
    have hlow : 97 ≤ c.val.toNat := UInt32.le_iff_toNat_le.mp hlower.1
    have hhigh : c.val.toNat ≤ 122 := UInt32.le_iff_toNat_le.mp hlower.2
    have hshift : ('A'.val - 'a'.val).toNat = 4294967264 := by decide
    show 65 ≤ (c.val + ('A'.val - 'a'.val)).toNat
    rw [UInt32.toNat_add]
    omega
  · next hlower =>
    obtain hupper | hlow := Bool.or_eq_true_iff.mp h
    · have hbounds : c.val ≥ 'A'.val ∧ c.val ≤ 'Z'.val := of_decide_eq_true hupper
      exact UInt32.le_iff_toNat_le.mp hbounds.1
    · obtain ⟨hleft, hright⟩ := Bool.and_eq_true_iff.mp hlow
      exact absurd ⟨of_decide_eq_true hleft, of_decide_eq_true hright⟩ hlower

theorem calendarMethod_oneLine (method : List Char) : OneLine (calendarMethod method) := by
  have hhigh : ∀ c ∈ calendarMethod method, 65 ≤ c.toNat := by
    intro c hc
    obtain ⟨d, hd, rfl⟩ := List.mem_map.mp hc
    refine toUpper_alpha ?_
    split at hd
    · exact List.all_eq_true.mp (by decide : "REQUEST".toList.all Char.isAlpha = true) d hd
    · exact List.mem_takeWhile_imp hd
  constructor
  · intro hr
    exact absurd (hhigh _ hr) (by decide)
  · intro hn
    exact absurd (hhigh _ hn) (by decide)

/-! ## Fields of the content -/

/-- A sound field of a part, whose line is no delimiter. -/
structure PartField (f : Field) : Prop where
  sound : f.Sound
  first : f.1.head? = some 'C'

theorem PartField.avoids {f : Field} (h : PartField f) (boundary : List Char) :
    Avoids boundary (fieldLine f) := by
  obtain ⟨hsound, hfirst⟩ := h
  obtain ⟨name, body⟩ := f
  obtain ⟨c, rest, rfl⟩ := List.exists_cons_of_ne_nil (l := name) (by rintro rfl; simp at hfirst)
  obtain rfl : c = 'C' := by simpa using hfirst
  exact avoids_cons (by decide) hsound.line.2

theorem partField_of {name body : List Char} (hbody : OneLine body)
    (hname : (OneLine name ∧ ':' ∉ name) ∧ name.head? = some 'C') : PartField (name, body) :=
  ⟨sound_of hbody hname.1, hname.2⟩

theorem contentType_part {value : List Char} (h : OneLine value) : PartField (contentType value) :=
  partField_of h (by decide)

theorem base64Encoding_part : PartField base64Encoding :=
  partField_of (by decide) (by decide)

variable (env : MimeEnv) (options : MimeMessageOptions)

theorem alternative_oneLine : OneLine (alternative env) :=
  oneLine_append (by decide) env.alternativeId_oneLine

theorem mixed_oneLine : OneLine (mixed env) :=
  oneLine_append (by decide) env.mixedId_oneLine

theorem multipartType_part {front boundary : List Char} (hfront : OneLine front)
    (h : OneLine boundary) : PartField (contentType (front ++ boundary ++ ['"'])) :=
  contentType_part (oneLine_append (oneLine_append hfront h) (by decide))

theorem innerContentFields_part : ∀ f ∈ innerContentFields env options, PartField f := by
  unfold innerContentFields
  split
  · next method _ =>
    have hvalue := oneLine_append (oneLine_append (by decide : OneLine
      "text/calendar; method=".toList) (calendarMethod_oneLine method))
      (by decide : OneLine "; charset=UTF-8".toList)
    simp only [List.forall_mem_cons]
    exact ⟨contentType_part hvalue, base64Encoding_part, List.forall_mem_nil _⟩
  · split
    · simp only [List.forall_mem_cons]
      exact ⟨multipartType_part (by decide) (alternative_oneLine env),
        List.forall_mem_nil _⟩
    · simp only [List.forall_mem_cons]
      exact ⟨contentType_part (by decide), base64Encoding_part, List.forall_mem_nil _⟩

theorem contentFields_part : ∀ f ∈ contentFields env options, PartField f := by
  unfold contentFields
  split
  · exact innerContentFields_part env options
  · simp only [List.forall_mem_cons]
    exact ⟨multipartType_part (by decide) (mixed_oneLine env), List.forall_mem_nil _⟩

/-! ## Files -/

def encodedName (a : MimeAttachment) : List Char :=
  if (givenName a).all isAsciiPrintable then '"' :: givenName a ++ ['"']
  else encodeWord (givenName a)

def mediaType (a : MimeAttachment) : List Char :=
  orElse (sanitizeHeaderValue a.mimeType.toList) "application/octet-stream".toList

def fileFields (a : MimeAttachment) : List Field :=
  [contentType (mediaType a ++ "; name=".toList ++ encodedName a), base64Encoding,
    ("Content-Disposition".toList, "attachment; filename=".toList ++ encodedName a)]

/-- The part of a file, without the boundaries around it. -/
def filePart (a : MimeAttachment) : List Char :=
  fieldsMessage (fileFields a) (wrap (encodeBase64 a.content) ++ crlf)

theorem orElse_oneLine {text other : List Char} (h : OneLine text) (hother : OneLine other) :
    OneLine (orElse text other) := by
  unfold orElse
  split
  · exact hother
  · exact h

theorem givenName_oneLine (a : MimeAttachment) : OneLine (givenName a) :=
  orElse_oneLine (sanitizeHeaderValue_oneLine _) (by decide)

theorem encodedName_oneLine (a : MimeAttachment) : OneLine (encodedName a) := by
  unfold encodedName
  split
  · exact oneLine_append (oneLine_cons.mpr ⟨by decide, givenName_oneLine a⟩) (by decide)
  · exact encodeWord_oneLine _

theorem fileFields_part (a : MimeAttachment) : ∀ f ∈ fileFields a, PartField f := by
  have htype : OneLine (mediaType a) :=
    orElse_oneLine (sanitizeHeaderValue_oneLine _) (by decide)
  have hname := encodedName_oneLine a
  simp only [fileFields, List.forall_mem_cons]
  refine ⟨contentType_part ?_, base64Encoding_part, partField_of ?_ (by decide),
    List.forall_mem_nil _⟩
  · exact oneLine_append (oneLine_append htype (by decide)) hname
  · exact oneLine_append (by decide) hname

/-! ## Encoded bytes -/

theorem flatten_toChunks (n : Nat) (l : List Char) : (l.toChunks n).flatten = l := by
  have hgo (n : Nat) (l : List Char) (acc₁ : Array Char) (acc₂ : Array (List Char)) :
      (List.toChunks.go n l acc₁ acc₂).flatten = acc₂.toList.flatten ++ acc₁.toList ++ l := by
    induction l generalizing acc₁ acc₂ with
    | nil => simp [List.toChunks.go]
    | cons c l ih =>
      rw [List.toChunks.go]
      split
      · simp [ih]
      · simp [ih]
  cases l with
  | nil => cases n <;> rfl
  | cons c l =>
    cases n with
    | zero => simp [List.toChunks]
    | succ n => simp [List.toChunks, hgo]

theorem filterMap_wrap {f : Char → Option Nat} (hr : f '\r' = none) (hn : f '\n' = none)
    (encoded : List Char) : (wrap encoded).filterMap f = encoded.filterMap f := by
  have hjoin (lines : List (List Char)) :
      (List.intercalate crlf lines).filterMap f = lines.flatten.filterMap f := by
    induction lines with
    | nil => rfl
    | cons line lines ih =>
      cases lines with
      | nil => simp [List.intercalate_singleton]
      | cons next lines =>
        rw [List.intercalate_cons_cons, List.filterMap_append, List.filterMap_append, ih]
        simp [crlf, hr, hn]
  rw [wrap, hjoin, flatten_toChunks]

/-- The two symbols that the alphabets differ in have the same values. -/
theorem decode_encodeBase64 (bytes : List UInt8) :
    TextCodec.decodeBase64url (encodeBase64 bytes) = bytes := by
  have hsextet (c : Char) : TextCodec.charSextet
      (if c = '-' then '+' else if c = '_' then '/' else c) = TextCodec.charSextet c := by
    by_cases hdash : c = '-'
    · rw [if_pos hdash, hdash]
      decide
    · by_cases hline : c = '_'
      · rw [if_neg hdash, if_pos hline, hline]
        decide
      · rw [if_neg hdash, if_neg hline]
  have hpad (n : Nat) : (List.replicate n '=').filterMap TextCodec.charSextet = [] := by
    refine List.filterMap_eq_nil_iff.mpr fun c hc => ?_
    rw [List.eq_of_mem_replicate hc]
    decide
  have hplain := TextCodec.decodeBase64url_encode bytes
  unfold TextCodec.decodeBase64url at hplain ⊢
  unfold encodeBase64
  dsimp only
  rw [List.filterMap_append, hpad, List.append_nil, List.filterMap_map]
  have hcomp : TextCodec.charSextet ∘ (fun c : Char =>
      if c = '-' then '+' else if c = '_' then '/' else c) = TextCodec.charSextet :=
    funext hsextet
  rw [hcomp]
  exact hplain

theorem decode_wrap (bytes : List UInt8) (rest : List Char) (hrest : rest = [] ∨ rest = crlf) :
    TextCodec.decodeBase64url (wrap (encodeBase64 bytes) ++ rest) = bytes := by
  have hnone : rest.filterMap TextCodec.charSextet = [] := by
    rcases hrest with rfl | rfl
    · rfl
    · decide
  have hplain := decode_encodeBase64 bytes
  unfold TextCodec.decodeBase64url at hplain ⊢
  rw [List.filterMap_append, hnone, List.append_nil,
    filterMap_wrap (by decide) (by decide), hplain]

theorem dash_not_mem_wrap (bytes : List UInt8) : '-' ∉ wrap (encodeBase64 bytes) := by
  have hencoded : '-' ∉ encodeBase64 bytes := by
    unfold encodeBase64
    dsimp only
    intro hmem
    rcases List.mem_append.mp hmem with hmem | hmem
    · obtain ⟨c, -, hc⟩ := List.mem_map.mp hmem
      split at hc
      · exact absurd hc (by decide)
      · next hdash =>
        split at hc
        · exact absurd hc (by decide)
        · exact hdash hc
    · exact absurd (List.eq_of_mem_replicate hmem) (by decide)
  have hmark : (encodeBase64 bytes).filterMap (fun c => if c = '-' then some 0 else none) = [] :=
    List.filterMap_eq_nil_iff.mpr fun c hc => if_neg (ne_of_mem_of_not_mem hc hencoded)
  rw [← filterMap_wrap (by decide) (by decide)] at hmark
  intro hmem
  exact absurd (List.filterMap_eq_nil_iff.mp hmark '-' hmem) (by decide)

/-! ## The parts of a message -/

/-- The parts of a message with HTML. -/
def alternatives : List (List Char) :=
  [fieldsMessage [contentType plainText, base64Encoding] (encodeBody options.textBody ++ crlf),
    fieldsMessage [contentType "text/html; charset=UTF-8".toList, base64Encoding]
      (encodeBody options.htmlBody ++ crlf)]

/-- The content without its last line break. -/
def innerContent : List Char :=
  if options.htmlBody ≠ [] ∧ options.calendar = none then
    multipart (alternative env) (alternatives options)
  else encodeBody options.textBody

theorem part_eq (boundary : List Char) (fields : List Field) (body : List Char) :
    part boundary fields body =
      delimiter boundary ++ crlf ++ fieldsMessage fields (body ++ crlf) ++ crlf := by
  have hdashes : "--".toList = dashes := by decide
  delta part
  rw [hdashes, List.append_assoc _ (fieldsMessage _ _), List.append_assoc _ (fieldsMessage _ _),
    ← fieldsMessage_append]
  simp [delimiter]

theorem closing_eq (boundary : List Char) : closing boundary = closeDelimiter boundary ++ crlf := by
  have hdashes : "--".toList = dashes := by decide
  delta closing
  rw [hdashes, closeDelimiter, delimiter]

theorem innerBody_eq : innerBody env options = innerContent env options ++ crlf := by
  unfold innerBody innerContent
  split
  · rw [part_eq, part_eq, closing_eq, multipart, alternatives]
    simp only [List.flatMap_cons, List.flatMap_nil, List.append_nil, List.append_assoc]
  · rfl

/-- The parts of a message with files. -/
def mixedParts : List (List Char) :=
  fieldsMessage (innerContentFields env options) (innerContent env options) ::
    (attachmentsOf options).map filePart

theorem mimeBody_mixed (h : attachmentsOf options ≠ []) :
    mimeBody env options = multipart (mixed env) (mixedParts env options) ++ crlf := by
  have hdashes : "--".toList = dashes := by decide
  have hpart (a : MimeAttachment) : attachmentPart env a =
      delimiter (mixed env) ++ crlf ++ filePart a ++ crlf :=
    part_eq (mixed env) (fileFields a) (wrap (encodeBase64 a.content))
  have hparts : (attachmentsOf options).flatMap (attachmentPart env) =
      ((attachmentsOf options).map filePart).flatMap fun part =>
        delimiter (mixed env) ++ crlf ++ part ++ crlf := by
    rw [funext hpart, List.flatMap_map]
  rw [mimeBody, if_neg h, hparts, innerBody_eq, hdashes, closing_eq, multipart, mixedParts,
    List.flatMap_cons, ← fieldsMessage_append]
  simp only [delimiter, List.append_assoc]

theorem avoids_encodeBody (boundary body : List Char) : Avoids boundary (encodeBody body) :=
  avoids_of_not_mem (dash_not_mem_wrap _)

theorem avoids_crlf {boundary body : List Char} (h : Avoids boundary body) :
    Avoids boundary (body ++ crlf) := by
  have hend := h.append (avoids_of_not_mem List.not_mem_nil : Avoids boundary [])
  rwa [List.append_nil] at hend

theorem alternatives_avoid (boundary : List Char) :
    ∀ part ∈ alternatives options, Avoids boundary part := by
  have hpart {value : List Char} (hvalue : OneLine value) (body : List Char) : Avoids boundary
      (fieldsMessage [contentType value, base64Encoding] (encodeBody body ++ crlf)) := by
    refine avoids_fieldsMessage ?_ (avoids_crlf (avoids_encodeBody boundary body))
    simp only [List.forall_mem_cons]
    exact ⟨(contentType_part hvalue).avoids boundary, base64Encoding_part.avoids boundary,
      List.forall_mem_nil _⟩
  simp only [alternatives, List.forall_mem_cons]
  exact ⟨hpart (by decide) _, hpart (by decide) _, List.forall_mem_nil _⟩

theorem mixedParts_avoid : ∀ part ∈ mixedParts env options, Avoids (mixed env) part := by
  have hmixed : "mixed_".toList = 'm' :: "ixed_".toList := by decide
  have halternative : "alt_".toList = 'a' :: "lt_".toList := by decide
  have hother : ¬ mixed env <+: alternative env ++ dashes := by
    intro hsame
    delta mixed alternative at hsame
    rw [hmixed, halternative, List.cons_append, List.cons_append, List.cons_append,
      List.cons_prefix_cons] at hsame
    exact absurd hsame.1 (by decide)
  simp only [mixedParts, List.forall_mem_cons, List.forall_mem_map]
  constructor
  · refine avoids_fieldsMessage (fun f hf =>
      (innerContentFields_part env options f hf).avoids _) ?_
    unfold innerContent
    split
    · exact avoids_multipart (alternative_oneLine env) hother (alternatives_avoid options _)
    · exact avoids_encodeBody _ _
  · intro a ha
    refine avoids_fieldsMessage (fun f hf => (fileFields_part a f hf).avoids _) (avoids_crlf ?_)
    exact avoids_of_not_mem (dash_not_mem_wrap _)

/-! ## Reading the parts -/

/-- An id that stands for itself in quotes, as that of a UUID does. -/
def PlainId (id : List Char) : Prop := '"' ∉ id ∧ '\\' ∉ id

variable {env options}

theorem fieldOf_append {name : List Char} {fields rest : List Field}
    (h : ∀ f ∈ fields, f.1 ≠ name) : fieldOf name (fields ++ rest) = fieldOf name rest := by
  have hnone : fields.find? (fun f => f.1 = name) = none :=
    List.find?_eq_none.mpr fun f hf => by simpa using h f hf
  rw [fieldOf, List.find?_append, hnone, Option.none_or, fieldOf]

theorem fieldOf_cons {name : List Char} {f : Field} (h : f.1 = name) (rest : List Field) :
    fieldOf name (f :: rest) = some f.2 := by
  rw [fieldOf, List.find?_cons_of_pos (by simpa using h)]
  rfl

theorem lowerName_contentType (value : List Char) :
    lowerName (contentType value) = ("content-type".toList, value) := by
  have hname : "Content-Type".toList.map Char.toLower = "content-type".toList := by decide
  exact Prod.ext hname rfl

theorem fieldOf_contentType (value : List Char) (rest : List Field) :
    fieldOf "content-type".toList (lowerName (contentType value) :: rest) = some value := by
  rw [lowerName_contentType]
  exact @fieldOf_cons "content-type".toList ("content-type".toList, value) rfl rest

theorem parameterOf_eq {field parameter kind value : List Char} {fields : List Field}
    (hkind : ';' ∉ kind) (hname : '=' ∉ parameter) (hfirst : parameter.head? ≠ some ' ')
    (hne : parameter ≠ [])
    (h : fieldOf field fields = some (kind ++ [';', ' '] ++ parameter ++ '=' :: value)) :
    parameterOf field parameter fields = some value := by
  rw [parameterOf, h, Option.bind_some, firstParameter_eq hkind hname hfirst hne, Option.bind_some,
    if_pos rfl]

/-- A declared boundary is read. -/
theorem boundaryOf_eq {fields : List Field} {front kind boundary : List Char}
    (hfront : front = kind ++ [';', ' '] ++ "boundary".toList ++ ['=', '"']) (hkind : ';' ∉ kind)
    (hplain : PlainId boundary)
    (h : fieldOf "content-type".toList fields = some (front ++ boundary ++ ['"'])) :
    boundaryOf fields = some boundary := by
  have hvalue : front ++ boundary ++ ['"'] =
      kind ++ [';', ' '] ++ "boundary".toList ++ '=' :: ('"' :: (boundary ++ ['"'])) := by
    rw [hfront]
    simp only [List.append_assoc, List.cons_append, List.nil_append]
  rw [hvalue] at h
  rw [boundaryOf, parameterOf_eq hkind (by decide) (by decide) (by decide) h,
    Option.bind_some]
  exact readQuoted_iff.mpr hplain

theorem PlainId.append {id id' : List Char} (h : PlainId id) (h' : PlainId id') :
    PlainId (id ++ id') := by
  unfold PlainId at *
  simp [h, h']

theorem alternative_plain (h : PlainId env.alternativeId) : PlainId (alternative env) :=
  PlainId.append (by unfold PlainId; decide) h

theorem mixed_plain (h : PlainId env.mixedId) : PlainId (mixed env) :=
  PlainId.append (by unfold PlainId; decide) h

theorem bytesOf_encodeBody (fields : List Field) (body : List Char) {rest : List Char}
    (hrest : rest = [] ∨ rest = crlf) :
    bytesOf (fields, encodeBody body ++ rest) = textBytes body :=
  decode_wrap _ rest hrest

/-- The alternatives are read with their types and their texts. -/
theorem read_alternatives (options : MimeMessageOptions) :
    (alternatives options).map (fun text => (fieldOf "content-type".toList (readEntity text).1,
        bytesOf (readEntity text))) =
      [(some plainText, textBytes options.textBody),
        (some "text/html; charset=UTF-8".toList, textBytes options.htmlBody)] := by
  have hpart {value : List Char} (hvalue : OneLine value) (body : List Char) :
      readEntity (fieldsMessage [contentType value, base64Encoding] (encodeBody body ++ crlf)) =
        ([contentType value, base64Encoding].map lowerName, encodeBody body ++ crlf) := by
    refine readEntity_message ?_ _
    simp only [List.forall_mem_cons]
    exact ⟨(contentType_part hvalue).sound, base64Encoding_part.sound, List.forall_mem_nil _⟩
  simp only [alternatives, List.map_cons, List.map_nil]
  rw [hpart (by decide), hpart (by decide)]
  simp only [List.map_cons, fieldOf_contentType, bytesOf_encodeBody _ _ (.inr rfl)]

theorem innerRead {fields : List Field} {rest : List Char} (hplain : PlainId env.alternativeId)
    (hrest : rest = [] ∨ rest = crlf)
    (htype : fieldOf "content-type".toList fields =
      fieldOf "content-type".toList ((innerContentFields env options).map lowerName)) :
    InnerRead options (fields, innerContent env options ++ rest) := by
  unfold InnerRead innerContent
  split
  · next hhtml =>
    have hfields : innerContentFields env options = [contentType
        ("multipart/alternative; boundary=\"".toList ++ alternative env ++ ['"'])] := by
      unfold innerContentFields
      rw [hhtml.2]
      dsimp only
      rw [if_pos hhtml.1]
    rw [hfields, List.map_cons, fieldOf_contentType] at htype
    have hboundary := @boundaryOf_eq fields _ "multipart/alternative".toList (alternative env)
      (by decide) (by decide) (alternative_plain hplain) htype
    have hparts := partsOf_multipart (alternative_oneLine env) (alternatives_avoid options _) rest
    rw [partsIn]
    simp only [hboundary, hparts, List.map_map]
    exact read_alternatives options
  · exact bytesOf_encodeBody fields options.textBody hrest

end SesEmailAdapter.Email.MimeReading
