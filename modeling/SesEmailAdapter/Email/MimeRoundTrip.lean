import SesEmailAdapter.Email.MimeReading

/-! # Which messages are read as they were meant

Headers of a caller are checked by the names that they are given with, not by the names that go into
the message, and a name may hold a colon. The name of a file goes into its quotes as it is. What is
read of a message is the intended header and its files' names just where neither matters; its texts
and the bytes of its files are always read. -/

namespace SesEmailAdapter.Email.MimeRoundTrip
open Lib Lib.MessageFormat Lib.Multipart
open Email.Address Email.MimeBuilder
open Email.MimeReading

/-! ## Reading the files -/

/-- A name that stands for itself in quotes; other names are encoded. -/
def QuotableName (a : MimeAttachment) : Prop :=
  (givenName a).all isAsciiPrintable = true → '"' ∉ givenName a ∧ '\\' ∉ givenName a

instance (a : MimeAttachment) : Decidable (QuotableName a) :=
  inferInstanceAs (Decidable (_ → _))

theorem readEntity_filePart (a : MimeAttachment) : readEntity (filePart a) =
    ((fileFields a).map lowerName, wrap (encodeBase64 a.content) ++ crlf) :=
  readEntity_message (fun f hf => (fileFields_part a f hf).sound) _

theorem decodeWord_encodeWord (name : List Char) : decodeWord (encodeWord name) = some name := by
  have hparts : encodeWord name =
      "=?UTF-8?B?".toList ++ (encodeBase64 (textBytes name) ++ "?=".toList) :=
    List.append_assoc _ _ _
  have hprefix' : "=?UTF-8?B?".toList <+: encodeWord name := ⟨_, hparts.symm⟩
  have hopen : ∀ c ∈ encodeBase64 (textBytes name), decide (c ≠ '?') = true :=
    encodeBase64_chars (by rw [TextCodec.alphabet_eq]; simp) (by decide) _
  have hpayload : ((encodeWord name).drop 10).takeWhile (· ≠ '?') =
      encodeBase64 (textBytes name) := by
    have hlength : "=?UTF-8?B?".toList.length = 10 := by decide
    have hdrop : (encodeWord name).drop 10 = encodeBase64 (textBytes name) ++ "?=".toList :=
      (congrArg (List.drop 10) hparts).trans (List.drop_left' hlength)
    have hend : "?=".toList = ['?', '='] := by decide
    rw [hdrop, List.takeWhile_append_of_pos hopen, hend, List.takeWhile_cons_of_neg (by decide),
      List.append_nil]
  rw [decodeWord, if_pos hprefix', hpayload, decode_encodeBase64, textBytes,
    TextCodec.ofUtf8Bytes_utf8Bytes]
  simp

/-- What is read from the parameter of a file's name. -/
theorem fileName_filePart (a : MimeAttachment) : fileName (readEntity (filePart a)) =
    (readQuotedValue (encodedName a) <|> decodeWord (encodedName a)) := by
  have hnames : (lowerName base64Encoding).1 ≠ "content-disposition".toList ∧
      "content-type".toList ≠ "content-disposition".toList := by decide
  have hfields : (fileFields a).map lowerName =
      [lowerName (contentType (mediaType a ++ "; name=".toList ++ encodedName a)),
        lowerName base64Encoding] ++
      [("content-disposition".toList, "attachment; filename=".toList ++ encodedName a)] := by
    have hdisposition : "Content-Disposition".toList.map Char.toLower =
        "content-disposition".toList := by decide
    rw [← hdisposition]
    simp only [fileFields, List.map_cons, List.map_nil, List.cons_append, List.nil_append,
      lowerName]
  have hfield : fieldOf "content-disposition".toList ((fileFields a).map lowerName) =
      some ("attachment; filename=".toList ++ encodedName a) := by
    rw [hfields, fieldOf_append]
    · exact @fieldOf_cons "content-disposition".toList
        ("content-disposition".toList, "attachment; filename=".toList ++ encodedName a) rfl []
    · simp only [List.forall_mem_cons, lowerName_contentType]
      exact ⟨hnames.2, hnames.1, List.forall_mem_nil _⟩
  have hvalue : "attachment; filename=".toList ++ encodedName a =
      "attachment".toList ++ [';', ' '] ++ "filename".toList ++ '=' :: encodedName a := by
    have hfront : "attachment; filename=".toList =
        "attachment".toList ++ [';', ' '] ++ "filename".toList ++ ['='] := by decide
    rw [hfront, List.append_assoc _ ['='], List.singleton_append]
  rw [hvalue] at hfield
  rw [readEntity_filePart, fileName, parameterOf_eq (by decide) (by decide)
    (by decide) (by decide) hfield, Option.bind_some]

/-- **The name of a file is read back** just where it is encoded, or has no quotes and no
backslashes. -/
theorem fileName_iff (a : MimeAttachment) :
    fileName (readEntity (filePart a)) = some (givenName a) ↔ QuotableName a := by
  rw [fileName_filePart, QuotableName, encodedName]
  by_cases hprintable : (givenName a).all isAsciiPrintable = true
  · have hword (name : List Char) : decodeWord ('"' :: name) = none := by
      rw [decodeWord, if_neg]
      intro hprefix'
      have hhead : "=?UTF-8?B?".toList = '=' :: "?UTF-8?B?".toList := by decide
      rw [hhead, List.cons_prefix_cons] at hprefix'
      exact absurd hprefix'.1 (by decide)
    have hor (found : Option (List Char)) : (found <|> none) = found := by
      cases found <;> rfl
    rw [if_pos hprintable, List.cons_append, hword, hor]
    simp only [hprintable, true_implies]
    exact readQuoted_iff
  · have hquoted : readQuotedValue (encodeWord (givenName a)) = none := rfl
    have hor (found : Option (List Char)) : (none <|> found) = found := rfl
    rw [if_neg hprintable, hquoted, hor, decodeWord_encodeWord]
    simp [hprintable]

/-! ## Reading the header -/

/-- A header of a caller whose cleaned name is the name of a field, and of none of the builder's
own, unless it is left out. -/
def CleanHeader (header : Field) : Prop :=
  toLowerCase header.1 ∈ RESERVED_HEADERS ∨ sanitizeHeaderValue header.2 = [] ∨
    ':' ∉ sanitizeHeaderValue header.1 ∧
      toLowerCase (sanitizeHeaderValue header.1) ∉ RESERVED_HEADERS

instance (header : Field) : Decidable (CleanHeader header) :=
  inferInstanceAs (Decidable (_ ∨ _))

theorem extraHeaders_eq (headers : List Field) :
    extraHeaders headers = headers.filterMap fun header => keptHeader header.1 header := by
  refine List.filterMap_congr fun header _ => ?_
  unfold keptHeader headerValue
  dsimp only
  split
  · next hreserved => rw [if_pos (.inl hreserved)]
  · next hreserved =>
    split
    · next hempty => rw [if_pos (.inr hempty)]
    · next hempty => rw [if_neg (not_or.mpr ⟨hreserved, hempty⟩)]

theorem headerValue_oneLine (value : List Char) : OneLine (headerValue value) := by
  unfold headerValue
  dsimp only
  split
  · exact sanitizeHeaderValue_oneLine value
  · exact encodeWord_oneLine _

theorem keptHeader_lined {checked : List Char} {header f : Field}
    (h : keptHeader checked header = some f) : Lined f := by
  unfold keptHeader at h
  split at h
  · cases h
  · obtain rfl := Option.some.inj h
    exact ⟨sanitizeHeaderValue_oneLine _, headerValue_oneLine _⟩

/-- The names of the builder's own fields are clean. -/
theorem sanitize_reserved {name : List Char} (h : toLowerCase name ∈ RESERVED_HEADERS) :
    sanitizeHeaderValue name = name := by
  have hletters : (RESERVED_HEADERS.all fun reserved => reserved.all fun c =>
      !isSpace c && decide (c ≠ '\r') && decide (c ≠ '\n')) = true := by decide
  have hplain : ∀ c ∈ name, isSpace c = false ∧ c ≠ '\r' ∧ c ≠ '\n' := by
    intro c hc
    have hlower := List.all_eq_true.mp (List.all_eq_true.mp hletters _ h) c.toLower
      (List.mem_map.mpr ⟨c, hc, rfl⟩)
    simp only [Bool.and_eq_true, Bool.not_eq_true', decide_eq_true_eq] at hlower
    rcases toLower_cases c with hsame | ⟨hlow, hhigh, -⟩
    · rw [hsame] at hlower
      exact ⟨hlower.1.1, hlower.1.2, hlower.2⟩
    · refine ⟨?_, ?_, ?_⟩
      · simp only [isSpace, List.mem_cons, List.not_mem_nil, or_false, decide_eq_false_iff_not]
        omega
      · rintro rfl
        exact absurd hlow (by decide)
      · rintro rfl
        exact absurd hlow (by decide)
  have hlines : OneLine name :=
    ⟨fun hr => (hplain _ hr).2.1 rfl, fun hn => (hplain _ hn).2.2 rfl⟩
  rw [sanitizeHeaderValue, joinLines_eq_self hlines, trim_eq_self fun c hc => (hplain c hc).1]

/-- A name is read up to its first colon. -/
theorem readField_iff (f : Field) : readField (fieldLine f) = lowerName f ↔ ':' ∉ f.1 := by
  constructor
  · intro hread hcolon
    have hname : (readField (fieldLine f)).1 = f.1.map Char.toLower := congrArg Prod.fst hread
    have hmem : ':' ∈ f.1.map Char.toLower := List.mem_map.mpr ⟨':', hcolon, by decide⟩
    rw [← hname, readField] at hmem
    obtain ⟨c, hc, hlower⟩ := List.mem_map.mp hmem
    have hopen := List.mem_takeWhile_imp hc
    rw [eq_of_toLower (by decide) hlower] at hopen
    simp at hopen
  · intro hcolon
    have hne : ∀ c ∈ f.1, decide (c ≠ ':') = true := fun c hc =>
      decide_eq_true (ne_of_mem_of_not_mem hc hcolon)
    rw [readField, fieldLine, List.takeWhile_append_of_pos hne, List.dropWhile_append_of_pos hne]
    simp [lowerName]

theorem header_iff (header : Field) :
    (keptHeader header.1 header).map (fun f => readField (fieldLine f)) =
      (intendedHeader header).map lowerName ↔ CleanHeader header := by
  unfold CleanHeader intendedHeader keptHeader
  by_cases hempty : sanitizeHeaderValue header.2 = []
  · simp [hempty]
  by_cases hreserved : toLowerCase header.1 ∈ RESERVED_HEADERS
  · simp [hreserved, sanitize_reserved hreserved]
  · by_cases hclean : toLowerCase (sanitizeHeaderValue header.1) ∈ RESERVED_HEADERS
    · simp [hempty, hreserved, hclean]
    · simp [hempty, hreserved, hclean, readField_iff]

theorem filterMap_length {α β : Type} {f g : α → Option β} {l : List α}
    (h : ∀ a ∈ l, f a = none → g a = none) : (l.filterMap g).length ≤ (l.filterMap f).length := by
  induction l with
  | nil => simp
  | cons a l ih =>
    obtain ⟨ha, hl⟩ := List.forall_mem_cons.mp h
    have hrest := ih hl
    cases hf : f a with
    | none => simpa [hf, ha hf] using hrest
    | some b =>
      cases hg : g a with
      | none =>
        simp only [List.filterMap_cons, hf, hg, List.length_cons]
        omega
      | some c => simpa [hf, hg] using hrest

/-- Where one selection leaves out no less than another, both are the same list just if they are
the same for each element. -/
theorem filterMap_eq_iff {α β : Type} {f g : α → Option β} {l : List α}
    (h : ∀ a ∈ l, f a = none → g a = none) :
    l.filterMap f = l.filterMap g ↔ ∀ a ∈ l, f a = g a := by
  constructor
  · induction l with
    | nil => simp
    | cons a l ih =>
      intro heq
      obtain ⟨ha, hl⟩ := List.forall_mem_cons.mp h
      have hlength := filterMap_length hl
      refine List.forall_mem_cons.mpr ?_
      cases hf : f a with
      | none =>
        simp only [List.filterMap_cons, hf, ha hf] at heq
        exact ⟨(ha hf).symm, ih hl heq⟩
      | some b =>
        cases hg : g a with
        | none =>
          simp only [List.filterMap_cons, hf, hg] at heq
          rw [← heq, List.length_cons] at hlength
          omega
        | some c =>
          simp only [List.filterMap_cons, hf, hg, List.cons.injEq] at heq
          exact ⟨congrArg some heq.1, ih hl heq.2⟩
  · exact List.filterMap_congr

theorem mimeFields_eq (env : MimeEnv) (options : MimeMessageOptions) : mimeFields env options =
    builderFields env options ++ extraHeaders options.headers := by
  unfold mimeFields otherFields builderFields recipientFields subjectFields
  simp only [List.append_assoc]

theorem recipientFields_sound (options : MimeMessageOptions) :
    ∀ f ∈ recipientFields options, f.Sound := by
  unfold recipientFields
  simp only [List.forall_mem_append, List.forall_mem_cons]
  refine ⟨⟨⟨?_, ?_, List.forall_mem_nil _⟩, addressField_sound (by decide)⟩,
    addressField_sound (by decide)⟩
  · exact sound_of (encodeAddressList_oneLine _) (by decide)
  · exact sound_of (encodeAddressList_oneLine _) (by decide)

theorem subjectFields_sound (env : MimeEnv) (options : MimeMessageOptions) :
    ∀ f ∈ subjectFields env options, f.Sound := by
  unfold subjectFields
  simp only [List.forall_mem_cons]
  refine ⟨?_, ?_, ?_, List.forall_mem_nil _⟩
  · exact sound_of (encodeUnstructured_oneLine _) (by decide)
  · exact sound_of env.date_oneLine (by decide)
  · exact sound_of (by decide) (by decide)

theorem builderFields_sound (env : MimeEnv) (options : MimeMessageOptions) :
    ∀ f ∈ builderFields env options, f.Sound := by
  unfold builderFields
  simp only [List.forall_mem_append]
  exact ⟨⟨recipientFields_sound options, subjectFields_sound env options⟩,
    fun f hf => (contentFields_part env options f hf).sound⟩

/-- What is read of a message, whatever the headers of the caller are. -/
theorem readEntity_buildMimeMessage (env : MimeEnv) (options : MimeMessageOptions) :
    readEntity (buildMimeMessage env options) =
      ((builderFields env options).map lowerName ++ options.headers.filterMap fun header =>
        (keptHeader header.1 header).map fun f => readField (fieldLine f),
        mimeBody env options) := by
  have hlined : ∀ f ∈ mimeFields env options, Lined f := by
    rw [mimeFields_eq, extraHeaders_eq]
    simp only [List.forall_mem_append]
    constructor
    · intro f hf
      have hsound := builderFields_sound env options f hf
      exact ⟨hsound.nameLine, hsound.bodyLine⟩
    · intro f hf
      obtain ⟨header, -, hkept⟩ := List.mem_filterMap.mp hf
      exact keptHeader_lined hkept
  have hbuilder : (builderFields env options).map (fun f => readField (fieldLine f)) =
      (builderFields env options).map lowerName :=
    List.map_congr_left fun f hf => readField_fieldLine (builderFields_sound env options f hf)
  rw [readEntity, headerFields, buildMimeMessage, readMessage_lines hlined, List.map_map]
  simp only [Function.comp_def]
  rw [mimeFields_eq, extraHeaders_eq, List.map_append, hbuilder, List.map_filterMap]

theorem keptHeader_none {header : Field} (h : keptHeader header.1 header = none) :
    intendedHeader header = none := by
  unfold intendedHeader keptHeader at *
  split at h
  · next hleft =>
    rw [if_pos]
    rcases hleft with hreserved | hempty
    · rw [sanitize_reserved hreserved]
      exact .inl hreserved
    · exact .inr hempty
  · cases h

/-- **The header is the intended one** just where the headers of the caller are clean. -/
theorem headerFields_iff (env : MimeEnv) (options : MimeMessageOptions) :
    headerFields (buildMimeMessage env options) = (intendedFields env options).map lowerName ↔
      ∀ header ∈ options.headers, CleanHeader header := by
  have hread := congrArg Prod.fst (readEntity_buildMimeMessage env options)
  simp only [readEntity] at hread
  rw [hread, intendedFields, List.map_append, List.append_cancel_left_eq, List.map_filterMap,
    filterMap_eq_iff]
  · exact forall₂_congr fun header _ => header_iff header
  · intro header _ hnone
    rw [Option.map_eq_none_iff] at hnone ⊢
    exact keptHeader_none hnone

/-! ## The whole message -/

theorem fieldOf_append_of_some {name value : List Char} {fields : List Field}
    (h : fieldOf name fields = some value) (rest : List Field) :
    fieldOf name (fields ++ rest) = some value := by
  obtain ⟨f, hf, rfl⟩ := Option.map_eq_some_iff.mp h
  rw [fieldOf, List.find?_append, hf]
  rfl

/-- No field before those of the content has their name. -/
theorem recipientFields_names (env : MimeEnv) (options : MimeMessageOptions) :
    ∀ f ∈ recipientFields options ++ subjectFields env options,
      f.1.map Char.toLower ≠ "content-type".toList := by
  have haddress {name value : List Char} (h : name.map Char.toLower ≠ "content-type".toList) :
      ∀ f ∈ addressField name value, f.1.map Char.toLower ≠ "content-type".toList := by
    unfold addressField
    split
    · exact List.forall_mem_nil _
    · intro f hf
      rw [List.mem_singleton.mp hf]
      exact h
  unfold recipientFields subjectFields
  simp only [List.forall_mem_append, List.forall_mem_cons]
  refine ⟨⟨⟨⟨?_, ?_, List.forall_mem_nil _⟩, haddress ?_⟩, haddress ?_⟩, ?_, ?_, ?_,
    List.forall_mem_nil _⟩
  all_goals decide

variable {env : MimeEnv}

/-- The type of the message is that of its content. -/
theorem type_of_message {options : MimeMessageOptions} {value : List Char}
    (h : fieldOf "content-type".toList ((contentFields env options).map lowerName) = some value) :
    fieldOf "content-type".toList (readEntity (buildMimeMessage env options)).1 = some value := by
  have hnames : ∀ f ∈ (recipientFields options ++ subjectFields env options).map lowerName,
      f.1 ≠ "content-type".toList := by
    intro f hf
    obtain ⟨g, hg, rfl⟩ := List.mem_map.mp hf
    exact recipientFields_names env options g hg
  rw [readEntity_buildMimeMessage, builderFields, List.map_append, List.append_assoc]
  exact (fieldOf_append hnames).trans (fieldOf_append_of_some h _)

theorem innerContentFields_type (env : MimeEnv) (options : MimeMessageOptions) :
    ∃ value, fieldOf "content-type".toList ((innerContentFields env options).map lowerName) =
      some value := by
  unfold innerContentFields
  split
  · exact ⟨_, fieldOf_contentType _ _⟩
  · split
    · exact ⟨_, fieldOf_contentType _ _⟩
    · exact ⟨_, fieldOf_contentType _ _⟩

/-- A message without files is its content. -/
theorem single_read {options : MimeMessageOptions}
    (hplain : PlainId env.alternativeId) (hnone : attachmentsOf options = []) :
    InnerRead options (readEntity (buildMimeMessage env options)) := by
  have hfields : contentFields env options = innerContentFields env options := by
    rw [contentFields, if_pos hnone]
  obtain ⟨value, hvalue⟩ := innerContentFields_type env options
  have htype := @type_of_message env options value (by rw [hfields, hvalue])
  have hbody : (readEntity (buildMimeMessage env options)).2 =
      innerContent env options ++ crlf := by
    rw [readEntity_buildMimeMessage]
    exact (if_pos hnone).trans (innerBody_eq env options)
  have hread := @innerRead env options (readEntity (buildMimeMessage env options)).1 crlf hplain
    (.inr rfl) (htype.trans hvalue.symm)
  rw [← hbody] at hread
  exact hread

/-- A message with files is read into its content and its files. -/
theorem mixed_parts {options : MimeMessageOptions} (hplain : PlainId env.mixedId)
    (hfiles : attachmentsOf options ≠ []) :
    partsIn (readEntity (buildMimeMessage env options)) =
      ((innerContentFields env options).map lowerName, innerContent env options) ::
        (attachmentsOf options).map fun a => readEntity (filePart a) := by
  have hfields : contentFields env options = [contentType
      ("multipart/mixed; boundary=\"".toList ++ mixed env ++ ['"'])] := by
    rw [contentFields, if_neg hfiles]
  have htype := @type_of_message env options
    ("multipart/mixed; boundary=\"".toList ++ mixed env ++ ['"'])
    (by rw [hfields, List.map_cons, fieldOf_contentType])
  have hboundary := @boundaryOf_eq _ _ "multipart/mixed".toList (mixed env)
    (by decide) (by decide) (mixed_plain hplain) htype
  have hbody : (readEntity (buildMimeMessage env options)).2 =
      multipart (mixed env) (mixedParts env options) ++ crlf := by
    rw [readEntity_buildMimeMessage]
    exact mimeBody_mixed env options hfiles
  have hparts := partsOf_multipart (mixed_oneLine env) (mixedParts_avoid env options) crlf
  have hinner := readEntity_message (fun f hf => (innerContentFields_part env options f hf).sound)
    (innerContent env options)
  rw [partsIn, hboundary]
  dsimp only
  rw [hbody, hparts, mixedParts, List.map_cons, List.map_map, hinner]
  rfl

theorem bytesOf_filePart (a : MimeAttachment) : bytesOf (readEntity (filePart a)) = a.content := by
  rw [readEntity_filePart]
  exact decode_wrap _ _ (.inr rfl)

/-- The files are read with their bytes, and with their names where these can be quoted. -/
theorem files_iff (attachments : List MimeAttachment) :
    ((attachments.map fun a => readEntity (filePart a)).map fun file =>
        (fileName file, bytesOf file)) =
      attachments.map (fun a => (some (givenName a), a.content)) ↔
      ∀ a ∈ attachments, QuotableName a := by
  rw [List.map_map, List.map_inj_left]
  refine forall₂_congr fun a _ => ?_
  rw [Function.comp_apply, Prod.mk.injEq, bytesOf_filePart, fileName_iff]
  simp

theorem ReadsAsMeant.quotable {options : MimeMessageOptions}
    (h : ReadsAsMeant env options) (hplain : PlainId env.mixedId) :
    ∀ a ∈ attachmentsOf options, QuotableName a := by
  by_cases hfiles : attachmentsOf options = []
  · rw [hfiles]
    exact List.forall_mem_nil _
  · obtain ⟨inner, files, hparts, -, hnames⟩ := h.mixed hfiles
    rw [mixed_parts hplain hfiles] at hparts
    obtain ⟨-, rfl⟩ := List.cons.inj hparts
    exact (files_iff _).mp hnames

/-- **A message is read as it was meant** just where the headers of the caller are clean and the
names of its files can be quoted. -/
theorem readsAsMeant_iff {env : MimeEnv} (halternative : PlainId env.alternativeId)
    (hmixed : PlainId env.mixedId) (options : MimeMessageOptions) :
    ReadsAsMeant env options ↔ (∀ header ∈ options.headers, CleanHeader header) ∧
      ∀ a ∈ attachmentsOf options, QuotableName a := by
  constructor
  · intro hread
    exact ⟨(headerFields_iff env options).mp hread.header, ReadsAsMeant.quotable hread hmixed⟩
  · intro h
    obtain ⟨hheaders, hnames⟩ := h
    refine ⟨(headerFields_iff env options).mpr hheaders, single_read halternative, fun hfiles => ?_⟩
    refine ⟨_, _, mixed_parts hmixed hfiles, ?_, (files_iff _).mpr hnames⟩
    have hread := @innerRead env options ((innerContentFields env options).map lowerName) []
      halternative (.inl rfl) rfl
    rwa [List.append_nil] at hread

/-! ## Two messages -/

def firstOfJune : List Char := "Mon, 01 Jun 2026 08:00:00 +0000".toList

def anId : List Char := "3f1c9a52-7d04-4b6e-9c1f-0a2b4c6d8e10".toList

theorem firstOfJune_oneLine : OneLine firstOfJune := by decide

theorem anId_oneLine : OneLine anId := by decide

theorem anId_plain : PlainId anId := by
  unfold PlainId
  decide

def juneEnv : MimeEnv := ⟨firstOfJune, anId, anId, firstOfJune_oneLine, anId_oneLine, anId_oneLine⟩

def withFile (filename : String) (headers : List Field) : MimeMessageOptions where
  sender := "Ann <ann@x.example>".toList
  toAddresses := "bob@y.example".toList
  cc := []
  bcc := []
  subject := "Re: café\r\nBcc: eve@z.example".toList
  textBody := "Hi\r\n--mixed_".toList
  htmlBody := "<p>Hi</p>".toList
  calendar := none
  headers := headers
  attachments := [⟨filename, "text/plain", [72, 105]⟩]

/-- Line breaks in values, bytes like boundaries and other alphabets change nothing. -/
theorem withFile_read : ReadsAsMeant juneEnv
    (withFile "résumé\r\n.txt" [("In-Reply-To".toList, "<a@y.example>\r\nX: 1".toList)]) := by
  refine (readsAsMeant_iff anId_plain anId_plain _).mpr ⟨?_, ?_⟩
  · decide +kernel
  · decide +kernel

/-- A file whose name has quotes in it, and a header that is one more list of recipients. -/
theorem quoted_cut :
    fileName (readEntity (filePart ⟨"say \"hi\".txt", "text/plain", [72, 105]⟩)) =
        some "say ".toList ∧
      ¬ ReadsAsMeant juneEnv (withFile "say \"hi\".txt" []) ∧
      ¬ ReadsAsMeant juneEnv (withFile "hi.txt" [("Bcc ".toList, "eve@z.example".toList)]) := by
  have hunquotable : ¬ ∀ a ∈ attachmentsOf (withFile "say \"hi\".txt" []), QuotableName a := by
    decide +kernel
  have hunclean : ¬ ∀ header ∈ (withFile "hi.txt"
      [("Bcc ".toList, "eve@z.example".toList)]).headers, CleanHeader header := by
    decide +kernel
  refine ⟨?_, fun hread => ?_, fun hread => ?_⟩
  · rw [fileName_filePart]
    decide +kernel
  · exact hunquotable (ReadsAsMeant.quotable hread anId_plain)
  · exact hunclean ((headerFields_iff _ _).mp hread.header)

end SesEmailAdapter.Email.MimeRoundTrip
