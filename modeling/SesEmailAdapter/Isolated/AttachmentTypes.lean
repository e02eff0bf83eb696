import Mathlib.Data.List.DropRight
import SesEmailAdapter.Email.Address
import SesEmailAdapter.Lib.PercentText
import SesEmailAdapter.Lib.Utf16

/-! # Types and dispositions of attachments

The content type of an attachment is recovered from its bytes, its declared type and its file
name. The tables are plain objects, so a lookup by a name of `Object.prototype` finds what every
object inherits. File names are code units in which a surrogate can stand alone. -/

namespace SesEmailAdapter.Isolated.AttachmentTypes
open Lib Lib.Utf16

/-! ## Tables -/

def OCTET_STREAM : String := "application/octet-stream"

def DECLARED_TYPE_ALIASES : List (String × String) :=
  [("application/ics", "text/calendar"), ("application/calendar", "text/calendar"),
    ("text/x-vcalendar", "text/calendar")]

def EXTENSION_TO_MIME : List (String × String) :=
  [("pdf", "application/pdf"), ("png", "image/png"), ("jpg", "image/jpeg"),
    ("jpeg", "image/jpeg"), ("gif", "image/gif"), ("webp", "image/webp"),
    ("svg", "image/svg+xml"), ("bmp", "image/bmp"), ("tif", "image/tiff"),
    ("tiff", "image/tiff"), ("ico", "image/x-icon"), ("heic", "image/heic"),
    ("txt", "text/plain"), ("csv", "text/csv"), ("html", "text/html"), ("htm", "text/html"),
    ("json", "application/json"), ("xml", "application/xml"), ("ics", "text/calendar"),
    ("zip", "application/zip"), ("gz", "application/gzip"), ("doc", "application/msword"),
    ("docx", "application/vnd.openxmlformats-officedocument.wordprocessingml.document"),
    ("xls", "application/vnd.ms-excel"),
    ("xlsx", "application/vnd.openxmlformats-officedocument.spreadsheetml.sheet"),
    ("ppt", "application/vnd.ms-powerpoint"),
    ("pptx", "application/vnd.openxmlformats-officedocument.presentationml.presentation"),
    ("mp3", "audio/mpeg"), ("wav", "audio/wav"), ("mp4", "video/mp4"),
    ("mov", "video/quicktime"), ("pkpass", "application/vnd.apple.pkpass")]

def MIME_TO_EXTENSION : List (String × String) :=
  [("application/pdf", "pdf"), ("image/png", "png"), ("image/jpeg", "jpg"),
    ("image/gif", "gif"), ("image/webp", "webp"), ("image/svg+xml", "svg"),
    ("image/bmp", "bmp"), ("image/tiff", "tif"), ("image/x-icon", "ico"),
    ("image/heic", "heic"), ("text/plain", "txt"), ("text/csv", "csv"), ("text/html", "html"),
    ("application/json", "json"), ("application/xml", "xml"), ("text/calendar", "ics"),
    ("application/zip", "zip"), ("application/gzip", "gz"), ("application/msword", "doc"),
    ("application/vnd.openxmlformats-officedocument.wordprocessingml.document", "docx"),
    ("application/vnd.ms-excel", "xls"),
    ("application/vnd.openxmlformats-officedocument.spreadsheetml.sheet", "xlsx"),
    ("application/vnd.ms-powerpoint", "ppt"),
    ("application/vnd.openxmlformats-officedocument.presentationml.presentation", "pptx"),
    ("audio/mpeg", "mp3"), ("audio/wav", "wav"), ("video/mp4", "mp4"),
    ("video/quicktime", "mov"), ("application/vnd.apple.pkpass", "pkpass")]

/-- The properties that every plain object inherits. -/
def objectPrototype : List String :=
  ["constructor", "__defineGetter__", "__defineSetter__", "hasOwnProperty", "__lookupGetter__",
    "__lookupSetter__", "isPrototypeOf", "propertyIsEnumerable", "toString", "valueOf",
    "__proto__", "toLocaleString"]

/-- What a lookup gives: nothing, a text of the table, or an inherited function or object. -/
inductive Property
  | undefined
  | text (t : Text)
  | inherited (name : String)
deriving DecidableEq

/-- The text is written without lone surrogates as that string. -/
def spells (t : Text) (s : String) : Bool := characters t == some s.toList

def lookup (table : List (String × String)) (key : Text) : Property :=
  match table.find? fun row => spells key row.1 with
  | some row => .text (ofString row.2)
  | none =>
    match objectPrototype.find? (spells key) with
    | some name => .inherited name
    | none => .undefined

def Property.truthy : Property → Bool
  | .undefined => false
  | .text t => t ≠ []
  | .inherited _ => true

/-! ## Types -/

/-- The type that the leading bytes show. -/
def sniffContentType (bytes : List UInt8) : Option String :=
  let byteAt := fun (i : Nat) (b : UInt8) => bytes[i]? == some b
  if bytes.length < 4 then none
  else if byteAt 0 0x25 && byteAt 1 0x50 && byteAt 2 0x44 && byteAt 3 0x46 then
    some "application/pdf"
  else if byteAt 0 0x89 && byteAt 1 0x50 && byteAt 2 0x4E && byteAt 3 0x47 then some "image/png"
  else if byteAt 0 0xFF && byteAt 1 0xD8 && byteAt 2 0xFF then some "image/jpeg"
  else if byteAt 0 0x47 && byteAt 1 0x49 && byteAt 2 0x46 && byteAt 3 0x38 then some "image/gif"
  else if bytes.length ≥ 12 && byteAt 0 0x52 && byteAt 1 0x49 && byteAt 2 0x46 && byteAt 3 0x46 &&
      byteAt 8 0x57 && byteAt 9 0x45 && byteAt 10 0x42 && byteAt 11 0x50 then some "image/webp"
  else if byteAt 0 0x42 && byteAt 1 0x4D then some "image/bmp"
  else if byteAt 0 0x49 && byteAt 1 0x49 && byteAt 2 0x2A && byteAt 3 0x00 then some "image/tiff"
  else if byteAt 0 0x4D && byteAt 1 0x4D && byteAt 2 0x00 && byteAt 3 0x2A then some "image/tiff"
  else none

/-- The lower-casing of arbitrary text. -/
structure LowerCase where
  apply : Text → Text
  apply_nil : apply [] = []

def isSpaceUnit (u : UInt16) : Bool := Email.Address.isSpace (unitChar u)

def trim (text : Text) : Text :=
  ((text.dropWhile isSpaceUnit).reverse.dropWhile isSpaceUnit).reverse

/-- `split(";")[0]?.trim().toLowerCase()` -/
def baseType (lower : LowerCase) (mimeType : Text) : Text :=
  lower.apply (trim (mimeType.takeWhile (· ≠ 0x3B)))

/-- The lower-cased extension of a file name, without its dot. -/
def extractExtension (lower : LowerCase) (filename : Option Text) : Option Text :=
  match filename with
  | none => none
  | some name =>
    let dot := lastIndexOf 0x2E name name.length
    if name = [] ∨ dot < 0 ∨ dot = name.length - 1 then none
    else some (lower.apply (name.drop (dot.toNat + 1)))

def mimeFromExtension (lower : LowerCase) (filename : Option Text) : Property :=
  match extractExtension lower filename with
  | none => .undefined
  | some ext => if ext = [] then .undefined else lookup EXTENSION_TO_MIME ext

def resolveContentType (lower : LowerCase) (content : List UInt8)
    (declaredType filename : Option Text) : Property :=
  match sniffContentType content with
  | some sniffed => .text (ofString sniffed)
  | none =>
    let declared := (declaredType.map (baseType lower)).getD []
    if declared ≠ [] ∧ ¬ spells declared OCTET_STREAM then
      let canonical := lookup DECLARED_TYPE_ALIASES declared
      if canonical.truthy then canonical else .text (trim (declaredType.getD []))
    else
      let fromExtension := mimeFromExtension lower filename
      if fromExtension.truthy then fromExtension else .text (ofString OCTET_STREAM)

inductive Failure
  | typeError
  | uriError
deriving DecidableEq

/-- `mimeType.split(";")[0]?.trim().toLowerCase()`, which only a string has. -/
def baseOf (lower : LowerCase) : Property → Except Failure Text
  | .text mimeType => .ok (baseType lower mimeType)
  | _ => .error .typeError

def extensionFromMime (lower : LowerCase) (mimeType : Property) : Except Failure Property := do
  let base ← baseOf lower mimeType
  return lookup MIME_TO_EXTENSION base

/-- The text of an inherited value, which is ASCII. -/
structure Shown where
  text : String → Text
  ascii : ∀ name, ∀ u ∈ text name, u < 0x80

def ensureFilenameExtension (lower : LowerCase) (shown : Shown) (filename : Text)
    (mimeType : Property) : Except Failure Text :=
  if (extractExtension lower (some filename)).getD [] ≠ [] then .ok filename
  else do
    match ← extensionFromMime lower mimeType with
    | .undefined => return filename
    | .text ext => return filename ++ 0x2E :: ext
    | .inherited name => return filename ++ 0x2E :: shown.text name

/-! ## Dispositions -/

def INLINE_RENDERABLE_TYPES : List String :=
  ["application/pdf", "image/png", "image/jpeg", "image/gif", "image/webp", "image/bmp",
    "image/svg+xml"]

def isControl (u : UInt16) : Bool := u < 0x20 || u == 0x7F

/-- `replace(/[\x00-\x1f\x7f]/g, "_")` -/
def stripControls (filename : Text) : Text := filename.map fun u => if isControl u then 0x5F else u

def isAscii (u : UInt16) : Bool := 0x20 ≤ u && u ≤ 0x7E

/-- `replace(/["\\]/g, "_").replace(/[^\x20-\x7e]/g, "_")` on one unit. -/
def asciiChar (u : UInt16) : Char :=
  if u == 0x22 || u == 0x5C || !isAscii u then '_' else unitChar u

def encodeURIComponent (text : Text) : Except Failure (List Char) :=
  match characters text with
  | some chars => .ok (PercentText.encode chars)
  | none => .error .uriError

def buildContentDisposition (lower : LowerCase) (mimeType : Property) (filename : Text) :
    Except Failure (List Char) := do
  let base ← baseOf lower mimeType
  let kind := if INLINE_RENDERABLE_TYPES.any (spells base) then "inline" else "attachment"
  let safe := stripControls filename
  let disposition := kind.toList ++ "; filename=\"".toList ++ safe.map asciiChar ++ ['"']
  if safe.all isAscii then return disposition
  else
    let value ← encodeURIComponent safe
    return disposition ++ "; filename*=UTF-8''".toList ++ value

/-- What the attachment loop makes of one attachment: its type, its name and its header.
`fallback` is the name of an attachment without one. -/
def describe (lower : LowerCase) (shown : Shown) (content : List UInt8)
    (declaredType filename : Option Text) (fallback : Text) :
    Except Failure (Property × Text × List Char) := do
  let contentType := resolveContentType lower content declaredType filename
  let name ← ensureFilenameExtension lower shown (filename.getD fallback) contentType
  let header ← buildContentDisposition lower contentType name
  return (contentType, name, header)

/-! ## Lookups -/

section Lookups
variable {table : List (String × String)} {key : Text} {name : String}

theorem eq_of_spells {s : String} (h : spells key s = true) (h' : spells key name = true) :
    s = name := by
  have hs : characters key = some s.toList := beq_iff_eq.mp h
  have hname : characters key = some name.toList := beq_iff_eq.mp h'
  exact String.toList_inj.mp (Option.some.inj (hs.symm.trans hname))

theorem lookup_eq_text {t : Text} (h : lookup table key = .text t) :
    ∃ row ∈ table, spells key row.1 = true ∧ t = ofString row.2 := by
  unfold lookup at h
  split at h
  · next row hrow =>
    obtain rfl := Property.text.inj h
    have hspells : spells key row.1 = true := by simpa using List.find?_some hrow
    exact ⟨row, List.mem_of_find?_eq_some hrow, hspells, rfl⟩
  · split at h <;> cases h

theorem lookup_eq_inherited (h : lookup table key = .inherited name) :
    name ∈ objectPrototype ∧ spells key name = true := by
  unfold lookup at h
  split at h
  · cases h
  · split at h
    · next found hfound =>
      obtain rfl := Property.inherited.inj h
      exact ⟨List.mem_of_find?_eq_some hfound, List.find?_some hfound⟩
    · cases h

/-- A table without such a key gives what every object inherits. -/
theorem lookup_inherited (htable : ∀ row ∈ table, row.1 ∉ objectPrototype)
    (hname : name ∈ objectPrototype) (h : spells key name = true) :
    lookup table key = .inherited name := by
  have hown : table.find? (fun row => spells key row.1) = none := by
    rw [List.find?_eq_none]
    intro row hrow hspells
    exact htable row hrow (eq_of_spells hspells h ▸ hname)
  have hfound : ∃ found, objectPrototype.find? (spells key) = some found :=
    Option.isSome_iff_exists.mp (List.find?_isSome.mpr ⟨name, hname, h⟩)
  obtain ⟨found, hfound⟩ := hfound
  rw [lookup, hown, hfound, eq_of_spells (List.find?_some hfound) h]

end Lookups

theorem aliases_own : ∀ row ∈ DECLARED_TYPE_ALIASES, row.1 ∉ objectPrototype := by
  simp [DECLARED_TYPE_ALIASES, objectPrototype]

theorem extensions_own : ∀ row ∈ EXTENSION_TO_MIME, row.1 ∉ objectPrototype := by
  simp [EXTENSION_TO_MIME, objectPrototype]

theorem ofString_ne_nil {s : String} (h : s ≠ "") : ofString s ≠ [] := by
  simpa [ofString] using h

theorem aliases_nonempty : ∀ row ∈ DECLARED_TYPE_ALIASES, row.2 ≠ "" := by
  simp [DECLARED_TYPE_ALIASES]

theorem extensions_nonempty : ∀ row ∈ EXTENSION_TO_MIME, row.2 ≠ "" := by
  simp [EXTENSION_TO_MIME]

theorem sniffed_nonempty {bytes : List UInt8} {type : String}
    (h : sniffContentType bytes = some type) : type ≠ "" := by
  unfold sniffContentType at h
  dsimp only at h
  split_ifs at h <;> (obtain rfl := Option.some.inj h; simp)

/-! ## Recovered types -/

section Types
variable (lower : LowerCase) (content : List UInt8) (declaredType filename : Option Text)

/-- The type is one of the four that an attachment may get. -/
inductive Recovered (type : Text) : Prop
  | sniffed (t : String) (sniff : sniffContentType content = some t) (eq : type = ofString t)
  | declared (d : Text) (mem : declaredType = some d) (eq : type = trim d)
  | canonical (d : Text) (mem : declaredType = some d) (row : String × String)
    (entry : row ∈ DECLARED_TYPE_ALIASES) (key : spells (baseType lower d) row.1 = true)
    (eq : type = ofString row.2)
  | extension (ext : Text) (mem : extractExtension lower filename = some ext)
    (row : String × String) (entry : row ∈ EXTENSION_TO_MIME) (key : spells ext row.1 = true)
    (eq : type = ofString row.2)
  | octetStream (eq : type = ofString OCTET_STREAM)

/-- What a table is asked for: the declared type, or the extension. -/
def tableKey : Text :=
  match sniffContentType content with
  | some _ => []
  | none =>
    let declared := (declaredType.map (baseType lower)).getD []
    if declared ≠ [] ∧ ¬ spells declared OCTET_STREAM then declared
    else (extractExtension lower filename).getD []

/-- A table is asked for no name that every object inherits. -/
def OwnKey : Prop :=
  ∀ name ∈ objectPrototype, spells (tableKey lower content declaredType filename) name = false

variable {lower content declaredType filename}

theorem trim_eq_nil_iff {t : Text} : trim t = [] ↔ ∀ u ∈ t, isSpaceUnit u = true := by
  rw [trim, List.reverse_eq_nil_iff, List.dropWhile_eq_nil_iff]
  simp only [List.mem_reverse]
  rw [← List.dropWhile_eq_nil_iff, List.dropWhile_idempotent, List.dropWhile_eq_nil_iff]

theorem trim_ne_nil {d : Text} (h : baseType lower d ≠ []) : trim d ≠ [] := by
  intro hspaces
  apply h
  have hbase : trim (d.takeWhile (· ≠ 0x3B)) = [] := trim_eq_nil_iff.mpr fun u hu =>
    trim_eq_nil_iff.mp hspaces u ((List.takeWhile_sublist _).mem hu)
  rw [baseType, hbase, lower.apply_nil]

/-- The extension's type, when the table is asked for its own key. -/
theorem fromExtension_own
    (h : ∀ name ∈ objectPrototype,
      spells ((extractExtension lower filename).getD []) name = false) :
    ∃ type, (if (mimeFromExtension lower filename).truthy then mimeFromExtension lower filename
        else .text (ofString OCTET_STREAM)) = .text type ∧ type ≠ [] ∧
      Recovered lower content declaredType filename type := by
  have hoctet : ofString OCTET_STREAM ≠ [] := ofString_ne_nil (by simp [OCTET_STREAM])
  cases hfound : mimeFromExtension lower filename with
  | undefined => exact ⟨_, rfl, hoctet, .octetStream rfl⟩
  | text t =>
    unfold mimeFromExtension at hfound
    split at hfound
    · cases hfound
    · next ext hext =>
      split at hfound
      · cases hfound
      · obtain ⟨row, hrow, hkey, rfl⟩ := lookup_eq_text hfound
        have hne := ofString_ne_nil (extensions_nonempty row hrow)
        exact ⟨_, by simp [Property.truthy, hne], hne, .extension ext hext row hrow hkey rfl⟩
  | inherited name =>
    unfold mimeFromExtension at hfound
    split at hfound
    · cases hfound
    · next ext hext =>
      split at hfound
      · cases hfound
      · obtain ⟨hname, hkey⟩ := lookup_eq_inherited hfound
        have hown := h name hname
        rw [hext, Option.getD_some, hkey] at hown
        cases hown

/-- An own key, or none, gives a recovered type. -/
theorem resolveContentType_own (h : OwnKey lower content declaredType filename) :
    ∃ type, resolveContentType lower content declaredType filename = .text type ∧ type ≠ [] ∧
      Recovered lower content declaredType filename type := by
  unfold OwnKey tableKey at h
  unfold resolveContentType
  cases hsniff : sniffContentType content with
  | some t => exact ⟨_, rfl, ofString_ne_nil (sniffed_nonempty hsniff), .sniffed t hsniff rfl⟩
  | none =>
    rw [hsniff] at h
    dsimp only at h ⊢
    by_cases hspecific : (declaredType.map (baseType lower)).getD [] ≠ [] ∧
        ¬ spells ((declaredType.map (baseType lower)).getD []) OCTET_STREAM = true
    · rw [if_pos hspecific] at h ⊢
      cases declaredType with
      | none => exact absurd rfl hspecific.1
      | some d =>
        rw [Option.map_some, Option.getD_some] at hspecific h ⊢
        cases hfound : lookup DECLARED_TYPE_ALIASES (baseType lower d) with
        | undefined => exact ⟨_, rfl, trim_ne_nil hspecific.1, .declared d rfl rfl⟩
        | text t =>
          obtain ⟨row, hrow, hkey, rfl⟩ := lookup_eq_text hfound
          have hne := ofString_ne_nil (aliases_nonempty row hrow)
          exact ⟨_, by simp [Property.truthy, hne], hne, .canonical d rfl row hrow hkey rfl⟩
        | inherited name =>
          obtain ⟨hname, hkey⟩ := lookup_eq_inherited hfound
          rw [h name hname] at hkey
          cases hkey
    · rw [if_neg hspecific] at h ⊢
      exact fromExtension_own h

theorem spells_nil {name : String} (hname : name ∈ objectPrototype) : spells [] name = false := by
  have hne : ∀ s ∈ objectPrototype, s ≠ "" := by simp [objectPrototype]
  simpa [spells, characters] using hne name hname

theorem mimeFromExtension_inherited {name : String} (hname : name ∈ objectPrototype)
    (hkey : spells ((extractExtension lower filename).getD []) name = true) :
    mimeFromExtension lower filename = .inherited name := by
  unfold mimeFromExtension
  cases hext : extractExtension lower filename with
  | none =>
    rw [hext, Option.getD_none, spells_nil hname] at hkey
    cases hkey
  | some ext =>
    rw [hext, Option.getD_some] at hkey
    have hne : ext ≠ [] := by
      rintro rfl
      rw [spells_nil hname] at hkey
      cases hkey
    dsimp only
    rw [if_neg hne, lookup_inherited extensions_own hname hkey]

/-- A key that every object inherits gives no string. -/
theorem resolveContentType_inherited (h : ¬ OwnKey lower content declaredType filename) :
    ∃ name, resolveContentType lower content declaredType filename = .inherited name := by
  have hkey : ∃ name ∈ objectPrototype,
      spells (tableKey lower content declaredType filename) name = true := by
    simpa [OwnKey] using h
  obtain ⟨name, hname, hkey⟩ := hkey
  have hempty : spells [] name = false := spells_nil hname
  refine ⟨name, ?_⟩
  unfold tableKey at hkey
  unfold resolveContentType
  cases hsniff : sniffContentType content with
  | some t =>
    rw [hsniff, hempty] at hkey
    cases hkey
  | none =>
    rw [hsniff] at hkey
    dsimp only at hkey ⊢
    by_cases hspecific : (declaredType.map (baseType lower)).getD [] ≠ [] ∧
        ¬ spells ((declaredType.map (baseType lower)).getD []) OCTET_STREAM = true
    · rw [if_pos hspecific] at hkey ⊢
      rw [lookup_inherited aliases_own hname hkey]
      rfl
    · rw [if_neg hspecific] at hkey ⊢
      rw [mimeFromExtension_inherited hname hkey]
      rfl

end Types

/-! ## Header values -/

def Printable (c : Char) : Prop := 0x20 ≤ c.toNat ∧ c.toNat < 0x7F

/-- A disposition with a quoted name, and, if one is there, an extended name that is decoded to
the name without its control characters. -/
structure HeaderFor (name : Text) (header : List Char) : Prop where
  noControl : ∀ c ∈ header, 0x20 ≤ c.toNat ∧ c.toNat ≠ 0x7F
  shape : ∃ kind quoted extended,
    header = kind ++ "; filename=\"".toList ++ quoted ++ '"' :: extended ∧
    kind ∈ ["inline".toList, "attachment".toList] ∧
    (∀ c ∈ quoted, Printable c ∧ c ≠ '"' ∧ c ≠ '\\') ∧
    (extended = [] ∨ ∃ value chars, extended = "; filename*=UTF-8''".toList ++ value ∧
      characters (stripControls name) = some chars ∧
      PercentText.decode value = some (String.ofList chars))

theorem unitChar_toNat {u : UInt16} (h : u.toNat < 0xD800) : (unitChar u).toNat = u.toNat := by
  have hvalid : u.toNat.isValidChar := .inl h
  rw [unitChar, Char.ofNat, dif_pos hvalid]
  rfl

theorem isAscii_bounds {u : UInt16} (h : isAscii u = true) : 0x20 ≤ u.toNat ∧ u.toNat ≤ 0x7E := by
  rw [isAscii, Bool.and_eq_true, decide_eq_true_eq, decide_eq_true_eq] at h
  exact ⟨UInt16.le_iff_toNat_le.mp h.1, UInt16.le_iff_toNat_le.mp h.2⟩

theorem asciiChar_spec (u : UInt16) :
    Printable (asciiChar u) ∧ asciiChar u ≠ '"' ∧ asciiChar u ≠ '\\' := by
  unfold asciiChar Printable
  split
  · decide
  · next h =>
    simp only [Bool.or_eq_true, beq_iff_eq, Bool.not_eq_true', not_or, Bool.not_eq_false] at h
    obtain ⟨⟨hquote, hslash⟩, hascii⟩ := h
    obtain ⟨hlow, hhigh⟩ := isAscii_bounds hascii
    have hnat := unitChar_toNat (u := u) (by omega)
    refine ⟨by omega, ?_, ?_⟩
    · intro heq
      rw [heq] at hnat
      exact hquote (UInt16.toNat_inj.mp hnat.symm)
    · intro heq
      rw [heq] at hnat
      exact hslash (UInt16.toNat_inj.mp hnat.symm)

theorem isWellFormed_stripControls (name : Text) :
    isWellFormed (stripControls name) = isWellFormed name := by
  have hcontrol : ∀ u, isControl u = true → isHigh u = false ∧ isLow u = false := by
    intro u hu
    apply not_surrogate_of_lt
    rw [isControl, Bool.or_eq_true, decide_eq_true_eq, beq_iff_eq] at hu
    rw [UInt16.lt_iff_toNat_lt]
    rcases hu with hu | rfl
    · have hlt : u.toNat < 0x20 := UInt16.lt_iff_toNat_lt.mp hu
      exact Nat.lt_trans hlt (by decide)
    · decide
  apply isWellFormed_map
  · intro u
    split
    · next hu => rw [(hcontrol u hu).1, (not_surrogate_of_lt (by decide)).1]
    · rfl
  · intro u
    split
    · next hu => rw [(hcontrol u hu).2, (not_surrogate_of_lt (by decide)).2]
    · rfl

theorem isWellFormed_of_ascii {text : Text} (h : text.all isAscii = true) :
    isWellFormed text = true := by
  apply isWellFormed_of_lt
  intro u hu
  have hhigh := (isAscii_bounds (List.all_eq_true.mp h u hu)).2
  rw [UInt16.lt_iff_toNat_lt]
  exact Nat.lt_of_le_of_lt hhigh (by decide)

section Headers
variable {lower : LowerCase} {shown : Shown} {type name : Text}

/-- The header of a printable name, with or without its extended form. -/
theorem headerFor_append {kind extended : List Char}
    (hkind : kind ∈ ["inline".toList, "attachment".toList])
    (hextended : extended = [] ∨ ∃ value chars, extended = "; filename*=UTF-8''".toList ++ value ∧
      characters (stripControls name) = some chars ∧ value = PercentText.encode chars) :
    HeaderFor name (kind ++ "; filename=\"".toList ++ (stripControls name).map asciiChar ++
      '"' :: extended) := by
  have hkinds : ∀ k ∈ ["inline".toList, "attachment".toList], ∀ c ∈ k,
      0x20 ≤ c.toNat ∧ c.toNat ≠ 0x7F := by simp
  have hlabel : ∀ c ∈ "; filename=\"".toList, 0x20 ≤ c.toNat ∧ c.toNat ≠ 0x7F := by simp
  have hextLabel : ∀ c ∈ "; filename*=UTF-8''".toList, 0x20 ≤ c.toNat ∧ c.toNat ≠ 0x7F := by
    simp
  have hquoted : ∀ c ∈ (stripControls name).map asciiChar,
      Printable c ∧ c ≠ '"' ∧ c ≠ '\\' := by
    intro c hc
    obtain ⟨u, -, rfl⟩ := List.mem_map.mp hc
    exact asciiChar_spec u
  have hprintable : ∀ c, Printable c → 0x20 ≤ c.toNat ∧ c.toNat ≠ 0x7F := by
    intro c hc
    exact ⟨hc.1, Nat.ne_of_lt hc.2⟩
  constructor
  · simp only [List.forall_mem_append, List.forall_mem_cons]
    refine ⟨⟨⟨hkinds kind hkind, hlabel⟩, fun c hc => hprintable c (hquoted c hc).1⟩, by decide, ?_⟩
    rcases hextended with rfl | ⟨value, chars, rfl, -, rfl⟩
    · simp
    · simp only [List.forall_mem_append]
      exact ⟨hextLabel, fun c hc => hprintable c (PercentText.encode_printable chars c hc)⟩
  · refine ⟨kind, _, extended, rfl, hkind, hquoted, ?_⟩
    rcases hextended with hempty | ⟨value, chars, heq, hchars, rfl⟩
    · exact .inl hempty
    · exact .inr ⟨_, chars, heq, hchars, PercentText.decode_encode chars⟩

theorem buildContentDisposition_wellFormed (h : isWellFormed name = true) :
    ∃ header, buildContentDisposition lower (.text type) name = .ok header ∧
      HeaderFor name header := by
  have hkind : ∀ b : Bool, (if b then "inline" else "attachment").toList ∈
      ["inline".toList, "attachment".toList] := by
    intro b
    cases b <;> simp
  have hsafe : isWellFormed (stripControls name) = true := isWellFormed_stripControls name ▸ h
  obtain ⟨chars, hchars⟩ := Option.isSome_iff_exists.mp hsafe
  simp only [buildContentDisposition, baseOf, encodeURIComponent, hchars, bind, Except.bind, pure,
    Except.pure]
  split
  · refine ⟨_, rfl, ?_⟩
    exact headerFor_append (hkind _) (.inl rfl)
  · refine ⟨_, rfl, ?_⟩
    rw [List.append_assoc, List.append_assoc _ ['"'], List.singleton_append]
    exact headerFor_append (hkind _) (.inr ⟨_, chars, rfl, hchars, rfl⟩)

theorem buildContentDisposition_lone (h : isWellFormed name = false) :
    buildContentDisposition lower (.text type) name = .error .uriError := by
  have hsafe : isWellFormed (stripControls name) = false := isWellFormed_stripControls name ▸ h
  have hascii : ¬ (stripControls name).all isAscii = true := fun hall => by
    rw [isWellFormed_of_ascii hall] at hsafe
    cases hsafe
  have hchars : characters (stripControls name) = none := by
    simpa [isWellFormed] using hsafe
  simp only [buildContentDisposition, baseOf, encodeURIComponent, hchars, bind, Except.bind, pure,
    Except.pure, if_neg hascii]

theorem extensions_ascii : ∀ row ∈ MIME_TO_EXTENSION, ∀ u ∈ ofString row.2, u < 0xD800 := by
  have hall : MIME_TO_EXTENSION.all (fun row => (ofString row.2).all (· < 0xD800)) = true := by
    decide +kernel
  intro row hrow u hu
  have hrowAll := List.all_eq_true.mp hall row hrow
  exact of_decide_eq_true (List.all_eq_true.mp hrowAll u hu)

/-- The extension that may be added has no surrogates. -/
theorem ensureFilenameExtension_text (filename : Text) :
    ∃ name, ensureFilenameExtension lower shown filename (.text type) = .ok name ∧
      isWellFormed name = isWellFormed filename := by
  have hdot : (0x2E : UInt16) < 0xD800 := by decide
  unfold ensureFilenameExtension
  split
  · exact ⟨filename, rfl, rfl⟩
  · simp only [extensionFromMime, baseOf, bind, Except.bind, pure, Except.pure]
    cases hext : lookup MIME_TO_EXTENSION (baseType lower type) with
    | undefined => exact ⟨filename, rfl, rfl⟩
    | text ext =>
      obtain ⟨row, hrow, -, rfl⟩ := lookup_eq_text hext
      refine ⟨_, rfl, isWellFormed_append_of_lt ?_ filename⟩
      exact List.forall_mem_cons.mpr ⟨hdot, extensions_ascii row hrow⟩
    | inherited name =>
      refine ⟨_, rfl, isWellFormed_append_of_lt ?_ filename⟩
      refine List.forall_mem_cons.mpr ⟨hdot, fun u hu => ?_⟩
      have hlt : u.toNat < 0x80 := UInt16.lt_iff_toNat_lt.mp (shown.ascii name u hu)
      rw [UInt16.lt_iff_toNat_lt]
      exact Nat.lt_trans hlt (by decide)

end Headers

/-! ## Attachments -/

section Attachments
variable (lower : LowerCase) (shown : Shown) (content : List UInt8)
  (declaredType filename : Option Text) (fallback : Text)

/-- The attachment gets a recovered type that is a string, a name, and a header for the name;
nothing is thrown. -/
def Handled : Prop :=
  ∃ type name header,
    describe lower shown content declaredType filename fallback = .ok (.text type, name, header) ∧
      type ≠ [] ∧ Recovered lower content declaredType filename type ∧ HeaderFor name header

variable {lower shown content declaredType filename fallback}

/-- A type that is no string reaches no header. -/
theorem not_handled_of_inherited (h : ¬ OwnKey lower content declaredType filename) :
    ¬ Handled lower shown content declaredType filename fallback := by
  obtain ⟨inherited, htype⟩ := resolveContentType_inherited h
  intro hhandled
  obtain ⟨t, n, header, hdescribe, -⟩ := hhandled
  simp only [describe, htype, buildContentDisposition, baseOf, bind, Except.bind] at hdescribe
  cases hname : ensureFilenameExtension lower shown (filename.getD fallback)
      (.inherited inherited) with
  | error failure =>
    rw [hname] at hdescribe
    cases hdescribe
  | ok name =>
    rw [hname] at hdescribe
    cases hdescribe

/-- An attachment is handled just if no table is asked for a name that every object inherits and
the file name has no lone surrogate. -/
theorem handled_iff (lower : LowerCase) (shown : Shown) (content : List UInt8)
    (declaredType filename : Option Text) (fallback : Text) :
    Handled lower shown content declaredType filename fallback ↔
      OwnKey lower content declaredType filename ∧
        isWellFormed (filename.getD fallback) = true := by
  by_cases hkey : OwnKey lower content declaredType filename
  · obtain ⟨type, htype, hne, hrecovered⟩ := resolveContentType_own hkey
    obtain ⟨name, hname, hwell⟩ : ∃ name,
        ensureFilenameExtension lower shown (filename.getD fallback) (.text type) = .ok name ∧ _ :=
      ensureFilenameExtension_text _
    simp only [Handled, describe, htype, hname, bind, Except.bind, pure, Except.pure, hkey,
      true_and]
    rw [← hwell]
    cases hform : isWellFormed name with
    | true =>
      obtain ⟨header, hheader, hfor⟩ : ∃ header,
          buildContentDisposition lower (.text type) name = .ok header ∧ _ :=
        buildContentDisposition_wellFormed hform
      exact iff_of_true ⟨type, name, header, by rw [hheader], hne, hrecovered, hfor⟩ rfl
    | false =>
      refine iff_of_false ?_ Bool.false_ne_true
      intro hhandled
      obtain ⟨t, n, header, hdescribe, -⟩ := hhandled
      rw [buildContentDisposition_lone hform] at hdescribe
      cases hdescribe
  · exact iff_of_false (not_handled_of_inherited hkey) fun h => hkey h.1

end Attachments

/-! ## An inherited name -/

def asciiLower : LowerCase :=
  ⟨fun text => text.map fun u => if 0x41 ≤ u && u ≤ 0x5A then u + 0x20 else u, rfl⟩

def objectText : Text := ofString "function Object() \x7b [native code] \x7d"

theorem objectText_ascii : ∀ u ∈ objectText, u < 0x80 := by
  have hall : objectText.all (· < 0x80) = true := by decide +kernel
  intro u hu
  exact of_decide_eq_true (List.all_eq_true.mp hall u hu)

def builtinText : Shown := ⟨fun _ => objectText, fun _ => objectText_ascii⟩

/-- The type of a file named `x.constructor` is the function `Object`. -/
theorem constructorName_fails :
    ¬ Handled asciiLower builtinText [] none (some (ofString "x.constructor")) [] := by
  apply not_handled_of_inherited
  intro hown
  have hname := hown "constructor" (by simp [objectPrototype])
  have hspells : spells (tableKey asciiLower [] none (some (ofString "x.constructor")))
      "constructor" = true := by
    decide +kernel
  rw [hspells] at hname
  cases hname

end SesEmailAdapter.Isolated.AttachmentTypes
