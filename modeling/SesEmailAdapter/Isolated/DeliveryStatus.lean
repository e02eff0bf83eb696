import SesEmailAdapter.Notifier.BounceSuppression

/-! # Delivery status reports

The fields of a delivery status report are read from the combined text of the message, by one
flat scan in which the last line of each name wins. The address that is suppressed and its
permanence are taken from what the scan reports. -/

namespace SesEmailAdapter.Isolated.DeliveryStatus
open Notifier Email.Address

/-! ## Lines -/

/-- `split(/\r?\n/)` -/
def splitLines : List Char → List (List Char)
  | '\r' :: '\n' :: rest => [] :: splitLines rest
  | '\n' :: rest => [] :: splitLines rest
  | c :: rest => (splitLines rest).modifyHead (c :: ·)
  | [] => [[]]

def isKeyChar (c : Char) : Bool := c.isAlpha || c == '-'

/-- What `.` does not match. -/
def isLineTerminator (c : Char) : Bool := c.toNat ∈ [0xA, 0xD, 0x2028, 0x2029]

/-- `match(/^([A-Za-z-]+):\s*(.*)$/)`, the key and the value. -/
def matchField (line : List Char) : Option (List Char × List Char) :=
  let rawKey := line.takeWhile isKeyChar
  match line.dropWhile isKeyChar with
  | ':' :: rest =>
    let rawValue := rest.dropWhile isSpace
    if rawKey = [] ∨ rawValue.any isLineTerminator then none else some (rawKey, rawValue)
  | _ => none

/-- `replace(/^rfc822;\s*/i, "")` -/
def stripAddressType (value : List Char) : List Char :=
  if toLowerCase (value.take 7) = "rfc822;".toList then (value.drop 7).dropWhile isSpace
  else value

variable {line : List Char}

theorem splitLines_line (h : ∀ c ∈ line, c ≠ '\n' ∧ c ≠ '\r')
    (rest : List Char) : splitLines (line ++ '\n' :: rest) = line :: splitLines rest := by
  induction line with
  | nil => rfl
  | cons c line ih =>
    obtain ⟨hlf, hcr⟩ := h c List.mem_cons_self
    rw [List.cons_append, splitLines, ih fun d hd => h d (List.mem_cons_of_mem c hd)]
    · rfl
    · exact fun _ heq => absurd heq hcr
    · exact hlf

theorem splitLines_last (h : ∀ c ∈ line, c ≠ '\n' ∧ c ≠ '\r') :
    splitLines line = [line] := by
  induction line with
  | nil => rfl
  | cons c line ih =>
    obtain ⟨hlf, hcr⟩ := h c List.mem_cons_self
    rw [splitLines, ih fun d hd => h d (List.mem_cons_of_mem c hd)]
    · rfl
    · exact fun _ heq => absurd heq hcr
    · exact hlf

/-- Lines without breaks are read back from their text. -/
theorem splitLines_intercalate {lines : List (List Char)}
    (h : ∀ l ∈ line :: lines, ∀ c ∈ l, c ≠ '\n' ∧ c ≠ '\r') :
    splitLines (['\n'].intercalate (line :: lines)) = line :: lines := by
  induction lines generalizing line with
  | nil => simpa using splitLines_last (h line List.mem_cons_self)
  | cons next lines ih =>
    have hjoin : ['\n'].intercalate (line :: next :: lines) =
        line ++ '\n' :: ['\n'].intercalate (next :: lines) := by simp
    rw [hjoin, splitLines_line (h line List.mem_cons_self),
      ih fun l hl => h l (List.mem_cons_of_mem line hl)]

/-! ## The scan -/

structure BounceInfo where
  action : Option (List Char)
  status : Option (List Char)
  diagnosticCode : Option (List Char)
  originalRecipient : Option (List Char)
  finalRecipient : Option (List Char)
  deriving DecidableEq

def BounceInfo.empty : BounceInfo := ⟨none, none, none, none, none⟩

/-- `lower` is the lower-casing of arbitrary text. -/
def readLine (lower : List Char → List Char) (fields : BounceInfo) (line : List Char) :
    BounceInfo :=
  match matchField line with
  | none => fields
  | some (rawKey, rawValue) =>
    let key := toLowerCase rawKey
    let value := trim rawValue
    let addressValue := stripAddressType value
    if key = "action".toList then { fields with action := some (lower value) }
    else if key = "status".toList then { fields with status := some value }
    else if key = "diagnostic-code".toList then { fields with diagnosticCode := some value }
    else if key = "original-recipient".toList then
      { fields with originalRecipient := some addressValue }
    else if key = "final-recipient".toList then
      { fields with finalRecipient := some addressValue }
    else fields

def readLines (lower : List Char → List Char) (lines : List (List Char)) : BounceInfo :=
  lines.foldl (readLine lower) .empty

def parseDeliveryStatusPart (lower : List Char → List Char) (text : List Char) : BounceInfo :=
  readLines lower (splitLines text)

inductive Field
  | action
  | status
  | diagnosticCode
  | originalRecipient
  | finalRecipient
  deriving DecidableEq

def BounceInfo.get (info : BounceInfo) : Field → Option (List Char)
  | .action => info.action
  | .status => info.status
  | .diagnosticCode => info.diagnosticCode
  | .originalRecipient => info.originalRecipient
  | .finalRecipient => info.finalRecipient

/-- What the processor reads of the report. -/
def BounceInfo.notification (info : BounceInfo) (linkedSignalId : Option String) :
    BounceSuppression.Notification :=
  .inboundBounce
    ⟨info.originalRecipient.map String.ofList, info.finalRecipient.map String.ofList,
      info.action.map String.ofList, info.status.map String.ofList⟩
    linkedSignalId

variable {lower : List Char → List Char} {line : List Char} {lines more : List (List Char)}
  {f : Field}

/-- The value that a line states for a field. -/
def stated (lower : List Char → List Char) (f : Field) (line : List Char) : Option (List Char) :=
  (readLine lower .empty line).get f

theorem BounceInfo.get_empty : BounceInfo.empty.get f = none := by
  cases f <;> rfl

theorem BounceInfo.ext_get {info other : BounceInfo} (h : ∀ f, info.get f = other.get f) :
    info = other := by
  cases info
  cases other
  have ha := h .action
  have hs := h .status
  have hd := h .diagnosticCode
  have ho := h .originalRecipient
  have hf := h .finalRecipient
  simp only [BounceInfo.get] at ha hs hd ho hf
  simp [ha, hs, hd, ho, hf]

/-- A line changes just the field that it states. -/
theorem get_readLine (fields : BounceInfo) :
    (readLine lower fields line).get f = (stated lower f line).or (fields.get f) := by
  unfold stated readLine
  cases matchField line with
  | none => cases f <;> rfl
  | some found =>
    obtain ⟨rawKey, rawValue⟩ := found
    dsimp only
    split_ifs <;> cases f <;> rfl

theorem get_foldl (fields : BounceInfo) :
    (lines.foldl (readLine lower) fields).get f =
      (lines.filterMap (stated lower f)).getLast?.or (fields.get f) := by
  induction lines generalizing fields with
  | nil => rfl
  | cons line lines ih =>
    rw [List.foldl_cons, ih, get_readLine, List.filterMap_cons]
    cases hline : stated lower f line with
    | none => rfl
    | some value =>
      cases hlast : (lines.filterMap (stated lower f)).getLast? <;>
        simp [List.getLast?_cons, hlast]

/-- The last line that states a field gives its value. -/
theorem get_readLines :
    (readLines lower lines).get f = (lines.filterMap (stated lower f)).getLast? := by
  rw [readLines, get_foldl, BounceInfo.get_empty, Option.or_none]

theorem get_readLines_append :
    (readLines lower (lines ++ more)).get f =
      ((readLines lower more).get f).or ((readLines lower lines).get f) := by
  rw [get_readLines, get_readLines, get_readLines, List.filterMap_append, List.getLast?_append]

theorem get_isSome_of_stated {value : List Char} (hline : line ∈ lines)
    (hstated : stated lower f line = some value) :
    ∃ last, (readLines lower lines).get f = some last := by
  have hmem : value ∈ lines.filterMap (stated lower f) :=
    List.mem_filterMap.mpr ⟨line, hline, hstated⟩
  rw [get_readLines]
  exact ⟨_, List.getLast?_eq_some_getLast (List.ne_nil_of_mem hmem)⟩

theorem stated_of_get {value : List Char} (h : (readLines lower lines).get f = some value) :
    ∃ line ∈ lines, stated lower f line = some value := by
  rw [get_readLines] at h
  exact List.mem_filterMap.mp (List.mem_of_getLast? h)

/-! ## Reports -/

def failedAction : List Char := "failed".toList

/-- A report with a block of lines for each recipient. The human-readable part and the
per-message block stand before the blocks. -/
structure Report where
  text : List Char
  prose : List (List Char)
  recipients : List (List (List Char))
  trailing : List (List Char)
  lines_eq : splitLines text = prose ++ recipients.flatMap ([] :: ·) ++ trailing

/-- What is reported and suppressed is what the block says, and the block is a failed one if
there is one. -/
structure Reports (lower : List Char → List Char) (r : Report) (block : List (List Char)) :
    Prop where
  fields : ∀ f value, (parseDeliveryStatusPart lower r.text).get f = some value →
    (readLines lower block).get f = some value
  failed : (∃ other ∈ r.recipients, (readLines lower other).action = some failedAction) →
    (readLines lower block).action = some failedAction
  suppressed : ∀ linkedSignalId clock,
    ((parseDeliveryStatusPart lower r.text).notification linkedSignalId).entries clock =
      ((readLines lower block).notification linkedSignalId).entries clock

/-- All that is reported comes from one recipient's block. -/
def Coherent (lower : List Char → List Char) (r : Report) : Prop :=
  parseDeliveryStatusPart lower r.text = .empty ∨ ∃ block ∈ r.recipients, Reports lower r block

/-- The block states each field that is stated anywhere, and the last statement of a field
behind the block repeats the block's own. -/
structure Settles (lower : List Char → List Char) (r : Report) (block : List (List Char))
    (behind : List (List Char)) : Prop where
  complete : ∀ f, ∀ line ∈ splitLines r.text, stated lower f line ≠ none →
    ∃ own ∈ block, stated lower f own ≠ none
  repeated : ∀ f value, (behind.filterMap (stated lower f)).getLast? = some value →
    (block.filterMap (stated lower f)).getLast? = some value
  failed : (∃ other ∈ r.recipients, (readLines lower other).action = some failedAction) →
    (readLines lower block).action = some failedAction

/-- No field is stated, or one block settles them all. -/
def Settled (lower : List Char → List Char) (r : Report) : Prop :=
  (∀ f, ∀ line ∈ splitLines r.text, stated lower f line = none) ∨
    ∃ before block after, r.recipients = before ++ block :: after ∧
      Settles lower r block (after.flatMap ([] :: ·) ++ r.trailing)

variable {r : Report} {before after : List (List (List Char))} {block : List (List Char)}

/-- A field is reported from behind the block, else from the block, else from before it. -/
theorem get_parse (h : r.recipients = before ++ block :: after) :
    (parseDeliveryStatusPart lower r.text).get f =
      ((readLines lower (after.flatMap ([] :: ·) ++ r.trailing)).get f).or
        (((readLines lower block).get f).or
          ((readLines lower (r.prose ++ before.flatMap ([] :: ·) ++ [[]])).get f)) := by
  have hlines : splitLines r.text = (r.prose ++ before.flatMap ([] :: ·) ++ [[]]) ++ block ++
      (after.flatMap ([] :: ·) ++ r.trailing) := by
    rw [r.lines_eq, h]
    simp
  rw [parseDeliveryStatusPart, hlines, get_readLines_append]
  exact congrArg _ get_readLines_append

theorem parse_eq_empty_iff :
    parseDeliveryStatusPart lower r.text = .empty ↔
      ∀ f, ∀ line ∈ splitLines r.text, stated lower f line = none := by
  constructor
  · intro hempty f line hline
    cases hstated : stated lower f line with
    | none => rfl
    | some value =>
      obtain ⟨last, hlast⟩ := get_isSome_of_stated hline hstated
      rw [← parseDeliveryStatusPart, hempty, BounceInfo.get_empty] at hlast
      cases hlast
  · intro hnone
    apply BounceInfo.ext_get
    intro f
    rw [BounceInfo.get_empty, Option.eq_none_iff_forall_ne_some]
    intro value hvalue
    obtain ⟨line, hline, hstated⟩ := stated_of_get hvalue
    rw [hnone f line hline] at hstated
    cases hstated

/-- A block that settles every field is what is reported. -/
theorem parse_eq_of_settles (h : r.recipients = before ++ block :: after)
    (hsettles : Settles lower r block (after.flatMap ([] :: ·) ++ r.trailing)) :
    parseDeliveryStatusPart lower r.text = readLines lower block := by
  apply BounceInfo.ext_get
  intro f
  have hparse : (parseDeliveryStatusPart lower r.text).get f = _ := get_parse h
  cases hbehind : (readLines lower (after.flatMap ([] :: ·) ++ r.trailing)).get f with
  | some value =>
    rw [hparse, hbehind, get_readLines, hsettles.repeated f value (get_readLines ▸ hbehind),
      Option.some_or]
  | none =>
    rw [hparse, hbehind, Option.none_or]
    cases hblock : (readLines lower block).get f with
    | some value => rfl
    | none =>
      rw [Option.none_or, Option.eq_none_iff_forall_ne_some]
      intro value hbefore
      have hreported : (parseDeliveryStatusPart lower r.text).get f = some value := by
        rw [hparse, hbehind, hblock, Option.none_or, Option.none_or, hbefore]
      obtain ⟨line, hline, hstated⟩ := stated_of_get hreported
      obtain ⟨own, hown, hne⟩ := hsettles.complete f line hline (by simp [hstated])
      obtain ⟨v, hv⟩ := Option.ne_none_iff_exists'.mp hne
      obtain ⟨last, hlast⟩ := get_isSome_of_stated hown hv
      rw [hblock] at hlast
      cases hlast

theorem Reports.settles (hreports : Reports lower r block)
    (h : r.recipients = before ++ block :: after) :
    Settles lower r block (after.flatMap ([] :: ·) ++ r.trailing) where
  complete f line hline hne := by
    obtain ⟨value, hvalue⟩ := Option.ne_none_iff_exists'.mp hne
    obtain ⟨last, hlast⟩ := get_isSome_of_stated hline hvalue
    obtain ⟨own, hown, hstated⟩ := stated_of_get (hreports.fields f last hlast)
    exact ⟨own, hown, by simp [hstated]⟩
  repeated f value hvalue := by
    rw [← get_readLines] at hvalue ⊢
    apply hreports.fields f value
    rw [get_parse h, hvalue, Option.some_or]
  failed := hreports.failed

/-- A report with one block is coherent if no other line states a field. -/
theorem settled_of_single (h : r.recipients = [block])
    (hprose : ∀ f, ∀ line ∈ r.prose, stated lower f line = none)
    (htrailing : ∀ f, ∀ line ∈ r.trailing, stated lower f line = none) : Settled lower r := by
  refine .inr ⟨[], block, [], h, ?_, ?_, ?_⟩
  · intro f line hline hne
    have hblank : stated lower f [] = none := BounceInfo.get_empty
    rw [r.lines_eq, h] at hline
    simp only [List.mem_append, List.flatMap_cons, List.flatMap_nil, List.append_nil,
      List.mem_cons] at hline
    rcases hline with (hline | rfl | hline) | hline
    · exact absurd (hprose f line hline) hne
    · exact absurd hblank hne
    · exact ⟨line, hline, hne⟩
    · exact absurd (htrailing f line hline) hne
  · intro f value hvalue
    obtain ⟨line, hline, hstated⟩ := List.mem_filterMap.mp (List.mem_of_getLast? hvalue)
    rw [htrailing f line hline] at hstated
    cases hstated
  · intro hother
    obtain ⟨other, hmem, hfailed⟩ := hother
    rw [h, List.mem_singleton] at hmem
    exact hmem ▸ hfailed

/-- What is reported comes from one block just if one block settles every field that the text
states. -/
theorem coherent_report_iff (lower : List Char → List Char) (r : Report) :
    Coherent lower r ↔ Settled lower r := by
  unfold Coherent Settled
  rw [parse_eq_empty_iff]
  apply or_congr_right
  constructor
  · intro hcoherent
    obtain ⟨block, hmem, hreports⟩ := hcoherent
    obtain ⟨before, after, h⟩ := List.append_of_mem hmem
    exact ⟨before, block, after, h, hreports.settles h⟩
  · intro hsettled
    obtain ⟨before, block, after, h, hsettles⟩ := hsettled
    have hparse := parse_eq_of_settles h hsettles
    refine ⟨block, by simp [h], ?_, hsettles.failed, ?_⟩
    · intro f value hvalue
      rwa [hparse] at hvalue
    · intro linkedSignalId clock
      rw [hparse]

/-! ## Two recipients -/

def failedBlock : List (List Char) :=
  ["Original-Recipient: rfc822;a@x.org".toList, "Action: failed".toList, "Status: 5.1.1".toList]

def delayedBlock : List (List Char) :=
  ["Final-Recipient: rfc822;b@x.org".toList, "Action: delayed".toList, "Status: 4.4.7".toList]

def twoRecipients : List (List Char) :=
  "Sorry.".toList :: [failedBlock, delayedBlock].flatMap ([] :: ·)

theorem splitLines_twoRecipients :
    splitLines (['\n'].intercalate twoRecipients) = twoRecipients := by
  apply splitLines_intercalate
  simp [failedBlock, delayedBlock]

theorem twoRecipients_eq :
    twoRecipients = ["Sorry.".toList] ++ [failedBlock, delayedBlock].flatMap ([] :: ·) ++ [] := by
  simp [twoRecipients]

def mixedReport : Report :=
  ⟨['\n'].intercalate twoRecipients, ["Sorry.".toList], [failedBlock, delayedBlock], [],
    splitLines_twoRecipients.trans twoRecipients_eq⟩

/-- The first recipient failed for good and is reported with the second one's transient delay. -/
theorem mixedReport_incoherent : ¬ Coherent toLowerCase mixedReport := by
  have haction : (parseDeliveryStatusPart toLowerCase mixedReport.text).action =
      some "delayed".toList := by
    rw [parseDeliveryStatusPart, mixedReport, splitLines_twoRecipients]
    decide +kernel
  have hfailed : (readLines toLowerCase failedBlock).action = some failedAction := by
    decide +kernel
  intro hcoherent
  rcases hcoherent with hempty | ⟨block, hmem, hreports⟩
  · rw [hempty] at haction
    cases haction
  · have hblock : (readLines toLowerCase block).action = some failedAction :=
      hreports.failed ⟨failedBlock, List.mem_cons_self, hfailed⟩
    have hdelay : (readLines toLowerCase block).action = some "delayed".toList :=
      hreports.fields .action _ haction
    rw [hblock] at hdelay
    exact absurd hdelay (by simp [failedAction])

end SesEmailAdapter.Isolated.DeliveryStatus
