import SesEmailAdapter.Lib.JoinedText
import SesEmailAdapter.Lib.Json
import SesEmailAdapter.Processor.IncomingEmail

/-! # Embed text builder

The text that stands for an email in the similarity search. Ingest builds it from what the
classifier said, the reindex worker from the message in S3. The two texts never agree: the first
line is the domain of the sender in one and the account in the other. -/

namespace SesEmailAdapter.Embedding.EmbedText
open Lib Lib.JoinedText
open SesEmailAdapter.Types
open Database.AccountDatabase (SYSTEM_ACCOUNT_ID)
open Email.Address
open Processor.IngestService (ParsedMime ClassificationOutput)
open Processor.IncomingEmail (senderDomainOf)

structure Env where
  /-- `hostname` and `pathname` of a URL, if the text is one. -/
  parseUrl : String → Option (String × String)
  sha256Base64 : String → String

/-! ## Sanitization -/

/-- Replaces every match, from left to right. A match is what it is replaced with and the text
behind it. Each step leaves a shorter text, so its length is fuel enough. -/
def replaceMatches (rule : List Char → Option (List Char × List Char)) :
    Nat → List Char → List Char
  | 0, text => text
  | _, [] => []
  | fuel + 1, c :: text =>
    match rule (c :: text) with
    | some (replacement, rest) => replacement ++ replaceMatches rule fuel rest
    | none => c :: replaceMatches rule fuel text

def replaceAll (rule : List Char → Option (List Char × List Char)) (text : List Char) :
    List Char :=
  replaceMatches rule text.length text

/-- The text behind a prefix, whatever the case of its letters. -/
def afterPrefix (wanted : String) (text : List Char) : Option (List Char) :=
  if toLowerCase (text.take wanted.length) = wanted.toList then some (text.drop wanted.length)
  else none

/-- The text behind the first `>`. -/
def afterBracket : List Char → Option (List Char)
  | [] => none
  | c :: text => if c = '>' then some text else afterBracket text

/-- The text behind the first occurrence of `wanted`. -/
def afterFirst (wanted : String) : List Char → Option (List Char)
  | [] => afterPrefix wanted []
  | c :: text => afterPrefix wanted (c :: text) <|> afterFirst wanted text

/-- An element with its content: `<name[^>]*>[\s\S]*?</name>`. -/
def element (name : String) (text : List Char) : Option (List Char × List Char) := do
  let attributes ← afterPrefix ("<" ++ name) text
  let content ← afterBracket attributes
  let rest ← afterFirst ("</" ++ name ++ ">") content
  return ([], rest)

def stripCss : List Char → List Char := replaceAll (element "style")

def stripScripts : List Char → List Char := replaceAll (element "script")

/-- `<img[^>]*\/?>` -/
def stripImages : List Char → List Char :=
  replaceAll fun text => do
    let attributes ← afterPrefix "<img" text
    let rest ← afterBracket attributes
    return ([], rest)

/-- `<[^>]+>`, so `<>` stays. -/
def htmlTag : List Char → Option (List Char × List Char)
  | '<' :: c :: text => if c = '>' then none else (afterBracket text).map fun rest => ([], rest)
  | _ => none

def stripHtmlTags : List Char → List Char := replaceAll htmlTag

/-- The host and the first segment of the path. A text that is no URL stays as it is. -/
def shortUrl (env : Env) (url : List Char) : List Char :=
  match env.parseUrl (String.ofList url) with
  | none => url
  | some (hostname, pathname) =>
    match (pathname.toList.splitOn '/').filter (· ≠ []) with
    | [] => hostname.toList
    | part :: _ => hostname.toList ++ '/' :: part

/-- `https?:\/\/[^\s]+`, in lower case only. -/
def link (env : Env) (text : List Char) : Option (List Char × List Char) := do
  let scheme ←
    if "https://".toList <+: text then some "https://".toList
    else if "http://".toList <+: text then some "http://".toList
    else none
  let rest := text.drop scheme.length
  let path := rest.takeWhile fun c => ¬ isSpace c
  if path = [] then none
  else some (shortUrl env (scheme ++ path), rest.drop path.length)

def reduceLinks (env : Env) : List Char → List Char := replaceAll (link env)

def whitespace (text : List Char) : Option (List Char × List Char) :=
  match text with
  | c :: _ => if isSpace c then some ([' '], text.dropWhile isSpace) else none
  | [] => none

def sanitizeBody (env : Env) (rawTextBody : String) : List Char :=
  let sanitized := stripHtmlTags (stripImages (stripScripts (stripCss rawTextBody.toList)))
  trim (replaceAll whitespace (reduceLinks env sanitized))

/-! ## Body construction -/

/-- The UTF-16 code units of a text. -/
def units (text : List Char) : List Nat :=
  text.flatMap fun c =>
    if c.toNat < 0x10000 then [c.toNat]
    else [0xD800 + (c.toNat - 0x10000) / 0x400, 0xDC00 + (c.toNat - 0x10000) % 0x400]

/-- A long body is its first 3000 and its last 1000 units. -/
def buildBodyContent (sanitizedBody : List Char) : String :=
  let all := units sanitizedBody
  if 4000 < all.length then
    String.ofList (Json.ofUnits (all.take 3000 ++ all.drop (all.length - 1000)))
  else String.ofList sanitizedBody

/-! ## The text of a reindexed message -/

structure EmbedTextInput where
  accountId : String
  sender : String
  replyTo : Option String
  returnPath : Option String
  recipientAddress : String
  subject : String
  rawTextBody : String
deriving DecidableEq, Repr

/-- The line of a text, unless it is empty or missing. -/
def optionalLine (text : Option String) : List String :=
  (text.filter (· ≠ "")).toList

def joinLines (lines : List String) : String := "\n".intercalate lines

def buildMimeEmbedText (env : Env) (input : EmbedTextInput) : String :=
  joinLines ([input.accountId, input.sender] ++ optionalLine input.replyTo ++
    optionalLine input.returnPath ++ [input.recipientAddress, input.subject] ++
    [buildBodyContent (sanitizeBody env input.rawTextBody)])

/-- `value[0].address` of a parsed address header. -/
def structuredAddress : Json → Option String
  | .obj members =>
    match members.lookup "value" with
    | some (.arr (.obj first :: _)) =>
      match first.lookup "address" with
      | some (.str address) => if address = "" then none else some address
      | _ => none
    | _ => none
  | _ => none

def isLineTerminator (c : Char) : Bool := c ∈ ['\n', '\r', '\u2028', '\u2029']

/-- `^<(.+)>$` -/
def angleBracketed (text : List Char) : Option (List Char) :=
  match text with
  | '<' :: rest =>
    let inner := rest.dropLast
    if rest.getLast? = some '>' ∧ inner ≠ [] ∧ ¬ inner.any isLineTerminator then some inner
    else none
  | _ => none

def extractReturnPathAddress (headerValue : String) : String :=
  if headerValue = "" then ""
  else
    match (Json.parse headerValue).bind structuredAddress with
    | some address => address
    | none =>
      match angleBracketed headerValue.toList with
      | some inner => String.ofList inner
      | none => headerValue

def extractEmbedTextInput (parsed : ParsedMime) (accountId recipientAddress : String) :
    EmbedTextInput :=
  let rawReturnPath :=
    ((parsed.headers.get "return-path") <|> (parsed.headers.get "Return-Path")).getD ""
  let returnPath := extractReturnPathAddress rawReturnPath
  { accountId
    sender := parsed.sender.address
    replyTo := parsed.replyTo.map fun address => address.address
    returnPath := some returnPath
    recipientAddress
    subject := parsed.subject
    rawTextBody := parsed.textBody.getD "" }

/-- What `generateEmbeddingFromS3` embeds, of the parsed message. -/
def textFromS3 (env : Env) (parsed : ParsedMime) (accountId recipientAddress : String) : String :=
  buildMimeEmbedText env (extractEmbedTextInput parsed accountId recipientAddress)

/-! ## The text of an ingested message -/

/-- The fields of the registry with `identity: true`, in its order. -/
def identityFields : Workflow → List String
  | .auth | .onboarding => ["service"]
  | .crm => ["senderCompany"]
  | .package => ["retailer", "orderNumber"]
  | .travel => ["provider", "confirmationNumber", "origin", "destination"]
  | .payments => ["vendor", "invoiceNumber"]
  | .content => ["publisher"]
  | .notice => ["provider", "referenceNumber"]
  | .healthcare => ["provider", "patientName"]
  | .job => ["company", "role"]
  | .support => ["ticketId", "service"]
  | .events => ["eventName", "venueName"]
  | .conversation | .healthcheck | .test | .unspecified | .custom _ => []

def getIdentityValues (workflow : Workflow) (workflowData : WorkflowData) : List String :=
  ((identityFields workflow).filterMap workflowData.fields.get).filter fun value =>
    trim value.toList ≠ []

/-- The identity values three times, as a strong signal. -/
def identityLine (values : List String) : List String :=
  if values = [] then []
  else
    let line := " ".intercalate values
    [" ".intercalate [line, line, line]]

def buildEmbedText (senderDomain : String) (classification : ClassificationOutput)
    (subject : Option String) : String :=
  joinLines ([senderDomain, classification.workflow.text] ++
    identityLine (getIdentityValues classification.workflow classification.workflowData) ++
    optionalLine subject ++ [classification.summary] ++
    [",".intercalate classification.labels])

/-- What a delivery embeds to match the thread of its signal, with the arguments of its call. -/
def textAtIngest (parsed : ParsedMime) (classification : ClassificationOutput) : String :=
  buildEmbedText (senderDomainOf parsed) classification (some parsed.subject)

/-! ## Account ids -/

def ACCOUNT_ID_ALPHABET : List Char := "abcdefghijklmnopqrstuvwxyz0123456789".toList

/-- The id for ten random bytes: a character of the alphabet for each, and three check
characters from the digest. -/
def generateAccountId (env : Env) (bytes : Vector UInt8 10) : String :=
  let rawId := bytes.toList.map fun byte =>
    ACCOUNT_ID_ALPHABET.getD (byte.toNat % ACCOUNT_ID_ALPHABET.length) 'a'
  let checkBits := ((env.sha256Base64 (String.ofList rawId)).toList.filter
    (· ∈ ACCOUNT_ID_ALPHABET)).take 3
  "acc-" ++ String.ofList rawId ++ String.ofList checkBits

/-- The ids an account can have: a new account gets a generated one. -/
inductive IsAccountId (env : Env) : String → Prop
  | system : IsAccountId env SYSTEM_ACCOUNT_ID
  | generated (bytes : Vector UInt8 10) : IsAccountId env (generateAccountId env bytes)

variable {env : Env} {accountId : String} {parsed : ParsedMime}
  {classification : ClassificationOutput} {subject : Option String}

theorem getD_mem_alphabet (n : Nat) :
    ACCOUNT_ID_ALPHABET.getD (n % ACCOUNT_ID_ALPHABET.length) 'a' ∈ ACCOUNT_ID_ALPHABET := by
  have hlt : n % ACCOUNT_ID_ALPHABET.length < ACCOUNT_ID_ALPHABET.length :=
    Nat.mod_lt _ (by decide)
  simp [List.getD, hlt]

theorem newline_notMem_alphabet : '\n' ∉ ACCOUNT_ID_ALPHABET := by decide

theorem IsAccountId.oneLine (h : IsAccountId env accountId) : '\n' ∉ accountId.toList := by
  cases h with
  | system => decide
  | generated bytes =>
    intro hmem
    simp only [generateAccountId, String.toList_append, String.toList_ofList,
      List.mem_append] at hmem
    rcases hmem with (hstart | hraw) | hcheck
    · exact absurd hstart (by decide)
    · obtain ⟨byte, -, hbyte⟩ := List.mem_map.mp hraw
      exact newline_notMem_alphabet (hbyte ▸ getD_mem_alphabet _)
    · have hfilter := (List.mem_filter.mp (List.mem_of_mem_take hcheck)).2
      exact newline_notMem_alphabet (by simpa using hfilter)

/-- An account id is never the name of a workflow: its first three characters tell. -/
theorem IsAccountId.take (h : IsAccountId env accountId) :
    accountId.toList.take 3 = "SYS".toList ∨ accountId.toList.take 3 = "acc".toList := by
  cases h with
  | system => exact .inl (by decide)
  | generated bytes => exact .inr (by simp [generateAccountId])

theorem IsAccountId.ne_workflow (h : IsAccountId env accountId) {name : String}
    (hname : name ∈ Workflow.names.map Prod.fst) : accountId ≠ name := by
  have hnames : ∀ name ∈ Workflow.names.map Prod.fst,
      name.toList.take 3 ≠ "SYS".toList ∧ name.toList.take 3 ≠ "acc".toList := by decide
  intro heq
  subst heq
  rcases h.take with htake | htake
  · exact (hnames _ hname).1 htake
  · exact (hnames _ hname).2 htake

/-! ## The two texts -/

theorem joinLines_cons (line : String) {lines : List String} (hne : lines ≠ []) :
    joinLines (line :: lines) = joined '\n' line (some (joinLines lines)) := by
  obtain ⟨next, rest, rfl⟩ := List.exists_cons_of_ne_nil hne
  simp [joinLines, joined, String.intercalate_cons_cons]

/-- Texts that agree have the same first two lines, if more lines follow. -/
theorem lines_eq {first second first' second' : String} {lines lines' : List String}
    (hfirst : '\n' ∉ first.toList) (hsecond : '\n' ∉ second.toList)
    (hfirst' : '\n' ∉ first'.toList) (hsecond' : '\n' ∉ second'.toList)
    (hne : lines ≠ []) (hne' : lines' ≠ [])
    (h : joinLines (first :: second :: lines) = joinLines (first' :: second' :: lines')) :
    first = first' ∧ second = second' := by
  simp only [joinLines_cons _ (List.cons_ne_nil _ _), joinLines_cons _ hne,
    joinLines_cons _ hne'] at h
  obtain ⟨heq, htail⟩ := joined_inj hfirst hfirst' h
  exact ⟨heq, (joined_inj hsecond hsecond' (Option.some.inj htail)).1⟩

/-- A reindexed message begins with its account and its sender. -/
theorem textFromS3_lines (env : Env) (parsed : ParsedMime) (accountId recipientAddress : String) :
    ∃ lines, lines ≠ [] ∧ textFromS3 env parsed accountId recipientAddress =
      joinLines (accountId :: parsed.sender.address :: lines) := by
  refine ⟨_, ?_, by simp only [textFromS3, buildMimeEmbedText, extractEmbedTextInput,
    List.cons_append, List.nil_append]; rfl⟩
  simp

/-- An ingested message begins with the domain of its sender and its workflow. -/
theorem textAtIngest_lines (parsed : ParsedMime) (classification : ClassificationOutput) :
    ∃ lines, lines ≠ [] ∧ textAtIngest parsed classification =
      joinLines (senderDomainOf parsed :: classification.workflow.text :: lines) := by
  refine ⟨_, ?_, by simp only [textAtIngest, buildEmbedText, List.cons_append,
    List.nil_append]; rfl⟩
  simp

/-- An email that was ingested, and what the reindex worker reads of it again. -/
structure IngestedEmail (env : Env) where
  accountId : String
  recipientAddress : String
  account : IsAccountId env accountId
  /-- The message as the content sanitizer returned it. -/
  sanitized : ParsedMime
  /-- The message in S3, parsed once more. -/
  raw : ParsedMime
  sameSender : raw.sender.address = sanitized.sender.address
  /-- The address parser reads line breaks as blanks. -/
  oneLine : '\n' ∉ raw.sender.address.toList
  classified : ClassificationOutput
  /-- The classifier refuses what is no workflow. -/
  validated : classified.workflow ∈ Workflow.names.map Prod.snd

def IngestedEmail.regenerated (email : IngestedEmail env) : String :=
  textFromS3 env email.raw email.accountId email.recipientAddress

def IngestedEmail.stored (email : IngestedEmail env) : String :=
  textAtIngest email.sanitized email.classified

theorem afterLastAt_eq_self {text : List Char} (h : '@' ∉ text) : afterLastAt text = text := by
  have hall : ∀ c ∈ text.reverse, decide (c ≠ '@') = true := by
    intro c hc
    rw [decide_eq_true_iff]
    rintro rfl
    exact h (List.mem_reverse.mp hc)
  rw [afterLastAt, List.takeWhile_eq_self_iff.mpr hall, List.reverse_reverse]

theorem mem_of_mem_afterLastAt {c : Char} {text : List Char} (h : c ∈ afterLastAt text) :
    c ∈ text :=
  List.mem_reverse.mp (List.takeWhile_sublist _ |>.mem (List.mem_reverse.mp h))

theorem text_mem_names : ∀ workflow ∈ Workflow.names.map Prod.snd,
    workflow.text ∈ Workflow.names.map Prod.fst ∧ '\n' ∉ workflow.text.toList ∧
      '@' ∉ workflow.text.toList := by decide

/-- If the texts agreed, the sender of the email would be the name of its workflow, and so would
the account id. -/
theorem regenerated_ne_stored (email : IngestedEmail env) : email.regenerated ≠ email.stored := by
  intro heq
  obtain ⟨lines, hne, htext⟩ :=
    textFromS3_lines env email.raw email.accountId email.recipientAddress
  obtain ⟨lines', hne', htext'⟩ := textAtIngest_lines email.sanitized email.classified
  obtain ⟨hname, hbreak, hat⟩ := text_mem_names _ email.validated
  have hdomain : '\n' ∉ (senderDomainOf email.sanitized).toList := by
    intro hmem
    rw [senderDomainOf, ← email.sameSender, String.toList_ofList] at hmem
    exact email.oneLine (mem_of_mem_afterLastAt hmem)
  obtain ⟨haccount, hsender⟩ := lines_eq email.account.oneLine email.oneLine hdomain hbreak hne hne'
    (htext.symm.trans (heq.trans htext'))
  have hself : senderDomainOf email.sanitized = email.classified.workflow.text := by
    rw [senderDomainOf, ← email.sameSender, hsender, afterLastAt_eq_self hat, String.ofList_toList]
  exact email.account.ne_workflow hname (haccount.trans hself)

/-! A shipping notice to an account with the id of ten zero bytes. -/

def shopEnv : Env where
  parseUrl url := if url = "https://shop.example/orders/42?x=1" then
    some ("shop.example", "/orders/42") else none
  sha256Base64 _ := "k+3Qx9A="

def shopAccount : String := generateAccountId shopEnv (Vector.replicate 10 0)

def shipped : IngestedEmail shopEnv :=
  let parsed : ParsedMime :=
    { sender := ⟨"orders@shop.example", none⟩
      toAddresses := [⟨"me@mail.example", none⟩]
      subject := "Order 42 shipped"
      attachments := []
      headers := [("return-path", "<bounce@shop.example>")]
      replyTo := none
      textBody := some "<b>Track</b> it:\n https://shop.example/orders/42?x=1"
      htmlBody := none }
  { accountId := shopAccount
    recipientAddress := "me@mail.example"
    account := .generated _
    sanitized := parsed
    raw := parsed
    sameSender := rfl
    oneLine := by decide
    classified := ⟨.package, ⟨.package, false, [("retailer", "Shop"), ("orderNumber", "42")]⟩,
      "Your order is on its way.", ["shopping"], []⟩
    validated := by decide }

theorem shipped_texts :
    shipped.regenerated = joinLines ["acc-aaaaaaaaaak3x", "orders@shop.example",
      "bounce@shop.example", "me@mail.example", "Order 42 shipped",
      "Track it: shop.example/orders"] ∧
    shipped.stored = joinLines ["shop.example", "package", "Shop 42 Shop 42 Shop 42",
      "Order 42 shipped", "Your order is on its way.", "shopping"] ∧
    shipped.regenerated ≠ shipped.stored := by
  decide +kernel

end SesEmailAdapter.Embedding.EmbedText
