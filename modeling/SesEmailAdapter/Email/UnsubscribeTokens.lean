import Mathlib
import SesEmailAdapter.Lib.JsonWriting
import SesEmailAdapter.Lib.Utf8Text
import SesEmailAdapter.Processor.HtmlTruncation

/-! # Unsubscribe tokens

A token is signed by a key service over its header and its claims. It is accepted when the service
does not say that the signature is invalid and the claims hold, so an answer that says nothing of
the signature lets the token pass. -/

namespace SesEmailAdapter.Email.UnsubscribeTokens
open Lib Lib.TextCodec Lib.Utf8Text
open Processor.HtmlTruncation (Double roundQuotient)

/-! ## The key service -/

/-- The answer to a request to verify; `SignatureValid` is optional in it. -/
inductive VerifyAnswer
  | answered (signatureValid : Option Bool)
  | invalidSignature
  | failed
deriving DecidableEq, Repr

/-- Messages and signatures are bytes. What the service has signed, it says to be valid. -/
structure KeyService where
  sign : List UInt8 → List UInt8
  verify : List UInt8 → List UInt8 → VerifyAnswer
  correct : ∀ message, verify message (sign message) = .answered (some true)

/-- What the generator is configured with. -/
structure Config where
  apiDomain : String
  keyId : String

/-- A time of the system clock, in milliseconds; a date has no later one. -/
structure Instant where
  ms : Nat
  valid : ms ≤ 8640000000000000

/-- `Math.floor(Date.now() / 1000)` -/
def Instant.seconds (t : Instant) : Nat := t.ms / 1000

/-! ## Generating -/

def LIFETIME : Nat := 5184000

def header (keyId : String) : String :=
  Json.writeObject ("alg", .text "EdDSA") [("typ", .text "JWT"), ("kid", .text keyId)]

def payload (apiDomain accountId : String) (iat : Nat) : String :=
  Json.writeObject ("sub", .text accountId) [
    ("scope", .text "unsubscribe"),
    ("resource", .text ("/accounts/" ++ accountId ++ "/types/digest")),
    ("iss", .text ("https://" ++ apiDomain)),
    ("iat", .number iat),
    ("exp", .number (iat + LIFETIME))]

def base64url (text : String) : List Char := encodeBase64url (utf8Bytes text)

def signingInput (headerB64 payloadB64 : List Char) : List Char := headerB64 ++ '.' :: payloadB64

/-- `new TextEncoder().encode(signingInput)` -/
def messageOf (headerB64 payloadB64 : List Char) : List UInt8 :=
  utf8Bytes (String.ofList (signingInput headerB64 payloadB64))

def generate (service : KeyService) (config : Config) (now : Instant) (accountId : String) :
    String :=
  let headerB64 := base64url (header config.keyId)
  let payloadB64 := base64url (payload config.apiDomain accountId now.seconds)
  let signature := encodeBase64url (service.sign (messageOf headerB64 payloadB64))
  String.ofList (signingInput headerB64 payloadB64 ++ '.' :: signature)

/-! ## Verifying -/

/-- The errors of a verification. `thrown` is the exception of reading a field of a null. -/
inductive UnsubscribeVerifyError
  | malformedToken (payload : Option (List Char))
  | invalidSignature
  | expired
  | wrongScope
  | verifyError
  | thrown
deriving DecidableEq, Repr

inductive EmailType
  | digest
deriving DecidableEq, Repr

structure UnsubscribeClaims where
  accountId : String
  emailType : EmailType
deriving DecidableEq, Repr

/-- A field of the parsed payload; values other than objects have none of those that are read. -/
def field (payload : Json) (name : String) : Option Json :=
  match payload with
  | .obj members => (members.find? fun member => member.1 = name).map Prod.snd
  | _ => none

def isText (value : Option Json) (text : String) : Bool :=
  match value with
  | some (.str s) => s = text
  | _ => false

/-- The double that a JSON number is read as, without its sign. -/
def magnitude (d : Decimal) : Double :=
  match d.exponent with
  | .ofNat n => .ofQuotient (d.digits * 10 ^ n) 1
  | .negSucc n => .ofQuotient d.digits (10 ^ (n + 1))

def doubleLt (d : Double) (n : Nat) : Bool :=
  d.significand <<< d.exponent.toNat < n <<< (-d.exponent).toNat

/-- `exp < now` -/
def isBefore (exp : Decimal) (now : Nat) : Bool :=
  if exp.isZero then 0 < now else exp.negative || doubleLt (magnitude exp) now

/-- `typeof payload.exp !== "number" || payload.exp < now` -/
def isExpired (exp : Option Json) (now : Nat) : Bool :=
  match exp with
  | some (.num d) => isBefore d now
  | _ => true

/-- `/^\/accounts\/([^/]+)\/types\/([^/]+)$/` -/
def matchResource (resource : String) : Option (String × String) :=
  match resource.toList.splitOn '/' with
  | [[], accounts, accountId, types, emailType] =>
    if accounts = "accounts".toList ∧ types = "types".toList ∧ accountId ≠ [] ∧ emailType ≠ [] then
      some (String.ofList accountId, String.ofList emailType)
    else none
  | _ => none

def checkResource (payload : Json) : Except UnsubscribeVerifyError UnsubscribeClaims :=
  match field payload "resource" with
  | some (.str resource) =>
    match matchResource resource with
    | none => .error (.malformedToken none)
    | some (accountId, emailType) =>
      if ¬ isText (field payload "sub") accountId then .error .wrongScope
      else if emailType ≠ "digest" then .error .wrongScope
      else .ok ⟨accountId, .digest⟩
  | _ => .error (.malformedToken none)

def isNull (payload : Json) : Bool :=
  match payload with
  | .null => true
  | _ => false

def checkClaims (config : Config) (now : Nat) (payload : Json) :
    Except UnsubscribeVerifyError UnsubscribeClaims :=
  if isNull payload then .error .thrown
  else if ¬ isText (field payload "scope") "unsubscribe" then .error .wrongScope
  else if ¬ isText (field payload "iss") ("https://" ++ config.apiDomain) then .error .wrongScope
  else if isExpired (field payload "exp") now then .error .expired
  else checkResource payload

/-- The payload of a token. -/
def readPayload (payloadB64 : List Char) : Option Json :=
  Json.parse (decodeUtf8 (decodeBase64url payloadB64))

def verify (service : KeyService) (config : Config) (now : Instant) (token : String) :
    Except UnsubscribeVerifyError UnsubscribeClaims :=
  match token.toList.splitOn '.' with
  | [headerB64, payloadB64, signatureB64] =>
    match readPayload payloadB64 with
    | none => .error (.malformedToken (some payloadB64))
    | some payload =>
      match service.verify (messageOf headerB64 payloadB64) (decodeBase64url signatureB64) with
      | .invalidSignature => .error .invalidSignature
      | .failed => .error .verifyError
      | .answered signatureValid =>
        -- only an explicit false is refused
        if signatureValid = some false then .error .invalidSignature
        else checkClaims config now.seconds payload
  | _ => .error (.malformedToken none)

/-! ## The property -/

/-- An account id that is one segment of a path. -/
def IsSegment (accountId : String) : Prop := accountId ≠ "" ∧ '/' ∉ accountId.toList

/-- The claims of the payload are those of the result, and hold at the time. -/
structure Agrees (config : Config) (now : Nat) (payload : Json) (claims : UnsubscribeClaims) :
    Prop where
  scope : field payload "scope" = some (.str "unsubscribe")
  issuer : field payload "iss" = some (.str ("https://" ++ config.apiDomain))
  expiry : ∃ exp, field payload "exp" = some (.num exp) ∧ isBefore exp now = false
  resource : field payload "resource" =
    some (.str ("/accounts/" ++ claims.accountId ++ "/types/digest"))
  account : IsSegment claims.accountId
  subject : field payload "sub" = some (.str claims.accountId)

/-- The token has three parts, of which the second is the payload; the service gives the answer to
the third as a signature of the other two. -/
def Parts (service : KeyService) (token : String) (answer : VerifyAnswer)
    (payload : Option Json) : Prop :=
  ∃ headerB64 payloadB64 signatureB64,
    token.toList.splitOn '.' = [headerB64, payloadB64, signatureB64] ∧
    service.verify (messageOf headerB64 payloadB64) (decodeBase64url signatureB64) = answer ∧
    readPayload payloadB64 = payload

/-- A token is accepted only if the service has said that the signature is valid for its header and
payload, and the claims agree. -/
def Sound (service : KeyService) (config : Config) (now : Instant) (token : String) : Prop :=
  ∀ claims, verify service config now token = .ok claims →
    ∃ payload, Parts service token (.answered (some true)) (some payload) ∧
      Agrees config now.seconds payload claims

/-- A token that is verified before it expires gives the claims it was made of. -/
def RoundTrips (service : KeyService) (config : Config) (issued : Instant) (accountId : String) :
    Prop :=
  ∀ now : Instant, now.seconds ≤ issued.seconds + LIFETIME →
    verify service config now (generate service config issued accountId) = .ok ⟨accountId, .digest⟩

variable {service : KeyService} {config : Config} {now issued : Instant} {token accountId : String}
  {claims : UnsubscribeClaims}

/-! ### Resources -/

theorem not_mem_of_mem_splitOn {c : Char} {text : List Char} :
    ∀ segment ∈ text.splitOn c, c ∉ segment := by
  induction text with
  | nil => simp
  | cons d text ih =>
    obtain ⟨first, rest, hsplit⟩ := List.exists_cons_of_ne_nil (List.splitOn_ne_nil c text)
    rw [List.splitOn_cons_eq_if_modifyHead]
    rw [hsplit] at ih ⊢
    obtain ⟨hfirst, hrest⟩ := List.forall_mem_cons.mp ih
    by_cases hd : (d == c) = true
    · rw [if_pos hd]
      exact List.forall_mem_cons.mpr ⟨List.not_mem_nil, ih⟩
    · rw [if_neg hd]
      refine List.forall_mem_cons.mpr ⟨fun hmem => ?_, hrest⟩
      obtain rfl | hmem := List.mem_cons.mp hmem
      · exact hd (beq_self_eq_true _)
      · exact hfirst hmem

/-- The texts around the two segments of a resource. -/
theorem toList_resource (accountId emailType : String) :
    ("/accounts/" ++ accountId ++ "/types/" ++ emailType).toList =
      [] ++ '/' :: ("accounts".toList ++ '/' :: (accountId.toList ++ '/' :: ("types".toList ++
        '/' :: emailType.toList))) := by
  simp

theorem splitOn_resource {accountId emailType : String} (haccount : '/' ∉ accountId.toList)
    (htype : '/' ∉ emailType.toList) :
    ("/accounts/" ++ accountId ++ "/types/" ++ emailType).toList.splitOn '/' =
      [[], "accounts".toList, accountId.toList, "types".toList, emailType.toList] := by
  rw [toList_resource, List.splitOn_append_cons_self_of_not_mem (by simp),
    List.splitOn_append_cons_self_of_not_mem (by decide),
    List.splitOn_append_cons_self_of_not_mem haccount,
    List.splitOn_append_cons_self_of_not_mem (by decide), List.splitOn_eq_singleton htype]

theorem isSegment_ofList {segment : List Char} (hne : segment ≠ []) (hslash : '/' ∉ segment) :
    IsSegment (String.ofList segment) := by
  constructor
  · intro hempty
    exact hne (by simpa using congrArg String.toList hempty)
  · rwa [String.toList_ofList]

theorem matchResource_eq_some {resource accountId emailType : String} :
    matchResource resource = some (accountId, emailType) ↔
      resource = "/accounts/" ++ accountId ++ "/types/" ++ emailType ∧ IsSegment accountId ∧
        IsSegment emailType := by
  constructor
  · intro h
    unfold matchResource at h
    split at h
    case h_1 accounts account types type hsplit =>
      split at h
      case isFalse => cases h
      case isTrue hwords =>
        obtain ⟨rfl, rfl, haccount, htype⟩ := hwords
        obtain ⟨rfl, rfl⟩ := Prod.mk.inj (Option.some.inj h)
        have hsegments := @not_mem_of_mem_splitOn '/' resource.toList
        rw [hsplit] at hsegments
        refine ⟨?_, isSegment_ofList haccount (hsegments _ (by simp)),
          isSegment_ofList htype (hsegments _ (by simp))⟩
        have hjoin := @List.intercalate_splitOn _ resource.toList _ _ '/'
        rw [hsplit] at hjoin
        refine String.toList_inj.mp (hjoin.symm.trans ?_)
        rw [toList_resource, String.toList_ofList, String.toList_ofList]
        simp [List.intercalate]
    case h_2 => cases h
  · intro ⟨hresource, haccount, htype⟩
    unfold matchResource
    rw [hresource, splitOn_resource haccount.2 htype.2]
    dsimp only
    rw [if_pos ⟨rfl, rfl, mt String.toList_eq_nil_iff.mp haccount.1,
        mt String.toList_eq_nil_iff.mp htype.1⟩,
      String.ofList_toList, String.ofList_toList]

/-! ### Claims -/

theorem isText_iff {value : Option Json} {text : String} :
    isText value text = true ↔ value = some (.str text) := by
  cases value with
  | none => simp [isText]
  | some value => cases value <;> simp [isText]

theorem isExpired_eq_false {exp : Option Json} {n : Nat} :
    isExpired exp n = false ↔ ∃ d, exp = some (.num d) ∧ isBefore d n = false := by
  cases exp with
  | none => simp [isExpired]
  | some exp => cases exp <;> simp [isExpired]

theorem isSegment_digest : IsSegment "digest" := by
  constructor
  · decide
  · decide

/-- The resource of a digest. -/
theorem resource_digest (accountId : String) :
    "/accounts/" ++ accountId ++ "/types/digest" =
      "/accounts/" ++ accountId ++ "/types/" ++ "digest" := by
  rw [@String.append_assoc ("/accounts/" ++ accountId)]
  rfl

theorem checkResource_eq_ok {payload : Json} :
    checkResource payload = .ok claims ↔
      field payload "resource" =
          some (.str ("/accounts/" ++ claims.accountId ++ "/types/digest")) ∧
        IsSegment claims.accountId ∧ field payload "sub" = some (.str claims.accountId) := by
  constructor
  · intro h
    unfold checkResource at h
    split at h
    case h_2 => cases h
    case h_1 resource hresource =>
      split at h
      case h_1 => cases h
      case h_2 accountId emailType hmatch =>
        obtain ⟨hsame, haccount, -⟩ := matchResource_eq_some.mp hmatch
        split at h
        case isTrue => cases h
        case isFalse hsub =>
          split at h
          case isTrue => cases h
          case isFalse htype =>
            cases h
            rw [hresource, hsame, not_not.mp htype, resource_digest]
            exact ⟨rfl, haccount, isText_iff.mp (not_not.mp hsub)⟩
  · intro ⟨hresource, haccount, hsub⟩
    obtain ⟨accountId, ⟨⟩⟩ := claims
    have hmatch := matchResource_eq_some.mpr ⟨resource_digest accountId, haccount, isSegment_digest⟩
    unfold checkResource
    rw [hresource]
    dsimp only
    rw [hmatch]
    dsimp only
    rw [if_neg (not_not.mpr (isText_iff.mpr hsub)), if_neg (not_not.mpr rfl)]

theorem checkClaims_eq_ok {n : Nat} {payload : Json} :
    checkClaims config n payload = .ok claims ↔ Agrees config n payload claims := by
  constructor
  · intro h
    unfold checkClaims at h
    split at h
    case isTrue => cases h
    case isFalse =>
      split at h
      case isTrue => cases h
      case isFalse hscope =>
        split at h
        case isTrue => cases h
        case isFalse hissuer =>
          split at h
          case isTrue => cases h
          case isFalse hexpiry =>
            obtain ⟨hresource, haccount, hsub⟩ := checkResource_eq_ok.mp h
            exact ⟨isText_iff.mp (not_not.mp hscope), isText_iff.mp (not_not.mp hissuer),
              isExpired_eq_false.mp (Bool.eq_false_iff.mpr hexpiry), hresource, haccount, hsub⟩
  · intro h
    have hnull : ¬ isNull payload = true := by
      cases payload with
      | null => cases h.scope
      | _ => exact Bool.false_ne_true
    have hexpiry := isExpired_eq_false.mpr h.expiry
    unfold checkClaims
    rw [if_neg hnull, if_neg (not_not.mpr (isText_iff.mpr h.scope)),
      if_neg (not_not.mpr (isText_iff.mpr h.issuer)), if_neg (Bool.eq_false_iff.mp hexpiry)]
    exact checkResource_eq_ok.mpr ⟨h.resource, h.account, h.subject⟩

/-! ### Answers -/

/-- A token is accepted when the answer is not a refusal and the claims hold. -/
theorem verify_eq_ok :
    verify service config now token = .ok claims ↔
      ∃ signatureValid payload, signatureValid ≠ some false ∧
        Parts service token (.answered signatureValid) (some payload) ∧
        Agrees config now.seconds payload claims := by
  constructor
  · intro h
    unfold verify at h
    split at h
    case h_2 => cases h
    case h_1 headerB64 payloadB64 signatureB64 hsplit =>
      split at h
      case h_1 => cases h
      case h_2 payload hpayload =>
        split at h
        case h_1 => cases h
        case h_2 => cases h
        case h_3 signatureValid hanswer =>
          split at h
          case isTrue => cases h
          case isFalse hvalid =>
            exact ⟨signatureValid, payload, hvalid,
              ⟨headerB64, payloadB64, signatureB64, hsplit, hanswer, hpayload⟩,
              checkClaims_eq_ok.mp h⟩
  · intro ⟨signatureValid, payload, hvalid, hparts, hagrees⟩
    obtain ⟨headerB64, payloadB64, signatureB64, hsplit, hanswer, hpayload⟩ := hparts
    unfold verify
    rw [hsplit]
    dsimp only
    rw [hpayload]
    dsimp only
    rw [hanswer]
    dsimp only
    rw [if_neg hvalid]
    exact checkClaims_eq_ok.mpr hagrees

/-- The parts of a token are determined by it. -/
theorem Parts.unique {answer answer' : VerifyAnswer} {payload payload' : Option Json}
    (h : Parts service token answer payload) (h' : Parts service token answer' payload') :
    answer = answer' ∧ payload = payload' := by
  obtain ⟨headerB64, payloadB64, signatureB64, hsplit, hanswer, hpayload⟩ := h
  obtain ⟨_, _, _, hsplit', hanswer', hpayload'⟩ := h'
  obtain ⟨rfl, rfl, rfl⟩ : headerB64 = _ ∧ payloadB64 = _ ∧ signatureB64 = _ := by
    simpa using hsplit.symm.trans hsplit'
  exact ⟨hanswer.symm.trans hanswer', hpayload.symm.trans hpayload'⟩

/-- The service does not say whether the signature of the token is valid, and its claims hold. -/
def Unsaid (service : KeyService) (config : Config) (now : Instant) (token : String) : Prop :=
  ∃ payload claims, Parts service token (.answered none) (some payload) ∧
    Agrees config now.seconds payload claims

theorem sound_iff : Sound service config now token ↔ ¬ Unsaid service config now token := by
  constructor
  · intro hsound ⟨payload, claims, hparts, hagrees⟩
    have haccepted := verify_eq_ok.mpr ⟨none, payload, by simp, hparts, hagrees⟩
    obtain ⟨payload', hvalid, -⟩ := hsound claims haccepted
    cases (hparts.unique hvalid).1
  · intro hsaid claims haccepted
    obtain ⟨signatureValid, payload, hvalid, hparts, hagrees⟩ := verify_eq_ok.mp haccepted
    cases signatureValid with
    | none => exact absurd ⟨payload, claims, hparts, hagrees⟩ hsaid
    | some valid =>
      cases valid with
      | false => exact absurd rfl hvalid
      | true => exact ⟨payload, hparts, hagrees⟩

/-! ### Generated tokens -/

theorem not_mem_encodeBase64url (bytes : List UInt8) : '.' ∉ encodeBase64url bytes := by
  intro hmem
  obtain ⟨n, hn, hchar⟩ := List.mem_map.mp hmem
  have hletters : ∀ c ∈ alphabet, c ≠ '.' := by
    rw [alphabet_eq]
    simp
  exact forall_sextetChar hletters (toSextets_lt bytes n hn) hchar

theorem splitOn_generate {headerB64 payloadB64 signatureB64 : List Char} (hheader : '.' ∉ headerB64)
    (hpayload : '.' ∉ payloadB64) (hsignature : '.' ∉ signatureB64) :
    (signingInput headerB64 payloadB64 ++ '.' :: signatureB64).splitOn '.' =
      [headerB64, payloadB64, signatureB64] := by
  rw [signingInput, List.append_assoc, List.cons_append,
    List.splitOn_append_cons_self_of_not_mem hheader,
    List.splitOn_append_cons_self_of_not_mem hpayload, List.splitOn_eq_singleton hsignature]

/-- The members of a payload, the last one first. -/
def payloadMembers (apiDomain accountId : String) (iat : Nat) : List (String × Json) := [
  ("exp", .num ⟨false, iat + LIFETIME, 0⟩),
  ("iat", .num ⟨false, iat, 0⟩),
  ("iss", .str ("https://" ++ apiDomain)),
  ("resource", .str ("/accounts/" ++ accountId ++ "/types/digest")),
  ("scope", .str "unsubscribe"),
  ("sub", .str accountId)]

theorem readPayload_payload (apiDomain accountId : String) (iat : Nat) :
    readPayload (base64url (payload apiDomain accountId iat)) =
      some (.obj (payloadMembers apiDomain accountId iat)) := by
  rw [readPayload, base64url, decodeBase64url_encode, decodeUtf8_utf8Bytes, payload,
    Json.parse_writeObject]
  rfl

/-- The parts of a token with the claims of an account, and any third part. -/
theorem parts_signed {signatureB64 : List Char} (hsignature : '.' ∉ signatureB64) :
    Parts service
      (String.ofList (signingInput (base64url (header config.keyId))
        (base64url (payload config.apiDomain accountId issued.seconds)) ++ '.' :: signatureB64))
      (service.verify (messageOf (base64url (header config.keyId))
        (base64url (payload config.apiDomain accountId issued.seconds)))
        (decodeBase64url signatureB64))
      (some (.obj (payloadMembers config.apiDomain accountId issued.seconds))) := by
  refine ⟨_, _, signatureB64, ?_, rfl, readPayload_payload ..⟩
  rw [String.toList_ofList]
  exact splitOn_generate (not_mem_encodeBase64url _) (not_mem_encodeBase64url _) hsignature

theorem parts_generate :
    Parts service (generate service config issued accountId) (.answered (some true))
      (some (.obj (payloadMembers config.apiDomain accountId issued.seconds))) := by
  have hparts := @parts_signed service config issued accountId _ (not_mem_encodeBase64url
    (service.sign (messageOf (base64url (header config.keyId))
      (base64url (payload config.apiDomain accountId issued.seconds)))))
  rw [decodeBase64url_encode, service.correct] at hparts
  exact hparts

/-! ### Times -/

/-- Natural numbers of up to 53 bits are doubles. -/
theorem doubleLt_natural {n m : Nat} (hpos : 0 < n) (h : n < 2 ^ 53) :
    doubleLt (.ofQuotient n 1) m = decide (n < m) := by
  -- the significand is shifted up to 53 bits, and the comparison shifts it back
  obtain ⟨j, hj⟩ : ∃ j, n.log2 + j = 52 := by
    have hlog : n.log2 < 53 := (Nat.log2_lt hpos.ne').mpr h
    exact ⟨52 - n.log2, by omega⟩
  have hguess : (n.log2 : Int) - Nat.log2 1 - 52 = -(j : Int) := by
    have hone : Nat.log2 1 = 0 := rfl
    rw [hone]
    omega
  have hlarge : ¬ n <<< j < 1 <<< 52 := by
    have hlow : 2 ^ n.log2 ≤ n := Nat.log2_self_le hpos.ne'
    rw [Nat.shiftLeft_eq, Nat.shiftLeft_eq, not_lt, one_mul, ← hj, pow_add]
    exact Nat.mul_le_mul_right _ hlow
  have hround : roundQuotient (n <<< j) 1 = n <<< j := by
    simp [roundQuotient, Nat.mod_one]
  have hdouble : Double.ofQuotient n 1 = ⟨n <<< j, -(j : Int)⟩ := by
    rw [Double.ofQuotient, hguess]
    simp only [neg_neg, Int.toNat_natCast, Int.toNat_neg_natCast, Nat.shiftLeft_zero,
      if_neg hlarge, hround]
  rw [doubleLt, hdouble]
  simp only [neg_neg, Int.toNat_natCast, Int.toNat_neg_natCast, Nat.shiftLeft_eq, pow_zero, mul_one]
  exact decide_eq_decide.mpr (Nat.mul_lt_mul_right (Nat.two_pow_pos j))

theorem Instant.seconds_le (t : Instant) : t.seconds ≤ 8640000000000 := by
  have hvalid := t.valid
  unfold Instant.seconds
  omega

theorem not_isBefore {n : Nat} (hle : n ≤ issued.seconds + LIFETIME) :
    isBefore ⟨false, issued.seconds + LIFETIME, 0⟩ n = false := by
  have hseconds := issued.seconds_le
  have hpos : 0 < issued.seconds + LIFETIME := Nat.lt_of_lt_of_le (by decide) (Nat.le_add_left ..)
  have hbits : issued.seconds + LIFETIME < 2 ^ 53 := by
    unfold LIFETIME
    omega
  have hzero : Decimal.isZero ⟨false, issued.seconds + LIFETIME, 0⟩ = false := by
    show (issued.seconds + LIFETIME == 0) = false
    exact beq_false_of_ne hpos.ne'
  have hmagnitude : magnitude ⟨false, issued.seconds + LIFETIME, 0⟩ =
      .ofQuotient (issued.seconds + LIFETIME) 1 := by
    show Double.ofQuotient ((issued.seconds + LIFETIME) * 10 ^ 0) 1 = _
    rw [pow_zero, mul_one]
  rw [isBefore, hzero, hmagnitude, doubleLt_natural hpos hbits]
  simpa using hle

theorem agrees_generate (hsegment : IsSegment accountId)
    (hle : now.seconds ≤ issued.seconds + LIFETIME) :
    Agrees config now.seconds (.obj (payloadMembers config.apiDomain accountId issued.seconds))
      ⟨accountId, .digest⟩ where
  scope := rfl
  issuer := rfl
  expiry := ⟨_, rfl, not_isBefore hle⟩
  resource := rfl
  account := hsegment
  subject := rfl

theorem roundTrips_iff : RoundTrips service config issued accountId ↔ IsSegment accountId := by
  constructor
  · intro h
    obtain ⟨_, payload, -, -, hagrees⟩ := verify_eq_ok.mp (h issued (Nat.le_add_right ..))
    exact hagrees.account
  · intro hsegment now hle
    exact verify_eq_ok.mpr ⟨some true, _, by simp, parts_generate, agrees_generate hsegment hle⟩

/-- **When tokens are sound.** The acceptance of a token is sound unless its claims hold and the
service answers without a word on the signature. A generated token gives its claims back until it
expires, just when the account id is one segment of a path. -/
theorem unsubscribeTokens (service : KeyService) (config : Config) :
    (∀ now token, Sound service config now token ↔ ¬ Unsaid service config now token) ∧
      ∀ issued accountId,
        RoundTrips service config issued accountId ↔ IsSegment accountId :=
  ⟨fun _ _ => sound_iff, fun _ _ => roundTrips_iff⟩

/-! ### A token without a signature -/

/-- A service whose answer leaves out the optional field when the signature is empty. -/
def terseService : KeyService where
  sign message := 0 :: message
  verify message signature :=
    if signature = 0 :: message then .answered (some true)
    else if signature = [] then .answered none
    else .invalidSignature
  correct _ := if_pos rfl

def sampleConfig : Config := ⟨"api.example.com", "key-001"⟩

/-- 2024-06-15T12:00:00Z -/
def noon : Instant where
  ms := 1718452800000
  valid := by decide

/-- Anyone can write the claims of an account, and leave the third part empty. -/
def forged : String :=
  String.ofList (signingInput (base64url (header sampleConfig.keyId))
    (base64url (payload sampleConfig.apiDomain "acct-1" noon.seconds)) ++ ['.'])

theorem isSegment_sample : IsSegment "acct-1" := by
  constructor
  · decide
  · decide

theorem forged_accepted : ¬ Sound terseService sampleConfig noon forged := by
  intro hsound
  have hparts := @parts_signed terseService sampleConfig noon "acct-1" [] List.not_mem_nil
  exact sound_iff.mp hsound ⟨_, ⟨"acct-1", .digest⟩, hparts,
    agrees_generate isSegment_sample (Nat.le_add_right ..)⟩

end SesEmailAdapter.Email.UnsubscribeTokens
