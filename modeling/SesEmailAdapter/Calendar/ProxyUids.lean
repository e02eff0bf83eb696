import SesEmailAdapter.Calendar.RsvpReplies

/-! # Proxy UIDs

The UID of a forwarded invite names the account, the thread and the UID of the original event, and
ends in an HMAC of the three. It is read back from its separators: the first two dots, the last dot
and the last `@`. -/

namespace SesEmailAdapter.Calendar.ProxyUids
open Email Email.SendPaths
open Calendar.RsvpReplies

/-! ## What is accepted was built -/

theorem aliasLocalPart_append {text : List Char} (h : '@' ∈ text) :
    aliasLocalPart text ++ '@' :: Address.afterLastAt text = text := by
  have hne : text.reverse.dropWhile (· ≠ '@') ≠ [] := by
    intro hnil
    have hall := List.dropWhile_eq_nil_iff.mp hnil '@' (List.mem_reverse.mpr h)
    simp at hall
  obtain ⟨c, front, hdrop⟩ := List.exists_cons_of_ne_nil hne
  have hc : c = '@' := by
    have hhead := List.head_dropWhile_not (· ≠ '@') hne
    simp only [hdrop, List.head_cons] at hhead
    simpa using hhead
  have hsplit := List.takeWhile_append_dropWhile (p := (· ≠ '@')) (l := text.reverse)
  rw [hdrop, hc] at hsplit
  unfold aliasLocalPart Address.afterLastAt
  rw [if_pos h, hdrop, List.tail_cons]
  have hreverse := congrArg List.reverse hsplit
  rw [List.reverse_reverse, List.reverse_append, List.reverse_cons, List.append_assoc] at hreverse
  exact hreverse

theorem intercalate_cons (text next : List Char) (texts : List (List Char)) :
    ['.'].intercalate (text :: next :: texts) = text ++ '.' :: ['.'].intercalate (next :: texts) := by
  simp [List.intercalate]

theorem intercalate_snoc (last : List Char) (texts : List (List Char)) (hne : texts ≠ []) :
    ['.'].intercalate (texts ++ [last]) = ['.'].intercalate texts ++ '.' :: last := by
  induction texts with
  | nil => exact absurd rfl hne
  | cons text texts ih =>
    cases texts with
    | nil => simp [List.intercalate]
    | cons next texts =>
      rw [List.cons_append, List.cons_append, intercalate_cons, ← List.cons_append,
        ih (List.cons_ne_nil _ _), intercalate_cons, List.append_assoc, List.cons_append]

theorem decodeProxyUid_eq_ok {serviceDomain proxyUid : String} {uid : ProxyUid}
    (h : decodeProxyUid serviceDomain proxyUid = .ok uid) :
    proxyUid = uidPayload uid.accountId uid.threadId uid.originalVeventUid ++ "." ++ uid.hmac16 ++
      "@" ++ serviceDomain := by
  unfold decodeProxyUid at h
  by_cases hat : '@' ∈ proxyUid.toList
  · by_cases hdomain : Address.afterLastAt proxyUid.toList = serviceDomain.toList
    · rw [if_neg (not_not.mpr hat), if_neg (not_not.mpr hdomain)] at h
      have hlocal : ['.'].intercalate ((aliasLocalPart proxyUid.toList).splitOn '.') =
          aliasLocalPart proxyUid.toList := List.intercalate_splitOn '.'
      have huid := aliasLocalPart_append hat
      rw [hdomain] at huid
      split at h
      · next accountId threadId segment segments hsegments =>
        rw [hsegments] at hlocal
        by_cases hnil : segments = []
        · rw [if_pos hnil] at h
          cases h
        · rw [if_neg hnil] at h
          split at h
          · cases h
          · cases h
            have hdrop : (segment :: segments).dropLast ≠ [] := by
              rw [List.dropLast_cons_of_ne_nil hnil]
              exact List.cons_ne_nil _ _
            have hsnoc := intercalate_snoc
              ((segment :: segments).getLast (List.cons_ne_nil _ _)) _ hdrop
            rw [List.dropLast_append_getLast] at hsnoc
            rw [intercalate_cons, intercalate_cons, hsnoc] at hlocal
            rw [← hlocal] at huid
            refine String.toList_inj.mp (huid.symm.trans ?_)
            simp [uidPayload]
      · cases h
    · rw [if_neg (not_not.mpr hat), if_pos hdomain] at h
      cases h
  · rw [if_pos hat] at h
    cases h

/-! ## What is built is accepted -/

/-- Sixteen characters of base64url. -/
def IsHmac16 (text : String) : Prop :=
  text.toList.length = 16 ∧ ∀ c ∈ text.toList, c.isAlphanum ∨ c = '-' ∨ c = '_'

theorem IsHmac16.ne_nil {text : String} (h : IsHmac16 text) : text.toList ≠ [] := by
  intro hnil
  have hlength := h.1
  rw [hnil] at hlength
  cases hlength

theorem IsHmac16.not_mem {text : String} (h : IsHmac16 text) {c : Char}
    (hc : ¬ (c.isAlphanum ∨ c = '-' ∨ c = '_')) : c ∉ text.toList :=
  fun hmem => hc (h.2 c hmem)

theorem not_mem_afterLastAt (text : List Char) : '@' ∉ Address.afterLastAt text := by
  intro hmem
  have htake := List.mem_takeWhile_imp (List.mem_reverse.mp hmem)
  simp at htake

/-- The text after the last `@` is what stands behind an `@` and has none. -/
theorem split_lastAt (front : List Char) {back : List Char} (h : '@' ∉ back) :
    aliasLocalPart (front ++ '@' :: back) = front ∧
      Address.afterLastAt (front ++ '@' :: back) = back := by
  have hback : ∀ c ∈ back.reverse, decide (c ≠ '@') = true := by
    intro c hc
    refine decide_eq_true fun heq => ?_
    rw [heq] at hc
    exact h (List.mem_reverse.mp hc)
  have hreverse : (front ++ '@' :: back).reverse = back.reverse ++ '@' :: front.reverse := by simp
  constructor
  · rw [aliasLocalPart, if_pos (by simp), hreverse, List.dropWhile_append_of_pos hback,
      List.dropWhile_cons_of_neg (by decide), List.tail_cons, List.reverse_reverse]
  · rw [Address.afterLastAt, hreverse, List.takeWhile_append_of_pos hback,
      List.takeWhile_cons_of_neg (by decide), List.append_nil, List.reverse_reverse]

theorem toList_buildProxyUid (hmac16 : String → String)
    (serviceDomain accountId threadId originalVeventUid : String) :
    (buildProxyUid hmac16 serviceDomain accountId threadId originalVeventUid).toList =
      (accountId.toList ++ '.' :: (threadId.toList ++ '.' :: (originalVeventUid.toList ++ '.' ::
        (hmac16 (uidPayload accountId threadId originalVeventUid)).toList))) ++
          '@' :: serviceDomain.toList := by
  simp [buildProxyUid, uidPayload]

/-- The segments of a local part, those of the original UID in the middle. -/
theorem splitOn_localPart {accountId threadId originalVeventUid hmac : List Char}
    (haccount : '.' ∉ accountId) (hthread : '.' ∉ threadId) (hhmac : '.' ∉ hmac) :
    (accountId ++ '.' :: (threadId ++ '.' :: (originalVeventUid ++ '.' :: hmac))).splitOn '.' =
      accountId :: threadId :: (originalVeventUid.splitOn '.' ++ [hmac]) := by
  rw [List.splitOn_append_cons_self_of_not_mem haccount,
    List.splitOn_append_cons_self_of_not_mem hthread, List.splitOn_append_cons_self,
    List.splitOn_eq_singleton hhmac]

/-- Decoding takes a built UID apart, where its domain can be told from the rest. -/
theorem decodeProxyUid_build {hmac16 : String → String} (hhmac : ∀ payload, IsHmac16 (hmac16 payload))
    {accountId threadId : String} (haccount : accountId ≠ "") (haccountDot : '.' ∉ accountId.toList)
    (hthread : threadId ≠ "") (hthreadDot : '.' ∉ threadId.toList)
    (serviceDomain originalVeventUid : String) :
    decodeProxyUid serviceDomain
        (buildProxyUid hmac16 serviceDomain accountId threadId originalVeventUid) =
      if '@' ∈ serviceDomain.toList then .error "domain mismatch"
      else if originalVeventUid = "" then .error "empty segment in proxy UID"
      else .ok ⟨accountId, threadId, originalVeventUid,
        hmac16 (uidPayload accountId threadId originalVeventUid)⟩ := by
  have hmac := hhmac (uidPayload accountId threadId originalVeventUid)
  have hmacDot : '.' ∉ (hmac16 (uidPayload accountId threadId originalVeventUid)).toList :=
    hmac.not_mem (by decide)
  unfold decodeProxyUid
  simp only [toList_buildProxyUid]
  rw [if_neg (by simp)]
  by_cases hat : '@' ∈ serviceDomain.toList
  · rw [if_pos hat, if_pos]
    intro heq
    rw [← heq] at hat
    exact not_mem_afterLastAt _ hat
  · obtain ⟨hlocal, hdomain⟩ := split_lastAt (accountId.toList ++ '.' ::
      (threadId.toList ++ '.' :: (originalVeventUid.toList ++ '.' ::
        (hmac16 (uidPayload accountId threadId originalVeventUid)).toList))) hat
    obtain ⟨first, rest, hsplit⟩ := List.exists_cons_of_ne_nil
      (List.splitOn_ne_nil '.' originalVeventUid.toList)
    have huid : ['.'].intercalate (first :: rest) = originalVeventUid.toList := by
      rw [← hsplit]
      exact List.intercalate_splitOn '.'
    rw [if_neg hat, if_neg (not_not.mpr hdomain), hlocal,
      splitOn_localPart haccountDot hthreadDot hmacDot, hsplit, List.cons_append]
    dsimp only
    rw [if_neg (by simp)]
    have hlast : (first :: (rest ++
        [(hmac16 (uidPayload accountId threadId originalVeventUid)).toList])).getLast
          (List.cons_ne_nil _ _) =
        (hmac16 (uidPayload accountId threadId originalVeventUid)).toList := by simp
    have hdrop : (first :: (rest ++
        [(hmac16 (uidPayload accountId threadId originalVeventUid)).toList])).dropLast =
        first :: rest := by
      rw [← List.cons_append, List.dropLast_concat]
    rw [hlast, hdrop, huid]
    by_cases hempty : originalVeventUid = ""
    · rw [if_pos hempty, if_pos (.inr (.inr (.inl (by rw [hempty]; rfl))))]
    · have hparts : ¬ (accountId.toList = [] ∨ threadId.toList = [] ∨
          originalVeventUid.toList = [] ∨
          (hmac16 (uidPayload accountId threadId originalVeventUid)).toList = []) := by
        rintro (h | h | h | h)
        · exact haccount (String.toList_eq_nil_iff.mp h)
        · exact hthread (String.toList_eq_nil_iff.mp h)
        · exact hempty (String.toList_eq_nil_iff.mp h)
        · exact hmac.ne_nil h
      rw [if_neg hempty, if_neg hparts]
      simp only [String.ofList_toList]

/-! ## The check of the HMAC -/

variable {env : Env}

/-- A validation that reads its secret decodes the UID and compares its HMAC. -/
theorem validateProxyUid_eval (proxyUid : String) (w : World) :
    (validateProxyUid env proxyUid).eval (service env) w =
      (.ok ((decodeProxyUid env.serviceDomain proxyUid).bind fun uid =>
        if uid.hmac16 = env.hmac16 (uidPayload uid.accountId uid.threadId uid.originalVeventUid)
        then .ok uid else .error "hmac mismatch"), w) := by
  unfold validateProxyUid
  cases decodeProxyUid env.serviceDomain proxyUid with
  | error reason => rfl
  | ok uid => rfl

/-- A built UID validates to what it was built from, unless the event had no UID or the service
domain has an `@` itself. What validates was built from what it validates to. -/
theorem validateProxyUid_format (env : Env) (w : World)
    (hhmac : ∀ payload, IsHmac16 (env.hmac16 payload)) :
    (∀ accountId threadId originalVeventUid : String, accountId ≠ "" → '.' ∉ accountId.toList →
      threadId ≠ "" → '.' ∉ threadId.toList →
        (validateProxyUid env (buildProxyUid env.hmac16 env.serviceDomain accountId threadId
            originalVeventUid)).eval (service env) w =
          (.ok (if '@' ∈ env.serviceDomain.toList then .error "domain mismatch"
            else if originalVeventUid = "" then .error "empty segment in proxy UID"
            else .ok ⟨accountId, threadId, originalVeventUid,
              env.hmac16 (uidPayload accountId threadId originalVeventUid)⟩), w)) ∧
    ∀ (proxyUid : String) (uid : ProxyUid),
      (validateProxyUid env proxyUid).eval (service env) w = (.ok (.ok uid), w) →
        proxyUid = buildProxyUid env.hmac16 env.serviceDomain uid.accountId uid.threadId
          uid.originalVeventUid := by
  constructor
  · intro accountId threadId originalVeventUid haccount haccountDot hthread hthreadDot
    rw [validateProxyUid_eval,
      decodeProxyUid_build hhmac haccount haccountDot hthread hthreadDot]
    by_cases hat : '@' ∈ env.serviceDomain.toList
    · rw [if_pos hat]
      rfl
    · rw [if_neg hat]
      by_cases hempty : originalVeventUid = ""
      · rw [if_pos hempty]
        rfl
      · rw [if_neg hempty]
        simp [Except.bind]
  · intro proxyUid uid hvalid
    rw [validateProxyUid_eval] at hvalid
    have hchecked := Except.ok.inj (congrArg Prod.fst hvalid)
    cases hdecode : decodeProxyUid env.serviceDomain proxyUid with
    | error reason =>
      rw [hdecode] at hchecked
      cases hchecked
    | ok decoded =>
      rw [hdecode] at hchecked
      change (if decoded.hmac16 = _ then Except.ok decoded else _) = _ at hchecked
      split at hchecked
      · next hmatch =>
        cases hchecked
        rw [decodeProxyUid_eq_ok hdecode, hmatch]
        rfl
      · cases hchecked

/-! ## UIDs under one HMAC -/

/-- A service whose HMACs are all one text. -/
def oneHmac (serviceDomain : String) : Env where
  now := fun _ => "2026-03-02T09:00:00.000Z"
  rawEmail := fun _ => []
  hmac16 := fun _ => "5d41402abc4b2a76"
  serviceDomain := serviceDomain
  sesRegion := "eu-west-1"
  mailService := ⟨"noreply@mail.test", "platform", "mail.test"⟩
  stale := fun _ => false

def noMail : World := ⟨⟨.empty, .empty⟩, [], [], 0⟩

theorem isHmac16_oneHmac : IsHmac16 "5d41402abc4b2a76" := by
  exact ⟨by decide, Address.forall_mem_of_all (by decide)⟩

theorem validateProxyUid_format_dotted :
    (validateProxyUid (oneHmac "mail.test") "acc-1.thr-1.a.b@c.5d41402abc4b2a76@mail.test").eval
        (service (oneHmac "mail.test")) noMail =
      (.ok (.ok ⟨"acc-1", "thr-1", "a.b@c", "5d41402abc4b2a76"⟩), noMail) :=
  (validateProxyUid_format (oneHmac "mail.test") noMail fun _ => isHmac16_oneHmac).1
    "acc-1" "thr-1" "a.b@c" (by decide) (by decide) (by decide) (by decide)

/-- An event without a UID is forwarded under a UID that no answer validates with. -/
theorem emptyUid_rejected :
    (validateProxyUid (oneHmac "mail.test") (buildProxyUid (oneHmac "mail.test").hmac16 "mail.test"
        "acc-1" "thr-1" "")).eval (service (oneHmac "mail.test")) noMail =
      (.ok (.error "empty segment in proxy UID"), noMail) ∧
    (validateProxyUid (oneHmac "a@b") (buildProxyUid (oneHmac "a@b").hmac16 "a@b"
        "acc-1" "thr-1" "uid-1")).eval (service (oneHmac "a@b")) noMail =
      (.ok (.error "domain mismatch"), noMail) := by
  constructor
  · rw [validateProxyUid_eval]
    rfl
  · rw [validateProxyUid_eval]
    rfl

end SesEmailAdapter.Calendar.ProxyUids
