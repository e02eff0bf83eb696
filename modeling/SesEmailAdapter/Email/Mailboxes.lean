import SesEmailAdapter.Email.MimeBuilder

/-! # Lists of mailboxes, read back

A list of formatted mailboxes is split at the commas outside of quotes and brackets, which gives the
mailboxes back whatever their display names are. The address of one mailbox is taken from behind the
first bracket that is not closed before the end, whether or not it stands in quotes. -/

namespace SesEmailAdapter.Email.Mailboxes
open SesEmailAdapter.Types (EmailAddress)
open Lib.MessageFormat
open Email.Address Email.MimeBuilder

def formatAddressList (list : List EmailAddress) : List Char :=
  joinAddresses (list.map formatAddress)

/-! ## Splitting -/

/-- A text that the splitter goes over without a cut, and outside of quotes and brackets again
after it. -/
def Passes (text : List Char) : Prop :=
  ∀ current rest, splitAddressesFrom false false false current (text ++ rest) =
    splitAddressesFrom false false false (text.reverse ++ current) rest

variable {text text' : List Char}

theorem Passes.nil : Passes [] := fun _ _ => rfl

theorem Passes.append (h : Passes text) (h' : Passes text') : Passes (text ++ text') := by
  intro current rest
  rw [List.append_assoc, h, h', List.reverse_append, List.append_assoc]

variable {front address : List Char} {c : Char}

/-- Characters without a meaning in lists. -/
theorem passes_char (hquote : c ≠ '"') (hopen : c ≠ '<') (hclose : c ≠ '>')
    (hcomma : c ≠ ',') : Passes [c] := by
  intro current rest
  rw [List.singleton_append, splitAddressesFrom]
  simp [hquote, hopen, hclose, hcomma]

theorem passes_chars (h : ∀ c ∈ text, c ≠ '"' ∧ c ≠ '<' ∧ c ≠ '>' ∧ c ≠ ',') : Passes text := by
  induction text with
  | nil => exact .nil
  | cons c text ih =>
    obtain ⟨⟨hquote, hopen, hclose, hcomma⟩, htext⟩ := List.forall_mem_cons.mp h
    exact (passes_char hquote hopen hclose hcomma).append (ih htext)

theorem not_special (h : isSpecial c = false) :
    c ≠ '"' ∧ c ≠ '<' ∧ c ≠ '>' ∧ c ≠ ',' := by
  simp [isSpecial] at h
  tauto

/-- Within quotes a character is kept with the backslash before it. -/
theorem split_quoted (text current rest : List Char) :
    splitAddressesFrom true false false current
        (text.flatMap (fun c => if c = '"' ∨ c = '\\' then ['\\', c] else [c]) ++ '"' :: rest) =
      splitAddressesFrom false false false
        ('"' :: ((text.flatMap fun c => if c = '"' ∨ c = '\\' then ['\\', c] else [c]).reverse ++
          current)) rest := by
  induction text generalizing current with
  | nil => simp [splitAddressesFrom]
  | cons c text ih =>
    rw [List.flatMap_cons, List.append_assoc]
    split
    · simp [splitAddressesFrom, ih]
    · next hc =>
      rw [not_or] at hc
      simp [splitAddressesFrom, hc, ih]

theorem passes_quoted (text : List Char) : Passes (quoted text) := by
  intro current rest
  have hopen : splitAddressesFrom false false false current (quoted text ++ rest) =
      splitAddressesFrom true false false ('"' :: current)
        (text.flatMap (fun c => if c = '"' ∨ c = '\\' then ['\\', c] else [c]) ++ '"' :: rest) := by
    simp [quoted, splitAddressesFrom]
  rw [hopen, split_quoted]
  simp [quoted]

/-- An address in its brackets. -/
theorem passes_bracketed (h : ∀ c ∈ text, c ≠ '"' ∧ c ≠ '<' ∧ c ≠ '>' ∧ c ≠ ',') :
    Passes ('<' :: text ++ ['>']) := by
  have hinner (current rest : List Char) :
      splitAddressesFrom false true false current (text ++ rest) =
        splitAddressesFrom false true false (text.reverse ++ current) rest := by
    induction text generalizing current with
    | nil => rfl
    | cons c text ih =>
      obtain ⟨⟨hquote, hopen, hclose, hcomma⟩, htext⟩ := List.forall_mem_cons.mp h
      rw [List.cons_append, splitAddressesFrom]
      simp [hquote, hopen, hclose, hcomma, ih htext]
  intro current rest
  rw [List.cons_append, List.cons_append, List.append_assoc, splitAddressesFrom]
  simp [hinner, splitAddressesFrom]

theorem IsAddress.plain {address : List Char} (h : IsAddress address) :
    ∀ c ∈ address, c ≠ '"' ∧ c ≠ '<' ∧ c ≠ '>' ∧ c ≠ ',' := by
  intro c hc
  have hchar := h.chars c hc
  simp only [isAddressChar, Bool.and_eq_true, Bool.not_eq_true'] at hchar
  exact not_special hchar.2

/-- A mailbox is not cut. -/
theorem IsMailbox.passes {address : List Char} (haddress : IsAddress address)
    (h : IsMailbox address text) : Passes text := by
  cases h with
  | bare => exact passes_chars (IsAddress.plain haddress)
  | named hphrase =>
    have hspace : Passes [' '] := passes_char (by decide) (by decide) (by decide) (by decide)
    rw [List.append_assoc]
    refine (Passes.append ?_ hspace).append (passes_bracketed (IsAddress.plain haddress))
    cases hphrase with
    | words hwords =>
      refine passes_chars fun c hc => ?_
      have hchar := hwords c hc
      simp only [isWordChar, Bool.and_eq_true, Bool.not_eq_true'] at hchar
      exact not_special hchar.2
    | quoted => exact passes_quoted _

theorem Entry.trim_space {text : List Char} (h : Entry text) : trim (' ' :: text) = text := by
  have hdrop : trim (' ' :: text) = trim text := by
    rw [Address.trim, Address.trim, List.dropWhile_cons_of_pos (by decide)]
  rw [hdrop, h.trim]

/-- The splitter at the start of a mailbox, with the space of the list's separator behind it. -/
theorem splitAddressesFrom_join {entries : List (List Char)} (hne : entries ≠ [])
    (h : ∀ entry ∈ entries, Passes entry ∧ Entry entry) {space : List Char}
    (hspace : ∀ entry, Entry entry → trim (space ++ entry) = entry) :
    splitAddressesFrom false false false space.reverse (joinAddresses entries) = entries := by
  induction entries generalizing space with
  | nil => exact absurd rfl hne
  | cons entry entries ih =>
    obtain ⟨⟨hpasses, hentry⟩, hrest⟩ := List.forall_mem_cons.mp h
    have htrim : trim (entry.reverse ++ space.reverse).reverse = entry := by
      simpa using hspace entry hentry
    cases entries with
    | nil =>
      have hread := hpasses space.reverse []
      obtain ⟨c, rest, hfirst, -⟩ := hentry.first
      rw [List.append_nil] at hread
      rw [joinAddresses, List.intercalate_singleton, hread, splitAddressesFrom, htrim,
        if_neg (by simp [hfirst])]
    | cons next entries =>
      have hskip (text : List Char) : splitAddressesFrom false false false [] (' ' :: text) =
          splitAddressesFrom false false false [' '] text := by
        simp [splitAddressesFrom]
      have hnext : splitAddressesFrom false false false [' '] (joinAddresses (next :: entries)) =
          next :: entries :=
        @ih (List.cons_ne_nil _ _) hrest [' '] fun entry hentry => Entry.trim_space hentry
      rw [joinAddresses_cons, List.append_assoc, hpasses, List.cons_append, splitAddressesFrom]
      simp [hspace entry hentry, hskip, hnext]

/-- **A list of mailboxes is split into them.** -/
theorem splitAddressList_join {entries : List (List Char)}
    (h : ∀ entry ∈ entries, Passes entry ∧ Entry entry) :
    splitAddressList (joinAddresses entries) = entries := by
  cases entries with
  | nil => rfl
  | cons entry entries =>
    exact @splitAddressesFrom_join _ (List.cons_ne_nil _ _) h [] fun entry hentry => hentry.trim

theorem splitAddressList_formatAddressList {list : List EmailAddress}
    (h : ∀ a ∈ list, IsAddress a.address.toList) :
    splitAddressList (formatAddressList list) = list.map formatAddress := by
  refine splitAddressList_join fun entry hentry => ?_
  obtain ⟨a, ha, rfl⟩ := List.mem_map.mp hentry
  obtain ⟨hmailbox, hentry⟩ := formatAddress_mailbox (h a ha)
  exact ⟨IsMailbox.passes (h a ha) hmailbox, hentry⟩

/-! ## The address of a mailbox -/

/-- Every opening bracket has a closing one after it. -/
def Closed (text : List Char) : Prop :=
  ∀ front rest, text = front ++ '<' :: rest → '>' ∈ rest

theorem Closed.cons_iff :
    Closed (c :: text) ↔ (c = '<' → '>' ∈ text) ∧ Closed text := by
  constructor
  · intro h
    exact ⟨fun hc => h [] text (by rw [hc]; rfl), fun front rest heq => h (c :: front) rest (by
      rw [heq]; rfl)⟩
  · intro h front rest heq
    cases front with
    | nil =>
      obtain ⟨rfl, rfl⟩ := List.cons.inj heq
      exact h.1 rfl
    | cons d front => exact h.2 front rest (List.cons.inj heq).2

theorem Closed.nil : Closed [] := by
  intro front rest heq
  simp at heq

/-- A text after which no bracket is open. -/
theorem closed_of_not_mem (h : '<' ∉ text) : Closed text := by
  intro front rest heq
  rw [heq] at h
  simp at h

/-- What stands between the last closing bracket of a text and its end. -/
def afterLastClose (text : List Char) : List Char := (text.reverse.takeWhile (· ≠ '>')).reverse

theorem afterLastClose_cons : afterLastClose (c :: text) =
    if '>' ∈ text ∨ c = '>' then afterLastClose text else c :: text := by
  have hall : '>' ∉ text → text.reverse.takeWhile (· ≠ '>') = text.reverse := fun hnone =>
    List.takeWhile_eq_self_iff.mpr fun d hd =>
      decide_eq_true (ne_of_mem_of_not_mem (List.mem_reverse.mp hd) hnone)
  unfold afterLastClose
  rw [List.reverse_cons, List.takeWhile_append]
  by_cases hmem : '>' ∈ text
  · have hcut : (text.reverse.takeWhile (· ≠ '>')).length ≠ text.reverse.length := by
      intro hlength
      have hself := (List.takeWhile_prefix (fun c : Char => decide (c ≠ '>'))).eq_of_length hlength
      have hopen := List.takeWhile_eq_self_iff.mp hself '>' (List.mem_reverse.mpr hmem)
      simp at hopen
    rw [if_neg hcut, if_pos (.inl hmem)]
  · rw [hall hmem]
    by_cases hc : c = '>' <;> simp [hmem, hc]

theorem closed_iff : Closed text ↔ '<' ∉ afterLastClose text := by
  induction text with
  | nil => simp [Closed.nil, afterLastClose]
  | cons c text ih =>
    rw [Closed.cons_iff, ih, afterLastClose_cons]
    split
    · next hclose =>
      constructor
      · exact And.right
      · intro hnone
        refine ⟨fun hc => ?_, hnone⟩
        rcases hclose with hmem | hc'
        · exact hmem
        · exact absurd (hc.symm.trans hc') (by decide)
    · next hnone =>
      rw [not_or] at hnone
      have hself : afterLastClose text = text := by
        cases text with
        | nil => rfl
        | cons d rest =>
          rw [afterLastClose_cons, if_neg]
          simpa [eq_comm, not_or, and_comm] using hnone.1
      rw [hself]
      simp [hnone.1, eq_comm]

/-- The reader takes what stands behind the first bracket that is not closed. -/
theorem bracketed_of_dropWhile {front address inner : List Char} (hclose : '>' ∉ address)
    (hinner : inner ≠ [])
    (hdrop : (afterLastClose front ++ '<' :: address).dropWhile (· ≠ '<') = '<' :: inner) :
    bracketed (front ++ '<' :: (address ++ ['>'])) = some inner := by
  have hopen : ∀ c ∈ address.reverse, decide (c ≠ '>') = true := fun c hc =>
    decide_eq_true (ne_of_mem_of_not_mem (List.mem_reverse.mp hc) hclose)
  have hreverse : (front ++ '<' :: (address ++ ['>'])).reverse =
      '>' :: (address.reverse ++ '<' :: front.reverse) := by simp
  have hsegment : ((address.reverse ++ '<' :: front.reverse).takeWhile (· ≠ '>')).reverse =
      afterLastClose front ++ '<' :: address := by
    rw [List.takeWhile_append_of_pos hopen, List.takeWhile_cons_of_pos (by decide)]
    simp [afterLastClose]
  obtain ⟨c, rest, rfl⟩ := List.exists_cons_of_ne_nil hinner
  rw [bracketed, hreverse]
  simp only [hsegment, hdrop]

theorem dropWhile_open {text : List Char} (h : '<' ∉ text) (rest : List Char) :
    (text ++ '<' :: rest).dropWhile (· ≠ '<') = '<' :: rest := by
  rw [List.dropWhile_append_of_pos fun c hc => decide_eq_true (ne_of_mem_of_not_mem hc h),
    List.dropWhile_cons_of_neg (by decide)]

theorem bracketed_of_closed (hne : address ≠ [])
    (hclose : '>' ∉ address) (h : Closed front) :
    bracketed (front ++ '<' :: (address ++ ['>'])) = some address :=
  bracketed_of_dropWhile hclose hne (dropWhile_open (closed_iff.mp h) address)

/-- An open bracket before the address is taken for its own. -/
theorem bracketed_of_open (hclose : '>' ∉ address) (h : ¬ Closed front) :
    ∃ extra, bracketed (front ++ '<' :: (address ++ ['>'])) = some (extra ++ '<' :: address) := by
  rw [closed_iff, not_not] at h
  obtain ⟨before, extra, hsplit, hbefore⟩ := List.eq_append_cons_of_mem h
  refine ⟨extra, bracketed_of_dropWhile hclose (by simp) ?_⟩
  rw [hsplit, List.append_assoc, List.cons_append, dropWhile_open hbefore]

theorem mem_trim (hc : isSpace c = false) (h : c ∈ text) : c ∈ trim text := by
  have hdrop {text : List Char} (hmem : c ∈ text) : c ∈ text.dropWhile isSpace := by
    rw [← @List.takeWhile_append_dropWhile _ isSpace text, List.mem_append] at hmem
    rcases hmem with hmem | hmem
    · rw [List.mem_takeWhile_imp hmem] at hc
      cases hc
    · exact hmem
  rw [trim, List.mem_reverse]
  exact hdrop (List.mem_reverse.mpr (hdrop h))

/-- The address of a mailbox with its display name is read back just where the name leaves no
bracket open. -/
theorem extractAddress_named_iff (haddress : IsAddress address)
    (hfront : ∃ c rest, front = c :: rest ∧ isSpace c = false) :
    extractAddress (front ++ '<' :: (address ++ ['>'])) = toLowerCase address ↔ Closed front := by
  have hclose : '>' ∉ address := fun hmem => (IsAddress.plain haddress _ hmem).2.2.1 rfl
  have hopen : '<' ∉ address := fun hmem => (IsAddress.plain haddress _ hmem).2.1 rfl
  have htrim : trim (front ++ '<' :: (address ++ ['>'])) = front ++ '<' :: (address ++ ['>']) := by
    obtain ⟨c, rest, rfl, hc⟩ := hfront
    rw [trim_mailbox, List.dropWhile_cons_of_neg (by simp [hc])]
  constructor
  · intro hread
    by_contra hfront
    obtain ⟨extra, hbracketed⟩ := bracketed_of_open hclose hfront
    rw [extractAddress, htrim, hbracketed, Option.getD_some] at hread
    have hmem : '<' ∈ toLowerCase (trim (extra ++ '<' :: address)) :=
      List.mem_map.mpr ⟨'<', mem_trim (by decide) (by simp), by decide⟩
    rw [hread] at hmem
    exact not_mem_toLowerCase (by decide) hopen hmem
  · intro hfront
    rw [extractAddress, htrim, bracketed_of_closed haddress.nonempty hclose hfront,
      Option.getD_some, (entry_of_address haddress).trim]

/-! ## Display names -/

/-- The display name of a mailbox, on one line. -/
def nameOf (a : EmailAddress) : List Char := trim (joinLines false (a.name.getD "").toList)

/-- A name that is written out leaves no bracket open; other names are encoded. -/
def ClosedName (a : EmailAddress) : Prop :=
  (nameOf a).all isAsciiPrintable = true → Closed (nameOf a)

theorem Closed.append_space : Closed (text ++ [' ']) ↔ Closed text := by
  induction text with
  | nil => simp [Closed.cons_iff, Closed.nil]
  | cons c text ih => simp [Closed.cons_iff, ih]

theorem mem_escapeQuoted : '>' ∈ escapeQuoted text ↔ '>' ∈ text := by
  induction text with
  | nil => rfl
  | cons c text ih =>
    unfold escapeQuoted at ih ⊢
    rw [List.flatMap_cons, List.mem_append, ih]
    split <;> simp

theorem Closed.escapeQuoted_iff {tail : List Char} (htail : '<' ∉ tail) (hclose : '>' ∉ tail) :
    Closed (escapeQuoted text ++ tail) ↔ Closed text := by
  induction text with
  | nil => simp [escapeQuoted, Closed.nil, closed_of_not_mem htail]
  | cons c text ih =>
    have hcons : escapeQuoted (c :: text) =
        (if c = '"' ∨ c = '\\' then ['\\', c] else [c]) ++ escapeQuoted text :=
      List.flatMap_cons
    rw [hcons, List.append_assoc, Closed.cons_iff]
    split
    · next hc =>
      have hopen : c ≠ '<' := by
        rintro rfl
        simp at hc
      simp [Closed.cons_iff, ih, hopen]
    · simp [Closed.cons_iff, ih, mem_escapeQuoted, hclose]

theorem closed_displayName (name : List Char) :
    Closed (displayName name) ↔ (name.all isAsciiPrintable = true → Closed name) := by
  unfold displayName
  split
  · next hencoded =>
    have hopen : '<' ∉ encodeWord name := fun hmem =>
      absurd (encodeWord_words name _ hmem) (by decide)
    simp [closed_of_not_mem hopen, hencoded]
  · next hprintable =>
    rw [not_not] at hprintable
    simp only [hprintable, true_implies]
    split
    · rfl
    · rw [List.cons_append, Closed.cons_iff, Closed.escapeQuoted_iff (by decide) (by decide)]
      simp

/-- The address is read back from a formatted mailbox just where its display name leaves no bracket
open. -/
theorem extractAddress_formatAddress_iff {a : EmailAddress} (h : IsAddress a.address.toList) :
    extractAddress (formatAddress a) = toLowerCase a.address.toList ↔ ClosedName a := by
  have hclose : '>' ∉ a.address.toList := fun hmem => (IsAddress.plain h _ hmem).2.2.1 rfl
  have haddress := entry_of_address h
  unfold ClosedName
  by_cases hname : nameOf a = []
  · have hbare : formatAddress a = a.address.toList := by
      unfold nameOf at hname
      simp [formatAddress, hname, haddress.trim]
    rw [hbare, extractAddress, haddress.trim, bracketed_eq_none hclose, hname]
    simp [haddress.trim, Closed.nil]
  · obtain ⟨-, -, c, rest, hfirst, hc⟩ := displayName_phrase hname
    have hnamed : formatAddress a =
        (displayName (nameOf a) ++ [' ']) ++ '<' :: (a.address.toList ++ ['>']) := by
      unfold nameOf at hname ⊢
      simp [formatAddress, hname, haddress.trim]
    rw [hnamed, extractAddress_named_iff h ⟨c, rest ++ [' '], by
      rw [nameOf, hfirst]; rfl, hc⟩, Closed.append_space, closed_displayName]

/-! ## Round trips -/

/-- Formatted mailboxes are read back: the address of each, and the list of them. -/
structure ReadBack (list : List EmailAddress) : Prop where
  address : ∀ a ∈ list, extractAddress (formatAddress a) = toLowerCase a.address.toList
  entries : splitAddressList (formatAddressList list) = list.map formatAddress

/-- **Formatted mailboxes are read back** just where no display name that is written out leaves a
bracket open. -/
theorem readBack_iff {list : List EmailAddress} (h : ∀ a ∈ list, IsAddress a.address.toList) :
    ReadBack list ↔ ∀ a ∈ list, ClosedName a := by
  constructor
  · intro hread a ha
    exact (extractAddress_formatAddress_iff (h a ha)).mp (hread.address a ha)
  · intro hclosed
    refine ⟨fun a ha => ?_, splitAddressList_formatAddressList h⟩
    exact (extractAddress_formatAddress_iff (h a ha)).mpr (hclosed a ha)

/-- Names with the delimiters of lists, and one that is encoded. -/
def delimited : List EmailAddress :=
  [⟨"ann@x.example", some "Doe, \"Ann\" <A> \\"⟩, ⟨"Bob@y.example", none⟩,
    ⟨"jo@z.example", some "Jö <3"⟩]

theorem delimited_address : ∀ a ∈ delimited, IsAddress a.address.toList := by
  have haddress {address : List Char} (hne : address ≠ [])
      (hall : address.all isAddressChar = true) : IsAddress address :=
    ⟨hne, List.all_eq_true.mp hall⟩
  simp only [delimited, List.forall_mem_cons]
  exact ⟨haddress (by decide) (by decide), haddress (by decide) (by decide),
    haddress (by decide) (by decide), List.forall_mem_nil _⟩

theorem delimited_readBack : ReadBack delimited := by
  refine (readBack_iff delimited_address).mpr ?_
  simp only [delimited, List.forall_mem_cons, ClosedName, closed_iff]
  exact ⟨fun _ => by decide +kernel, fun _ => by decide +kernel,
    fun hall => absurd hall (by decide +kernel), List.forall_mem_nil _⟩

/-- A heart in a display name. -/
def heart : EmailAddress := ⟨"ann@x.example", some "Ann <3"⟩

/-- The address is read from the bracket in the name. -/
theorem heart_misread :
    extractAddress (formatAddress heart) = "3\" <ann@x.example".toList ∧ ¬ ReadBack [heart] := by
  have hread : extractAddress (formatAddress heart) = "3\" <ann@x.example".toList := by
    decide +kernel
  refine ⟨hread, fun hback => ?_⟩
  have haddress := hback.address heart (by simp)
  rw [hread] at haddress
  exact absurd haddress (by decide +kernel)

end SesEmailAdapter.Email.Mailboxes
