import Mathlib.Data.List.TakeWhile
import SesEmailAdapter.Lib.TextCodec
import SesEmailAdapter.Types

/-! # Mailboxes

An address with its display name is written as one mailbox text and read back from it. The
domain read from a mailbox is the domain of the address in it, whatever the display name says. -/

namespace SesEmailAdapter.Email.Address
open Lib
open SesEmailAdapter.Types

/-! ## Texts -/

/-- The white space that `trim` removes. -/
def isSpace (c : Char) : Bool :=
  c.toNat ∈ [0x9, 0xA, 0xB, 0xC, 0xD, 0x20, 0xA0, 0x1680, 0x2028, 0x2029, 0x202F, 0x205F, 0x3000,
    0xFEFF] ∨ (0x2000 ≤ c.toNat ∧ c.toNat ≤ 0x200A)

def trim (text : List Char) : List Char :=
  ((text.dropWhile isSpace).reverse.dropWhile isSpace).reverse

/-- Addresses are ASCII text. -/
def toLowerCase (text : List Char) : List Char := text.map Char.toLower

/-- `split("@").pop()` -/
def afterLastAt (text : List Char) : List Char := (text.reverse.takeWhile (· ≠ '@')).reverse

/-- `split("@")[1] ?? ""` -/
def afterFirstAt (text : List Char) : List Char :=
  ((text.dropWhile (· ≠ '@')).drop 1).takeWhile (· ≠ '@')

/-! ## Writing -/

/-- `replace(/[\r\n]+/g, " ")` -/
def joinLines : Bool → List Char → List Char
  | _, [] => []
  | inBreak, c :: cs =>
    if c = '\r' ∨ c = '\n' then
      if inBreak then joinLines true cs else ' ' :: joinLines true cs
    else c :: joinLines false cs

def isAsciiPrintable (c : Char) : Bool := 0x20 ≤ c.toNat ∧ c.toNat ≤ 0x7E

/-- Display-name characters that need no quotes. -/
def isSafeUnquoted (c : Char) : Bool := c.isAlphanum ∨ c ∈ [' ', '\'', '.', '-']

def escapeQuoted (name : List Char) : List Char :=
  name.flatMap fun c => if c = '"' ∨ c = '\\' then ['\\', c] else [c]

/-- Base64 with the standard alphabet and padding. -/
def encodeBase64 (bytes : List UInt8) : List Char :=
  let sextets := (TextCodec.encodeBase64url bytes).map fun c =>
    if c = '-' then '+' else if c = '_' then '/' else c
  sextets ++ List.replicate ((4 - sextets.length % 4) % 4) '='

def encodeWord (value : List Char) : List Char :=
  "=?UTF-8?B?".toList ++ encodeBase64 (TextCodec.utf8Bytes (String.ofList value)) ++ "?=".toList

/-- How a display name stands before the bracketed address. -/
def displayName (name : List Char) : List Char :=
  if ¬ name.all isAsciiPrintable then encodeWord name
  else if name.all isSafeUnquoted then name
  else '"' :: escapeQuoted name ++ ['"']

def formatAddress (a : EmailAddress) : List Char :=
  let address := trim a.address.toList
  let name := trim (joinLines false (a.name.getD "").toList)
  if name = [] then address
  else displayName name ++ [' '] ++ '<' :: address ++ ['>']

/-! ## Reading -/

/-- `/<([^>]+)>\s*$/` on a trimmed text: what the leftmost bracket that the final one closes
holds. -/
def bracketed (text : List Char) : Option (List Char) :=
  match text.reverse with
  | '>' :: before =>
    match (before.takeWhile (· ≠ '>')).reverse.dropWhile (· ≠ '<') with
    | _ :: c :: inner => some (c :: inner)
    | _ => none
  | _ => none

def extractAddress (value : List Char) : List Char :=
  toLowerCase (trim ((bracketed (trim value)).getD value))

def addressDomain (value : List Char) : List Char := afterLastAt (extractAddress value)

/-! ## The domain of a text -/

/-- A text that ends in `@domain` and holds no closing bracket. -/
structure HasDomain (text domain : List Char) : Prop where
  shape : ∃ front, text = front ++ '@' :: domain
  unclosed : '>' ∉ text
  domainChars : ∀ c ∈ domain, c ≠ '@' ∧ isSpace c = false

variable {text domain : List Char}

theorem HasDomain.afterLastAt (h : HasDomain text domain) : Address.afterLastAt text = domain := by
  obtain ⟨front, rfl⟩ := h.shape
  have hat : ∀ c ∈ domain.reverse, decide (c ≠ '@') = true := fun c hc =>
    decide_eq_true (h.domainChars c (List.mem_reverse.mp hc)).1
  rw [Address.afterLastAt, List.reverse_append, List.reverse_cons, List.append_assoc,
    List.takeWhile_append_of_pos hat, List.singleton_append,
    List.takeWhile_cons_of_neg (by decide), List.append_nil, List.reverse_reverse]

/-- A text is checked character by character. -/
theorem forall_mem_of_all {p : Char → Prop} [DecidablePred p]
    (h : (text.all fun c => decide (p c)) = true) : ∀ c ∈ text, p c :=
  fun c hc => of_decide_eq_true (List.all_eq_true.mp h c hc)

variable {front : List Char}

theorem afterFirstAt_append (hf : '@' ∉ front) (hd : '@' ∉ domain) :
    afterFirstAt (front ++ '@' :: domain) = domain := by
  have hne : ∀ l : List Char, '@' ∉ l → ∀ c ∈ l, decide (c ≠ '@') = true := fun l hl c hc =>
    decide_eq_true fun heq => hl (heq ▸ hc)
  rw [afterFirstAt, List.dropWhile_append_of_pos (hne front hf),
    List.dropWhile_cons_of_neg (by decide), List.drop_one, List.tail_cons,
    List.takeWhile_eq_self_iff.mpr (hne domain hd)]

theorem HasDomain.append (h : HasDomain text domain) (hf : '>' ∉ front) :
    HasDomain (front ++ text) domain where
  shape := by
    obtain ⟨start, hs⟩ := h.shape
    exact ⟨front ++ start, by rw [hs, List.append_assoc]⟩
  unclosed := fun hmem => (List.mem_append.mp hmem).elim hf h.unclosed
  domainChars := h.domainChars

theorem reverse_dropWhile_isSpace_concat {d : Char} (hd : isSpace d = false) :
    ((front ++ [d]).reverse.dropWhile isSpace).reverse = front ++ [d] := by
  simp [hd]

theorem trim_eq_self (h : ∀ c ∈ text, isSpace c = false) : trim text = text := by
  have hdrop : ∀ l : List Char, (∀ c ∈ l, isSpace c = false) → l.dropWhile isSpace = l := by
    intro l hl
    cases l with
    | nil => rfl
    | cons c l => exact List.dropWhile_cons_of_neg (by simp [hl c List.mem_cons_self])
  rw [trim, hdrop text h, hdrop text.reverse fun c hc => h c (List.mem_reverse.mp hc),
    List.reverse_reverse]

theorem HasDomain.trim (h : HasDomain text domain) : HasDomain (Address.trim text) domain := by
  obtain ⟨front, hshape⟩ := h.shape
  have hstart : ∃ rest, text.dropWhile isSpace = rest ++ '@' :: domain := by
    rw [hshape, List.dropWhile_append]
    split
    · exact ⟨[], List.dropWhile_cons_of_neg (by decide)⟩
    · exact ⟨_, rfl⟩
  obtain ⟨rest, hrest⟩ := hstart
  have htrim : Address.trim text = rest ++ '@' :: domain := by
    obtain ⟨init, d, hlast⟩ := (List.eq_nil_or_concat' ('@' :: domain)).resolve_left
      (List.cons_ne_nil _ _)
    have hd : isSpace d = false := by
      have hmem : d ∈ '@' :: domain := by rw [hlast]; simp
      rcases List.mem_cons.mp hmem with rfl | hmem
      · decide
      · exact (h.domainChars d hmem).2
    rw [Address.trim, hrest, hlast, ← List.append_assoc, reverse_dropWhile_isSpace_concat hd]
  refine ⟨⟨rest, htrim⟩, fun hmem => h.unclosed ?_, h.domainChars⟩
  rw [htrim, ← hrest] at hmem
  exact (List.dropWhile_suffix isSpace).mem hmem

/-! ### Lower case -/

theorem toLower_cases (c : Char) : c.toLower = c ∨
    (65 ≤ c.toNat ∧ c.toNat ≤ 90 ∧ c.toLower.toNat = c.toNat + 32) := by
  unfold Char.toLower
  split
  · next hupper =>
    have hlow : 65 ≤ c.val.toNat := UInt32.le_iff_toNat_le.mp hupper.1
    have hhigh : c.val.toNat ≤ 90 := UInt32.le_iff_toNat_le.mp hupper.2
    have hshift : ('a'.val - 'A'.val).toNat = 32 := by decide
    refine .inr ⟨hlow, hhigh, ?_⟩
    show (c.val + ('a'.val - 'A'.val)).toNat = c.val.toNat + 32
    rw [UInt32.toNat_add]
    omega
  · exact .inl rfl

theorem eq_of_toLower {c d : Char} (hd : d.toNat < 97) (h : c.toLower = d) : c = d := by
  rcases toLower_cases c with hc | ⟨hlow, -, hc⟩
  · rw [← hc, h]
  · rw [h] at hc
    omega

theorem toLower_toLower (c : Char) : c.toLower.toLower = c.toLower := by
  rcases toLower_cases c with hc | ⟨hlow, hhigh, hc⟩
  · rw [hc, hc]
  · exact (toLower_cases c.toLower).resolve_right fun h => by omega

theorem toLowerCase_toLowerCase (text : List Char) :
    toLowerCase (toLowerCase text) = toLowerCase text := by
  rw [toLowerCase, toLowerCase, List.map_map]
  exact List.map_congr_left fun c _ => toLower_toLower c

theorem isSpace_toLower {c : Char} (h : isSpace c = false) : isSpace c.toLower = false := by
  rcases toLower_cases c with hc | ⟨hlow, hhigh, hc⟩
  · rw [hc, h]
  · simp only [isSpace, List.mem_cons, List.not_mem_nil, or_false, decide_eq_false_iff_not]
    omega

theorem not_mem_toLowerCase {c : Char} (hc : c.toNat < 97) (h : c ∉ text) :
    c ∉ toLowerCase text := by
  intro hmem
  obtain ⟨d, hd, hlower⟩ := List.mem_map.mp hmem
  exact h (eq_of_toLower hc hlower ▸ hd)

theorem HasDomain.toLowerCase (h : HasDomain text domain) :
    HasDomain (Address.toLowerCase text) (Address.toLowerCase domain) where
  shape := by
    obtain ⟨front, hs⟩ := h.shape
    exact ⟨Address.toLowerCase front, by rw [hs]; simp [Address.toLowerCase]⟩
  unclosed := not_mem_toLowerCase (by decide) h.unclosed
  domainChars := by
    intro c hc
    obtain ⟨d, hd, rfl⟩ := List.mem_map.mp hc
    obtain ⟨hat, hspace⟩ := h.domainChars d hd
    exact ⟨fun hlower => hat (eq_of_toLower (by decide) hlower), isSpace_toLower hspace⟩

/-! ## The domain of a mailbox -/

/-- A bracket in a display name is found before the one that opens the address. -/
theorem dropWhile_bracket (name rest : List Char) :
    ∃ extra, (name ++ '<' :: rest).dropWhile (· ≠ '<') = '<' :: (extra ++ rest) ∧
      ∀ c ∈ extra, c ∈ name ∨ c = '<' := by
  induction name with
  | nil => exact ⟨[], rfl, by simp⟩
  | cons c name ih =>
    by_cases hc : c = '<'
    · refine ⟨name ++ ['<'], by simp [hc], fun d hd => ?_⟩
      rcases List.mem_append.mp hd with hd | hd
      · exact .inl (List.mem_cons_of_mem c hd)
      · exact .inr (List.mem_singleton.mp hd)
    · obtain ⟨extra, h, hextra⟩ := ih
      refine ⟨extra, ?_, fun d hd => (hextra d hd).imp_left (List.mem_cons_of_mem c)⟩
      rw [List.cons_append, List.dropWhile_cons_of_pos (by simp [hc]), h]

/-- The bracketed part of a mailbox ends in the address that stands in its brackets. -/
theorem bracketed_mailbox (front : List Char) {address : List Char} (hne : address ≠ [])
    (hunclosed : '>' ∉ address) :
    ∃ extra, bracketed (front ++ '<' :: (address ++ ['>'])) = some (extra ++ address) ∧
      '>' ∉ extra := by
  have hrev : (front ++ '<' :: (address ++ ['>'])).reverse =
      '>' :: (address.reverse ++ '<' :: front.reverse) := by simp
  have hclose : ∀ c ∈ address.reverse, decide (c ≠ '>') = true := fun c hc =>
    decide_eq_true fun heq => hunclosed (heq ▸ List.mem_reverse.mp hc)
  have htake : (address.reverse ++ '<' :: front.reverse).takeWhile (· ≠ '>') =
      address.reverse ++ '<' :: front.reverse.takeWhile (· ≠ '>') := by
    rw [List.takeWhile_append_of_pos hclose, List.takeWhile_cons_of_pos (by decide)]
  obtain ⟨extra, hdrop, hextra⟩ :=
    dropWhile_bracket (front.reverse.takeWhile (· ≠ '>')).reverse address
  obtain ⟨c, inner, hinner⟩ := List.exists_cons_of_ne_nil
    (List.append_ne_nil_of_right_ne_nil extra hne)
  refine ⟨extra, ?_, fun hmem => ?_⟩
  · rw [bracketed, hrev]
    simp only [htake, List.reverse_append, List.reverse_reverse, List.reverse_cons,
      List.append_assoc, List.singleton_append, hdrop, hinner]
  · rcases hextra _ hmem with hmem | hmem
    · simpa using List.mem_takeWhile_imp (List.mem_reverse.mp hmem)
    · exact absurd hmem (by decide)

theorem trim_mailbox (front address : List Char) :
    trim (front ++ '<' :: (address ++ ['>'])) =
      front.dropWhile isSpace ++ '<' :: (address ++ ['>']) := by
  have hstart : (front ++ '<' :: (address ++ ['>'])).dropWhile isSpace =
      front.dropWhile isSpace ++ '<' :: (address ++ ['>']) := by
    rw [List.dropWhile_append]
    split
    · next h =>
      rw [List.isEmpty_iff.mp h, List.nil_append, List.dropWhile_cons_of_neg (by decide)]
    · rfl
  rw [trim, hstart, ← List.cons_append, ← List.append_assoc,
    reverse_dropWhile_isSpace_concat (by decide)]

/-- What is read from a mailbox has the domain of the address in its brackets, whatever stands
before them. -/
theorem HasDomain.extractAddress_mailbox (h : HasDomain text domain) (front : List Char) :
    HasDomain (extractAddress (front ++ '<' :: (text ++ ['>'])))
      (Address.toLowerCase domain) := by
  have hne : text ≠ [] := by
    obtain ⟨start, hs⟩ := h.shape
    rw [hs]
    simp
  obtain ⟨extra, hbracketed, hextra⟩ :=
    bracketed_mailbox (front.dropWhile isSpace) hne h.unclosed
  rw [extractAddress, trim_mailbox, hbracketed, Option.getD_some]
  exact (h.append hextra).trim.toLowerCase

theorem bracketed_eq_none (h : '>' ∉ text) : bracketed text = none := by
  rw [bracketed]
  split
  · next before heq =>
    exact absurd (List.mem_reverse.mp (heq ▸ List.mem_cons_self)) h
  · rfl

theorem HasDomain.extractAddress (h : HasDomain text domain) :
    HasDomain (Address.extractAddress text) (Address.toLowerCase domain) := by
  rw [Address.extractAddress, bracketed_eq_none h.trim.unclosed]
  exact h.trim.toLowerCase

theorem formatAddress_bare (address : String) :
    formatAddress ⟨address, none⟩ = trim address.toList := by
  have hname : trim (joinLines false "".toList) = [] := by decide
  simp only [formatAddress, Option.getD_none, hname, if_true]

/-- **Display names do not hide the domain.** What is read back from a formatted address has the
domain of the address. -/
theorem extractAddress_formatAddress {a : EmailAddress} (h : HasDomain a.address.toList domain) :
    HasDomain (extractAddress (formatAddress a)) (toLowerCase domain) := by
  simp only [formatAddress]
  split
  · exact h.trim.extractAddress
  · rw [List.append_assoc _ _ ['>'], List.cons_append]
    exact h.trim.extractAddress_mailbox _

theorem addressDomain_formatAddress {a : EmailAddress} (h : HasDomain a.address.toList domain) :
    addressDomain (formatAddress a) = toLowerCase domain :=
  (extractAddress_formatAddress h).afterLastAt

end SesEmailAdapter.Email.Address
