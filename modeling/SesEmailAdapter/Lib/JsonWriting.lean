import Mathlib
import SesEmailAdapter.Lib.Json

/-! # Writing JSON objects

Objects of texts and natural numbers are written without blanks, and read back as they were. -/

namespace SesEmailAdapter.Lib.Json
open Lib.TextCodec (escape quote hexDigit hexValue)

inductive Scalar
  | text (s : String)
  | number (n : Nat)
deriving DecidableEq, Repr

namespace Scalar

def json : Scalar → Json
  | .text s => .str s
  | .number n => .num ⟨false, n, 0⟩

def write : Scalar → List Char
  | .text s => quote s.toList
  | .number n => Nat.toDigits 10 n

end Scalar

abbrev Member := String × Scalar

def writeMember (member : Member) : List Char :=
  quote member.1.toList ++ ':' :: member.2.write

/-- The members after the first one, and the end of the object. -/
def writeRest : List Member → List Char
  | [] => ['\x7d']
  | member :: members => ',' :: (writeMember member ++ writeRest members)

/-- `JSON.stringify` of an object with at least one member. -/
def writeObject (member : Member) (members : List Member) : String :=
  String.ofList ('\x7b' :: (writeMember member ++ writeRest members))

/-! ## Texts -/

variable {ts : List Token} {units : List Nat}

theorem ofUnits_map_toNat (s : List Char) : ofUnits (s.map Char.toNat) = s := by
  induction s with
  | nil => rfl
  | cons c s ih =>
    have hvalid := c.valid
    have hnat : c.toNat.isValidChar := hvalid
    cases s with
    | nil =>
      show [if c.toNat.isValidChar then Char.ofNat c.toNat else '\uFFFD'] = [c]
      rw [if_pos hnat, Char.ofNat_toNat]
    | cons d s =>
      have hsurrogate : ¬ (0xD800 ≤ c.toNat ∧ c.toNat ≤ 0xDBFF ∧ 0xDC00 ≤ d.toNat ∧
          d.toNat ≤ 0xDFFF) := by
        intro h
        obtain hlow | hhigh := hnat
        · omega
        · omega
      rw [List.map_cons, List.map_cons, ofUnits, if_neg hsurrogate, if_pos hnat, Char.ofNat_toNat]
      exact congrArg (c :: ·) ih

theorem hexNumber_control : ∀ n < 32,
    hexNumber ['0', '0', hexDigit (n / 16), hexDigit (n % 16)] = some n := by decide +kernel

theorem step_string {c : Char} (hquote : c ≠ '"') (hescape : c ≠ '\\')
    (hcontrol : ¬ c.toNat < 0x20) :
    Lexer.step ⟨ts, .string units⟩ c = some ⟨ts, .string (c.toNat :: units)⟩ := by
  simp [Lexer.step, hquote, hescape, hcontrol]

theorem step_backslash (c : Char) :
    ['\\', c].foldlM Lexer.step ⟨ts, .string units⟩ =
      Lexer.step ⟨ts, .escape units⟩ c := by
  simp [Lexer.step]

/-- A character of a string literal, escaped or as it is. -/
theorem read_escape (c : Char) :
    (escape c).foldlM Lexer.step ⟨ts, .string units⟩ =
      some ⟨ts, .string (c.toNat :: units)⟩ := by
  unfold escape
  iterate 7
    split
    case isTrue h =>
      subst h
      rw [step_backslash]
      rfl
  split
  case isTrue hcontrol =>
    have hhex := hexNumber_control c.toNat hcontrol
    simp [Lexer.step, hhex]
  case isFalse hquote hescape _ _ _ _ _ hcontrol =>
    rw [List.foldlM_cons, step_string hquote hescape hcontrol]
    rfl

theorem read_text (s : List Char) :
    (s.flatMap escape).foldlM Lexer.step ⟨ts, .string units⟩ =
      some ⟨ts, .string ((s.map Char.toNat).reverse ++ units)⟩ := by
  induction s generalizing units with
  | nil => rfl
  | cons c s ih =>
    rw [List.flatMap_cons, List.foldlM_append, read_escape]
    show (s.flatMap escape).foldlM Lexer.step ⟨ts, .string (c.toNat :: units)⟩ = _
    rw [ih]
    simp

theorem read_quote (s : String) :
    (quote s.toList).foldlM Lexer.step ⟨ts, .nothing⟩ =
      some ⟨.value (.str s) :: ts, .nothing⟩ := by
  show (s.toList.flatMap escape ++ ['"']).foldlM Lexer.step ⟨ts, .string []⟩ = _
  rw [List.foldlM_append, read_text]
  show some (Lexer.mk (.value (.str (String.ofList (ofUnits
    ((s.toList.map Char.toNat).reverse ++ []).reverse))) :: ts) .nothing) = _
  rw [List.append_nil, List.reverse_reverse, ofUnits_map_toNat, String.ofList_toList]

/-! ## Numbers -/

theorem toDigits_isDigit {n : Nat} : ∀ c ∈ Nat.toDigits 10 n, c.isDigit = true :=
  fun _ hc => Nat.isDigit_of_mem_toDigits (by decide) (by decide) hc

theorem digitChar_eq_zero : ∀ d < 10, Nat.digitChar d = '0' → d = 0 := by decide

/-- Only zero begins with a zero. -/
theorem head_toDigits {n : Nat} (h : (Nat.toDigits 10 n).head? = some '0') : n = 0 := by
  induction n using Nat.strongRecOn with
  | ind n ih =>
    by_cases hlt : n < 10
    · rw [Nat.toDigits_of_lt_base hlt] at h
      exact digitChar_eq_zero n hlt (Option.some.inj h)
    · have hdigits : Nat.toDigits 10 n = Nat.toDigits 10 (n / 10) ++ [(n % 10).digitChar] :=
        Nat.toDigits_of_base_le (by decide) (not_lt.mp hlt)
      rw [hdigits, List.head?_append_of_ne_nil _ Nat.toDigits_ne_nil] at h
      have hzero := ih (n / 10) (by omega) h
      omega

theorem readNumber_toDigits (n : Nat) : readNumber (Nat.toDigits 10 n) = some ⟨false, n, 0⟩ := by
  have hne : Nat.toDigits 10 n ≠ [] := Nat.toDigits_ne_nil
  have hsign : ((Nat.toDigits 10 n).head? == some '-') = false := by
    refine Bool.eq_false_iff.mpr fun hhead => ?_
    have hmem := List.mem_of_head? (eq_of_beq hhead)
    exact absurd (toDigits_isDigit _ hmem) (by decide)
  have htake : (Nat.toDigits 10 n).takeWhile Char.isDigit = Nat.toDigits 10 n :=
    List.takeWhile_eq_self_iff.mpr toDigits_isDigit
  have hdrop : (Nat.toDigits 10 n).dropWhile Char.isDigit = [] :=
    List.dropWhile_eq_nil_iff.mpr toDigits_isDigit
  have hzero : ¬ ((Nat.toDigits 10 n).head? = some '0' ∧ Nat.toDigits 10 n ≠ ['0']) := by
    intro ⟨hhead, hmore⟩
    rw [head_toDigits hhead] at hmore
    exact hmore (Nat.toDigits_zero 10)
  have hvalue : (String.ofList (Nat.toDigits 10 n)).toNat? = some n := by
    rw [← Nat.repr_eq_ofList_toDigits]
    exact Nat.toNat?_repr n
  simp only [readNumber, hsign, Bool.false_eq_true, if_false, htake, hdrop]
  simp only [Option.bind_eq_bind, Option.bind_some, hne, hzero, false_or, reduceCtorEq, if_false,
    Option.getD_none, List.append_nil, hvalue, Option.getD_some, List.length_nil]
  rfl

theorem read_digits {text : List Char} (s : List Char) (hs : ∀ c ∈ s, c.isDigit = true) :
    s.foldlM Lexer.step ⟨ts, .number text⟩ = some ⟨ts, .number (s.reverse ++ text)⟩ := by
  induction s generalizing text with
  | nil => rfl
  | cons c s ih =>
    obtain ⟨hc, hrest⟩ := List.forall_mem_cons.mp hs
    have hstep : Lexer.step ⟨ts, .number text⟩ c = some ⟨ts, .number (c :: text)⟩ := by
      simp [Lexer.step, hc]
    rw [List.foldlM_cons, hstep]
    show s.foldlM Lexer.step ⟨ts, .number (c :: text)⟩ = _
    rw [ih hrest]
    simp

theorem beginToken_digit {c : Char} (h : c.isDigit = true) :
    beginToken ts c = some ⟨ts, .number [c]⟩ := by
  have hne : ∀ d : Char, d.isDigit = false → c ≠ d := fun d hd heq => by
    rw [heq, hd] at h
    cases h
  unfold beginToken
  rw [if_neg (by
      rintro (rfl | rfl | rfl | rfl) <;> cases h),
    if_neg (hne _ (by decide)), if_neg (hne _ (by decide)), if_neg (hne _ (by decide)),
    if_neg (hne _ (by decide)), if_neg (hne _ (by decide)), if_neg (hne _ (by decide)),
    if_neg (hne _ (by decide)), if_pos (.inr h)]

theorem read_number (n : Nat) :
    (Nat.toDigits 10 n).foldlM Lexer.step ⟨ts, .nothing⟩ =
      some ⟨ts, .number (Nat.toDigits 10 n).reverse⟩ := by
  obtain ⟨c, s, hs⟩ := List.exists_cons_of_ne_nil (@Nat.toDigits_ne_nil n 10)
  have hdigits := @toDigits_isDigit n
  rw [hs] at hdigits ⊢
  obtain ⟨hc, hrest⟩ := List.forall_mem_cons.mp hdigits
  have hstep : Lexer.step ⟨ts, .nothing⟩ c = some ⟨ts, .number [c]⟩ := beginToken_digit hc
  rw [List.foldlM_cons, hstep]
  show s.foldlM Lexer.step ⟨ts, .number [c]⟩ = _
  rw [read_digits s hrest, List.reverse_cons]

/-! ## Members -/

/-- A value and the sign behind it. -/
theorem read_scalar (v : Scalar) {c : Char} {token : Token} (hbegin : ∀ ts,
      beginToken ts c = some ⟨token :: ts, .nothing⟩)
    (hc : ¬ (c.isDigit ∨ c ∈ ['.', 'e', 'E', '+', '-'])) :
    (v.write ++ [c]).foldlM Lexer.step ⟨ts, .nothing⟩ =
      some ⟨token :: .value v.json :: ts, .nothing⟩ := by
  rw [List.foldlM_append]
  cases v with
  | text s =>
    rw [Scalar.write, read_quote]
    show [c].foldlM Lexer.step ⟨.value (.str s) :: ts, .nothing⟩ = _
    rw [List.foldlM_cons]
    show (beginToken _ c).bind _ = _
    rw [hbegin]
    rfl
  | number n =>
    rw [Scalar.write, read_number]
    show [c].foldlM Lexer.step ⟨ts, .number (Nat.toDigits 10 n).reverse⟩ = _
    have hstep : Lexer.step ⟨ts, .number (Nat.toDigits 10 n).reverse⟩ c =
        some ⟨token :: .value (.num ⟨false, n, 0⟩) :: ts, .nothing⟩ := by
      simp only [Lexer.step, if_neg hc, Lexer.close, List.reverse_reverse, readNumber_toDigits,
        Option.map_some, Option.bind_some, hbegin]
    rw [List.foldlM_cons, hstep]
    rfl

def restTokens : List Member → List Token
  | [] => [.closeObject]
  | member :: members =>
    .comma :: .value (.str member.1) :: .colon :: .value member.2.json :: restTokens members

/-- The name of a member, up to its colon. -/
theorem read_name (name : String) :
    (quote name.toList ++ [':']).foldlM Lexer.step ⟨ts, .nothing⟩ =
      some ⟨.colon :: .value (.str name) :: ts, .nothing⟩ :=
  read_scalar (.text name) (fun _ => rfl) (by decide)

/-- A value, and the members behind it. -/
theorem read_rest (v : Scalar) (members : List Member) :
    (v.write ++ writeRest members).foldlM Lexer.step ⟨ts, .nothing⟩ =
      some ⟨(restTokens members).reverse ++ .value v.json :: ts, .nothing⟩ := by
  induction members generalizing v ts with
  | nil => exact read_scalar v (fun _ => rfl) (by decide)
  | cons member members ih =>
    have hsplit : v.write ++ writeRest (member :: members) =
        (v.write ++ [',']) ++ ((quote member.1.toList ++ [':']) ++
          (member.2.write ++ writeRest members)) := by
      simp [writeRest, writeMember]
    rw [hsplit, List.foldlM_append, read_scalar v (fun _ => rfl) (by decide)]
    show List.foldlM Lexer.step ⟨.comma :: .value v.json :: ts, .nothing⟩ _ = _
    rw [List.foldlM_append, read_name]
    show List.foldlM Lexer.step
      ⟨.colon :: .value (.str member.1) :: .comma :: .value v.json :: ts, .nothing⟩ _ = _
    rw [ih]
    simp [restTokens]

theorem tokens_writeObject (member : Member) (members : List Member) :
    tokens (writeObject member members) =
      some (.openObject :: .value (.str member.1) :: .colon :: .value member.2.json ::
        restTokens members) := by
  have hsplit : (writeObject member members).toList =
      ['\x7b'] ++ ((quote member.1.toList ++ [':']) ++ (member.2.write ++ writeRest members)) := by
    simp [writeObject, writeMember]
  have hopen : ['\x7b'].foldlM Lexer.step ⟨[], .nothing⟩ = some ⟨[.openObject], .nothing⟩ := rfl
  rw [tokens, hsplit, List.foldlM_append, hopen]
  show ((List.foldlM Lexer.step ⟨[.openObject], .nothing⟩ _).bind _).map _ = _
  rw [List.foldlM_append, read_name]
  show ((List.foldlM Lexer.step ⟨[.colon, .value (.str member.1), .openObject], .nothing⟩
    _).bind _).map _ = _
  rw [read_rest]
  simp [Lexer.close]

/-! ## Objects -/

def pairOf (member : Member) : String × Json := (member.1, member.2.json)

theorem build_rest (members : List Member) (pairs : List (String × Json)) (key : String) :
    (restTokens members).foldlM Builder.step ⟨[.object pairs key], .commaOrClose⟩ =
      some ⟨[], .done (.obj ((members.map pairOf).reverse ++ pairs))⟩ := by
  induction members generalizing pairs key with
  | nil => rfl
  | cons member members ih =>
    show (restTokens members).foldlM Builder.step
      ⟨[.object (pairOf member :: pairs) member.1], .commaOrClose⟩ = _
    rw [ih]
    simp

/-- **An object that was written is read back**, its last member first. -/
theorem parse_writeObject (member : Member) (members : List Member) :
    parse (writeObject member members) =
      some (.obj (((member :: members).map pairOf).reverse)) := by
  have hbuild : (Token.openObject :: .value (.str member.1) :: .colon :: .value member.2.json ::
      restTokens members).foldlM Builder.step ⟨[], .value⟩ =
        some ⟨[], .done (.obj ((members.map pairOf).reverse ++ [pairOf member]))⟩ :=
    build_rest members [pairOf member] member.1
  rw [parse, tokens_writeObject]
  simp only [Option.bind_eq_bind, Option.bind_some, hbuild, List.map_cons, List.reverse_cons]

end SesEmailAdapter.Lib.Json
