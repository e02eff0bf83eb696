import Mathlib.Init

/-! # Texts of code units

A text as the list of its sixteen-bit code units, where a character outside the basic plane is a
pair of surrogates and a surrogate can stand alone. Its length in UTF-8 counts every lone surrogate
as the replacement character. -/

namespace SesEmailAdapter.Lib.Utf16

abbrev Text := List UInt16

def isHigh (u : UInt16) : Bool := 0xD800 ≤ u && u < 0xDC00

def isLow (u : UInt16) : Bool := 0xDC00 ≤ u && u < 0xE000

/-- The bytes of a unit that is no part of a pair. -/
def unitBytes (u : UInt16) : Nat := if u < 0x80 then 1 else if u < 0x800 then 2 else 3

def byteLength : Text → Nat
  | [] => 0
  | [u] => unitBytes u
  | u :: v :: rest =>
    if isHigh u && isLow v then 4 + byteLength rest else unitBytes u + byteLength (v :: rest)

/-- The units of a text without surrogates that are written as characters. -/
def ofString (s : String) : Text := s.toList.map fun c => UInt16.ofNat c.toNat

/-- `text.slice(0, cut)`: a negative position counts from the end. -/
def sliceTo (text : Text) (cut : Int) : Text :=
  if cut < 0 then text.take (text.length + cut).toNat else text.take cut.toNat

/-- The last position of the unit that is not after `position`. -/
def lastAt (u : UInt16) (text : Text) : Nat → Option Nat
  | 0 => if text[0]? = some u then some 0 else none
  | position + 1 =>
    if text[position + 1]? = some u then some (position + 1) else lastAt u text position

/-- `text.lastIndexOf(u, position)` -/
def lastIndexOf (u : UInt16) (text : Text) (position : Int) : Int :=
  match lastAt u text position.toNat with
  | some i => i
  | none => -1

/-- The character of a unit that is no surrogate. -/
def unitChar (u : UInt16) : Char := Char.ofNat u.toNat

/-- The character of a surrogate pair. -/
def pairChar (u v : UInt16) : Char :=
  Char.ofNat (0x10000 + (u.toNat - 0xD800) * 0x400 + (v.toNat - 0xDC00))

/-- The characters of a text, if no surrogate stands alone. -/
def characters : Text → Option (List Char)
  | [] => some []
  | [u] => if isHigh u || isLow u then none else some [unitChar u]
  | u :: v :: rest =>
    if isHigh u then
      if isLow v then (characters rest).map (pairChar u v :: ·) else none
    else if isLow u then none
    else (characters (v :: rest)).map (unitChar u :: ·)

def isWellFormed (text : Text) : Bool := (characters text).isSome

theorem unitBytes_le (u : UInt16) : unitBytes u ≤ 3 := by
  unfold unitBytes
  split
  · omega
  · split <;> omega

/-- A text takes no more bytes than one that it begins. -/
theorem byteLength_le_of_prefix : ∀ {a b : Text}, a <+: b → byteLength a ≤ byteLength b
  | [], _, _ => Nat.zero_le _
  | [u], b, h => by
    obtain ⟨rest, rfl⟩ := h
    cases rest with
    | nil => exact Nat.le_refl _
    | cons v rest =>
      have hunit := unitBytes_le u
      simp only [List.cons_append, List.nil_append, byteLength]
      split <;> omega
  | u :: v :: a, b, h => by
    obtain ⟨rest, rfl⟩ := h
    have hrest : byteLength a ≤ byteLength (a ++ rest) :=
      byteLength_le_of_prefix (List.prefix_append a rest)
    have hcons : byteLength (v :: a) ≤ byteLength (v :: a ++ rest) :=
      byteLength_le_of_prefix (List.prefix_append (v :: a) rest)
    simp only [List.cons_append, byteLength] at hcons ⊢
    split <;> omega

theorem byteLength_take_le (text : Text) {i j : Nat} (h : i ≤ j) :
    byteLength (text.take i) ≤ byteLength (text.take j) :=
  byteLength_le_of_prefix (List.take_prefix_take_left h)

@[simp] theorem sliceTo_natCast (text : Text) (cut : Nat) : sliceTo text cut = text.take cut := by
  rw [sliceTo, if_neg (by omega), Int.toNat_natCast]

theorem sliceTo_prefix (text : Text) (cut : Int) : sliceTo text cut <+: text := by
  unfold sliceTo
  split
  · exact List.take_prefix _ _
  · exact List.take_prefix _ _

section LastIndex
variable {u : UInt16} {text : Text} {position : Nat}

theorem lastIndexOf_of_none {position : Int} (h : lastAt u text position.toNat = none) :
    lastIndexOf u text position = -1 := by
  rw [lastIndexOf, h]

theorem lastIndexOf_of_some {position : Int} {i : Nat}
    (h : lastAt u text position.toNat = some i) : lastIndexOf u text position = i := by
  rw [lastIndexOf, h]

theorem lastAt_eq_none (h : lastAt u text position = none) :
    ∀ j ≤ position, text[j]? ≠ some u := by
  induction position with
  | zero =>
    intro j hj
    obtain rfl := Nat.le_zero.mp hj
    simpa [lastAt] using h
  | succ position ih =>
    simp only [lastAt] at h
    split at h
    · cases h
    · next hnot =>
      intro j hj
      obtain rfl | hlt := Nat.eq_or_lt_of_le hj
      · exact hnot
      · exact ih h j (by omega)

theorem lastAt_eq_some {i : Nat} (h : lastAt u text position = some i) :
    i ≤ position ∧ text[i]? = some u ∧ ∀ j, i < j → j ≤ position → text[j]? ≠ some u := by
  induction position with
  | zero =>
    simp only [lastAt] at h
    split at h
    · next hat =>
      obtain rfl := Option.some.inj h
      exact ⟨Nat.le_refl _, hat, fun j hlt hle => by omega⟩
    · cases h
  | succ position ih =>
    simp only [lastAt] at h
    split at h
    · next hat =>
      obtain rfl := Option.some.inj h
      exact ⟨Nat.le_refl _, hat, fun j hlt hle => by omega⟩
    · next hnot =>
      obtain ⟨hle, hat, hafter⟩ := ih h
      refine ⟨by omega, hat, fun j hlt hj => ?_⟩
      obtain rfl | hj := Nat.eq_or_lt_of_le hj
      · exact hnot
      · exact hafter j hlt (by omega)

end LastIndex

section Characters
variable {f : UInt16 → UInt16}

/-- Units may be replaced by units that are the same kind of surrogate, or none like them. -/
theorem isWellFormed_map (hhigh : ∀ u, isHigh (f u) = isHigh u) (hlow : ∀ u, isLow (f u) = isLow u)
    (text : Text) : isWellFormed (text.map f) = isWellFormed text := by
  unfold isWellFormed
  induction text using characters.induct with
  | case1 => rfl
  | case2 u hu => simp [characters, hhigh, hlow, hu]
  | case3 u hu => simp [characters, hhigh, hlow, hu]
  | case4 u v rest hu hv ih => simpa [characters, hhigh, hlow, hu, hv] using ih
  | case5 u v rest hu hv => simp [characters, hhigh, hlow, hu, hv]
  | case6 u v rest hu hu' => simp [characters, hhigh, hlow, hu, hu']
  | case7 u v rest hu hu' ih =>
    simp only [List.map_cons] at ih
    simpa [characters, hhigh, hlow, hu, hu'] using ih

theorem not_surrogate_of_lt {u : UInt16} (h : u < 0xD800) : isHigh u = false ∧ isLow u = false := by
  have hlt : u.toNat < 0xD800 := UInt16.lt_iff_toNat_lt.mp h
  have hhigh : ¬ (0xD800 : UInt16) ≤ u := fun hle => by
    have hle : 0xD800 ≤ u.toNat := UInt16.le_iff_toNat_le.mp hle
    omega
  have hlow : ¬ (0xDC00 : UInt16) ≤ u := fun hle => by
    have hle : 0xDC00 ≤ u.toNat := UInt16.le_iff_toNat_le.mp hle
    omega
  simp [isHigh, isLow, hhigh, hlow]

/-- A text whose units are all below the surrogates is well formed. -/
theorem isWellFormed_of_lt {text : Text} (h : ∀ u ∈ text, u < 0xD800) :
    isWellFormed text = true := by
  unfold isWellFormed
  induction text with
  | nil => rfl
  | cons u rest ih =>
    obtain ⟨hhigh, hlow⟩ := not_surrogate_of_lt (h u List.mem_cons_self)
    cases rest with
    | nil => simp [characters, hhigh, hlow]
    | cons v rest =>
      simpa [characters, hhigh, hlow] using ih fun w hw => h w (List.mem_cons_of_mem u hw)

/-- Units below the surrogates may follow any text. -/
theorem isWellFormed_append_of_lt {more : Text} (h : ∀ u ∈ more, u < 0xD800) (text : Text) :
    isWellFormed (text ++ more) = isWellFormed text := by
  have hmore : (characters more).isSome = true := isWellFormed_of_lt h
  unfold isWellFormed
  induction text using characters.induct with
  | case1 => rw [List.nil_append, hmore, characters, Option.isSome_some]
  | case2 u hu =>
    cases more with
    | nil => rfl
    | cons v more =>
      obtain ⟨-, hlow⟩ := not_surrogate_of_lt (h v List.mem_cons_self)
      rw [Bool.or_eq_true] at hu
      rcases hu with hu | hu
      · simp [characters, hu, hlow]
      · simp [characters, hu, hlow]
  | case3 u hu =>
    obtain ⟨hhigh, hlow⟩ := Bool.or_eq_false_iff.mp (Bool.eq_false_iff.mpr hu)
    cases more with
    | nil => rfl
    | cons v more => simpa [characters, hhigh, hlow] using hmore
  | case4 u v rest hu hv ih => simpa [characters, hu, hv] using ih
  | case5 u v rest hu hv => simp [characters, hu, hv]
  | case6 u v rest hu hu' => simp [characters, hu, hu']
  | case7 u v rest hu hu' ih =>
    simp only [List.cons_append] at ih
    simpa [characters, hu, hu'] using ih

end Characters

end SesEmailAdapter.Lib.Utf16
