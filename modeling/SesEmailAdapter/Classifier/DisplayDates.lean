import SesEmailAdapter.Email.Address
import SesEmailAdapter.Lib.CivilDate
import SesEmailAdapter.Lib.TextMatch

/-! # Display dates

A date of a mail is stored as a text of its own: the date, with the time of day if one was written,
with the offset if one was written. A date without a year is that of the next such day. -/

namespace SesEmailAdapter.Classifier.DisplayDates
open Lib.CivilDate Lib.TextMatch
open Email.Address (isSpace)

/-! ## Values of the date library -/

/-- A valid date and time, with the minutes of its offset. -/
structure DateTime where
  time : LocalTime
  offset : Int
deriving DecidableEq, Repr

def DateTime.instant (dt : DateTime) : Int := dt.time.instant dt.offset

/-- `DateTime.fromObject` of a date; the process runs in UTC. -/
def fromObject (year : Int) (month day : Nat) : Option Date :=
  if (⟨year, month, day⟩ : Date).Valid then some ⟨year, month, day⟩ else none

def padStart (width n : Nat) : List Char := (Nat.toDigits 10 n).leftpad width '0'

def yearText (year : Int) : List Char :=
  if year < 0 then '-' :: padStart 4 year.natAbs else padStart 4 year.natAbs

/-- `yyyy-MM-dd` -/
def dateText (date : Date) : List Char :=
  yearText date.year ++ '-' :: padStart 2 date.month ++ '-' :: padStart 2 date.day

/-- `HH:mm` -/
def clockText (time : LocalTime) : List Char :=
  padStart 2 time.hour ++ ':' :: padStart 2 time.minute

/-- `ZZ` -/
def offsetText (offset : Int) : List Char :=
  (if offset < 0 then '-' else '+') ::
    (padStart 2 (offset.natAbs / 60) ++ ':' :: padStart 2 (offset.natAbs % 60))

def INVALID : List Char := "Invalid DateTime".toList

/-- `toFormat`, of a value that can be invalid. -/
def toFormat {α : Type} (text : α → List Char) : Option α → List Char
  | none => INVALID
  | some value => text value

theorem ofDigitChars_padStart (width n : Nat) : Nat.ofDigitChars 10 (padStart width n) 0 = n := by
  unfold padStart
  rw [List.leftpad, Nat.ofDigitChars_append, Nat.ofDigitChars_replicate_zero, Nat.mul_zero]
  exact Nat.ofDigitChars_ten_toDigits

theorem isDigit_of_mem_padStart {width n : Nat} {c : Char} (h : c ∈ padStart width n) :
    c.isDigit = true := by
  unfold padStart at h
  rw [List.leftpad] at h
  rcases List.mem_append.mp h with hzero | hdigit
  · obtain ⟨-, rfl⟩ := List.mem_replicate.mp hzero
    rfl
  · exact Nat.isDigit_of_mem_toDigits (by decide) (by decide) hdigit

theorem length_padStart_two {n : Nat} (h : n < 100) : (padStart 2 n).length = 2 := by
  have hdigits : (Nat.toDigits 10 n).length ≤ 2 :=
    (Nat.length_toDigits_le_iff (by decide) (by decide)).mpr h
  unfold padStart
  rw [List.leftpad, List.length_append, List.length_replicate]
  omega

theorem not_mem_dateText (date : Date) : 'T' ∉ dateText date := by
  have hdigit {width n : Nat} : 'T' ∉ padStart width n := fun hmem =>
    absurd (isDigit_of_mem_padStart hmem) (by decide)
  have hyear : 'T' ∉ yearText date.year := by
    unfold yearText
    split
    · simpa using hdigit
    · exact hdigit
  simp [dateText, hyear, hdigit]

/-! ## The display format -/

def isLineEnd (c : Char) : Bool := c.toNat ∈ [0xA, 0xD, 0x2028, 0x2029]

/-- `/T.+$/i` -/
def lineFromT : List Char → Bool
  | t :: between =>
    (t = 'T' || t = 't') && between ≠ [] && between.all fun c => !isLineEnd c
  | [] => false

/-- `/T.+Z$/i` -/
def endsInZulu (input : List Char) : Bool :=
  match input.reverse with
  | z :: before => (z = 'Z' || z = 'z') && somewhere lineFromT before.reverse
  | [] => false

/-- `/[+-]\d{2}:\d{2}$/` -/
def endsInOffset (input : List Char) : Bool :=
  match input.reverse with
  | d :: c :: ':' :: b :: a :: sign :: _ =>
    (sign = '+' || sign = '-') && a.isDigit && b.isDigit && c.isDigit && d.isDigit
  | _ => false

/-- `/[+-]\d{4}$/` -/
def endsInCompactOffset (input : List Char) : Bool :=
  match input.reverse with
  | d :: c :: b :: a :: sign :: _ =>
    (sign = '+' || sign = '-') && a.isDigit && b.isDigit && c.isDigit && d.isDigit
  | _ => false

def hasExplicitOffset (input : List Char) : Bool :=
  endsInZulu input || endsInOffset input || endsInCompactOffset input

/-- `/T\d{2}:\d{2}/` -/
def isoTimeHere : List Char → Bool
  | t :: a :: b :: colon :: c :: d :: _ =>
    t = 'T' && a.isDigit && b.isDigit && colon = ':' && c.isDigit && d.isDigit
  | _ => false

/-- `/\s\d{1,2}:\d{2}/` -/
def spacedTimeHere : List Char → Bool
  | s :: a :: ':' :: c :: d :: _ => isSpace s && a.isDigit && c.isDigit && d.isDigit
  | s :: a :: b :: ':' :: c :: d :: _ =>
    isSpace s && a.isDigit && b.isDigit && c.isDigit && d.isDigit
  | _ => false

def hasTimeComponent (input : List Char) : Bool :=
  somewhere isoTimeHere input || somewhere spacedTimeHere input

def formatDisplayDate (dt : Option DateTime) (originalInput : List Char) (hasTime : Option Bool) :
    List Char :=
  let inputHasTime := hasTime.getD (hasTimeComponent originalInput)
  let date := toFormat (fun value => dateText value.time.date) dt
  let clock := toFormat (fun value => clockText value.time) dt
  if inputHasTime && hasExplicitOffset originalInput then
    date ++ 'T' :: clock ++ toFormat (fun value => offsetText value.offset) dt
  else if inputHasTime then date ++ 'T' :: clock
  else date

/-! ## Dates without a year -/

/-- An instant, as a time in UTC. -/
structure Received where
  time : LocalTime
  valid : time.date.Valid
  inDay : time.millis < DAY

def Received.year (receivedAt : Received) : Int := receivedAt.time.date.year

def Received.instant (receivedAt : Received) : Int := receivedAt.time.instant 0

/-- The day begins after the mail was received. -/
def Received.Before (receivedAt : Received) (date : Date) : Prop :=
  receivedAt.instant < date.midnight.instant 0

instance (receivedAt : Received) (date : Date) : Decidable (receivedAt.Before date) :=
  inferInstanceAs (Decidable (_ < _))

def resolveYearFree (month day : Nat) (receivedAt : Received) : Option Date :=
  let candidate := fromObject receivedAt.year month day
  if candidate.any fun date => receivedAt.Before date then candidate
  else fromObject (receivedAt.year + 1) month day

/-- The first such day of the calendar that begins after the mail was received. -/
structure NextAfter (receivedAt : Received) (month day : Nat) (date : Date) : Prop where
  valid : date.Valid
  month_eq : date.month = month
  day_eq : date.day = day
  after : receivedAt.Before date
  earliest : ∀ other : Date, other.Valid → other.month = month → other.day = day →
    receivedAt.Before other → date.year ≤ other.year

/-- The day is still to come in the year of receipt, or the year after has it. -/
def Comes (receivedAt : Received) (month day : Nat) : Prop :=
  ((⟨receivedAt.year, month, day⟩ : Date).Valid ∧
      receivedAt.Before ⟨receivedAt.year, month, day⟩) ∨
    (⟨receivedAt.year + 1, month, day⟩ : Date).Valid

section YearFree
variable {receivedAt : Received} {month day : Nat} {date : Date}

theorem fromObject_eq_some {year : Int} : fromObject year month day = some date ↔
    date = ⟨year, month, day⟩ ∧ date.Valid := by
  unfold fromObject
  split
  · next hvalid =>
    constructor
    · intro h
      obtain rfl := Option.some.inj h
      exact ⟨rfl, hvalid⟩
    · rintro ⟨rfl, -⟩
      rfl
  · next hinvalid =>
    constructor
    · intro h
      cases h
    · rintro ⟨rfl, hvalid⟩
      exact absurd hvalid hinvalid

theorem resolveYearFree_eq_some (h : resolveYearFree month day receivedAt = some date) :
    date.Valid ∧ date.month = month ∧ date.day = day := by
  simp only [resolveYearFree] at h
  split at h
  · obtain ⟨rfl, hvalid⟩ := fromObject_eq_some.mp h
    exact ⟨hvalid, rfl, rfl⟩
  · obtain ⟨rfl, hvalid⟩ := fromObject_eq_some.mp h
    exact ⟨hvalid, rfl, rfl⟩

theorem dayNumber_lt_of_before (h : receivedAt.Before date) :
    receivedAt.time.date.dayNumber < date.dayNumber := by
  simp only [Received.Before, Received.instant, LocalTime.instant, Date.midnight, DAY] at h
  omega

/-- A day that is still to come is not in an earlier year. -/
theorem year_le_of_before (hvalid : date.Valid) (h : receivedAt.Before date) :
    receivedAt.year ≤ date.year := by
  rcases Int.lt_or_le date.year receivedAt.year with hlt | hle
  · have hearlier := Date.dayNumber_lt_of_year_lt hvalid receivedAt.valid hlt
    have hlater := dayNumber_lt_of_before h
    omega
  · exact hle

theorem before_of_later_year (hvalid : date.Valid) (h : receivedAt.year < date.year) :
    receivedAt.Before date := by
  have hlater := Date.dayNumber_lt_of_year_lt receivedAt.valid hvalid h
  have hday := receivedAt.inDay
  simp only [Received.Before, Received.instant, LocalTime.instant, Date.midnight, DAY] at hday ⊢
  omega

theorem resolveYearFree_next (h : Comes receivedAt month day) :
    ∃ date, resolveYearFree month day receivedAt = some date ∧
      NextAfter receivedAt month day date := by
  unfold resolveYearFree
  by_cases hthis : (⟨receivedAt.year, month, day⟩ : Date).Valid ∧
      receivedAt.Before ⟨receivedAt.year, month, day⟩
  · have hcandidate : fromObject receivedAt.year month day = some ⟨receivedAt.year, month, day⟩ :=
      fromObject_eq_some.mpr ⟨rfl, hthis.1⟩
    refine ⟨⟨receivedAt.year, month, day⟩, ?_, hthis.1, rfl, rfl, hthis.2, ?_⟩
    · simp [hcandidate, hthis.2]
    · intro other hvalid _ _ hbefore
      exact year_le_of_before hvalid hbefore
  · have hnext := h.resolve_left hthis
    have hafter := before_of_later_year hnext (Int.lt_succ receivedAt.year)
    refine ⟨⟨receivedAt.year + 1, month, day⟩, ?_, hnext, rfl, rfl, hafter, ?_⟩
    · have hpast : ((fromObject receivedAt.year month day).any
          fun date => receivedAt.Before date) = false := by
        cases hcandidate : fromObject receivedAt.year month day with
        | none => rfl
        | some candidate =>
          obtain ⟨rfl, hvalid⟩ := fromObject_eq_some.mp hcandidate
          simpa using fun hbefore => hthis ⟨hvalid, hbefore⟩
      simp only [hpast]
      exact fromObject_eq_some.mpr ⟨rfl, hnext⟩
    · intro other hvalid hmonth hday hbefore
      have hyear := year_le_of_before hvalid hbefore
      have hne : other.year ≠ receivedAt.year := by
        intro heq
        have hother : other = ⟨receivedAt.year, month, day⟩ := by
          cases other
          simp_all
        rw [hother] at hvalid hbefore
        exact hthis ⟨hvalid, hbefore⟩
      show receivedAt.year + 1 ≤ other.year
      omega

end YearFree

end SesEmailAdapter.Classifier.DisplayDates
