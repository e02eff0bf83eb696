import Mathlib.Init

/-! # Dates of the calendar

Years, months and days of the Gregorian calendar, extended to all years, and the count of days that
orders them. A time of a day is in milliseconds, and has an instant once it has an offset. -/

namespace SesEmailAdapter.Lib.CivilDate

structure Date where
  year : Int
  month : Nat
  day : Nat
deriving DecidableEq, Repr

def isLeapYear (year : Int) : Bool := year % 4 = 0 && (year % 100 ≠ 0 || year % 400 = 0)

def daysInMonth (year : Int) (month : Nat) : Nat :=
  if month = 2 then if isLeapYear year then 29 else 28
  else if month = 4 ∨ month = 6 ∨ month = 9 ∨ month = 11 then 30
  else 31

/-- The calendar has the date. -/
structure Date.Valid (date : Date) : Prop where
  month_pos : 1 ≤ date.month
  month_le : date.month ≤ 12
  day_pos : 1 ≤ date.day
  day_le : date.day ≤ daysInMonth date.year date.month

theorem Date.valid_iff (date : Date) : date.Valid ↔ (1 ≤ date.month ∧ date.month ≤ 12) ∧
    1 ≤ date.day ∧ date.day ≤ daysInMonth date.year date.month := by
  constructor
  · intro h
    exact ⟨⟨h.month_pos, h.month_le⟩, h.day_pos, h.day_le⟩
  · rintro ⟨⟨hpos, hle⟩, hday, hin⟩
    exact ⟨hpos, hle, hday, hin⟩

instance (date : Date) : Decidable date.Valid := decidable_of_iff _ date.valid_iff.symm

/-- The days from the first of January of the year 1 to that of the year. -/
def daysBeforeYear (year : Int) : Int :=
  365 * (year - 1) + (year - 1) / 4 - (year - 1) / 100 + (year - 1) / 400

/-- The days of the months before, counted from January, the first. -/
def daysBeforeMonth (year : Int) : Nat → Nat
  | 0 => 0
  | 1 => 0
  | month + 2 => daysBeforeMonth year (month + 1) + daysInMonth year (month + 1)

/-- The days since the first of January 1970. -/
def Date.dayNumber (date : Date) : Int :=
  daysBeforeYear date.year + daysBeforeMonth date.year date.month + date.day - 719163

def Date.next (date : Date) : Date :=
  if date.day < daysInMonth date.year date.month then { date with day := date.day + 1 }
  else if date.month < 12 then ⟨date.year, date.month + 1, 1⟩
  else ⟨date.year + 1, 1, 1⟩

def Date.addDays (date : Date) : Nat → Date
  | 0 => date
  | days + 1 => (date.addDays days).next

theorem daysInMonth_bounds (year : Int) (month : Nat) :
    28 ≤ daysInMonth year month ∧ daysInMonth year month ≤ 31 := by
  unfold daysInMonth
  split
  · split <;> omega
  · split <;> omega

theorem Date.Valid.day_le_31 {date : Date} (h : date.Valid) : date.day ≤ 31 :=
  Nat.le_trans h.day_le (daysInMonth_bounds _ _).2

theorem Date.Valid.next {date : Date} (h : date.Valid) : date.next.Valid := by
  unfold Date.next
  split
  · next hday => exact ⟨h.month_pos, h.month_le, Nat.le_add_left 1 _, hday⟩
  · split
    · next hmonth =>
      have hbounds := daysInMonth_bounds date.year (date.month + 1)
      exact ⟨Nat.le_add_left 1 _, hmonth, Nat.le_refl 1, by simp; omega⟩
    · exact ⟨Nat.le_refl 1, by simp, Nat.le_refl 1, by simp [daysInMonth]⟩

theorem Date.Valid.addDays {date : Date} (h : date.Valid) (days : Nat) :
    (date.addDays days).Valid := by
  induction days with
  | zero => exact h
  | succ days ih => exact ih.next

/-! ## Order -/

def yearLength (year : Int) : Nat := if isLeapYear year then 366 else 365

theorem daysBeforeYear_succ (year : Int) :
    daysBeforeYear (year + 1) = daysBeforeYear year + yearLength year := by
  unfold daysBeforeYear yearLength isLeapYear
  split
  · next h =>
    simp only [Bool.and_eq_true, Bool.or_eq_true, decide_eq_true_eq] at h
    omega
  · next h =>
    simp only [Bool.and_eq_true, Bool.or_eq_true, decide_eq_true_eq] at h
    omega

theorem daysBeforeYear_le {year later : Int} (h : year < later) :
    daysBeforeYear (year + 1) ≤ daysBeforeYear later := by
  unfold daysBeforeYear
  omega

theorem daysBeforeMonth_add_le (year : Int) {month : Nat} (hpos : 1 ≤ month) (hle : month ≤ 12) :
    daysBeforeMonth year month + daysInMonth year month ≤ yearLength year := by
  have hmonths : month = 1 ∨ month = 2 ∨ month = 3 ∨ month = 4 ∨ month = 5 ∨ month = 6 ∨
      month = 7 ∨ month = 8 ∨ month = 9 ∨ month = 10 ∨ month = 11 ∨ month = 12 := by omega
  cases hleap : isLeapYear year <;>
    rcases hmonths with rfl | rfl | rfl | rfl | rfl | rfl | rfl | rfl | rfl | rfl | rfl | rfl <;>
      simp [daysBeforeMonth, daysInMonth, yearLength, hleap]

/-- A date of an earlier year is earlier. -/
theorem Date.dayNumber_lt_of_year_lt {date other : Date} (h : date.Valid) (h' : other.Valid)
    (hyear : date.year < other.year) : date.dayNumber < other.dayNumber := by
  have hin := daysBeforeMonth_add_le date.year h.month_pos h.month_le
  have hyears := daysBeforeYear_le hyear
  have hlength := daysBeforeYear_succ date.year
  have hday := h.day_le
  have hpos := h'.day_pos
  unfold dayNumber
  omega

/-! ## Times -/

/-- A time of a day, as its milliseconds. -/
structure LocalTime where
  date : Date
  millis : Nat
deriving DecidableEq, Repr

def MINUTE : Nat := 60000

def DAY : Nat := 86400000

def LocalTime.hour (time : LocalTime) : Nat := time.millis / 3600000

def LocalTime.minute (time : LocalTime) : Nat := time.millis / MINUTE % 60

/-- The instant, in milliseconds, of the time at an offset, in minutes. -/
def LocalTime.instant (time : LocalTime) (offset : Int) : Int :=
  time.date.dayNumber * DAY + time.millis - offset * MINUTE

def Date.midnight (date : Date) : LocalTime := ⟨date, 0⟩

/-- The time at which the clock shows the hour and the minute; hours after the last of the day
move it on by days. -/
def LocalTime.setClock (time : LocalTime) (hour minute : Nat) : LocalTime :=
  let minutes := hour * 60 + minute
  ⟨time.date.addDays (minutes / 1440), minutes % 1440 * MINUTE + time.millis % MINUTE⟩

end SesEmailAdapter.Lib.CivilDate
