import SesEmailAdapter.Classifier.CoerceWorkflowData
import SesEmailAdapter.Classifier.DisplayDates

/-! # Dates with slashes

A date of numbers with slashes is read where two numbers stand at the two sides of a slash for the
first time, with at most two digits of each. A number above twelve is the day, and the setting of
the account decides between two small ones. -/

namespace SesEmailAdapter.Classifier.SlashDates
open Lib.CivilDate Lib.TextMatch
open Classifier.CoerceWorkflowData (AmbiguousDateFormat)
open Classifier.DisplayDates
open Email.Address (isSpace)

/-! ## Patterns -/

structure SlashNumbers where
  first : List Char
  second : List Char
  year : Option (List Char)
deriving DecidableEq, Repr

/-- `(?:\/(\d{2,4}))?` -/
def yearAfter : List Char → Option (List Char)
  | '/' :: rest =>
    let year := (rest.takeWhile Char.isDigit).take 4
    if 2 ≤ year.length then some year else none
  | _ => none

def numbersAfter (first rest : List Char) : Option SlashNumbers :=
  let second := (rest.takeWhile Char.isDigit).take 2
  if second = [] then none else some ⟨first, second, yearAfter (rest.drop second.length)⟩

/-- `/(\d{1,2})\/(\d{1,2})(?:\/(\d{2,4}))?/` at the start of the text -/
def slashHere : List Char → Option SlashNumbers
  | a :: '/' :: rest => if a.isDigit then numbersAfter [a] rest else none
  | a :: b :: '/' :: rest => if a.isDigit && b.isDigit then numbersAfter [a, b] rest else none
  | _ => none

/-- `SLASH_DATE_COMPONENTS` -/
def slashDateComponents : List Char → Option SlashNumbers := firstMatch slashHere

/-- `Number` of digits. -/
def number (digits : List Char) : Nat := Nat.ofDigitChars 10 digits 0

/-- `/(\d{1,2}):(\d{2})/`, with the text behind it -/
def clockHere : List Char → Option (Nat × Nat × List Char)
  | a :: ':' :: c :: d :: rest =>
    if a.isDigit && c.isDigit && d.isDigit then some (number [a], number [c, d], rest) else none
  | a :: b :: ':' :: c :: d :: rest =>
    if a.isDigit && b.isDigit && c.isDigit && d.isDigit then
      some (number [a, b], number [c, d], rest)
    else none
  | _ => none

/-- `/(\d{1,2}):(\d{2})\s*([ap])\.?\s*m\.?/i`, with whether it is `p` -/
def meridiemHere (text : List Char) : Option (Nat × Nat × Bool) := do
  let (hour, minute, rest) ← clockHere text
  match rest.dropWhile isSpace with
  | [] => none
  | letter :: rest =>
    let rest := if rest.head? = some '.' then rest.tail else rest
    match (rest.dropWhile isSpace).head? with
    | none => none
    | some m =>
      if letter.toLower ∈ ['a', 'p'] ∧ m.toLower = 'm' then
        some (hour, minute, decide (letter.toLower = 'p'))
      else none

/-- The hour and the minute, if a time stands anywhere in the text. -/
def slashTime (input : List Char) : Option (Nat × Nat) :=
  match firstMatch meridiemHere input with
  | some (hour, minute, afternoon) => some (hour % 12 + if afternoon then 12 else 0, minute)
  | none => (firstMatch clockHere input).map fun (hour, minute, _) => (hour, minute)

/-! ## Coercion -/

/-- The month and the day of two numbers. -/
def monthAndDay (format : AmbiguousDateFormat) (first second : Nat) : Option (Nat × Nat) :=
  if first > 12 ∧ second ≤ 12 then some (second, first)
  else if second > 12 ∧ first ≤ 12 then some (first, second)
  else if first > 12 ∧ second > 12 then none
  else match format with
    | .skip => none
    | .monthThenDay => some (first, second)
    | .dayThenMonth => some (second, first)

def slashYear (digits : List Char) : Nat :=
  if digits.length = 2 then 2000 + number digits else number digits

/-- `DateTime.fromObject` takes the hour 24 for the end of the day. -/
def clockValid (hour minute : Nat) : Bool :=
  (hour < 24 && minute < 60) || (hour = 24 && minute = 0)

/-- The date with the time, if there is one. -/
def atClock (date : Date) (clock : Option (Nat × Nat)) : LocalTime :=
  match clock with
  | none => date.midnight
  | some (hour, minute) => date.midnight.setClock hour minute

/-- The date of a month and a day, which is invalid with a time that no day has. -/
def slashDate (receivedAt : Received) (clock : Option (Nat × Nat)) (month day : Nat) :
    Option (List Char) → Option Date
  | some year =>
    if clock.all fun time => clockValid time.1 time.2 then fromObject (slashYear year) month day
    else none
  | none => resolveYearFree month day receivedAt

def slashDateTime (format : AmbiguousDateFormat) (receivedAt : Received)
    (clock : Option (Nat × Nat)) (numbers : SlashNumbers) : Option LocalTime :=
  match monthAndDay format (number numbers.first) (number numbers.second) with
  | none => none
  | some (month, day) =>
    if month < 1 ∨ month > 12 ∨ day < 1 ∨ day > 31 then none
    else (slashDate receivedAt clock month day numbers.year).map fun date => atClock date clock

def displayText (time : LocalTime) (hasTime : Bool) : List Char :=
  dateText time.date ++ if hasTime then 'T' :: clockText time else []

def coerceSlashDate (input : List Char) (receivedAt : Received) (format : AmbiguousDateFormat) :
    Option (List Char) := do
  let numbers ← slashDateComponents input
  let clock := slashTime input
  let time ← slashDateTime format receivedAt clock numbers
  return displayText time clock.isSome

/-! ## Written dates -/

/-- The numbers of a date as they are written, with the year last, after the day and the month in
either order, or with the year first, before the month and the day. -/
inductive WrittenDate
  | yearLast (separator : Char) (first second year : List Char)
  | yearFirst (separator : Char) (year month day : List Char)
deriving DecidableEq, Repr

def WrittenDate.text : WrittenDate → List Char
  | .yearLast separator first second year =>
    first ++ separator :: second ++ separator :: year
  | .yearFirst separator year month day =>
    year ++ separator :: month ++ separator :: day

def Digits (minimum maximum : Nat) (text : List Char) : Prop :=
  minimum ≤ text.length ∧ text.length ≤ maximum ∧ ∀ c ∈ text, c.isDigit = true

def WrittenDate.WellFormed : WrittenDate → Prop
  | .yearLast separator first second year => separator ∈ ['/', '.', '-'] ∧ Digits 1 2 first ∧
    Digits 1 2 second ∧ (Digits 2 2 year ∨ Digits 4 4 year)
  | .yearFirst separator year month day => separator ∈ ['/', '.', '-'] ∧ Digits 4 4 year ∧
    Digits 1 2 month ∧ Digits 1 2 day

/-- A number above twelve is the day, and the setting decides between two small ones. -/
def InOrder (format : AmbiguousDateFormat) (first second month day : Nat) : Prop :=
  (12 < first ∧ second ≤ 12 ∧ month = second ∧ day = first) ∨
  (first ≤ 12 ∧ 12 < second ∧ month = first ∧ day = second) ∨
  (first ≤ 12 ∧ second ≤ 12 ∧ format = .monthThenDay ∧ month = first ∧ day = second) ∨
  (first ≤ 12 ∧ second ≤ 12 ∧ format = .dayThenMonth ∧ month = second ∧ day = first)

/-- The date that is written, under the setting. -/
def WrittenDate.Means (format : AmbiguousDateFormat) (date : Date) : WrittenDate → Prop
  | .yearLast _ first second year =>
    InOrder format (number first) (number second) date.month date.day ∧
      date.year = slashYear year
  | .yearFirst _ year month day => date = ⟨number year, number month, number day⟩

/-- The date that numbers stand for: the one they name, which has to be in the calendar, and a day
later for every 24 hours of the clock time. -/
def StandsFor (format : AmbiguousDateFormat) (receivedAt : Received) (clock : Option (Nat × Nat))
    (numbers : SlashNumbers) (date : Date) : Prop :=
  ∃ named : Date, named.Valid ∧
    InOrder format (number numbers.first) (number numbers.second) named.month named.day ∧
    (∀ year, numbers.year = some year → named.year = slashYear year ∧
      ∀ hour minute, clock = some (hour, minute) → clockValid hour minute = true) ∧
    (numbers.year = none → resolveYearFree named.month named.day receivedAt = some named) ∧
    date = (atClock named clock).date

variable {format : AmbiguousDateFormat} {receivedAt : Received}

theorem monthAndDay_eq_some {first second month day : Nat} :
    monthAndDay format first second = some (month, day) ↔
      InOrder format first second month day := by
  unfold monthAndDay InOrder
  split
  · simp only [Option.some.injEq, Prod.mk.injEq]
    omega
  · split
    · simp only [Option.some.injEq, Prod.mk.injEq]
      omega
    · split
      · simp only [reduceCtorEq, false_iff]
        omega
      · cases format <;> simp <;> omega

variable {clock : Option (Nat × Nat)} {date : Date}
  {century year month day before after : List Char}

theorem slashDate_eq_some {month day : Nat} {year : Option (List Char)} :
    slashDate receivedAt clock month day year = some date ↔
      date.Valid ∧ date.month = month ∧ date.day = day ∧
      (∀ digits, year = some digits → date.year = slashYear digits ∧
        ∀ hour minute, clock = some (hour, minute) → clockValid hour minute = true) ∧
      (year = none → resolveYearFree month day receivedAt = some date) := by
  cases year with
  | none =>
    simp only [slashDate]
    constructor
    · intro h
      obtain ⟨hvalid, hmonth, hday⟩ := resolveYearFree_eq_some h
      exact ⟨hvalid, hmonth, hday, by simp, fun _ => h⟩
    · rintro ⟨-, -, -, -, h⟩
      exact h trivial
  | some digits =>
    simp only [slashDate]
    split
    · next hclock =>
      rw [fromObject_eq_some]
      constructor
      · rintro ⟨rfl, hvalid⟩
        refine ⟨hvalid, rfl, rfl, ?_, by simp⟩
        intro year hyear
        obtain rfl := Option.some.inj hyear
        refine ⟨rfl, ?_⟩
        rintro hour minute rfl
        simpa using hclock
      · rintro ⟨hvalid, rfl, rfl, hyear, -⟩
        refine ⟨?_, hvalid⟩
        rw [← (hyear digits rfl).1]
    · next hclock =>
      constructor
      · intro h
        cases h
      · rintro ⟨-, -, -, hyear, -⟩
        refine absurd ?_ hclock
        cases hread : clock with
        | none => rfl
        | some time =>
          obtain ⟨hour, minute⟩ := time
          simpa using (hyear digits rfl).2 hour minute hread

theorem inBounds_of_valid (h : date.Valid) :
    ¬ (date.month < 1 ∨ date.month > 12 ∨ date.day < 1 ∨ date.day > 31) := by
  have hpos := h.month_pos
  have hle := h.month_le
  have hday := h.day_pos
  have hin := h.day_le_31
  omega

theorem StandsFor.valid {numbers : SlashNumbers}
    (h : StandsFor format receivedAt clock numbers date) : date.Valid := by
  obtain ⟨named, hvalid, -, -, -, rfl⟩ := h
  cases clock with
  | none => exact hvalid
  | some time => exact hvalid.addDays _

end SesEmailAdapter.Classifier.SlashDates
