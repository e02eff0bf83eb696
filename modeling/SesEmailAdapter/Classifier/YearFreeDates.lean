import SesEmailAdapter.Classifier.SlashDates

/-! # Dates without a year

A date that names its month, and one with slashes, can both leave out the year. It is then the next
such day that begins after the mail was received, also where the date has a time. -/

namespace SesEmailAdapter.Classifier.YearFreeDates
open Lib.CivilDate
open Classifier.CoerceWorkflowData (AmbiguousDateFormat)
open Classifier.DisplayDates Classifier.SlashDates

/-! ## Dates that name their month -/

/-- What `DateTime.fromFormat` reads with a format that has no year. -/
structure Parsed where
  month : Nat
  day : Nat
  hour : Nat
  minute : Nat

/-- The display date, with the offset that the token at the end of the text stands for. -/
def finalize (trimmed : List Char) (zoneOffset : Option Int) (parsed : Option DateTime)
    (hasTime : Bool) : List Char :=
  match zoneOffset, hasTime with
  | some offset, true => toFormat (fun value => dateText value.time.date) parsed ++
      'T' :: toFormat (fun value => clockText value.time) parsed ++ offsetText offset
  | _, _ => formatDisplayDate parsed trimmed (some hasTime)

/-- What a format without a year makes of the text, with a time or without; the process runs in
UTC. -/
def yearFreeDisplay (trimmed : List Char) (zoneOffset : Option Int) (parsed : Parsed)
    (withTime : Bool) (receivedAt : Received) : List Char :=
  let resolved := resolveYearFree parsed.month parsed.day receivedAt
  if withTime then
    let timed := resolved.map fun date =>
      DateTime.mk (date.midnight.setClock parsed.hour parsed.minute) 0
    finalize trimmed zoneOffset timed true
  else toFormat dateText resolved

/-! ## The next such day -/

/-- `HH:mm` of an hour and a minute -/
def clockOf (hour minute : Nat) : List Char := padStart 2 hour ++ ':' :: padStart 2 minute

theorem setClock_midnight {date : Date} {hour minute : Nat} (hhour : hour < 24)
    (hminute : minute < 60) : (date.midnight.setClock hour minute).date = date ∧
      clockText (date.midnight.setClock hour minute) = clockOf hour minute := by
  have hday : (hour * 60 + minute) / 1440 = 0 := by omega
  have hrest : (hour * 60 + minute) % 1440 = hour * 60 + minute := by omega
  have hclock : ((hour * 60 + minute) * 60000) / 3600000 = hour := by omega
  have hclock' : minute % 60 = minute := Nat.mod_eq_of_lt hminute
  simp [LocalTime.setClock, Date.midnight, hday, hrest, Date.addDays, clockText, clockOf,
    LocalTime.hour, LocalTime.minute, MINUTE, hclock, hclock']

/-- Every caller takes the date for a month and a day, and shows the time that is written. -/
structure Taken (receivedAt : Received) (month day : Nat) (date : Date) : Prop where
  named : ∀ trimmed zoneOffset hour minute,
    yearFreeDisplay trimmed zoneOffset ⟨month, day, hour, minute⟩ false receivedAt = dateText date
  timed : ∀ trimmed zoneOffset hour minute, hour < 24 → minute < 60 → ∃ offset,
    yearFreeDisplay trimmed zoneOffset ⟨month, day, hour, minute⟩ true receivedAt =
      dateText date ++ 'T' :: clockOf hour minute ++ offset
  slash : ∀ input format first second, slashDateComponents input = some ⟨first, second, none⟩ →
    InOrder format (number first) (number second) month day → slashTime input = none →
    coerceSlashDate input receivedAt format = some (dateText date)
  slashTimed : ∀ input format first second hour minute,
    slashDateComponents input = some ⟨first, second, none⟩ →
    InOrder format (number first) (number second) month day →
    slashTime input = some (hour, minute) → hour < 24 → minute < 60 →
    coerceSlashDate input receivedAt format = some (dateText date ++ 'T' :: clockOf hour minute)

variable {receivedAt : Received} {month day : Nat} {date : Date}

theorem yearFreeDisplay_timed (hresolved : resolveYearFree month day receivedAt = some date)
    (trimmed : List Char) (zoneOffset : Option Int) {hour minute : Nat} (hhour : hour < 24)
    (hminute : minute < 60) : ∃ offset,
      yearFreeDisplay trimmed zoneOffset ⟨month, day, hour, minute⟩ true receivedAt =
        dateText date ++ 'T' :: clockOf hour minute ++ offset := by
  obtain ⟨hdate, hclock⟩ := @setClock_midnight date _ _ hhour hminute
  cases zoneOffset with
  | some offset =>
    refine ⟨offsetText offset, ?_⟩
    simp [yearFreeDisplay, finalize, toFormat, hresolved, hdate, hclock]
  | none =>
    cases hoffset : hasExplicitOffset trimmed with
    | true =>
      refine ⟨offsetText 0, ?_⟩
      simp [yearFreeDisplay, finalize, formatDisplayDate, toFormat, hresolved, hdate, hclock,
        hoffset]
    | false =>
      refine ⟨[], ?_⟩
      simp [yearFreeDisplay, finalize, formatDisplayDate, toFormat, hresolved, hdate, hclock,
        hoffset]

theorem slashDateTime_yearFree (hresolved : resolveYearFree month day receivedAt = some date)
    {format : AmbiguousDateFormat} {first second : List Char}
    (horder : InOrder format (number first) (number second) month day)
    (clock : Option (Nat × Nat)) :
    slashDateTime format receivedAt clock ⟨first, second, none⟩ = some (atClock date clock) := by
  obtain ⟨hvalid, rfl, rfl⟩ := resolveYearFree_eq_some hresolved
  have hbounds := inBounds_of_valid hvalid
  simp only [slashDateTime, monthAndDay_eq_some.mpr horder, hbounds, if_false, slashDate]
  rw [hresolved]
  rfl

theorem taken_of_resolved (hresolved : resolveYearFree month day receivedAt = some date) :
    Taken receivedAt month day date where
  named := by
    intro trimmed zoneOffset hour minute
    simp [yearFreeDisplay, hresolved, toFormat]
  timed := by
    intro trimmed zoneOffset hour minute hhour hminute
    exact yearFreeDisplay_timed hresolved trimmed zoneOffset hhour hminute
  slash := by
    intro input format first second hnumbers horder hclock
    have htime := slashDateTime_yearFree hresolved horder none
    simp [coerceSlashDate, hnumbers, hclock, htime, displayText, atClock, Date.midnight]
  slashTimed := by
    intro input format first second hour minute hnumbers horder hclock hhour hminute
    have htime := slashDateTime_yearFree hresolved horder (some (hour, minute))
    obtain ⟨hdate, hshown⟩ := @setClock_midnight date _ _ hhour hminute
    simp [coerceSlashDate, hnumbers, hclock, htime, displayText, atClock, hdate, hshown]

/-- **A month and a day without a year are the first such day that begins after the mail was
received, for every caller**, where that day is still to come this year or comes the next. -/
theorem yearFree_next (h : Comes receivedAt month day) :
    ∃ date, NextAfter receivedAt month day date ∧ Taken receivedAt month day date := by
  obtain ⟨date, hresolved, hnext⟩ := resolveYearFree_next h
  exact ⟨date, hnext, taken_of_resolved hresolved⟩

/-! ## The day of receipt -/

/-- The first such day that is not before the day on which the mail was received. -/
structure FromDay (receivedAt : Received) (month day : Nat) (date : Date) : Prop where
  valid : date.Valid
  month_eq : date.month = month
  day_eq : date.day = day
  notBefore : receivedAt.time.date.dayNumber ≤ date.dayNumber
  earliest : ∀ other : Date, other.Valid → other.month = month → other.day = day →
    receivedAt.time.date.dayNumber ≤ other.dayNumber → date.year ≤ other.year

/-- The morning of the 15th of June 2024. -/
def juneMorning : Received := ⟨⟨⟨2024, 6, 15⟩, 36000000⟩, by decide, by decide⟩

theorem juneMorning_nextYear : resolveYearFree 6 15 juneMorning = some ⟨2025, 6, 15⟩ ∧
    ¬ FromDay juneMorning 6 15 ⟨2025, 6, 15⟩ := by
  refine ⟨by decide, fun h => ?_⟩
  have hyear := h.earliest ⟨2024, 6, 15⟩ (by decide) rfl rfl (by decide)
  exact absurd hyear (by decide)

theorem juneMorning_august :
    Comes juneMorning 8 15 ∧ ∃ date, NextAfter juneMorning 8 15 date ∧
      Taken juneMorning 8 15 date := by
  have hcomes : Comes juneMorning 8 15 := .inr (by decide)
  exact ⟨hcomes, yearFree_next hcomes⟩

end SesEmailAdapter.Classifier.YearFreeDates
