import SesEmailAdapter.Classifier.IsoDates
import SesEmailAdapter.Classifier.YearFreeDates

/-! # What a date is read as

A text is read by its slashes, in the ISO format, or with a format of dates that name their month,
in the locales of the mail. A display date that is coerced again is read as it was written. -/

namespace SesEmailAdapter.Classifier.DateReadings
open Lib.CivilDate Lib.TextMatch
open Classifier.CoerceWorkflowData
open Classifier.DisplayDates Classifier.SlashDates
open Classifier.YearFreeDates Classifier.IsoDates
open Email.Address (isSpace trim)

/-! ## Formats -/

def BASE_DATE_FORMATS_WITH_YEAR : List (List Char) :=
  ["d MMMM yyyy".toList, "MMMM d, yyyy".toList, "d MMM yyyy".toList, "MMM d, yyyy".toList,
    "dd.MM.yyyy".toList]

def BASE_DATE_FORMATS_YEARFREE : List (List Char) :=
  ["d MMMM".toList, "MMMM d".toList, "d MMM".toList, "MMM d".toList]

def withWeekdayPrefix (formats : List (List Char)) : List (List Char) :=
  formats.flatMap fun fmt => [fmt, "ccc, ".toList ++ fmt, "cccc, ".toList ++ fmt,
    "ccc ".toList ++ fmt, "cccc ".toList ++ fmt]

/-- The text with a point after its first `/(?<!M)MMM(?!M)/`, from where the text before ends with
the letter or without. -/
def replaceBareMmm : Bool → List Char → Option (List Char)
  | afterM, 'M' :: 'M' :: 'M' :: rest =>
    if !afterM && rest.head? ≠ some 'M' then some ('M' :: 'M' :: 'M' :: '.' :: rest)
    else (replaceBareMmm true ('M' :: 'M' :: rest)).map ('M' :: ·)
  | _, c :: rest => (replaceBareMmm (c = 'M') rest).map (c :: ·)
  | _, [] => none

def withAbbrevMonthPeriod (formats : List (List Char)) : List (List Char) :=
  formats.flatMap fun fmt => fmt :: (replaceBareMmm false fmt).toList

def DATE_FORMATS_WITH_YEAR : List (List Char) :=
  withWeekdayPrefix (withAbbrevMonthPeriod BASE_DATE_FORMATS_WITH_YEAR)

def DATE_FORMATS_YEARFREE : List (List Char) :=
  withWeekdayPrefix (withAbbrevMonthPeriod BASE_DATE_FORMATS_YEARFREE)

def TRAILING_TIME_CONNECTOR_WORDS : List (List Char) :=
  ["at".toList, "um".toList, "à".toList, "a las".toList, "alle".toList, "om".toList]

def TIME_SUFFIXES : List (List Char) :=
  [[], " HH:mm".toList, " h:mm a".toList] ++
    TRAILING_TIME_CONNECTOR_WORDS.flatMap (fun word =>
      [" '".toList ++ word ++ "' HH:mm".toList, " '".toList ++ word ++ "' h:mm a".toList]) ++
    [", HH.mm".toList, " HH.mm".toList, " h.mm a".toList, ", h.mm a".toList]

/-- The functions that the formats are tried with. -/
structure FormatReader where
  /-- The text that is tried, with the time behind the date and without the words around it, and
  the token of a time zone that stood at its end. -/
  prepare : List String → List Char → List Char × Option (List Char)
  /-- `DateTime.fromFormat`, in a locale or that of the process, which runs in UTC. -/
  fromFormat : Option String → List Char → List Char → Option LocalTime
  resolveZoneOffsetMinutes : List Char → String → Option Int

section Coercion
variable {α : Type} (reader : FormatReader) (luxon : Luxon) (ctx : CoercionContext)

/-- The answer for the first format, with the first time behind it, that the text has. -/
def tryFormats (locale : Option String) (formats : List (List Char)) (input : List Char)
    (answer : LocalTime → Bool → α) : Option α :=
  formats.findSome? fun fmt => TIME_SUFFIXES.findSome? fun timeSuffix =>
    (reader.fromFormat locale (fmt ++ timeSuffix) input).map fun parsed =>
      answer parsed (timeSuffix ≠ [])

/-- Formats with a year are tried first, and the locale of the process before those of the mail. -/
def tryLocales (localeHints : List String) (input : List Char)
    (withYear yearFree : LocalTime → Bool → α) : Option α :=
  let attempt (locale : Option String) :=
    (tryFormats reader locale DATE_FORMATS_WITH_YEAR input withYear).or
      (tryFormats reader locale DATE_FORMATS_YEARFREE input yearFree)
  (attempt none).or
    ((localeHints.filter (· ≠ "")).eraseDups.findSome? fun locale => attempt (some locale))

/-- The offset of the token at the end of a text. -/
def zoneOffset (trimmed : List Char) : Option Int :=
  (reader.prepare ctx.localeHints trimmed).2.bind fun token =>
    reader.resolveZoneOffsetMinutes token ctx.accountTimezone

/-- What a format without a year has read. -/
def yearFreeOf (parsed : LocalTime) : Parsed :=
  ⟨parsed.date.month, parsed.date.day, parsed.hour, parsed.minute⟩

/-- `coerceDate` of a text without slashes that is none in the ISO format. -/
def namedDate (trimmed : List Char) : Option (List Char) :=
  let offset := zoneOffset reader ctx trimmed
  tryLocales reader ctx.localeHints (reader.prepare ctx.localeHints trimmed).1
    (fun parsed hasTime => finalize trimmed offset (some ⟨parsed, 0⟩) hasTime)
    (fun parsed hasTime => yearFreeDisplay trimmed offset (yearFreeOf parsed) hasTime
      (luxon.received ctx.receivedAt))

/-- The coercion with these formats. -/
abbrev dateEnv (rest : Env) : Env := luxon.env (namedDate reader luxon) rest

end Coercion

/-! ## Readings -/

/-- What a text is read as, with what of it is shown. -/
inductive Reading
  | day (date : Date)
  | clock (time : LocalTime)
  | full (time : LocalTime) (offset : Int)
  /-- A value of the date library that is no date, and what it is shown as. -/
  | invalid (text : List Char)
deriving DecidableEq, Repr

def Reading.text : Reading → List Char
  | .day date => dateText date
  | .clock time => dateText time.date ++ 'T' :: clockText time
  | .full time offset => fullText time offset
  | .invalid text => text

def shownAs (time : LocalTime) (hasTime : Bool) (offset : Option Int) : Reading :=
  match hasTime, offset with
  | true, some offset => .full time offset
  | true, none => .clock time
  | false, _ => .day time.date

/-- The offset is shown if the text ends with one. -/
def writtenOffset (trimmed : List Char) (offset : Int) : Option Int :=
  if hasExplicitOffset trimmed then some offset else none

section Readings
variable (reader : FormatReader) (luxon : Luxon) (ctx : CoercionContext)

def readSlash (input : List Char) (receivedAt : Received) (format : AmbiguousDateFormat) :
    Option Reading := do
  let numbers ← slashDateComponents input
  let clock := slashTime input
  let time ← slashDateTime format receivedAt clock numbers
  return shownAs time clock.isSome none

def readYearFree (trimmed : List Char) (zoneOffset : Option Int) (parsed : Parsed)
    (withTime : Bool) (receivedAt : Received) : Reading :=
  match resolveYearFree parsed.month parsed.day receivedAt with
  | some date =>
    if withTime then shownAs (date.midnight.setClock parsed.hour parsed.minute) true
      (zoneOffset.or (writtenOffset trimmed 0))
    else .day date
  | none => .invalid (yearFreeDisplay trimmed zoneOffset parsed withTime receivedAt)

def readNamed (trimmed : List Char) : Option Reading :=
  let offset := zoneOffset reader ctx trimmed
  tryLocales reader ctx.localeHints (reader.prepare ctx.localeHints trimmed).1
    (fun parsed hasTime => shownAs parsed hasTime (offset.or (writtenOffset trimmed 0)))
    (fun parsed hasTime => readYearFree trimmed offset (yearFreeOf parsed) hasTime
      (luxon.received ctx.receivedAt))

/-- What a text without white space around it is read as. -/
def readDate (trimmed : List Char) : Option Reading :=
  if somewhere slashPairHere trimmed then
    readSlash trimmed (luxon.received ctx.receivedAt) ctx.ambiguousDateFormat
  else match luxon.fromISO trimmed with
    | some (time, offset) =>
      some (shownAs time (hasTimeComponent trimmed) (writtenOffset trimmed (offset.getD 0)))
    | none => readNamed reader luxon ctx trimmed

end Readings

/-! ## The display date is the text of the reading -/

section Text
variable {reader : FormatReader} {luxon : Luxon} {ctx : CoercionContext} {time : LocalTime}
  {trimmed : List Char} {offset : Int}

theorem formatDisplayDate_eq (hasTime : Option Bool) :
    formatDisplayDate (some ⟨time, offset⟩) trimmed hasTime =
      (shownAs time (hasTime.getD (hasTimeComponent trimmed))
        (writtenOffset trimmed offset)).text := by
  cases hclock : hasTime.getD (hasTimeComponent trimmed) <;>
    cases hoffset : hasExplicitOffset trimmed <;>
      simp [formatDisplayDate, hclock, hoffset, writtenOffset, shownAs, Reading.text, toFormat,
        fullText]

theorem finalize_eq (zone : Option Int) (hasTime : Bool) :
    finalize trimmed zone (some ⟨time, offset⟩) hasTime =
      (shownAs time hasTime (zone.or (writtenOffset trimmed offset))).text := by
  cases zone with
  | none => simp [finalize, formatDisplayDate_eq]
  | some zone =>
    cases hasTime with
    | false => simp [finalize, formatDisplayDate_eq, shownAs]
    | true => simp [finalize, toFormat, shownAs, Reading.text, fullText]

theorem yearFreeDisplay_eq (zone : Option Int) (parsed : Parsed) (withTime : Bool)
    (receivedAt : Received) : yearFreeDisplay trimmed zone parsed withTime receivedAt =
      (readYearFree trimmed zone parsed withTime receivedAt).text := by
  unfold readYearFree
  cases hresolved : resolveYearFree parsed.month parsed.day receivedAt with
  | none => simp [Reading.text]
  | some date =>
    cases withTime with
    | false => simp [yearFreeDisplay, hresolved, toFormat, Reading.text]
    | true => simp [yearFreeDisplay, hresolved, finalize_eq]

theorem coerceSlashDate_eq (input : List Char) (receivedAt : Received)
    (format : AmbiguousDateFormat) : coerceSlashDate input receivedAt format =
      (readSlash input receivedAt format).map Reading.text := by
  unfold coerceSlashDate readSlash
  cases slashDateComponents input with
  | none => rfl
  | some numbers =>
    cases slashTime input with
    | none =>
      cases htime : slashDateTime format receivedAt none numbers <;>
        simp [htime, displayText, shownAs, Reading.text]
    | some clock =>
      cases htime : slashDateTime format receivedAt (some clock) numbers <;>
        simp [htime, displayText, shownAs, Reading.text]

theorem tryFormats_map {α β : Type} (locale : Option String) (formats : List (List Char))
    (input : List Char) (answer : LocalTime → Bool → α) (f : α → β) :
    (tryFormats reader locale formats input answer).map f =
      tryFormats reader locale formats input fun parsed hasTime => f (answer parsed hasTime) := by
  simp [tryFormats, List.map_findSome?, Function.comp_def]

theorem tryLocales_map {α β : Type} (hints : List String) (input : List Char)
    (withYear yearFree : LocalTime → Bool → α) (f : α → β) :
    (tryLocales reader hints input withYear yearFree).map f =
      tryLocales reader hints input (fun parsed hasTime => f (withYear parsed hasTime))
        fun parsed hasTime => f (yearFree parsed hasTime) := by
  simp [tryLocales, Option.map_or, tryFormats_map, List.map_findSome?, Function.comp_def]

/-- The text of a date is that of its reading. -/
theorem parseDate_eq (trimmed : List Char) :
    parseDate luxon (namedDate reader luxon) ctx trimmed =
      (readDate reader luxon ctx trimmed).map Reading.text := by
  unfold parseDate readDate
  split
  · exact coerceSlashDate_eq _ _ _
  · cases luxon.fromISO trimmed with
    | none => simp [namedDate, readNamed, tryLocales_map, finalize_eq, yearFreeDisplay_eq]
    | some read =>
      obtain ⟨time, offset⟩ := read
      simp [formatDisplayDate_eq]

end Text

/-! ## Readings of the calendar -/

/-- A local time of the calendar. -/
def Real (time : LocalTime) : Prop := time.date.Valid ∧ time.millis < DAY

def Reading.WellFormed : Reading → Prop
  | .day date => date.Valid
  | .clock time => Real time
  | .full time _ => Real time
  | .invalid _ => True

/-- The date library gives local times of the calendar. -/
structure GivesReal (luxon : Luxon) (reader : FormatReader) : Prop where
  iso : ∀ text time offset, luxon.fromISO text = some (time, offset) → Real time
  format : ∀ locale fmt input time, reader.fromFormat locale fmt input = some time → Real time

section WellFormed
variable {reader : FormatReader} {luxon : Luxon} {ctx : CoercionContext} {time : LocalTime}
  {trimmed : List Char} {reading : Reading}

theorem wellFormed_shownAs (h : Real time) (hasTime : Bool) (offset : Option Int) :
    (shownAs time hasTime offset).WellFormed := by
  cases hasTime with
  | false => exact h.1
  | true =>
    cases offset with
    | none => exact h
    | some offset => exact h

theorem real_setClock {date : Date} (h : date.Valid) (hour minute : Nat) :
    Real (date.midnight.setClock hour minute) := by
  refine ⟨h.addDays _, ?_⟩
  simp only [LocalTime.setClock, Date.midnight, DAY, MINUTE]
  omega

theorem real_atClock {date : Date} (h : date.Valid) (clock : Option (Nat × Nat)) :
    Real (atClock date clock) := by
  cases clock with
  | none => exact ⟨h, by simp [atClock, Date.midnight, DAY]⟩
  | some clock => exact real_setClock h _ _

theorem real_of_slashDateTime {format : AmbiguousDateFormat} {receivedAt : Received}
    {clock : Option (Nat × Nat)} {numbers : SlashNumbers}
    (h : slashDateTime format receivedAt clock numbers = some time) : Real time := by
  unfold slashDateTime at h
  split at h
  · cases h
  · split at h
    · cases h
    · obtain ⟨date, hdate, rfl⟩ := Option.map_eq_some_iff.mp h
      exact real_atClock (slashDate_eq_some.mp hdate).1 _

theorem wellFormed_readSlash {receivedAt : Received} {format : AmbiguousDateFormat}
    (h : readSlash trimmed receivedAt format = some reading) : reading.WellFormed := by
  unfold readSlash at h
  cases hnumbers : slashDateComponents trimmed with
  | none => simp [hnumbers] at h
  | some numbers =>
    cases htime : slashDateTime format receivedAt (slashTime trimmed) numbers with
    | none => simp [hnumbers, htime] at h
    | some time =>
      have hreading : shownAs time (slashTime trimmed).isSome none = reading := by
        simpa [hnumbers, htime] using h
      rw [← hreading]
      exact wellFormed_shownAs (real_of_slashDateTime htime) _ _

theorem wellFormed_readYearFree (zone : Option Int) (parsed : Parsed) (withTime : Bool)
    (receivedAt : Received) :
    (readYearFree trimmed zone parsed withTime receivedAt).WellFormed := by
  unfold readYearFree
  cases hresolved : resolveYearFree parsed.month parsed.day receivedAt with
  | none => exact trivial
  | some date =>
    have hvalid := (resolveYearFree_eq_some hresolved).1
    cases withTime with
    | false => exact hvalid
    | true => exact wellFormed_shownAs (real_setClock hvalid _ _) _ _

/-- An answer of the formats is the answer for what one of them read. -/
theorem tryFormats_eq_some {α : Type} {locale : Option String} {formats : List (List Char)}
    {input : List Char} {answer : LocalTime → Bool → α} {result : α}
    (h : tryFormats reader locale formats input answer = some result) :
    ∃ fmt parsed hasTime, reader.fromFormat locale fmt input = some parsed ∧
      answer parsed hasTime = result := by
  obtain ⟨fmt, -, hfmt⟩ := List.exists_of_findSome?_eq_some h
  obtain ⟨timeSuffix, -, hsuffix⟩ := List.exists_of_findSome?_eq_some hfmt
  obtain ⟨parsed, hparsed, hanswer⟩ := Option.map_eq_some_iff.mp hsuffix
  exact ⟨_, parsed, _, hparsed, hanswer⟩

theorem tryLocales_eq_some {α : Type} {hints : List String} {input : List Char}
    {withYear yearFree : LocalTime → Bool → α} {result : α}
    (h : tryLocales reader hints input withYear yearFree = some result) :
    ∃ locale fmt parsed hasTime, reader.fromFormat locale fmt input = some parsed ∧
      (withYear parsed hasTime = result ∨ yearFree parsed hasTime = result) := by
  have hattempt (locale : Option String)
      (h : (tryFormats reader locale DATE_FORMATS_WITH_YEAR input withYear).or
        (tryFormats reader locale DATE_FORMATS_YEARFREE input yearFree) = some result) :
      ∃ locale fmt parsed hasTime, reader.fromFormat locale fmt input = some parsed ∧
        (withYear parsed hasTime = result ∨ yearFree parsed hasTime = result) := by
    rcases Option.or_eq_some_iff.mp h with h | ⟨-, h⟩
    · obtain ⟨fmt, parsed, hasTime, hparsed, hresult⟩ := tryFormats_eq_some h
      exact ⟨locale, fmt, parsed, hasTime, hparsed, .inl hresult⟩
    · obtain ⟨fmt, parsed, hasTime, hparsed, hresult⟩ := tryFormats_eq_some h
      exact ⟨locale, fmt, parsed, hasTime, hparsed, .inr hresult⟩
  rcases Option.or_eq_some_iff.mp h with h | ⟨-, h⟩
  · exact hattempt none h
  · obtain ⟨locale, -, h⟩ := List.exists_of_findSome?_eq_some h
    exact hattempt (some locale) h

theorem GivesReal.wellFormed (hreal : GivesReal luxon reader)
    (h : readDate reader luxon ctx trimmed = some reading) : reading.WellFormed := by
  unfold readDate at h
  split at h
  · exact wellFormed_readSlash h
  · split at h
    · next time offset hread =>
      obtain rfl := Option.some.inj h
      exact wellFormed_shownAs (hreal.iso _ _ _ hread) _ _
    · obtain ⟨locale, fmt, parsed, hasTime, hparsed, rfl | rfl⟩ := tryLocales_eq_some h
      · exact wellFormed_shownAs (hreal.format _ _ _ _ hparsed) _ _
      · exact wellFormed_readYearFree _ _ _ _

end WellFormed

/-! ## Display dates are read as themselves -/

/-- The display format has room for the reading: a year of four digits, and an offset of less than a
hundred hours. -/
def Reading.Showable : Reading → Prop
  | .day date => FourDigits date.year
  | .clock time => FourDigits time.date.year
  | .full time offset => FourDigits time.date.year ∧ offset.natAbs / 60 < 100
  | .invalid _ => False

/-- What the date library reads the text of a reading as. -/
def Reading.stated : Reading → Option (LocalTime × Option Int)
  | .day date => some (date.midnight, none)
  | .clock time => some (toMinute time, none)
  | .full time offset => some (toMinute time, some offset)
  | .invalid _ => none

/-- The date library reads texts in the display format. -/
def ReadsDisplay (luxon : Luxon) : Prop :=
  ∀ reading : Reading, reading.WellFormed → reading.Showable →
    luxon.fromISO reading.text = reading.stated

/-- `YYYY-MM-DD`, with `THH:mm` and with the offset or without. -/
def InDisplayFormat (text : List Char) : Prop :=
  ∃ reading : Reading, reading.WellFormed ∧ reading.Showable ∧ reading.text = text

section Display
variable {reader : FormatReader} {luxon : Luxon} {ctx : CoercionContext} {rest : Env}
  {time : LocalTime} {offset : Int} {text : List Char} {reading : Reading}

theorem written_dateText (date : Date) : Written isoMarks (dateText date) := by
  have hyear : Written isoMarks (yearText date.year) := by
    unfold yearText
    split
    · exact Written.cons (by simp [isoMarks]) (written_padStart _ _)
    · exact written_padStart _ _
  have hmonth : Written isoMarks ('-' :: padStart 2 date.month) :=
    Written.cons (by simp [isoMarks]) (written_padStart _ _)
  have hday : Written isoMarks ('-' :: padStart 2 date.day) :=
    Written.cons (by simp [isoMarks]) (written_padStart _ _)
  exact (hyear.append hmonth).append hday

theorem written_text (h : reading.Showable) : Written isoMarks reading.text := by
  have hclock (time : LocalTime) : Written isoMarks ('T' :: clockText time) :=
    Written.cons (by simp [isoMarks]) ((written_clockText time).mono (by simp [isoMarks]))
  cases reading with
  | day date => exact written_dateText date
  | clock time => exact (written_dateText _).append (hclock time)
  | full time offset =>
    exact ((written_dateText _).append (hclock time)).append
      ((written_offsetText offset).mono (by simp [isoMarks]))
  | invalid text => cases h

theorem hour_lt (h : time.millis < DAY) : time.hour < 24 := by
  simp only [LocalTime.hour, DAY] at h ⊢
  omega

theorem minute_lt (time : LocalTime) : time.minute < 60 := Nat.mod_lt _ (by decide)

theorem padStart_hour (h : time.millis < DAY) :
    ∃ a b, padStart 2 time.hour = [a, b] ∧ a.isDigit = true ∧ b.isDigit = true :=
  padStart_two (Nat.lt_trans (hour_lt h) (by decide))

theorem padStart_minute (time : LocalTime) :
    ∃ a b, padStart 2 time.minute = [a, b] ∧ a.isDigit = true ∧ b.isDigit = true :=
  padStart_two (Nat.lt_trans (minute_lt time) (by decide))

theorem isoTimeHere_clock (h : time.millis < DAY) (more : List Char) :
    isoTimeHere ('T' :: (clockText time ++ more)) = true := by
  obtain ⟨a, b, htext, ha, hb⟩ := padStart_hour h
  obtain ⟨c, d, htext', hc, hd⟩ := padStart_minute time
  simp [clockText, htext, htext', isoTimeHere, ha, hb, hc, hd]

theorem hasTimeComponent_clock (h : time.millis < DAY) (date : Date) (more : List Char) :
    hasTimeComponent (dateText date ++ 'T' :: (clockText time ++ more)) = true := by
  have hiso : somewhere isoTimeHere (dateText date ++ 'T' :: (clockText time ++ more)) = true :=
    somewhere_iff.mpr ⟨_, _, rfl, isoTimeHere_clock h more⟩
  simp [hasTimeComponent, hiso]

theorem hasTimeComponent_day (date : Date) : hasTimeComponent (dateText date) = false := by
  have hspaced := not_spacedTime (isSpace_of_written (written_dateText date))
  have hiso : somewhere isoTimeHere (dateText date) = false := by
    rw [Bool.eq_false_iff]
    intro h
    obtain ⟨before, after, htext, hhere⟩ := somewhere_iff.mp h
    obtain ⟨rest, rfl⟩ := isoTimeHere_cons hhere
    exact not_mem_dateText date (by simp [htext])
  simp [hasTimeComponent, hspaced, hiso]

/-- A display date that ends in its time has no offset. -/
theorem hasExplicitOffset_clock (h : time.millis < DAY) (date : Date) :
    hasExplicitOffset (dateText date ++ 'T' :: clockText time) = false := by
  obtain ⟨a, b, htext, -, -⟩ := padStart_hour h
  obtain ⟨c, d, htext', -, hd⟩ := padStart_minute time
  have hlast : d ≠ 'Z' ∧ d ≠ 'z' := by
    constructor <;> rintro rfl <;> cases hd
  have hreverse : (dateText date ++ 'T' :: clockText time).reverse =
      d :: c :: ':' :: b :: a :: 'T' :: (dateText date).reverse := by
    simp [clockText, htext, htext']
  simp [hasExplicitOffset, endsInZulu, endsInOffset, endsInCompactOffset, hreverse, hlast]

theorem hasExplicitOffset_full (h : offset.natAbs / 60 < 100) :
    hasExplicitOffset (fullText time offset) = true := by
  obtain ⟨negative, hsign⟩ := offsetText_eq offset
  obtain ⟨a, b, htext, ha, hb⟩ := padStart_two h
  obtain ⟨c, d, htext', hc, hd⟩ := padStart_two (by omega : offset.natAbs % 60 < 100)
  have hends : endsInOffset (fullText time offset) = true := by
    have hfull : fullText time offset = (dateText time.date ++ 'T' :: clockText time) ++
        [sign negative, a, b, ':', c, d] := by
      simp [fullText, hsign, htext, htext']
    rw [hfull]
    exact endsInOffset_extended _ negative ha hb hc hd
  simp [hasExplicitOffset, hends]

theorem clockText_toMinute (time : LocalTime) : clockText (toMinute time) = clockText time := by
  have hhour : (toMinute time).hour = time.hour := by
    simp only [LocalTime.hour, toMinute, MINUTE]
    omega
  have hminute : (toMinute time).minute = time.minute := by
    simp [LocalTime.minute, toMinute, MINUTE]
  simp [clockText, hhour, hminute]

theorem date_toMinute (time : LocalTime) : (toMinute time).date = time.date := rfl

/-- A display date is read with the same text again. -/
theorem readDate_text (hback : ReadsDisplay luxon) (hwell : reading.WellFormed)
    (hshow : reading.Showable) :
    (readDate reader luxon ctx reading.text).map Reading.text = some reading.text := by
  have hslash := not_slashPair ((written_text hshow).not_mem (c := '/') rfl (by simp [isoMarks]))
  have hread := hback reading hwell hshow
  unfold readDate
  simp only [hslash, hread, Bool.false_eq_true, if_false]
  cases reading with
  | day date =>
    simp [Reading.stated, Reading.text, hasTimeComponent_day, shownAs, Date.midnight]
  | clock time =>
    have htime := hasTimeComponent_clock hwell.2 time.date []
    rw [List.append_nil] at htime
    simp [Reading.stated, Reading.text, htime, writtenOffset, hasExplicitOffset_clock hwell.2,
      shownAs, clockText_toMinute, date_toMinute]
  | full time offset =>
    have htime : hasTimeComponent (fullText time offset) = true := by
      simpa [fullText] using hasTimeComponent_clock hwell.2 time.date (offsetText offset)
    have hminute : fullText (toMinute time) offset = fullText time offset := by
      simp [fullText, clockText_toMinute, date_toMinute]
    simp [Reading.stated, Reading.text, htime, writtenOffset, hasExplicitOffset_full hshow.2,
      shownAs, hminute]
  | invalid text => cases hshow

theorem InDisplayFormat.ne_nil (h : InDisplayFormat text) : text ≠ [] := by
  obtain ⟨reading, -, hshow, rfl⟩ := h
  cases reading with
  | day date => simp [Reading.text, dateText]
  | clock time => simp [Reading.text]
  | full time offset => simp [Reading.text, fullText]
  | invalid text => cases hshow

/-- The coercion of a display date leaves it as it is. -/
theorem coerceDate_display (hback : ReadsDisplay luxon) (h : InDisplayFormat text) :
    coerceDate (dateEnv reader luxon rest) ctx (.str (String.ofList text)) =
      some (String.ofList text) := by
  have hne := h.ne_nil
  obtain ⟨reading, hwell, hshow, rfl⟩ := h
  have htrim : trim reading.text = reading.text :=
    Email.Address.trim_eq_self (isSpace_of_written (written_text hshow))
  have hparse : parseDate luxon (namedDate reader luxon) ctx reading.text = some reading.text := by
    rw [parseDate_eq, readDate_text hback hwell hshow]
  simp [coerceDate, htrim, hne, dateEnv, Luxon.env, hparse]

/-- A date that is coerced is in the display format, if that has room for its reading. -/
theorem inDisplayFormat_coerceDate (hreal : GivesReal luxon reader) {s shown : String}
    (hroom : ∀ reading, readDate reader luxon ctx (trim s.toList) = some reading →
      reading.Showable)
    (h : coerceDate (dateEnv reader luxon rest) ctx (.str s) = some shown) :
    InDisplayFormat shown.toList := by
  simp only [coerceDate] at h
  split at h
  · cases h
  · simp only [dateEnv, Luxon.env, parseDate_eq, Option.map_map, Option.map_eq_some_iff] at h
    obtain ⟨reading, hread, rfl⟩ := h
    exact ⟨reading, hreal.wellFormed hread, hroom reading hread, by simp⟩

end Display

/-! ## A date library for the display format -/

/-- Seconds are read where there are none. -/
def plainZone (time : LocalTime) : List Char → Option (LocalTime × Option Int)
  | [] => some (time, none)
  | [':', '0', '0'] => some (time, none)
  | [s, a, b, ':', c, d] =>
    some (time, some (signed (s = '-') (number [a, b] * 60 + number [c, d])))
  | _ => none

def plainTime (date : Date) (hour minute : Nat) : Option LocalTime :=
  if hour < 24 ∧ minute < 60 then some ⟨date, (hour * 60 + minute) * MINUTE⟩ else none

/-- The time and the offset behind a date. -/
def plainClock (date : Date) : List Char → Option (LocalTime × Option Int)
  | [] => some (date.midnight, none)
  | 'T' :: a :: b :: ':' :: c :: d :: zone =>
    (plainTime date (number [a, b]) (number [c, d])).bind fun time => plainZone time zone
  | _ => none

def plainISO : List Char → Option (LocalTime × Option Int)
  | a :: b :: c :: d :: '-' :: e :: f :: '-' :: g :: h :: clock =>
    let date : Date := ⟨number [a, b, c, d], number [e, f], number [g, h]⟩
    if date.Valid then plainClock date clock else none
  | _ => none

def plainLuxon : Luxon := { noteLuxon with
  fromISO := plainISO
  toISO := fun instant =>
    if instant = (⟨2026, 2, 27⟩ : Date).midnight.instant 0 then "2026-02-27T00:00:00.000Z"
    else noteLuxon.toISO instant }

/-- It knows the 29th of February without a year, in a year that has it. -/
def plainReader : FormatReader where
  prepare _ trimmed := (trimmed, none)
  fromFormat locale fmt input :=
    if locale = none ∧ fmt = "d MMMM".toList ∧ input = "29 February".toList then
      some ⟨⟨2028, 2, 29⟩, 0⟩
    else none
  resolveZoneOffsetMinutes _ _ := none

section Plain
variable {date : Date} {time : LocalTime} {offset : Int}

theorem time_of_plainZone {zone : List Char} {read : Option Int} {other : LocalTime}
    (h : plainZone other zone = some (time, read)) : other = time := by
  unfold plainZone at h
  split at h
  · exact (Prod.mk.inj (Option.some.inj h)).1
  · exact (Prod.mk.inj (Option.some.inj h)).1
  · exact (Prod.mk.inj (Option.some.inj h)).1
  · cases h

theorem real_plainTime {hour minute : Nat} (hvalid : date.Valid)
    (h : plainTime date hour minute = some time) : Real time := by
  unfold plainTime at h
  split at h
  · next hrange =>
    obtain rfl := Option.some.inj h
    refine ⟨hvalid, ?_⟩
    simp only [MINUTE, DAY]
    omega
  · cases h

theorem real_plainClock {clock : List Char} {zone : Option Int} (hvalid : date.Valid)
    (h : plainClock date clock = some (time, zone)) : Real time := by
  unfold plainClock at h
  split at h
  · obtain ⟨rfl, -⟩ := Prod.mk.inj (Option.some.inj h)
    exact ⟨hvalid, by simp [Date.midnight, DAY]⟩
  · obtain ⟨other, hother, hzone⟩ := Option.bind_eq_some_iff.mp h
    obtain rfl := time_of_plainZone hzone
    exact real_plainTime hvalid hother
  · cases h

theorem givesReal_plain : GivesReal plainLuxon plainReader where
  iso := by
    intro text time zone h
    simp only [plainLuxon, plainISO] at h
    split at h
    · split at h
      · next hvalid => exact real_plainClock hvalid h
      · cases h
    · cases h
  format := by
    intro locale fmt input time h
    simp only [plainReader] at h
    split at h
    · obtain rfl := Option.some.inj h
      exact ⟨by decide, by decide⟩
    · cases h

theorem padStart_four {n : Nat} (h : n < 10000) : ∃ a b c d, padStart 4 n = [a, b, c, d] := by
  have hdigits : (Nat.toDigits 10 n).length ≤ 4 :=
    (Nat.length_toDigits_le_iff (by decide) (by decide)).mpr h
  have hlength : (padStart 4 n).length = 4 := by
    unfold padStart
    rw [List.leftpad, List.length_append, List.length_replicate]
    omega
  generalize padStart 4 n = text at hlength
  rcases text with _ | ⟨a, _ | ⟨b, _ | ⟨c, _ | ⟨d, _ | ⟨e, rest⟩⟩⟩⟩⟩
  case cons.cons.cons.cons.nil => exact ⟨a, b, c, d, rfl⟩
  all_goals simp at hlength

theorem plainISO_dateText (hvalid : date.Valid) (hyear : FourDigits date.year) (clock : List Char) :
    plainISO (dateText date ++ clock) = plainClock date clock := by
  have hmonth := hvalid.month_le
  have hday := hvalid.day_le_31
  obtain ⟨hpos, hmax⟩ := hyear
  obtain ⟨a, b, c, d, htext⟩ := padStart_four (by omega : date.year.natAbs < 10000)
  obtain ⟨e, f, htext', -, -⟩ := padStart_two (by omega : date.month < 100)
  obtain ⟨g, h, htext'', -, -⟩ := padStart_two (by omega : date.day < 100)
  have hyearText : yearText date.year = [a, b, c, d] := by
    rw [yearText, if_neg (by omega), htext]
  have hread : (⟨number [a, b, c, d], number [e, f], number [g, h]⟩ : Date) = date := by
    have hyears : (number [a, b, c, d] : Int) = date.year := by
      rw [number, ← htext, ofDigitChars_padStart]
      omega
    have hmonths : number [e, f] = date.month := by
      rw [number, ← htext', ofDigitChars_padStart]
    have hdays : number [g, h] = date.day := by
      rw [number, ← htext'', ofDigitChars_padStart]
    rw [hyears, hmonths, hdays]
  have hfull : dateText date ++ clock =
      a :: b :: c :: d :: '-' :: e :: f :: '-' :: g :: h :: clock := by
    simp [dateText, hyearText, htext', htext'']
  rw [hfull, plainISO]
  simp only [hread, hvalid, if_true]

/-- The clock of a time is read as its minute. -/
theorem clockText_chars (h : time.millis < DAY) : ∃ a b c d, clockText time = [a, b, ':', c, d] ∧
    plainTime time.date (number [a, b]) (number [c, d]) = some (toMinute time) := by
  obtain ⟨a, b, htext, -, -⟩ := padStart_hour h
  obtain ⟨c, d, htext', -, -⟩ := padStart_minute time
  have hmillis : time.hour * 60 + time.minute = time.millis / MINUTE := by
    simp only [LocalTime.hour, LocalTime.minute, MINUTE]
    omega
  refine ⟨a, b, c, d, by simp [clockText, htext, htext'], ?_⟩
  rw [number, number, ← htext, ← htext', ofDigitChars_padStart, ofDigitChars_padStart, plainTime,
    if_pos ⟨hour_lt h, minute_lt time⟩, hmillis, toMinute]

theorem offsetText_chars (h : offset.natAbs / 60 < 100) : ∃ s a b c d,
    offsetText offset = [s, a, b, ':', c, d] ∧
      signed (s = '-') (number [a, b] * 60 + number [c, d]) = offset := by
  obtain ⟨a, b, htext, -, -⟩ := padStart_two h
  obtain ⟨c, d, htext', -, -⟩ := padStart_two (by omega : offset.natAbs % 60 < 100)
  refine ⟨if offset < 0 then '-' else '+', a, b, c, d, by simp [offsetText, htext, htext'], ?_⟩
  rw [number, number, ← htext, ← htext', ofDigitChars_padStart, ofDigitChars_padStart]
  by_cases hneg : offset < 0
  · simp only [signed, hneg, if_true, decide_true]
    omega
  · have hplus : ('+' = '-') = False := by simp
    simp only [signed, hneg, if_false, hplus, decide_false, Bool.false_eq_true]
    omega

theorem plainClock_eq {a b c d : Char}
    (h : plainTime date (number [a, b]) (number [c, d]) = some time) (zone : List Char) :
    plainClock date ('T' :: a :: b :: ':' :: c :: d :: zone) = plainZone time zone := by
  rw [plainClock, h, Option.bind_some]

theorem readsDisplay_plain : ReadsDisplay plainLuxon := by
  intro reading hwell hshow
  cases reading with
  | day date =>
    have hday := plainISO_dateText hwell hshow []
    rw [List.append_nil] at hday
    exact hday
  | clock time =>
    obtain ⟨a, b, c, d, hclock, htime⟩ := clockText_chars hwell.2
    have hread := plainISO_dateText hwell.1 hshow ('T' :: clockText time)
    rw [hclock, plainClock_eq htime, ← hclock] at hread
    exact hread
  | full time offset =>
    obtain ⟨a, b, c, d, hclock, htime⟩ := clockText_chars hwell.2
    obtain ⟨s, e, f, g, h, hoffset, hminutes⟩ := offsetText_chars hshow.2
    have hread := plainISO_dateText hwell.1 hshow.1 ('T' :: (clockText time ++ offsetText offset))
    have hchars : 'T' :: (clockText time ++ offsetText offset) =
        ['T', a, b, ':', c, d, s, e, f, ':', g, h] := by
      simp [hclock, hoffset]
    have hfull : fullText time offset =
        dateText time.date ++ ('T' :: (clockText time ++ offsetText offset)) := by
      simp [fullText]
    rw [hchars, plainClock_eq htime, plainZone, hminutes, ← hchars, ← hfull] at hread
    exact hread
  | invalid text => cases hshow

end Plain

end SesEmailAdapter.Classifier.DateReadings
