import SesEmailAdapter.Classifier.SlashDates

/-! # Dates in the ISO format

A text in the ISO format is read by the date library, and shown again as a display date with the
time and the offset that two patterns find in the text. The library reads more forms than the
patterns know. -/

namespace SesEmailAdapter.Classifier.IsoDates
open Lib.CivilDate Lib.TextMatch
open Classifier.CoerceWorkflowData
open Classifier.DisplayDates Classifier.SlashDates
open Email.Address (isSpace trim)

/-! ## Texts in the ISO format -/

/-- The year, with four digits, or with a sign and six. -/
def isoYearText (expanded : Bool) (year : Int) : List Char :=
  if expanded then (if year < 0 then '-' else '+') :: padStart 6 year.natAbs
  else padStart 4 year.natAbs

inductive IsoDate
  | calendar (expanded extended : Bool) (date : Date)
  /-- By the day of the year. -/
  | ordinal (expanded extended : Bool) (year : Int) (day : Nat)
  /-- By the week and its day, from Monday on. -/
  | week (expanded extended : Bool) (year : Int) (index weekday : Nat)
deriving DecidableEq, Repr

def hyphen (extended : Bool) : List Char := if extended then ['-'] else []

def IsoDate.text : IsoDate → List Char
  | .calendar expanded extended date => isoYearText expanded date.year ++ hyphen extended ++
      padStart 2 date.month ++ hyphen extended ++ padStart 2 date.day
  | .ordinal expanded extended year day => isoYearText expanded year ++ hyphen extended ++
      padStart 3 day
  | .week expanded extended year index weekday => isoYearText expanded year ++ hyphen extended ++
      'W' :: padStart 2 index ++ hyphen extended ++ padStart 1 weekday

/-- The Monday of the week with the fourth of January. -/
def firstMonday (year : Int) : Int :=
  let fourth := (⟨year, 1, 4⟩ : Date).dayNumber
  fourth - (fourth + 3) % 7

def IsoDate.dayNumber : IsoDate → Int
  | .calendar _ _ date => date.dayNumber
  | .ordinal _ _ year day => (⟨year, 1, 1⟩ : Date).dayNumber + day - 1
  | .week _ _ year index weekday => firstMonday year + 7 * (index - 1) + weekday - 1

def YearFits (expanded : Bool) (year : Int) : Prop :=
  if expanded then year.natAbs < 1000000 else 0 ≤ year ∧ year ≤ 9999

def IsoDate.Valid : IsoDate → Prop
  | .calendar expanded _ date => YearFits expanded date.year ∧ date.Valid
  | .ordinal expanded _ year day => YearFits expanded year ∧ 1 ≤ day ∧ day ≤ yearLength year
  | .week expanded _ year index weekday => YearFits expanded year ∧ 1 ≤ index ∧ index ≤ 53 ∧
      firstMonday year + 7 * (index - 1) < firstMonday (year + 1) ∧ 1 ≤ weekday ∧ weekday ≤ 7

/-- The time of day, to the hour, the minute or the second, with a fraction of the second. -/
inductive IsoTime
  | hours (hour : Nat)
  | minutes (extended : Bool) (hour minute : Nat)
  | seconds (extended : Bool) (hour minute second : Nat) (fraction : Option (Bool × List Char))
deriving DecidableEq, Repr

def colon (extended : Bool) : List Char := if extended then [':'] else []

/-- The fraction stands after a comma or a point. -/
def fractionText : Option (Bool × List Char) → List Char
  | none => []
  | some (comma, digits) => (if comma then ',' else '.') :: digits

def IsoTime.text : IsoTime → List Char
  | .hours hour => padStart 2 hour
  | .minutes extended hour minute => padStart 2 hour ++ colon extended ++ padStart 2 minute
  | .seconds extended hour minute second fraction => padStart 2 hour ++ colon extended ++
      padStart 2 minute ++ colon extended ++ padStart 2 second ++ fractionText fraction

/-- The milliseconds of a fraction, the rest of which is cut off. -/
def fractionMillis : Option (Bool × List Char) → Nat
  | none => 0
  | some (_, digits) => number ((digits ++ ['0', '0', '0']).take 3)

def IsoTime.millis : IsoTime → Nat
  | .hours hour => hour * 3600000
  | .minutes _ hour minute => hour * 3600000 + minute * MINUTE
  | .seconds _ hour minute second fraction =>
    hour * 3600000 + minute * MINUTE + second * 1000 + fractionMillis fraction

def IsoTime.InRange : IsoTime → Prop
  | .hours hour => hour ≤ 24
  | .minutes _ hour minute => hour ≤ 24 ∧ minute ≤ 59
  | .seconds _ hour minute second fraction => hour ≤ 24 ∧ minute ≤ 59 ∧ second ≤ 59 ∧
      ∀ digits ∈ fraction.map Prod.snd, digits ≠ [] ∧ ∀ c ∈ digits, c.isDigit = true

/-- A time up to the end of the day. -/
def IsoTime.Valid (time : IsoTime) : Prop := time.InRange ∧ time.millis ≤ DAY

inductive IsoOffset
  | zulu (upper : Bool)
  | hours (negative : Bool) (hour : Nat)
  | compact (negative : Bool) (hour minute : Nat)
  | extended (negative : Bool) (hour minute : Nat)
deriving DecidableEq, Repr

def sign (negative : Bool) : Char := if negative then '-' else '+'

def IsoOffset.text : IsoOffset → List Char
  | .zulu upper => [if upper then 'Z' else 'z']
  | .hours negative hour => sign negative :: padStart 2 hour
  | .compact negative hour minute => sign negative :: (padStart 2 hour ++ padStart 2 minute)
  | .extended negative hour minute =>
    sign negative :: (padStart 2 hour ++ ':' :: padStart 2 minute)

def signed (negative : Bool) (minutes : Nat) : Int := if negative then -minutes else minutes

def IsoOffset.minutes : IsoOffset → Int
  | .zulu _ => 0
  | .hours negative hour => signed negative (hour * 60)
  | .compact negative hour minute => signed negative (hour * 60 + minute)
  | .extended negative hour minute => signed negative (hour * 60 + minute)

def IsoOffset.Valid : IsoOffset → Prop
  | .zulu _ => True
  | .hours _ hour => hour ≤ 23
  | .compact _ hour minute => hour ≤ 23 ∧ minute ≤ 59
  | .extended _ hour minute => hour ≤ 23 ∧ minute ≤ 59

/-- A date and time with an offset. -/
structure IsoDateTime where
  date : IsoDate
  upperT : Bool
  time : IsoTime
  offset : IsoOffset
deriving DecidableEq, Repr

def IsoDateTime.text (iso : IsoDateTime) : List Char :=
  iso.date.text ++ (if iso.upperT then 'T' else 't') :: (iso.time.text ++ iso.offset.text)

structure IsoDateTime.Valid (iso : IsoDateTime) : Prop where
  date : iso.date.Valid
  time : iso.time.Valid
  offset : iso.offset.Valid

/-- The instant of the minute. -/
def IsoDateTime.minuteInstant (iso : IsoDateTime) : Int :=
  iso.date.dayNumber * DAY + (iso.time.millis / MINUTE * MINUTE : Nat) -
    iso.offset.minutes * MINUTE

/-! ## Coercion -/

structure Luxon where
  /-- The local time that a text in the ISO format states, and its offset if it has one. -/
  fromISO : List Char → Option (LocalTime × Option Int)
  /-- The instant of a local time in a zone, if there is such a zone. -/
  zoneInstant : String → LocalTime → Option Int
  /-- `toISO` in UTC. -/
  toISO : Int → String
  /-- The instant at which a mail was received. -/
  received : String → Received

/-- `SLASH_DATE_PATTERN`: a match of `\d+\/\d+` has a digit on both sides of the slash. -/
def slashPairHere : List Char → Bool
  | a :: '/' :: b :: _ => a.isDigit && b.isDigit
  | _ => false

/-- `coerceDate` of a text without white space around it. A text in the ISO format has its own
offset or that of the process, UTC; the formats of dates that name their month come after. -/
def parseDate (luxon : Luxon) (otherFormats : CoercionContext → List Char → Option (List Char))
    (ctx : CoercionContext) (trimmed : List Char) : Option (List Char) :=
  if somewhere slashPairHere trimmed then
    coerceSlashDate trimmed (luxon.received ctx.receivedAt) ctx.ambiguousDateFormat
  else match luxon.fromISO trimmed with
    | some (time, offset) => some (formatDisplayDate (some ⟨time, offset.getD 0⟩) trimmed none)
    | none => otherFormats ctx trimmed

/-- The instant of a text, in a zone if it has no offset. -/
def Luxon.instantOf (luxon : Luxon) (text : String) (zone : Option String) : Option String := do
  let (time, offset) ← luxon.fromISO text.toList
  match zone, offset with
  | none, some offset => some (luxon.toISO (time.instant offset))
  | none, none => some (luxon.toISO (time.instant 0))
  | some zone, some offset =>
    (luxon.zoneInstant zone time).map fun _ => luxon.toISO (time.instant offset)
  | some zone, none => (luxon.zoneInstant zone time).map luxon.toISO

/-- The coercion of records with this date library. -/
def Luxon.env (luxon : Luxon) (otherFormats : CoercionContext → List Char → Option (List Char))
    (rest : Env) : Env :=
  { rest with
    displayDate := fun ctx trimmed => (parseDate luxon otherFormats ctx trimmed).map String.ofList
    fromISO := luxon.instantOf }

/-! ## What is kept -/

/-- The display date with time and offset. -/
def fullText (time : LocalTime) (offset : Int) : List Char :=
  dateText time.date ++ 'T' :: clockText time ++ offsetText offset

/-- The date is shown with its time and its offset, and stands for the minute that was written. -/
def KeepsInstant (luxon : Luxon) (otherFormats : CoercionContext → List Char → Option (List Char))
    (rest : Env) (ctx : CoercionContext) (iso : IsoDateTime) : Prop :=
  ∃ time, coerceDate (luxon.env otherFormats rest) ctx (.str (String.ofList iso.text)) =
      some (String.ofList (fullText time iso.offset.minutes)) ∧
    displayToInstant (luxon.env otherFormats rest)
      (String.ofList (fullText time iso.offset.minutes)) ctx.accountTimezone =
      some (luxon.toISO iso.minuteInstant)

/-- The local time of the text, by the calendar. -/
structure States (iso : IsoDateTime) (time : LocalTime) : Prop where
  valid : time.date.Valid
  inDay : time.millis < DAY
  same : time.date.dayNumber * DAY + time.millis = iso.date.dayNumber * DAY + iso.time.millis

/-- The hours and the minutes are written with a colon between them. -/
def IsoTime.Colon : IsoTime → Prop
  | .hours _ => False
  | .minutes extended _ _ => extended = true
  | .seconds extended _ _ _ _ => extended = true

def IsoOffset.HoursOnly : IsoOffset → Prop
  | .hours _ _ => True
  | _ => False

def FourDigits (year : Int) : Prop := 0 ≤ year ∧ year ≤ 9999

instance (year : Int) : Decidable (FourDigits year) := inferInstanceAs (Decidable (_ ∧ _))

/-- The text has a capital `T`, a colon in its time and the minutes of its offset, and its local
year has four digits. -/
structure Fits (iso : IsoDateTime) (time : LocalTime) : Prop where
  upperT : iso.upperT = true
  colon : iso.time.Colon
  offset : ¬ iso.offset.HoursOnly
  year : FourDigits time.date.year

/-! ## The characters of a text -/

/-- Digits, and marks of a kind. -/
def Written (marks text : List Char) : Prop := ∀ c ∈ text, c.isDigit = true ∨ c ∈ marks

section Characters
variable {marks text more : List Char} {iso : IsoDateTime}

theorem written_nil : Written marks [] := by
  intro c hc
  cases hc

theorem Written.append (h : Written marks text) (h' : Written marks more) :
    Written marks (text ++ more) := by
  intro c hc
  rcases List.mem_append.mp hc with hc | hc
  · exact h c hc
  · exact h' c hc

variable {text : List Char} {c : Char}

theorem Written.cons (hc : c ∈ marks) (h : Written marks text) :
    Written marks (c :: text) := by
  intro d hd
  rcases List.mem_cons.mp hd with rfl | hd
  · exact .inr hc
  · exact h d hd

theorem Written.not_mem (h : Written marks text) (hdigit : c.isDigit = false)
    (hc : c ∉ marks) : c ∉ text := by
  intro hmem
  rcases h c hmem with hd | hd
  · rw [hdigit] at hd
    cases hd
  · exact hc hd

theorem written_padStart (width n : Nat) : Written marks (padStart width n) :=
  fun _ hc => .inl (isDigit_of_mem_padStart hc)

theorem padStart_two {n : Nat} (h : n < 100) :
    ∃ a b, padStart 2 n = [a, b] ∧ a.isDigit = true ∧ b.isDigit = true := by
  obtain ⟨a, b, htext⟩ := List.length_eq_two.mp (length_padStart_two h)
  have hdigit {c : Char} (hc : c ∈ padStart 2 n) : c.isDigit = true := isDigit_of_mem_padStart hc
  exact ⟨a, b, htext, hdigit (by simp [htext]), hdigit (by simp [htext])⟩

theorem written_date (date : IsoDate) : Written ['+', '-', 'W'] date.text := by
  have hyear (expanded : Bool) (year : Int) :
      Written ['+', '-', 'W'] (isoYearText expanded year) := by
    unfold isoYearText
    split
    · refine Written.cons ?_ (written_padStart _ _)
      split <;> simp
    · exact written_padStart _ _
  have hhyphen (extended : Bool) : Written ['+', '-', 'W'] (hyphen extended) := by
    cases extended
    · exact written_nil
    · exact Written.cons (by simp) written_nil
  cases date with
  | calendar expanded extended date =>
    exact ((((hyear _ _).append (hhyphen _)).append (written_padStart _ _)).append
      (hhyphen _)).append (written_padStart _ _)
  | ordinal expanded extended year day =>
    exact ((hyear _ _).append (hhyphen _)).append (written_padStart _ _)
  | week expanded extended year index weekday =>
    have hindex : Written ['+', '-', 'W'] ('W' :: padStart 2 index) :=
      Written.cons (by simp) (written_padStart _ _)
    exact ((((hyear _ _).append (hhyphen _)).append hindex).append
      (hhyphen _)).append (written_padStart _ _)

theorem written_time {time : IsoTime} (h : time.InRange) : Written [':', '.', ','] time.text := by
  have hcolon (extended : Bool) : Written [':', '.', ','] (colon extended) := by
    cases extended
    · exact written_nil
    · exact Written.cons (by simp) written_nil
  cases time with
  | hours hour => exact written_padStart _ _
  | minutes extended hour minute =>
    exact ((written_padStart _ _).append (hcolon _)).append (written_padStart _ _)
  | seconds extended hour minute second fraction =>
    have hfraction : Written [':', '.', ','] (fractionText fraction) := by
      cases fraction with
      | none => exact written_nil
      | some fraction =>
        obtain ⟨comma, digits⟩ := fraction
        have hdigits := (h.2.2.2 digits (by simp)).2
        refine Written.cons ?_ fun c hc => .inl (hdigits c hc)
        cases comma <;> simp
    exact (((((written_padStart _ _).append (hcolon _)).append (written_padStart _ _)).append
      (hcolon _)).append (written_padStart _ _)).append hfraction

theorem written_offset (offset : IsoOffset) :
    Written ['+', '-', ':', 'Z', 'z'] offset.text := by
  have hsign (negative : Bool) : sign negative ∈ ['+', '-', ':', 'Z', 'z'] := by
    cases negative <;> simp [sign]
  cases offset with
  | zulu upper =>
    refine Written.cons ?_ written_nil
    cases upper <;> simp
  | hours negative hour => exact Written.cons (hsign _) (written_padStart _ _)
  | compact negative hour minute =>
    exact Written.cons (hsign _) ((written_padStart _ _).append (written_padStart _ _))
  | extended negative hour minute =>
    exact Written.cons (hsign _) ((written_padStart _ _).append
      (Written.cons (by simp) (written_padStart _ _)))

/-- What stands behind the `T` has no such letter. -/
theorem not_mem_clock (hvalid : iso.time.InRange)
    (hc : c = 'T' ∨ c = 't' ∨ c = '/') : c ∉ iso.time.text ++ iso.offset.text := by
  have htime : c ∉ iso.time.text := by
    refine (written_time hvalid).not_mem ?_ ?_
    · rcases hc with rfl | rfl | rfl <;> rfl
    · rcases hc with rfl | rfl | rfl <;> simp
  have hoffset : c ∉ iso.offset.text := by
    refine (written_offset _).not_mem ?_ ?_
    · rcases hc with rfl | rfl | rfl <;> rfl
    · rcases hc with rfl | rfl | rfl <;> simp
  simp [htime, hoffset]

theorem not_mem_date (hc : c = 'T' ∨ c = 't' ∨ c = '/') : c ∉ iso.date.text := by
  refine (written_date _).not_mem ?_ ?_
  · rcases hc with rfl | rfl | rfl <;> rfl
  · rcases hc with rfl | rfl | rfl <;> simp

theorem Written.mono {other : List Char} (h : Written marks text)
    (hsub : ∀ c ∈ marks, c ∈ other) : Written other text := by
  intro c hc
  exact (h c hc).imp id (hsub c)

def isoMarks : List Char := ['+', '-', 'W', ':', '.', ',', 'Z', 'z', 'T', 't']

theorem isSpace_of_written (h : Written isoMarks text) : ∀ c ∈ text, isSpace c = false := by
  intro c hc
  rcases h c hc with hdigit | hmark
  · simp only [Char.isDigit, Bool.and_eq_true, decide_eq_true_eq] at hdigit
    have hlow : 48 ≤ c.toNat := hdigit.1
    have hhigh : c.toNat ≤ 57 := hdigit.2
    simp only [isSpace, List.mem_cons, List.not_mem_nil, or_false, decide_eq_false_iff_not]
    omega
  · have hall : isoMarks.all (fun c => !isSpace c) = true := rfl
    simpa using List.all_eq_true.mp hall c hmark

theorem written_iso (hvalid : iso.time.InRange) : Written isoMarks iso.text := by
  have hdate : Written isoMarks iso.date.text := (written_date _).mono (by simp [isoMarks])
  have htime : Written isoMarks iso.time.text := (written_time hvalid).mono (by simp [isoMarks])
  have hoffset : Written isoMarks iso.offset.text := (written_offset _).mono (by simp [isoMarks])
  refine hdate.append (Written.cons ?_ (htime.append hoffset))
  cases iso.upperT <;> simp [isoMarks]

end Characters

/-! ## What the patterns find -/

section Patterns
variable {iso : IsoDateTime}

/-- A character that a text has once is found at one place. -/
theorem split_unique {c s : Char} {before after before' after' : List Char}
    (h : before ++ c :: after = before' ++ s :: after') (hbefore : c ∉ before')
    (hafter : c ∉ after') : before = before' ∧ s = c ∧ after = after' := by
  rcases List.append_eq_append_iff.mp h with ⟨between, rfl, hrest⟩ | ⟨between, rfl, hrest⟩
  · cases between with
    | nil =>
      obtain ⟨rfl, rfl⟩ := List.cons.inj hrest
      simp
    | cons d between =>
      obtain ⟨rfl, -⟩ := List.cons.inj hrest
      exact absurd (by simp) hbefore
  · cases between with
    | nil =>
      obtain ⟨rfl, rfl⟩ := List.cons.inj hrest
      simp
    | cons d between =>
      obtain ⟨-, rfl⟩ := List.cons.inj hrest
      exact absurd (by simp) hafter

theorem isoTimeHere_of_ne {t a b c : Char} {rest : List Char} (h : c ≠ ':') :
    isoTimeHere (t :: a :: b :: c :: rest) = false := by
  rcases rest with _ | ⟨d, _ | ⟨e, rest⟩⟩
  · rfl
  · rfl
  · simp [isoTimeHere, h]

theorem ne_colon (h : c.isDigit = true) : c ≠ ':' := by
  rintro rfl
  cases h

theorem offset_cons (offset : IsoOffset) :
    ∃ c rest, offset.text = c :: rest ∧ c ≠ ':' ∧ c.isDigit = false := by
  have hsign (negative : Bool) : sign negative ≠ ':' ∧ (sign negative).isDigit = false := by
    cases negative <;> exact ⟨by decide, rfl⟩
  cases offset with
  | zulu upper =>
    refine ⟨_, _, rfl, ?_⟩
    cases upper <;> exact ⟨by decide, rfl⟩
  | hours negative hour => exact ⟨_, _, rfl, hsign negative⟩
  | compact negative hour minute => exact ⟨_, _, rfl, hsign negative⟩
  | extended negative hour minute => exact ⟨_, _, rfl, hsign negative⟩

theorem isoTimeHere_iff (hvalid : iso.time.InRange) :
    isoTimeHere ('T' :: (iso.time.text ++ iso.offset.text)) = true ↔ iso.time.Colon := by
  obtain ⟨o, more, hoffset, ho, -⟩ := offset_cons iso.offset
  rw [hoffset]
  cases htime : iso.time with
  | hours hour =>
    have hhour : hour ≤ 24 := by simpa [htime, IsoTime.InRange] using hvalid
    obtain ⟨a, b, htext, -, -⟩ := padStart_two (by omega : hour < 100)
    simp [IsoTime.text, htext, isoTimeHere_of_ne ho, IsoTime.Colon]
  | minutes extended hour minute =>
    have hrange : hour ≤ 24 ∧ minute ≤ 59 := by simpa [htime, IsoTime.InRange] using hvalid
    obtain ⟨a, b, htext, ha, hb⟩ := padStart_two (by omega : hour < 100)
    obtain ⟨c, d, htext', hc, hd⟩ := padStart_two (by omega : minute < 100)
    cases extended with
    | true => simp [IsoTime.text, htext, htext', colon, isoTimeHere, ha, hb, hc, hd, IsoTime.Colon]
    | false =>
      simp [IsoTime.text, htext, htext', colon, isoTimeHere_of_ne (ne_colon hc), IsoTime.Colon]
  | seconds extended hour minute second fraction =>
    have hrange : hour ≤ 24 ∧ minute ≤ 59 := by
      rw [htime] at hvalid
      exact ⟨hvalid.1, hvalid.2.1⟩
    obtain ⟨a, b, htext, ha, hb⟩ := padStart_two (by omega : hour < 100)
    obtain ⟨c, d, htext', hc, hd⟩ := padStart_two (by omega : minute < 100)
    cases extended with
    | true => simp [IsoTime.text, htext, htext', colon, isoTimeHere, ha, hb, hc, hd, IsoTime.Colon]
    | false =>
      simp [IsoTime.text, htext, htext', colon, isoTimeHere_of_ne (ne_colon hc), IsoTime.Colon]

theorem spacedTimeHere_space (h : spacedTimeHere text = true) :
    ∃ c ∈ text.head?, isSpace c = true := by
  unfold spacedTimeHere at h
  split at h
  · simp only [Bool.and_eq_true] at h
    exact ⟨_, rfl, h.1.1.1⟩
  · simp only [Bool.and_eq_true] at h
    exact ⟨_, rfl, h.1.1.1.1⟩
  · cases h

/-- Nothing in a text without blanks is a time after one. -/
theorem not_spacedTime (hspace : ∀ c ∈ text, isSpace c = false) :
    somewhere spacedTimeHere text = false := by
  rw [Bool.eq_false_iff]
  intro h
  obtain ⟨before, after, rfl, hhere⟩ := somewhere_iff.mp h
  obtain ⟨c, hc, hblank⟩ := spacedTimeHere_space hhere
  rw [hspace c (List.mem_append_right _ (List.mem_of_mem_head? hc))] at hblank
  cases hblank

theorem isoTimeHere_cons (h : isoTimeHere text = true) :
    ∃ rest, text = 'T' :: rest := by
  unfold isoTimeHere at h
  split at h
  · simp only [Bool.and_eq_true, decide_eq_true_eq] at h
    obtain ⟨⟨⟨⟨⟨rfl, -⟩, -⟩, -⟩, -⟩, -⟩ := h
    exact ⟨_, rfl⟩
  · cases h

theorem hasTimeComponent_iff (hvalid : iso.time.InRange) :
    hasTimeComponent iso.text = true ↔ iso.upperT = true ∧ iso.time.Colon := by
  have hspaced := not_spacedTime (isSpace_of_written (written_iso hvalid))
  rw [hasTimeComponent, hspaced, Bool.or_false, somewhere_iff]
  constructor
  · rintro ⟨before, after, htext, hhere⟩
    obtain ⟨rest, rfl⟩ := isoTimeHere_cons hhere
    obtain ⟨-, hsep, rfl⟩ := split_unique htext.symm (not_mem_date (.inl rfl))
      (not_mem_clock hvalid (.inl rfl))
    refine ⟨?_, (isoTimeHere_iff hvalid).mp hhere⟩
    cases hupper : iso.upperT
    · rw [hupper] at hsep
      exact absurd hsep (by decide)
    · rfl
  · rintro ⟨hupper, hcolon⟩
    refine ⟨iso.date.text, _, rfl, ?_⟩
    rw [hupper]
    exact (isoTimeHere_iff hvalid).mpr hcolon

theorem isLineEnd_of_isSpace (h : isSpace c = false) : isLineEnd c = false := by
  simp only [isSpace, decide_eq_false_iff_not, List.mem_cons, List.not_mem_nil, or_false] at h
  simp only [isLineEnd, decide_eq_false_iff_not, List.mem_cons, List.not_mem_nil, or_false]
  omega

theorem time_ne_nil (time : IsoTime) (hvalid : time.InRange) : time.text ≠ [] := by
  have hpad {n : Nat} (h : n ≤ 24) (rest : List Char) : padStart 2 n ++ rest ≠ [] := by
    obtain ⟨a, b, htext, -, -⟩ := padStart_two (by omega : n < 100)
    simp [htext]
  cases time with
  | hours hour =>
    have hne := hpad hvalid []
    simpa [IsoTime.text] using hne
  | minutes extended hour minute =>
    simpa [IsoTime.text] using hpad hvalid.1 (colon extended ++ padStart 2 minute)
  | seconds extended hour minute second fraction =>
    simpa [IsoTime.text] using hpad hvalid.1 (colon extended ++ (padStart 2 minute ++
      (colon extended ++ (padStart 2 second ++ fractionText fraction))))

/-- The text before the offset. -/
def IsoDateTime.front (iso : IsoDateTime) : List Char :=
  iso.date.text ++ (if iso.upperT then 'T' else 't') :: iso.time.text

theorem text_eq_front (iso : IsoDateTime) : iso.text = iso.front ++ iso.offset.text := by
  simp [IsoDateTime.text, IsoDateTime.front]

theorem endsInZulu_zulu (hvalid : iso.time.InRange) {z : Char} (hz : z = 'Z' ∨ z = 'z') :
    endsInZulu (iso.front ++ [z]) = true := by
  have hline : somewhere lineFromT iso.front = true := by
    refine somewhere_iff.mpr ⟨iso.date.text, _, rfl, ?_⟩
    have htime : Written isoMarks iso.time.text := (written_time hvalid).mono (by simp [isoMarks])
    have hends : iso.time.text.all (fun c => !isLineEnd c) = true := by
      rw [List.all_eq_true]
      intro c hc
      simp [isLineEnd_of_isSpace (isSpace_of_written htime c hc)]
    have hne := time_ne_nil iso.time hvalid
    cases iso.upperT <;> simp [lineFromT, hne, hends]
  rcases hz with rfl | rfl <;> simp [endsInZulu, hline]

theorem sign_cases (negative : Bool) : sign negative = '+' ∨ sign negative = '-' := by
  cases negative
  · exact .inl rfl
  · exact .inr rfl

theorem endsInOffset_extended (front : List Char) (negative : Bool) {a b c d : Char}
    (ha : a.isDigit = true) (hb : b.isDigit = true) (hc : c.isDigit = true)
    (hd : d.isDigit = true) :
    endsInOffset (front ++ [sign negative, a, b, ':', c, d]) = true := by
  rcases sign_cases negative with hsign | hsign <;> simp [endsInOffset, ha, hb, hc, hd, hsign]

theorem endsInCompactOffset_compact (front : List Char) (negative : Bool) {a b c d : Char}
    (ha : a.isDigit = true) (hb : b.isDigit = true) (hc : c.isDigit = true)
    (hd : d.isDigit = true) :
    endsInCompactOffset (front ++ [sign negative, a, b, c, d]) = true := by
  rcases sign_cases negative with hsign | hsign <;>
    simp [endsInCompactOffset, ha, hb, hc, hd, hsign]

/-- An offset of hours only is none for the patterns. -/
theorem hasExplicitOffset_hours (front : List Char) (negative : Bool) {a b : Char}
    (hb : b.isDigit = true) : hasExplicitOffset (front ++ [sign negative, a, b]) = false := by
  have hlast : b ≠ 'Z' ∧ b ≠ 'z' := by
    constructor <;> rintro rfl <;> cases hb
  have hreverse : (front ++ [sign negative, a, b]).reverse =
      b :: a :: sign negative :: front.reverse := by simp
  simp only [hasExplicitOffset, endsInZulu, endsInOffset, endsInCompactOffset, hreverse]
  generalize front.reverse = rest
  rcases sign_cases negative with hsign | hsign <;>
    rcases rest with _ | ⟨c, _ | ⟨d, rest⟩⟩ <;> simp [hsign, hlast]

theorem hasExplicitOffset_iff (hvalid : iso.time.InRange) (hoffset : iso.offset.Valid) :
    hasExplicitOffset iso.text = true ↔ ¬ iso.offset.HoursOnly := by
  rw [text_eq_front]
  cases hform : iso.offset with
  | zulu upper =>
    have hz : (if upper then 'Z' else 'z') = 'Z' ∨ (if upper then 'Z' else 'z') = 'z' := by
      cases upper <;> simp
    simp [IsoOffset.text, hasExplicitOffset, endsInZulu_zulu hvalid hz, IsoOffset.HoursOnly]
  | hours negative hour =>
    have hhour : hour ≤ 23 := by simpa [hform, IsoOffset.Valid] using hoffset
    obtain ⟨a, b, htext, -, hb⟩ := padStart_two (by omega : hour < 100)
    simp [IsoOffset.text, htext, hasExplicitOffset_hours _ _ hb, IsoOffset.HoursOnly]
  | compact negative hour minute =>
    have hrange : hour ≤ 23 ∧ minute ≤ 59 := by simpa [hform, IsoOffset.Valid] using hoffset
    obtain ⟨a, b, htext, ha, hb⟩ := padStart_two (by omega : hour < 100)
    obtain ⟨c, d, htext', hc, hd⟩ := padStart_two (by omega : minute < 100)
    simp [IsoOffset.text, htext, htext', hasExplicitOffset,
      endsInCompactOffset_compact _ _ ha hb hc hd, IsoOffset.HoursOnly]
  | extended negative hour minute =>
    have hrange : hour ≤ 23 ∧ minute ≤ 59 := by simpa [hform, IsoOffset.Valid] using hoffset
    obtain ⟨a, b, htext, ha, hb⟩ := padStart_two (by omega : hour < 100)
    obtain ⟨c, d, htext', hc, hd⟩ := padStart_two (by omega : minute < 100)
    simp [IsoOffset.text, htext, htext', hasExplicitOffset,
      endsInOffset_extended _ _ ha hb hc hd, IsoOffset.HoursOnly]

end Patterns

/-! ## The display date -/

section Display
variable {iso : IsoDateTime} {time other : LocalTime} {luxon : Luxon}
  {otherFormats : CoercionContext → List Char → Option (List Char)} {rest : Env}
  {ctx : CoercionContext} {offset : Int}

theorem not_slashPair (h : '/' ∉ text) :
    somewhere slashPairHere text = false := by
  rw [Bool.eq_false_iff]
  intro hsome
  obtain ⟨before, after, rfl, hhere⟩ := somewhere_iff.mp hsome
  have hslash : '/' ∈ after := by
    unfold slashPairHere at hhere
    split at hhere
    · simp
    · cases hhere
  exact h (List.mem_append_right _ hslash)

/-- The date that a text in the ISO format is shown as. -/
theorem coerceDate_iso (hvalid : iso.time.InRange)
    (hread : luxon.fromISO iso.text = some (time, some offset)) :
    coerceDate (luxon.env otherFormats rest) ctx (.str (String.ofList iso.text)) =
      some (String.ofList (formatDisplayDate (some ⟨time, offset⟩) iso.text none)) := by
  have htrim : trim iso.text = iso.text :=
    Email.Address.trim_eq_self (isSpace_of_written (written_iso hvalid))
  have hne : iso.text ≠ [] := by simp [IsoDateTime.text]
  have hslash := not_slashPair ((written_iso hvalid).not_mem rfl (by simp [isoMarks]))
  simp [coerceDate, htrim, hne, Luxon.env, parseDate, hslash, hread]

theorem formatDisplayDate_full (htime : hasTimeComponent iso.text = true)
    (hoffset : hasExplicitOffset iso.text = true) :
    formatDisplayDate (some ⟨time, offset⟩) iso.text none = fullText time offset := by
  simp [formatDisplayDate, htime, hoffset, toFormat, fullText]

theorem length_clockText_le (time : LocalTime) : 5 ≤ (clockText time).length := by
  have hpad (n : Nat) : 2 ≤ (padStart 2 n).length := by
    unfold padStart
    rw [List.leftpad, List.length_append, List.length_replicate]
    omega
  have hhour := hpad time.hour
  have hminute := hpad time.minute
  simp only [clockText, List.length_append, List.length_cons]
  omega

theorem length_clockText (h : time.millis < DAY) : (clockText time).length = 5 := by
  have hhour : time.hour < 100 := by
    simp only [LocalTime.hour, DAY] at h ⊢
    omega
  have hminute : time.minute < 100 := by
    simp only [LocalTime.minute]
    omega
  simp [clockText, length_padStart_two hhour, length_padStart_two hminute]

theorem offsetText_eq (offset : Int) : ∃ negative, offsetText offset = sign negative ::
    (padStart 2 (offset.natAbs / 60) ++ ':' :: padStart 2 (offset.natAbs % 60)) := by
  by_cases h : offset < 0
  · exact ⟨true, by simp [offsetText, sign, h]⟩
  · exact ⟨false, by simp [offsetText, sign, h]⟩

theorem written_clockText (time : LocalTime) : Written [':'] (clockText time) :=
  (written_padStart _ _).append (Written.cons (by simp) (written_padStart _ _))

theorem written_offsetText (offset : Int) : Written ['+', '-', ':'] (offsetText offset) := by
  refine Written.cons ?_ ((written_padStart _ _).append
    (Written.cons (by simp) (written_padStart _ _)))
  split <;> simp

theorem not_mem_shown (time : LocalTime) (offset : Int) :
    'T' ∉ clockText time ++ offsetText offset := by
  have hclock := (written_clockText time).not_mem (c := 'T') rfl (by simp)
  have hoffset := (written_offsetText offset).not_mem (c := 'T') rfl (by simp)
  simp [hclock, hoffset]

/-- A display date that is shown whole has been given its time and its offset. -/
theorem full_of_formatDisplayDate (hinDay : time.millis < DAY)
    (h : formatDisplayDate (some ⟨time, offset⟩) iso.text none = fullText other offset) :
    hasTimeComponent iso.text = true ∧ hasExplicitOffset iso.text = true := by
  have hT : 'T' ∈ fullText other offset := by simp [fullText]
  cases htime : hasTimeComponent iso.text with
  | false =>
    rw [← h] at hT
    simp [formatDisplayDate, htime, toFormat, not_mem_dateText] at hT
  | true =>
    cases hoffset : hasExplicitOffset iso.text with
    | true => exact ⟨rfl, rfl⟩
    | false =>
      have hshort : dateText time.date ++ 'T' :: clockText time =
          dateText other.date ++ 'T' :: (clockText other ++ offsetText offset) := by
        simpa [formatDisplayDate, htime, hoffset, toFormat, fullText] using h
      obtain ⟨-, -, hclock⟩ := split_unique hshort (not_mem_dateText _) (not_mem_shown _ _)
      have hlength := congrArg List.length hclock
      have hlow := length_clockText_le other
      rw [length_clockText hinDay, List.length_append] at hlength
      simp only [offsetText, List.length_cons] at hlength
      omega

/-- The whole display date ends in its offset. -/
theorem hasOffset_full (hoffset : offset.natAbs / 60 < 100) :
    hasOffset (fullText time offset) = true := by
  obtain ⟨negative, hsign⟩ := offsetText_eq offset
  obtain ⟨a, b, htext, ha, hb⟩ := padStart_two hoffset
  obtain ⟨c, d, htext', hc, hd⟩ := padStart_two (by omega : offset.natAbs % 60 < 100)
  have hreverse : (fullText time offset).reverse =
      d :: c :: ':' :: b :: a :: sign negative ::
        (dateText time.date ++ 'T' :: clockText time).reverse := by
    simp [fullText, hsign, htext, htext']
  have hlast : d ≠ 'Z' ∧ d ≠ 'z' := by
    constructor <;> rintro rfl <;> cases hd
  have hsigns := sign_cases negative
  simp [hasOffset, hreverse, hlast, ha, hb, hc, hd, hsigns]

theorem displayToInstant_full (hoffset : offset.natAbs / 60 < 100) {timeRead : LocalTime}
    (hback : luxon.fromISO (fullText time offset) = some (timeRead, some offset)) (zone : String) :
    displayToInstant (luxon.env otherFormats rest) (String.ofList (fullText time offset)) zone =
      some (luxon.toISO (timeRead.instant offset)) := by
  have hT : 'T' ∈ fullText time offset := by simp [fullText]
  simp [displayToInstant, hT, Luxon.env, Luxon.instantOf, hback, hasOffset_full hoffset]

theorem displayToInstant_unread (hback : luxon.fromISO (fullText time offset) = none)
    (zone : String) : displayToInstant (luxon.env otherFormats rest)
      (String.ofList (fullText time offset)) zone = none := by
  have hT : 'T' ∈ fullText time offset := by simp [fullText]
  simp [displayToInstant, hT, Luxon.env, Luxon.instantOf, hback]

theorem offset_bound (hvalid : iso.offset.Valid) : iso.offset.minutes.natAbs / 60 < 100 := by
  have hsigned (negative : Bool) (minutes : Nat) : (signed negative minutes).natAbs = minutes := by
    cases negative <;> simp [signed]
  cases hform : iso.offset with
  | zulu upper => simp [IsoOffset.minutes]
  | hours negative hour =>
    have hhour : hour ≤ 23 := by simpa [hform, IsoOffset.Valid] using hvalid
    rw [IsoOffset.minutes, hsigned]
    omega
  | compact negative hour minute =>
    have hrange : hour ≤ 23 ∧ minute ≤ 59 := by simpa [hform, IsoOffset.Valid] using hvalid
    rw [IsoOffset.minutes, hsigned]
    omega
  | extended negative hour minute =>
    have hrange : hour ≤ 23 ∧ minute ≤ 59 := by simpa [hform, IsoOffset.Valid] using hvalid
    rw [IsoOffset.minutes, hsigned]
    omega

/-- The minute of a local time. -/
def toMinute (time : LocalTime) : LocalTime := ⟨time.date, time.millis / MINUTE * MINUTE⟩

theorem States.minuteInstant (h : States iso time) :
    (toMinute time).instant iso.offset.minutes = iso.minuteInstant := by
  have hday := h.inDay
  have hsame := h.same
  simp only [toMinute, LocalTime.instant, IsoDateTime.minuteInstant, DAY, MINUTE] at hday hsame ⊢
  omega

/-- What the date library makes of the text, and of the whole display date: that has a year of four
digits or more, and a text in the ISO format has four, or a sign. -/
structure Reads (luxon : Luxon) (iso : IsoDateTime) (time : LocalTime) : Prop where
  states : States iso time
  input : luxon.fromISO iso.text = some (time, some iso.offset.minutes)
  shown : FourDigits time.date.year →
    luxon.fromISO (fullText time iso.offset.minutes) =
      some (toMinute time, some iso.offset.minutes)
  wide : ¬ FourDigits time.date.year →
    luxon.fromISO (fullText time iso.offset.minutes) = none

theorem Reads.keepsInstant (hread : Reads luxon iso time) (hvalid : iso.Valid)
    (hfits : Fits iso time) : KeepsInstant luxon otherFormats rest ctx iso := by
  have hinRange := hvalid.time.1
  have htime := (hasTimeComponent_iff hinRange).mpr ⟨hfits.upperT, hfits.colon⟩
  have hoffset := (hasExplicitOffset_iff hinRange hvalid.offset).mpr hfits.offset
  refine ⟨time, ?_, ?_⟩
  · rw [coerceDate_iso hinRange hread.input, formatDisplayDate_full htime hoffset]
  · rw [displayToInstant_full (offset_bound hvalid.offset) (hread.shown hfits.year),
      hread.states.minuteInstant]

theorem Reads.fits (hread : Reads luxon iso time) (hvalid : iso.Valid)
    (h : KeepsInstant luxon otherFormats rest ctx iso) : Fits iso time := by
  have hinRange := hvalid.time.1
  obtain ⟨other, hcoerced, hinstant⟩ := h
  rw [coerceDate_iso hinRange hread.input] at hcoerced
  have hshown := String.ofList_injective (Option.some.inj hcoerced)
  obtain ⟨htime, hoffset⟩ := full_of_formatDisplayDate hread.states.inDay hshown
  obtain ⟨hupper, hcolon⟩ := (hasTimeComponent_iff hinRange).mp htime
  refine ⟨hupper, hcolon, (hasExplicitOffset_iff hinRange hvalid.offset).mp hoffset, ?_⟩
  rw [formatDisplayDate_full htime hoffset] at hshown
  refine Decidable.byContradiction fun hwide => ?_
  rw [← hshown, displayToInstant_unread (hread.wide hwide)] at hinstant
  cases hinstant

/-- **A date and time with an offset is shown with both, and stands for its minute again, exactly
when** it is written with a capital `T`, a colon in its time and the minutes of its offset, and its
local year has four digits. -/
theorem keepsInstant_iff (hvalid : iso.Valid) (hread : Reads luxon iso time) :
    KeepsInstant luxon otherFormats rest ctx iso ↔ Fits iso time :=
  ⟨hread.fits hvalid, hread.keepsInstant hvalid⟩

end Display

/-! ## Three spellings of a morning -/

/-- Half past nine on the 1st of March 2026. -/
def springMorning : LocalTime := ⟨⟨2026, 3, 1⟩, 34200000⟩

theorem springMorning_valid : springMorning.date.Valid ∧ springMorning.millis < DAY := by
  decide

/-- The morning, in a text with the letter and the offset. -/
def spelled (upperT : Bool) (offset : IsoOffset) : IsoDateTime :=
  ⟨.calendar false true ⟨2026, 3, 1⟩, upperT, .minutes true 9 30, offset⟩

/-- The date library, on what the three spellings need. -/
def noteLuxon : Luxon where
  fromISO text :=
    if text = "2026-03-01T09:30+02:00".toList ∨ text = "2026-03-01T09:30+02".toList then
      some (springMorning, some 120)
    else if text = "2026-03-01t09:30z".toList ∨ text = "2026-03-01T09:30+00:00".toList then
      some (springMorning, some 0)
    else none
  zoneInstant zone time := if zone = "UTC" then some (time.instant 0) else none
  toISO instant :=
    if instant = springMorning.instant 120 then "2026-03-01T07:30:00.000Z"
    else "2026-03-01T09:30:00.000Z"
  received _ := ⟨springMorning, springMorning_valid.1, springMorning_valid.2⟩

def noteEnv : Env :=
  ⟨fun _ => none, fun _ => none, fun _ _ => none, fun _ _ => none, fun _ => none⟩

def noteContext : CoercionContext := ⟨"2026-02-27T08:00:00.000Z", [], .skip, "UTC"⟩

def noFormats : CoercionContext → List Char → Option (List Char) := fun _ _ => none

theorem valid_spelled (upperT : Bool) {offset : IsoOffset} (h : offset.Valid) :
    (spelled upperT offset).Valid where
  date := by
    have hyear : YearFits false 2026 := by simp [YearFits]
    exact ⟨hyear, springMorning_valid.1⟩
  time := by
    have hrange : (IsoTime.minutes true 9 30).InRange := by simp [IsoTime.InRange]
    have hday : (IsoTime.minutes true 9 30).millis ≤ DAY := by decide
    exact ⟨hrange, hday⟩
  offset := h

/-- The library reads the morning from a text of its table. -/
theorem reads_spelled {upperT : Bool} {offset : IsoOffset}
    (hinput : noteLuxon.fromISO (spelled upperT offset).text =
      some (springMorning, some offset.minutes))
    (hshown : noteLuxon.fromISO (fullText springMorning offset.minutes) =
      some (springMorning, some offset.minutes)) :
    Reads noteLuxon (spelled upperT offset) springMorning where
  states := ⟨springMorning_valid.1, springMorning_valid.2, rfl⟩
  input := hinput
  shown := fun _ => hshown
  wide := fun h => absurd (by decide) h

theorem capital_kept : KeepsInstant noteLuxon noFormats noteEnv noteContext
    (spelled true (.extended false 2 0)) := by
  have hread : Reads noteLuxon (spelled true (.extended false 2 0)) springMorning :=
    reads_spelled (by decide) (by decide)
  have hvalid : (spelled true (.extended false 2 0)).Valid :=
    valid_spelled true (by simp [IsoOffset.Valid])
  have hoffset : ¬ (IsoOffset.extended false 2 0).HoursOnly := fun h => h
  exact (keepsInstant_iff hvalid hread).mpr ⟨rfl, rfl, hoffset, by decide⟩

/-- With a small `t` the time is lost; with an offset of hours only, the offset. -/
theorem small_lost :
    (Reads noteLuxon (spelled false (.zulu false)) springMorning ∧
      ¬ KeepsInstant noteLuxon noFormats noteEnv noteContext (spelled false (.zulu false))) ∧
    Reads noteLuxon (spelled true (.hours false 2)) springMorning ∧
      ¬ KeepsInstant noteLuxon noFormats noteEnv noteContext (spelled true (.hours false 2)) := by
  have hsmall : Reads noteLuxon (spelled false (.zulu false)) springMorning :=
    reads_spelled (by decide) (by decide)
  have hhours : Reads noteLuxon (spelled true (.hours false 2)) springMorning :=
    reads_spelled (by decide) (by decide)
  refine ⟨⟨hsmall, fun h => ?_⟩, hhours, fun h => ?_⟩
  · have hupper := (hsmall.fits (valid_spelled false trivial) h).upperT
    cases hupper
  · have hvalid : (spelled true (.hours false 2)).Valid :=
      valid_spelled true (by simp [IsoOffset.Valid])
    exact (hhours.fits hvalid h).offset trivial

end SesEmailAdapter.Classifier.IsoDates
