import SesEmailAdapter.Classifier.DateReadings

/-! # The types of a coerced record

After its coercion a record has values of the declared types in the fields of its workflow, and its
other values as they were. A second coercion finds every value coerced. -/

namespace SesEmailAdapter.Classifier.TypedRecords
open Lib SesEmailAdapter.Types
open Classifier.CoerceWorkflowData Classifier.DateReadings
open Lib.CivilDate
open Classifier.DisplayDates (Received)
open Classifier.IsoDates
open Email.Address (isSpace trim)

/-! ## The values of a field -/

variable (env : Env) (ctx : CoercionContext)

/-- What is stored for a value of a field. -/
def coercedValue (field : FieldSpec) (raw : Json) : Json :=
  match field.type with
  | .string => orNull (coerceString env raw)
  | .enum => orNull (coerceEnumValue field.enumValues raw)
  | .number => orNull (coerceNumericToString env raw)
  | .boolean => ((coerceBoolean env raw).map Json.bool).getD .null
  | .date => orNull (coerceDate env ctx raw)
  | .array => match raw with
    | .arr elements => .arr elements
    | _ => .null

/-- The instant that is stored for a value of a date. -/
def coercedInstant (raw : Json) : Json :=
  orNull ((coerceDate env ctx raw).bind fun display =>
    displayToInstant env display ctx.accountTimezone)

/-- A null, or a value of the declared type. -/
def OfType (field : FieldSpec) (value : Json) : Prop :=
  value = .null ∨ match field.type with
    | .string => ∃ text, value = .str text
    | .enum => ∃ text ∈ field.enumValues, value = .str text
    | .number => ∃ text, value = .str text ∧ env.numericText text.toList = some text
    | .boolean => ∃ b, value = .bool b
    | .date => ∃ text, value = .str text ∧ InDisplayFormat text.toList
    | .array => ∃ elements, value = .arr elements

variable {env ctx} {record : Record} {field : FieldSpec} {fields : List FieldSpec} {raw : Json}

theorem coercedValue_null (field : FieldSpec) : coercedValue env ctx field .null = .null := by
  unfold coercedValue
  split <;> rfl

theorem lookup_coerceValue_self (hraw : record.lookup field.name = some raw) :
    (coerceValue env ctx record field raw).lookup field.name =
      some (coercedValue env ctx field raw) := by
  unfold coerceValue coercedValue
  cases field.type with
  | date =>
    have hne : field.name ≠ instantKey field.name := (instantKey_ne _).symm
    simp [AList.lookup_insert_ne hne]
  | array => cases raw <;> simp [hraw]
  | _ => simp

theorem lookup_coerceField_self : (coerceField env ctx record field).lookup field.name =
    (record.lookup field.name).map (coercedValue env ctx field) := by
  unfold coerceField
  split
  · next hmissing => simp [hmissing]
  · next hnull => simp [hnull, coercedValue_null]
  · next hraw => simp [hraw, lookup_coerceValue_self hraw]

theorem coerceField_null (h : record.read field.name = .null) :
    coerceField env ctx record field = record := by
  unfold coerceField
  unfold Record.read at h
  split
  · rfl
  · rfl
  · next raw hnull hraw =>
    rw [hraw] at h
    exact absurd h hnull

theorem lookup_coerceField_instant (hdate : field.type = .date)
    (hvalue : record.read field.name ≠ .null) :
    (coerceField env ctx record field).lookup (instantKey field.name) =
      some (coercedInstant env ctx (record.read field.name)) := by
  unfold coerceField
  unfold Record.read at hvalue ⊢
  split
  · next hmissing => simp [hmissing] at hvalue
  · next hnull => simp [hnull] at hvalue
  · next raw _ hraw => simp [hraw, coerceValue, hdate, coercedInstant]

/-! ## All fields -/

theorem lookup_coerceFields_self (hsep : Separate fields) (hfield : field ∈ fields)
    (record : Record) : (fields.foldl (coerceField env ctx) record).lookup field.name =
      (record.lookup field.name).map (coercedValue env ctx field) := by
  obtain ⟨before, after, rfl, haround⟩ := hsep.around hfield
  rw [List.foldl_append, List.foldl_cons,
    lookup_coerceFields fun other hother => (haround other (.inr hother)).1,
    lookup_coerceField_self,
    lookup_coerceFields fun other hother => (haround other (.inl hother)).1]

theorem lookup_coerceFields_instant (hsep : Separate fields) (hfield : field ∈ fields)
    (hdate : field.type = .date) (hvalue : record.read field.name ≠ .null) :
    (fields.foldl (coerceField env ctx) record).lookup (instantKey field.name) =
      some (coercedInstant env ctx (record.read field.name)) := by
  obtain ⟨before, after, rfl, haround⟩ := hsep.around hfield
  have hbefore : (before.foldl (coerceField env ctx) record).read field.name =
      record.read field.name := by
    unfold Record.read
    rw [lookup_coerceFields fun other hother => (haround other (.inl hother)).1]
  rw [List.foldl_append, List.foldl_cons,
    lookup_coerceFields fun other hother => (haround other (.inr hother)).2,
    lookup_coerceField_instant hdate (hbefore ▸ hvalue), hbefore]

/-- A name that no field writes: it is none of a field, and no instant of a date that is there. -/
def Undeclared (fields : List FieldSpec) (record : Record) (key : String) : Prop :=
  ∀ field ∈ fields, key ≠ field.name ∧
    (field.type = .date → record.read field.name ≠ .null → key ≠ instantKey field.name)

theorem separate_tail (hsep : Separate (field :: fields)) : Separate fields := by
  refine ⟨(List.nodup_cons.mp hsep.1).2, fun first hfirst second hsecond => ?_⟩
  exact hsep.2 first (List.mem_cons_of_mem _ hfirst) second (List.mem_cons_of_mem _ hsecond)

theorem lookup_coerceFields_undeclared {key : String} (hsep : Separate fields)
    (h : Undeclared fields record key) :
    (fields.foldl (coerceField env ctx) record).lookup key = record.lookup key := by
  induction fields generalizing record with
  | nil => rfl
  | cons field fields ih =>
    obtain ⟨hfield, hfields⟩ := List.forall_mem_cons.mp h
    have hkey : (coerceField env ctx record field).lookup key = record.lookup key := by
      by_cases hnull : record.read field.name = .null
      · rw [coerceField_null hnull]
      · exact lookup_coerceField ⟨hfield.1, fun hdate => hfield.2 hdate hnull⟩
    rw [List.foldl_cons, ih (separate_tail hsep), hkey]
    intro other hother
    have hne : field.name ≠ other.name := fun heq =>
      (List.nodup_cons.mp hsep.1).1 (List.mem_map.mpr ⟨other, hother, heq.symm⟩)
    have hspared := (hsep.spares (List.mem_cons_of_mem _ hother) List.mem_cons_self hne).1
    have hread : (coerceField env ctx record field).read other.name = record.read other.name := by
      unfold Record.read
      rw [lookup_coerceField hspared]
    rw [hread]
    exact hfields other hother

/-! ## Coerced values -/

/-- The texts of numbers: they have no commas or blanks, and read as their numbers they are the same
texts again. -/
def NumberTexts (env : Env) : Prop :=
  ∀ text, (∃ d, env.numberText d = some text) ∨ (∃ raw, env.numericText raw = some text) →
    text ≠ "" ∧ (∀ c ∈ text.toList, isSpace c = false ∧ c ≠ ',') ∧
      env.numericText text.toList = some text

/-- The values of every enum are read as themselves. -/
def Canonical (fields : List FieldSpec) : Prop :=
  ∀ field ∈ fields, ∀ value ∈ field.enumValues,
    coerceEnumValue field.enumValues (.str value) = some value

instance (fields : List FieldSpec) : Decidable (Canonical fields) :=
  inferInstanceAs (Decidable (∀ field ∈ fields, ∀ value ∈ field.enumValues, _))

theorem canonical_workflowFields {workflow : Workflow} (h : workflowFields workflow = some fields) :
    Canonical fields := by
  cases workflow with
  | custom => cases h
  | _ =>
    obtain rfl := Option.some.inj h
    decide +kernel

section Values
variable {reader : FormatReader} {luxon : Luxon} {rest : Env}

/-- The functions around the coercion do what their documentation says: the date library gives
dates of the calendar and reads the display format, and numbers have texts of their own. -/
structure Documented (luxon : Luxon) (reader : FormatReader) (rest : Env) : Prop where
  real : GivesReal luxon reader
  display : ReadsDisplay luxon
  numbers : NumberTexts rest

theorem coerceNumericToString_text {text : String} (hne : text ≠ "")
    (hplain : ∀ c ∈ text.toList, isSpace c = false ∧ c ≠ ',') :
    coerceNumericToString env (.str text) = env.numericText text.toList := by
  have htrim : trim text.toList = text.toList :=
    Email.Address.trim_eq_self fun c hc => (hplain c hc).1
  have hcommas : text.toList.filter (· ≠ ',') = text.toList :=
    List.filter_eq_self.mpr fun c hc => by simpa using (hplain c hc).2
  have hnonempty : text.toList ≠ [] := by simpa using hne
  simp only [coerceNumericToString, htrim, hnonempty, if_false, hcommas]

theorem numericText_of_coerced (hnumbers : NumberTexts rest) {text : String}
    (h : coerceNumericToString (dateEnv reader luxon rest) raw = some text) :
    rest.numericText text.toList = some text := by
  unfold coerceNumericToString at h
  split at h
  · exact (hnumbers text (.inl ⟨_, h⟩)).2.2
  · dsimp only at h
    split at h
    · cases h
    · exact (hnumbers text (.inr ⟨_, h⟩)).2.2
  · cases h

theorem mem_of_coerceEnumValue {enumValues : List String} {text : String}
    (h : coerceEnumValue enumValues raw = some text) : text ∈ enumValues := by
  unfold coerceEnumValue at h
  split at h
  · exact List.mem_of_find?_eq_some h
  · cases h

/-- A value of the declared type is coerced to itself. -/
theorem coercedValue_ofType (hdocs : Documented luxon reader rest) (hcanonical : Canonical fields)
    (hfield : field ∈ fields) {value : Json}
    (h : OfType (dateEnv reader luxon rest) field value) :
    coercedValue (dateEnv reader luxon rest) ctx field value = value := by
  rcases h with rfl | h
  · exact coercedValue_null field
  · unfold coercedValue
    cases htype : field.type with
    | string =>
      obtain ⟨text, rfl⟩ := by simpa only [htype] using h
      rfl
    | enum =>
      obtain ⟨text, hmem, rfl⟩ := by simpa only [htype] using h
      simp [hcanonical field hfield text hmem, orNull]
    | number =>
      obtain ⟨text, rfl, hnumeric⟩ := by simpa only [htype] using h
      obtain ⟨hne, hplain, hsame⟩ := hdocs.numbers text (.inr ⟨_, hnumeric⟩)
      have hread : coerceNumericToString (dateEnv reader luxon rest) (.str text) = some text :=
        (coerceNumericToString_text hne hplain).trans hnumeric
      simp [hread, orNull]
    | boolean =>
      obtain ⟨b, rfl⟩ := by simpa only [htype] using h
      rfl
    | date =>
      obtain ⟨text, rfl, hformat⟩ := by simpa only [htype] using h
      have hsame : coerceDate (dateEnv reader luxon rest) ctx (.str text) = some text := by
        simpa using coerceDate_display hdocs.display hformat
      simp [hsame, orNull]
    | array =>
      obtain ⟨elements, rfl⟩ := by simpa only [htype] using h
      rfl

/-- The display format has room for every date of the record: for what its text is read as. -/
def HasRoom (reader : FormatReader) (luxon : Luxon) (ctx : CoercionContext)
    (fields : List FieldSpec) (record : Record) : Prop :=
  ∀ field ∈ fields, field.type = .date → ∀ text, record.read field.name = .str text →
    ∀ reading, readDate reader luxon ctx (trim text.toList) = some reading → reading.Showable

/-- What a date is coerced to is in the display format. -/
theorem inDisplayFormat_of_room (hdocs : Documented luxon reader rest)
    (hroom : HasRoom reader luxon ctx fields record) (hfield : field ∈ fields)
    (hdate : field.type = .date) {display : String}
    (h : coerceDate (dateEnv reader luxon rest) ctx (record.read field.name) = some display) :
    InDisplayFormat display.toList := by
  cases hraw : record.read field.name with
  | str text =>
    rw [hraw] at h
    exact inDisplayFormat_coerceDate hdocs.real (hroom field hfield hdate text hraw) h
  | _ =>
    rw [hraw] at h
    cases h

theorem ofType_coercedValue (hdocs : Documented luxon reader rest)
    (hroom : HasRoom reader luxon ctx fields record) (hfield : field ∈ fields) :
    OfType (dateEnv reader luxon rest) field
      (coercedValue (dateEnv reader luxon rest) ctx field (record.read field.name)) := by
  unfold OfType coercedValue
  cases htype : field.type with
  | string =>
    cases coerceString (dateEnv reader luxon rest) (record.read field.name) with
    | none => exact .inl rfl
    | some text => exact .inr ⟨text, rfl⟩
  | enum =>
    cases henum : coerceEnumValue field.enumValues (record.read field.name) with
    | none => exact .inl rfl
    | some text => exact .inr ⟨text, mem_of_coerceEnumValue henum, rfl⟩
  | number =>
    cases hnumber : coerceNumericToString (dateEnv reader luxon rest)
        (record.read field.name) with
    | none => exact .inl rfl
    | some text => exact .inr ⟨text, rfl, numericText_of_coerced hdocs.numbers hnumber⟩
  | boolean =>
    cases coerceBoolean (dateEnv reader luxon rest) (record.read field.name) with
    | none => exact .inl rfl
    | some b => exact .inr ⟨b, rfl⟩
  | date =>
    cases hcoerced : coerceDate (dateEnv reader luxon rest) ctx (record.read field.name) with
    | none => exact .inl rfl
    | some text => exact .inr ⟨text, rfl, inDisplayFormat_of_room hdocs hroom hfield htype hcoerced⟩
  | array =>
    cases record.read field.name with
    | arr elements => exact .inr ⟨elements, rfl⟩
    | _ => exact .inl rfl

end Values

/-! ## The date of a payment -/

section Payment
variable {workflow : Workflow} {key : String}

theorem defaultPaymentDate_cases (env : Env) (ctx : CoercionContext) (workflow : Workflow)
    (record : Record) : defaultPaymentDate env ctx workflow record = record ∨
      workflow = .payments ∧ (record.read "date").truthy = false ∧
        ∃ day, env.utcDay ctx.receivedAt = some day ∧
          defaultPaymentDate env ctx workflow record = record.insert "date" (.str day) := by
  unfold defaultPaymentDate
  split
  · next hmissing =>
    cases hday : env.utcDay ctx.receivedAt with
    | none => exact .inl rfl
    | some day => exact .inr ⟨hmissing.1, by simpa using hmissing.2, day, rfl, rfl⟩
  · exact .inl rfl

/-- A date is missing only where no day is known. -/
theorem defaultPaymentDate_truthy {day : String} (hday : env.utcDay ctx.receivedAt = some day)
    (hne : day ≠ "") :
    ((defaultPaymentDate env ctx .payments record).read "date").truthy = true := by
  rcases defaultPaymentDate_cases env ctx .payments record with h | ⟨-, -, other, hother, h⟩
  · by_cases htruthy : (record.read "date").truthy = true
    · rw [h, htruthy]
    · have hinsert : defaultPaymentDate env ctx .payments record =
          record.insert "date" (.str day) := by
        simp [defaultPaymentDate, htruthy, hday]
      simp [hinsert, Record.read, Json.truthy, hne]
  · obtain rfl := Option.some.inj (hday.symm.trans hother)
    simp [h, Record.read, Json.truthy, hne]

/-- The name of an instant is none of the default's. -/
theorem instantKey_ne_date (name : String) : instantKey name ≠ "date" := by
  intro h
  have hlast := congrArg (fun text : String => text.toList.reverse.head?) h
  simp [instantKey] at hlast

/-- The date of a payment is a date. -/
theorem payment_date {workflow : Workflow} (h : workflowFields workflow = some fields)
    (hpayments : workflow = .payments) :
    (∃ field ∈ fields, field.name = "date") ∧
      ∀ field ∈ fields, field.name = "date" → field.type = .date := by
  subst hpayments
  obtain rfl := Option.some.inj h
  decide

end Payment

/-! ## Types, other values and a second coercion -/

/-- The record is a payment without a date that could be coerced. -/
def Filled (env : Env) (ctx : CoercionContext) (workflow : Workflow) (record : Record) : Prop :=
  workflow = .payments ∧ coerceDate env ctx (record.read "date") = none

/-- The fields have their types, the other values are as they were, and a second coercion changes
nothing, but for the instant of a date that was filled in. -/
structure Settled (env : Env) (ctx : CoercionContext) (workflow : Workflow) (record : Record) :
    Prop where
  declared : ∀ fields, workflowFields workflow = some fields → ∀ field ∈ fields, ∀ value,
    (coerceWorkflowData env ctx workflow record).lookup field.name = some value →
      OfType env field value
  undeclared : ∀ key,
    (∀ fields, workflowFields workflow = some fields → Undeclared fields record key) →
      (coerceWorkflowData env ctx workflow record).lookup key = record.lookup key
  again : ∀ key, (Filled env ctx workflow record → key ≠ instantKey "date") →
    (coerceWorkflowData env ctx workflow
        (coerceWorkflowData env ctx workflow record)).lookup key =
      (coerceWorkflowData env ctx workflow record).lookup key

section Settled
variable {reader : FormatReader} {luxon : Luxon} {rest : Env} {workflow : Workflow} {key : String}

theorem read_coerceFields_self (hsep : Separate fields) (hfield : field ∈ fields)
    (record : Record) : (fields.foldl (coerceField env ctx) record).read field.name =
      coercedValue env ctx field (record.read field.name) := by
  unfold Record.read
  rw [lookup_coerceFields_self hsep hfield]
  cases record.lookup field.name with
  | none => simp [coercedValue_null]
  | some raw => simp

/-- The value of a date that was not filled in is the one it was coerced to. -/
theorem lookup_date (hdocs : Documented luxon reader rest)
    (hfields : workflowFields workflow = some fields)
    (hroom : HasRoom reader luxon ctx fields record) (hfield : field ∈ fields)
    (hunfilled : field.name = "date" → ¬ Filled (dateEnv reader luxon rest) ctx workflow record) :
    (coerceWorkflowData (dateEnv reader luxon rest) ctx workflow record).lookup field.name =
      (fields.foldl (coerceField (dateEnv reader luxon rest) ctx) record).lookup field.name := by
  have hsep := separate_workflowFields hfields
  unfold coerceWorkflowData
  rw [hfields]
  dsimp only
  by_cases hname : field.name = "date"
  · rcases defaultPaymentDate_cases (dateEnv reader luxon rest) ctx workflow
      (fields.foldl (coerceField (dateEnv reader luxon rest) ctx) record) with h | h
    · rw [h]
    · obtain ⟨hpayments, hmissing, -⟩ := h
      have hdate := (payment_date hfields hpayments).2 field hfield hname
      refine absurd ⟨hpayments, ?_⟩ (hunfilled hname)
      rw [← hname] at hmissing ⊢
      rw [read_coerceFields_self hsep hfield] at hmissing
      cases hcoerced : coerceDate (dateEnv reader luxon rest) ctx (record.read field.name) with
      | none => rfl
      | some display =>
        have hne := (inDisplayFormat_of_room hdocs hroom hfield hdate hcoerced).ne_nil
        simp only [coercedValue, hdate, hcoerced, orNull, Json.truthy] at hmissing
        simp at hmissing hne
        exact absurd hmissing hne
  · exact lookup_defaultPaymentDate hname

theorem declared_coerceWorkflowData (hdocs : Documented luxon reader rest)
    (hday : ∀ day, rest.utcDay ctx.receivedAt = some day → InDisplayFormat day.toList)
    (hfields : workflowFields workflow = some fields)
    (hroom : HasRoom reader luxon ctx fields record) (hfield : field ∈ fields) :
    OfType (dateEnv reader luxon rest) field
      ((coerceWorkflowData (dateEnv reader luxon rest) ctx workflow record).read field.name) := by
  have hsep := separate_workflowFields hfields
  have hcoerced : OfType (dateEnv reader luxon rest) field
      ((fields.foldl (coerceField (dateEnv reader luxon rest) ctx) record).read field.name) := by
    rw [read_coerceFields_self hsep hfield]
    exact ofType_coercedValue hdocs hroom hfield
  unfold coerceWorkflowData
  rw [hfields]
  dsimp only
  rcases defaultPaymentDate_cases (dateEnv reader luxon rest) ctx workflow
    (fields.foldl (coerceField (dateEnv reader luxon rest) ctx) record) with h | h
  · rw [h]
    exact hcoerced
  · obtain ⟨hpayments, -, day, hutcDay, h⟩ := h
    rw [h]
    by_cases hname : field.name = "date"
    · have hdate := (payment_date hfields hpayments).2 field hfield hname
      refine .inr ?_
      rw [hdate]
      refine ⟨day, ?_, hday day hutcDay⟩
      rw [hname]
      simp [Record.read]
    · unfold Record.read
      rw [AList.lookup_insert_ne hname]
      exact hcoerced

/-- The coerced fields of a coerced record. -/
theorem lookup_self_again (hdocs : Documented luxon reader rest)
    (hday : ∀ day, rest.utcDay ctx.receivedAt = some day → InDisplayFormat day.toList)
    (hfields : workflowFields workflow = some fields)
    (hroom : HasRoom reader luxon ctx fields record) (hfield : field ∈ fields) {once : Record}
    (honce : coerceWorkflowData (dateEnv reader luxon rest) ctx workflow record = once) :
    (fields.foldl (coerceField (dateEnv reader luxon rest) ctx) once).lookup field.name =
      once.lookup field.name := by
  have htype : OfType (dateEnv reader luxon rest) field (once.read field.name) := by
    rw [← honce]
    exact declared_coerceWorkflowData hdocs hday hfields hroom hfield
  have hsame : coercedValue (dateEnv reader luxon rest) ctx field (once.read field.name) =
      once.read field.name :=
    coercedValue_ofType hdocs (canonical_workflowFields hfields) hfield htype
  rw [lookup_coerceFields_self (separate_workflowFields hfields) hfield]
  cases hvalue : once.lookup field.name with
  | none => rfl
  | some value =>
    simp only [Record.read, hvalue, Option.getD_some] at hsame
    simp [hsame]

/-- The instants of a coerced record. -/
theorem lookup_instant_again (hdocs : Documented luxon reader rest)
    (hfields : workflowFields workflow = some fields)
    (hroom : HasRoom reader luxon ctx fields record) (hfield : field ∈ fields)
    (hdate : field.type = .date) {once : Record}
    (honce : coerceWorkflowData (dateEnv reader luxon rest) ctx workflow record = once)
    (hunfilled : field.name = "date" → ¬ Filled (dateEnv reader luxon rest) ctx workflow record)
    (hvalue : once.read field.name ≠ .null) :
    (fields.foldl (coerceField (dateEnv reader luxon rest) ctx) once).lookup
        (instantKey field.name) = once.lookup (instantKey field.name) := by
  have hsep := separate_workflowFields hfields
  have hread : once.read field.name =
      orNull (coerceDate (dateEnv reader luxon rest) ctx (record.read field.name)) := by
    have hlookup := lookup_date hdocs hfields hroom hfield hunfilled
    rw [honce] at hlookup
    have hself : once.read field.name =
        coercedValue (dateEnv reader luxon rest) ctx field (record.read field.name) := by
      rw [← read_coerceFields_self hsep hfield, Record.read, hlookup, Record.read]
    simpa [coercedValue, hdate] using hself
  cases hcoerced : coerceDate (dateEnv reader luxon rest) ctx (record.read field.name) with
  | none => exact absurd (by rw [hread, hcoerced]; rfl) hvalue
  | some display =>
    have hdisplay : coerceDate (dateEnv reader luxon rest) ctx (.str display) = some display := by
      have hformat := inDisplayFormat_of_room hdocs hroom hfield hdate hcoerced
      simpa using coerceDate_display hdocs.display hformat
    have hpresent : record.read field.name ≠ .null := by
      intro hnull
      rw [hnull] at hcoerced
      cases hcoerced
    have hkept : once.lookup (instantKey field.name) =
        (fields.foldl (coerceField (dateEnv reader luxon rest) ctx) record).lookup
          (instantKey field.name) := by
      rw [← honce]
      unfold coerceWorkflowData
      rw [hfields]
      exact lookup_defaultPaymentDate (instantKey_ne_date _)
    rw [lookup_coerceFields_instant hsep hfield hdate hvalue, hkept,
      lookup_coerceFields_instant hsep hfield hdate hpresent, hread, hcoerced]
    simp [coercedInstant, orNull, hdisplay, hcoerced]

theorem lookup_fields_again (hdocs : Documented luxon reader rest)
    (hday : ∀ day, rest.utcDay ctx.receivedAt = some day → InDisplayFormat day.toList)
    (hfields : workflowFields workflow = some fields)
    (hroom : HasRoom reader luxon ctx fields record) {once : Record}
    (honce : coerceWorkflowData (dateEnv reader luxon rest) ctx workflow record = once)
    (hkey : Filled (dateEnv reader luxon rest) ctx workflow record → key ≠ instantKey "date") :
    (fields.foldl (coerceField (dateEnv reader luxon rest) ctx) once).lookup key =
      once.lookup key := by
  by_cases hundeclared : Undeclared fields once key
  · exact lookup_coerceFields_undeclared (separate_workflowFields hfields) hundeclared
  · unfold Undeclared at hundeclared
    push Not at hundeclared
    obtain ⟨field, hfield, hwritten⟩ := hundeclared
    by_cases hname : key = field.name
    · rw [hname]
      exact lookup_self_again hdocs hday hfields hroom hfield honce
    · obtain ⟨hdate, hvalue, rfl⟩ := hwritten hname
      refine lookup_instant_again hdocs hfields hroom hfield hdate honce ?_ hvalue
      intro hdateName hfilled
      exact hkey hfilled (by rw [hdateName])

/-- **The coercion of a record gives every declared field its type and keeps every other value, and
a second coercion changes nothing**, but for the instants beside its dates, which the coercion
writes, and that of a date that was filled in, which only the second writes. -/
theorem settled_coerceWorkflowData (hdocs : Documented luxon reader rest)
    (hday : ∀ day, rest.utcDay ctx.receivedAt = some day → InDisplayFormat day.toList)
    (hroom : ∀ fields, workflowFields workflow = some fields →
      HasRoom reader luxon ctx fields record) :
    Settled (dateEnv reader luxon rest) ctx workflow record := by
  cases hfields : workflowFields workflow with
  | none =>
    have hsame (record : Record) :
        coerceWorkflowData (dateEnv reader luxon rest) ctx workflow record = record := by
      unfold coerceWorkflowData
      rw [hfields]
    refine ⟨fun fields hsome => ?_, fun key _ => by rw [hsame], fun key _ => by rw [hsame, hsame]⟩
    rw [hfields] at hsome
    cases hsome
  | some fields =>
    have hsep := separate_workflowFields hfields
    have hcoerce (record : Record) : coerceWorkflowData (dateEnv reader luxon rest) ctx workflow
        record = defaultPaymentDate (dateEnv reader luxon rest) ctx workflow
          (fields.foldl (coerceField (dateEnv reader luxon rest) ctx) record) := by
      unfold coerceWorkflowData
      rw [hfields]
    constructor
    case declared =>
      intro others hothers field hfield value hvalue
      obtain rfl := Option.some.inj (hothers.symm.trans hfields)
      have htype : OfType (dateEnv reader luxon rest) field ((coerceWorkflowData
          (dateEnv reader luxon rest) ctx workflow record).read field.name) :=
        declared_coerceWorkflowData hdocs hday hfields (hroom _ hfields) hfield
      simpa [Record.read, hvalue] using htype
    case undeclared =>
      intro key hundeclared
      have hkey := hundeclared fields hfields
      rw [hcoerce]
      rcases defaultPaymentDate_cases (dateEnv reader luxon rest) ctx workflow
        (fields.foldl (coerceField (dateEnv reader luxon rest) ctx) record) with h | h
      · rw [h, lookup_coerceFields_undeclared hsep hkey]
      · obtain ⟨hpayments, -, day, -, h⟩ := h
        obtain ⟨field, hfield, hname⟩ := (payment_date hfields hpayments).1
        have hne : key ≠ "date" := hname ▸ (hkey field hfield).1
        rw [h, AList.lookup_insert_ne hne, lookup_coerceFields_undeclared hsep hkey]
    case again =>
      intro key hkey
      generalize honce : coerceWorkflowData (dateEnv reader luxon rest) ctx workflow record = once
      rw [hcoerce]
      rcases defaultPaymentDate_cases (dateEnv reader luxon rest) ctx workflow
        (fields.foldl (coerceField (dateEnv reader luxon rest) ctx) once) with h | h
      · rw [h, lookup_fields_again hdocs hday hfields (hroom _ hfields) honce hkey]
      · -- the first coercion has already filled in the date
        obtain ⟨hpayments, hmissing, day, hutcDay, -⟩ := h
        have hdate := lookup_fields_again hdocs hday hfields (hroom _ hfields) honce
          fun _ => (instantKey_ne_date "date").symm
        rw [Record.read, hdate, ← Record.read, ← honce, hcoerce, hpayments] at hmissing
        have hnonempty : day ≠ "" := by
          have hne := (hday day hutcDay).ne_nil
          simpa using hne
        rw [defaultPaymentDate_truthy hutcDay hnonempty] at hmissing
        cases hmissing

end Settled

/-! ## An invoice with an instant of its own -/

/-- The numbers of the invoice, and the day it was received on. -/
def invoiceEnv : Env where
  numberText _ := none
  numericText raw := if raw = "1200".toList then some "1200" else none
  displayDate _ _ := none
  fromISO _ _ := none
  utcDay _ := some "2026-02-27"

def invoice : Record :=
  (((∅ : Record).insert "dueDateInstant" (.str "soon")).insert "amount" (.str "1,200")).insert
    "dueDate" (.str "2026-03-01T09:30+02:00")

theorem documented_plain : Documented plainLuxon plainReader invoiceEnv where
  real := givesReal_plain
  display := readsDisplay_plain
  numbers := by
    intro text htext
    have heq : text = "1200" := by
      rcases htext with ⟨d, hd⟩ | ⟨raw, hraw⟩
      · cases hd
      · simp only [invoiceEnv] at hraw
        split at hraw
        · exact (Option.some.inj hraw).symm
        · cases hraw
    subst heq
    refine ⟨by decide, ?_, rfl⟩
    intro c hc
    have hplain : "1200".toList.all (fun c => !isSpace c && c ≠ ',') = true := rfl
    simpa using List.all_eq_true.mp hplain c hc

theorem received_inFormat : InDisplayFormat "2026-02-27".toList := by
  have hvalid : (⟨2026, 2, 27⟩ : Date).Valid := by decide
  have hyear : FourDigits 2026 := by decide
  exact ⟨.day ⟨2026, 2, 27⟩, hvalid, hyear, rfl⟩

theorem dates_of_payments : ∀ fields, workflowFields .payments = some fields → ∀ field ∈ fields,
    field.type = .date → field.name = "date" ∨ field.name = "dueDate" := by
  intro fields h
  obtain rfl := Option.some.inj h
  decide

theorem hasRoom_invoice (fields : List FieldSpec) (h : workflowFields .payments = some fields) :
    HasRoom plainReader plainLuxon noteContext fields invoice := by
  intro field hfield hdate text htext reading hreading
  rcases dates_of_payments fields h field hfield hdate with hname | hname
  · rw [hname] at htext
    cases htext
  · rw [hname] at htext
    obtain rfl : "2026-03-01T09:30+02:00" = text := Json.str.inj htext
    have hfull : readDate plainReader plainLuxon noteContext
        (trim "2026-03-01T09:30+02:00".toList) = some (.full springMorning 120) := rfl
    obtain rfl := Option.some.inj (hfull.symm.trans hreading)
    have hyear : FourDigits springMorning.date.year := by decide
    exact ⟨hyear, by decide⟩

theorem settled_invoice :
    Settled (dateEnv plainReader plainLuxon invoiceEnv) noteContext .payments invoice := by
  have hday (day : String) (h : invoiceEnv.utcDay noteContext.receivedAt = some day) :
      InDisplayFormat day.toList := by
    obtain rfl := Option.some.inj h
    exact received_inFormat
  exact settled_coerceWorkflowData documented_plain hday hasRoom_invoice

theorem leapMorning_valid : (⟨2028, 3, 1⟩ : Date).Valid ∧ 0 < DAY := by
  decide

/-- The same library, for a mail received after the 29th of February of a leap year. -/
def leapLuxon : Luxon := { plainLuxon with
  received := fun _ => ⟨⟨⟨2028, 3, 1⟩, 0⟩, leapMorning_valid.1, leapMorning_valid.2⟩ }

def leapInvoice : Record := (∅ : Record).insert "dueDate" (.str "29 February")

/-- A value under an undeclared name is replaced by the instant of a date. A second coercion writes
the instant of a date that the first has filled in. A day that does not come is no date. -/
theorem invoice_changed :
    (invoice.lookup "dueDateInstant" = some (.str "soon") ∧
      (coerceWorkflowData (dateEnv plainReader plainLuxon invoiceEnv) noteContext .payments
        invoice).lookup "dueDateInstant" = some (.str "2026-03-01T07:30:00.000Z")) ∧
    ((coerceWorkflowData (dateEnv plainReader plainLuxon invoiceEnv) noteContext .payments
        ∅).lookup "dateInstant" = none ∧
      (coerceWorkflowData (dateEnv plainReader plainLuxon invoiceEnv) noteContext .payments
        (coerceWorkflowData (dateEnv plainReader plainLuxon invoiceEnv) noteContext .payments
          ∅)).lookup "dateInstant" = some (.str "2026-02-27T00:00:00.000Z")) ∧
    (coerceWorkflowData (dateEnv plainReader leapLuxon invoiceEnv) noteContext .payments
      leapInvoice).lookup "dueDate" = some (.str "Invalid DateTime") := by
  refine ⟨⟨rfl, ?_⟩, ⟨?_, ?_⟩, ?_⟩
  · rfl
  · rfl
  · rfl
  · rfl

end SesEmailAdapter.Classifier.TypedRecords
