import Mathlib.Data.List.Basic
import SesEmailAdapter.Lib.OrderedMap

/-! # Functions of templates

The functions of a template are run one after the other for an auto-draft. A function that fails
leaves an empty placeholder, a notice on the thread and a message on the stored template, which is
always written to its first function. -/

namespace SesEmailAdapter.Processor.TemplateFunctions
open Lib

structure TemplateFunction where
  name : String
  code : String
  lastError : Option String
deriving DecidableEq, Repr

/-- What a function returned. -/
inductive Value
  | missing
  | text (value : String)
  | other (typeName : String)
deriving DecidableEq, Repr

/-- How the execution of a function ended. -/
inductive Response
  | failed (errorType message : String)
  | returned (value : Value)
deriving DecidableEq, Repr

/-- A notice about a function that failed. -/
structure InvalidTemplateFunction where
  resourceName : String
  functionName : String
  issue : String
deriving DecidableEq, Repr

/-- The stored functions of the template, the messages written to them with their positions, and
what the loop collects. -/
structure Run where
  stored : Option (List TemplateFunction)
  written : List (Nat × String)
  actionVars : OrderedMap String String
  preventAutoSend : Bool
  notices : List InvalidTemplateFunction

/-- `SET functions[0].lastError`; the write fails where the template or the function is not there,
which is logged. -/
def annotateTemplateError (run : Run) (functionName errorMessage : String) : Run :=
  let message := "[" ++ functionName ++ "] " ++ errorMessage
  match run.stored with
  | some (first :: rest) =>
    { run with
      stored := some ({ first with lastError := some message } :: rest)
      written := run.written ++ [(0, message)] }
  | _ => run

/-- What is left of a failure: an empty placeholder and a notice. -/
def Run.fail (run : Run) (templateName functionName issue : String) : Run :=
  { run with
    actionVars := run.actionVars.set ("fn." ++ functionName) ""
    preventAutoSend := true
    notices := run.notices ++ [⟨templateName, functionName, issue⟩] }

/-- A function of the template and the response to its execution. -/
abbrev Call := TemplateFunction × Response

def runFunction (templateName : String) (run : Run) (call : Call) : Run :=
  match call.2 with
  | .failed errorType message =>
    let issue := "[" ++ errorType ++ "] " ++ message
    (annotateTemplateError run call.1.name issue).fail templateName call.1.name issue
  | .returned .missing =>
    (annotateTemplateError run call.1.name "Function returned no value").fail templateName
      call.1.name "Function returned no value"
  | .returned (.other typeName) =>
    (annotateTemplateError run call.1.name "Function returned no value").fail templateName
      call.1.name ("Function returned non-string value (type: " ++ typeName ++ ")")
  | .returned (.text value) =>
    { run with actionVars := run.actionVars.set ("fn." ++ call.1.name) value }

/-- The loop over the functions of a stored template. -/
def runFunctions (templateName : String) (vars : OrderedMap String String) (calls : List Call) :
    Run :=
  calls.foldl (runFunction templateName) ⟨some (calls.map Prod.fst), [], vars, false, []⟩

/-! ## What is to be written -/

/-- The message of a function that failed; it names the function. -/
def messageOf (call : Call) : Option String :=
  match call.2 with
  | .failed errorType message =>
    some ("[" ++ call.1.name ++ "] " ++ ("[" ++ errorType ++ "] " ++ message))
  | .returned (.text _) => none
  | .returned _ => some ("[" ++ call.1.name ++ "] " ++ "Function returned no value")

/-- The function as it is to be stored after the run. -/
def annotated (call : Call) : TemplateFunction :=
  { call.1 with lastError := (messageOf call).orElse fun _ => call.1.lastError }

/-- Each function that failed has got its message and no other, the rest is as it was. -/
structure Annotates (calls : List Call) (run : Run) : Prop where
  written : ∀ i, (run.written.filter (·.1 = i)).map Prod.snd = (calls[i]?.bind messageOf).toList
  stored : run.stored = some (calls.map annotated)

/-! ## What is written -/

variable {rest : List TemplateFunction}

variable {first : TemplateFunction}

theorem annotate_stored {run : Run}
    (h : run.stored = some (first :: rest)) (functionName errorMessage : String) :
    annotateTemplateError run functionName errorMessage =
      { run with
        stored := some ({ first with
          lastError := some ("[" ++ functionName ++ "] " ++ errorMessage) } :: rest)
        written := run.written ++ [(0, "[" ++ functionName ++ "] " ++ errorMessage)] } := by
  unfold annotateTemplateError
  rw [h]

/-- A function that failed writes its message to the first one. -/
theorem runFunction_stored {run : Run}
    (h : run.stored = some (first :: rest)) (templateName : String) (call : Call) :
    (runFunction templateName run call).stored = some ({ first with
        lastError := (messageOf call).orElse fun _ => first.lastError } :: rest) ∧
      (runFunction templateName run call).written =
        run.written ++ ((messageOf call).map fun message => (0, message)).toList := by
  obtain ⟨fn, response⟩ := call
  unfold runFunction messageOf
  cases response with
  | failed errorType message =>
    dsimp only
    rw [annotate_stored h]
    exact ⟨rfl, rfl⟩
  | returned value =>
    cases value with
    | missing =>
      dsimp only
      rw [annotate_stored h]
      exact ⟨rfl, rfl⟩
    | text value => exact ⟨h, (List.append_nil _).symm⟩
    | other typeName =>
      dsimp only
      rw [annotate_stored h]
      exact ⟨rfl, rfl⟩

/-- A run writes every message to the first function, where the last one stays. -/
theorem run_stored {run : Run}
    (h : run.stored = some (first :: rest)) (templateName : String) (calls : List Call) :
    (calls.foldl (runFunction templateName) run).stored = some ({ first with
        lastError := (calls.filterMap messageOf).getLast?.orElse fun _ => first.lastError } ::
          rest) ∧
      (calls.foldl (runFunction templateName) run).written =
        run.written ++ (calls.filterMap messageOf).map fun message => (0, message) := by
  induction calls generalizing run first with
  | nil => exact ⟨h, (List.append_nil _).symm⟩
  | cons call calls ih =>
    obtain ⟨hstored, hwritten⟩ := runFunction_stored h templateName call
    obtain ⟨hlast, hall⟩ := ih hstored
    rw [List.foldl_cons, hlast, hall, hwritten]
    cases hmessage : messageOf call with
    | none => simp [hmessage]
    | some message =>
      rw [List.filterMap_cons_some hmessage]
      refine ⟨?_, by simp⟩
      cases hrest : (calls.filterMap messageOf).getLast? with
      | none => simp [List.getLast?_cons, hrest]
      | some last => simp [List.getLast?_cons, hrest]

/-! ## When the messages are in their places -/

theorem runFunctions_stored (templateName : String) (vars : OrderedMap String String) (call : Call)
    (rest : List Call) :
    (runFunctions templateName vars (call :: rest)).stored = some ({ call.1 with
        lastError := ((call :: rest).filterMap messageOf).getLast?.orElse
          fun _ => call.1.lastError } :: rest.map Prod.fst) ∧
      (runFunctions templateName vars (call :: rest)).written =
        ((call :: rest).filterMap messageOf).map fun message => (0, message) := by
  have hstart : (⟨some ((call :: rest).map Prod.fst), [], vars, false, []⟩ : Run).stored =
      some (call.1 :: rest.map Prod.fst) := rfl
  simpa [runFunctions] using run_stored hstart templateName (call :: rest)

theorem annotated_of_none {call : Call} (h : messageOf call = none) : annotated call = call.1 := by
  rw [annotated, h]
  rfl

/-- Whatever the functions of a template return, each one that fails gets its own message and the
rest is left as it was exactly when no other than the first fails. -/
theorem annotates_iff (templateName : String) (vars : OrderedMap String String)
    (calls : List Call) :
    Annotates calls (runFunctions templateName vars calls) ↔
      ∀ call ∈ calls.tail, messageOf call = none := by
  cases calls with
  | nil =>
    refine iff_of_true ⟨fun i => ?_, rfl⟩ (by simp)
    rfl
  | cons call rest =>
    obtain ⟨hstored, hwritten⟩ := runFunctions_stored templateName vars call rest
    rw [List.tail_cons]
    constructor
    · intro h other hother
      obtain ⟨i, hi⟩ := List.mem_iff_getElem?.mp hother
      have hat := h.written (i + 1)
      have hnone : (((call :: rest).filterMap messageOf).map fun message => (0, message)).filter
          (fun entry => entry.1 = i + 1) = [] := by
        simp [List.filter_eq_nil_iff]
      rw [hwritten, hnone, List.getElem?_cons_succ, hi] at hat
      exact Option.toList_eq_nil_iff.mp hat.symm
    · intro h
      have hrest : rest.filterMap messageOf = [] := List.filterMap_eq_nil_iff.mpr h
      have hmessages : (call :: rest).filterMap messageOf = (messageOf call).toList := by
        cases hmessage : messageOf call with
        | none => rw [List.filterMap_cons_none hmessage, hrest]; rfl
        | some message => rw [List.filterMap_cons_some hmessage, hrest]; rfl
      rw [hmessages] at hstored hwritten
      refine ⟨?_, ?_⟩
      · intro i
        rw [hwritten]
        cases i with
        | zero =>
          rw [List.getElem?_cons_zero, Option.bind_some]
          cases messageOf call <;> rfl
        | succ i =>
          have hnone : (rest[i]?.bind messageOf) = none := by
            cases hi : rest[i]? with
            | none => rfl
            | some other => exact h other (List.mem_of_getElem? hi)
          rw [List.getElem?_cons_succ, hnone]
          cases messageOf call <;> rfl
      · have htail : rest.map Prod.fst = rest.map annotated :=
          List.map_congr_left fun other hother => (annotated_of_none (h other hother)).symm
        rw [hstored, htail, List.map_cons]
        cases hmessage : messageOf call <;> simp [annotated, hmessage]

/-- The second function fails. -/
def secondFails : List Call :=
  [(⟨"greeting", "() => 'Hello'", none⟩, .returned (.text "Hello")),
    (⟨"total", "() => null", none⟩, .returned .missing)]

theorem secondFails_misplaced :
    ¬ Annotates secondFails (runFunctions "Reply" .empty secondFails) := by
  intro h
  have hstored := h.stored
  exact absurd hstored (by decide)

end SesEmailAdapter.Processor.TemplateFunctions
