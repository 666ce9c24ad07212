import OpticsCheck.Log.Filter
import OpticsCheck.Proofs.Report.Notes
import OpticsCheck.Proofs.Run.Stretch
import OpticsCheck.Proofs.Text.Plain

/-!
# Warnings

What a case finds is told twice: its report keeps it, and the log says it when it is noted. As long
as a case notes its errors before it is skipped or ends in a fault, and notes nothing with a control
in it, the lines logged from warnings on can be read off the report.
-/

namespace OpticsCheck

/-- A filter for a level looks at nothing but the level. -/
theorem Filter.passes_upTo (verbosity : Nat) (event : Event) :
    (upTo verbosity).passes event = decide (event.level.verbosity ≤ verbosity) := by
  have allowed : (upTo verbosity).verbosityFor event = verbosity := by
    simp [verbosityFor, upTo, Directive.ofLevel, Directive.covers, Directive.isStatic,
      Directive.admits]
  have most : (upTo verbosity).maxVerbosity = verbosity := by
    simp [maxVerbosity, upTo, Directive.ofLevel]
  rw [passes, allowed, most]
  cases decide (event.level.verbosity ≤ verbosity) <;> rfl

theorem loggedChar_of_not_isControl {c : Char} (visible : Text.isControl c = false) :
    loggedChar c = [c] := by
  have ne {d : Char} (control : Text.isControl d = true) : c ≠ d := by
    rintro rfl
    rw [control] at visible
    cases visible
  have low : ¬ (0x80 ≤ c.toNat ∧ c.toNat < 0xA0) := by
    simp only [Text.isControl, Bool.or_eq_false_iff, Bool.and_eq_false_iff, decide_eq_false_iff_not]
      at visible
    omega
  rw [loggedChar, if_neg (ne rfl), if_neg (ne rfl), if_neg (ne rfl), if_neg (ne rfl),
    if_neg (ne rfl), if_neg low]

theorem flatMap_loggedChar {chars : List Char} (visible : ∀ c ∈ chars, Text.isControl c = false) :
    chars.flatMap loggedChar = chars := by
  induction chars with
  | nil => rfl
  | cons c rest ih =>
    obtain ⟨first, later⟩ := List.forall_mem_cons.mp visible
    rw [List.flatMap_cons, loggedChar_of_not_isControl first, ih later]
    rfl

/-- Outside of what is printed, a message without a control follows its level's symbol as it is. -/
theorem Event.text_of_isPlain {event : Event} (logged : event.target ≠ .print)
    (plain : Text.isPlain event.message = true) :
    event.text = event.level.symbol ++ " " ++ event.message := by
  have same : event.message.toList.flatMap loggedChar = event.message.toList :=
    flatMap_loggedChar fun c mem => Text.isControl_of_isPlain plain mem
  rw [text, if_neg logged, same, String.ofList_toList]

@[simp] theorem Level.isPlain_symbol (level : Level) : Text.isPlain level.symbol = true := by
  cases level <;> decide

/-- The lines that stand in the log of a trace when it lets warnings and errors through. -/
def warningsIn (trace : List Mark) : List String :=
  (shown (.upTo Level.warn.verbosity) (trace.filterMap Mark.event?)).flatMap Text.lines

def Outcome.warnings {σ α : Type} (outcome : Outcome σ α) : List String := warningsIn outcome.trace

@[simp] theorem warningsIn_append (first second : List Mark) :
    warningsIn (first ++ second) = warningsIn first ++ warningsIn second := by
  simp [warningsIn, shown]

theorem warningsIn_logged (event : Event) :
    warningsIn [.logged event] =
      if event.level.verbosity ≤ Level.warn.verbosity then Text.lines event.text else [] := by
  by_cases loud : event.level.verbosity ≤ Level.warn.verbosity
  · simp [warningsIn, shown, Mark.event?, Filter.passes_upTo, loud]
  · simp [warningsIn, shown, Mark.event?, Filter.passes_upTo, loud]

theorem warningsIn_of_low {event : Event} (low : Level.warn.verbosity < event.level.verbosity) :
    warningsIn [.logged event] = [] := by
  rw [warningsIn_logged, if_neg (Nat.not_le.mpr low)]

theorem warningsIn_of_isPlain {event : Event}
    (loud : event.level.verbosity ≤ Level.warn.verbosity) (logged : event.target ≠ .print)
    (plain : Text.isPlain event.message = true) :
    warningsIn [.logged event] = [event.level.symbol ++ " " ++ event.message] := by
  have text := Event.text_of_isPlain logged plain
  have line : Text.isPlain event.text = true := by
    simp only [text, Text.isPlain_append, Level.isPlain_symbol, plain]
    decide
  rw [warningsIn_logged, if_pos loud, Text.lines_of_isPlain line, text]

/-- Nothing is logged from warnings on. -/
def Stretch.Silent {τ : Type} : Stretch τ := fun _ _ trace _ _ => warningsIn trace = []

theorem Stretch.silent_composes {τ : Type} : (Silent : Stretch τ).Composes where
  empty _ _ := rfl
  append first second := by
    simp only [Silent] at first second ⊢
    rw [warningsIn_append, first, second]
    rfl

namespace Note

variable {name : String}

/-- The lines that a note of the case called `name` leaves in the log of warnings. -/
def warnings (name : String) (note : Note) : List String := warningsIn [.logged (note.event name)]

theorem warnings_log (message : String) : (log message).warnings name = [] :=
  warningsIn_of_low (Nat.lt_succ_self 2)

theorem warnings_error {message : String} (plain : Text.isPlain message = true) :
    (error message).warnings name = ["[-] " ++ message] :=
  warningsIn_of_isPlain (Nat.le_succ 1) nofun plain

theorem warnings_skip {reason : String} (plain : Text.isPlain reason = true) :
    (skip reason).warnings name = ["[*] " ++ reason] :=
  warningsIn_of_isPlain (Nat.le_refl 2) nofun plain

theorem warnings_abort {fault : Fault} (plainName : Text.isPlain name = true)
    (plain : Text.isPlain fault.message = true) :
    (abort fault).warnings name = ["[-] " ++ (name ++ ": " ++ fault.message)] := by
  refine warningsIn_of_isPlain (Nat.le_succ 1) nofun ?_
  simp only [event, Text.isPlain_append, plainName, plain]
  decide

/-- What a case may note before a fault ends it: log lines and errors and, where it may be skipped,
a reason to skip it at the end. Log lines are not shown as warnings, all else has no control. -/
inductive Orderly (skips : Bool) : List Note → Prop
  | done : Orderly skips []
  | log (message : String) {later : List Note} (rest : Orderly skips later) :
      Orderly skips (.log message :: later)
  | error {message : String} (plain : Text.isPlain message = true) {later : List Note}
      (rest : Orderly skips later) : Orderly skips (.error message :: later)
  | skip {reason : String} (allowed : skips = true) (plain : Text.isPlain reason = true) :
      Orderly skips [.skip reason]

namespace Orderly

variable {skips : Bool} {notes : List Note}

/-- Where no reason to skip ends the notes, others may follow. -/
theorem append {first second : List Note} (start : Orderly false first)
    (rest : Orderly skips second) : Orderly skips (first ++ second) := by
  induction start with
  | done => exact rest
  | log message _ ih => exact .log message ih
  | error plain _ ih => exact .error plain ih
  | skip allowed _ => cases allowed

theorem mono (start : Orderly false notes) : Orderly skips notes := by
  simpa using start.append (.done : Orderly skips [])

theorem fatal_eq_none (orderly : Orderly skips notes) (name : String) :
    ({ name := name : CaseReport }.recordAll notes).fatal = none := by
  have none : notes.filterMap Note.fatal? = [] := by
    induction orderly with
    | done => rfl
    | log _ _ ih => exact ih
    | error _ _ ih => exact ih
    | skip _ _ => rfl
  rw [CaseReport.fatal_recordAll, none]
  rfl

end Orderly
end Note

namespace CaseReport

/-- What the log of warnings says of the case: its errors in order, then the reason to skip it, then
what aborted it. -/
def warnings (report : CaseReport) : List String :=
  report.errors.map ("[-] " ++ ·) ++ report.skipReason.toList.map ("[*] " ++ ·) ++
    report.fatal.toList.map fun fatal => "[-] " ++ (report.name ++ ": " ++ fatal)

theorem warnings_recordAll {skips : Bool} {notes : List Note} (orderly : Note.Orderly skips notes)
    (name : String) :
    ({ name := name : CaseReport }.recordAll notes).warnings =
      notes.flatMap (Note.warnings name) := by
  have told : notes.flatMap (Note.warnings name) =
      (notes.filterMap Note.errorMessage?).map ("[-] " ++ ·) ++
        (notes.filterMap Note.skipReason?).getLast?.toList.map ("[*] " ++ ·) := by
    induction orderly with
    | done => rfl
    | log message _ ih =>
      rw [List.flatMap_cons, Note.warnings_log, ih]
      rfl
    | error plain _ ih =>
      rw [List.flatMap_cons, Note.warnings_error plain, ih]
      rfl
    | skip _ plain =>
      rw [List.flatMap_cons, Note.warnings_skip plain]
      rfl
  rw [warnings, orderly.fatal_eq_none, errors_recordAll, skipReason_recordAll, told]
  simp [errors]

/-- A fault is the last thing that is told of a case. -/
theorem warnings_record_abort {report : CaseReport} {fault : Fault} (goesOn : report.fatal = none)
    (plainName : Text.isPlain report.name = true) (plain : Text.isPlain fault.message = true) :
    (report.record (.abort fault)).warnings =
      report.warnings ++ (Note.abort fault).warnings report.name := by
  rw [Note.warnings_abort plainName plain]
  simp [warnings, record, goesOn, errors]

end CaseReport
end OpticsCheck
