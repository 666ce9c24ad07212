import OpticsCheck.Report

/-!
# Reports as histories of notes

A report keeps what was noted in three places: log lines and errors become entries, in order; of the
reasons to skip and of the faults only the last one stays. So a report is determined by the list of
its notes, and its verdict by the kinds of note in that list.
-/

namespace OpticsCheck

namespace Note

def entry? : Note → Option Entry
  | .log message => some (.log message)
  | .error message => some (.error message)
  | _ => none

def skipReason? : Note → Option String
  | .skip reason => some reason
  | _ => none

def fatal? : Note → Option String
  | .abort fault => some fault.message
  | _ => none

def errorMessage? : Note → Option String
  | .error message => some message
  | _ => none

section Entries

variable {notes : List Note} (entries : ∀ note ∈ notes, note.entry?.isSome = true)
include entries

/-- An entry is not a reason to skip. -/
theorem skipReasons_of_entries : notes.filterMap skipReason? = [] := by
  refine List.filterMap_eq_nil_iff.mpr fun note mem => ?_
  have := entries note mem
  cases note <;> simp_all [Note.entry?, Note.skipReason?]

/-- An entry is not a fault. -/
theorem faults_of_entries : notes.filterMap fatal? = [] := by
  refine List.filterMap_eq_nil_iff.mpr fun note mem => ?_
  have := entries note mem
  cases note <;> simp_all [Note.entry?, Note.fatal?]

end Entries

@[simp] theorem errorMessages_logs {α : Type} (line : α → String) (items : List α) :
    (items.map fun item => log (line item)).filterMap errorMessage? = [] := by
  rw [List.filterMap_map]
  exact List.filterMap_eq_nil_iff.mpr fun _ _ => rfl

@[simp] theorem errorMessages_errors {α : Type} (line : α → String) (items : List α) :
    (items.map fun item => error (line item)).filterMap errorMessage? = items.map line := by
  rw [List.filterMap_map]
  exact congrFun List.filterMap_eq_map items

end Note

namespace CaseReport

@[simp] theorem errors_record_log (report : CaseReport) (message : String) :
    (report.record (.log message)).errors = report.errors := by
  simp [record, errors, Entry.errorMessage?]

@[simp] theorem errors_record_error (report : CaseReport) (message : String) :
    (report.record (.error message)).errors = report.errors ++ [message] := by
  simp [record, errors, Entry.errorMessage?]

/-- The report once the notes have been taken, one after the other. -/
def recordAll (report : CaseReport) (notes : List Note) : CaseReport := notes.foldl record report

theorem recordAll_cons (report : CaseReport) (note : Note) (notes : List Note) :
    report.recordAll (note :: notes) = (report.record note).recordAll notes := rfl

theorem recordAll_append (report : CaseReport) (first second : List Note) :
    report.recordAll (first ++ second) = (report.recordAll first).recordAll second :=
  List.foldl_append

@[simp] theorem name_recordAll (report : CaseReport) (notes : List Note) :
    (report.recordAll notes).name = report.name := by
  induction notes generalizing report with
  | nil => rfl
  | cons note notes ih =>
    rw [recordAll_cons, ih]
    cases note <;> rfl

theorem entries_recordAll (report : CaseReport) (notes : List Note) :
    (report.recordAll notes).entries = report.entries ++ notes.filterMap Note.entry? := by
  induction notes generalizing report with
  | nil => simp [recordAll]
  | cons note notes ih =>
    rw [recordAll_cons, ih]
    cases note with
    | log message => simp [record, Note.entry?]
    | error message => simp [record, Note.entry?]
    | _ => rfl

theorem errors_recordAll (report : CaseReport) (notes : List Note) :
    (report.recordAll notes).errors = report.errors ++ notes.filterMap Note.errorMessage? := by
  have each : (fun note => (Note.entry? note).bind Entry.errorMessage?) = Note.errorMessage? := by
    funext note
    cases note <;> rfl
  rw [errors, entries_recordAll, List.filterMap_append, List.filterMap_filterMap, each]
  rfl

private theorem last_of_more {α : Type} (first : α) (later : List α) (before : Option α) :
    later.getLast?.or (some first) = (first :: later).getLast?.or before := by
  rw [List.getLast?_cons]
  cases later.getLast? <;> rfl

/-- The last reason to skip stays. -/
theorem skipReason_recordAll (report : CaseReport) (notes : List Note) :
    (report.recordAll notes).skipReason =
      (notes.filterMap Note.skipReason?).getLast?.or report.skipReason := by
  induction notes generalizing report with
  | nil => rfl
  | cons note notes ih =>
    rw [recordAll_cons, ih]
    cases note with
    | skip reason => exact last_of_more _ _ _
    | _ => rfl

/-- The last fault stays. -/
theorem fatal_recordAll (report : CaseReport) (notes : List Note) :
    (report.recordAll notes).fatal =
      (notes.filterMap Note.fatal?).getLast?.or report.fatal := by
  induction notes generalizing report with
  | nil => rfl
  | cons note notes ih =>
    rw [recordAll_cons, ih]
    cases note with
    | abort fault => exact last_of_more _ _ _
    | _ => rfl

theorem verdict_eq_passed_iff {report : CaseReport} : report.verdict = .passed ↔
    report.fatal = none ∧ report.errors = [] ∧ report.skipReason = none := by
  unfold verdict
  cases report.fatal <;> cases report.errors <;> cases report.skipReason <;> simp

/-- Where nothing but entries was noted, the errors among them decide. -/
theorem verdict_recordAll_of_entries (name : String) {notes : List Note}
    (entries : ∀ note ∈ notes, note.entry?.isSome = true) :
    ({ name := name : CaseReport }.recordAll notes).verdict =
      if notes.filterMap Note.errorMessage? = [] then .passed else .failed := by
  rw [verdict, fatal_recordAll, errors_recordAll, skipReason_recordAll,
    Note.skipReasons_of_entries entries, Note.faults_of_entries entries]
  cases notes.filterMap Note.errorMessage? with
  | nil => rfl
  | cons first others => rfl

end CaseReport
end OpticsCheck
