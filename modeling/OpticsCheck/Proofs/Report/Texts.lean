import OpticsCheck.Proofs.Report.Notes

/-!
# The texts of a report

A case has a name, and it tells the rest in the texts of its notes. So what holds of its name and of
every text that is noted as a finding holds of all that is shown of the case.
-/

namespace OpticsCheck

/-- All texts of a case are of that kind, except for its log lines, which are not shown. -/
structure CaseReport.AllTexts (kind : String → Prop) (report : CaseReport) : Prop where
  name : kind report.name
  skipReason : ∀ reason ∈ report.skipReason, kind reason
  fatal : ∀ fatal ∈ report.fatal, kind fatal
  errors : ∀ message ∈ report.errors, kind message

/-- What the note finds, if anything, is of that kind. -/
def Note.Finds (kind : String → Prop) : Note → Prop
  | .log _ => True
  | .error message => kind message
  | .skip reason => kind reason
  | .abort fault => kind fault.message

namespace CaseReport.AllTexts

variable {kind kind' : String → Prop} {report : CaseReport}

instance [DecidablePred kind] : Decidable (report.AllTexts kind) :=
  decidable_of_iff
    (kind report.name ∧ (∀ reason ∈ report.skipReason, kind reason) ∧
      (∀ fatal ∈ report.fatal, kind fatal) ∧ ∀ message ∈ report.errors, kind message)
    ⟨fun ⟨name, skipReason, fatal, errors⟩ => ⟨name, skipReason, fatal, errors⟩,
      fun ⟨name, skipReason, fatal, errors⟩ => ⟨name, skipReason, fatal, errors⟩⟩

theorem mono (all : report.AllTexts kind) (imp : ∀ {text}, kind text → kind' text) :
    report.AllTexts kind' where
  name := imp all.name
  skipReason reason mem := imp (all.skipReason reason mem)
  fatal fatal mem := imp (all.fatal fatal mem)
  errors message mem := imp (all.errors message mem)

/-- Before anything is noted, the name is the only text. -/
theorem of_name {name : String} (own : kind name) : AllTexts kind { name } :=
  ⟨own, nofun, nofun, nofun⟩

theorem record (all : report.AllTexts kind) {note : Note} (finds : note.Finds kind) :
    (report.record note).AllTexts kind := by
  cases note with
  | log message =>
    refine ⟨all.name, all.skipReason, all.fatal, ?_⟩
    rw [errors_record_log]
    exact all.errors
  | error message =>
    refine ⟨all.name, all.skipReason, all.fatal, ?_⟩
    rw [errors_record_error, List.forall_mem_append, List.forall_mem_singleton]
    exact ⟨all.errors, finds⟩
  | skip reason =>
    refine ⟨all.name, ?_, all.fatal, all.errors⟩
    rintro _ ⟨⟩
    exact finds
  | abort fault =>
    refine ⟨all.name, all.skipReason, ?_, all.errors⟩
    rintro _ ⟨⟩
    exact finds

theorem recordAll (all : report.AllTexts kind) {notes : List Note}
    (finds : ∀ note ∈ notes, note.Finds kind) : (report.recordAll notes).AllTexts kind := by
  induction notes generalizing report with
  | nil => exact all
  | cons note rest ih =>
    obtain ⟨first, others⟩ := List.forall_mem_cons.mp finds
    exact ih (all.record first) others

end CaseReport.AllTexts
end OpticsCheck
