import OpticsCheck.Proofs.Report.Notes

/-!
# Verdicts over a history of notes

A verdict is worked out anew from three places of the report each time it is asked for. Over a
history of notes it is nothing but the worst that one of them comes to: a note makes it as bad as
the note is, or leaves it.
-/

namespace OpticsCheck

/-- How bad a verdict is. A failure outweighs a skip. -/
def Verdict.severity : Verdict → Nat
  | .passed => 0
  | .skipped => 1
  | .failed => 2
  | .aborted => 3

theorem Verdict.severity_le (verdict : Verdict) : verdict.severity ≤ Verdict.aborted.severity := by
  cases verdict <;> decide

theorem Verdict.severity_injective {v w : Verdict} (same : v.severity = w.severity) : v = w := by
  revert same
  cases v <;> cases w <;> decide

inductive Note.Kind where
  | log
  | error
  | skip
  | abort
deriving DecidableEq, Repr

namespace Note

def kind : Note → Kind
  | .log _ => .log
  | .error _ => .error
  | .skip _ => .skip
  | .abort _ => .abort

/-- What a case comes to by a note of that kind alone. -/
def Kind.verdict : Kind → Verdict
  | .log => .passed
  | .error => .failed
  | .skip => .skipped
  | .abort => .aborted

end Note

/-- The verdict on a case by which kinds of note it has. -/
def Verdict.ofKinds (kinds : List Note.Kind) : Verdict :=
  if .abort ∈ kinds then .aborted
  else if .error ∈ kinds then .failed
  else if .skip ∈ kinds then .skipped
  else .passed

namespace Verdict

theorem ofKinds_congr {kinds others : List Note.Kind}
    (same : ∀ kind, kind ∈ kinds ↔ kind ∈ others) : ofKinds kinds = ofKinds others := by
  simp only [ofKinds, same]

/-- One more kind counts as far as it is worse than the others. -/
theorem severity_ofKinds_cons (kind : Note.Kind) (kinds : List Note.Kind) :
    (ofKinds (kind :: kinds)).severity = max kind.verdict.severity (ofKinds kinds).severity := by
  cases kind <;> grind [ofKinds, Note.Kind.verdict, severity]

end Verdict

namespace CaseReport

variable (report : CaseReport)

/-- What one note does to the verdict, whatever was noted before. -/
theorem severity_verdict_record (note : Note) :
    (report.record note).verdict.severity =
      max report.verdict.severity note.kind.verdict.severity := by
  cases note with
  | log message =>
    have same : (report.record (.log message)).verdict = report.verdict := by
      simp only [verdict, errors_record_log]
      rfl
    rw [same]
    exact (Nat.max_zero _).symm
  | error message =>
    unfold verdict
    rw [errors_record_error]
    cases fatal : report.fatal <;> cases report.errors <;> cases report.skipReason <;>
      simp [record, fatal, Note.kind, Note.Kind.verdict, Verdict.severity]
  | skip reason =>
    have errors : (report.record (.skip reason)).errors = report.errors := rfl
    unfold verdict
    rw [errors]
    cases fatal : report.fatal <;> cases report.errors <;> cases report.skipReason <;>
      simp [record, fatal, Note.kind, Note.Kind.verdict, Verdict.severity]
  | abort fault => exact (Nat.max_eq_right report.verdict.severity_le).symm

theorem severity_verdict_recordAll (notes : List Note) :
    (report.recordAll notes).verdict.severity =
      max report.verdict.severity (Verdict.ofKinds (notes.map Note.kind)).severity := by
  induction notes generalizing report with
  | nil => exact (Nat.max_zero _).symm
  | cons note rest ih =>
    rw [recordAll_cons, ih, severity_verdict_record, List.map_cons, Verdict.severity_ofKinds_cons,
      Nat.max_assoc]

/-- Noting more never makes a verdict better. -/
theorem severity_verdict_le_recordAll (notes : List Note) :
    report.verdict.severity ≤ (report.recordAll notes).verdict.severity := by
  rw [severity_verdict_recordAll]
  exact Nat.le_max_left _ _

/-- The verdict on a case to which nothing has happened before the notes. -/
theorem verdict_recordAll (name : String) (notes : List Note) :
    ({ name := name : CaseReport }.recordAll notes).verdict =
      Verdict.ofKinds (notes.map Note.kind) := by
  apply Verdict.severity_injective
  rw [severity_verdict_recordAll]
  exact Nat.zero_max _

/-- The verdict on a case is the worst that its notes come to: aborted once it was aborted, else
failed once it had an error, else skipped once it was skipped, else passed. So the order of the
notes does not matter for it, it never gets better on the way, and next to it the report keeps every
message in its order and the last reason and the last fault. -/
theorem history_verdict (name : String) (notes : List Note) :
    let after := fun notes => { name := name : CaseReport }.recordAll notes
    let kinds := notes.map Note.kind
    (after notes).verdict = Verdict.ofKinds kinds ∧
    (∀ others : List Note, (∀ kind, kind ∈ others.map Note.kind ↔ kind ∈ kinds) →
      (after others).verdict = (after notes).verdict) ∧
    (∀ count more, (after (notes.take count)).verdict.severity ≤
      (after (notes.take (count + more))).verdict.severity) ∧
    (after notes).entries = notes.filterMap Note.entry? ∧
    (after notes).skipReason = (notes.filterMap Note.skipReason?).getLast? ∧
    (after notes).fatal = (notes.filterMap Note.fatal?).getLast? := by
  intro after kinds
  refine ⟨verdict_recordAll name notes, ?_, ?_, ?_, ?_, ?_⟩
  · intro others same
    exact (verdict_recordAll name others).trans
      ((Verdict.ofKinds_congr same).trans (verdict_recordAll name notes).symm)
  · intro count more
    have goesOn : after (notes.take (count + more)) =
        (after (notes.take count)).recordAll ((notes.drop count).take more) := by
      simp only [after, ← recordAll_append, ← List.take_add]
    rw [goesOn]
    exact severity_verdict_le_recordAll _ _
  · exact (entries_recordAll _ notes).trans (List.nil_append _)
  · exact (skipReason_recordAll _ notes).trans (Option.or_none)
  · exact (fatal_recordAll _ notes).trans (Option.or_none)

/-- An error and two skips behind an abort, and notes of the same kinds the other way round. -/
theorem history_verdict_of_late_notes :
    let after := fun notes => { name := "case" : CaseReport }.recordAll notes
    let notes : List Note := [.abort (.unknownPort "port9"), .error "low", .skip "absent",
      .log "end", .error "", .skip "late"]
    let others : List Note := [.skip "first", .log "line", .log "line", .error "high",
      .abort (.unknownComponent "c")]
    (∀ kind, kind ∈ others.map Note.kind ↔ kind ∈ notes.map Note.kind) ∧
    (after others).verdict = (after notes).verdict ∧
    (after notes).verdict = .aborted ∧
    (after notes).entries = [.error "low", .log "end", .error ""] ∧
    (after notes).skipReason = some "late" ∧
    (after notes).fatal = some "port \"port9\" is not part of the topology" := by
  intro after notes others
  have same : ∀ kind, kind ∈ others.map Note.kind ↔ kind ∈ notes.map Note.kind := by
    intro kind
    cases kind <;> decide
  obtain ⟨verdict, anyOrder, _, entries, skipReason, fatal⟩ := history_verdict "case" notes
  refine ⟨same, anyOrder others same, verdict, entries, skipReason, fatal.trans ?_⟩
  decide +kernel

end CaseReport
end OpticsCheck
