import OpticsCheck.Report

/-!
# Suites

A suite is its cases in order, and what is told of a suite as a whole depends on nothing but their
verdicts. So it does not matter in which steps a suite was put together, only which cases came one
after the other.
-/

namespace OpticsCheck

namespace Verdict

/-- The verdicts that count against a suite. -/
def Broken (verdict : Verdict) : Prop := verdict = .failed ∨ verdict = .aborted

instance : DecidablePred Broken :=
  fun verdict => inferInstanceAs (Decidable (verdict = .failed ∨ verdict = .aborted))

theorem not_broken_iff {verdict : Verdict} :
    ¬ verdict.Broken ↔ verdict = .passed ∨ verdict = .skipped := by
  cases verdict <;> decide

theorem broken_weight (verdict : Verdict) :
    (if verdict = .failed then 1 else 0) + (if verdict = .aborted then 1 else 0) =
      if verdict.Broken then 1 else 0 := by
  cases verdict <;> rfl

end Verdict

namespace SuiteReport

variable (suite other : SuiteReport) (verdict : Verdict)

theorem broken_eq_countP :
    suite.broken = suite.cases.countP fun report => decide report.verdict.Broken := by
  unfold broken count
  induction suite.cases with
  | nil => rfl
  | cons report rest ih =>
    have weight := report.verdict.broken_weight
    simp only [List.countP_cons, decide_eq_true_eq]
    omega

theorem passed_iff_forall :
    suite.passed = true ↔ ∀ report ∈ suite.cases, ¬ report.verdict.Broken := by
  simp [passed, Verdict.not_broken_iff]

theorem one_le_broken_iff :
    1 ≤ suite.broken ↔ ∃ report ∈ suite.cases, report.verdict.Broken := by
  rw [broken_eq_countP, Nat.one_le_iff_ne_zero, ← Nat.pos_iff_ne_zero, List.countP_pos_iff]
  simp

theorem passed_iff : suite.passed = true ↔ ¬ 1 ≤ suite.broken := by
  rw [passed_iff_forall, one_le_broken_iff]
  simp

/-- One of the steps in which suites are put together. -/
inductive Growth where
  | push (report : CaseReport)
  | extend (other : SuiteReport)

/-- The cases that a step brings along. -/
def Growth.cases : Growth → List CaseReport
  | .push report => [report]
  | .extend other => other.cases

end SuiteReport
end OpticsCheck
