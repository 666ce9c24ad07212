import OpticsCheck.CommandLine.Program
import OpticsCheck.Proofs.Report.Suites
import OpticsCheck.Proofs.Terminal.Layout

/-!
# How a suite ends

A suite ends in a summary of its verdicts and, where cases failed or were aborted, in a failure that
counts them. The two come from different counts over the same cases, and they agree: the summary is
shown in any case, its numbers add up, and there is a failure exactly when it counts one.
-/

namespace OpticsCheck

namespace Results

def failureText (broken cases : Nat) : String :=
  String.ofList (digitChars broken) ++ " of " ++ String.ofList (digitChars cases)
    ++ " checks did not pass"

theorem failure?_eq (suite : SuiteReport) :
    failure? suite =
      if 1 ≤ suite.broken then some (failureText suite.broken suite.cases.length) else none := by
  unfold failure?
  by_cases broken : 1 ≤ suite.broken
  · rw [if_neg fun passed => suite.passed_iff.mp passed broken, if_pos broken]
    rfl
  · rw [if_pos (suite.passed_iff.mpr broken), if_neg broken]

/-- What is shown of a suite last is its summary, at any quiet level. -/
theorem getLast?_lines (coloured : Bool) (suite : SuiteReport) (total : Duration) (quiet : Nat) :
    let text := (summaryText suite total).render coloured
    (lines coloured suite total quiet).getLast? =
      some (if quiet = 0 then Line.centred text else text) := by
  intro text
  unfold lines summary
  by_cases loud : quiet = 0
  · simp [loud, text]
  · simp [loud, text]

end Results

/-- Whatever a check comes to, the last that it prints is the summary of its suite, and it exits with
an error exactly when a case failed or was aborted. -/
theorem Invocation.ends_checked (quiet : Nat) (topology : Topology)
    (run : Run Interfaces SuiteReport) :
    let suite := (run 0 topology.boot).value
    let text := (Results.summaryText suite ⟨0⟩).render false
    (checked quiet topology run).events.getLast? =
      some ⟨.info, .print, if quiet = 0 then Line.centred text else text⟩ ∧
    (checked quiet topology run).exitCode = if 1 ≤ suite.broken then 1 else 0 := by
  intro suite text
  constructor
  · have events : (checked quiet topology run).events =
        (run 0 topology.boot).events ++ printed (Results.lines false suite ⟨0⟩ quiet) := rfl
    rw [events, printed, List.getLast?_append, List.getLast?_map, Results.getLast?_lines]
    rfl
  · have failure : (checked quiet topology run).failure.isSome =
        (Results.failure? suite).isSome := Option.isSome_map
    rw [Ending.exitCode, failure, Results.failure?_eq]
    by_cases broken : 1 ≤ suite.broken
    · rw [if_pos broken, if_pos broken]
      rfl
    · rw [if_neg broken, if_neg broken]
      rfl

end OpticsCheck
