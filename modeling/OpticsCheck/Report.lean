import OpticsCheck.Device.Fault
import OpticsCheck.Log.Event

/-!
# Reports

A check case collects notes: log lines, errors that let it go on, a reason to skip it, a fault that
ends it. The verdict is the worst of what was noted: aborted, failed, skipped, passed. A suite is
the list of the cases that ran.
-/

namespace OpticsCheck

inductive Verdict where
  | passed
  | failed
  | skipped
  | aborted
deriving DecidableEq, Repr

def Verdict.keyword : Verdict → String
  | .passed => "PASS"
  | .failed => "FAIL"
  | .skipped => "SKIP"
  | .aborted => "ABORT"

inductive Entry where
  | log (message : String)
  | error (message : String)
deriving DecidableEq, Repr

def Entry.errorMessage? : Entry → Option String
  | .log _ => none
  | .error message => some message

/-- What a case can note. -/
inductive Note where
  | log (message : String)
  | error (message : String)
  | skip (reason : String)
  | abort (fault : Fault)
deriving DecidableEq, Repr

structure CaseReport where
  name : String
  entries : List Entry := []
  skipReason : Option String := none
  fatal : Option String := none
  elapsed : Duration := ⟨0⟩
deriving DecidableEq, Repr

namespace CaseReport

def record (report : CaseReport) : Note → CaseReport
  | .log message => { report with entries := report.entries ++ [.log message] }
  | .error message => { report with entries := report.entries ++ [.error message] }
  | .skip reason => { report with skipReason := some reason }
  | .abort fault => { report with fatal := some fault.message }

def errors (report : CaseReport) : List String := report.entries.filterMap Entry.errorMessage?

def verdict (report : CaseReport) : Verdict :=
  if report.fatal.isSome then .aborted
  else if !report.errors.isEmpty then .failed
  else if report.skipReason.isSome then .skipped
  else .passed

end CaseReport

/-- The event of a note in the case called `name`. -/
def Note.event (name : String) : Note → Event
  | .log message => ⟨.info, .report, message⟩
  | .error message => ⟨.error, .report, message⟩
  | .skip reason => ⟨.warn, .report, reason⟩
  | .abort fault => ⟨.error, .report, name ++ ": " ++ fault.message⟩

/-- The cases that ran, in order. -/
structure SuiteReport where
  cases : List CaseReport := []
deriving DecidableEq, Repr

namespace SuiteReport

def push (suite : SuiteReport) (report : CaseReport) : SuiteReport := ⟨suite.cases ++ [report]⟩

def extend (suite other : SuiteReport) : SuiteReport := ⟨suite.cases ++ other.cases⟩

def count (suite : SuiteReport) (verdict : Verdict) : Nat :=
  suite.cases.countP fun report => report.verdict = verdict

/-- Skipped cases do not count against a suite. -/
def passed (suite : SuiteReport) : Bool :=
  suite.cases.all fun report => report.verdict = .passed || report.verdict = .skipped

/-- The cases that failed or were aborted. -/
def broken (suite : SuiteReport) : Nat := suite.count .failed + suite.count .aborted

end SuiteReport
end OpticsCheck
