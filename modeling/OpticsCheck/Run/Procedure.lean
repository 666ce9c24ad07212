import OpticsCheck.Report
import OpticsCheck.Run.Wait

/-!
# Check procedures

A procedure runs against a device and writes a case's report; every note also becomes an event at
the time it is made. A fault ends the procedure and is noted as what aborted the case; what was
noted before it stays.
-/

namespace OpticsCheck

abbrev Procedure (σ α : Type) := ExceptT Fault (StateT CaseReport (Run σ)) α

namespace Procedure

variable {σ α : Type}

/-- A run that may end in a fault. -/
def of (run : Run σ (Except Fault α)) : Procedure σ α :=
  ExceptT.mk fun report => do return (← run, report)

def note (n : Note) : Procedure σ Unit :=
  ExceptT.mk fun report => do
    Run.log (n.event report.name)
    return (.ok (), report.record n)

def log (message : String) : Procedure σ Unit := note (.log message)

def error (message : String) : Procedure σ Unit := note (.error message)

def skip (reason : String) : Procedure σ Unit := note (.skip reason)

/-- The report of a case called `name`. -/
def report (procedure : Procedure σ Unit) (name : String) : Run σ CaseReport := do
  let (result, report) ← procedure.run.run { name }
  match result with
  | .ok () => return report
  | .error fault =>
    Run.log ((Note.abort fault).event report.name)
    return report.record (.abort fault)

end Procedure
end OpticsCheck
