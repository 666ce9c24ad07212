import OpticsCheck.Proofs.Check.Findings

/-!
# The course of a case

A case asks its device for up to six things, one after the other: to accept the write, to show the
expected status in time, a name for the transceiver, its manufacturer's name, its input powers and
its output powers. What is refused first ends the case, and so does a missing manufacturer's name.
The course of a case is how far it gets and what it is told. The calls of a case and its report,
whatever the device answers, are determined by its course.
-/

namespace OpticsCheck.PowerUpdate

variable {σ : Type}

/-- What a case asks for, in the order in which it does. -/
inductive Stage where
  | replace
  | wait
  | name
  | lookup (transceiver : String)
  | input (transceiver mfgName : String)
  | output (transceiver mfgName : String)
deriving DecidableEq, Repr

/-- How far a case gets. -/
inductive Course where
  | failed (stage : Stage) (fault : Fault)
  | absent (transceiver : String)
  | read (transceiver mfgName : String) (inputs outputs : List Binary64)
deriving DecidableEq, Repr

/-- What comes of the questions once the interface has settled. -/
def examined (dut : Device σ) (interface : String) : Run σ Course :=
  (pure (transceiverName interface dut.vendor) : Run σ _).proceed (.failed .name) fun transceiver =>
    (dut.runMfgName transceiver).proceed (.failed (.lookup transceiver)) fun
      | none => pure (.absent transceiver)
      | some mfgName =>
        (dut.runSamples .inputPower transceiver).proceed (.failed (.input transceiver mfgName))
          fun inputs =>
        (dut.runSamples .outputPower transceiver).proceed (.failed (.output transceiver mfgName))
          fun outputs => pure (.read transceiver mfgName inputs outputs)

/-- Asks for one thing after the other, up to the first that is refused. -/
def course (dut : Device σ) (config : Config) (interface : String) (c : Case) : Run σ Course :=
  (dut.runReplace { name := interface, enabled := c.enabled }).proceed (.failed .replace) fun _ =>
    ((waitFor config interface c).run dut).proceed (.failed .wait) fun _ => examined dut interface

section Calls

variable (interface : String) (c : Case) (reads : List Call)

/-- The calls up to a stage and with it, given the status reads of the wait. -/
def Stage.calls : Stage → List Call
  | .replace => [write interface c]
  | .wait | .name => write interface c :: reads
  | .lookup transceiver => write interface c :: reads ++ [.mfgName transceiver]
  | .input transceiver _ =>
    write interface c :: reads ++ [.mfgName transceiver, .samples .inputPower transceiver]
  | .output transceiver _ =>
    write interface c :: reads ++
      [.mfgName transceiver, .samples .inputPower transceiver, .samples .outputPower transceiver]

/-- A case makes no call after the one that ends it. -/
def Course.calls : Course → List Call
  | .failed stage _ => stage.calls interface c reads
  | .absent transceiver => (Stage.lookup transceiver).calls interface c reads
  | .read transceiver mfgName _ _ => (Stage.output transceiver mfgName).calls interface c reads

theorem told_examined (dut : Device σ) :
    Run.Told (write interface c :: reads) (examined dut interface)
      (Course.calls interface c reads) := by
  have more (calls : List Call) (call : Call) :
      write interface c :: reads ++ (calls ++ [call]) =
        write interface c :: reads ++ calls ++ [call] := (List.append_assoc ..).symm
  refine .proceed (fun _ _ => rfl) (fun _ => (List.append_nil _).symm) fun transceiver => ?_
  rw [List.append_nil]
  refine .proceed (fun _ _ => Run.calls_call ..) (fun _ => rfl) fun found => ?_
  cases found with
  | none => exact .pure rfl
  | some mfgName =>
    refine .proceed (fun _ _ => Run.calls_call ..) (fun _ => more [.mfgName transceiver] _)
      fun inputs => ?_
    rw [← more]
    refine .proceed (fun _ _ => Run.calls_call ..)
      (fun _ => more [.mfgName transceiver, .samples .inputPower transceiver] _) fun outputs => ?_
    rw [← more]
    exact .pure rfl

/-- The wait of a case reads the status at least once. -/
theorem calls_course (dut : Device σ) (config : Config) (clock : Nat) (state : σ) :
    ∃ reads,
      (course dut config interface c clock state).calls =
        (course dut config interface c clock state).value.calls interface c
          (List.replicate (reads + 1) (.operStatus interface)) := by
  let written := dut.runReplace { name := interface, enabled := c.enabled } clock state
  obtain ⟨reads, waited⟩ :=
    (waitFor config interface c).calls_run dut written.clock written.state
  refine ⟨reads, ?_⟩
  -- how often the status is read depends on where the wait starts, so these two stages are told
  -- from the state in which the case begins
  have wrote : written.calls = [write interface c] := Run.calls_call ..
  have told : (course dut config interface c clock state).Told []
      (Course.calls interface c (List.replicate (reads + 1) (.operStatus interface))) := by
    refine Run.Told.proceed_at (fun _ => wrote.symm) fun _ => ?_
    refine Run.Told.proceed_at (fun _ => ?_) fun _ => ?_
    · rw [wrote, waited]
      rfl
    · rw [wrote, waited]
      exact told_examined interface c _ dut _ _
  exact told

end Calls

section Report

variable (interface : String) (c : Case)

/-- What a case has noted when it asks for something. -/
def Stage.notes : Stage → List Note
  | .replace | .wait => [.log c.description]
  | .name | .lookup _ => settledNotes interface c
  | .input transceiver mfgName | .output transceiver mfgName =>
    settledNotes interface c ++ [.log ("Transceiver " ++ transceiver ++ " MfgName: " ++ mfgName)]

def Course.notes : Course → List Note
  | .failed stage _ => stage.notes interface c
  | .absent transceiver =>
    (Stage.lookup transceiver).notes interface c ++ [.skip (absentLine transceiver)]
  | .read transceiver mfgName inputs outputs =>
    (Stage.output transceiver mfgName).notes interface c ++
      findings interface c transceiver inputs outputs

/-- What a case that begins with an empty report makes of its course. -/
def Course.account (course : Course) : Except Fault Unit × CaseReport :=
  let report : CaseReport := { name := c.reportName }
  match course with
  | .failed _ fault => (.error fault, report.recordAll (course.notes interface c))
  | .absent _ | .read .. => (.ok (), report.recordAll (course.notes interface c))

theorem recounts_examine (dut : Device σ) :
    (examine dut interface c).Recounts
      ({ name := c.reportName : CaseReport }.recordAll (settledNotes interface c))
      (examined dut interface) (Course.account interface c) := by
  refine .of_bind (fun _ => rfl) fun transceiver => ?_
  refine .of_bind (fun _ => rfl) fun found => ?_
  cases found with
  | none => exact .note rfl
  | some mfgName =>
    refine .note_bind ?_
    rw [verify_eq]
    refine .of_bind (fun _ => rfl) fun inputs => .of_bind (fun _ => rfl) fun outputs => ?_
    refine recounts_judge ?_
    simp only [Course.account, Course.notes, Stage.notes, CaseReport.recordAll_append]
    rfl

/-- A case recounts its course. -/
theorem recounts_procedure (dut : Device σ) (config : Config) :
    (procedure dut config interface c).Recounts { name := c.reportName }
      (course dut config interface c) (Course.account interface c) := by
  rw [procedure_eq, settle]
  simp only [bind_assoc]
  refine .note_bind ?_
  refine .of_bind (fun _ => rfl) fun _ => ?_
  rw [Procedure.discard_bind]
  refine .of_bind (fun _ => rfl) fun _ => .note_bind ?_
  exact recounts_examine interface c dut

end Report

/-- The bounds of a case that an output power breaks, the upper one first. -/
def Case.broken (c : Case) (power : Binary64) : List Violation :=
  (if c.maxOutputPower.lt power then [.aboveMax power c.maxOutputPower] else []) ++
    if c.checkMinOutputPower && power.lt minOpticsPower then [.belowMin power minOpticsPower] else []

theorem Case.violations_outputBounds (c : Case) : c.outputBounds.violations = c.broken := by
  funext power
  cases bounded : c.checkMinOutputPower <;>
    simp [outputBounds, broken, bounded, Bounds.violations, Bounds.within, Bounds.atMost]

theorem Stage.notes_logs (stage : Stage) (interface : String) (c : Case) :
    ∀ note ∈ stage.notes interface c, ∃ message, note = .log message := by
  cases stage <;> simp [notes, settledNotes]

/-- A case that fails at a stage has noted no error and no reason to skip. -/
theorem report_failed (interface : String) (c : Case) (stage : Stage) (fault : Fault) :
    let report := Procedure.ended ((Course.failed stage fault).account interface c)
    report.verdict = .aborted ∧ report.fatal = some fault.message ∧ report.errors = [] ∧
      report.skipReason = none := by
  refine ⟨rfl, rfl, ?_, ?_⟩
  · refine (CaseReport.errors_recordAll { name := c.reportName } _).trans ?_
    cases stage <;> rfl
  · refine (CaseReport.skipReason_recordAll { name := c.reportName } _).trans ?_
    cases stage <;> rfl

theorem report_absent (interface : String) (c : Case) (transceiver : String) :
    let report := Procedure.ended ((Course.absent transceiver).account interface c)
    report.verdict = .skipped ∧ report.errors = [] ∧
      report.skipReason = some (absentLine transceiver) :=
  ⟨rfl, rfl, rfl⟩

theorem report_read (interface : String) (c : Case) (transceiver mfgName : String)
    (inputs outputs : List Binary64) :
    let report :=
      Procedure.ended ((Course.read transceiver mfgName inputs outputs).account interface c)
    report.errors = inputErrors interface inputs ++ outputErrors interface c outputs ∧
    report.verdict = if report.errors = [] then .passed else .failed := by
  intro report
  let notes := (Course.read transceiver mfgName inputs outputs).notes interface c
  have noted : report = { name := c.reportName : CaseReport }.recordAll notes := rfl
  have messages : notes.filterMap Note.errorMessage? =
      inputErrors interface inputs ++ outputErrors interface c outputs := by
    refine List.filterMap_append.trans ?_
    exact errors_findings interface c transceiver inputs outputs
  have errors : report.errors = notes.filterMap Note.errorMessage? := by
    rw [noted, CaseReport.errors_recordAll]
    rfl
  refine ⟨?_, ?_⟩
  · rw [errors, messages]
  · rw [errors, noted]
    refine CaseReport.verdict_recordAll_of_entries c.reportName fun note mem => ?_
    rcases List.mem_append.mp mem with begun | found
    · obtain ⟨message, rfl⟩ := Stage.notes_logs _ interface c note begun
      rfl
    · exact entries_findings interface c transceiver inputs outputs note found

/-- A case makes the calls of its course and reports what comes of it, whatever the device answers
and however its wait ends. -/
theorem runCase_follows_course (dut : Device σ) (config : Config) (interface : String) (c : Case)
    (clock : Nat) (state : σ) :
    let course := (course dut config interface c clock state).value
    let out := runCase dut config interface c clock state
    let report := out.value
    (∃ reads, out.calls =
      course.calls interface c (List.replicate (reads + 1) (.operStatus interface))) ∧
    match course with
    | .failed _ fault =>
      report.verdict = .aborted ∧ report.fatal = some fault.message ∧ report.errors = [] ∧
        report.skipReason = none
    | .absent transceiver =>
      report.verdict = .skipped ∧ report.errors = [] ∧
        report.skipReason = some (absentLine transceiver)
    | .read _ _ inputs outputs =>
      report.errors = (inputs.filter outOfRange).map (inputLine interface) ++
        (outputs.flatMap c.broken).map (outputLine interface) ∧
      report.verdict = if report.errors = [] then .passed else .failed := by
  intro course out report
  obtain ⟨value, calls, -, -⟩ := (recounts_procedure interface c dut config).report clock state
  obtain ⟨reads, made⟩ := calls_course interface c dut config clock state
  refine ⟨⟨reads, calls.trans made⟩, ?_⟩
  have told : report = Procedure.ended (course.account interface c) := value
  rw [told]
  cases course with
  | failed stage fault => exact report_failed interface c stage fault
  | absent transceiver => exact report_absent interface c transceiver
  | read transceiver mfgName inputs outputs =>
    obtain ⟨errors, verdict⟩ := report_read interface c transceiver mfgName inputs outputs
    rw [inputErrors_eq, outputErrors, c.violations_outputBounds] at errors
    exact ⟨errors, verdict⟩

/-- A write that is refused ends the case before the first status read. -/
example :
    let refused : Fault := .config { message := "refused" }
    let dut := { Script.ofReads [{ answer := .ok .up }] with writes := [.error refused] }.device
    let c : Case :=
      { description := "lit", enabled := true, expected := .up, maxOutputPower := maxOpticsPower
        checkMinOutputPower := true }
    (course dut {} "i" c 0 {}).value = .failed .replace refused := rfl

end OpticsCheck.PowerUpdate
