import OpticsCheck.Proofs.Check.Cases
import OpticsCheck.Proofs.Run.Recounting

/-!
# What a case finds

Once its wait is over a case looks its transceiver up, reads the powers and notes an error for each
bound that a sample breaks. Which notes these are depends on the answers alone, so a report can be
computed from them, whatever the device.
-/

namespace OpticsCheck

namespace PowerUpdate

variable {σ : Type} {dut : Device σ} {interface transceiver : String} {c : Case} {clock : Nat}
  {state : σ}

/-- What a case notes of the samples that it reads. -/
def findings (interface : String) (c : Case) (transceiver : String)
    (inputs outputs : List Binary64) : List Note :=
  [.log ("Transceiver " ++ transceiver ++ " inputPowers: " ++ Binary64.listText inputs),
    .log ("Transceiver " ++ transceiver ++ " outputPowers: " ++ Binary64.listText outputs)] ++
  (inputErrors interface inputs).map .error ++ (outputErrors interface c outputs).map .error

theorem errors_findings (interface : String) (c : Case) (transceiver : String)
    (inputs outputs : List Binary64) :
    (findings interface c transceiver inputs outputs).filterMap Note.errorMessage? =
      inputErrors interface inputs ++ outputErrors interface c outputs := by
  have errors (messages : List String) :
      (messages.map Note.error).filterMap Note.errorMessage? = messages :=
    (Note.errorMessages_errors id messages).trans (List.map_id messages)
  rw [findings, List.filterMap_append, List.filterMap_append, errors, errors]
  rfl

theorem entries_findings (interface : String) (c : Case) (transceiver : String)
    (inputs outputs : List Binary64) :
    ∀ note ∈ findings interface c transceiver inputs outputs, note.entry?.isSome = true := by
  intro note mem
  simp only [findings, List.cons_append, List.nil_append, List.mem_cons, List.mem_append,
    List.mem_map] at mem
  rcases mem with rfl | rfl | ⟨_, _, rfl⟩ | ⟨_, _, rfl⟩ <;> rfl

theorem contains_within (min max power : Binary64) :
    (Bounds.within min max).contains power = !(power.lt min || max.lt power) := by
  cases below : power.lt min <;> cases above : max.lt power <;>
    simp [Bounds.within, Bounds.contains, Bounds.violations, below, above]

theorem contains_atMost (max power : Binary64) :
    (Bounds.atMost max).contains power = !max.lt power := by
  cases above : max.lt power <;>
    simp [Bounds.atMost, Bounds.contains, Bounds.violations, above]

/-- The power is not that of a healthy lit laser. -/
def outOfRange (power : Binary64) : Bool := power.lt minOpticsPower || maxOpticsPower.lt power

/-- Only the samples out of range are errors. -/
theorem inputErrors_eq (interface : String) (samples : List Binary64) :
    inputErrors interface samples = (samples.filter outOfRange).map (inputLine interface) := by
  have outside (power : Binary64) : (!Bounds.nominal.contains power) = outOfRange power := by
    rw [Bounds.nominal, contains_within, Bool.not_not]
    rfl
  simp only [inputErrors, outside]

/-- An input sample is an error when it is below or above the range of a lit laser. -/
theorem inputErrors_eq_nil_iff (interface : String) (samples : List Binary64) :
    inputErrors interface samples = [] ↔ ∀ sample ∈ samples, Bounds.nominal.contains sample := by
  simp [inputErrors, List.filter_eq_nil_iff]

theorem outputErrors_eq_nil_iff (interface : String) (c : Case) (samples : List Binary64) :
    outputErrors interface c samples = [] ↔
      ∀ sample ∈ samples, c.outputBounds.contains sample := by
  simp [outputErrors, Bounds.contains, List.flatMap_eq_nil_iff]

/-- Notes what was read and what of it is out of bounds. -/
def judge (interface : String) (c : Case) (transceiver : String) (inputs outputs : List Binary64) :
    Procedure σ Unit := do
  Procedure.log
    ("Transceiver " ++ transceiver ++ " inputPowers: " ++ Binary64.listText inputs)
  Procedure.log
    ("Transceiver " ++ transceiver ++ " outputPowers: " ++ Binary64.listText outputs)
  (inputErrors interface inputs).forM Procedure.error
  (outputErrors interface c outputs).forM Procedure.error

theorem verify_eq (dut : Device σ) (interface : String) (c : Case) (transceiver : String) :
    verify dut interface c transceiver =
      Procedure.of (dut.runSamples .inputPower transceiver) >>= fun inputs =>
        Procedure.of (dut.runSamples .outputPower transceiver) >>= fun outputs =>
          judge interface c transceiver inputs outputs := rfl

/-- A judgement makes no call. -/
theorem recounts_judge {β : Type} {report : CaseReport} {inputs outputs : List Binary64}
    {account : β → Except Fault Unit × CaseReport} {found : β}
    (done : account found =
      (.ok (), report.recordAll (findings interface c transceiver inputs outputs))) :
    (judge interface c transceiver inputs outputs : Procedure σ Unit).Recounts report (pure found)
      account := by
  refine .note_bind (.note_bind ?_)
  refine .forM_bind (fun _ => rfl) (.forM (fun _ => rfl) ?_)
  rw [done, findings, CaseReport.recordAll_append, CaseReport.recordAll_append]
  rfl

theorem value_judge (report : CaseReport) (inputs outputs : List Binary64) :
    ((judge interface c transceiver inputs outputs).exec report clock state).value =
      (.ok (), report.recordAll (findings interface c transceiver inputs outputs)) := by
  have recounts : (judge interface c transceiver inputs outputs : Procedure σ Unit).Recounts report
      (pure ()) fun _ => (.ok (), report.recordAll (findings interface c transceiver inputs outputs)) :=
    recounts_judge rfl
  exact (recounts clock state).value

/-- What a case says of a transceiver without a manufacturer name. -/
def absentLine (transceiver : String) : String :=
  "MfgName for " ++ Text.quoted transceiver ++ " is not present, skip it"

/-- What a case has noted when its wait is over. -/
def settledNotes (interface : String) (c : Case) : List Note :=
  [.log c.description, .log (settledLine interface c)]

/-- A case whose wait ends well comes to what its examination notes. -/
theorem value_runCase_of_waited (config : Config)
    (accepted :
      (dut.runReplace { name := interface, enabled := c.enabled } clock state).value = .ok ())
    {status : OperStatus}
    (ended : (waited dut config interface c clock state).value = .ok status) :
    let begun := waited dut config interface c clock state
    (runCase dut config interface c clock state).value =
      Procedure.ended ((examine dut interface c).exec
        ({ name := c.reportName : CaseReport }.recordAll (settledNotes interface c))
        begun.clock begun.state).value := by
  intro begun
  have value := (exec_procedure_of_waited config accepted { name := c.reportName } ended).1
  rw [runCase, Procedure.value_report, value]
  rfl

end PowerUpdate
end OpticsCheck
