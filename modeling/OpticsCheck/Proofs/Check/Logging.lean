import OpticsCheck.Proofs.Check.Findings
import OpticsCheck.Proofs.Check.Inventory
import OpticsCheck.Proofs.Run.Telling

/-!
# Reports and logs agree

The simulated device logs nothing from warnings on, and its faults quote the names that they tell
of. So do the errors of both checks and their reasons to skip. So whoever reads only the warnings
and errors in the log finds there, case by case, what the reports say, and nothing else.
-/

namespace OpticsCheck

namespace Topology

variable (t : Topology) (interfaces : Interfaces)

theorem plainFault_port (id : String) : PlainFault (t.device.port id) := by
  unfold device
  dsimp only
  split
  · exact .ok _
  · exact .error (Fault.isPlain_message rfl)

theorem plainFault_component (name : String) : PlainFault (t.component name) := by
  unfold component
  split
  · exact .ok _
  · exact .error (Fault.isPlain_message rfl)

theorem plainFault_interface (name : String) : PlainFault (interface interfaces name) := by
  unfold interface
  split
  · exact .ok _
  · exact .error (Fault.isPlain_message rfl)

theorem plainFault_laserOff (spec : ComponentSpec) : PlainFault (laserOff interfaces spec) := by
  unfold laserOff
  split
  · exact .ok _
  · exact .bind (plainFault_interface interfaces _) fun _ => .ok _

theorem plainFault_samples (leaf : Leaf) (component : String) :
    PlainFault (t.samples interfaces leaf component) := by
  refine .bind (t.plainFault_component component) fun spec => ?_
  cases leaf with
  | inputPower => exact .ok _
  | biasCurrent => exact .ok _
  | outputPower =>
    refine .bind (plainFault_laserOff interfaces spec) fun dark => ?_
    cases dark <;> exact .ok _

/-- What a write changes is logged as information, and that it changes nothing even below that. -/
theorem hushed_replace (config : InterfaceConfig) (clock : Nat) :
    (t.replace config clock interfaces).Hushed := by
  have plain := plainFault_interface interfaces config.name
  unfold replace
  split
  · next fault missing => exact .of_plain (.error (plain fault missing)) interfaces
  · next s _ =>
    refine ⟨?_, .ok ()⟩
    by_cases same : s.enabled = config.enabled
    · rw [if_pos same]
      exact warningsIn_of_low (Nat.lt_add_of_pos_right Nat.two_pos)
    · rw [if_neg same]
      exact warningsIn_of_low (Nat.lt_succ_self 2)

theorem hushed_device : t.device.Hushed where
  port := t.plainFault_port
  find _ _ interfaces := .of_plain (.ok _) interfaces
  mfgName component _ interfaces :=
    .of_plain ((t.plainFault_component component).map _) interfaces
  samples leaf component _ interfaces :=
    .of_plain (t.plainFault_samples interfaces leaf component) interfaces
  operStatus interface _ interfaces :=
    .of_plain ((plainFault_interface interfaces interface).map _) interfaces
  replace config clock interfaces := t.hushed_replace interfaces config clock

end Topology

namespace Inventory

variable {σ : Type} {dut : Device σ}

theorem isPlain_emptyLine (transceiver : String) (leaf : Leaf) :
    Text.isPlain (emptyLine transceiver leaf) = true := by
  unfold emptyLine
  simp only [Text.isPlain_append, Text.isPlain_quoted]
  cases leaf <;> decide

theorem tells_validate (hushed : dut.Hushed) (transceiver : String) :
    Procedure.Tells false (validate dut transceiver) := by
  refine .bind (.log _) fun _ => ?_
  refine .bind (.of (.call _ (hushed.mfgName transceiver))) fun found => ?_
  cases found with
  | none => exact .log _
  | some mfgName =>
    refine .bind (.log _) fun _ => ?_
    refine .bind (.of (hushed.runReadings transceiver)) fun readings => ?_
    refine .bind (.forM fun _ _ => .log _) fun _ => ?_
    exact .forM fun leaf _ => .error (isPlain_emptyLine transceiver leaf)

theorem tells_procedure (hushed : dut.Hushed) : Procedure.Tells false (procedure dut) := by
  rw [procedure_eq]
  refine .bind (.of (.call _ (hushed.find .transceiver))) fun transceivers => ?_
  refine .bind (.log _) fun _ => ?_
  split
  · exact .throw (Fault.isPlain_message rfl)
  · exact .forM fun transceiver _ => tells_validate hushed transceiver

theorem warnings_check (hushed : dut.Hushed) (clock : Nat) (state : σ) :
    (check dut clock state).warnings = (check dut clock state).value.warnings :=
  (tells_procedure hushed).report (by decide) clock state

end Inventory

theorem Bounds.isPlain_text (b : Bounds) : Text.isPlain b.text = true := by
  unfold text
  split
  · simp only [Text.isPlain_append, Binary64.isPlain_fixedText]
    decide
  · simp only [Text.isPlain_append, Binary64.isPlain_fixedText]
    decide

theorem Violation.isPlain_message (violation : Violation) :
    Text.isPlain violation.message = true := by
  unfold message
  cases violation with
  | aboveMax sample max =>
    simp only [Text.isPlain_append, Binary64.isPlain_fixedText]
    decide
  | belowMin sample min =>
    simp only [Text.isPlain_append, Binary64.isPlain_fixedText]
    decide

namespace PowerUpdate

variable {σ : Type} {dut : Device σ}

theorem isPlain_inputLine (interface : String) (sample : Binary64) :
    Text.isPlain (inputLine interface sample) = true := by
  unfold inputLine
  simp only [Text.isPlain_append, Text.isPlain_quoted, Binary64.isPlain_fixedText,
    Bounds.isPlain_text]
  decide

theorem isPlain_outputLine (interface : String) (violation : Violation) :
    Text.isPlain (outputLine interface violation) = true := by
  unfold outputLine
  simp only [Text.isPlain_append, Text.isPlain_quoted, Violation.isPlain_message]
  decide

theorem isPlain_absentLine (transceiver : String) :
    Text.isPlain (absentLine transceiver) = true := by
  unfold absentLine
  simp only [Text.isPlain_append, Text.isPlain_quoted]
  decide

theorem isPlain_reportName {c : Case} (plain : Text.isPlain c.description = true) :
    Text.isPlain c.reportName = true := by
  unfold Case.reportName
  simp only [Text.isPlain_append, plain]
  decide

theorem plainFault_transceiverName (interface : String) (vendor : Vendor) :
    PlainFault (transceiverName interface vendor) := by
  unfold transceiverName
  split
  · exact .error (Fault.isPlain_message rfl)
  · split <;> exact .ok _

section Tells

variable (hushed : dut.Hushed) (config : Config) (interface : String) (c : Case)
include hushed

theorem tells_settle : Procedure.Tells false (settle dut config interface c) := by
  refine .bind (.of (.call _ (hushed.replace _))) fun _ => ?_
  exact .discard (.of ((waitFor config interface c).hushed_run hushed))

theorem tells_verify (transceiver : String) :
    Procedure.Tells true (verify dut interface c transceiver) := by
  refine .bind (.of (.call _ (hushed.samples _ transceiver))) fun inputs => ?_
  refine .bind (.of (.call _ (hushed.samples _ transceiver))) fun outputs => ?_
  refine .bind (.log _) fun _ => ?_
  refine .bind (.log _) fun _ => ?_
  refine .bind (.forM fun message mem => ?_) fun _ => .forM fun message mem => ?_
  · obtain ⟨sample, -, rfl⟩ := List.mem_map.mp mem
    exact .error (isPlain_inputLine interface sample)
  · obtain ⟨violation, -, rfl⟩ := List.mem_map.mp mem
    exact .error (isPlain_outputLine interface violation)

theorem tells_examine : Procedure.Tells true (examine dut interface c) := by
  refine .bind (.of (.pure (plainFault_transceiverName interface dut.vendor))) fun transceiver => ?_
  refine .bind (.of (.call _ (hushed.mfgName transceiver))) fun found => ?_
  cases found with
  | none => exact .skip (isPlain_absentLine transceiver)
  | some mfgName => exact .bind (.log _) fun _ => tells_verify hushed interface c transceiver

theorem tells_procedure : Procedure.Tells true (procedure dut config interface c) := by
  rw [procedure_eq]
  refine .bind (.log _) fun _ => ?_
  refine .bind (tells_settle hushed config interface c) fun _ => ?_
  exact .bind (.log _) fun _ => tells_examine hushed interface c

end Tells

theorem warnings_check (hushed : dut.Hushed) (config : Config) {cases : List Case}
    (plain : ∀ c ∈ cases, Text.isPlain c.description = true) (clock : Nat) (state : σ) :
    (check dut config cases clock state).warnings =
      (check dut config cases clock state).value.cases.flatMap CaseReport.warnings := by
  cases found : dut.port config.port with
  | error fault =>
    have aborted : Procedure.Tells false (throw fault : Procedure σ Unit) :=
      .throw (hushed.port config.port fault found)
    have told := aborted.report (by decide : Text.isPlain caseName = true) clock state
    rw [check_of_no_port dut config found]
    exact told.trans (List.append_nil _).symm
  | ok interface =>
    have each (c : Case) (mem : c ∈ cases) (clock : Nat) (state : σ) :
        (runCase dut config interface c clock state).warnings =
          (runCase dut config interface c clock state).value.warnings :=
      (tells_procedure hushed config interface c).report (isPlain_reportName (plain c mem)) clock
        state
    have told := Run.warnings_mapM each clock state
    rw [check_of_port found]
    simpa [Outcome.warnings] using told

end PowerUpdate

theorem PowerUpdate.Case.isPlain_defaults :
    ∀ c ∈ defaults, Text.isPlain c.description = true := by
  decide +kernel

theorem warnings_runAll {σ : Type} {dut : Device σ} (hushed : dut.Hushed)
    (config : PowerUpdate.Config) (clock : Nat) (state : σ) :
    (runAll dut config clock state).warnings =
      (runAll dut config clock state).value.cases.flatMap CaseReport.warnings := by
  let inventory := Inventory.check dut clock state
  let updates :=
    PowerUpdate.check dut config PowerUpdate.Case.defaults inventory.clock inventory.state
  have told : inventory.warnings = inventory.value.warnings :=
    Inventory.warnings_check hushed clock state
  have told' : updates.warnings = updates.value.cases.flatMap CaseReport.warnings :=
    PowerUpdate.warnings_check hushed config PowerUpdate.Case.isPlain_defaults _ _
  have trace : (runAll dut config clock state).trace =
      [.logged ⟨.info, .checks, startLine dut⟩] ++ (inventory.trace ++ updates.trace) := by
    simp [runAll, Run.log, inventory, updates]
  -- the line that all checks start with is information only
  have started : warningsIn [.logged ⟨.info, .checks, startLine dut⟩] = [] :=
    warningsIn_of_low (Nat.lt_succ_self 2)
  calc (runAll dut config clock state).warnings
    _ = inventory.warnings ++ updates.warnings := by
      rw [Outcome.warnings, trace, warningsIn_append, started, warningsIn_append]
      rfl
    _ = inventory.value.warnings ++ updates.value.cases.flatMap CaseReport.warnings := by
      rw [told, told']
    _ = (runAll dut config clock state).value.cases.flatMap CaseReport.warnings := by
      rw [(runAll_apply dut config clock state).1, List.flatMap_cons]

/-- What is logged of a check from warnings on can be read off its suite: case by case the errors in
order, then the reason to skip the case, then what aborted it, a line for each, and nothing else. So
it is for either check and for all checks together, in whatever state the simulated device is. -/
theorem report_and_log_agree (t : Topology) (config : PowerUpdate.Config)
    {cases : List PowerUpdate.Case} (plain : ∀ c ∈ cases, Text.isPlain c.description = true)
    (clock : Nat) (interfaces : Interfaces) :
    let inventory := Inventory.check t.device clock interfaces
    let updates := PowerUpdate.check t.device config cases clock interfaces
    let all := runAll t.device config clock interfaces
    inventory.warnings = inventory.value.warnings ∧
    updates.warnings = updates.value.cases.flatMap CaseReport.warnings ∧
    all.warnings = all.value.cases.flatMap CaseReport.warnings := by
  intro inventory updates all
  refine ⟨?_, ?_, ?_⟩
  · exact Inventory.warnings_check t.hushed_device clock interfaces
  · exact PowerUpdate.warnings_check t.hushed_device config plain clock interfaces
  · exact warnings_runAll t.hushed_device config clock interfaces

/-- The configured port has a line break in its name, the line that says so has none. -/
theorem report_and_log_agree_of_unknown_port :
    let config : PowerUpdate.Config := { port := "port\n1" }
    let cases := PowerUpdate.Case.defaults
    (∀ c ∈ cases, Text.isPlain c.description = true) ∧
    (PowerUpdate.check PowerUpdate.onePort.device config cases 0
      PowerUpdate.onePort.boot).warnings =
      ["[-] optics power update: port \"port\\n1\" is not part of the topology"] := by
  intro config cases
  refine ⟨PowerUpdate.Case.isPlain_defaults, ?_⟩
  have agree := (report_and_log_agree PowerUpdate.onePort config
    PowerUpdate.Case.isPlain_defaults 0 PowerUpdate.onePort.boot).2.1
  rw [agree]
  decide +kernel

end OpticsCheck
