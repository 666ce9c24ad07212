import OpticsCheck.Check.All
import OpticsCheck.Proofs.Check.Schedule
import OpticsCheck.Proofs.Device.Faults
import OpticsCheck.Proofs.Run.SideBySide

/-!
# The inventory on the simulated device

An inventory only reads, so it changes nothing about the simulated device, and what follows it runs
as if it had not been made. Of what it reads only the output powers depend on the state: a dark
laser reports another power, but on the same channels. So whenever inventories are made they come to
the same findings.
-/

namespace OpticsCheck

namespace Inventory

variable {σ : Type}

theorem procedure_eq (dut : Device σ) :
    procedure dut = Procedure.of (dut.runFind .transceiver) >>= fun transceivers =>
      Procedure.log ("Found transceiver list: " ++ Text.quotedList transceivers) >>= fun _ =>
        if transceivers.isEmpty then throw (.noTransceivers dut.model)
        else transceivers.forM (validate dut) := by
  unfold procedure
  refine congrArg (_ >>= ·) (funext fun transceivers => congrArg (_ >>= ·) (funext fun _ => ?_))
  cases transceivers <;> rfl

section Along

variable {R : Stretch (CaseReport × σ)} {dut : Device σ} (composes : R.Composes)
  (notes : Procedure.Notes R)
  (mfgName : ∀ component report, Run.Along (R.withReport report) (dut.runMfgName component))
  (samples : ∀ leaf component report,
    Run.Along (R.withReport report) (dut.runSamples leaf component))
include composes notes mfgName samples

theorem along_validate (transceiver : String) : Procedure.Along R (validate dut transceiver) := by
  refine .bind composes (.note notes _) fun _ => ?_
  refine .bind composes (.of (mfgName transceiver)) fun found => ?_
  cases found with
  | none => exact .note notes _
  | some name =>
    have readings (report : CaseReport) :
        Run.Along (R.withReport report) (dut.runReadings transceiver) :=
      dut.along_runReadings (composes.withReport report) transceiver fun leaf =>
        samples leaf transceiver report
    refine .bind composes (.note notes _) fun _ => ?_
    refine .bind composes (.of readings) fun readings => ?_
    refine .bind composes (.forM composes fun _ _ => .note notes _) fun _ => ?_
    exact .forM composes fun _ _ => .note notes _

/-- An inventory keeps what its reads and its notes keep. -/
theorem along_procedure
    (find : ∀ kind report, Run.Along (R.withReport report) (dut.runFind kind)) :
    Procedure.Along R (procedure dut) := by
  rw [procedure_eq]
  refine .bind composes (.of (find .transceiver)) fun transceivers => ?_
  refine .bind composes (.note notes _) fun _ => ?_
  split
  · exact fun report clock state => composes.empty clock (report, state)
  · exact .forM composes fun transceiver _ =>
      along_validate composes notes mfgName samples transceiver

end Along

theorem idle_validate (t : Topology) (transceiver : String) :
    Procedure.Along Stretch.Idle.onDevice (validate t.device transceiver) :=
  along_validate Stretch.idle_composes.onDevice Procedure.notes_idle (fun _ _ _ _ => ⟨rfl, rfl⟩)
    (fun _ _ _ _ _ => ⟨rfl, rfl⟩) transceiver

/-- On the simulated device an inventory neither takes time nor changes anything. -/
theorem check_idle (t : Topology) (clock : Nat) (interfaces : Interfaces) :
    (check t.device clock interfaces).clock = clock ∧
      (check t.device clock interfaces).state = interfaces := by
  have composes := (Stretch.idle_composes (σ := Interfaces)).onDevice
  have along : Procedure.Along Stretch.Idle.onDevice (procedure t.device) :=
    along_procedure composes Procedure.notes_idle (fun _ _ _ _ => ⟨rfl, rfl⟩)
      (fun _ _ _ _ _ => ⟨rfl, rfl⟩) (fun _ _ _ _ => ⟨rfl, rfl⟩)
  exact along.report composes Procedure.notes_idle caseName clock interfaces

/-- The same entry, or two lines with the output powers of the same transceiver, as many powers in
the one as in the other. -/
inductive SameButPowers : Entry → Entry → Prop
  | same (entry : Entry) : SameButPowers entry entry
  | powers (transceiver : String) {readings readings' : Readings}
      (count : readings.outputPowers.length = readings'.outputPowers.length) :
      SameButPowers (.log (readingLine transceiver readings .outputPower))
        (.log (readingLine transceiver readings' .outputPower))

/-- The reports differ at most in output powers. -/
structure SameFindings (report report' : CaseReport) : Prop where
  entries : List.Forall₂ SameButPowers report.entries report'.entries
  skipReason : report.skipReason = report'.skipReason
  fatal : report.fatal = report'.fatal

namespace SameFindings

variable {report report' : CaseReport}

theorem errors (same : SameFindings report report') : report.errors = report'.errors := by
  have each {entries entries' : List Entry} (same : List.Forall₂ SameButPowers entries entries') :
      entries.filterMap Entry.errorMessage? = entries'.filterMap Entry.errorMessage? := by
    induction same with
    | nil => rfl
    | cons head _ ih =>
      rw [List.filterMap_cons, List.filterMap_cons, ih]
      cases head <;> rfl
  exact each same.entries

theorem verdict (same : SameFindings report report') : report.verdict = report'.verdict := by
  rw [CaseReport.verdict, CaseReport.verdict, same.errors, same.skipReason, same.fatal]

theorem append (same : SameFindings report report') {entry entry' : Entry}
    (last : SameButPowers entry entry') :
    SameFindings { report with entries := report.entries ++ [entry] }
      { report' with entries := report'.entries ++ [entry'] } :=
  ⟨List.rel_append same.entries (.cons last .nil), same.skipReason, same.fatal⟩

theorem record (same : SameFindings report report') (note : Note) :
    SameFindings (report.record note) (report'.record note) := by
  cases note with
  | log message => exact same.append (.same _)
  | error message => exact same.append (.same _)
  | skip reason => exact ⟨same.entries, rfl, same.fatal⟩
  | abort fault => exact ⟨same.entries, same.skipReason, rfl⟩

end SameFindings

/-- The readings differ at most in the output powers, and not in their number. -/
structure SameCounts (readings readings' : Readings) : Prop where
  inputPowers : readings.inputPowers = readings'.inputPowers
  outputPowers : readings.outputPowers.length = readings'.outputPowers.length
  biasCurrents : readings.biasCurrents = readings'.biasCurrents

theorem SameCounts.emptyLeaves {readings readings' : Readings}
    (same : SameCounts readings readings') : readings.emptyLeaves = readings'.emptyLeaves := by
  refine List.filter_congr fun leaf _ => ?_
  cases leaf with
  | inputPower => exact congrArg List.isEmpty same.inputPowers
  | biasCurrent => exact congrArg List.isEmpty same.biasCurrents
  | outputPower =>
    have empty : readings.outputPowers = [] ↔ readings'.outputPowers = [] := by
      rw [← List.length_eq_zero_iff, same.outputPowers, List.length_eq_zero_iff]
    rw [Bool.eq_iff_iff, List.isEmpty_iff, List.isEmpty_iff]
    exact empty

theorem readingLine_congr (transceiver : String) {readings readings' : Readings} {leaf : Leaf}
    (same : readings.samples leaf = readings'.samples leaf) :
    readingLine transceiver readings leaf = readingLine transceiver readings' leaf := by
  unfold readingLine
  rw [same]

theorem SameCounts.line {readings readings' : Readings} (same : SameCounts readings readings')
    (transceiver : String) (leaf : Leaf) :
    SameButPowers (.log (readingLine transceiver readings leaf))
      (.log (readingLine transceiver readings' leaf)) := by
  have line (samples : readings.samples leaf = readings'.samples leaf) :
      SameButPowers (.log (readingLine transceiver readings leaf))
        (.log (readingLine transceiver readings' leaf)) := by
    rw [readingLine_congr transceiver samples]
    exact .same _
  cases leaf with
  | inputPower => exact line same.inputPowers
  | outputPower => exact .powers transceiver same.outputPowers
  | biasCurrent => exact line same.biasCurrents

section Simulated

variable {t : Topology} {a b : Interfaces}

theorem laserOff_alike (same : a.SameNames b) (spec : ComponentSpec) :
    Alike (fun _ _ => True) (Topology.laserOff a spec) (Topology.laserOff b spec) := by
  unfold Topology.laserOff
  cases spec.interface with
  | none => exact .ok trivial
  | some link =>
    have known := same link
    refine Alike.bind (V := fun _ _ => True) ?_ fun _ _ _ => .ok trivial
    unfold Topology.interface
    cases here : a link <;> cases there : b link <;> simp only [here, there] at known
    · exact .error _
    · cases known
    · cases known
    · exact .ok trivial

/-- A dark laser reports a power on the same channels as a lit one. -/
theorem outputPowers_alike (same : a.SameNames b) (transceiver : String) :
    Alike (fun powers powers' => powers.length = powers'.length)
      (t.samples a .outputPower transceiver) (t.samples b .outputPower transceiver) := by
  refine Alike.bind (.refl (t.component transceiver)) ?_
  rintro spec _ rfl
  have dark : (spec.channels.filterMap fun channel =>
      channel.outputPower.map fun _ => spec.darkPower).length =
        (spec.channels.filterMap (·.outputPower)).length := by
    rw [← List.map_filterMap, List.length_map]
  refine Alike.bind (laserOff_alike same spec) fun off off' _ => ?_
  cases off <;> cases off'
  · exact .ok rfl
  · exact .ok dark.symm
  · exact .ok dark
  · exact .ok rfl

theorem inputPowers_same (t : Topology) (transceiver : String) :
    t.samples a .inputPower transceiver = t.samples b .inputPower transceiver := rfl

theorem biasCurrents_same (t : Topology) (transceiver : String) :
    t.samples a .biasCurrent transceiver = t.samples b .biasCurrent transceiver := rfl

theorem runReadings_alongside (t : Topology) (transceiver : String) :
    Run.Alongside Interfaces.SameNames SameCounts (t.device.runReadings transceiver)
      (t.device.runReadings transceiver) := by
  intro clock clock' a b same
  have idle : Run.Along Stretch.Idle (t.device.runReadings transceiver) :=
    t.device.along_runReadings Stretch.idle_composes transceiver fun _ _ _ => ⟨rfl, rfl⟩
  constructor
  · rw [(Topology.readings_simulated t transceiver clock a).1,
      (Topology.readings_simulated t transceiver clock' b).1]
    refine Alike.bind (.of_eq (inputPowers_same t transceiver)) fun _ _ inputs => ?_
    refine Alike.bind (outputPowers_alike same transceiver) fun _ _ outputs => ?_
    refine Alike.bind (.of_eq (biasCurrents_same t transceiver)) fun _ _ currents => ?_
    exact .ok ⟨inputs, outputs, currents⟩
  · rw [(idle clock a).2, (idle clock' b).2]
    exact same

theorem note_alongside (note : Note) :
    Procedure.Alongside Interfaces.SameNames SameFindings Eq (Procedure.note note)
      (Procedure.note note) :=
  .note fun _ _ same => same.record note

theorem validate_alongside (t : Topology) (transceiver : String) :
    Procedure.Alongside Interfaces.SameNames SameFindings Eq (validate t.device transceiver)
      (validate t.device transceiver) := by
  refine .bind (note_alongside _) fun _ _ _ => ?_
  refine .bind (.of fun _ _ _ _ same => ⟨.refl _, same⟩) ?_
  rintro found _ rfl
  cases found with
  | none => exact note_alongside _
  | some mfgName =>
    refine .bind (note_alongside _) fun _ _ _ => ?_
    refine .bind (.of (runReadings_alongside t transceiver)) fun readings readings' counts => ?_
    refine .bind (.forM fun leaf _ => .note fun report report' same => ?_) fun _ _ _ => ?_
    · exact same.append (counts.line transceiver leaf)
    · rw [counts.emptyLeaves]
      exact .forM fun leaf _ => note_alongside _

theorem procedure_alongside (t : Topology) :
    Procedure.Alongside Interfaces.SameNames SameFindings Eq (procedure t.device)
      (procedure t.device) := by
  rw [procedure_eq]
  refine .bind (.of fun _ _ _ _ same => ⟨.refl _, same⟩) ?_
  rintro transceivers _ rfl
  refine .bind (note_alongside _) fun _ _ _ => ?_
  split
  · exact .throw _
  · exact .forM fun transceiver _ => validate_alongside t transceiver

/-- Inventories of states in which the same interfaces are known come to the same findings. -/
theorem sameFindings_check (t : Topology) (same : a.SameNames b) (clock clock' : Nat) :
    SameFindings (check t.device clock a).value (check t.device clock' b).value :=
  (procedure_alongside t).report (fun fault _ _ same => same.record (.abort fault))
    ⟨.nil, rfl, rfl⟩ same clock clock'

end Simulated
end Inventory

/-- All checks are the inventory, and then the power update from where it ends. -/
theorem runAll_apply {σ : Type} (dut : Device σ) (config : PowerUpdate.Config) (clock : Nat)
    (state : σ) :
    let inventory := Inventory.check dut clock state
    let updates := PowerUpdate.check dut config PowerUpdate.Case.defaults inventory.clock
      inventory.state
    let all := runAll dut config clock state
    all.value.cases = inventory.value :: updates.value.cases ∧ all.clock = updates.clock ∧
      all.state = updates.state :=
  ⟨rfl, rfl, rfl⟩

/-- On the simulated device the power update runs as if no inventory had been made before it. -/
theorem runAll_simulated (t : Topology) (config : PowerUpdate.Config) (clock : Nat)
    (interfaces : Interfaces) :
    let updates := PowerUpdate.check t.device config PowerUpdate.Case.defaults clock interfaces
    let all := runAll t.device config clock interfaces
    all.value.cases = (Inventory.check t.device clock interfaces).value :: updates.value.cases ∧
      all.clock = updates.clock ∧ all.state = updates.state := by
  obtain ⟨instant, kept⟩ := Inventory.check_idle t clock interfaces
  have whole := runAll_apply t.device config clock interfaces
  simp only [instant, kept] at whole
  exact whole

namespace Inventory

/-- An inventory of the simulated device comes to the same findings after any session: the same
verdict, fault and errors, and the same lines in the same places, output powers apart. It leaves the
device as it is, so all checks together are the inventory and the power update that would have been
made without it. -/
theorem findings_stable (t : Topology) (requests requests' : List Request) (start start' : Nat) :
    let before := t.device.serveAll requests start t.boot
    let before' := t.device.serveAll requests' start' t.boot
    let out := check t.device before.clock before.state
    let out' := check t.device before'.clock before'.state
    (out.value.verdict = out'.value.verdict ∧ out.value.fatal = out'.value.fatal ∧
      out.value.errors = out'.value.errors ∧
      List.Forall₂ SameButPowers out.value.entries out'.value.entries) ∧
    (out.clock = before.clock ∧ out.state = before.state) ∧
    ∀ config : PowerUpdate.Config,
      let updates := PowerUpdate.check t.device config PowerUpdate.Case.defaults before.clock
        before.state
      let all := runAll t.device config before.clock before.state
      all.value.cases = out.value :: updates.value.cases ∧ all.clock = updates.clock ∧
        all.state = updates.state := by
  intro before before' out out'
  have covers : t.Covers before.state := Topology.covers_serveAll t.covers_boot requests start
  have covers' : t.Covers before'.state := Topology.covers_serveAll t.covers_boot requests' start'
  have same : SameFindings out.value out'.value :=
    sameFindings_check t (covers.sameNames covers') before.clock before'.clock
  refine ⟨⟨same.verdict, same.fatal, same.errors, same.entries⟩, ?_, fun config => ?_⟩
  · exact check_idle t before.clock before.state
  · exact runAll_simulated t config before.clock before.state

end Inventory
end OpticsCheck
