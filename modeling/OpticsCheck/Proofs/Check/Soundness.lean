import OpticsCheck.Proofs.Check.Locality

/-!
# What a pass vouches for

A case passes when no sample that it read breaks a bound. To say this of every sample that the
device answered with, the device is given a record of its answers, which makes no difference to the
case. A sample that breaks no bound lies within the bounds, unless it is a NaN, which lies nowhere.
-/

namespace OpticsCheck

namespace Binary64

theorem le_of_not_lt {x y : Binary64} (number : x.isNaN = false) (number' : y.isNaN = false)
    (notBelow : y.lt x = false) : x.le y = true := by
  simp only [lt, number, number', Bool.not_false, Bool.true_and, decide_eq_false_iff_not,
    Int.not_lt] at notBelow
  simp [le, number, number', notBelow]

end Binary64

/-- The samples that a device has answered with, each with its leaf, in order. -/
abbrev Record := List (Leaf × Binary64)

/-- Adds what is recorded of a good answer to the record. -/
def Query.recording {σ α : Type} (query : Query σ α) (entries : α → Record) :
    Query (σ × Record) α := fun now recorded =>
  let reply := query now recorded.1
  { answer := reply.answer
    state := (reply.state, match reply.answer with
      | .ok value => recorded.2 ++ entries value
      | .error _ => recorded.2)
    delay := reply.delay
    log := reply.log }

/-- The same device with a record of the samples that it answers with. -/
def Device.recording {σ : Type} (dut : Device σ) : Device (σ × Record) where
  name := dut.name
  model := dut.model
  vendor := dut.vendor
  port := dut.port
  find kind := (dut.find kind).recording fun _ => []
  mfgName component := (dut.mfgName component).recording fun _ => []
  samples leaf component := (dut.samples leaf component).recording fun samples =>
    samples.map (leaf, ·)
  operStatus interface := (dut.operStatus interface).recording fun _ => []
  replace config := (dut.replace config).recording fun _ => []

/-- The record stays as it is. -/
def Stretch.Unrecorded {σ : Type} : Stretch (σ × Record) :=
  fun _ before _ _ after => after.2 = before.2

theorem Stretch.unrecorded_composes {σ : Type} : (Unrecorded : Stretch (σ × Record)).Composes where
  empty _ _ := rfl
  append first second := second.trans first

section Recording

variable {σ α : Type} (dut : Device σ)

/-- A record makes no difference to the device. -/
def AsRecorded : Pairing σ (σ × Record) :=
  fun clock state clock' recorded => clock = clock' ∧ recorded.1 = state

theorem asRecorded_ages : (AsRecorded (σ := σ)).Ages := by
  rintro clock _ state recorded ⟨rfl, same⟩ millis
  exact ⟨rfl, same⟩

theorem Query.recording_matches (query : Query σ α) (entries : α → Record) :
    Query.Matches AsRecorded query (query.recording entries) := by
  rintro clock _ _ recorded ⟨rfl, rfl⟩
  exact ⟨rfl, rfl, rfl, rfl⟩

theorem Device.recording_answerAlike (interface : String) :
    Device.AnswerAlike AsRecorded interface dut dut.recording where
  vendor := rfl
  replace _ := Query.recording_matches _ _
  status := Query.recording_matches _ _
  mfgName _ _ := Query.recording_matches _ _
  samples _ _ _ := Query.recording_matches _ _

theorem Query.record_of_nothing (query : Query σ α) (clock : Nat) (recorded : σ × Record) :
    (query.recording (fun _ => []) clock recorded).state.2 = recorded.2 := by
  simp only [recording, List.append_nil]
  cases (query clock recorded.1).answer <;> rfl

variable {dut}

theorem Device.record_runSamples {leaf : Leaf} {component : String} {clock : Nat}
    {recorded : σ × Record} {samples : List Binary64}
    (read : (dut.recording.runSamples leaf component clock recorded).value = .ok samples) :
    (dut.recording.runSamples leaf component clock recorded).state.2 =
      recorded.2 ++ samples.map (leaf, ·) := by
  have answered : (dut.samples leaf component clock recorded.1).answer = .ok samples := read
  simp [Device.runSamples, Run.call, Device.recording, Query.recording, answered]

end Recording

namespace PowerUpdate

variable {σ : Type} {dut : Device σ} {interface transceiver : String} {c : Case} {clock : Nat}
  {recorded : σ × Record} {report last : CaseReport}

theorem unrecorded_settle (dut : Device σ) (config : Config) (interface : String) (c : Case) :
    Procedure.Along Stretch.Unrecorded.onDevice (settle dut.recording config interface c) := by
  refine along_settle Stretch.unrecorded_composes.onDevice (fun _ clock recorded => ?_)
    (fun _ => ?_)
  · exact Query.record_of_nothing _ clock recorded
  · refine (waitFor config interface c).along_run dut.recording Stretch.unrecorded_composes
      (fun clock recorded _ _ _ => ?_) (fun _ _ _ _ _ => rfl)
    exact Query.record_of_nothing _ clock recorded

theorem state_judge {σ : Type} (inputs outputs : List Binary64) (report : CaseReport) (clock : Nat)
    (state : σ) :
    ((judge interface c transceiver inputs outputs).exec report clock state).state = state := by
  have composes := (Stretch.idle_composes (σ := σ)).onDevice
  have note (n : Note) := Procedure.Along.note (Procedure.notes_idle (σ := σ)) n
  have idle : Procedure.Along Stretch.Idle.onDevice
      (judge interface c transceiver inputs outputs : Procedure σ Unit) := by
    refine .bind composes (note _) fun _ => ?_
    refine .bind composes (note _) fun _ => ?_
    refine .bind composes (.forM composes fun _ _ => note _) fun _ => ?_
    exact .forM composes fun _ _ => note _
  exact (idle report clock state).2

/-- Where the powers could be read, the record has them and the report what was found in them. -/
theorem record_verify
    (ok : ((verify dut.recording interface c transceiver).exec report clock recorded).value =
      (.ok (), last)) :
    ∃ inputs outputs,
      last = report.recordAll (findings interface c transceiver inputs outputs) ∧
      ((verify dut.recording interface c transceiver).exec report clock recorded).state.2 =
        recorded.2 ++ inputs.map (.inputPower, ·) ++ outputs.map (.outputPower, ·) := by
  rw [verify_eq] at ok ⊢
  obtain ⟨inputs, readInputs, ok, state⟩ := Procedure.ok_of_exec_of_bind ok
  obtain ⟨outputs, readOutputs, ok, state'⟩ := Procedure.ok_of_exec_of_bind ok
  have found := (Prod.mk.inj (ok.symm.trans (value_judge _ inputs outputs))).2
  refine ⟨inputs, outputs, found, ?_⟩
  rw [state, state', state_judge, Device.record_runSamples readOutputs,
    Device.record_runSamples readInputs]

/-- An examination that ends well has either skipped the transceiver or judged its powers. -/
theorem record_examine
    (ok : ((examine dut.recording interface c).exec report clock recorded).value = (.ok (), last)) :
    last.skipReason.isSome = true ∨
    ∃ (before : CaseReport) (transceiver : String) (inputs outputs : List Binary64),
      last = before.recordAll (findings interface c transceiver inputs outputs) ∧
      ((examine dut.recording interface c).exec report clock recorded).state.2 =
        recorded.2 ++ inputs.map (.inputPower, ·) ++ outputs.map (.outputPower, ·) := by
  unfold examine at ok ⊢
  obtain ⟨transceiver, named, ok, state⟩ := Procedure.ok_of_exec_of_bind ok
  obtain ⟨found, present, ok, state'⟩ := Procedure.ok_of_exec_of_bind ok
  cases found with
  | none =>
    obtain ⟨-, rfl⟩ := Prod.mk.inj ok
    exact .inl rfl
  | some mfgName =>
    obtain ⟨ok, state''⟩ := Procedure.ok_of_exec_log_bind ok
    obtain ⟨inputs, outputs, judged, after⟩ := record_verify ok
    refine .inr ⟨_, transceiver, inputs, outputs, judged, ?_⟩
    have kept := Query.record_of_nothing (dut.mfgName transceiver) clock recorded
    rw [state, state']
    simp only [state'', after]
    exact congrArg (fun past => past ++ inputs.map (Leaf.inputPower, ·) ++
      outputs.map (Leaf.outputPower, ·)) kept

/-- What is recorded of a case that passes breaks no bound. -/
theorem record_of_passed (config : Config) {state : σ}
    (passed : (runCase dut.recording config interface c clock (state, [])).value.verdict =
      .passed) :
    ∃ inputs outputs : List Binary64,
      (∀ s ∈ inputs, Bounds.nominal.contains s = true) ∧
      (∀ s ∈ outputs, c.outputBounds.contains s = true) ∧
      (runCase dut.recording config interface c clock (state, [])).state.2 =
        inputs.map (.inputPower, ·) ++ outputs.map (.outputPower, ·) := by
  rw [runCase, Procedure.value_report] at passed
  obtain ⟨noFatal, noErrors, noSkip⟩ := CaseReport.verdict_eq_passed_iff.mp passed
  rw [runCase, Procedure.state_report]
  rcases ended : ((procedure dut.recording config interface c).exec { name := c.reportName } clock
    (state, [])).value with ⟨fault | _, last⟩
  · rw [ended] at noFatal
    cases noFatal
  · rw [ended] at noErrors noSkip
    replace noSkip : last.skipReason = none := noSkip
    simp only [procedure_eq, inspect] at ended ⊢
    obtain ⟨ok, begun⟩ := Procedure.ok_of_exec_log_bind ended
    obtain ⟨_, between, settled, ok, after⟩ := Procedure.ok_of_exec_bind ok
    obtain ⟨ok, inspected⟩ := Procedure.ok_of_exec_log_bind ok
    rcases record_examine ok with skipped | ⟨before, transceiver, inputs, outputs, rfl, kept⟩
    · rw [noSkip] at skipped
      cases skipped
    · have none : inputErrors interface inputs ++ outputErrors interface c outputs = [] := by
        rw [← errors_findings interface c transceiver]
        exact (List.append_eq_nil_iff.mp ((CaseReport.errors_recordAll _ _).symm.trans noErrors)).2
      obtain ⟨noInputs, noOutputs⟩ := List.append_eq_nil_iff.mp none
      refine ⟨inputs, outputs, (inputErrors_eq_nil_iff interface inputs).mp noInputs,
        (outputErrors_eq_nil_iff interface c outputs).mp noOutputs, ?_⟩
      rw [begun, after, inspected, kept]
      have unrecorded := unrecorded_settle dut config interface c
        ({ name := c.reportName : CaseReport }.record (.log c.description)) clock (state, [])
      exact congrArg (fun past => past ++ inputs.map (Leaf.inputPower, ·) ++
        outputs.map (Leaf.outputPower, ·)) unrecorded

/-- What a pass is to say of a sample: it lies within the bounds for its leaf. Bias currents have
none. -/
def Case.Expects (c : Case) : Leaf → Binary64 → Prop
  | .inputPower, s => minOpticsPower.le s = true ∧ s.le maxOpticsPower = true
  | .outputPower, s => s.le c.maxOutputPower = true ∧
    (c.checkMinOutputPower = true → minOpticsPower.le s = true)
  | .biasCurrent, _ => True

section Expects

variable {s : Binary64} (number : s.isNaN = false)
include number

theorem expects_of_nominal (inRange : Bounds.nominal.contains s = true) :
    c.Expects .inputPower s := by
  rw [Bounds.nominal, contains_within] at inRange
  have unbroken : s.lt minOpticsPower = false ∧ maxOpticsPower.lt s = false := by
    simpa using inRange
  exact ⟨Binary64.le_of_not_lt (by decide +kernel) number unbroken.1,
    Binary64.le_of_not_lt number (by decide +kernel) unbroken.2⟩

theorem expects_of_outputBounds (bounded : c.maxOutputPower.isNaN = false)
    (inRange : c.outputBounds.contains s = true) : c.Expects .outputPower s := by
  unfold Case.outputBounds at inRange
  by_cases low : c.checkMinOutputPower = true
  · rw [if_pos low, contains_within] at inRange
    have unbroken : s.lt minOpticsPower = false ∧ c.maxOutputPower.lt s = false := by
      simpa using inRange
    exact ⟨Binary64.le_of_not_lt number bounded unbroken.2,
      fun _ => Binary64.le_of_not_lt (by decide +kernel) number unbroken.1⟩
  · rw [if_neg low, contains_atMost] at inRange
    have unbroken : c.maxOutputPower.lt s = false := by simpa using inRange
    exact ⟨Binary64.le_of_not_lt number bounded unbroken, fun checked => absurd checked low⟩

end Expects

/-- A pass vouches for every sample that the device answered with and that is a number: it lies
within the bounds. The record of the answers makes no difference to the case. -/
theorem passed_sound (dut : Device σ) (config : Config) (interface : String) (c : Case)
    (clock : Nat) (state : σ) :
    let plain := runCase dut config interface c clock state
    let out := runCase dut.recording config interface c clock (state, [])
    (out.value = plain.value ∧ out.clock = plain.clock ∧ out.state.1 = plain.state) ∧
    (plain.value.verdict = .passed → ∀ leaf s, (leaf, s) ∈ out.state.2 → s.isNaN = false →
      (leaf = .outputPower → c.maxOutputPower.isNaN = false) → c.Expects leaf s) := by
  intro plain out
  obtain ⟨value, -, clocks, states⟩ : Outcome.Matches AsRecorded clock clock plain out :=
    runCase_lockstep asRecorded_ages (dut.recording_answerAlike interface) config c _ _ _ _
      ⟨rfl, rfl⟩
  refine ⟨⟨value.symm, clocks.symm, states⟩, fun passed leaf s recorded number bounded => ?_⟩
  rw [value] at passed
  obtain ⟨inputs, outputs, inRange, inRange', record⟩ := record_of_passed config passed
  replace record : out.state.2 = _ := record
  rw [record, List.mem_append, List.mem_map, List.mem_map] at recorded
  rcases recorded with ⟨_, mem, same⟩ | ⟨_, mem, same⟩
  · obtain ⟨rfl, rfl⟩ := Prod.mk.inj same
    exact expects_of_nominal number (inRange _ mem)
  · obtain ⟨rfl, rfl⟩ := Prod.mk.inj same
    exact expects_of_outputBounds number (bounded rfl) (inRange' _ mem)

/-- A device whose transceiver reports a NaN as its input power. -/
def unreadable : Device Script.Progress :=
  { Script.ofReads [{ answer := .ok .up }] with
    ports := [("port1", "i")]
    mfgNames := [("i", .ok (some "M"))]
    inputPowers := [("i", .ok [.nan])]
    outputPowers := [("i", .ok [.ofInt (-1)])]
    writes := [.ok ()] }.device

theorem passed_sound_of_unreadable :
    let c := Case.defaults[0]
    let out := runCase unreadable.recording {} "i" c 0 ({}, [])
    let power := Binary64.ofInt (-1)
    (runCase unreadable {} "i" c 0 {}).value.verdict = .passed ∧
    (.outputPower, power) ∈ out.state.2 ∧ power.isNaN = false ∧
    c.maxOutputPower.isNaN = false ∧ c.Expects .outputPower power := by
  intro c out power
  have passed : (runCase unreadable {} "i" c 0 {}).value.verdict = .passed := by decide +kernel
  have recorded : (.outputPower, power) ∈ out.state.2 := by decide +kernel
  have number : power.isNaN = false := by decide +kernel
  have bounded : c.maxOutputPower.isNaN = false := by decide +kernel
  obtain ⟨-, vouched⟩ := passed_sound unreadable {} "i" c 0 {}
  exact ⟨passed, recorded, number, bounded, vouched passed _ _ recorded number fun _ => bounded⟩

/-- The case passes although the input power lies nowhere. -/
theorem not_sound_of_unreadable :
    let c := Case.defaults[0]
    let out := runCase unreadable.recording {} "i" c 0 ({}, [])
    ¬ (out.value.verdict = .passed → ∀ leaf s, (leaf, s) ∈ out.state.2 → c.Expects leaf s) := by
  intro c out sound
  have passed : out.value.verdict = .passed := by decide +kernel
  have recorded : (.inputPower, Binary64.nan) ∈ out.state.2 := by decide +kernel
  have above : minOpticsPower.le .nan = true := (sound passed _ _ recorded).1
  revert above
  decide +kernel

end PowerUpdate
end OpticsCheck
