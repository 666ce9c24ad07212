import OpticsCheck.Proofs.Check.Verdicts
import OpticsCheck.Proofs.Run.SideBySide

/-!
# The enabled cases come to the same

Between the first and the third case of a power update the interface is disabled and enabled again,
in its own time or not. What a case reads once its wait is over depends on the admin states alone,
and these are the same for both cases. So unless a wait times out, both say the same.
-/

namespace OpticsCheck

/-- Each interface has the same admin state in both, however long it has had it. -/
def Interfaces.SameAdmin (a b : Interfaces) : Prop :=
  ∀ name, (a name).map (·.enabled) = (b name).map (·.enabled)

theorem Topology.laserOff_of_sameAdmin {a b : Interfaces} (same : a.SameAdmin b)
    (spec : ComponentSpec) : laserOff a spec = laserOff b spec :=
  laserOff_of_admin fun link _ => same link

namespace PowerUpdate

/-- The case ended with the timeout of its wait. -/
def TimedOut (report : CaseReport) : Prop :=
  ∃ interface expected lastSeen timeout,
    report.fatal = some (Fault.awaitTimeout interface expected lastSeen timeout).message

/-- The reports differ at most in their names and in their first entries, which are log lines. -/
structure SameBehindFirst (report report' : CaseReport) : Prop where
  entries : ∃ first first' later,
    report.entries = .log first :: later ∧ report'.entries = .log first' :: later
  skipReason : report.skipReason = report'.skipReason
  fatal : report.fatal = report'.fatal

namespace SameBehindFirst

variable {report report' : CaseReport}

theorem record (same : SameBehindFirst report report') (note : Note) :
    SameBehindFirst (report.record note) (report'.record note) := by
  obtain ⟨⟨first, first', later, entries, entries'⟩, skipReason, fatal⟩ := same
  have append (entry : Entry) : ∃ first first' later,
      report.entries ++ [entry] = .log first :: later ∧
        report'.entries ++ [entry] = .log first' :: later :=
    ⟨first, first', later ++ [entry], by rw [entries]; rfl, by rw [entries']; rfl⟩
  cases note with
  | log message => exact ⟨append _, skipReason, fatal⟩
  | error message => exact ⟨append _, skipReason, fatal⟩
  | skip reason => exact ⟨⟨first, first', later, entries, entries'⟩, rfl, fatal⟩
  | abort fault => exact ⟨⟨first, first', later, entries, entries'⟩, skipReason, rfl⟩

theorem tail (same : SameBehindFirst report report') :
    report.entries.tail = report'.entries.tail := by
  obtain ⟨first, first', later, entries, entries'⟩ := same.entries
  rw [entries, entries']
  rfl

theorem errors (same : SameBehindFirst report report') : report.errors = report'.errors := by
  obtain ⟨first, first', later, entries, entries'⟩ := same.entries
  rw [CaseReport.errors, CaseReport.errors, entries, entries']
  rfl

theorem verdict (same : SameBehindFirst report report') : report.verdict = report'.verdict := by
  rw [CaseReport.verdict, CaseReport.verdict, same.errors, same.skipReason, same.fatal]

end SameBehindFirst

/-- Of the case itself only the bounds on the output powers matter to an examination. -/
theorem examine_congr {σ : Type} (dut : Device σ) (interface : String) {c c' : Case}
    (bounds : c.outputBounds = c'.outputBounds) :
    examine dut interface c = examine dut interface c' := by
  unfold examine verify outputErrors
  rw [bounds]

section Alongside

variable {σ : Type} {S : σ → σ → Prop} {E : CaseReport → CaseReport → Prop} {dut : Device σ}

/-- Examinations come to related reports when their reads are answered alike. -/
theorem examine_alongside (noted : ∀ note report report', E report report' →
      E (report.record note) (report'.record note))
    (mfgName : ∀ component,
      Run.Alongside S Eq (dut.runMfgName component) (dut.runMfgName component))
    (samples : ∀ leaf component,
      Run.Alongside S Eq (dut.runSamples leaf component) (dut.runSamples leaf component))
    (interface : String) (c : Case) :
    Procedure.Alongside S E Eq (examine dut interface c) (examine dut interface c) := by
  have note (n : Note) : Procedure.Alongside S E Eq (Procedure.note n : Procedure σ Unit)
      (Procedure.note n) := .note (noted n)
  refine .bind (.of fun _ _ _ _ states => ⟨.refl _, states⟩) ?_
  rintro transceiver _ rfl
  refine .bind (.of (mfgName transceiver)) ?_
  rintro found _ rfl
  cases found with
  | none => exact note _
  | some name =>
    refine .bind (note _) fun _ _ _ => ?_
    refine .bind (.of (samples .inputPower transceiver)) ?_
    rintro inputs _ rfl
    refine .bind (.of (samples .outputPower transceiver)) ?_
    rintro outputs _ rfl
    refine .bind (note _) fun _ _ _ => ?_
    refine .bind (note _) fun _ _ _ => ?_
    refine .bind (.forM fun _ _ => note _) fun _ _ _ => ?_
    exact .forM fun _ _ => note _

end Alongside

section Simulated

variable {t : Topology} {config : Config} {interface : String} {clock clock' : Nat}
  {interfaces interfaces' : Interfaces} {s s' : InterfaceState} {c c' : Case}

/-- A case ends well unless its wait times out. -/
theorem waited_of_not_timedOut (there : interfaces interface = some s)
    (inTime : ¬ TimedOut (runCase t.device config interface c clock interfaces).value) :
    ∃ status, (waited t.device config interface c clock interfaces).value = .ok status := by
  cases ended : (waited t.device config interface c clock interfaces).value with
  | ok status => exact ⟨status, rfl⟩
  | error fault =>
    have failed := (waited_simulated t config c clock there).1.symm.trans ended
    obtain ⟨lastSeen, rfl⟩ := Wait.expired_of_error
      (w := waitFor config interface c) (state_written there c.enabled) failed
    have value := (exec_procedure_of_fault config (accepted_simulated there c.enabled)
      { name := c.reportName } ended).1
    refine absurd ⟨interface, c.expected, lastSeen, .ofMillis config.timeout, ?_⟩ inTime
    rw [runCase, Procedure.report_of_error value]
    rfl

/-- Two cases that set and expect the same come to the same findings, if no wait times out and the
admin states are the same when they end. -/
theorem sameBehindFirst_runCase (there : interfaces interface = some s)
    (there' : interfaces' interface = some s') (expected : c.expected = c'.expected)
    (bounds : c.outputBounds = c'.outputBounds) :
    let out := runCase t.device config interface c clock interfaces
    let out' := runCase t.device config interface c' clock' interfaces'
    ¬ TimedOut out.value → ¬ TimedOut out'.value → out.state.SameAdmin out'.state →
      SameBehindFirst out.value out'.value := by
  intro out out' inTime inTime' admin
  obtain ⟨status, ended⟩ := waited_of_not_timedOut there inTime
  obtain ⟨status', ended'⟩ := waited_of_not_timedOut there' inTime'
  have value : out.value = _ := value_runCase_of_ok there ended
  have value' : out'.value = _ := value_runCase_of_ok there' ended'
  have samples (leaf : Leaf) (component : String) : Run.Alongside Interfaces.SameAdmin Eq
      (t.device.runSamples leaf component) (t.device.runSamples leaf component) := by
    intro clock clock' a b same
    refine ⟨.of_eq ?_, same⟩
    exact Topology.samples_congr_of_laserOff fun _ spec _ =>
      Topology.laserOff_of_sameAdmin same spec
  have examined : Procedure.Alongside Interfaces.SameAdmin SameBehindFirst Eq
      (examine t.device interface c) (examine t.device interface c') := by
    rw [examine_congr t.device interface bounds]
    exact examine_alongside (fun note _ _ same => same.record note)
      (fun _ _ _ _ _ same => ⟨.refl _, same⟩) samples interface c'
  have line : settledLine interface c = settledLine interface c' := by
    rw [settledLine, settledLine, expected]
  rw [value, value']
  refine examined.ended (fun fault _ _ same => same.record (.abort fault)) ?_ admin _ _
  have begun : ∃ first first' later,
      [.log c.description, .log (settledLine interface c)] = Entry.log first :: later ∧
        [.log c'.description, .log (settledLine interface c')] = Entry.log first' :: later :=
    ⟨_, _, _, rfl, by rw [line]⟩
  exact ⟨begun, rfl, rfl⟩

/-- Cases that set the same leave the same admin states, if nothing but their interface differs when
they start. -/
theorem sameAdmin_runCase (there : interfaces interface = some s)
    (there' : interfaces' interface = some s') (written : c.enabled = c'.enabled)
    (others : interfaces'.AgreeOff [interface] interfaces) :
    (runCase t.device config interface c clock interfaces).state.SameAdmin
      (runCase t.device config interface c' clock' interfaces').state := by
  intro name
  by_cases own : name = interface
  · subst own
    rw [state_runCase t config c clock there, state_runCase t config c' clock' there']
    simp only [Option.map_some, InterfaceState.enabled_set, written]
  · have off : name ∉ [interface] := fun mem => own (List.mem_singleton.mp mem)
    have kept := spares_runCase t config interface c clock interfaces name off
    have kept' := spares_runCase t config interface c' clock' interfaces' name off
    rw [kept, kept', others name off]

/-- The first and the third of the default cases come to the same findings. -/
theorem repeats_of_port (found : t.device.port config.port = .ok interface) (clock : Nat)
    (there : interfaces interface = some s) :
    ∃ first second third,
      (check t.device config Case.defaults clock interfaces).value.cases = [first, second, third] ∧
      (¬ TimedOut first → ¬ TimedOut third → SameBehindFirst first third) := by
  let lit := Case.defaults[0]
  let dark := Case.defaults[1]
  let litAgain := Case.defaults[2]
  let out := runCase t.device config interface lit clock interfaces
  let out' := runCase t.device config interface dark out.clock out.state
  let out'' := runCase t.device config interface litAgain out'.clock out'.state
  have reports : (check t.device config [lit, dark, litAgain] clock interfaces).value.cases =
      [out.value, out'.value, out''.value] := by
    simp [check_of_port found, List.mapM_cons, out, out', out'']
  refine ⟨out.value, out'.value, out''.value, reports, fun inTime inTime'' => ?_⟩
  have left : out.state interface = some _ := state_runCase t config lit clock there
  have left' : out'.state interface = some _ := state_runCase t config dark out.clock left
  have others : out'.state.AgreeOff [interface] interfaces :=
    (spares_runCase t config interface dark out.clock out.state).trans
      (spares_runCase t config interface lit clock interfaces)
  exact sameBehindFirst_runCase there left' rfl rfl inTime inTime''
    (sameAdmin_runCase there left' rfl others)

end Simulated

/-- In the default power update the two cases in which the interface is enabled come to the same
findings unless their waits time out, whatever was done before and whatever comes of the case in
between. -/
theorem enabled_cases_repeat {text : String} {t : Topology}
    (accepted : Topology.ofDocument text = .ok t) (requests : List Request) (start : Nat)
    (config : Config) :
    let before := t.device.serveAll requests start t.boot
    let reports := (check t.device config Case.defaults before.clock before.state).value.cases
    (t.ports.get? config.port ≠ none → reports.length = 3) ∧
    ∀ first second third, reports = [first, second, third] →
      ¬ TimedOut first → ¬ TimedOut third →
        first.skipReason = third.skipReason ∧ first.fatal = third.fatal ∧
        first.entries.tail = third.entries.tail ∧
        first.verdict = third.verdict ∧ first.errors = third.errors := by
  intro before reports
  cases mapped : t.ports.get? config.port with
  | none =>
    have missing : t.device.port config.port = .error (.unknownPort config.port) := by
      simp [Topology.device, mapped]
    have one : reports = _ := congrArg (·.value.cases)
      (check_of_no_port t.device config missing _ before.clock before.state)
    rw [one]
    exact ⟨fun known => absurd rfl known, fun _ _ _ three => by simp at three⟩
  | some interface =>
    have found := t.port_eq_ok_iff.mpr mapped
    have declared := Topology.declares_of_get? (Topology.valid_of_ofDocument accepted) mapped
    obtain ⟨spec, -, boot⟩ := t.boot_of_declares declared
    have there : before.state interface = some _ := Topology.state_serveAll_at start boot requests
    obtain ⟨first, second, third, three, repeats⟩ :=
      repeats_of_port found before.clock there
    replace three : reports = [first, second, third] := three
    rw [three]
    refine ⟨fun _ => rfl, ?_⟩
    rintro _ _ _ ⟨⟩ inTime inTime'
    have same := repeats inTime inTime'
    exact ⟨same.skipReason, same.fatal, same.tail, same.verdict, same.errors⟩

theorem not_timedOut_of_fatal {report : CaseReport} (fatal : report.fatal = none) :
    ¬ TimedOut report := by
  rintro ⟨_, _, _, _, ended⟩
  cases fatal.symm.trans ended

/-- The settle time of an earlier write is still running when the first case starts, and the second
case times out; the laser is dark because of another interface. -/
theorem enabled_cases_repeat_of_pending :
    let config : Config := { timeout := 5, poll := 4 }
    let before := crossLinked.device.serveAll [.replace { name := "i" }, .advance 7] 0
      crossLinked.boot
    let out := check crossLinked.device config Case.defaults before.clock before.state
    let reports := out.value.cases
    Topology.ofDocument crossLinked.document = .ok crossLinked ∧
    ∃ first second third, reports = [first, second, third] ∧
      ¬ TimedOut first ∧ TimedOut second ∧ ¬ TimedOut third ∧ first.errors = third.errors ∧
      third.errors = ["Get outPower for port \"i\": got -40.00, want > -30.000000"] := by
  intro config before out reports
  obtain ⟨length, law⟩ := enabled_cases_repeat ofDocument_crossLinked
    [.replace { name := "i" }, .advance 7] 0 config
  obtain ⟨first, second, third, three⟩ := List.length_eq_three.mp (length (by decide))
  have seen : reports.map (fun report => (report.fatal, report.errors)) = [
      (none, ["Get outPower for port \"i\": got -40.00, want > -30.000000"]),
      (some (Fault.awaitTimeout "i" .down (some .up) (.ofMillis 5)).message, []),
      (none, ["Get outPower for port \"i\": got -40.00, want > -30.000000"])] := by
    decide +kernel
  rw [show reports = [first, second, third] from three] at seen
  simp only [List.map_cons, List.map_nil, List.cons.injEq, Prod.mk.injEq, and_true] at seen
  obtain ⟨⟨fatal, -⟩, ⟨fatal', -⟩, fatal'', errors''⟩ := seen
  have inTime := not_timedOut_of_fatal fatal
  have inTime'' := not_timedOut_of_fatal fatal''
  obtain ⟨-, -, -, -, errors⟩ := law first second third three inTime inTime''
  exact ⟨ofDocument_crossLinked, first, second, third, three, inTime, ⟨_, _, _, _, fatal'⟩,
    inTime'', errors, errors''⟩

end PowerUpdate
end OpticsCheck
