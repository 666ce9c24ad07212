import OpticsCheck.Check.PowerUpdate
import OpticsCheck.Proofs.Run.Sequence
import OpticsCheck.Proofs.Run.Waiting

/-!
# The cases of a power update

A case first settles the interface: it writes the admin state and waits for the status that
follows. Then it inspects the transceiver, which only reads. So a case makes exactly one write,
whatever ends it, and the cases of a check follow each other like runs in sequence.
-/

namespace OpticsCheck

/-- Of all queries only status reads take time. -/
structure Device.OnlyStatusReadsTakeTime {σ : Type} (dut : Device σ) : Prop where
  find : ∀ kind clock state, (dut.find kind clock state).delay = 0
  mfgName : ∀ component clock state, (dut.mfgName component clock state).delay = 0
  samples : ∀ leaf component clock state, (dut.samples leaf component clock state).delay = 0
  replace : ∀ config clock state, (dut.replace config clock state).delay = 0

theorem Script.onlyStatusReadsTakeTime (script : Script) : script.device.OnlyStatusReadsTakeTime :=
  ⟨fun _ _ _ => rfl, fun _ _ _ => rfl, fun _ _ _ _ => rfl, fun _ _ _ => rfl⟩

namespace PowerUpdate

variable {σ : Type}

/-- What a case waits for. -/
def waitFor (config : Config) (interface : String) (c : Case) : Wait :=
  { interface, expected := c.expected, timeout := config.timeout, poll := config.poll }

/-- Writes the admin state and waits for the status that follows. -/
def settle (dut : Device σ) (config : Config) (interface : String) (c : Case) :
    Procedure σ Unit := do
  Procedure.of (dut.runReplace { name := interface, enabled := c.enabled })
  discard <| Procedure.of ((waitFor config interface c).run dut)

/-- What a case logs when its wait is over. -/
def settledLine (interface : String) (c : Case) : String :=
  interface ++ " oper status is " ++ c.expected.keyword

/-- Reads what the transceiver reports. -/
def examine (dut : Device σ) (interface : String) (c : Case) : Procedure σ Unit := do
  let transceiver ← Procedure.of (pure (transceiverName interface dut.vendor))
  match ← Procedure.of (dut.runMfgName transceiver) with
  | none =>
    Procedure.skip ("MfgName for " ++ Text.quoted transceiver ++ " is not present, skip it")
  | some mfgName =>
    Procedure.log ("Transceiver " ++ transceiver ++ " MfgName: " ++ mfgName)
    verify dut interface c transceiver

/-- What is left of a case once the interface has settled. -/
def inspect (dut : Device σ) (interface : String) (c : Case) : Procedure σ Unit := do
  Procedure.log (settledLine interface c)
  examine dut interface c

theorem procedure_eq (dut : Device σ) (config : Config) (interface : String) (c : Case) :
    procedure dut config interface c =
      Procedure.log c.description >>= fun _ =>
        settle dut config interface c >>= fun _ => inspect dut interface c := by
  simp only [settle, bind_assoc]
  rfl

theorem exec_procedure (dut : Device σ) (config : Config) (interface : String) (c : Case)
    (report : CaseReport) :
    (procedure dut config interface c).exec report =
      Run.log ((Note.log c.description).event report.name) >>= fun _ =>
        (settle dut config interface c >>= fun _ => inspect dut interface c).exec
          (report.record (.log c.description)) := by
  rw [procedure_eq]
  exact Procedure.exec_note_bind _ _ report

section Along

variable {R : Stretch (CaseReport × σ)} {dut : Device σ} {config : Config} {interface : String}
  {c : Case}

theorem along_settle (composes : R.Composes)
    (replace : ∀ report, Run.Along (R.withReport report)
      (dut.runReplace { name := interface, enabled := c.enabled }))
    (wait : ∀ report, Run.Along (R.withReport report) ((waitFor config interface c).run dut)) :
    Procedure.Along R (settle dut config interface c) :=
  .bind composes (.of replace) fun _ => .discard (.of wait)

/-- An examination keeps what its reads and its notes keep. -/
theorem along_examine (composes : R.Composes) (notes : Procedure.Notes R)
    (mfgName : ∀ component report, Run.Along (R.withReport report) (dut.runMfgName component))
    (samples : ∀ leaf component report,
      Run.Along (R.withReport report) (dut.runSamples leaf component)) :
    Procedure.Along R (examine dut interface c) := by
  refine .bind composes (.of fun report clock state => composes.empty _ _) fun transceiver => ?_
  refine .bind composes (.of (mfgName transceiver)) fun found => ?_
  cases found with
  | none => exact .note notes _
  | some name =>
    refine .bind composes (.note notes _) fun _ => ?_
    refine .bind composes (.of (samples .inputPower transceiver)) fun inputs => ?_
    refine .bind composes (.of (samples .outputPower transceiver)) fun outputs => ?_
    refine .bind composes (.note notes _) fun _ => ?_
    refine .bind composes (.note notes _) fun _ => ?_
    refine .bind composes (.forM composes fun _ _ => .note notes _) fun _ => ?_
    exact .forM composes fun _ _ => .note notes _

theorem along_inspect (composes : R.Composes) (notes : Procedure.Notes R)
    (mfgName : ∀ component report, Run.Along (R.withReport report) (dut.runMfgName component))
    (samples : ∀ leaf component report,
      Run.Along (R.withReport report) (dut.runSamples leaf component)) :
    Procedure.Along R (inspect dut interface c) :=
  .bind composes (.note notes _) fun _ => along_examine composes notes mfgName samples

/-- A case keeps what its calls, its wait and its notes keep. -/
theorem along_procedure (composes : R.Composes) (notes : Procedure.Notes R)
    (replace : ∀ report, Run.Along (R.withReport report)
      (dut.runReplace { name := interface, enabled := c.enabled }))
    (wait : ∀ report, Run.Along (R.withReport report) ((waitFor config interface c).run dut))
    (mfgName : ∀ component report, Run.Along (R.withReport report) (dut.runMfgName component))
    (samples : ∀ leaf component report,
      Run.Along (R.withReport report) (dut.runSamples leaf component)) :
    Procedure.Along R (procedure dut config interface c) := by
  rw [procedure_eq]
  refine .bind composes (.note notes _) fun _ => ?_
  refine .bind composes (along_settle composes replace wait) fun _ => ?_
  exact along_inspect composes notes mfgName samples

end Along

section Waited

/-- A case's write and the wait that follows it, whatever comes of the write. -/
def waited (dut : Device σ) (config : Config) (interface : String) (c : Case) :
    Run σ (Except Fault OperStatus) := do
  let _ ← dut.runReplace { name := interface, enabled := c.enabled }
  (waitFor config interface c).run dut

variable {dut : Device σ} (config : Config) {interface : String} {c : Case} {clock : Nat}
  {state : σ}
  (accepted :
    (dut.runReplace { name := interface, enabled := c.enabled } clock state).value = .ok ())
include accepted

theorem exec_settle (report : CaseReport) :
    (settle dut config interface c).exec report clock state =
      { waited dut config interface c clock state with
        value :=
          ((fun _ => ()) <$> (waited dut config interface c clock state).value, report) } := by
  have ok : ((Procedure.of (dut.runReplace { name := interface, enabled := c.enabled })).exec
      report clock state).value = (.ok (), report) := congrArg (·, report) accepted
  rw [settle, Procedure.exec_bind_of_ok _ ok]
  simp [Procedure.exec_discard, Procedure.exec_of, Run.bind_apply, Run.pure_apply, waited]

/-- A case whose wait ends well goes on to inspect the transceiver. -/
theorem exec_procedure_of_waited (report : CaseReport) {status : OperStatus}
    (ended : (waited dut config interface c clock state).value = .ok status) :
    let begun := waited dut config interface c clock state
    let rest := (inspect dut interface c).exec (report.record (.log c.description))
      begun.clock begun.state
    let out := (procedure dut config interface c).exec report clock state
    out.value = rest.value ∧ out.clock = rest.clock ∧ out.state = rest.state := by
  intro begun rest out
  have settled := exec_settle config accepted (report.record (.log c.description))
  have ok := congrArg (·.value) settled
  rw [ended] at ok
  simp only [out, exec_procedure, Run.bind_apply, Run.log]
  rw [Procedure.exec_bind_of_ok _ ok, settled]
  exact ⟨rfl, rfl, rfl⟩

/-- A case whose wait ends in a fault ends with it. -/
theorem exec_procedure_of_fault (report : CaseReport) {fault : Fault}
    (ended : (waited dut config interface c clock state).value = .error fault) :
    let begun := waited dut config interface c clock state
    let out := (procedure dut config interface c).exec report clock state
    out.value = (.error fault, report.record (.log c.description)) ∧
      out.clock = begun.clock ∧ out.state = begun.state := by
  intro begun out
  have settled := exec_settle config accepted (report.record (.log c.description))
  have error := congrArg (·.value) settled
  rw [ended] at error
  simp only [out, exec_procedure, Run.bind_apply, Run.log]
  rw [Procedure.exec_bind_of_error _ error, settled]
  exact ⟨rfl, rfl, rfl⟩

end Waited

variable (dut : Device σ) (config : Config) (interface : String)

theorem quiet_inspect (c : Case) : Procedure.Along (.Writes []) (inspect dut interface c) :=
  along_inspect Stretch.quiet_composes Procedure.notes_quiet
    (fun _ _ => Run.Along.quiet_call rfl _) (fun _ _ _ => Run.Along.quiet_call rfl _)

/-- An inspection begins with the line that says that the wait is over. -/
theorem entries_inspect (c : Case) :
    Procedure.Along (fun _ before _ _ after =>
      before.1.entries ++ [.log (settledLine interface c)] <+: after.1.entries)
      (inspect dut interface c) := by
  have examined : Procedure.Along .Extends (examine dut interface c) :=
    along_examine Stretch.extends_composes Procedure.notes_extends
      (fun _ _ _ _ => List.prefix_refl _) (fun _ _ _ _ _ => List.prefix_refl _)
  exact .andThen id (fun begun rest => begun.trans rest) (fun _ _ _ => List.prefix_refl _)
    fun _ => examined

/-- What a case writes. -/
def write (interface : String) (c : Case) : Call :=
  .replace { name := interface, enabled := c.enabled }

theorem writes_settle (c : Case) :
    Procedure.Along (.Writes [write interface c]) (settle dut config interface c) :=
  .writes_bind (.of fun _ => Run.Along.write_call rfl _) fun _ =>
    .discard (.of fun _ => (waitFor config interface c).quiet_run dut)

/-- A case writes once, whatever comes of the write and of what follows it. -/
theorem writes_runCase (c : Case) (clock : Nat) (state : σ) :
    (runCase dut config interface c clock state).writes = [write interface c] := by
  rw [runCase, Procedure.writes_report, procedure_eq]
  exact Procedure.Along.writes_bind (writes_settle dut config interface c)
    (fun _ => quiet_inspect dut interface c) _ clock state

theorem name_runCase (c : Case) (clock : Nat) (state : σ) :
    (runCase dut config interface c clock state).value.name = c.reportName := by
  have same : Procedure.Along .SameName (procedure dut config interface c) :=
    along_procedure Stretch.sameName_composes Procedure.notes_sameName (fun _ _ _ => rfl)
      (fun _ _ _ => rfl) (fun _ _ _ _ => rfl) (fun _ _ _ _ _ => rfl)
  exact same.report Stretch.sameName_composes Procedure.notes_sameName c.reportName clock state

variable {dut} in
/-- Only the wait takes time, and no longer than its timeout. -/
theorem clock_runCase_le (onlyReads : dut.OnlyStatusReadsTakeTime) (c : Case) (clock : Nat)
    (state : σ) :
    (runCase dut config interface c clock state).clock ≤ clock + config.timeout := by
  have inspected : Procedure.Along (.Within 0) (inspect dut interface c) :=
    along_inspect Stretch.instant_composes Procedure.notes_instant
      (fun component _ => Run.Along.instant_call _ (onlyReads.mfgName component))
      (fun leaf component _ => Run.Along.instant_call _ (onlyReads.samples leaf component))
  have settled : Procedure.Along (.Within (0 + config.timeout)) (settle dut config interface c) :=
    .within_bind (.of fun _ => Run.Along.instant_call _ (onlyReads.replace _)) fun _ =>
      .discard (.of fun _ => (waitFor config interface c).clock_run_le dut)
  have whole := Procedure.Along.within_bind settled fun _ => inspected
  rw [Nat.zero_add, Nat.add_zero] at whole
  rw [runCase, Procedure.clock_report, procedure_eq]
  exact whole ({ name := c.reportName : CaseReport }.record (.log c.description)) clock state

section Check

variable {dut config} {interface} (found : dut.port config.port = .ok interface)
include found

theorem check_of_port (cases : List Case) :
    check dut config cases = SuiteReport.mk <$> cases.mapM (runCase dut config interface) := by
  rw [check, found]
  simp

theorem check_append (first second : List Case) :
    check dut config (first ++ second) = do
      let suite ← check dut config first
      let later ← check dut config second
      return suite.extend later := by
  simp only [check_of_port found, List.mapM_append, map_eq_pure_bind, bind_assoc, pure_bind]
  rfl

end Check

theorem check_of_no_port {fault : Fault} (missing : dut.port config.port = .error fault)
    (cases : List Case) (clock : Nat) (state : σ) :
    check dut config cases clock state =
      { value := ⟨[{ name := caseName, fatal := some fault.message }]⟩
        clock
        state
        trace := [.logged ((Note.abort fault).event caseName)] } := by
  rw [check, missing]
  rfl

/-- A check isolates its cases. Without the port it makes no call at all and aborts. Otherwise each
case writes once and is reported once, as it runs from where the cases before it ended; so a list of
cases in two parts is checked as the first part and then the second. -/
theorem check_isolates_cases (dut : Device σ) (config : Config) (clock : Nat) (state : σ) :
    match dut.port config.port with
    | .error fault => ∀ cases,
      let out := check dut config cases clock state
      (∃ report, out.value.cases = [report] ∧ report.name = caseName ∧ report.verdict = .aborted ∧
        report.fatal = some fault.message) ∧
      out.calls = [] ∧ out.clock = clock ∧ out.state = state
    | .ok interface =>
      (∀ cases,
        let out := check dut config cases clock state
        out.value.cases.map (·.name) = cases.map Case.reportName ∧
        out.writes = cases.map (fun c => .replace { name := interface, enabled := c.enabled }) ∧
        ∀ (k : Nat) (c : Case), cases[k]? = some c →
          let left := check dut config (cases.take k) clock state
          out.value.cases[k]? = some (runCase dut config interface c left.clock left.state).value) ∧
      (∀ first second,
        let left := check dut config first clock state
        let rest := check dut config second left.clock left.state
        let both := check dut config (first ++ second) clock state
        both.value.cases = left.value.cases ++ rest.value.cases ∧
        both.trace = left.trace ++ rest.trace ∧
        both.clock = rest.clock ∧ both.state = rest.state) ∧
      (dut.OnlyStatusReadsTakeTime → ∀ cases,
        (check dut config cases clock state).clock ≤ clock + cases.length * config.timeout) := by
  cases found : dut.port config.port with
  | error fault =>
    intro cases
    rw [check_of_no_port dut config found]
    exact ⟨⟨_, rfl, rfl, rfl, rfl⟩, rfl, rfl, rfl⟩
  | ok interface =>
    refine ⟨?_, ?_, ?_⟩
    · intro cases
      rw [check_of_port found]
      refine ⟨?_, ?_, ?_⟩
      · exact Run.map_value_mapM _ _ _ _ fun c _ _ => name_runCase dut config interface c _ _
      · have written := Run.writes_mapM (runCase dut config interface) cases clock state
          (writes_runCase dut config interface)
        rw [← List.map_eq_flatMap] at written
        simp only [Outcome.writes, Run.trace_map]
        exact written
      · intro k c there
        simp [check_of_port found, Run.getElem?_value_mapM, there]
    · intro first second
      rw [check_append found]
      refine ⟨rfl, ?_, rfl, rfl⟩
      simp
    · intro onlyReads cases
      rw [check_of_port found]
      exact Run.clock_mapM_le _ _ _ _ fun c _ _ =>
        clock_runCase_le config interface onlyReads c _ _

/-- The first wait is cut off in the middle of a read and the second write is refused; still every
case writes once and the check ends in time. -/
theorem check_isolates_cases_of_slow_and_refused :
    let dut := { Script.ofReads [{ answer := .ok .down, delay := 7 }] with
      ports := [("port1", "i")]
      writes := [.ok (), .error (.config { message := "refused" }), .ok ()] }.device
    let config : Config := { timeout := 10, poll := 4 }
    dut.port config.port = .ok "i" ∧ dut.OnlyStatusReadsTakeTime ∧
    (check dut config Case.defaults 5 {}).writes =
      [.replace { name := "i" }, .replace { name := "i", enabled := false },
        .replace { name := "i" }] ∧
    (check dut config Case.defaults 5 {}).clock ≤ 5 + 3 * 10 := by
  intro dut config
  have found : dut.port config.port = .ok "i" := by simp [dut, config, Script.device]
  have law := check_isolates_cases dut config 5 {}
  rw [found] at law
  exact ⟨found, Script.onlyStatusReadsTakeTime _, (law.1 Case.defaults).2.1,
    law.2.2 (Script.onlyStatusReadsTakeTime _) Case.defaults⟩

end PowerUpdate
end OpticsCheck
