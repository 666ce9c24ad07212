import OpticsCheck.Proofs.Check.Course
import OpticsCheck.Proofs.Check.Schedule
import OpticsCheck.Proofs.Device.Laser

/-!
# The verdicts of a power update on the simulated device

On a freshly built device whose interface settles in time every case of a power update gets to read
the transceiver. What it reads then is what the topology says: the input powers as given, and the
output powers as given or dark, depending on the admin state of the interface that the transceiver
is linked to. So the verdicts can be read off the topology.
-/

namespace OpticsCheck

theorem Interfaces.AgreeOff.trans {names : List String} {a b c : Interfaces}
    (first : a.AgreeOff names b) (second : b.AgreeOff names c) : a.AgreeOff names c :=
  fun name off => (first name off).trans (second name off)

/-- Only the interface called `name` may change. -/
def Stretch.Spares (name : String) : Stretch Interfaces :=
  fun _ before _ _ after => after.AgreeOff [name] before

theorem Stretch.spares_composes (name : String) : (Spares name).Composes where
  empty _ _ _ _ := rfl
  append first second := second.trans first

namespace Topology

/-- Whether the laser is dark while `interface` has the admin state `enabled` and every other
interface the one that it starts with. -/
def darkWhile (t : Topology) (interface : String) (enabled : Bool) (spec : ComponentSpec) : Bool :=
  match spec.interface with
  | none => false
  | some link => if link = interface then !enabled else t.startsDisabled link

end Topology

namespace PowerUpdate

section Runs

variable {t : Topology} {config : Config} {interface transceiver : String} {c : Case}
  {clock n : Nat} {interfaces : Interfaces}

/-- A case changes the state of its own interface alone. -/
theorem spares_runCase (t : Topology) (config : Config) (interface : String) (c : Case)
    (clock : Nat) (interfaces : Interfaces) :
    (runCase t.device config interface c clock interfaces).state.AgreeOff [interface]
      interfaces := by
  have composes := (Stretch.spares_composes interface).onDevice
  have notes : Procedure.Notes (Stretch.Spares interface).onDevice := fun _ _ _ _ _ _ => rfl
  have along : Procedure.Along (Stretch.Spares interface).onDevice
      (procedure t.device config interface c) := by
    refine along_procedure composes notes (fun _ clock interfaces => ?_)
      (fun _ clock interfaces => ?_) (fun _ _ _ _ _ _ => rfl) (fun _ _ _ _ _ _ _ => rfl)
    · exact Topology.agreeOff_of_deleted (fun _ _ => rfl) List.mem_cons_self
    · intro other _
      exact congrFun (t.keeps_wait _ clock interfaces) other
  exact along.report composes notes c.reportName clock interfaces

/-- The interface has this admin state and shows it, and all others are as they started. -/
structure Settled (t : Topology) (interface : String) (enabled : Bool) (clock : Nat)
    (interfaces : Interfaces) : Prop where
  shows : Shows t interface enabled enabled clock interfaces
  others : interfaces.AgreeOff [interface] t.boot

theorem settled_boot (start : Nat) (declared : t.declares interface = true) :
    ∃ enabled, Settled t interface enabled start t.boot := by
  obtain ⟨spec, -, boot⟩ := t.boot_of_declares declared
  exact ⟨spec.enabled, ⟨_, boot, rfl, rfl⟩, fun _ _ => rfl⟩

/-- The wait of a case that starts settled is met, if there is time for the settle time to pass. -/
theorem met_of_settled (follows : c.expected = .ofEnabled c.enabled) {enabled : Bool}
    (settled : Settled t interface enabled clock interfaces)
    (first : FirstOnGrid (waitFor config interface c).pause t.settleTime.toNat n)
    (inTime : n ≤ config.timeout) :
    ∃ after, Step t config interface c clock interfaces (.met after) c.enabled := by
  by_cases same : enabled = c.enabled
  · subst same
    exact ⟨0, step_of_shown follows settled.shows⟩
  · have flipped : enabled = !c.enabled := by
      cases enabled <;> cases on : c.enabled <;> simp_all
    subst flipped
    exact ⟨n, step_of_settles follows settled.shows first inTime⟩

/-- A case whose wait ends well examines the transceiver in the state that it leaves. -/
theorem value_runCase_of_ok {s : InterfaceState} (there : interfaces interface = some s)
    {status : OperStatus}
    (ended : (waited t.device config interface c clock interfaces).value = .ok status) :
    let out := runCase t.device config interface c clock interfaces
    out.value = Procedure.ended ((examine t.device interface c).exec
      ({ name := c.reportName : CaseReport }.recordAll (settledNotes interface c))
      out.clock out.state).value := by
  intro out
  obtain ⟨ends, leaves⟩ := ends_runCase t config c clock there
  replace ends : out.clock = _ := ends
  replace leaves : out.state = _ := leaves
  rw [ends, leaves]
  exact value_runCase_of_waited config (accepted_simulated there c.enabled) ended

theorem value_runCase_of_met {s : InterfaceState} (there : interfaces interface = some s)
    {after : Nat} {shown : Bool}
    (step : Step t config interface c clock interfaces (.met after) shown) :
    let out := runCase t.device config interface c clock interfaces
    out.value = Procedure.ended ((examine t.device interface c).exec
      ({ name := c.reportName : CaseReport }.recordAll (settledNotes interface c))
      out.clock out.state).value := by
  cases ended : (waited t.device config interface c clock interfaces).value with
  | ok status => exact value_runCase_of_ok there ended
  | error fault =>
    -- a wait that ends in a fault would have left the description as the only entry
    have value := (exec_procedure_of_fault config (accepted_simulated there c.enabled)
      { name := c.reportName } ended).1
    obtain ⟨later, entries⟩ := step.reported
    rw [runCase, Procedure.entries_report, value] at entries
    cases entries

theorem settled_runCase {enabled : Bool} {after : Nat}
    (settled : Settled t interface enabled clock interfaces)
    (step : Step t config interface c clock interfaces (.met after) c.enabled) :
    let out := runCase t.device config interface c clock interfaces
    Settled t interface c.enabled out.clock out.state := by
  intro out
  have ends : out.clock = clock + after := step.takes
  refine ⟨?_, (spares_runCase t config interface c clock interfaces).trans settled.others⟩
  rw [ends]
  exact step.shows

end Runs

section Examination

variable {t : Topology} {interface transceiver : String} {c : Case} {clock : Nat}
  {interfaces : Interfaces} {spec : ComponentSpec} {enabled : Bool}

/-- In a settled state a laser is dark as the topology says. -/
theorem laserOff_of_settled (settled : Settled t interface enabled clock interfaces)
    (linked : ∀ link, spec.interface = some link → t.declares link = true) :
    Topology.laserOff interfaces spec = .ok (t.darkWhile interface enabled spec) := by
  unfold Topology.darkWhile
  cases link : spec.interface with
  | none => simp [Topology.laserOff, link]
  | some link' =>
    by_cases own : link' = interface
    · subst own
      obtain ⟨s, there, admin, -⟩ := settled.shows
      rw [Topology.laserOff_of_linked link there]
      simp [admin]
    · obtain ⟨last, declared, boot⟩ := t.boot_of_declares (linked link' link)
      have there : interfaces link' = some { enabled := last.enabled } := by
        rw [settled.others link' (fun mem => own (List.mem_singleton.mp mem)), boot]
      rw [Topology.laserOff_of_linked link there]
      simp [own, Topology.startsDisabled, declared]

theorem samples_of_settled (settled : Settled t interface enabled clock interfaces)
    (first : t.components.find? (·.name = transceiver) = some spec)
    (linked : ∀ link, spec.interface = some link → t.declares link = true) :
    t.samples interfaces .inputPower transceiver = .ok spec.received ∧
      t.samples interfaces .outputPower transceiver =
        .ok (spec.emitted (t.darkWhile interface enabled spec)) := by
  constructor
  · rw [Topology.samples, Topology.component_of_find? first]
    rfl
  · exact Topology.outputPowers_of_laserOff first (laserOff_of_settled settled linked)

/-- In a settled state a case is told what the topology says. -/
theorem value_examined (valid : t.dangling? = none)
    (named : transceiverName interface t.vendor = .ok transceiver)
    (settled : Settled t interface enabled clock interfaces) :
    (examined t.device interface clock interfaces).value =
      match t.components.find? (·.name = transceiver) with
      | none => .failed (.lookup transceiver) (.unknownComponent transceiver)
      | some spec => match spec.mfgName with
        | none => .absent transceiver
        | some mfgName => .read transceiver mfgName spec.received
          (spec.emitted (t.darkWhile interface enabled spec)) := by
  have name : ((pure (transceiverName interface t.device.vendor) : Run Interfaces _) clock
      interfaces).value = .ok transceiver := named
  have lookup : (t.device.runMfgName transceiver clock interfaces).value =
      (·.mfgName) <$> t.component transceiver := rfl
  refine (Run.value_proceed_of_ok _ _ name).trans ?_
  cases first : t.components.find? (·.name = transceiver) with
  | none =>
    rw [Topology.component, first] at lookup
    exact Run.value_proceed_of_error _ _ lookup
  | some spec =>
    rw [Topology.component_of_find? first] at lookup
    refine (Run.value_proceed_of_ok _ _ lookup).trans ?_
    cases mfgName : spec.mfgName with
    | none => simp only [mfgName]; rfl
    | some mfgName =>
      have linked : ∀ link, spec.interface = some link → t.declares link = true :=
        fun link is => Topology.declares_of_link valid (List.mem_of_find?_eq_some first) is
      obtain ⟨inputs, outputs⟩ := samples_of_settled settled first linked
      simp only [mfgName]
      refine (Run.value_proceed_of_ok _ _ inputs).trans ?_
      exact Run.value_proceed_of_ok _ _ outputs

/-- The verdict of a case that gets to examine the component that is called `transceiver`. -/
def verdictOf (t : Topology) (interface transceiver : String) (c : Case) : Verdict :=
  match t.components.find? (·.name = transceiver) with
  | none => .aborted
  | some spec => match spec.mfgName with
    | none => .skipped
    | some _ =>
      if inputErrors interface spec.received ++
          outputErrors interface c (spec.emitted (t.darkWhile interface c.enabled spec)) = [] then
        .passed
      else .failed

/-- The report of a case comes to the verdict that the topology gives. -/
theorem verdict_examine (valid : t.dangling? = none)
    (named : transceiverName interface t.vendor = .ok transceiver)
    (settled : Settled t interface c.enabled clock interfaces) :
    let report := Procedure.ended ((examine t.device interface c).exec
      ({ name := c.reportName : CaseReport }.recordAll (settledNotes interface c))
      clock interfaces).value
    report.verdict = verdictOf t interface transceiver c ∧
      (t.components.find? (·.name = transceiver) = none →
        report.fatal = some (Fault.unknownComponent transceiver).message) := by
  intro report
  have told : report = Procedure.ended
      ((examined t.device interface clock interfaces).value.account interface c) :=
    congrArg Procedure.ended (recounts_examine interface c t.device clock interfaces).value
  rw [value_examined valid named settled] at told
  unfold verdictOf
  cases first : t.components.find? (·.name = transceiver) with
  | none =>
    simp only [first] at told
    obtain ⟨verdict, fatal, -⟩ :=
      report_failed interface c (.lookup transceiver) (.unknownComponent transceiver)
    rw [told]
    exact ⟨verdict, fun _ => fatal⟩
  | some spec =>
    refine ⟨?_, fun missing => by cases missing⟩
    simp only [first] at told
    cases mfgName : spec.mfgName with
    | none =>
      simp only [mfgName] at told ⊢
      rw [told]
      exact (report_absent interface c transceiver).1
    | some name =>
      simp only [mfgName] at told ⊢
      obtain ⟨errors, verdict⟩ := report_read interface c transceiver name spec.received
        (spec.emitted (t.darkWhile interface c.enabled spec))
      rw [told, ← errors]
      exact verdict

end Examination

/-- Cases that expect what they set come to the verdicts that the topology gives, where the settle
time can pass in every one of them. -/
theorem verdicts_of_settled {t : Topology} {config : Config} {interface transceiver : String}
    {clock n : Nat} {interfaces : Interfaces} {enabled : Bool} (valid : t.dangling? = none)
    (found : t.device.port config.port = .ok interface)
    (named : transceiverName interface t.vendor = .ok transceiver)
    (first : FirstOnGrid (min (max config.poll 1) longestPause) t.settleTime.toNat n)
    (inTime : n ≤ config.timeout) (cases : List Case)
    (follows : ∀ c ∈ cases, c.expected = .ofEnabled c.enabled)
    (settled : Settled t interface enabled clock interfaces) :
    let reports := (check t.device config cases clock interfaces).value.cases
    reports.map (·.verdict) = cases.map (verdictOf t interface transceiver) ∧
      (t.components.find? (·.name = transceiver) = none →
        ∀ report ∈ reports, report.fatal = some (Fault.unknownComponent transceiver).message) := by
  induction cases generalizing clock interfaces enabled with
  | nil => simp [check_of_port found]
  | cons c cases ih =>
    intro reports
    have followsLater : ∀ c ∈ cases, c.expected = .ofEnabled c.enabled := fun other mem =>
      follows other (List.mem_cons_of_mem c mem)
    obtain ⟨after, step⟩ := met_of_settled (follows c List.mem_cons_self) settled first inTime
    obtain ⟨s, there, -⟩ := settled.shows
    have report := value_runCase_of_met there step
    have settledAfter := settled_runCase settled step
    obtain ⟨verdict, fatal⟩ := verdict_examine valid named settledAfter
    rw [← report] at verdict fatal
    obtain ⟨verdicts, fatals⟩ := ih followsLater settledAfter
    have split : reports = _ := (check_cons found c cases clock interfaces).1
    rw [split]
    refine ⟨?_, fun missing other mem => ?_⟩
    · rw [List.map_cons, List.map_cons, verdict, verdicts]
    · rcases List.mem_cons.mp mem with rfl | later
      · exact fatal missing
      · exact fatals missing other later

def failedIf (faulty : Bool) : Verdict := if faulty then .failed else .passed

/-- The verdicts of the default cases on a freshly built device, whose status reads follow each
other after `gap` milliseconds: they can be read off the first component that has the transceiver's
name. -/
def Foretold (t : Topology) (config : Config) (interface : String) (gap : Nat) : Prop :=
  ∀ n, FirstOnGrid gap t.settleTime.toNat n → n ≤ config.timeout →
    ∃ transceiver, transceiverName interface t.vendor = .ok transceiver ∧ ∀ start,
      let reports := (check t.device config Case.defaults start t.boot).value.cases
      let verdicts := reports.map (·.verdict)
      match t.components.find? (·.name = transceiver) with
      | none => verdicts = [.aborted, .aborted, .aborted] ∧
        ∀ report ∈ reports, report.fatal = some (Fault.unknownComponent transceiver).message
      | some spec => match spec.mfgName with
        | none => verdicts = [.skipped, .skipped, .skipped]
        | some _ =>
          let emitted (enabled : Bool) := spec.emitted (t.darkWhile interface enabled spec)
          let misread := spec.received.any outOfRange
          let lit := failedIf (misread || (emitted true).any outOfRange)
          let dark := failedIf (misread || (emitted false).any fun power => minOpticsPower.lt power)
          verdicts = [lit, dark, lit]

/-- A case fails when a sample breaks a bound. -/
theorem failedIf_of_contains {interface : String} {c : Case} {received emitted : List Binary64}
    {breaks : Binary64 → Bool} (bounds : ∀ power, c.outputBounds.contains power = !breaks power) :
    (if inputErrors interface received ++ outputErrors interface c emitted = [] then
      Verdict.passed else .failed) =
      failedIf (received.any outOfRange || emitted.any breaks) := by
  have inputs : inputErrors interface received = [] ↔ received.any outOfRange = false := by
    rw [inputErrors_eq_nil_iff, List.any_eq_false]
    simp [Bounds.nominal, contains_within, outOfRange]
  have outputs : outputErrors interface c emitted = [] ↔ emitted.any breaks = false := by
    rw [outputErrors_eq_nil_iff, List.any_eq_false]
    simp [bounds]
  simp only [List.append_eq_nil_iff, inputs, outputs, failedIf]
  cases received.any outOfRange <;> cases emitted.any breaks <;> rfl

theorem foretold_of_valid {t : Topology} {config : Config} {interface : String}
    (valid : t.dangling? = none) (naming : t.vendor.namingSuffix.isSome = true)
    (mapped : t.ports.get? config.port = some interface) :
    Foretold t config interface (min (max config.poll 1) longestPause) := by
  intro n first inTime
  have found := t.port_eq_ok_iff.mpr mapped
  obtain ⟨transceiver, named⟩ : ∃ transceiver, transceiverName interface t.vendor = .ok transceiver := by
    obtain ⟨suffix, is⟩ := Option.isSome_iff_exists.mp naming
    unfold transceiverName
    rw [is]
    by_cases empty : suffix.isEmpty = true
    · exact ⟨_, if_pos empty⟩
    · exact ⟨_, if_neg empty⟩
  refine ⟨transceiver, named, fun start => ?_⟩
  obtain ⟨enabled, settled⟩ := settled_boot start (Topology.declares_of_get? valid mapped)
  obtain ⟨verdicts, fatals⟩ := verdicts_of_settled valid found named first inTime Case.defaults
    (by decide) settled
  intro reports verdicts'
  replace verdicts : verdicts' = _ := verdicts
  unfold verdictOf at verdicts
  cases component : t.components.find? (·.name = transceiver) with
  | none =>
    simp only [component] at verdicts
    exact ⟨verdicts, fatals component⟩
  | some spec =>
    simp only [component] at verdicts
    cases mfgName : spec.mfgName with
    | none =>
      simp only [mfgName] at verdicts ⊢
      exact verdicts
    | some name =>
      simp only [mfgName] at verdicts ⊢
      rw [verdicts]
      simp only [Case.defaults, List.map_cons, List.map_nil, List.cons.injEq, and_true]
      refine ⟨?_, ?_, ?_⟩
      · exact failedIf_of_contains fun power => contains_within minOpticsPower maxOpticsPower power
      · exact failedIf_of_contains fun power => contains_atMost minOpticsPower power
      · exact failedIf_of_contains fun power => contains_within minOpticsPower maxOpticsPower power

/-- The verdicts of the default power update on a freshly built simulated device are foretold by its
topology alone, where the settle time can pass within the timeout; the status reads follow each other
after the poll interval, cut to the longest pause. -/
theorem verdicts_foretold {text : String} {t : Topology}
    (accepted : Topology.ofDocument text = .ok t) {config : Config} {interface : String}
    (naming : t.vendor.namingSuffix.isSome = true)
    (mapped : t.ports.get? config.port = some interface) (positive : 1 ≤ config.poll) :
    Foretold t config interface (min config.poll longestPause) := by
  have foretold := foretold_of_valid (Topology.valid_of_ofDocument accepted) naming mapped
  rwa [Nat.max_eq_left positive] at foretold

/-- A topology whose transceiver on the interface `i` is lit by the interface `j`, which was first
declared enabled and then disabled; another component has the transceiver's name too. -/
def crossLinked : Topology where
  name := "dut"
  model := "model"
  vendor := .cisco
  ports := PortMap.empty.insert "port1" "i"
  interfaces := [{ name := "j" }, { name := "i", enabled := false }, { name := "j", enabled := false }]
  components := [
    { name := "i", kind := .port, mfgName := some "M", interface := some "j"
      channels := [{ inputPower := some (.ofInt (-2)), outputPower := some (.ofInt (-1)) }] },
    { name := "i", kind := .transceiver }]
  settleTime := 10

theorem ofDocument_crossLinked :
    Topology.ofDocument crossLinked.document = .ok crossLinked :=
  Topology.ofDocument_document ⟨by decide, by decide +kernel⟩

/-- The laser is dark in all three cases, so only the second one passes. -/
theorem verdicts_foretold_of_crossLinked :
    let config : Config := { timeout := 12, poll := 4 }
    Topology.ofDocument crossLinked.document = .ok crossLinked ∧
    crossLinked.vendor.namingSuffix.isSome = true ∧
    crossLinked.ports.get? config.port = some "i" ∧ 1 ≤ config.poll ∧
    ((check crossLinked.device config Case.defaults 7 crossLinked.boot).value.cases.map
      (·.verdict)) = [.failed, .passed, .failed] := by
  intro config
  have accepted := ofDocument_crossLinked
  have naming : crossLinked.vendor.namingSuffix.isSome = true := rfl
  have mapped : crossLinked.ports.get? config.port = some "i" := by decide
  have positive : 1 ≤ config.poll := by decide
  have first : FirstOnGrid (min config.poll longestPause) crossLinked.settleTime.toNat 12 := by
    rw [Nat.min_eq_left (by simp only [longestPause, config]; omega)]
    exact pollsLate_onePort
  have foretold : Foretold crossLinked config "i" (min config.poll longestPause) :=
    verdicts_foretold accepted naming mapped positive
  obtain ⟨transceiver, named, law⟩ := foretold 12 first (by decide)
  obtain rfl : "i" = transceiver := Except.ok.inj named
  refine ⟨accepted, naming, mapped, positive, (law 7).trans ?_⟩
  decide +kernel

/-- Where a wait timed out, its case was aborted. -/
theorem Reported.aborted_of_timedOut {config : Config} {interface : String} {c c' : Case}
    {cases : List Case} {first : Ending} {lastSeen : OperStatus} {endings : List Ending}
    {reports : List CaseReport}
    (reported : Reported config interface (c :: c' :: cases)
      (first :: .timedOut lastSeen :: endings) reports) :
    (reports.map (·.verdict))[1]? = some .aborted := by
  rcases reports with _ | ⟨report, _ | ⟨report', reports⟩⟩
  · cases reported
  · cases reported.2
  · obtain ⟨_, same, _⟩ := reported
    rw [same]
    rfl

/-- A topology whose interface takes a millisecond longer to settle than the longest pause. -/
def slowPort : Topology :=
  { onePort with
    components := [{ name := "i", kind := .transceiver, mfgName := some "M" }]
    settleTime := 946080000001 }

/-- Where the poll interval is longer than the longest pause, the reads are made at other times than
it says, and none need be made between the end of the settle time and the timeout: the second case
times out although a read after one poll interval would have been in time. -/
theorem not_foretold_beyond_longestPause :
    let config : Config := { timeout := longestPause + 1, poll := longestPause + 1 }
    Topology.ofDocument slowPort.document = .ok slowPort ∧
    slowPort.vendor.namingSuffix.isSome = true ∧
    slowPort.ports.get? config.port = some "i" ∧ 1 ≤ config.poll ∧
    ¬ Foretold slowPort config "i" config.poll := by
  intro config
  have accepted : Topology.ofDocument slowPort.document = .ok slowPort :=
    Topology.ofDocument_document ⟨by decide, by decide +kernel⟩
  have mapped : slowPort.ports.get? config.port = some "i" := by decide
  refine ⟨accepted, rfl, mapped, Nat.le_add_left 1 longestPause, fun foretold => ?_⟩
  have cut : min (max config.poll 1) longestPause = longestPause := by
    simp only [config]
    omega
  -- the poll interval reaches the settle time at once, the longest pause only at the second read
  have claimed : FirstOnGrid config.poll slowPort.settleTime.toNat ((0 + 1) * config.poll) :=
    firstOnGrid_of_between (by decide) (by decide)
  have actual : FirstOnGrid longestPause slowPort.settleTime.toNat ((1 + 1) * longestPause) :=
    firstOnGrid_of_between (by decide) (by decide)
  obtain ⟨transceiver, named, law⟩ := foretold _ claimed (by decide)
  obtain rfl : "i" = transceiver := Except.ok.inj named
  have verdicts := congrArg (·[1]?) (law 0)
  obtain ⟨_, last, schedule⟩ : OnSchedule slowPort config "i" longestPause :=
    cut ▸ onSchedule_of_declares mapped rfl
  obtain rfl := Option.some.inj last
  have fresh : ∀ flip ∈ ([] : List Write), flip.time + (longestPause + 1) ≤ 0 := fun _ made =>
    absurd made List.not_mem_nil
  have late := (schedule [] 0 fresh _ actual).2.2 (Nat.le_refl _)
    (by simp only [config, longestPause]; omega)
  have aborted := late.reported.aborted_of_timedOut
  cases aborted.symm.trans verdicts

end PowerUpdate
end OpticsCheck
