import OpticsCheck.Proofs.Check.Cases
import OpticsCheck.Proofs.Device.Debounce
import OpticsCheck.Proofs.Device.Settling
import OpticsCheck.Proofs.Topology.Validity

/-!
# The schedule of a power update on the simulated device

Each case starts from the settle window that the case before it left, also where a timeout cut its
wait short. What the next case finds depends on two things only: which admin state the interface has
and which one shows. So a case is a step between such pairs, and a check follows a schedule that is
put together from these steps.
-/

namespace OpticsCheck

/-- Neither the clock nor the device's state moves. -/
def Stretch.Idle {σ : Type} : Stretch σ :=
  fun clock before _ clock' after => clock' = clock ∧ after = before

theorem Stretch.idle_composes {σ : Type} : (Idle : Stretch σ).Composes where
  empty _ _ := ⟨rfl, rfl⟩
  append first second := ⟨second.1.trans first.1, second.2.trans first.2⟩

theorem Procedure.notes_idle {σ : Type} : Notes (Stretch.Idle (σ := σ)).onDevice :=
  fun _ _ _ _ => ⟨rfl, rfl⟩

theorem OperStatus.ofEnabled_not_ne (enabled : Bool) :
    ofEnabled (!enabled) ≠ ofEnabled enabled := by
  cases enabled <;> decide

namespace PowerUpdate

/-- How the wait of a case ends. -/
inductive Ending where
  /-- The expected status is read, so many milliseconds after the start. -/
  | met (after : Nat)
  | timedOut (lastSeen : OperStatus)
deriving DecidableEq, Repr

/-- How long a case with this ending takes. -/
def Ending.millis (timeout : Nat) : Ending → Nat
  | .met after => after
  | .timedOut _ => timeout

/-- How long cases with these endings take one after the other. -/
def Ending.total (timeout : Nat) : List Ending → Nat
  | [] => 0
  | ending :: endings => ending.millis timeout + total timeout endings

/-- What the report of a case says about its wait: either it goes on behind the wait, or it ends
with the timeout. -/
def Ending.Reported (config : Config) (interface : String) (c : Case) (report : CaseReport) :
    Ending → Prop
  | .met _ => ∃ later,
    report.entries = .log c.description :: .log (settledLine interface c) :: later
  | .timedOut lastSeen => report =
      { name := c.reportName
        entries := [.log c.description]
        fatal := some (Fault.awaitTimeout interface c.expected (some lastSeen)
          (.ofMillis config.timeout)).message }

/-- The reports say that the cases end like this. -/
def Reported (config : Config) (interface : String) :
    List Case → List Ending → List CaseReport → Prop
  | [], [], [] => True
  | c :: cases, ending :: endings, report :: reports =>
    ending.Reported config interface c report ∧ Reported config interface cases endings reports
  | _, _, _ => False

/-- A check from this clock and state ends its cases like that, each in its time, and takes so many
milliseconds altogether. -/
structure Follows {σ : Type} (dut : Device σ) (config : Config) (interface : String)
    (cases : List Case) (clock : Nat) (state : σ) (endings : List Ending) (millis : Nat) :
    Prop where
  reported : Reported config interface cases endings
    (check dut config cases clock state).value.cases
  each : ∀ k, (check dut config (cases.take k) clock state).clock =
    clock + Ending.total config.timeout (endings.take k)
  total : (check dut config cases clock state).clock = clock + millis

section Chain

variable {σ : Type} {dut : Device σ} {config : Config} {interface : String}
  (found : dut.port config.port = .ok interface)
include found

theorem check_cons (c : Case) (cases : List Case) (clock : Nat) (state : σ) :
    let out := runCase dut config interface c clock state
    let rest := check dut config cases out.clock out.state
    (check dut config (c :: cases) clock state).value.cases = out.value :: rest.value.cases ∧
      (check dut config (c :: cases) clock state).clock = rest.clock := by
  simp [check_of_port found, List.mapM_cons]

theorem Follows.nil (clock : Nat) (state : σ) :
    Follows dut config interface [] clock state [] 0 := by
  refine ⟨?_, fun k => ?_, ?_⟩ <;> simp [check_of_port found, Reported, Ending.total]

theorem Follows.cons {c : Case} {cases : List Case} {clock millis : Nat} {state : σ}
    {ending : Ending} {endings : List Ending}
    (reported : ending.Reported config interface c
      (runCase dut config interface c clock state).value)
    (takes : (runCase dut config interface c clock state).clock =
      clock + ending.millis config.timeout)
    (rest : Follows dut config interface cases (clock + ending.millis config.timeout)
      (runCase dut config interface c clock state).state endings millis) :
    Follows dut config interface (c :: cases) clock state (ending :: endings)
      (ending.millis config.timeout + millis) := by
  have first (cases : List Case) := check_cons found c cases clock state
  simp only [takes] at first
  refine ⟨?_, fun k => ?_, ?_⟩
  · rw [(first cases).1]
    exact ⟨reported, rest.reported⟩
  · cases k with
    | zero => simpa using (Follows.nil found clock state).each 0
    | succ k => simp [(first _).2, rest.each, Ending.total, Nat.add_assoc]
  · rw [(first cases).2, rest.total, Nat.add_assoc]

end Chain

theorem Follows.takes_eq {σ : Type} {dut : Device σ} {config : Config} {interface : String}
    {cases : List Case} {clock millis millis' : Nat} {state : σ} {endings : List Ending}
    (follows : Follows dut config interface cases clock state endings millis)
    (same : millis = millis') :
    Follows dut config interface cases clock state endings millis' :=
  same ▸ follows

/-- The interface has this admin state, and its status shows that one. -/
def Shows (t : Topology) (interface : String) (admin shown : Bool) (clock : Nat)
    (interfaces : Interfaces) : Prop :=
  ∃ s, interfaces interface = some s ∧ s.enabled = admin ∧
    s.status t.settleTime.toNat clock = .ofEnabled shown

/-- A case that ends like this leaves the interface as it has set it, with this state showing. -/
structure Step (t : Topology) (config : Config) (interface : String) (c : Case) (clock : Nat)
    (interfaces : Interfaces) (ending : Ending) (shown : Bool) : Prop where
  reported : ending.Reported config interface c
    (runCase t.device config interface c clock interfaces).value
  takes : (runCase t.device config interface c clock interfaces).clock =
    clock + ending.millis config.timeout
  shows : Shows t interface c.enabled shown (clock + ending.millis config.timeout)
    (runCase t.device config interface c clock interfaces).state

section Step

variable {t : Topology} {config : Config} {interface : String} {c : Case} {clock n : Nat}
  {interfaces : Interfaces} {s : InterfaceState}

theorem accepted_simulated (there : interfaces interface = some s) (enabled : Bool) :
    (t.device.runReplace { name := interface, enabled } clock interfaces).value = .ok () := by
  simp [Device.runReplace, Run.call, Topology.replace_simulated clock there]

theorem state_written (there : interfaces interface = some s) (enabled : Bool) :
    (t.device.runReplace { name := interface, enabled } clock interfaces).state interface =
      some (s.set t.settleTime.toNat clock enabled) :=
  (Topology.state_replace clock there _).trans (if_pos rfl)

/-- The write takes no time, so the wait starts at once. -/
theorem waited_simulated (t : Topology) (config : Config) (c : Case) (clock : Nat)
    (there : interfaces interface = some s) :
    let written := t.device.runReplace { name := interface, enabled := c.enabled } clock interfaces
    let wait := (waitFor config interface c).run t.device clock written.state
    (waited t.device config interface c clock interfaces).value = wait.value ∧
      (waited t.device config interface c clock interfaces).clock = wait.clock := by
  intro written wait
  have instant : written.clock = clock := by
    simp [written, Device.runReplace, Run.call, Topology.replace_simulated clock there]
  simp only [waited, Run.value_bind, Run.clock_bind]
  rw [show (t.device.runReplace _ _ _).clock = clock from instant]
  exact ⟨rfl, rfl⟩

/-- A wait leaves the interface as the case has set it. -/
theorem state_waited (there : interfaces interface = some s) :
    (waited t.device config interface c clock interfaces).state interface =
      some (s.set t.settleTime.toNat clock c.enabled) :=
  (congrFun (t.keeps_wait (waitFor config interface c) _ _) interface).trans
    (state_written there c.enabled)

/-- On the simulated device an inspection neither takes time nor changes anything. -/
theorem idle_inspect (t : Topology) (interface : String) (c : Case) :
    Procedure.Along Stretch.Idle.onDevice (inspect t.device interface c) :=
  along_inspect Stretch.idle_composes.onDevice Procedure.notes_idle
    (fun _ _ _ _ => ⟨rfl, rfl⟩) (fun _ _ _ _ _ => ⟨rfl, rfl⟩)

variable (t config c clock) in
/-- A case ends with its wait; what it inspects then takes no time and changes nothing. -/
theorem ends_runCase (there : interfaces interface = some s) :
    let out := runCase t.device config interface c clock interfaces
    let begun := waited t.device config interface c clock interfaces
    out.clock = begun.clock ∧ out.state = begun.state := by
  intro out begun
  have accepted : (t.device.runReplace { name := interface, enabled := c.enabled } clock
      interfaces).value = .ok () := accepted_simulated there c.enabled
  have clocks : out.clock = _ := Procedure.clock_report _ _ _ _
  have states : out.state = _ := Procedure.state_report _ _ _ _
  cases ended : begun.value with
  | error fault =>
    obtain ⟨-, clock', state'⟩ :=
      exec_procedure_of_fault config accepted { name := c.reportName } ended
    exact ⟨clocks.trans clock', states.trans state'⟩
  | ok status =>
    obtain ⟨-, clock', state'⟩ :=
      exec_procedure_of_waited config accepted { name := c.reportName } ended
    obtain ⟨instant, kept⟩ := idle_inspect t interface c
      ({ name := c.reportName : CaseReport }.record (.log c.description)) begun.clock begun.state
    exact ⟨(clocks.trans clock').trans instant, (states.trans state').trans kept⟩

variable (t config c clock) in
/-- A case leaves the interface as it has set it, whatever comes of it. -/
theorem state_runCase (there : interfaces interface = some s) :
    (runCase t.device config interface c clock interfaces).state interface =
      some (s.set t.settleTime.toNat clock c.enabled) :=
  (congrFun (ends_runCase t config c clock there).2 interface).trans (state_waited there)

theorem step_of_met (there : interfaces interface = some s) {after : Nat} {status : OperStatus}
    {shown : Bool}
    (ended : (waited t.device config interface c clock interfaces).value = .ok status)
    (ends : (waited t.device config interface c clock interfaces).clock = clock + after)
    (shows : (s.set t.settleTime.toNat clock c.enabled).status t.settleTime.toNat (clock + after) =
      .ofEnabled shown) :
    Step t config interface c clock interfaces (.met after) shown := by
  have value := (exec_procedure_of_waited config (accepted_simulated there c.enabled)
    { name := c.reportName } ended).1
  obtain ⟨later, lines⟩ := entries_inspect t.device interface c
    ({ name := c.reportName : CaseReport }.record (.log c.description))
    (waited t.device config interface c clock interfaces).clock
    (waited t.device config interface c clock interfaces).state
  refine ⟨⟨later, ?_⟩, (ends_runCase t config c clock there).1.trans ends, _,
    state_runCase t config c clock there, InterfaceState.enabled_set _ _ _ _, shows⟩
  rw [runCase, Procedure.entries_report, value, ← lines]
  rfl

theorem step_of_timeout (there : interfaces interface = some s) {lastSeen : OperStatus}
    {shown : Bool} (ended : (waited t.device config interface c clock interfaces).value =
      .error ((waitFor config interface c).expired (some lastSeen)))
    (ends : (waited t.device config interface c clock interfaces).clock = clock + config.timeout)
    (shows : (s.set t.settleTime.toNat clock c.enabled).status t.settleTime.toNat
      (clock + config.timeout) = .ofEnabled shown) :
    Step t config interface c clock interfaces (.timedOut lastSeen) shown := by
  have value := (exec_procedure_of_fault config (accepted_simulated there c.enabled)
    { name := c.reportName } ended).1
  refine ⟨?_, (ends_runCase t config c clock there).1.trans ends, _,
    state_runCase t config c clock there, InterfaceState.enabled_set _ _ _ _, shows⟩
  rw [Ending.Reported, runCase, Procedure.report_of_error value]
  rfl

variable (follows : c.expected = .ofEnabled c.enabled)
include follows

/-- Where the state that a case sets shows already, its wait is over at once. -/
theorem step_of_shown {admin : Bool} (shows : Shows t interface admin c.enabled clock interfaces) :
    Step t config interface c clock interfaces (.met 0) c.enabled := by
  obtain ⟨s, there, -, status⟩ := shows
  have still : (s.set t.settleTime.toNat clock c.enabled).status t.settleTime.toNat clock =
      .ofEnabled c.enabled := by
    by_cases same : s.enabled = c.enabled
    · rw [InterfaceState.set_of_same same, status]
    · rw [InterfaceState.status_set_of_flip same, status, ite_self]
  have ended := Wait.run_of_shown (w := waitFor config interface c) (state_written there c.enabled)
    (still.trans follows.symm)
  obtain ⟨value, ends⟩ := waited_simulated t config c clock there
  exact step_of_met there (value.trans ended.1) (ends.trans ended.2) still

/-- What a case finds that flips an interface which has settled. -/
theorem flipped_of_shows (shows : Shows t interface (!c.enabled) (!c.enabled) clock interfaces)
    (first : FirstOnGrid (waitFor config interface c).pause t.settleTime.toNat n) :
    ∃ s, interfaces interface = some s ∧
      let flipped := s.set t.settleTime.toNat clock c.enabled
      FirstOnGrid (waitFor config interface c).pause (flipped.window t.settleTime.toNat clock) n ∧
      flipped.settled = c.expected ∧
      (0 < t.settleTime.toNat →
        flipped.status t.settleTime.toNat clock = .ofEnabled !c.enabled) ∧
      ∀ millis, flipped.status t.settleTime.toNat (clock + millis) =
        .ofEnabled (if millis < t.settleTime.toNat then !c.enabled else c.enabled) := by
  obtain ⟨s, there, admin, status⟩ := shows
  have flip : s.enabled ≠ c.enabled := by simp [admin]
  refine ⟨s, there, ?_, ?_, fun positive => ?_, fun millis => ?_⟩
  · rwa [InterfaceState.window_set_of_flip flip]
  · rw [InterfaceState.settled, InterfaceState.enabled_set, follows]
  · rw [InterfaceState.status_set_of_flip flip, status, if_pos (Nat.lt_add_of_pos_right positive)]
  · rw [InterfaceState.status_set_of_flip flip, status]
    by_cases within : millis < t.settleTime.toNat <;> simp [within]

/-- A case that flips an interface which has settled waits until a read finds it settled again. -/
theorem step_of_settles (shows : Shows t interface (!c.enabled) (!c.enabled) clock interfaces)
    (first : FirstOnGrid (waitFor config interface c).pause t.settleTime.toNat n)
    (inTime : n ≤ config.timeout) :
    Step t config interface c clock interfaces (.met n) c.enabled := by
  obtain ⟨s, there, onGrid, settled, before, status⟩ := flipped_of_shows follows shows first
  obtain ⟨value, ends⟩ := waited_simulated t config c clock there
  have after : (s.set t.settleTime.toNat clock c.enabled).status t.settleTime.toNat (clock + n) =
      .ofEnabled c.enabled := by
    rw [status, if_neg (Nat.not_lt.mpr first.reached_le)]
  by_cases now : t.settleTime.toNat = 0
  · -- without a settle time the first read already finds it settled
    obtain rfl : n = 0 := Nat.le_zero.mp (first.2 ⟨Nat.dvd_zero _, Nat.le_of_eq now⟩)
    have ended := Wait.run_of_shown (w := waitFor config interface c)
      (state_written there c.enabled) (after.trans follows.symm)
    exact step_of_met there (value.trans ended.1) (ends.trans ended.2) after
  · have hidden : OperStatus.ofEnabled (!c.enabled) ≠ c.expected :=
      follows ▸ OperStatus.ofEnabled_not_ne c.enabled
    have ended := Wait.run_of_settles (w := waitFor config interface c) onGrid
      (state_written there c.enabled) ((before (Nat.pos_of_ne_zero now)).trans_ne hidden) settled
      inTime
    exact step_of_met there (value.trans ended.1) (ends.trans ended.2) after

/-- Where no read in time finds it settled, the wait has seen the old status to the end, whether or
not the interface has settled by then. -/
theorem step_of_late (shows : Shows t interface (!c.enabled) (!c.enabled) clock interfaces)
    (first : FirstOnGrid (waitFor config interface c).pause t.settleTime.toNat n)
    (late : config.timeout < n) {shown : Bool}
    (left : (if config.timeout < t.settleTime.toNat then !c.enabled else c.enabled) = shown) :
    Step t config interface c clock interfaces (.timedOut (.ofEnabled !c.enabled)) shown := by
  obtain ⟨s, there, onGrid, settled, before, status⟩ := flipped_of_shows follows shows first
  obtain ⟨value, ends⟩ := waited_simulated t config c clock there
  have positive : 0 < t.settleTime.toNat := by
    by_contra zero
    have := first.2 ⟨Nat.dvd_zero _, Nat.not_lt.mp zero⟩
    omega
  have hidden : OperStatus.ofEnabled (!c.enabled) ≠ c.expected :=
    follows ▸ OperStatus.ofEnabled_not_ne c.enabled
  have ended := Wait.run_of_stuck (w := waitFor config interface c) onGrid
    (state_written there c.enabled) ((before positive).trans_ne hidden) fun _ => late
  have timeout : ¬ n ≤ (waitFor config interface c).timeout := Nat.not_le.mpr late
  rw [if_neg timeout, before positive] at ended
  exact step_of_timeout there (value.trans ended.1) (ends.trans ended.2)
    ((status config.timeout).trans (congrArg _ left))

end Step
section Schedule

variable {t : Topology} {config : Config} {interface : String} {clock n : Nat}
  {interfaces : Interfaces} (found : t.device.port config.port = .ok interface)
include found

/-- The cases that come after a step see of it only what the interface shows. -/
theorem Step.goOn {c : Case} {cases : List Case} {ending : Ending} {endings : List Ending}
    {shown : Bool} {millis : Nat} (step : Step t config interface c clock interfaces ending shown)
    (rest : ∀ after,
      Shows t interface c.enabled shown (clock + ending.millis config.timeout) after →
      Follows t.device config interface cases (clock + ending.millis config.timeout) after
        endings millis) :
    Follows t.device config interface (c :: cases) clock interfaces (ending :: endings)
      (ending.millis config.timeout + millis) :=
  .cons found step.reported step.takes (rest _ step.shows)

variable (first : FirstOnGrid (min (max config.poll 1) longestPause) t.settleTime.toNat n)
include first

theorem follows_of_enabled (shows : Shows t interface true true clock interfaces) :
    let follows := Follows t.device config interface Case.defaults clock interfaces
    (n ≤ config.timeout → follows [.met 0, .met n, .met n] (2 * n)) ∧
    (config.timeout < t.settleTime.toNat →
      follows [.met 0, .timedOut .up, .met 0] config.timeout) ∧
    (t.settleTime.toNat ≤ config.timeout → config.timeout < n →
      follows [.met 0, .timedOut .up, .timedOut .down] (2 * config.timeout)) := by
  intro follows
  refine ⟨fun inTime => ?_, fun short => ?_, fun settled late => ?_⟩
  · have chain : follows [.met 0, .met n, .met n] (0 + (n + (n + 0))) :=
      (step_of_shown rfl shows).goOn found fun _ shows =>
      (step_of_settles rfl shows first inTime).goOn found fun _ shows =>
      (step_of_settles rfl shows first inTime).goOn found fun _ _ => .nil found _ _
    exact chain.takes_eq (by omega)
  · have late := Nat.lt_of_lt_of_le short first.reached_le
    have chain : follows [.met 0, .timedOut .up, .met 0] (0 + (config.timeout + (0 + 0))) :=
      (step_of_shown rfl shows).goOn found fun _ shows =>
      (step_of_late rfl shows first late (if_pos short)).goOn found fun _ shows =>
      (step_of_shown rfl shows).goOn found fun _ _ => .nil found _ _
    exact chain.takes_eq (by omega)
  · have ended := Nat.not_lt.mpr settled
    have chain : follows [.met 0, .timedOut .up, .timedOut .down]
        (0 + (config.timeout + (config.timeout + 0))) :=
      (step_of_shown rfl shows).goOn found fun _ shows =>
      (step_of_late rfl shows first late (if_neg ended)).goOn found fun _ shows =>
      (step_of_late rfl shows first late (if_neg ended)).goOn found fun _ _ => .nil found _ _
    exact chain.takes_eq (by omega)

theorem follows_of_disabled (shows : Shows t interface false false clock interfaces) :
    let follows := Follows t.device config interface Case.defaults clock interfaces
    (n ≤ config.timeout → follows [.met n, .met n, .met n] (3 * n)) ∧
    (config.timeout < t.settleTime.toNat →
      follows [.timedOut .down, .met 0, .timedOut .down] (2 * config.timeout)) ∧
    (t.settleTime.toNat ≤ config.timeout → config.timeout < n →
      follows [.timedOut .down, .timedOut .up, .timedOut .down] (3 * config.timeout)) := by
  intro follows
  refine ⟨fun inTime => ?_, fun short => ?_, fun settled late => ?_⟩
  · have chain : follows [.met n, .met n, .met n] (n + (n + (n + 0))) :=
      (step_of_settles rfl shows first inTime).goOn found fun _ shows =>
      (step_of_settles rfl shows first inTime).goOn found fun _ shows =>
      (step_of_settles rfl shows first inTime).goOn found fun _ _ => .nil found _ _
    exact chain.takes_eq (by omega)
  · have late := Nat.lt_of_lt_of_le short first.reached_le
    have chain : follows [.timedOut .down, .met 0, .timedOut .down]
        (config.timeout + (0 + (config.timeout + 0))) :=
      (step_of_late rfl shows first late (if_pos short)).goOn found fun _ shows =>
      (step_of_shown rfl shows).goOn found fun _ shows =>
      (step_of_late rfl shows first late (if_pos short)).goOn found fun _ _ => .nil found _ _
    exact chain.takes_eq (by omega)
  · have ended := Nat.not_lt.mpr settled
    have chain : follows [.timedOut .down, .timedOut .up, .timedOut .down]
        (config.timeout + (config.timeout + (config.timeout + 0))) :=
      (step_of_late rfl shows first late (if_neg ended)).goOn found fun _ shows =>
      (step_of_late rfl shows first late (if_neg ended)).goOn found fun _ shows =>
      (step_of_late rfl shows first late (if_neg ended)).goOn found fun _ _ => .nil found _ _
    exact chain.takes_eq (by omega)

end Schedule

/-- The schedule of the default cases on the simulated device, started in any session at a time when
the last flip of the interface has lasted for the settle time. A status read follows the one before
it after `gap` milliseconds. -/
def OnSchedule (t : Topology) (config : Config) (interface : String) (gap : Nat) : Prop :=
  ∃ spec, (t.interfaces.filter (·.name = interface)).getLast? = some spec ∧
    ∀ (requests : List Request) (start : Nat),
      let before := t.device.serveAll requests start t.boot
      let writes := t.device.writesTo interface requests start t.boot
      let follows := Follows t.device config interface Case.defaults before.clock before.state
      let settleTime := t.settleTime.toNat
      let timeout := config.timeout
      (∀ flip ∈ Write.flips spec.enabled writes, flip.time + settleTime ≤ before.clock) →
      ∀ n, FirstOnGrid gap settleTime n →
        match Write.admin spec.enabled writes with
        | true =>
          (n ≤ timeout → follows [.met 0, .met n, .met n] (2 * n)) ∧
          (timeout < settleTime → follows [.met 0, .timedOut .up, .met 0] timeout) ∧
          (settleTime ≤ timeout → timeout < n →
            follows [.met 0, .timedOut .up, .timedOut .down] (2 * timeout))
        | false =>
          (n ≤ timeout → follows [.met n, .met n, .met n] (3 * n)) ∧
          (timeout < settleTime →
            follows [.timedOut .down, .met 0, .timedOut .down] (2 * timeout)) ∧
          (settleTime ≤ timeout → timeout < n →
            follows [.timedOut .down, .timedOut .up, .timedOut .down] (3 * timeout))

theorem onSchedule_of_declares {t : Topology} {config : Config} {interface : String}
    (mapped : t.ports.get? config.port = some interface) (declared : t.declares interface = true) :
    OnSchedule t config interface (min (max config.poll 1) longestPause) := by
  have found := t.port_eq_ok_iff.mpr mapped
  obtain ⟨spec, last, boot⟩ := t.boot_of_declares declared
  refine ⟨spec, last, fun requests start => ?_⟩
  intro before writes follows settleTime timeout lasted n first
  have there :
      before.state interface = some (.after { enabled := spec.enabled } settleTime writes) :=
    Topology.state_serveAll_at start boot requests
  obtain ⟨enabled, status⟩ := InterfaceState.after_boot settleTime spec.enabled writes
  have shows : Shows t interface (Write.admin spec.enabled writes)
      (Write.admin spec.enabled writes) before.clock before.state := by
    refine ⟨_, there, enabled, (status before.clock).trans ?_⟩
    rw [Write.shown_of_lasted spec.enabled lasted, Write.admin_flips]
  cases admin : Write.admin spec.enabled writes with
  | true => exact follows_of_enabled found first (admin ▸ shows)
  | false => exact follows_of_disabled found first (admin ▸ shows)

/-- The default power update on the simulated device ends on schedule, which depends only on the
admin state at the start, the settle time, the timeout and the pause between two status reads: the
poll interval, cut to the longest pause. -/
theorem check_defaults_on_schedule {text : String} {t : Topology}
    (accepted : Topology.ofDocument text = .ok t) {config : Config} {interface : String}
    (mapped : t.ports.get? config.port = some interface) (positive : 1 ≤ config.poll) :
    OnSchedule t config interface (min config.poll longestPause) := by
  have declared := Topology.declares_of_get? (Topology.valid_of_ofDocument accepted) mapped
  simpa only [Nat.max_eq_left positive] using onSchedule_of_declares mapped declared

/-- A topology with one enabled interface, which settles after ten milliseconds. -/
def onePort : Topology where
  name := "dut"
  model := "model"
  vendor := .cisco
  ports := PortMap.empty.insert "port1" "i"
  interfaces := [{ name := "i" }]
  settleTime := 10

def onePortDocument : String :=
  "\x7b\"name\":\"dut\",\"model\":\"model\",\"vendor\":\"CISCO\",\"ports\":\x7b\"port1\":\"i\"\x7d,"
    ++ "\"interfaces\":[\x7b\"name\":\"i\"\x7d],\"settle_time_ms\":10\x7d"

theorem ofDocument_onePort : Topology.ofDocument onePortDocument = .ok onePort := by
  decide +kernel

theorem get?_onePort : onePort.ports.get? "port1" = some "i" := by
  decide

theorem pollsLate_onePort : FirstOnGrid 4 onePort.settleTime.toNat 12 :=
  firstOnGrid_of_between (k := 2) (by decide) (by decide)

/-- The interface settles a millisecond before the deadline and the next read comes a millisecond
after it: the wait for it to go down times out, and the wait for it to come up again finds it
down. -/
theorem check_defaults_on_schedule_of_late_poll :
    let config : Config := { timeout := 11, poll := 4 }
    Topology.ofDocument onePortDocument = .ok onePort ∧
    onePort.ports.get? config.port = some "i" ∧ 1 ≤ config.poll ∧
    Follows onePort.device config "i" Case.defaults 0 onePort.boot
      [.met 0, .timedOut .up, .timedOut .down] 22 := by
  intro config
  have positive : 1 ≤ config.poll := by decide
  obtain ⟨spec, last, law⟩ : OnSchedule onePort config "i" (min config.poll longestPause) :=
    check_defaults_on_schedule ofDocument_onePort get?_onePort positive
  obtain rfl : { name := "i" } = spec := Option.some.inj last
  have first : FirstOnGrid (min config.poll longestPause) onePort.settleTime.toNat 12 := by
    rw [Nat.min_eq_left (by simp only [longestPause, config]; omega)]
    exact pollsLate_onePort
  have fresh : ∀ flip ∈ ([] : List Write), flip.time + 10 ≤ 0 := fun _ made =>
    absurd made List.not_mem_nil
  exact ⟨ofDocument_onePort, get?_onePort, positive,
    (law [] 0 fresh 12 first).2.2 (by decide) (by decide)⟩

/-- No report says of a wait both that it was met and that it timed out. -/
theorem Reported.not_met_and_timedOut {config : Config} {interface : String} {c c' : Case}
    {cases : List Case} {first first' : Ending} {after : Nat} {lastSeen : OperStatus}
    {endings endings' : List Ending} {reports : List CaseReport}
    (met : Reported config interface (c :: c' :: cases) (first :: .met after :: endings) reports) :
    ¬ Reported config interface (c :: c' :: cases) (first' :: .timedOut lastSeen :: endings')
      reports := by
  intro timedOut
  rcases reports with _ | ⟨report, _ | ⟨report', reports⟩⟩
  · exact met
  · exact met.2
  · obtain ⟨_, ⟨later, entries⟩, _⟩ := met
    obtain ⟨_, same, _⟩ := timedOut
    rw [same] at entries
    cases entries

/-- Where the poll interval is longer than the longest pause, reads come earlier than it says: the
wait for the interface to go down is met with the timeout, before a poll interval has passed. -/
theorem not_onSchedule_beyond_longestPause :
    let config : Config := { timeout := longestPause, poll := longestPause + 1 }
    Topology.ofDocument onePortDocument = .ok onePort ∧
    onePort.ports.get? config.port = some "i" ∧ 1 ≤ config.poll ∧
    ¬ OnSchedule onePort config "i" config.poll := by
  intro config
  refine ⟨ofDocument_onePort, get?_onePort, Nat.le_add_left 1 longestPause, fun early => ?_⟩
  have settle : onePort.settleTime.toNat = 10 := rfl
  have cut : min (max config.poll 1) longestPause = longestPause := by
    simp only [config]
    omega
  have actual : OnSchedule onePort config "i" longestPause :=
    cut ▸ onSchedule_of_declares get?_onePort rfl
  have onGrid {gap : Nat} (reaches : 10 ≤ gap) : FirstOnGrid gap onePort.settleTime.toNat gap := by
    have grid : FirstOnGrid gap onePort.settleTime.toNat ((0 + 1) * gap) :=
      firstOnGrid_of_between (by simp [settle]) (by simpa [settle])
    simpa using grid
  obtain ⟨_, last, law⟩ := early
  obtain rfl := Option.some.inj last
  obtain ⟨_, last', law'⟩ := actual
  obtain rfl := Option.some.inj last'
  have long : 10 ≤ longestPause := by simp only [longestPause]; omega
  have fresh : ∀ flip ∈ ([] : List Write), flip.time + 10 ≤ 0 := fun _ made =>
    absurd made List.not_mem_nil
  have timedOut := (law [] 0 fresh config.poll (onGrid (Nat.le_succ_of_le long))).2.2 long
    (Nat.lt_succ_self longestPause)
  have met := (law' [] 0 fresh longestPause (onGrid long)).1 (Nat.le_refl longestPause)
  exact met.reported.not_met_and_timedOut timedOut.reported

end PowerUpdate
end OpticsCheck
