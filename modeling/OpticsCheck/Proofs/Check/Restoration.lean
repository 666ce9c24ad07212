import OpticsCheck.Proofs.Check.Inventory
import OpticsCheck.Proofs.Check.Verdicts

/-!
# What a check leaves behind

A case writes before anything in it can fail, so after a power update the interface has the admin
state that the last case wrote, however the cases ended. To the simulated device a check is a
session of its writes and waits; so what is known of sessions is known of what a check leaves
behind, and the last write shows once the settle time has passed.
-/

namespace OpticsCheck

namespace PowerUpdate

/-- What a case asks of the device that can take time or change something. -/
def Case.requests (config : Config) (interface : String) (c : Case) : List Request :=
  [.replace { name := interface, enabled := c.enabled }, .await (waitFor config interface c)]

section Simulated

variable {t : Topology} {config : Config} {interface : String} {clock : Nat}
  {interfaces : Interfaces} {s : InterfaceState}

variable (t config clock) in
theorem runCase_as_session (there : interfaces interface = some s) (c : Case) :
    let out := runCase t.device config interface c clock interfaces
    let session := t.device.serveAll (c.requests config interface) clock interfaces
    out.clock = session.clock ∧ out.state = session.state := by
  obtain ⟨ends, leaves⟩ := ends_runCase t config c clock there
  exact ⟨ends.trans rfl, leaves.trans rfl⟩

variable (found : t.device.port config.port = .ok interface)
include found

theorem ends_check_cons (c : Case) (cases : List Case) (clock : Nat) (interfaces : Interfaces) :
    let out := runCase t.device config interface c clock interfaces
    let rest := check t.device config cases out.clock out.state
    let both := check t.device config (c :: cases) clock interfaces
    both.clock = rest.clock ∧ both.state = rest.state := by
  simp [check_of_port found, List.mapM_cons]

/-- A check does to the device what a session of its writes and waits does. -/
theorem check_as_session (clock : Nat) (there : interfaces interface = some s)
    (cases : List Case) :
    let out := check t.device config cases clock interfaces
    let requests := cases.flatMap (Case.requests config interface)
    let session := t.device.serveAll requests clock interfaces
    out.clock = session.clock ∧ out.state = session.state := by
  induction cases generalizing clock interfaces s with
  | nil => simp [check_of_port found, Device.serveAll]
  | cons c cases ih =>
    obtain ⟨clocks, states⟩ := ends_check_cons found c cases clock interfaces
    obtain ⟨clock', state'⟩ := runCase_as_session t config clock there c
    have left := state_runCase t config c clock there
    obtain ⟨laterClock, laterState⟩ := ih _ left
    simp only [List.flatMap_cons, Device.clock_serveAll_append, Device.state_serveAll_append]
    rw [clocks, states, laterClock, laterState, clock', state']
    exact ⟨rfl, rfl⟩

/-- The last case runs from where the check of the cases before it ends. -/
theorem state_check_concat (first : List Case) (last : Case) (clock : Nat)
    (interfaces : Interfaces) :
    let left := check t.device config first clock interfaces
    (check t.device config (first ++ [last]) clock interfaces).state =
      (runCase t.device config interface last left.clock left.state).state := by
  intro left
  rw [check_append found]
  refine (ends_check_cons found last [] left.clock left.state).2.trans ?_
  simp [check_of_port found]

/-- A check changes the state of its own interface alone. -/
theorem spares_check (cases : List Case) (clock : Nat) (interfaces : Interfaces) :
    (check t.device config cases clock interfaces).state.AgreeOff [interface] interfaces := by
  rw [check_of_port found]
  exact Run.Along.mapM (Stretch.spares_composes interface)
    (fun c _ => spares_runCase t config interface c) clock interfaces

end Simulated

/-- A write shows once it has lasted for the settle time without further writes. -/
theorem status_once_settled {t : Topology} {interface : String} {interfaces : Interfaces}
    {boot enabled : Bool} {writes : List Write} {written : Nat}
    (there : interfaces interface =
      some ((InterfaceState.after { enabled := boot } t.settleTime.toNat writes).set
        t.settleTime.toNat written enabled))
    (earlier : ∀ v ∈ writes, v.time ≤ written) (clock : Nat) {later : List Request}
    (spared : ∀ config, Request.replace config ∈ later → config.name ≠ interface) :
    let now := t.device.serveAll later clock interfaces
    written + t.settleTime.toNat ≤ now.clock →
      (t.device.serve (.status interface) now.clock now.state).value =
        .ok (.status (.ofEnabled enabled)) := by
  intro now lasted
  have kept := Topology.state_serveAll_at (t := t) clock there later
  rw [t.device.writesTo_eq_nil _ _ spared] at kept
  rw [Topology.value_serve_status now.clock kept]
  refine congrArg (Except.ok ∘ Answer.status) ?_
  let last : Write := ⟨written, enabled⟩
  exact InterfaceState.status_of_last_write (w := last) _ boot earlier lasted

/-- The interface has this admin state and all others are as they were. The state shows once the
settle time has passed since it was written, unless the interface is written to again. -/
structure Restored (t : Topology) (interface : String) (enabled : Bool) (written : Nat)
    (before : Interfaces) (out : Outcome Interfaces SuiteReport) : Prop where
  admin : (out.state interface).map (·.enabled) = some enabled
  others : ∀ name, name ≠ interface → out.state name = before name
  settles : ∀ later : List Request,
    (∀ config, Request.replace config ∈ later → config.name ≠ interface) →
      let now := t.device.serveAll later out.clock out.state
      written + t.settleTime.toNat ≤ now.clock →
        (t.device.serve (.status interface) now.clock now.state).value =
          .ok (.status (.ofEnabled enabled))

theorem restored_of_concat {t : Topology} {config : Config} {interface : String}
    (found : t.device.port config.port = .ok interface) (declared : t.declares interface = true)
    (requests : List Request) (start : Nat) (first : List Case) (last : Case) :
    let before := t.device.serveAll requests start t.boot
    let checked (cases : List Case) := check t.device config cases before.clock before.state
    Restored t interface last.enabled (checked first).clock before.state
      (checked (first ++ [last])) := by
  intro before checked
  obtain ⟨spec, -, boot⟩ := t.boot_of_declares declared
  -- the first cases continue the session, so the interface is as all its writes have left it
  let session := requests ++ first.flatMap (Case.requests config interface)
  let left := t.device.serveAll session start t.boot
  have begun : before.state interface = some _ := Topology.state_serveAll_at start boot requests
  obtain ⟨clock, state⟩ := check_as_session found before.clock begun first
  replace clock : (checked first).clock = left.clock :=
    clock.trans (t.device.clock_serveAll_append _ _ _ _).symm
  replace state : (checked first).state = left.state :=
    state.trans (t.device.state_serveAll_append _ _ _ _).symm
  have there : (checked first).state interface = some _ :=
    (congrFun state interface).trans (Topology.state_serveAll_at start boot session)
  have written : (checked (first ++ [last])).state interface = some _ :=
    (congrFun (state_check_concat found first last _ _) interface).trans
      (state_runCase _ _ _ _ there)
  refine ⟨?_, fun name other => ?_, fun later spared => ?_⟩
  · rw [written, Option.map_some, InterfaceState.enabled_set]
  · refine spares_check found (first ++ [last]) before.clock before.state name fun mem => ?_
    exact other (List.mem_singleton.mp mem)
  · refine status_once_settled written (fun v made => ?_) (checked (first ++ [last])).clock spared
    exact clock ▸ (t.device.time_of_mem_writesTo interface session start t.boot made).2

/-- After a power update the interface behind the port has the admin state of the last case and the
other interfaces are as they were, whatever came of the cases. So the default power update and all
checks together leave the interface enabled, and once the settle time has passed since the last case
wrote that, it is up. -/
theorem check_restores {text : String} {t : Topology} (accepted : Topology.ofDocument text = .ok t)
    {config : Config} {interface : String} (mapped : t.ports.get? config.port = some interface)
    (requests : List Request) (start : Nat) :
    let before := t.device.serveAll requests start t.boot
    let checked (cases : List Case) := check t.device config cases before.clock before.state
    let written := (checked (Case.defaults.take 2)).clock
    (∀ cases last, cases.getLast? = some last →
      Restored t interface last.enabled (checked cases.dropLast).clock before.state
        (checked cases)) ∧
    Restored t interface true written before.state (checked Case.defaults) ∧
    Restored t interface true written before.state
      (runAll t.device config before.clock before.state) := by
  intro before checked written
  have found := t.port_eq_ok_iff.mpr mapped
  have declared := Topology.declares_of_get? (Topology.valid_of_ofDocument accepted) mapped
  have restored (cases : List Case) (last : Case) (ends : cases.getLast? = some last) :
      Restored t interface last.enabled (checked cases.dropLast).clock before.state
        (checked cases) := by
    have whole := restored_of_concat found declared requests start cases.dropLast last
    rwa [List.dropLast_append_getLast? last ends] at whole
  have default : Restored t interface true written before.state (checked Case.defaults) :=
    restored Case.defaults _ rfl
  refine ⟨restored, default, ?_⟩
  obtain ⟨-, clock, state⟩ := runAll_simulated t config before.clock before.state
  refine ⟨?_, ?_, ?_⟩
  · rw [state]
    exact default.admin
  · rw [state]
    exact default.others
  · rw [clock, state]
    exact default.settles

/-- No case can be met and so all are aborted; still the interface is left disabled as the last one
has set it, shows so in time, and the write to the other interface before the check lasts. -/
theorem check_restores_of_aborted :
    let config : Config := { timeout := 0, poll := 4 }
    let cases := (Case.defaults.take 2).map fun c => { c with expected := .testing }
    let before := crossLinked.device.serveAll [.replace { name := "j" }, .advance 3] 0
      crossLinked.boot
    let out := check crossLinked.device config cases before.clock before.state
    let later := crossLinked.device.serveAll [.advance 10] out.clock out.state
    Topology.ofDocument crossLinked.document = .ok crossLinked ∧
    crossLinked.ports.get? config.port = some "i" ∧
    out.value.cases.map (·.verdict) = [.aborted, .aborted] ∧
    (out.state "i").map (·.enabled) = some false ∧ out.state "j" = before.state "j" ∧
    (crossLinked.device.serve (.status "i") later.clock later.state).value =
      .ok (.status .down) ∧
    ((runAll crossLinked.device config before.clock before.state).state "i").map (·.enabled) =
      some true := by
  intro config cases before out later
  have mapped : crossLinked.ports.get? config.port = some "i" := by decide
  obtain ⟨restored, -, restoredByAll⟩ := check_restores ofDocument_crossLinked mapped
    [.replace { name := "j" }, .advance 3] 0
  have left : Restored crossLinked "i" false _ before.state out := restored cases _ rfl
  have leftByAll : Restored crossLinked "i" true _ before.state
    (runAll crossLinked.device config before.clock before.state) := restoredByAll
  have verdicts : out.value.cases.map (·.verdict) = [.aborted, .aborted] := by decide +kernel
  refine ⟨ofDocument_crossLinked, mapped, verdicts, left.admin, left.others "j" (by decide), ?_,
    leftByAll.admin⟩
  exact left.settles [.advance 10] (by simp) (by decide +kernel)

end PowerUpdate
end OpticsCheck
