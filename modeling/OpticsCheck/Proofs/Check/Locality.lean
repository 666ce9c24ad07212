import OpticsCheck.Proofs.Check.Verdicts
import OpticsCheck.Proofs.Run.Lockstep

/-!
# What a power update can see

A power update writes and reads one interface and reads one transceiver, whose laser may be driven
by a second interface. Two devices that agree on these stay in lockstep through any list of cases,
whatever else they consist of. So nothing else about a topology can influence what is reported or
how long it takes.
-/

namespace OpticsCheck

namespace InterfaceState

/-- The one interface, from `now` on, is and shows what the other is and shows from `now'` on. -/
structure Like (settleTime now now' : Nat) (s s' : InterfaceState) : Prop where
  enabled : s.enabled = s'.enabled
  shows : ∀ millis, s.status settleTime (now + millis) = s'.status settleTime (now' + millis)

namespace Like

variable {settleTime now now' : Nat} {s s' : InterfaceState}

theorem status (like : Like settleTime now now' s s') :
    s.status settleTime now = s'.status settleTime now' := like.shows 0

theorem later (like : Like settleTime now now' s s') (millis : Nat) :
    Like settleTime (now + millis) (now' + millis) s s' := by
  refine ⟨like.enabled, fun more => ?_⟩
  rw [Nat.add_assoc, Nat.add_assoc]
  exact like.shows (millis + more)

/-- The same write leaves them alike. -/
theorem set (like : Like settleTime now now' s s') (enabled : Bool) :
    Like settleTime now now' (s.set settleTime now enabled) (s'.set settleTime now' enabled) := by
  by_cases same : s.enabled = enabled
  · rwa [set_of_same same, set_of_same (like.enabled.symm.trans same)]
  · have flip : s'.enabled ≠ enabled := like.enabled ▸ same
    refine ⟨by simp only [enabled_set], fun millis => ?_⟩
    rw [status_set_of_flip same, status_set_of_flip flip, like.status]
    simp only [Nat.add_lt_add_iff_left]

end Like
end InterfaceState

/-- Paired devices answer alike whatever a power update of `interface` may ask. -/
structure Device.AnswerAlike {σ τ : Type} (R : Pairing σ τ) (interface : String) (dut : Device σ)
    (dut' : Device τ) : Prop where
  vendor : dut.vendor = dut'.vendor
  replace : ∀ enabled, Query.Matches R (dut.replace { name := interface, enabled })
    (dut'.replace { name := interface, enabled })
  status : Query.Matches R (dut.operStatus interface) (dut'.operStatus interface)
  mfgName : ∀ transceiver, transceiverName interface dut.vendor = .ok transceiver →
    Query.Matches R (dut.mfgName transceiver) (dut'.mfgName transceiver)
  samples : ∀ transceiver, transceiverName interface dut.vendor = .ok transceiver → ∀ leaf,
    Query.Matches R (dut.samples leaf transceiver) (dut'.samples leaf transceiver)

namespace PowerUpdate

section Lockstep

variable {σ τ : Type} {R : Pairing σ τ} {dut : Device σ} {dut' : Device τ} {interface : String}
  (ages : R.Ages) (alike : Device.AnswerAlike R interface dut dut')
include ages alike

theorem settle_lockstep (config : Config) (c : Case) :
    Procedure.Lockstep R (settle dut config interface c) (settle dut' config interface c) := by
  refine .bind (.of (.call ages (alike.replace c.enabled))) fun _ => ?_
  exact .discard (.of ((waitFor config interface c).lockstep_run ages alike.status))

theorem verify_lockstep {transceiver : String}
    (named : transceiverName interface dut.vendor = .ok transceiver) (c : Case) :
    Procedure.Lockstep R (verify dut interface c transceiver)
      (verify dut' interface c transceiver) := by
  refine .bind (.of (.call ages (alike.samples transceiver named .inputPower))) fun inputs => ?_
  refine .bind (.of (.call ages (alike.samples transceiver named .outputPower))) fun outputs => ?_
  refine .bind (.note _) fun _ => .bind (.note _) fun _ => ?_
  refine .bind (.forM fun _ _ => .note _) fun _ => ?_
  exact .forM fun _ _ => .note _

theorem examine_lockstep (c : Case) :
    Procedure.Lockstep R (examine dut interface c) (examine dut' interface c) := by
  unfold examine
  rw [← alike.vendor]
  cases named : transceiverName interface dut.vendor with
  | error fault => exact fun report => .pure (Except.error fault, report)
  | ok transceiver =>
    rw [Procedure.of_pure_ok, Procedure.of_pure_ok, pure_bind, pure_bind]
    refine .bind (.of (.call ages (alike.mfgName transceiver named))) fun found => ?_
    cases found with
    | none => exact .note _
    | some mfgName => exact .bind (.note _) fun _ => verify_lockstep ages alike named c

theorem runCase_lockstep (config : Config) (c : Case) :
    Run.Lockstep R (runCase dut config interface c) (runCase dut' config interface c) := by
  refine Procedure.Lockstep.report ?_ c.reportName
  rw [procedure_eq, procedure_eq]
  refine .bind (.note _) fun _ => ?_
  refine .bind (settle_lockstep ages alike config c) fun _ => ?_
  exact .bind (.note _) fun _ => examine_lockstep ages alike c

theorem check_lockstep {config : Config} (found : dut.port config.port = .ok interface)
    (found' : dut'.port config.port = .ok interface) (cases : List Case) :
    Run.Lockstep R (check dut config cases) (check dut' config cases) := by
  rw [check_of_port found, check_of_port found', map_eq_pure_bind, map_eq_pure_bind]
  refine .bind (.mapM fun c _ => runCase_lockstep ages alike config c) fun reports => ?_
  exact .pure (SuiteReport.mk reports)

end Lockstep

end PowerUpdate

namespace Topology

/-- The interface `link` drives the laser of the transceiver that belongs to `interface`. -/
def Drives (t : Topology) (link interface : String) : Prop :=
  ∃ transceiver spec, transceiverName interface t.vendor = .ok transceiver ∧
    t.components.find? (·.name = transceiver) = some spec ∧ spec.interface = some link

/-- The topologies agree on what a power update of `interface` can see: how it starts and how long
it takes to settle, its transceiver, and how the interface starts that drives the laser. -/
structure AgreeAround (t t' : Topology) (interface : String) : Prop where
  vendor : t.vendor = t'.vendor
  settleTime : t.settleTime = t'.settleTime
  starts : t.startsDisabled interface = t'.startsDisabled interface
  transceiver : ∀ transceiver, transceiverName interface t.vendor = .ok transceiver →
    t.components.find? (·.name = transceiver) = t'.components.find? (·.name = transceiver)
  driver : ∀ link, t.Drives link interface → t.startsDisabled link = t'.startsDisabled link

/-- The devices have the interface in like conditions, and the interface that drives the laser in
the same admin state. -/
structure Paired (t : Topology) (interface : String) (clock : Nat) (a : Interfaces) (clock' : Nat)
    (b : Interfaces) : Prop where
  own : ∃ s s', a interface = some s ∧ b interface = some s' ∧
    s.Like t.settleTime.toNat clock clock' s'
  driver : ∀ link, t.Drives link interface → (a link).map (·.enabled) = (b link).map (·.enabled)

variable {t t' : Topology} {interface : String}

theorem paired_ages (t : Topology) (interface : String) : Pairing.Ages (t.Paired interface) := by
  intro clock clock' a b ⟨⟨s, s', there, there', like⟩, driver⟩ millis
  exact ⟨⟨s, s', there, there', like.later millis⟩, driver⟩

theorem boot_eq_of_declares {name : String} (declared : t.declares name = true) :
    t.boot name = some { enabled := !t.startsDisabled name } := by
  obtain ⟨spec, last, boot⟩ := t.boot_of_declares declared
  rw [boot, startsDisabled, last, Option.any_some, Bool.not_not]

theorem AgreeAround.component (agree : t.AgreeAround t' interface) {transceiver : String}
    (named : transceiverName interface t.vendor = .ok transceiver) :
    t.component transceiver = t'.component transceiver := by
  rw [Topology.component, Topology.component, agree.transceiver transceiver named]

theorem samples_congr_of_component {name : String}
    (same : t.component name = t'.component name) (interfaces : Interfaces) (leaf : Leaf) :
    t.samples interfaces leaf name = t'.samples interfaces leaf name := by
  rw [samples, samples, same]

/-- Freshly built devices are paired. -/
theorem AgreeAround.paired_boot (agree : t.AgreeAround t' interface) (valid : t.dangling? = none)
    (valid' : t'.dangling? = none) (declared : t.declares interface = true)
    (declared' : t'.declares interface = true) (start start' : Nat) :
    t.Paired interface start t.boot start' t'.boot := by
  refine ⟨⟨_, _, boot_eq_of_declares declared, boot_eq_of_declares declared', ?_⟩, ?_⟩
  · rw [agree.starts]
    exact ⟨rfl, fun millis => rfl⟩
  · rintro link ⟨transceiver, spec, named, first, linked⟩
    have first' := (agree.transceiver transceiver named).symm.trans first
    have known := declares_of_link valid (List.mem_of_find?_eq_some first) linked
    have known' := declares_of_link valid' (List.mem_of_find?_eq_some first') linked
    rw [boot_eq_of_declares known, boot_eq_of_declares known',
      agree.driver link ⟨transceiver, spec, named, first, linked⟩]

/-- What a write makes of an interface's admin state. -/
theorem admin_replace (t : Topology) (config : InterfaceConfig) (clock : Nat)
    (interfaces : Interfaces) (name : String) :
    ((t.device.replace config clock interfaces).state name).map (·.enabled) =
      ((interfaces name).map (·.enabled)).map fun admin =>
        if config.name = name then config.enabled else admin := by
  change ((t.replace config clock interfaces).state name).map (·.enabled) = _
  rw [state_replace_apply, Option.map_map]
  by_cases written : config.name = name
  · simp [written, Function.comp_def]
  · simp [written, Function.comp_def]

/-- A write to the interface leaves paired devices paired. -/
theorem AgreeAround.replace_matches (agree : t.AgreeAround t' interface) (enabled : Bool) :
    Query.Matches (t.Paired interface) (t.device.replace { name := interface, enabled })
      (t'.device.replace { name := interface, enabled }) := by
  intro clock clock' a b ⟨⟨s, s', there, there', like⟩, driver⟩
  refine ⟨?_, ?_, ⟨?_, fun link drives => ?_⟩⟩
  · rw [replace_simulated clock there, replace_simulated clock' there']
  · rw [replace_simulated clock there, replace_simulated clock' there']
  · rw [replace_simulated clock there, replace_simulated clock' there', ← agree.settleTime]
    exact ⟨_, _, if_pos rfl, if_pos rfl, like.set enabled⟩
  · rw [admin_replace, admin_replace, driver link drives]

theorem AgreeAround.answerAlike (agree : t.AgreeAround t' interface) :
    Device.AnswerAlike (t.Paired interface) interface t.device t'.device := by
  refine ⟨agree.vendor, agree.replace_matches, ?_, fun transceiver named => ?_,
    fun transceiver named leaf => ?_⟩
  · intro clock clock' a b paired
    obtain ⟨s, s', there, there', like⟩ := paired.own
    rw [operStatus_simulated clock there, operStatus_simulated clock' there', ← agree.settleTime]
    exact ⟨congrArg Except.ok like.status, rfl, paired⟩
  · intro clock clock' a b paired
    exact ⟨congrArg (Functor.map _) (agree.component named), rfl, paired⟩
  · intro clock clock' a b paired
    refine ⟨?_, rfl, paired⟩
    refine (samples_congr_of_laserOff fun _ spec first => ?_).trans
      (samples_congr_of_component (agree.component named) b leaf)
    exact laserOff_of_admin fun link linked =>
      paired.driver link ⟨transceiver, spec, named, first, linked⟩

end Topology

namespace PowerUpdate

/-- Nothing about a topology matters to a power update but what `AgreeAround` names: on freshly
built devices of two topologies that agree on that, every check of the same cases says the same and
takes the same time. -/
theorem check_local {text text' : String} {t t' : Topology}
    (accepted : Topology.ofDocument text = .ok t) (accepted' : Topology.ofDocument text' = .ok t')
    {config : Config} {interface : String} (mapped : t.ports.get? config.port = some interface)
    (mapped' : t'.ports.get? config.port = some interface)
    (agree : t.AgreeAround t' interface) (cases : List Case) (start start' : Nat) :
    let out := check t.device config cases start t.boot
    let out' := check t'.device config cases start' t'.boot
    out.value = out'.value ∧
      ∃ millis, out.clock = start + millis ∧ out'.clock = start' + millis := by
  intro out out'
  have valid := Topology.valid_of_ofDocument accepted
  have valid' := Topology.valid_of_ofDocument accepted'
  have paired := agree.paired_boot valid valid' (Topology.declares_of_get? valid mapped)
    (Topology.declares_of_get? valid' mapped') start start'
  have alike := check_lockstep (t.paired_ages interface) agree.answerAlike
    (t.port_eq_ok_iff.mpr mapped) (t'.port_eq_ok_iff.mpr mapped') cases _ _ _ _ paired
  exact ⟨alike.value, alike.takes⟩

/-- A topology that agrees with `crossLinked` around the interface `i` and has nothing else in
common with it: there are other ports, interfaces and components, and what both have is in another
order. -/
def crowded : Topology where
  name := "other"
  model := "another"
  vendor := .cisco
  ports := (PortMap.empty.insert "port1" "i").insert "port0" "k"
  interfaces := [{ name := "i" }, { name := "k" }, { name := "j", enabled := false },
    { name := "i", enabled := false }]
  components := { name := "fan", kind := .fan } :: crossLinked.components.take 1
  settleTime := 10

theorem agreeAround_crowded : crossLinked.AgreeAround crowded "i" where
  vendor := rfl
  settleTime := rfl
  starts := by decide
  transceiver := by
    intro transceiver named
    obtain rfl := Except.ok.inj named
    rfl
  driver := by
    rintro link ⟨transceiver, spec, named, first, linked⟩
    obtain rfl := Except.ok.inj named
    obtain rfl := Option.some.inj first
    obtain rfl := Option.some.inj linked
    decide

theorem check_local_of_crowded :
    let config : Config := { timeout := 12, poll := 4 }
    let out := check crossLinked.device config Case.defaults 7 crossLinked.boot
    let out' := check crowded.device config Case.defaults 1000 crowded.boot
    Topology.ofDocument crossLinked.document = .ok crossLinked ∧
    Topology.ofDocument crowded.document = .ok crowded ∧
    crossLinked.ports.get? config.port = some "i" ∧ crowded.ports.get? config.port = some "i" ∧
    crossLinked.AgreeAround crowded "i" ∧ out.value = out'.value ∧
    ∃ millis, out.clock = 7 + millis ∧ out'.clock = 1000 + millis := by
  intro config out out'
  have accepted : Topology.ofDocument crowded.document = .ok crowded :=
    Topology.ofDocument_document ⟨by decide, by decide +kernel⟩
  have mapped : crossLinked.ports.get? config.port = some "i" := by decide
  have mapped' : crowded.ports.get? config.port = some "i" := by decide
  obtain ⟨value, takes⟩ := check_local ofDocument_crossLinked accepted mapped mapped'
    agreeAround_crowded Case.defaults 7 1000
  exact ⟨ofDocument_crossLinked, accepted, mapped, mapped', agreeAround_crowded, value, takes⟩

end PowerUpdate
end OpticsCheck
