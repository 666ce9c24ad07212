import OpticsCheck.Proofs.Device.Debounce
import OpticsCheck.Proofs.Device.Faults

/-!
# What the lasers report

The powers that a component receives and its bias currents are the topology's, whatever happens. The
power that it emits follows the admin state of the interface that it is linked to: the last write
counts, from the moment at which it is made, and the last declaration as long as there is none. The
settle time and the status play no part in it.
-/

namespace OpticsCheck

/-- What the channels report as input power. -/
def ComponentSpec.received (spec : ComponentSpec) : List Binary64 :=
  spec.channels.filterMap (·.inputPower)

/-- What the channels report as output power while the laser is dark, or while it is not. -/
def ComponentSpec.emitted (spec : ComponentSpec) (dark : Bool) : List Binary64 :=
  spec.channels.filterMap fun channel =>
    channel.outputPower.map fun power => if dark then spec.darkPower else power

namespace Topology

/-- Whether the interface is disabled to begin with: its last declaration counts. -/
def startsDisabled (t : Topology) (interface : String) : Bool :=
  (t.interfaces.filter (·.name = interface)).getLast?.any (!·.enabled)

/-- Whether a session leaves the component's laser dark. -/
def darkAfter (t : Topology) (requests : List Request) (start : Nat) (spec : ComponentSpec) :
    Bool :=
  match spec.interface with
  | none => false
  | some link => match (t.device.writesTo link requests start t.boot).getLast? with
    | none => t.startsDisabled link
    | some w => !w.enabled

variable {t : Topology} {interfaces : Interfaces} {name link : String} {spec : ComponentSpec}
  {s : InterfaceState}

theorem component_of_find? (first : t.components.find? (·.name = name) = some spec) :
    t.component name = .ok spec := by
  rw [component, first]

/-- The laser of a linked component is dark while its interface is disabled. -/
theorem laserOff_of_linked (linked : spec.interface = some link)
    (there : interfaces link = some s) : laserOff interfaces spec = .ok !s.enabled := by
  simp [laserOff, linked, interface, there, bind, Except.bind, pure, Except.pure]

theorem outputPowers_of_laserOff (first : t.components.find? (·.name = name) = some spec)
    {dark : Bool} (off : laserOff interfaces spec = .ok dark) :
    t.samples interfaces .outputPower name = .ok (spec.emitted dark) := by
  rw [samples, component_of_find? first]
  simp only [bind, Except.bind, off]
  cases dark with
  | true => rfl
  | false => simp [ComponentSpec.emitted, pure, Except.pure]

theorem value_serve_samples (leaf : Leaf) (now : Nat) :
    (t.device.serve (.samples leaf name) now interfaces).value =
      .samples <$> t.samples interfaces leaf name := rfl

theorem laserOff_serveAll (linked : ∀ link, spec.interface = some link → t.declares link = true)
    (requests : List Request) (start : Nat) :
    laserOff (t.device.serveAll requests start t.boot).state spec =
      .ok (t.darkAfter requests start spec) := by
  cases is : spec.interface with
  | none => simp [laserOff, darkAfter, is]
  | some link =>
    obtain ⟨last, declared, boot⟩ := t.boot_of_declares (linked link is)
    rw [laserOff_of_linked is (state_serveAll_at start boot requests), darkAfter, is]
    simp only [(InterfaceState.after_boot _ _ _).1, Write.admin, startsDisabled, declared]
    cases (t.device.writesTo link requests start t.boot).getLast? <;> rfl

/-- A component reports the powers that it receives and its bias currents alike in all states that a
session reaches. The power that it emits is dark exactly while the last write to its interface, or
the last declaration where there is no write, disables that; a further write tells at once. -/
theorem samples_after_session {text : String} {t : Topology}
    (accepted : ofDocument text = .ok t) {name : String} (known : t.hasComponent name = true)
    (requests : List Request) (start : Nat) :
    ∃ spec, t.components.find? (·.name = name) = some spec ∧
      let out := t.device.serveAll requests start t.boot
      let answer (leaf : Leaf) (now : Nat) (state : Interfaces) :=
        (t.device.serve (.samples leaf name) now state).value
      (∀ now, answer .outputPower now out.state =
        .ok (.samples (spec.emitted (t.darkAfter requests start spec)))) ∧
      (∀ now, answer .inputPower now out.state = .ok (.samples spec.received)) ∧
      (∀ now, answer .biasCurrent now out.state =
        .ok (.samples (spec.channels.filterMap (·.biasCurrent)))) ∧
      ∀ link enabled now later, spec.interface = some link →
        let written := t.device.serve (.replace { name := link, enabled }) now out.state
        answer .outputPower later written.state = .ok (.samples (spec.emitted !enabled)) := by
  have found : (t.components.find? (·.name = name)).isSome = true := List.isSome_find?.trans known
  obtain ⟨spec, first⟩ := Option.isSome_iff_exists.mp found
  have linked : ∀ link, spec.interface = some link → t.declares link = true := fun link is =>
    declares_of_link (valid_of_ofDocument accepted) (List.mem_of_find?_eq_some first) is
  refine ⟨spec, first, ?_⟩
  intro out answer
  refine ⟨fun now => ?_, fun now => ?_, fun now => ?_, fun link enabled now later is => ?_⟩
  · simp only [answer, value_serve_samples]
    rw [outputPowers_of_laserOff first (laserOff_serveAll linked requests start)]
    rfl
  · simp only [answer, value_serve_samples, samples, component_of_find? first]
    rfl
  · simp only [answer, value_serve_samples, samples, component_of_find? first]
    rfl
  · obtain ⟨last, -, boot⟩ := t.boot_of_declares (linked link is)
    have there : out.state link = some _ := state_serveAll_at start boot requests
    intro written
    have told : written.state link = some _ :=
      state_serve_at now there (.replace { name := link, enabled })
    have off : laserOff written.state spec = .ok !enabled := by
      rw [laserOff_of_linked is told]
      simp [Request.writeTo?, InterfaceState.after]
    simp only [answer, value_serve_samples]
    rw [outputPowers_of_laserOff first off]
    rfl

/-- The laser is lit at the moment at which its interface is enabled, although the interface goes on
showing that it is down for as long as a settle time can be. -/
theorem samples_after_session_of_awkward :
    let requests : List Request := [.replace { name := "i" }]
    let out := awkward.device.serveAll requests 0 awkward.boot
    ofDocument awkward.document = .ok awkward ∧ awkward.hasComponent "c" = true ∧
    (awkward.device.serve (.samples .outputPower "c") out.clock out.state).value =
      .ok (.samples [.ofDecimal false 63 (-1)]) ∧
    (awkward.device.serve (.status "i") out.clock out.state).value = .ok (.status .down) := by
  intro requests out
  have accepted : ofDocument awkward.document = .ok awkward := ofDocument_document printable_awkward
  have known : awkward.hasComponent "c" = true := by decide
  obtain ⟨spec, first, emitted, -⟩ := samples_after_session accepted known requests 0
  obtain rfl := Option.some.inj first
  exact ⟨accepted, known, emitted out.clock, rfl⟩

end Topology
end OpticsCheck
