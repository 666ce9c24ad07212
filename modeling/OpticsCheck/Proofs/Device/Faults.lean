import OpticsCheck.Proofs.Device.Noninterference
import OpticsCheck.Proofs.Topology.RoundTrip
import OpticsCheck.Proofs.Topology.Validity

/-!
# Which requests fail

A write changes what is known of an interface and never adds or removes one, so in every state that
a session reaches exactly the declared interfaces are known. The links of a valid topology all lead
to declared interfaces. So a request fails only for a name in it that the topology does not have,
whatever the state, and a request that fails leaves no trace in the answers to later ones.
-/

namespace OpticsCheck

/-- What went wrong, if something did. -/
def faultOf {α : Type} : Except Fault α → Option Fault
  | .ok _ => none
  | .error fault => some fault

theorem faultOf_map {α β : Type} (f : α → β) (answer : Except Fault α) :
    faultOf (f <$> answer) = faultOf answer := by
  cases answer <;> rfl

theorem faultOf_eq_some_iff {α : Type} {answer : Except Fault α} {fault : Fault} :
    faultOf answer = some fault ↔ answer = .error fault := by
  cases answer <;> simp [faultOf]

def Request.isWait : Request → Bool
  | .await _ => true
  | _ => false

/-- The same interfaces are known in both states. -/
def Interfaces.SameNames (a b : Interfaces) : Prop := ∀ name, (a name).isSome = (b name).isSome

def Stretch.SameNames : Stretch Interfaces := fun _ before _ _ after => after.SameNames before

theorem Stretch.sameNames_composes : SameNames.Composes where
  empty _ _ _ := rfl
  append first second name := (second name).trans (first name)

namespace Topology

def maps (t : Topology) (port : String) : Bool := t.ports.entries.any fun entry => entry.1 = port

def hasComponent (t : Topology) (name : String) : Bool :=
  t.components.any fun spec => spec.name = name

/-- The fault that the topology foretells for a request; what comes of a wait is up to the time as
well. -/
def fault? (t : Topology) : Request → Option Fault
  | .port id => if t.maps id then none else some (.unknownPort id)
  | .mfgName component | .samples _ component | .readings component =>
    if t.hasComponent component then none else some (.unknownComponent component)
  | .status interface =>
    if t.declares interface then none else some (.unknownInterface interface)
  | .replace config =>
    if t.declares config.name then none else some (.unknownInterface config.name)
  | .identity | .find _ | .await _ | .advance _ => none

/-- Exactly the declared interfaces are known. -/
def Covers (t : Topology) (interfaces : Interfaces) : Prop :=
  ∀ name, (interfaces name).isSome = t.declares name

theorem Covers.sameNames {t : Topology} {a b : Interfaces} (here : t.Covers a)
    (there : t.Covers b) : a.SameNames b :=
  fun name => (here name).trans (there name).symm

theorem covers_boot (t : Topology) : t.Covers t.boot := by
  intro name
  cases declared : t.declares name with
  | true =>
    obtain ⟨spec, -, there⟩ := t.boot_of_declares declared
    rw [there]
    rfl
  | false =>
    have missing : t.interfaces.reverse.find? (·.name = name) = none := by
      refine List.find?_eq_none.mpr fun spec mem => ?_
      exact List.any_eq_false.mp declared spec (List.mem_reverse.mp mem)
    rw [boot, missing]
    rfl

theorem sameNames_replace (t : Topology) (config : InterfaceConfig) :
    Run.Along .SameNames (t.device.runReplace config) := by
  intro clock interfaces name
  change ((t.replace config clock interfaces).state name).isSome = _
  rw [state_replace_apply]
  by_cases written : config.name = name
  · rw [if_pos written, Option.isSome_map]
  · rw [if_neg written]

/-- No request adds or removes an interface. -/
theorem sameNames_serve (t : Topology) (request : Request) :
    Run.Along .SameNames (t.device.serve request) := by
  refine t.device.along_serve Stretch.sameNames_composes request (fun _ _ _ _ => rfl)
    (fun _ _ _ _ => rfl) (fun _ _ _ _ _ => rfl) (fun _ _ _ _ => rfl)
    (fun config _ => t.sameNames_replace config) (fun w clock interfaces name => ?_)
    (fun _ _ _ _ => rfl)
  rw [t.keeps_wait w clock interfaces]

theorem covers_serveAll {t : Topology} {interfaces : Interfaces} (covers : t.Covers interfaces)
    (requests : List Request) (clock : Nat) :
    t.Covers (t.device.serveAll requests clock interfaces).state := by
  have kept : Run.Along .SameNames (t.device.serveAll requests) :=
    .mapM Stretch.sameNames_composes fun request _ => t.sameNames_serve request
  intro name
  exact (kept clock interfaces name).trans (covers name)

section Told

variable {t : Topology} {interfaces : Interfaces} {name : String}

theorem maps_eq_isSome (t : Topology) (id : String) : t.maps id = (t.ports.get? id).isSome := by
  cases found : t.ports.get? id with
  | none =>
    refine List.any_eq_false.mpr fun entry mem same => ?_
    have other := List.lookup_eq_none_iff.mp found entry mem
    simp only [decide_eq_true_eq] at same
    simp [same] at other
  | some interface =>
    obtain ⟨before, after, entries, -⟩ := List.lookup_eq_some_iff.mp found
    refine List.any_eq_true.mpr ⟨(id, interface), ?_, decide_eq_true rfl⟩
    rw [entries]
    exact List.mem_append_right before List.mem_cons_self

theorem faultOf_port (t : Topology) (id : String) :
    faultOf (t.device.port id) = t.fault? (.port id) := by
  simp only [fault?, maps_eq_isSome, device]
  cases t.ports.get? id <;> rfl

theorem faultOf_component (t : Topology) (name : String) :
    faultOf (t.component name) =
      if t.hasComponent name then none else some (.unknownComponent name) := by
  have found : t.hasComponent name = (t.components.find? (·.name = name)).isSome :=
    List.isSome_find?.symm
  unfold component
  rw [found]
  cases t.components.find? (·.name = name) <;> rfl

theorem faultOf_interface (covers : t.Covers interfaces) (name : String) :
    faultOf (interface interfaces name) =
      if t.declares name then none else some (.unknownInterface name) := by
  unfold interface
  rw [← covers name]
  cases interfaces name <;> rfl

/-- The link of a component of a valid topology leads to an interface that is known. -/
theorem laserOff_known (valid : t.dangling? = none) (covers : t.Covers interfaces)
    {spec : ComponentSpec} (mem : spec ∈ t.components) :
    ∃ off, laserOff interfaces spec = .ok off := by
  unfold laserOff
  cases linked : spec.interface with
  | none => exact ⟨false, rfl⟩
  | some link =>
    have known : (interfaces link).isSome = true :=
      (covers link).trans (declares_of_link valid mem linked)
    obtain ⟨s, there⟩ := Option.isSome_iff_exists.mp known
    exact ⟨!s.enabled, by simp [interface, there]⟩

/-- Samples are read of every component. -/
theorem faultOf_samples (valid : t.dangling? = none) (covers : t.Covers interfaces) (leaf : Leaf)
    (name : String) : faultOf (t.samples interfaces leaf name) = faultOf (t.component name) := by
  unfold samples component
  cases found : t.components.find? (·.name = name) with
  | none => rfl
  | some spec =>
    cases leaf with
    | inputPower => rfl
    | biasCurrent => rfl
    | outputPower =>
      obtain ⟨off, known⟩ := laserOff_known valid covers (List.mem_of_find?_eq_some found)
      simp only [bind, Except.bind, known]
      cases off <;> rfl

theorem faultOf_readings (valid : t.dangling? = none) (covers : t.Covers interfaces)
    (name : String) (clock : Nat) :
    faultOf (t.device.runReadings name clock interfaces).value = faultOf (t.component name) := by
  have read (leaf : Leaf) := faultOf_samples valid covers leaf name
  rw [(readings_simulated t name clock interfaces).1]
  cases found : t.component name with
  | error fault =>
    have failed := faultOf_eq_some_iff.mp ((read .inputPower).trans (congrArg faultOf found))
    rw [failed]
    rfl
  | ok spec =>
    have done (leaf : Leaf) : ∃ samples, t.samples interfaces leaf name = .ok samples := by
      have fine := (read leaf).trans (congrArg faultOf found)
      cases answer : t.samples interfaces leaf name with
      | ok samples => exact ⟨samples, rfl⟩
      | error fault => rw [answer] at fine; cases fine
    obtain ⟨inputs, readInputs⟩ := done .inputPower
    obtain ⟨outputs, readOutputs⟩ := done .outputPower
    obtain ⟨currents, readCurrents⟩ := done .biasCurrent
    rw [readInputs, readOutputs, readCurrents]
    rfl

/-- In a state in which the declared interfaces are known, a request comes to the fault that the
topology foretells. -/
theorem faultOf_serve (valid : t.dangling? = none) (covers : t.Covers interfaces)
    {request : Request} (noWait : request.isWait = false) (clock : Nat) :
    faultOf (t.device.serve request clock interfaces).value = t.fault? request := by
  cases request with
  | identity => rfl
  | find kind => rfl
  | advance millis => rfl
  | await w => exact Bool.noConfusion noWait
  | port id => exact (faultOf_map _ _).trans (t.faultOf_port id)
  | mfgName component =>
    have named : faultOf ((·.mfgName) <$> t.component component) = _ := faultOf_map _ _
    exact (faultOf_map _ _).trans (named.trans (t.faultOf_component component))
  | samples leaf component =>
    have read := faultOf_samples valid covers leaf component
    exact (faultOf_map _ _).trans (read.trans (t.faultOf_component component))
  | readings component =>
    have read := faultOf_readings valid covers component clock
    exact (faultOf_map _ _).trans (read.trans (t.faultOf_component component))
  | status name =>
    have shown : faultOf ((·.status t.settleTime.toNat clock) <$> interface interfaces name) = _ :=
      faultOf_map _ _
    exact (faultOf_map _ _).trans (shown.trans (faultOf_interface covers name))
  | replace config =>
    have written : faultOf (t.replace config clock interfaces).answer = _ :=
      (congrArg faultOf (answer_replace t config clock interfaces)).trans (faultOf_map _ _)
    exact (faultOf_map _ _).trans (written.trans (faultOf_interface covers config.name))

/-- A request that fails takes no time and leaves the state alone. -/
theorem unchanged_of_error {request : Request} (noWait : request.isWait = false) {clock : Nat}
    {fault : Fault} (failed : (t.device.serve request clock interfaces).value = .error fault) :
    (t.device.serve request clock interfaces).clock = clock ∧
      (t.device.serve request clock interfaces).state = interfaces := by
  cases request with
  | await w => exact Bool.noConfusion noWait
  | advance millis => cases failed
  | readings component =>
    exact ⟨(readings_simulated t component clock interfaces).2,
      t.state_serve (fun _ is => by cases is) clock interfaces⟩
  | replace config =>
    refine ⟨clock_serve_replace t config clock interfaces, ?_⟩
    change (t.replace config clock interfaces).state = interfaces
    have answered : faultOf (t.replace config clock interfaces).answer = some fault :=
      (faultOf_map _ _).symm.trans (faultOf_eq_some_iff.mpr failed)
    rw [answer_replace, faultOf_map, faultOf_eq_some_iff] at answered
    rw [replace, answered]
  | _ => exact ⟨rfl, rfl⟩

end Told

/-- Which requests fail on the simulated device of a valid topology, and with which fault, is told
by the topology alone, whatever session came before: a port, component or interface that it does not
have. The interface behind a port can be read and written, and every component that is found can be
read. Later answers are as if a request that failed had not been made. -/
theorem faults_told_by_topology {text : String} {t : Topology}
    (accepted : ofDocument text = .ok t) (requests : List Request) (start : Nat) :
    let out := t.device.serveAll requests start t.boot
    let served (request : Request) := t.device.serve request out.clock out.state
    (∀ request, request.isWait = false →
      faultOf (served request).value = t.fault? request) ∧
    (∀ id interface, (served (.port id)).value = .ok (.port interface) →
      faultOf (served (.status interface)).value = none ∧
      ∀ enabled, faultOf (served (.replace { name := interface, enabled })).value = none) ∧
    (∀ kind names, (served (.find kind)).value = .ok (.names names) → ∀ name ∈ names,
      faultOf (served (.mfgName name)).value = none ∧
      (∀ leaf, faultOf (served (.samples leaf name)).value = none) ∧
      faultOf (served (.readings name)).value = none) ∧
    ∀ request fault, request.isWait = false → (served request).value = .error fault →
      ∀ later,
        let rest := (t.device.serveAll later out.clock out.state).value
        (t.device.serveAll (requests ++ request :: later) start t.boot).value =
          out.value ++ .error fault :: rest ∧
        (t.device.serveAll (requests ++ later) start t.boot).value = out.value ++ rest := by
  intro out served
  have valid := valid_of_ofDocument accepted
  have covers : t.Covers out.state := covers_serveAll t.covers_boot requests start
  have told {request : Request} (noWait : request.isWait = false) :
      faultOf (served request).value = t.fault? request :=
    faultOf_serve valid covers noWait out.clock
  refine ⟨fun request noWait => told noWait, ?_, ?_, ?_⟩
  · intro id interface answered
    have declared : t.declares interface = true := by
      change Answer.port <$> t.device.port id = _ at answered
      cases found : t.device.port id with
      | error fault => rw [found] at answered; cases answered
      | ok behind =>
        rw [found] at answered
        cases answered
        exact declares_of_get? valid (t.port_eq_ok_iff.mp found)
    constructor
    · rw [told rfl]
      exact if_pos declared
    · intro enabled
      rw [told rfl]
      exact if_pos declared
  · intro kind names found name mem
    have has : t.hasComponent name = true := by
      obtain rfl : (t.components.filter (·.kind = kind)).map (·.name) = names :=
        Answer.names.inj (Except.ok.inj found)
      obtain ⟨spec, inside, named⟩ := List.mem_map.mp mem
      exact List.any_eq_true.mpr ⟨spec, List.mem_of_mem_filter inside, decide_eq_true named⟩
    refine ⟨?_, fun leaf => ?_, ?_⟩
    all_goals
      rw [told rfl]
      exact if_pos has
  · intro request fault noWait failed later rest
    obtain ⟨instant, kept⟩ := unchanged_of_error noWait failed
    have split (requests' : List Request) :
        (t.device.serveAll (requests ++ requests') start t.boot).value =
          out.value ++ (t.device.serveAll requests' out.clock out.state).value :=
      t.device.value_serveAll_append requests requests' start t.boot
    refine ⟨?_, split later⟩
    rw [split, Device.value_serveAll_cons, failed, instant, kept]

/-- The component that is declared twice can be read although its interface was disabled, one that
is not declared cannot, and a write to an interface that is not declared leaves no trace. -/
theorem faults_told_by_topology_of_awkward :
    let requests : List Request := [.replace { name := "i" }, .advance 3]
    let out := awkward.device.serveAll requests 0 awkward.boot
    let served (request : Request) := awkward.device.serve request out.clock out.state
    let later : List Request := [.status "i", .samples .outputPower "c"]
    let rest := (awkward.device.serveAll later out.clock out.state).value
    ofDocument awkward.document = .ok awkward ∧
    faultOf (served (.readings "c")).value = none ∧
    faultOf (served (.readings "d")).value = some (.unknownComponent "d") ∧
    (awkward.device.serveAll (requests ++ .replace { name := "j" } :: later) 0 awkward.boot).value =
      out.value ++ .error (.unknownInterface "j") :: rest := by
  intro requests out served later rest
  have accepted : ofDocument awkward.document = .ok awkward := ofDocument_document printable_awkward
  obtain ⟨told, -, -, unnoticed⟩ := faults_told_by_topology accepted requests 0
  have failed : (served (.replace { name := "j" })).value = .error (.unknownInterface "j") :=
    faultOf_eq_some_iff.mp (told (.replace { name := "j" }) rfl)
  exact ⟨accepted, told (.readings "c") rfl, told (.readings "d") rfl,
    (unnoticed _ _ rfl failed later).1⟩

end Topology
end OpticsCheck
