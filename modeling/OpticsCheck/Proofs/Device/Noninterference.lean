import OpticsCheck.Proofs.Device.Simulated
import OpticsCheck.Proofs.Run.Sequence

/-!
# Interfaces do not interfere

All interfaces live in one state, and a component reads that state through its link. Two states that
agree outside some interfaces give the same answers to every request that asks about none of these,
and a write to one of them keeps the agreement whether it is made or left out. So writes can be
deleted from a session unnoticed by whoever asks about other interfaces only.
-/

namespace OpticsCheck

/-- The states differ at most at the interfaces called `names`. -/
def Interfaces.AgreeOff (names : List String) (a b : Interfaces) : Prop :=
  ∀ name, name ∉ names → a name = b name

namespace Topology

/-- The first component of that name is linked to none of the interfaces called `names`. -/
def LinkedOff (t : Topology) (names : List String) (component : String) : Prop :=
  ∀ spec, t.components.find? (·.name = component) = some spec →
    ∀ link, spec.interface = some link → link ∉ names

/-- A request that asks about none of the interfaces called `names`. -/
def Spares (t : Topology) (names : List String) : Request → Prop
  | .status interface => interface ∉ names
  | .replace config => config.name ∉ names
  | .await wait => wait.interface ∉ names
  | .samples .outputPower component => t.LinkedOff names component
  | .readings component => t.LinkedOff names component
  | _ => True

section Agreement

variable {t : Topology} {names : List String} {a b : Interfaces} {clock : Nat}

theorem state_replace_apply (t : Topology) (config : InterfaceConfig) (clock : Nat)
    (interfaces : Interfaces) (name : String) :
    (t.replace config clock interfaces).state name =
      if config.name = name then
        (interfaces name).map (·.set t.settleTime.toNat clock config.enabled)
      else interfaces name := by
  cases there : interfaces name with
  | some s =>
    rw [state_replace clock there]
    rfl
  | none =>
    by_cases same : config.name = name
    · subst same
      simp [replace, interface, there]
    · have other : name ≠ config.name := fun eq => same eq.symm
      cases found : interfaces config.name with
      | none => simp [replace, interface, found, there]
      | some s => simp [replace, interface, found, there, Interfaces.put, other]

theorem answer_replace (t : Topology) (config : InterfaceConfig) (clock : Nat)
    (interfaces : Interfaces) :
    (t.replace config clock interfaces).answer =
      (fun _ => ()) <$> interface interfaces config.name := by
  rw [replace]
  cases interface interfaces config.name with
  | error fault => rfl
  | ok s => rfl

theorem delay_replace (t : Topology) (config : InterfaceConfig) (clock : Nat)
    (interfaces : Interfaces) : (t.replace config clock interfaces).delay = 0 := by
  rw [replace]
  cases interface interfaces config.name with
  | error fault => rfl
  | ok s => rfl

theorem interface_congr {name : String} (same : a name = b name) :
    interface a name = interface b name := by
  rw [interface, interface, same]

/-- The same write keeps an agreement. -/
theorem agreeOff_replace (agree : a.AgreeOff names b) (config : InterfaceConfig) :
    (t.replace config clock a).state.AgreeOff names (t.replace config clock b).state := by
  intro name off
  rw [state_replace_apply, state_replace_apply, agree name off]

/-- A write to one of the interfaces that may differ keeps an agreement with a state in which it is
not made. -/
theorem agreeOff_of_deleted (agree : a.AgreeOff names b) {config : InterfaceConfig}
    (named : config.name ∈ names) : (t.replace config clock a).state.AgreeOff names b := by
  intro name off
  have other : config.name ≠ name := fun same => off (same ▸ named)
  rw [state_replace_apply, if_neg other, agree name off]

/-- A laser depends on the admin state of the interface that drives it. -/
theorem laserOff_of_admin {spec : ComponentSpec} (same : ∀ link, spec.interface = some link →
    (a link).map (·.enabled) = (b link).map (·.enabled)) : laserOff a spec = laserOff b spec := by
  unfold laserOff
  cases linked : spec.interface with
  | none => rfl
  | some link =>
    have admin := same link linked
    cases here : a link <;> cases there : b link <;> simp_all [interface]

theorem laserOff_congr (agree : a.AgreeOff names b) {spec : ComponentSpec}
    (off : ∀ link, spec.interface = some link → link ∉ names) :
    laserOff a spec = laserOff b spec :=
  laserOff_of_admin fun link linked => congrArg _ (agree link (off link linked))

/-- Only the output powers depend on the interfaces' state, and through the laser alone. -/
theorem samples_congr_of_laserOff {leaf : Leaf} {name : String}
    (same : leaf = .outputPower → ∀ spec, t.components.find? (·.name = name) = some spec →
      laserOff a spec = laserOff b spec) : t.samples a leaf name = t.samples b leaf name := by
  unfold samples component
  cases found : t.components.find? (·.name = name) with
  | none => rfl
  | some spec =>
    cases leaf with
    | inputPower => rfl
    | biasCurrent => rfl
    | outputPower =>
      simp only [bind, Except.bind]
      rw [same rfl spec found]

theorem samples_congr (agree : a.AgreeOff names b) {leaf : Leaf} {name : String}
    (off : leaf = .outputPower → t.LinkedOff names name) :
    t.samples a leaf name = t.samples b leaf name :=
  samples_congr_of_laserOff fun output spec found => laserOff_congr agree (off output spec found)

theorem answer_operStatus_congr {name : String} (same : a name = b name) (clock : Nat) :
    (t.device.operStatus name clock a).answer = (t.device.operStatus name clock b).answer :=
  congrArg (Functor.map _) (interface_congr same)

/-- A wait depends on the state of its own interface alone. -/
theorem goOn_congr {w : Wait} (same : a w.interface = b w.interface) (left : Nat)
    (lastSeen : Option OperStatus) (past past' : List Mark) (clock : Nat) :
    (w.goOn t.device left lastSeen past clock a).value =
        (w.goOn t.device left lastSeen past' clock b).value ∧
      (w.goOn t.device left lastSeen past clock a).clock =
        (w.goOn t.device left lastSeen past' clock b).clock := by
  have asked := answer_operStatus_congr (t := t) same
  induction left using Nat.strongRecOn generalizing lastSeen past past' clock with
  | ind left ih =>
    by_cases decides : (w.reads w.pause t.device clock a 0).Decides w.expected
    · have decides' : (w.reads w.pause t.device clock b 0).Decides w.expected := by
        intro status answer
        exact decides status ((asked clock).trans answer)
      rw [Wait.goOn_of_decides lastSeen past (Nat.zero_le left) decides,
        Wait.goOn_of_decides lastSeen past' (Nat.zero_le left) decides']
      exact ⟨asked clock, rfl⟩
    · obtain ⟨status, answer, other⟩ := Read.not_decides_iff.mp decides
      have answer' : (t.device.operStatus w.interface clock b).answer = .ok status :=
        (asked clock).symm.trans answer
      have instant (interfaces : Interfaces) :
          (t.device.operStatus w.interface clock interfaces).delay = 0 := rfl
      have kept (interfaces : Interfaces) :
          (t.device.operStatus w.interface clock interfaces).state = interfaces := rfl
      rw [Wait.goOn_of_other lastSeen past (Nat.zero_le left) answer other,
        Wait.goOn_of_other lastSeen past' (Nat.zero_le left) answer' other]
      simp only [instant, kept, Nat.zero_add]
      by_cases short : left < w.pause
      · simp only [if_pos short, and_self]
      · have positive := w.pause_pos
        simp only [if_neg short]
        exact ih (left - w.pause) (by omega) (some status) _ _ (clock + w.pause)

theorem readings_simulated (t : Topology) (name : String) (clock : Nat) (interfaces : Interfaces) :
    (t.device.runReadings name clock interfaces).value =
        (do
          let inputPowers ← t.samples interfaces .inputPower name
          let outputPowers ← t.samples interfaces .outputPower name
          let biasCurrents ← t.samples interfaces .biasCurrent name
          return { inputPowers, outputPowers, biasCurrents }) ∧
      (t.device.runReadings name clock interfaces).clock = clock := by
  have read (leaf : Leaf) (clock : Nat) : t.device.runSamples leaf name clock interfaces =
      { value := t.samples interfaces leaf name, clock, state := interfaces
        trace := [.called (.samples leaf name)] } := rfl
  unfold Device.runReadings
  simp only [ExceptT.run_bind, Run.value_bind, Run.clock_bind, ExceptT.run_mk, read]
  cases t.samples interfaces .inputPower name with
  | error fault => exact ⟨rfl, rfl⟩
  | ok inputPowers =>
    simp only [Run.value_bind, Run.clock_bind, read]
    cases t.samples interfaces .outputPower name with
    | error fault => exact ⟨rfl, rfl⟩
    | ok outputPowers =>
      simp only [Run.value_bind, Run.clock_bind, read]
      cases t.samples interfaces .biasCurrent name with
      | error fault => exact ⟨rfl, rfl⟩
      | ok biasCurrents => exact ⟨rfl, rfl⟩

/-- Requests keep an agreement. -/
theorem agreeOff_serve (agree : a.AgreeOff names b) (request : Request) (clock : Nat) :
    (t.device.serve request clock a).state.AgreeOff names
      (t.device.serve request clock b).state := by
  by_cases write : ∃ config, request = .replace config
  · obtain ⟨config, rfl⟩ := write
    exact agreeOff_replace agree config
  · have read : ∀ config, request ≠ .replace config := fun config is => write ⟨config, is⟩
    rw [t.state_serve read, t.state_serve read]
    exact agree

/-- A request that asks about none of the interfaces that may differ is answered alike. -/
theorem value_serve_congr (agree : a.AgreeOff names b) {request : Request}
    (spared : t.Spares names request) (clock : Nat) :
    (t.device.serve request clock a).value = (t.device.serve request clock b).value := by
  cases request with
  | replace config =>
    have answer : (t.replace config clock a).answer = (t.replace config clock b).answer := by
      rw [answer_replace, answer_replace, interface_congr (agree config.name spared)]
    exact congrArg (Functor.map _) answer
  | await w =>
    have ended := goOn_congr (t := t) (agree w.interface spared) w.timeout none [] [] clock
    exact congrArg (Functor.map _) ended.1
  | samples leaf name =>
    have same : t.samples a leaf name = t.samples b leaf name := by
      refine samples_congr agree fun output => ?_
      subst output
      exact spared
    exact congrArg (Functor.map _) same
  | readings name =>
    have same (leaf : Leaf) : t.samples a leaf name = t.samples b leaf name :=
      samples_congr agree fun _ => spared
    have read : (t.device.runReadings name clock a).value =
        (t.device.runReadings name clock b).value := by
      rw [(readings_simulated t name clock a).1, (readings_simulated t name clock b).1]
      simp only [same]
    exact congrArg (Functor.map _) read
  | status name =>
    have answer := answer_operStatus_congr (t := t) (agree name spared) clock
    exact congrArg (Functor.map _) answer
  | _ => rfl

/-- Only a wait takes a time that depends on the state. -/
theorem clock_serve_congr (agree : a.AgreeOff names b) {request : Request}
    (waits : ∀ w, request = .await w → w.interface ∉ names) (clock : Nat) :
    (t.device.serve request clock a).clock = (t.device.serve request clock b).clock := by
  cases request with
  | replace config =>
    have instant : (t.replace config clock a).delay = (t.replace config clock b).delay := by
      rw [delay_replace, delay_replace]
    exact congrArg (clock + ·) instant
  | await w =>
    have off := waits w rfl
    exact (goOn_congr (t := t) (agree w.interface off) w.timeout none [] [] clock).2
  | readings name =>
    have ends (interfaces : Interfaces) := (readings_simulated t name clock interfaces).2
    exact (ends a).trans (ends b).symm
  | _ => rfl

theorem clock_serve_replace (t : Topology) (config : InterfaceConfig) (clock : Nat)
    (interfaces : Interfaces) :
    (t.device.serve (.replace config) clock interfaces).clock = clock :=
  congrArg (clock + ·) (delay_replace t config clock interfaces)

end Agreement
end Topology

/-- A request of a session, and whether it stays when others are deleted. -/
structure Deletable where
  request : Request
  stays : Bool

namespace Deletable

/-- The interface that a deleted write names. -/
def deleted? (step : Deletable) : Option String :=
  match step.request with
  | .replace config => if step.stays then none else some config.name
  | _ => none

/-- The interfaces that the deleted writes of a session name. -/
def deleted (steps : List Deletable) : List String := steps.filterMap deleted?

/-- The session before anything is deleted. -/
def whole (steps : List Deletable) : List Request := steps.map (·.request)

/-- What is left of the session. -/
def left (steps : List Deletable) : List Request := (steps.filter (·.stays)).map (·.request)

theorem left_cons_of_stays {step : Deletable} (stays : step.stays = true) (steps : List Deletable) :
    left (step :: steps) = step.request :: left steps := by
  simp [left, stays]

theorem left_cons_of_deleted {step : Deletable} (goes : step.stays = false)
    (steps : List Deletable) : left (step :: steps) = left steps := by
  simp [left, goes]

/-- A step that stays is found behind those before it that stay. -/
theorem getElem?_left {steps : List Deletable} {k : Nat} {step : Deletable}
    (there : steps[k]? = some step) (stays : step.stays = true) :
    (left steps)[(left (steps.take k)).length]? = some step.request ∧
      (left steps).take (left (steps.take k)).length = left (steps.take k) := by
  obtain ⟨before, after, rfl, length⟩ : ∃ before after,
      steps = before ++ step :: after ∧ before.length = k := by
    obtain ⟨short, rfl⟩ := List.getElem?_eq_some_iff.mp there
    refine ⟨steps.take k, steps.drop (k + 1), ?_, List.length_take_of_le (Nat.le_of_lt short)⟩
    rw [List.getElem_cons_drop, List.take_append_drop]
  subst length
  have split : left (before ++ step :: after) = left before ++ step.request :: left after := by
    simp [left, stays]
  rw [split, List.take_left]
  exact ⟨by simp, List.take_left⟩

end Deletable

section Sessions

variable {σ : Type} (dut : Device σ) (request : Request) (rest : List Request) (clock : Nat)
  (state : σ)

theorem Device.clock_serveAll_cons :
    (dut.serveAll (request :: rest) clock state).clock =
      (dut.serveAll rest (dut.serve request clock state).clock
        (dut.serve request clock state).state).clock := by
  rw [serveAll_cons]
  simp only [bind_pure_comp, Run.clock_bind, Run.clock_map]

theorem Device.value_serveAll_cons :
    (dut.serveAll (request :: rest) clock state).value =
      (dut.serve request clock state).value ::
        (dut.serveAll rest (dut.serve request clock state).clock
          (dut.serve request clock state).state).value := by
  rw [serveAll_cons]
  simp only [bind_pure_comp, Run.value_bind, Run.value_map]

theorem Device.state_serveAll_cons :
    (dut.serveAll (request :: rest) clock state).state =
      (dut.serveAll rest (dut.serve request clock state).clock
        (dut.serve request clock state).state).state := by
  rw [serveAll_cons]
  simp only [bind_pure_comp, Run.state_bind, Run.state_map]

variable {request} {requests : List Request}

/-- A request is answered where the requests before it have left the device. -/
theorem Device.getElem?_value_serveAll {k : Nat} (there : requests[k]? = some request) :
    (dut.serveAll requests clock state).value[k]? =
      some (dut.serve request (dut.serveAll (requests.take k) clock state).clock
        (dut.serveAll (requests.take k) clock state).state).value := by
  have answered := Run.getElem?_value_mapM dut.serve requests clock state k
  rw [there] at answered
  exact answered

end Sessions

namespace Topology

variable {t : Topology}

/-- A session and what is left of it take the same time and end in agreement. -/
theorem agreeOff_serveAll {names : List String} {steps : List Deletable}
    (writes : ∀ step ∈ steps, step.stays = false →
      ∃ config, step.request = .replace config ∧ config.name ∈ names)
    (waits : ∀ step ∈ steps, ∀ w, step.request = .await w → w.interface ∉ names)
    (clock : Nat) {a b : Interfaces} (agree : a.AgreeOff names b) :
    let full := t.device.serveAll (Deletable.whole steps) clock a
    let rest := t.device.serveAll (Deletable.left steps) clock b
    full.clock = rest.clock ∧ full.state.AgreeOff names rest.state := by
  induction steps generalizing clock a b with
  | nil => exact ⟨rfl, agree⟩
  | cons step steps ih =>
    have writesLater : ∀ step ∈ steps, step.stays = false →
        ∃ config, step.request = .replace config ∧ config.name ∈ names :=
      fun other mem => writes other (List.mem_cons_of_mem step mem)
    have waitsLater : ∀ step ∈ steps, ∀ w, step.request = .await w → w.interface ∉ names :=
      fun other mem => waits other (List.mem_cons_of_mem step mem)
    have go := @ih writesLater waitsLater
    simp only [Deletable.whole, List.map_cons, Device.clock_serveAll_cons,
      Device.state_serveAll_cons]
    cases stays : step.stays with
    | true =>
      rw [Deletable.left_cons_of_stays stays, Device.clock_serveAll_cons,
        Device.state_serveAll_cons, ← clock_serve_congr agree (waits step List.mem_cons_self)]
      exact go _ (agreeOff_serve agree step.request clock)
    | false =>
      obtain ⟨config, is, named⟩ := writes step List.mem_cons_self stays
      rw [Deletable.left_cons_of_deleted stays, is, clock_serve_replace]
      exact go clock (agreeOff_of_deleted agree named)

/-- Writes to different interfaces commute. -/
theorem serveAll_replace_comm {first second : InterfaceConfig} (differ : first.name ≠ second.name)
    (clock : Nat) (interfaces : Interfaces) :
    let one := t.device.serveAll [.replace first, .replace second] clock interfaces
    let other := t.device.serveAll [.replace second, .replace first] clock interfaces
    one.value = other.value.reverse ∧ one.clock = other.clock ∧ one.state = other.state := by
  intro one other
  -- either write is answered as it was before the other one
  have answer {config config' : InterfaceConfig} (off : config'.name ≠ config.name) :
      (t.device.serve (.replace config') clock
        (t.device.serve (.replace config) clock interfaces).state).value =
      (t.device.serve (.replace config') clock interfaces).value := by
    have agree : (t.replace config clock interfaces).state.AgreeOff [config.name] interfaces :=
      agreeOff_of_deleted (fun _ _ => rfl) List.mem_cons_self
    have spared : t.Spares [config.name] (.replace config') := fun named =>
      off (List.mem_singleton.mp named)
    exact value_serve_congr agree spared clock
  have values : one.value = [(t.device.serve (.replace first) clock interfaces).value,
      (t.device.serve (.replace second) clock interfaces).value] := by
    simp only [one, Device.value_serveAll_cons, clock_serve_replace, answer differ.symm]
    rfl
  have values' : other.value = [(t.device.serve (.replace second) clock interfaces).value,
      (t.device.serve (.replace first) clock interfaces).value] := by
    simp only [other, Device.value_serveAll_cons, clock_serve_replace, answer differ]
    rfl
  refine ⟨?_, ?_, ?_⟩
  · rw [values, values']
    rfl
  · simp only [one, other, Device.clock_serveAll_cons, clock_serve_replace]
    rfl
  · funext name
    simp only [one, other, Device.state_serveAll_cons, clock_serve_replace]
    change (t.replace second clock (t.replace first clock interfaces).state).state name =
      (t.replace first clock (t.replace second clock interfaces).state).state name
    simp only [state_replace_apply]
    by_cases named : first.name = name
    · have off : second.name ≠ name := fun same => differ (named.trans same.symm)
      simp only [named, off, if_true, if_false]
    · simp only [named, if_false]

/-- Writes can be deleted from a session, and nobody notices who asks about other interfaces. Every
request that stays is answered as it was if it asks about none of the interfaces that the deleted
writes name; an output power asks about the interface that its component is linked to, and other
readings and look-ups ask about none. -/
theorem deleted_writes_unseen (t : Topology) (steps : List Deletable)
    (writes : ∀ step ∈ steps, step.stays = false → ∃ config, step.request = .replace config)
    (waits : ∀ step ∈ steps, ∀ w, step.request = .await w →
      w.interface ∉ Deletable.deleted steps)
    (clock : Nat) (interfaces : Interfaces) :
    let full := t.device.serveAll (Deletable.whole steps) clock interfaces
    let rest := t.device.serveAll (Deletable.left steps) clock interfaces
    (∀ (k : Nat) (step : Deletable), steps[k]? = some step → step.stays = true →
      t.Spares (Deletable.deleted steps) step.request →
        ∃ answer, full.value[k]? = some answer ∧
          rest.value[(Deletable.left (steps.take k)).length]? = some answer) ∧
    full.clock = rest.clock ∧
    ∀ first second : InterfaceConfig, first.name ≠ second.name →
      let one := t.device.serveAll [.replace first, .replace second] clock interfaces
      let other := t.device.serveAll [.replace second, .replace first] clock interfaces
      one.value = other.value.reverse ∧ one.clock = other.clock ∧ one.state = other.state := by
  intro full rest
  have named : ∀ step ∈ steps, step.stays = false →
      ∃ config, step.request = .replace config ∧ config.name ∈ Deletable.deleted steps := by
    intro step mem goes
    obtain ⟨config, is⟩ := writes step mem goes
    refine ⟨config, is, List.mem_filterMap.mpr ⟨step, mem, ?_⟩⟩
    simp [Deletable.deleted?, is, goes]
  have same : Interfaces.AgreeOff (Deletable.deleted steps) interfaces interfaces :=
    fun _ _ => rfl
  refine ⟨fun k step there stays spared => ?_, ?_, fun first second differ => ?_⟩
  · obtain ⟨clocks, agree⟩ := agreeOff_serveAll (t := t)
      (fun step (mem : step ∈ steps.take k) => named step (List.mem_of_mem_take mem))
      (fun step mem => waits step (List.mem_of_mem_take mem)) clock same
    obtain ⟨found, taken⟩ := Deletable.getElem?_left there stays
    have whole : (Deletable.whole steps)[k]? = some step.request := by
      rw [Deletable.whole, List.getElem?_map, there]
      rfl
    have taken' : (Deletable.whole steps).take k = Deletable.whole (steps.take k) :=
      List.map_take.symm
    have answered := Device.getElem?_value_serveAll t.device clock interfaces whole
    have answered' := Device.getElem?_value_serveAll t.device clock interfaces found
    rw [taken'] at answered
    rw [taken, ← clocks, ← value_serve_congr agree spared] at answered'
    exact ⟨_, answered, answered'⟩
  · exact (agreeOff_serveAll named waits clock same).1
  · exact serveAll_replace_comm differ clock interfaces

/-- A write to another interface and one to no interface at all are deleted between the requests
about an interface whose transceiver is lit by a third one. -/
theorem deleted_writes_unseen_of_cross_linked :
    let t : Topology :=
      { name := "dut", model := "model", vendor := .cisco
        interfaces := [{ name := "i" }, { name := "j" }, { name := "k", enabled := false }]
        components := [
          { name := "i", kind := .transceiver, interface := some "k"
            channels := [{ outputPower := some (.ofNat 1) }] }] }
    let steps : List Deletable :=
      [⟨.replace { name := "i", enabled := false }, true⟩,
        ⟨.replace { name := "j", enabled := false }, false⟩,
        ⟨.advance 999, true⟩, ⟨.replace { name := "nowhere" }, false⟩,
        ⟨.samples .outputPower "i", true⟩, ⟨.status "i", true⟩]
    let full := t.device.serveAll (Deletable.whole steps) 0 t.boot
    let rest := t.device.serveAll (Deletable.left steps) 0 t.boot
    (∀ step ∈ steps, step.stays = false → ∃ config, step.request = .replace config) ∧
    (∀ step ∈ steps, ∀ w, step.request = .await w → w.interface ∉ Deletable.deleted steps) ∧
    (∃ answer, full.value[4]? = some answer ∧ rest.value[2]? = some answer) ∧
    ∃ answer, full.value[5]? = some answer ∧ rest.value[3]? = some answer := by
  intro t steps full rest
  have writes : ∀ step ∈ steps, step.stays = false → ∃ config, step.request = .replace config := by
    simp [steps]
  have waits : ∀ step ∈ steps, ∀ w, step.request = .await w →
      w.interface ∉ Deletable.deleted steps := by
    simp [steps]
  have linked : t.LinkedOff (Deletable.deleted steps) "i" := by
    intro spec first link is
    obtain rfl := Option.some.inj first
    obtain rfl := Option.some.inj is
    decide
  have other : "i" ∉ Deletable.deleted steps := by decide
  obtain ⟨law, -⟩ := t.deleted_writes_unseen steps writes waits 0 t.boot
  exact ⟨writes, waits, law 4 _ rfl rfl linked, law 5 _ rfl rfl other⟩

end Topology
end OpticsCheck
