import OpticsCheck.Proofs.Check.Visits
import OpticsCheck.Proofs.Device.Laser

/-!
# Which transceivers an inventory covers

An inventory learns the names of the transceivers and then reads by name. A name is answered for by
the first component that has it, whatever that is. So what an inventory finds can be read off the
topology, name by name, and it covers every transceiver unless one stands behind another component
of its name.
-/

namespace OpticsCheck

/-- Whether the channel reports the leaf. -/
def ChannelSpec.reports (channel : ChannelSpec) : Leaf → Bool
  | .inputPower => channel.inputPower.isSome
  | .outputPower => channel.outputPower.isSome
  | .biasCurrent => channel.biasCurrent.isSome

/-- The leaves that a component with a manufacturer name ought to report and does not. -/
def ComponentSpec.gaps (spec : ComponentSpec) : List Leaf :=
  if spec.mfgName.isSome then
    Leaf.all.filter fun leaf => spec.channels.all fun channel => !channel.reports leaf
  else []

namespace Topology

def transceivers (t : Topology) : List ComponentSpec := t.components.filter (·.kind = .transceiver)

/-- The transceivers with their gaps, one pair for each gap. -/
def gaps (t : Topology) : List (ComponentSpec × Leaf) :=
  t.transceivers.flatMap fun spec => spec.gaps.map (spec, ·)

/-- The gaps of the component that answers for a name. -/
def gapsOf (t : Topology) (name : String) : List Leaf :=
  ((t.components.find? (·.name = name)).map ComponentSpec.gaps).getD []

/-- What an inventory of the topology comes to: aborted without a transceiver, otherwise with an
error for each gap of each component that answers for a transceiver's name, and no other. -/
structure Inventoried (t : Topology) (report : CaseReport) : Prop where
  aborted : report.verdict = .aborted ↔ t.transceivers = []
  errors : report.errors = t.transceivers.flatMap fun spec =>
    (t.gapsOf spec.name).map (Inventory.emptyLine spec.name)
  verdict : t.transceivers ≠ [] →
    report.verdict = if report.errors = [] then .passed else .failed

/-- Every transceiver answers for its own name. -/
def Unshadowed (t : Topology) : Prop :=
  ∀ spec ∈ t.transceivers, t.components.find? (·.name = spec.name) = some spec

instance (t : Topology) : Decidable t.Unshadowed :=
  inferInstanceAs (Decidable (∀ spec ∈ t.transceivers, _ = some spec))

/-- What an inventory that covers every transceiver comes to: aborted without one, otherwise failed
where one of them has a gap, with as many errors as there are gaps. -/
structure CoveredBy (t : Topology) (report : CaseReport) : Prop where
  aborted : report.verdict = .aborted ↔ t.transceivers = []
  failed : t.transceivers ≠ [] → (report.verdict = .failed ↔
    ∃ spec ∈ t.transceivers, spec.mfgName.isSome = true ∧
      ∃ leaf, ∀ channel ∈ spec.channels, channel.reports leaf = false)
  count : report.errors.length = t.gaps.length

end Topology

theorem ComponentSpec.mem_gaps {spec : ComponentSpec} {leaf : Leaf} :
    leaf ∈ spec.gaps ↔
      spec.mfgName.isSome = true ∧ ∀ channel ∈ spec.channels, channel.reports leaf = false := by
  have all : leaf ∈ Leaf.all := by cases leaf <;> decide
  cases named : spec.mfgName <;> simp [gaps, named, all]

/-- What the component reports while its laser is dark, or while it is not. -/
def ComponentSpec.readings (spec : ComponentSpec) (dark : Bool) : Readings where
  inputPowers := spec.received
  outputPowers := spec.emitted dark
  biasCurrents := spec.channels.filterMap (·.biasCurrent)

/-- A dark laser leaves no more gaps than a lit one. -/
theorem ComponentSpec.emptyLeaves_readings {spec : ComponentSpec}
    (named : spec.mfgName.isSome = true) (dark : Bool) :
    (spec.readings dark).emptyLeaves = spec.gaps := by
  rw [gaps, if_pos named]
  refine List.filter_congr fun leaf _ => ?_
  rw [Bool.eq_iff_iff, List.isEmpty_iff, List.all_eq_true]
  cases leaf <;>
    simp [readings, Readings.samples, received, emitted, List.filterMap_eq_nil_iff,
      ChannelSpec.reports]

namespace Inventory

section Simulated

variable {t : Topology} {interfaces : Interfaces} {name : String} {spec : ComponentSpec}
  (valid : t.dangling? = none) (covers : t.Covers interfaces)
include valid covers

theorem samples_of_find? (first : t.components.find? (·.name = name) = some spec) :
    ∃ dark, ∀ leaf, t.samples interfaces leaf name = .ok ((spec.readings dark).samples leaf) := by
  obtain ⟨dark, known⟩ := Topology.laserOff_known valid covers (List.mem_of_find?_eq_some first)
  refine ⟨dark, fun leaf => ?_⟩
  cases leaf with
  | outputPower => exact Topology.outputPowers_of_laserOff first known
  | inputPower | biasCurrent =>
    rw [Topology.samples, Topology.component_of_find? first]
    rfl

/-- What an inventory finds out about a name is what is wrong with the component that answers for
it. -/
theorem visit_simulated (first : t.components.find? (·.name = name) = some spec) (clock : Nat) :
    let found := (visit t.device name clock interfaces).value
    found.fault? = none ∧ found.emptyLeaves = t.gapsOf name := by
  intro found
  have lookup : (t.device.runMfgName name clock interfaces).value = .ok spec.mfgName := by
    change (·.mfgName) <$> t.component name = _
    rw [Topology.component_of_find? first]
    rfl
  have gaps : t.gapsOf name = spec.gaps := by
    rw [Topology.gapsOf, first]
    rfl
  have told : found = _ := Run.value_proceed_of_ok _ _ lookup
  cases named : spec.mfgName with
  | none =>
    rw [named] at told
    rw [told, gaps, ComponentSpec.gaps, named]
    exact ⟨rfl, rfl⟩
  | some mfgName =>
    rw [named] at told
    obtain ⟨dark, samples⟩ := samples_of_find? valid covers first
    have read : found = .read mfgName (spec.readings dark) := by
      refine told.trans ((Run.value_proceed_of_ok _ _ (samples .inputPower)).trans ?_)
      refine (Run.value_proceed_of_ok _ _ (samples .outputPower)).trans ?_
      exact Run.value_proceed_of_ok _ _ (samples .biasCurrent)
    have present : spec.mfgName.isSome = true := named ▸ rfl
    rw [read, gaps, ← ComponentSpec.emptyLeaves_readings present dark]
    exact ⟨rfl, rfl⟩

/-- All visits are served, and they find the gaps behind the names. -/
theorem survey_simulated {names : List String}
    (known : ∀ name ∈ names, t.hasComponent name = true) (clock : Nat) :
    let visits := (survey t.device names clock interfaces).value
    visits.findSome? (·.2.fault?) = none ∧
      (visits.flatMap fun (name, found) => found.emptyLeaves.map (emptyLine name)) =
        names.flatMap fun name => (t.gapsOf name).map (emptyLine name) := by
  induction names generalizing clock with
  | nil => exact ⟨rfl, rfl⟩
  | cons name names ih =>
    intro visits
    have some : (t.components.find? (·.name = name)).isSome = true :=
      List.isSome_find?.trans (known name List.mem_cons_self)
    obtain ⟨spec, first⟩ := Option.isSome_iff_exists.mp some
    obtain ⟨served, empty⟩ := visit_simulated valid covers first clock
    have knownLater : ∀ other ∈ names, t.hasComponent other = true := fun other mem =>
      known other (List.mem_cons_of_mem name mem)
    have split : visits = _ := value_survey_of_served names served
    rw [visit_idle] at split
    obtain ⟨none, errors⟩ := ih knownLater (visit t.device name clock interfaces).clock
    constructor
    · simp only [split, List.findSome?_cons, served, none]
    · simp only [split, List.flatMap_cons, empty, errors]

theorem inventoried_check (clock : Nat) :
    t.Inventoried (check t.device clock interfaces).value := by
  have known : ∀ name ∈ t.transceivers.map (·.name), t.hasComponent name = true := by
    intro name mem
    obtain ⟨spec, inside, rfl⟩ := List.mem_map.mp mem
    exact List.any_eq_true.mpr ⟨spec, List.mem_of_mem_filter inside, decide_eq_true rfl⟩
  obtain ⟨served, found⟩ := survey_simulated valid covers known clock
  generalize toured : (tour t.device clock interfaces).value = tour
  have listed : tour = .listed (t.transceivers.map (·.name))
      (survey t.device (t.transceivers.map (·.name)) clock interfaces).value := toured.symm
  have value : (check t.device clock interfaces).value = Procedure.ended
      (stopAt (tour.fault? t.model), { name := caseName : CaseReport }.recordAll tour.notes) :=
    toured ▸ ((recounts_procedure t.device).report clock interfaces).value
  obtain ⟨-, messages, fatal, -, verdict⟩ :=
    report_stopAt tour.entries_notes (tour.fault? t.model)
  rw [← value] at messages fatal verdict
  rw [listed, Tour.fault?_listed, served] at fatal
  rw [tour.errors_notes, listed, Tour.errors, found, List.flatMap_map] at messages
  by_cases empty : t.transceivers = []
  · simp only [empty, List.map_nil, if_true, Option.map_some] at fatal
    rw [fatal] at verdict
    exact ⟨⟨fun _ => empty, fun _ => verdict⟩, messages, fun nonempty => absurd empty nonempty⟩
  · have names : t.transceivers.map (·.name) ≠ [] := by simpa using empty
    rw [if_neg names] at fatal
    rw [fatal] at verdict
    refine ⟨⟨fun aborted => ?_, fun none => absurd none empty⟩, messages, fun _ => verdict⟩
    rw [verdict] at aborted
    by_cases none : (check t.device clock interfaces).value.errors = [] <;> simp [none] at aborted

end Simulated

theorem coveredBy_of_unshadowed {t : Topology} (unshadowed : t.Unshadowed) {report : CaseReport}
    (inventoried : t.Inventoried report) : t.CoveredBy report := by
  obtain ⟨aborted, errors, verdict⟩ := inventoried
  have own : report.errors = t.gaps.map fun (spec, leaf) => emptyLine spec.name leaf := by
    rw [errors, Topology.gaps, List.map_flatMap]
    refine List.flatMap_congr fun spec mem => ?_
    rw [Topology.gapsOf, unshadowed spec mem, List.map_map]
    rfl
  refine ⟨aborted, fun nonempty => ?_, ?_⟩
  · have fails : report.verdict = .failed ↔ report.errors ≠ [] := by
      rw [verdict nonempty]
      by_cases none : report.errors = [] <;> simp [none]
    have gap : report.errors ≠ [] ↔ ∃ spec ∈ t.transceivers, ∃ leaf, leaf ∈ spec.gaps := by
      rw [own, Ne, List.map_eq_nil_iff, Topology.gaps, List.flatMap_eq_nil_iff]
      simp [List.eq_nil_iff_forall_not_mem]
    rw [fails, gap]
    simp only [ComponentSpec.mem_gaps, exists_and_left]
  · rw [own, List.length_map]

/-- What an inventory finds is told by the topology: for each transceiver the gaps of the component
that answers for its name. So it covers every transceiver that answers for its own. -/
theorem check_covers {text : String} {t : Topology} (accepted : Topology.ofDocument text = .ok t)
    (requests : List Request) (start : Nat) :
    let before := t.device.serveAll requests start t.boot
    let report := (check t.device before.clock before.state).value
    t.Inventoried report ∧ (t.Unshadowed → t.CoveredBy report) := by
  intro before report
  have covers := Topology.covers_serveAll t.covers_boot requests start
  have inventoried : t.Inventoried report :=
    inventoried_check (Topology.valid_of_ofDocument accepted) covers before.clock
  exact ⟨inventoried, fun unshadowed => coveredBy_of_unshadowed unshadowed inventoried⟩

/-- A topology with a transceiver that reports one leaf, an empty cage, and a component of another
kind that has the name of the former and stands behind it. -/
def partlyRead : Topology where
  name := "dut"
  model := "model"
  vendor := .cisco
  components := [
    { name := "a", kind := .transceiver, mfgName := some "M"
      channels := [{}, { outputPower := some (.ofInt (-1)) }] },
    { name := "a", kind := .port, mfgName := some "N" },
    { name := "b", kind := .transceiver }]

theorem check_covers_of_partlyRead :
    let report := (check partlyRead.device 0 partlyRead.boot).value
    Topology.ofDocument partlyRead.document = .ok partlyRead ∧ partlyRead.Unshadowed ∧
    report.verdict = .failed ∧ report.errors.length = 2 := by
  intro report
  have accepted : Topology.ofDocument partlyRead.document = .ok partlyRead :=
    Topology.ofDocument_document ⟨by decide, by decide +kernel⟩
  have unshadowed : partlyRead.Unshadowed := by decide
  obtain ⟨-, covered⟩ := check_covers accepted [] 0
  have coveredBy : partlyRead.CoveredBy report := covered unshadowed
  have gap : ∃ spec ∈ partlyRead.transceivers, spec.mfgName.isSome = true ∧
      ∃ leaf, ∀ channel ∈ spec.channels, channel.reports leaf = false :=
    ⟨_, List.mem_cons_self, rfl, .inputPower, by decide⟩
  exact ⟨accepted, unshadowed, (coveredBy.failed (by decide)).mpr gap, coveredBy.count⟩

/-- A topology in which a transceiver that reports nothing stands behind one of its name that
reports every leaf. -/
def shadowed : Topology where
  name := "dut"
  model := "model"
  vendor := .cisco
  components := [
    { name := "a", kind := .transceiver, mfgName := some "M"
      channels := [{ inputPower := some (.ofInt (-2)), outputPower := some (.ofInt (-1))
                     biasCurrent := some (.ofNat 6) }] },
    { name := "a", kind := .transceiver, mfgName := some "N" }]

/-- The transceiver that reports nothing is masked, and the inventory passes. -/
theorem not_coveredBy_of_shadowed :
    let report := (check shadowed.device 0 shadowed.boot).value
    Topology.ofDocument shadowed.document = .ok shadowed ∧ ¬ shadowed.CoveredBy report := by
  intro report
  have accepted : Topology.ofDocument shadowed.document = .ok shadowed :=
    Topology.ofDocument_document ⟨by decide, by decide +kernel⟩
  refine ⟨accepted, fun covered => ?_⟩
  have passed : report.verdict = .passed := by decide +kernel
  have gap : ∃ spec ∈ shadowed.transceivers, spec.mfgName.isSome = true ∧
      ∃ leaf, ∀ channel ∈ spec.channels, channel.reports leaf = false :=
    ⟨_, List.mem_cons_of_mem _ List.mem_cons_self, rfl, .inputPower, by decide⟩
  have failed := (covered.failed (by decide)).mpr gap
  cases passed.symm.trans failed

end Inventory
end OpticsCheck
