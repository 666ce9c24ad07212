import Mathlib.Data.List.Induction
import OpticsCheck.Proofs.Topology.References

/-!
# Topologies that are built in steps

A topology may also be put together step by step, with references before the declarations that they
need, and it may be validated after each step. What validation says then can be told from the steps
alone: what was declared stays declared, and a port stands for the interface it was mapped to last.
-/

namespace OpticsCheck.Topology

/-- One of the steps in which a topology is built. -/
inductive Change where
  | settleTime (settleTime : UInt64)
  | port (port interface : String)
  /-- A port's entry alone, without a declaration. -/
  | mapping (port interface : String)
  | declaration (interface : String) (enabled : Bool)
  | component (spec : ComponentSpec)

def change (t : Topology) : Change → Topology
  | .settleTime settleTime => t.withSettleTime settleTime
  | .port port interface => t.withPort port interface
  | .mapping port interface => t.mapPort port interface
  | .declaration interface enabled => t.withInterface interface enabled
  | .component spec => t.withComponent spec

/-- What comes of the steps from a topology of which nothing but the identity is known. -/
def built (name model : String) (vendor : Vendor) (changes : List Change) : Topology :=
  changes.foldl change { name, model, vendor }

namespace Change

/-- The interface that a step declares. -/
def declared? : Change → Option String
  | .port _ interface | .declaration interface _ => some interface
  | _ => none

/-- The interface that a step maps the port to. -/
def mapped? (port : String) : Change → Option String
  | .port id interface | .mapping id interface => if port = id then some interface else none
  | _ => none

def component? : Change → Option ComponentSpec
  | .component spec => some spec
  | _ => none

end Change

section History

variable (changes : List Change)

/-- The interfaces that some step has declared so far. -/
def declaredIn (interface : String) : Prop := interface ∈ changes.filterMap Change.declared?

/-- What the port was mapped to last. -/
def mappedIn (port interface : String) : Prop :=
  (changes.filterMap (Change.mapped? port)).getLast? = some interface

def componentsIn : List ComponentSpec := changes.filterMap Change.component?

theorem declaredIn_append {first second : List Change} {interface : String} :
    declaredIn (first ++ second) interface ↔
      declaredIn first interface ∨ declaredIn second interface := by
  rw [declaredIn, List.filterMap_append, List.mem_append]
  rfl

theorem declaredIn_concat {changes : List Change} {step : Change} {interface : String} :
    declaredIn (changes ++ [step]) interface ↔
      declaredIn changes interface ∨ step.declared? = some interface := by
  rw [declaredIn_append]
  refine or_congr_right ?_
  simp [declaredIn, eq_comm]

theorem mappedIn_concat {changes : List Change} {step : Change} {port interface : String} :
    mappedIn (changes ++ [step]) port interface ↔
      (step.mapped? port).or (changes.filterMap (Change.mapped? port)).getLast? =
        some interface := by
  rw [mappedIn, List.filterMap_append, List.getLast?_append]
  cases mapped : step.mapped? port <;> simp [mapped]

end History

theorem declares_change (t : Topology) (step : Change) (interface : String) :
    (t.change step).declares interface = true ↔
      t.declares interface = true ∨ step.declared? = some interface := by
  cases step <;> simp [change, declares, Change.declared?, withSettleTime, withPort, mapPort,
    withInterface, withComponent]

theorem get?_change (t : Topology) (step : Change) (port : String) :
    (t.change step).ports.get? port = (step.mapped? port).or (t.ports.get? port) := by
  have mapped (id interface : String) : (t.ports.insert id interface).get? port =
      (if port = id then some interface else none).or (t.ports.get? port) := by
    rw [PortMap.get?_insert]
    split <;> rfl
  cases step with
  | port id interface => exact mapped id interface
  | mapping id interface => exact mapped id interface
  | _ => rfl

theorem components_change (t : Topology) (step : Change) :
    (t.change step).components = t.components ++ step.component?.toList := by
  cases step with
  | component spec => rfl
  | _ => exact (List.append_nil _).symm

section Built

variable (name model : String) (vendor : Vendor) (changes : List Change)

theorem built_concat (step : Change) : built name model vendor (changes ++ [step]) =
    (built name model vendor changes).change step :=
  List.foldl_concat change _ step changes

theorem declares_built (interface : String) :
    (built name model vendor changes).declares interface = true ↔ declaredIn changes interface := by
  induction changes using List.reverseRecOn with
  | nil => simp [built, declares, declaredIn]
  | append_singleton before step ih =>
    rw [built_concat, declares_change, ih, declaredIn_concat]

theorem get?_built (port : String) : (built name model vendor changes).ports.get? port =
    (changes.filterMap (Change.mapped? port)).getLast? := by
  induction changes using List.reverseRecOn with
  | nil => rfl
  | append_singleton before step ih =>
    rw [built_concat, get?_change, ih, List.filterMap_append, List.getLast?_append]
    cases mapped : step.mapped? port <;> simp [mapped]

theorem components_built :
    (built name model vendor changes).components = componentsIn changes := by
  induction changes using List.reverseRecOn with
  | nil => rfl
  | append_singleton before step ih =>
    rw [built_concat, components_change, ih, componentsIn, componentsIn, List.filterMap_append]
    cases step <;> rfl

/-- After any steps, what validation reports can be told from the steps. -/
theorem reports_built : Reports (built name model vendor changes).validate (declaredIn changes)
    (mappedIn changes) (componentsIn changes) := by
  have reports := reports_validate (built name model vendor changes)
  simp only [declares_built, get?_built, components_built] at reports
  exact reports

end Built

section Repairs

variable (changes : List Change) (port interface : String)

theorem declaredIn_of_declares (step : Change) (declares : step.declared? = some interface)
    (other : String) : declaredIn (changes ++ [step]) other ↔
      declaredIn changes other ∨ other = interface := by
  rw [declaredIn_concat, declares, Option.some.injEq]
  exact or_congr_right eq_comm

theorem mappedIn_port (id other : String) :
    mappedIn (changes ++ [.port port interface]) id other ↔
      id = port ∧ other = interface ∨ id ≠ port ∧ mappedIn changes id other := by
  rw [mappedIn_concat, mappedIn]
  by_cases same : id = port
  · simp [Change.mapped?, same, eq_comm]
  · simp [Change.mapped?, same]

theorem componentsIn_of_none (step : Change) (none : step.component? = none) :
    componentsIn (changes ++ [step]) = componentsIn changes := by
  simp [componentsIn, none]

/-- What a port was mapped to does not matter any more once it is mapped anew. -/
theorem grounded_port_iff :
    Grounded (declaredIn (changes ++ [.port port interface]))
      (mappedIn (changes ++ [.port port interface]))
      (componentsIn (changes ++ [.port port interface])) ↔
    Grounded (fun other => declaredIn changes other ∨ other = interface)
      (fun id other => id ≠ port ∧ mappedIn changes id other) (componentsIn changes) := by
  simp only [Grounded, mappedIn_port,
    declaredIn_of_declares changes interface (.port port interface) rfl,
    componentsIn_of_none changes (.port port interface) rfl]
  refine and_congr_left fun _ => ⟨fun ports id other old => ports id other (.inr old), ?_⟩
  rintro ports id other (⟨_, rfl⟩ | old)
  · exact .inr rfl
  · exact ports id other old

theorem grounded_declaration_iff (enabled : Bool) :
    Grounded (declaredIn (changes ++ [.declaration interface enabled]))
      (mappedIn (changes ++ [.declaration interface enabled]))
      (componentsIn (changes ++ [.declaration interface enabled])) ↔
    Grounded (fun other => declaredIn changes other ∨ other = interface) (mappedIn changes)
      (componentsIn changes) := by
  have mapped (id other : String) :
      mappedIn (changes ++ [.declaration interface enabled]) id other ↔
        mappedIn changes id other := mappedIn_concat
  simp only [Grounded, mapped,
    declaredIn_of_declares changes interface (.declaration interface enabled) rfl,
    componentsIn_of_none changes (.declaration interface enabled) rfl]

end Repairs

/-- After any steps a topology is valid exactly if every interface that a port stands for by now,
and every one that a component is linked to, was declared in one of them, before or after; otherwise
the lowest dangling port is reported and, if there is none, the first dangling component. So a port
together with its declaration never does harm and mends what the port referred to before, and a
declaration is kept and mends every reference to its interface, in all that follows. -/
theorem validate_built (name model : String) (vendor : Vendor) (changes : List Change) :
    let built := built name model vendor
    Reports (built changes).validate (declaredIn changes) (mappedIn changes)
      (componentsIn changes) ∧
    (∀ port interface,
      let more := changes ++ [.port port interface]
      ((built more).validate = .ok () ↔
        Grounded (fun other => declaredIn changes other ∨ other = interface)
          (fun id other => id ≠ port ∧ mappedIn changes id other) (componentsIn changes)) ∧
      ((built changes).validate = .ok () → (built more).validate = .ok ()) ∧
      ∀ other, (built more).validate ≠ .error (.port port other)) ∧
    (∀ interface enabled,
      (built (changes ++ [.declaration interface enabled])).validate = .ok () ↔
        Grounded (fun other => declaredIn changes other ∨ other = interface) (mappedIn changes)
          (componentsIn changes)) ∧
    ∀ later interface, declaredIn changes interface →
      (built (changes ++ later)).declares interface = true ∧
      ∀ dangling, (built (changes ++ later)).validate = .error dangling →
        dangling.interface ≠ interface := by
  intro built
  have reports (changes : List Change) := reports_built name model vendor changes
  refine ⟨reports changes, fun port interface => ?_, fun interface enabled => ?_, ?_⟩
  · intro more
    have valid := (reports more).valid_iff.trans (grounded_port_iff changes port interface)
    refine ⟨valid, fun before => valid.mpr ?_, fun other refused => ?_⟩
    · obtain ⟨ports, components⟩ := (reports changes).valid_iff.mp before
      exact ⟨fun id other old => .inl (ports id other old.2),
        fun component mem other linked => .inl (components component mem other linked)⟩
    · obtain ⟨mapped, missing, _⟩ := ((reports more).port_iff port other).mp refused
      rcases (mappedIn_port changes port interface port other).mp mapped with ⟨_, rfl⟩ | old
      · have declared := declaredIn_of_declares changes other (.port port other) rfl other
        exact missing (declared.mpr (.inr rfl))
      · exact old.1 rfl
  · exact (reports _).valid_iff.trans (grounded_declaration_iff changes interface enabled)
  · intro later interface declared
    have kept : declaredIn (changes ++ later) interface := declaredIn_append.mpr (.inl declared)
    refine ⟨(declares_built name model vendor _ interface).mpr kept, ?_⟩
    exact fun dangling refused same => (reports _).not_declared refused (same ▸ kept)

/-- References without a declaration: two ports, of which the one mapped last comes first in bytes,
and a linked component. -/
def earlyReferences : List Change :=
  [.mapping "ä" "x", .mapping "z" "y", .component ((ComponentSpec.transceiver "c").linkedTo "w")]

/-- The declarations come last, and one port is mapped anew. -/
theorem validate_built_of_early_references :
    let built := built "dut" "model" .cisco
    let changes := earlyReferences ++ [.declaration "y" false]
    (built earlyReferences).validate = .error (.port "z" "y") ∧
    (built changes).validate = .error (.port "ä" "x") ∧
    mappedIn changes "ä" "x" ∧ ¬ declaredIn changes "x" ∧
    declaredIn changes "y" ∧
    (∀ later dangling, (built (changes ++ later)).validate = .error dangling →
      dangling.interface ≠ "y") ∧
    (∀ other, (built (changes ++ [.port "ä" "v"])).validate ≠ .error (.port "ä" other)) ∧
    (built (changes ++ [.port "ä" "v"])).validate = .error (.component "c" "w") ∧
    (built (changes ++ [.port "ä" "v"] ++ [.declaration "w" true])).validate = .ok () := by
  intro built changes
  have declared : declaredIn changes "y" := by
    unfold declaredIn
    decide +kernel
  have second : (built changes).validate = .error (.port "ä" "x") := by decide +kernel
  obtain ⟨reports, ports, _, kept⟩ := validate_built "dut" "model" .cisco changes
  obtain ⟨mapped, missing, _⟩ := (reports.port_iff "ä" "x").mp second
  refine ⟨by decide +kernel, second, mapped, missing, declared, ?_, (ports "ä" "v").2.2,
    by decide +kernel, by decide +kernel⟩
  exact fun later => (kept later "y" declared).2

end OpticsCheck.Topology
