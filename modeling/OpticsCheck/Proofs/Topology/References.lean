import OpticsCheck.Proofs.Text.ByteOrder
import OpticsCheck.Topology.Basic

/-!
# Dangling references

What validation reports of a topology, said without the order in which it looks: of the ports the
one whose name comes first in bytes, as a map of ports is kept in that order, and of the components
the first one in the list, if no port dangles.
-/

namespace OpticsCheck

namespace PortMap

theorem lookup_cons (entry : PortEntry) (rest : List PortEntry) (other : String) :
    List.lookup other (entry :: rest) =
      if other = entry.1 then some entry.2 else rest.lookup other := by
  obtain ⟨port, interface⟩ := entry
  by_cases same : other = port
  · rw [if_pos same, same, List.lookup_cons_self]
  · rw [if_neg same, List.lookup_cons, beq_eq_false_iff_ne.mpr same]

theorem lookup_insertPort (port interface other : String) (entries : List PortEntry) :
    (insertPort port interface entries).lookup other =
      if other = port then some interface else entries.lookup other := by
  induction entries with
  | nil => exact lookup_cons (port, interface) [] other
  | cons entry rest ih =>
    rw [insertPort]
    split
    · exact lookup_cons (port, interface) (entry :: rest) other
    split
    · next after =>
      have ne : entry.1 ≠ port := fun same => String.lt_irrefl _ (same ▸ after)
      rw [lookup_cons, lookup_cons, ih]
      by_cases first : other = entry.1
      · simp [first, ne]
      · simp [first]
    · next notBefore notAfter =>
      have same : entry.1 = port :=
        String.le_antisymm (String.not_lt.mp notBefore) (String.not_lt.mp notAfter)
      rw [lookup_cons, lookup_cons, same]
      by_cases first : other = port
      · simp [first]
      · simp [first]

/-- Mapping a port changes what that port stands for and nothing else. -/
theorem get?_insert (map : PortMap) (port interface other : String) :
    (map.insert port interface).get? other =
      if other = port then some interface else map.get? other :=
  lookup_insertPort port interface other map.entries

section Sorted

variable {map : PortMap} {before after : List PortEntry} {entry : PortEntry}
  (entries : map.entries = before ++ entry :: after)
include entries

theorem lt_of_mem_before {other : PortEntry} (mem : other ∈ before) : other.1 < entry.1 :=
  (List.pairwise_append.mp (entries ▸ map.sorted)).2.2 other mem entry List.mem_cons_self

/-- The entries before an entry are those of the lower ports. -/
theorem mem_before_of_lt {other : PortEntry} (mem : other ∈ map.entries)
    (lower : other.1 < entry.1) : other ∈ before := by
  have later := (List.pairwise_cons.mp (List.pairwise_append.mp (entries ▸ map.sorted)).2.1).1
  rw [entries, List.mem_append, List.mem_cons] at mem
  rcases mem with earlier | rfl | behind
  · exact earlier
  · exact absurd lower (String.lt_irrefl _)
  · exact absurd lower (String.lt_asymm (later other behind))

end Sorted

/-- The entries are the look-ups, as no port has two of them. -/
theorem mem_entries_iff {map : PortMap} {port interface : String} :
    (port, interface) ∈ map.entries ↔ map.get? port = some interface := by
  constructor
  · intro mem
    obtain ⟨before, after, entries⟩ := List.append_of_mem mem
    refine List.lookup_eq_some_iff.mpr ⟨before, after, entries, fun other earlier => ?_⟩
    have lower := lt_of_mem_before entries earlier
    exact bne_iff_ne.mpr (String.ne_of_lt lower).symm
  · intro mapped
    obtain ⟨before, after, entries, _⟩ := List.lookup_eq_some_iff.mp mapped
    simp [entries]

end PortMap

def Dangling.interface : Dangling → String
  | .port _ interface => interface
  | .component _ interface => interface

namespace Topology

/-- Every port and every component refers to a declared interface. -/
def Grounded (declared : String → Prop) (standsFor : String → String → Prop)
    (components : List ComponentSpec) : Prop :=
  (∀ port interface, standsFor port interface → declared interface) ∧
    ∀ component ∈ components, ∀ interface ∈ component.interface, declared interface

/-- What validation comes to where these interfaces are declared, the ports stand for interfaces in
this way and these are the components: of the dangling ports the one whose bytes come first is
reported, and of the dangling components the first one, if no port dangles. -/
structure Reports (outcome : Except Dangling Unit) (declared : String → Prop)
    (standsFor : String → String → Prop) (components : List ComponentSpec) : Prop where
  valid_iff : outcome = .ok () ↔ Grounded declared standsFor components
  port_iff : ∀ port interface, outcome = .error (.port port interface) ↔
    standsFor port interface ∧ ¬ declared interface ∧
      ∀ lower other, Text.bytes lower < Text.bytes port → standsFor lower other → declared other
  component_iff : ∀ name interface, outcome = .error (.component name interface) ↔
    (∀ port other, standsFor port other → declared other) ∧
      ∃ before component after, components = before ++ component :: after ∧
        component.name = name ∧ component.interface = some interface ∧ ¬ declared interface ∧
        ∀ earlier ∈ before, ∀ other ∈ earlier.interface, declared other

variable {t : Topology} {port interface : String}

theorem danglingPort?_eq_none_iff : t.danglingPort? = none ↔
    ∀ port interface, t.ports.get? port = some interface → t.declares interface = true := by
  simp [danglingPort?, PortMap.mem_entries_iff]

/-- The dangling port that is found is the lowest one, as the entries are sorted. -/
theorem danglingPort?_eq_some_iff : t.danglingPort? = some (.port port interface) ↔
    t.ports.get? port = some interface ∧ ¬ t.declares interface = true ∧
      ∀ lower other, lower < port → t.ports.get? lower = some other → t.declares other = true := by
  rw [danglingPort?, List.findSome?_eq_some_iff]
  constructor
  · rintro ⟨before, ⟨found, undeclared⟩, after, entries, dangles, earlier⟩
    obtain ⟨missing, rfl, rfl⟩ : ¬ t.declares undeclared = true ∧ found = port ∧
        undeclared = interface := by simpa using dangles
    have mapped : t.ports.get? found = some undeclared :=
      PortMap.mem_entries_iff.mp (by simp [entries])
    refine ⟨mapped, missing, fun lower other less mapped => ?_⟩
    have mem := PortMap.mem_before_of_lt entries (PortMap.mem_entries_iff.mpr mapped) less
    simpa using earlier _ mem
  · rintro ⟨mapped, missing, lower⟩
    obtain ⟨before, after, entries⟩ := List.append_of_mem (PortMap.mem_entries_iff.mpr mapped)
    refine ⟨before, (port, interface), after, entries, by simp [missing], fun other mem => ?_⟩
    have less := PortMap.lt_of_mem_before entries mem
    have mapped' := PortMap.mem_entries_iff.mp (entries ▸ List.mem_append_left _ mem)
    simp [lower other.1 other.2 less mapped']

theorem danglingPort?_ne_component {name : String} :
    t.danglingPort? ≠ some (.component name interface) := by
  intro dangles
  obtain ⟨entry, _, found⟩ := List.exists_of_findSome?_eq_some dangles
  simp at found

section Links

variable {component : ComponentSpec} {name : String}

/-- The dangling reference of one component, if it has one. -/
abbrev danglingLink? (t : Topology) (component : ComponentSpec) : Option Dangling :=
  component.interface.bind fun interface =>
    if t.declares interface then none else some (.component component.name interface)

theorem danglingLink?_eq_none_iff : t.danglingLink? component = none ↔
    ∀ interface ∈ component.interface, t.declares interface = true := by
  cases linked : component.interface <;> simp [danglingLink?, linked]

theorem danglingLink?_eq_some_iff : t.danglingLink? component = some (.component name interface) ↔
    component.name = name ∧ component.interface = some interface ∧
      ¬ t.declares interface = true := by
  cases linked : component.interface with
  | none => simp [danglingLink?, linked]
  | some other =>
    simp only [danglingLink?, linked, Option.bind_some, Option.some.injEq]
    grind

end Links

theorem danglingComponent?_eq_none_iff : t.danglingComponent? = none ↔
    ∀ component ∈ t.components, ∀ interface ∈ component.interface, t.declares interface = true := by
  simp only [danglingComponent?, List.findSome?_eq_none_iff, danglingLink?_eq_none_iff]

theorem danglingComponent?_eq_some_iff {name : String} :
    t.danglingComponent? = some (.component name interface) ↔
      ∃ before component after, t.components = before ++ component :: after ∧
        component.name = name ∧ component.interface = some interface ∧
        ¬ t.declares interface = true ∧
        ∀ earlier ∈ before, ∀ other ∈ earlier.interface, t.declares other = true := by
  simp only [danglingComponent?, List.findSome?_eq_some_iff, danglingLink?_eq_none_iff,
    danglingLink?_eq_some_iff, and_assoc]

theorem danglingComponent?_ne_port : t.danglingComponent? ≠ some (.port port interface) := by
  intro dangles
  obtain ⟨component, _, found⟩ := List.exists_of_findSome?_eq_some dangles
  cases linked : component.interface <;> simp [linked] at found

theorem dangling?_eq_none_iff :
    t.dangling? = none ↔ t.danglingPort? = none ∧ t.danglingComponent? = none := by
  simp [dangling?]

theorem validate_eq_ok_iff : t.validate = .ok () ↔ t.dangling? = none := by
  rw [validate]
  cases t.dangling? <;> simp

theorem validate_eq_error_iff {dangling : Dangling} : t.validate = .error dangling ↔
    t.danglingPort? = some dangling ∨
      t.danglingPort? = none ∧ t.danglingComponent? = some dangling := by
  rw [validate, dangling?]
  cases t.danglingPort? <;> cases t.danglingComponent? <;> simp

theorem reports_validate (t : Topology) :
    Reports t.validate (fun interface => t.declares interface = true)
      (fun port interface => t.ports.get? port = some interface) t.components where
  valid_iff := by
    rw [validate_eq_ok_iff, dangling?_eq_none_iff]
    exact and_congr danglingPort?_eq_none_iff danglingComponent?_eq_none_iff
  port_iff port interface := by
    have ports : t.validate = .error (.port port interface) ↔
        t.danglingPort? = some (.port port interface) :=
      validate_eq_error_iff.trans (or_iff_left fun none => danglingComponent?_ne_port none.2)
    rw [ports, danglingPort?_eq_some_iff]
    simp only [Text.bytes_lt_bytes_iff]
  component_iff name interface := by
    have components : t.validate = .error (.component name interface) ↔
        t.danglingPort? = none ∧ t.danglingComponent? = some (.component name interface) :=
      validate_eq_error_iff.trans (or_iff_right danglingPort?_ne_component)
    rw [components, danglingPort?_eq_none_iff, danglingComponent?_eq_some_iff]

/-- A report names an interface that is not declared. -/
theorem Reports.not_declared {outcome : Except Dangling Unit} {declared : String → Prop}
    {standsFor : String → String → Prop} {components : List ComponentSpec} {dangling : Dangling}
    (reports : Reports outcome declared standsFor components)
    (refused : outcome = .error dangling) : ¬ declared dangling.interface := by
  cases dangling with
  | port port interface => exact ((reports.port_iff port interface).mp refused).2.1
  | component name interface =>
    obtain ⟨_, _, _, _, _, _, _, missing, _⟩ := (reports.component_iff name interface).mp refused
    exact missing

end Topology
end OpticsCheck
