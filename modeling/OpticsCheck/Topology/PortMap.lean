/-!
# Port maps

Which interface a port of a topology stands for. The entries are kept in the order of the ports'
characters, so a map is determined by its look-ups and has one written form.
-/

namespace OpticsCheck

abbrev PortEntry := String × String

def insertPort (port interface : String) : List PortEntry → List PortEntry
  | [] => [(port, interface)]
  | entry :: rest =>
    if port < entry.1 then (port, interface) :: entry :: rest
    else if entry.1 < port then entry :: insertPort port interface rest
    else (port, interface) :: rest

def SortedPorts (entries : List PortEntry) : Prop := entries.Pairwise (·.1 < ·.1)

theorem fst_mem_insertPort {port interface : String} {entries : List PortEntry}
    {entry : PortEntry} (h : entry ∈ insertPort port interface entries) :
    entry = (port, interface) ∨ entry ∈ entries := by
  induction entries with
  | nil => simpa [insertPort] using h
  | cons head rest ih =>
    rw [insertPort] at h
    split at h
    · simpa using h
    · split at h
      · rcases List.mem_cons.mp h with rfl | later
        · simp
        · rcases ih later with same | old
          · exact .inl same
          · exact .inr (List.mem_cons_of_mem _ old)
      · rcases List.mem_cons.mp h with same | old
        · exact .inl same
        · exact .inr (List.mem_cons_of_mem _ old)

theorem sortedPorts_insertPort {port interface : String} {entries : List PortEntry}
    (sorted : SortedPorts entries) : SortedPorts (insertPort port interface entries) := by
  induction entries with
  | nil => simp [insertPort, SortedPorts]
  | cons head rest ih =>
    obtain ⟨first, later⟩ := List.pairwise_cons.mp sorted
    rw [insertPort]
    split
    · rename_i before
      refine List.pairwise_cons.mpr ⟨fun entry mem => ?_, sorted⟩
      rcases List.mem_cons.mp mem with rfl | mem
      · exact before
      · exact String.lt_trans before (first entry mem)
    · split
      · rename_i after
        refine List.pairwise_cons.mpr ⟨fun entry mem => ?_, ih later⟩
        rcases fst_mem_insertPort mem with rfl | old
        · exact after
        · exact first entry old
      · rename_i notBefore notAfter
        have same : head.1 = port :=
          String.le_antisymm (String.not_lt.mp notBefore) (String.not_lt.mp notAfter)
        refine List.pairwise_cons.mpr ⟨fun entry mem => ?_, later⟩
        exact same ▸ first entry mem

structure PortMap where
  entries : List PortEntry := []
  sorted : SortedPorts entries := by exact List.Pairwise.nil

namespace PortMap

instance : DecidableEq PortMap := fun a b =>
  if h : a.entries = b.entries then .isTrue (by cases a; cases b; cases h; rfl)
  else .isFalse fun same => h (same ▸ rfl)

def empty : PortMap := {}

/-- Maps the port to the interface, in place of what it was mapped to. -/
def insert (map : PortMap) (port interface : String) : PortMap :=
  ⟨insertPort port interface map.entries, sortedPorts_insertPort map.sorted⟩

def get? (map : PortMap) (port : String) : Option String := map.entries.lookup port

end PortMap
end OpticsCheck
