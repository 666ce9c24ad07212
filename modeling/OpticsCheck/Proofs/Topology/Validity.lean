import OpticsCheck.Proofs.Topology.References
import OpticsCheck.Topology.Document

/-!
# What a valid topology refers to

A document is read as a topology only if that is valid, so the interface behind each of its ports is
declared, and so is the interface that a component is linked to.
-/

namespace OpticsCheck.Topology

variable {t : Topology}

theorem valid_of_ofDocument {text : String} (accepted : ofDocument text = .ok t) :
    t.dangling? = none := by
  unfold ofDocument at accepted
  split at accepted
  · cases accepted
  · split at accepted
    · cases accepted
      rename_i valid
      exact validate_eq_ok_iff.mp valid
    · cases accepted

theorem declares_of_get? {port interface : String} (valid : t.dangling? = none)
    (mapped : t.ports.get? port = some interface) : t.declares interface = true :=
  danglingPort?_eq_none_iff.mp (dangling?_eq_none_iff.mp valid).1 port interface mapped

theorem declares_of_link {spec : ComponentSpec} {link : String} (valid : t.dangling? = none)
    (mem : spec ∈ t.components) (linked : spec.interface = some link) :
    t.declares link = true :=
  danglingComponent?_eq_none_iff.mp (dangling?_eq_none_iff.mp valid).2 spec mem link linked

end OpticsCheck.Topology
