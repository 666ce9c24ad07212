import OpticsCheck.Main
import OpticsCheck.Proofs.Check.Verdicts
import OpticsCheck.Proofs.Device.Faults
import OpticsCheck.Proofs.Check.Inventory
import OpticsCheck.Proofs.Check.Restoration
import OpticsCheck.Proofs.Check.Repeatability
import OpticsCheck.Proofs.Check.Locality
import OpticsCheck.Proofs.Check.Coverage
import OpticsCheck.Proofs.Check.Soundness
import OpticsCheck.Proofs.Text.Plain
import OpticsCheck.Proofs.Report.Warnings
import OpticsCheck.Proofs.Run.Telling
import OpticsCheck.Proofs.Check.Logging
import OpticsCheck.Proofs.Check.Plainness
import OpticsCheck.Proofs.Terminal.Recovery
import OpticsCheck.Proofs.Terminal.Ending
import OpticsCheck.Proofs.Topology.Truncation
import OpticsCheck.Proofs.Check.Course
import OpticsCheck.Proofs.Check.Visits
import OpticsCheck.Proofs.Report.Escalation
import OpticsCheck.Proofs.Device.Naming
import OpticsCheck.Proofs.Topology.Building
import OpticsCheck.Proofs.Terminal.Colours
import OpticsCheck.Proofs.Device.Keywords
import OpticsCheck.Proofs.Check.Bounds
