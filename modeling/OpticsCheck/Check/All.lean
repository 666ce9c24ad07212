import OpticsCheck.Check.Inventory
import OpticsCheck.Check.PowerUpdate

/-!
# All checks

The inventory check and then the default power update, in one suite.
-/

namespace OpticsCheck

variable {σ : Type}

def startLine (dut : Device σ) : String :=
  "Running optics checks on " ++ dut.name ++ " (" ++ dut.vendor.keyword ++ " " ++ dut.model ++ ")"

def runAll (dut : Device σ) (config : PowerUpdate.Config) : Run σ SuiteReport := do
  Run.log ⟨.info, .checks, startLine dut⟩
  let inventory ← Inventory.check dut
  let updates ← PowerUpdate.check dut config PowerUpdate.Case.defaults
  return (SuiteReport.push {} inventory).extend updates

end OpticsCheck
