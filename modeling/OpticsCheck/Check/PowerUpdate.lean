import OpticsCheck.Device.Naming
import OpticsCheck.Run.Procedure
import OpticsCheck.Check.Bounds

/-!
# The power update check

Enables and disables one interface and verifies that the output power of its transceiver follows:
lit while the interface is enabled, dark once it is disabled. The cases run in order, each from the
state that the one before it left; a fault ends its case, and the next case still runs.
-/

namespace OpticsCheck.PowerUpdate

variable {σ : Type}

def caseName : String := "optics power update"

structure Config where
  port : String := "port1"
  /-- Milliseconds allowed for an interface to reach its expected status. -/
  timeout : Nat := 120000
  /-- Milliseconds between two status reads. -/
  poll : Nat := 1000
deriving DecidableEq, Repr

structure Case where
  description : String
  enabled : Bool
  expected : OperStatus
  maxOutputPower : Binary64
  checkMinOutputPower : Bool
deriving DecidableEq, Repr

namespace Case

def outputBounds (c : Case) : Bounds :=
  if c.checkMinOutputPower then .within minOpticsPower c.maxOutputPower
  else .atMost c.maxOutputPower

/-- Enabled, disabled, then enabled again. -/
def defaults : List Case := [
  { description := "Check initial input and output optics powers are OK"
    enabled := true
    expected := .up
    maxOutputPower := maxOpticsPower
    checkMinOutputPower := true },
  { description := "Check output optics power is very small after interface is disabled"
    enabled := false
    expected := .down
    maxOutputPower := minOpticsPower
    checkMinOutputPower := false },
  { description := "Check output optics power is normal after interface is re-enabled"
    enabled := true
    expected := .up
    maxOutputPower := maxOpticsPower
    checkMinOutputPower := true }]

def reportName (c : Case) : String := caseName ++ "/" ++ c.description

end Case

def inputLine (interface : String) (sample : Binary64) : String :=
  "Get inputPower for port " ++ Text.quoted interface ++ ": got " ++ sample.fixedText 2
    ++ ", want within " ++ Bounds.nominal.text

def outputLine (interface : String) (violation : Violation) : String :=
  "Get outPower for port " ++ Text.quoted interface ++ ": " ++ violation.message

/-- The errors of the input samples, one for each that is out of the nominal range. -/
def inputErrors (interface : String) (samples : List Binary64) : List String :=
  (samples.filter fun sample => !Bounds.nominal.contains sample).map (inputLine interface)

/-- The errors of the output samples, one for each bound that a sample breaks. -/
def outputErrors (interface : String) (c : Case) (samples : List Binary64) : List String :=
  (samples.flatMap c.outputBounds.violations).map (outputLine interface)

/-- Reads the transceiver's powers and notes what is out of bounds. -/
def verify (dut : Device σ) (interface : String) (c : Case) (transceiver : String) :
    Procedure σ Unit := do
  let inputs ← Procedure.of (dut.runSamples .inputPower transceiver)
  let outputs ← Procedure.of (dut.runSamples .outputPower transceiver)
  Procedure.log
    ("Transceiver " ++ transceiver ++ " inputPowers: " ++ Binary64.listText inputs)
  Procedure.log
    ("Transceiver " ++ transceiver ++ " outputPowers: " ++ Binary64.listText outputs)
  (inputErrors interface inputs).forM Procedure.error
  (outputErrors interface c outputs).forM Procedure.error

def procedure (dut : Device σ) (config : Config) (interface : String) (c : Case) :
    Procedure σ Unit := do
  Procedure.log c.description
  Procedure.of (dut.runReplace { name := interface, enabled := c.enabled })
  let wait : Wait :=
    { interface, expected := c.expected, timeout := config.timeout, poll := config.poll }
  discard <| Procedure.of (wait.run dut)
  Procedure.log (interface ++ " oper status is " ++ c.expected.keyword)
  let transceiver ← liftExcept (transceiverName interface dut.vendor)
  match ← Procedure.of (dut.runMfgName transceiver) with
  | none =>
    Procedure.skip ("MfgName for " ++ Text.quoted transceiver ++ " is not present, skip it")
  | some mfgName =>
    Procedure.log ("Transceiver " ++ transceiver ++ " MfgName: " ++ mfgName)
    verify dut interface c transceiver
where
  liftExcept {α : Type} (result : Except Fault α) : Procedure σ α := Procedure.of (pure result)

def runCase (dut : Device σ) (config : Config) (interface : String) (c : Case) :
    Run σ CaseReport :=
  (procedure dut config interface c).report c.reportName

/-- Runs the cases against the interface behind the configured port, one report for each. -/
def check (dut : Device σ) (config : Config) (cases : List Case) : Run σ SuiteReport :=
  match dut.port config.port with
  | .error fault => do
    let report ← Procedure.report (throw fault) caseName
    return ⟨[report]⟩
  | .ok interface => do
    let reports ← cases.mapM (runCase dut config interface)
    return ⟨reports⟩

end OpticsCheck.PowerUpdate
