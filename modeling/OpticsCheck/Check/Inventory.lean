import OpticsCheck.Run.Procedure

/-!
# The inventory check

Every transceiver that has a manufacturer name must report samples for its input power, its output
power and its laser bias current. One without a manufacturer name is an empty cage. A device
without transceivers, and a query that fails, end the check.
-/

namespace OpticsCheck.Inventory

variable {σ : Type}

def caseName : String := "optics power and bias current"

def readingLine (transceiver : String) (readings : Readings) (leaf : Leaf) : String :=
  "Transceiver " ++ transceiver ++ " " ++ leaf.name ++ " (" ++ leaf.unit ++ "): "
    ++ Binary64.listText (readings.samples leaf)

def emptyLine (transceiver : String) (leaf : Leaf) : String :=
  "Get " ++ leaf.name ++ " list for " ++ Text.quoted transceiver ++ ": got 0, want > 0"

def validate (dut : Device σ) (transceiver : String) : Procedure σ Unit := do
  Procedure.log ("Validate transceiver: " ++ transceiver)
  match ← Procedure.of (dut.runMfgName transceiver) with
  | none =>
    Procedure.log ("MfgName for " ++ Text.quoted transceiver ++ " is not present, skip it")
  | some mfgName =>
    Procedure.log ("Transceiver " ++ transceiver ++ " MfgName: " ++ mfgName)
    let readings ← Procedure.of (dut.runReadings transceiver)
    Leaf.all.forM fun leaf => Procedure.log (readingLine transceiver readings leaf)
    readings.emptyLeaves.forM fun leaf => Procedure.error (emptyLine transceiver leaf)

def procedure (dut : Device σ) : Procedure σ Unit := do
  let transceivers ← Procedure.of (dut.runFind .transceiver)
  Procedure.log ("Found transceiver list: " ++ Text.quotedList transceivers)
  if transceivers.isEmpty then throw (.noTransceivers dut.model)
  transceivers.forM (validate dut)

def check (dut : Device σ) : Run σ CaseReport := (procedure dut).report caseName

end OpticsCheck.Inventory
