import OpticsCheck.Binary64.Layout

/-!
# Components and their readings

The kinds of hardware component in an inventory, and what a transceiver reports for each of its
channels: input power, output power and laser bias current.
-/

namespace OpticsCheck

inductive ComponentKind where
  | chassis
  | linecard
  | port
  | transceiver
  | powerSupply
  | fan
  | cpu
deriving DecidableEq, Repr

namespace ComponentKind

def all : List ComponentKind :=
  [.chassis, .linecard, .port, .transceiver, .powerSupply, .fan, .cpu]

def keyword : ComponentKind → String
  | .chassis => "CHASSIS"
  | .linecard => "LINECARD"
  | .port => "PORT"
  | .transceiver => "TRANSCEIVER"
  | .powerSupply => "POWER_SUPPLY"
  | .fan => "FAN"
  | .cpu => "CPU"

def keywords : List (String × ComponentKind) := all.map fun kind => (kind.keyword, kind)

end ComponentKind

/-- What is measured on a channel. -/
inductive Leaf where
  | inputPower
  | outputPower
  | biasCurrent
deriving DecidableEq, Repr

namespace Leaf

def all : List Leaf := [.inputPower, .outputPower, .biasCurrent]

def name : Leaf → String
  | .inputPower => "inputPowers"
  | .outputPower => "outputPowers"
  | .biasCurrent => "biasCurrents"

def unit : Leaf → String
  | .inputPower => "dBm"
  | .outputPower => "dBm"
  | .biasCurrent => "mA"

end Leaf

/-- The samples of all channels of one transceiver, in channel order. -/
structure Readings where
  inputPowers : List Binary64 := []
  outputPowers : List Binary64 := []
  biasCurrents : List Binary64 := []
deriving DecidableEq, Repr

namespace Readings

def samples (readings : Readings) : Leaf → List Binary64
  | .inputPower => readings.inputPowers
  | .outputPower => readings.outputPowers
  | .biasCurrent => readings.biasCurrents

/-- The leaves without any sample. -/
def emptyLeaves (readings : Readings) : List Leaf :=
  Leaf.all.filter fun leaf => (readings.samples leaf).isEmpty

end Readings
end OpticsCheck
