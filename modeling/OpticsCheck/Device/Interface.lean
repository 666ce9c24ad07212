/-!
# Interfaces

The operational status that a device reports for an interface, and the configuration that is
pushed to one.
-/

namespace OpticsCheck

inductive OperStatus where
  | up
  | down
  | testing
  | unknown
  | dormant
  | notPresent
  | lowerLayerDown
deriving DecidableEq, Repr

namespace OperStatus

def all : List OperStatus :=
  [.up, .down, .testing, .unknown, .dormant, .notPresent, .lowerLayerDown]

def keyword : OperStatus → String
  | .up => "UP"
  | .down => "DOWN"
  | .testing => "TESTING"
  | .unknown => "UNKNOWN"
  | .dormant => "DORMANT"
  | .notPresent => "NOT_PRESENT"
  | .lowerLayerDown => "LOWER_LAYER_DOWN"

def keywords : List (String × OperStatus) := all.map fun status => (status.keyword, status)

/-- The status that an interface settles on once it is enabled or disabled. -/
def ofEnabled (enabled : Bool) : OperStatus := if enabled then .up else .down

end OperStatus

/-- Replaces all that a device holds for an interface. -/
structure InterfaceConfig where
  name : String
  enabled : Bool := true
deriving DecidableEq, Repr

namespace InterfaceConfig

def withEnabled (config : InterfaceConfig) (enabled : Bool) : InterfaceConfig :=
  { config with enabled }

def expectedStatus (config : InterfaceConfig) : OperStatus := .ofEnabled config.enabled

end InterfaceConfig

def boolText (b : Bool) : String := if b then "true" else "false"

end OpticsCheck
