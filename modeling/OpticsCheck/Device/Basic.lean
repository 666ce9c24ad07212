import OpticsCheck.Device.Component
import OpticsCheck.Device.Fault
import OpticsCheck.Log.Event

/-!
# Devices

A device under test has an identity and ports, and answers queries. What it answers may depend on
the time of the query, in milliseconds, and on a state of its own, which a query may change. An
answer may take time. Reads of a missing optional leaf answer with `none`; faults are for queries
that fail.
-/

namespace OpticsCheck

/-- What comes of one query: the answer, the state it leaves, how long it took, what was logged. -/
structure Reply (σ α : Type) where
  answer : Except Fault α
  state : σ
  delay : Nat := 0
  log : List Event := []

/-- A query made at a time and in a state. -/
abbrev Query (σ α : Type) := (now : Nat) → σ → Reply σ α

/-- Nothing pauses for more than thirty years of 365 days at a time; longer pauses are cut short. -/
def longestPause : Nat := 30 * 365 * 24 * 60 * 60 * 1000

/-- A device with states of type `σ`. Replacing an interface's configuration is its only write. -/
structure Device (σ : Type) where
  name : String
  model : String
  vendor : Vendor
  /-- The interface behind a port of the topology. -/
  port : String → Except Fault String
  find : ComponentKind → Query σ (List String)
  mfgName : String → Query σ (Option String)
  samples : Leaf → String → Query σ (List Binary64)
  operStatus : String → Query σ OperStatus
  replace : InterfaceConfig → Query σ Unit

/-- The calls that can be made on a device. -/
inductive Call where
  | find (kind : ComponentKind)
  | mfgName (component : String)
  | samples (leaf : Leaf) (component : String)
  | operStatus (interface : String)
  | replace (config : InterfaceConfig)
deriving DecidableEq, Repr

namespace Call

def isStatusRead : Call → Bool
  | .operStatus _ => true
  | _ => false

def isWrite : Call → Bool
  | .replace _ => true
  | _ => false

end Call
end OpticsCheck
