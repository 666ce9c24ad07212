import OpticsCheck.Device.Basic
import OpticsCheck.Topology.Basic

/-!
# The simulated device

A device described by a topology. Its state is what it knows of each declared interface: whether it
is enabled, when that last changed, and which status it showed then. After a change an interface
goes on showing that status until the settle time has passed. A transceiver linked to a disabled
interface reports its dark output power, and does so at once.
-/

namespace OpticsCheck

structure InterfaceState where
  enabled : Bool
  /-- The status shown until the settle time has passed since `changedAt`. -/
  previous : OperStatus := .down
  /-- When `enabled` last changed; `none` while it never did. -/
  changedAt : Option Nat := none
deriving DecidableEq, Repr

namespace InterfaceState

def settled (s : InterfaceState) : OperStatus := .ofEnabled s.enabled

def status (s : InterfaceState) (settleTime now : Nat) : OperStatus :=
  match s.changedAt with
  | none => s.settled
  | some changedAt => if now < changedAt + settleTime then s.previous else s.settled

/-- Enables or disables the interface; one that already is so stays as it is. -/
def set (s : InterfaceState) (settleTime now : Nat) (enabled : Bool) : InterfaceState :=
  if s.enabled = enabled then s
  else { enabled, previous := s.status settleTime now, changedAt := some now }

end InterfaceState

/-- The state of each interface; `none` where there is no such interface. -/
abbrev Interfaces := String → Option InterfaceState

namespace Interfaces

def put (interfaces : Interfaces) (name : String) (s : InterfaceState) : Interfaces :=
  fun other => if other = name then some s else interfaces other

end Interfaces

namespace Topology

/-- Every interface as it was last declared. -/
def boot (t : Topology) : Interfaces := fun name =>
  (t.interfaces.reverse.find? (·.name = name)).map fun spec => { enabled := spec.enabled }

/-- The first component of that name. -/
def component (t : Topology) (name : String) : Except Fault ComponentSpec :=
  match t.components.find? (·.name = name) with
  | some spec => .ok spec
  | none => .error (.unknownComponent name)

def interface (interfaces : Interfaces) (name : String) : Except Fault InterfaceState :=
  match interfaces name with
  | some s => .ok s
  | none => .error (.unknownInterface name)

/-- Whether the interface that drives the component's laser is disabled. -/
def laserOff (interfaces : Interfaces) (spec : ComponentSpec) : Except Fault Bool :=
  match spec.interface with
  | none => .ok false
  | some name => do return !(← interface interfaces name).enabled

def samples (t : Topology) (interfaces : Interfaces) (leaf : Leaf) (component : String) :
    Except Fault (List Binary64) := do
  let spec ← t.component component
  match leaf with
  | .inputPower => return spec.channels.filterMap (·.inputPower)
  | .biasCurrent => return spec.channels.filterMap (·.biasCurrent)
  | .outputPower =>
    if ← laserOff interfaces spec then
      return spec.channels.filterMap fun channel => channel.outputPower.map fun _ => spec.darkPower
    else return spec.channels.filterMap (·.outputPower)

def alreadySet (config : InterfaceConfig) : Event :=
  ⟨.debug, .simulator, config.name ++ " already has enabled=" ++ boolText config.enabled⟩

def changed (t : Topology) (config : InterfaceConfig) : Event :=
  ⟨.info, .simulator,
    config.name ++ " on " ++ t.name ++ ": enabled=" ++ boolText config.enabled⟩

def replace (t : Topology) (config : InterfaceConfig) : Query Interfaces Unit :=
  fun now interfaces =>
    match interface interfaces config.name with
    | .error fault => { answer := .error fault, state := interfaces }
    | .ok s =>
      { answer := .ok ()
        state := interfaces.put config.name (s.set t.settleTime.toNat now config.enabled)
        log := [if s.enabled = config.enabled then alreadySet config else t.changed config] }

/-- The simulated device, to be started in the state `t.boot`. -/
def device (t : Topology) : Device Interfaces where
  name := t.name
  model := t.model
  vendor := t.vendor
  port id := match t.ports.get? id with
    | some interface => .ok interface
    | none => .error (.unknownPort id)
  find kind := fun _ interfaces =>
    { answer := .ok ((t.components.filter (·.kind = kind)).map (·.name)), state := interfaces }
  mfgName component := fun _ interfaces =>
    { answer := (·.mfgName) <$> t.component component, state := interfaces }
  samples leaf component := fun _ interfaces =>
    { answer := t.samples interfaces leaf component, state := interfaces }
  operStatus name := fun now interfaces =>
    { answer := (·.status t.settleTime.toNat now) <$> interface interfaces name
      state := interfaces }
  replace := t.replace

end Topology
end OpticsCheck
