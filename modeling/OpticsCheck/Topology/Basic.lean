import OpticsCheck.Device.Vendor
import OpticsCheck.Device.Component
import OpticsCheck.Topology.PortMap

/-!
# Topologies

The description of a simulated device: its identity, the interfaces behind its ports, its
components, and the time that an interface takes to settle. A topology is valid when every port
and every component refers to a declared interface; the first reference that does not is reported,
ports before components.
-/

namespace OpticsCheck

structure InterfaceSpec where
  name : String
  enabled : Bool := true
deriving DecidableEq

/-- One optical channel. What is `none` is not reported by the device. -/
structure ChannelSpec where
  inputPower : Option Binary64 := none
  outputPower : Option Binary64 := none
  biasCurrent : Option Binary64 := none
deriving DecidableEq

/-- The output power of a transceiver whose laser is off, unless told otherwise: -40 dBm. -/
def defaultDarkPower : Binary64 := .ofInt (-40)

structure ComponentSpec where
  name : String
  kind : ComponentKind
  mfgName : Option String := none
  /-- The interface whose admin state drives the laser. -/
  interface : Option String := none
  channels : List ChannelSpec := []
  darkPower : Binary64 := defaultDarkPower
deriving DecidableEq

def defaultSettleTime : UInt64 := 1000

structure Topology where
  name : String
  model : String
  vendor : Vendor
  ports : PortMap := .empty
  interfaces : List InterfaceSpec := []
  components : List ComponentSpec := []
  /-- Milliseconds between a change of admin state and the matching operational status. -/
  settleTime : UInt64 := defaultSettleTime
deriving DecidableEq

/-- A reference to an interface that is not declared. -/
inductive Dangling where
  | port (id interface : String)
  | component (name interface : String)
deriving DecidableEq, Repr

def Dangling.message : Dangling → String
  | .port id interface => "port " ++ id ++ " maps to undeclared interface " ++ interface
  | .component name interface =>
    "component " ++ name ++ " links undeclared interface " ++ interface

namespace Topology

def declares (t : Topology) (interface : String) : Bool :=
  t.interfaces.any fun spec => spec.name = interface

def danglingPort? (t : Topology) : Option Dangling :=
  t.ports.entries.findSome? fun (port, interface) =>
    if t.declares interface then none else some (.port port interface)

def danglingComponent? (t : Topology) : Option Dangling :=
  t.components.findSome? fun component =>
    component.interface.bind fun interface =>
      if t.declares interface then none else some (.component component.name interface)

def dangling? (t : Topology) : Option Dangling := t.danglingPort? <|> t.danglingComponent?

def validate (t : Topology) : Except Dangling Unit :=
  match t.dangling? with
  | none => .ok ()
  | some dangling => .error dangling

def withSettleTime (t : Topology) (settleTime : UInt64) : Topology := { t with settleTime }

/-- Maps a port without declaring the interface. -/
def mapPort (t : Topology) (port interface : String) : Topology :=
  { t with ports := t.ports.insert port interface }

def withInterface (t : Topology) (name : String) (enabled : Bool) : Topology :=
  { t with interfaces := t.interfaces ++ [{ name, enabled }] }

/-- Declares an enabled interface and maps the port to it. -/
def withPort (t : Topology) (port interface : String) : Topology :=
  (t.withInterface interface true).mapPort port interface

def withComponent (t : Topology) (component : ComponentSpec) : Topology :=
  { t with components := t.components ++ [component] }

end Topology

namespace ComponentSpec

def transceiver (name : String) : ComponentSpec := { name, kind := .transceiver }

def withMfgName (c : ComponentSpec) (mfgName : String) : ComponentSpec :=
  { c with mfgName := some mfgName }

def linkedTo (c : ComponentSpec) (interface : String) : ComponentSpec :=
  { c with interface := some interface }

def withChannel (c : ComponentSpec) (channel : ChannelSpec) : ComponentSpec :=
  { c with channels := c.channels ++ [channel] }

end ComponentSpec
end OpticsCheck
