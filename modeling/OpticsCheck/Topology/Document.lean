import OpticsCheck.Json.Record
import OpticsCheck.Topology.Basic
import OpticsCheck.Device.Interface

/-!
# Topology documents

A topology is written as a JSON document with its fields in a fixed order and without blanks. It is
read from any document that spells it: fields in any order, defaults left out, unknown fields
added, records as lists. A topology that reads well but does not validate is refused.
-/

namespace OpticsCheck

open Json (Field Record Reader Problem)

structure InterfaceSpec.Draft where
  name : Option String := none
  enabled : Option Bool := none

def InterfaceSpec.record : Record InterfaceSpec.Draft InterfaceSpec where
  name := "InterfaceSpec"
  fields := [
    .of "name" true (·.name) (fun d v => { d with name := some v }) Reader.text,
    .of "enabled" false (·.enabled) (fun d v => { d with enabled := some v }) Reader.boolean]
  blank := {}
  complete d := do return { name := ← d.name, enabled := d.enabled.getD true }

structure ChannelSpec.Draft where
  inputPower : Option (Option Binary64) := none
  outputPower : Option (Option Binary64) := none
  biasCurrent : Option (Option Binary64) := none

def ChannelSpec.record : Record ChannelSpec.Draft ChannelSpec where
  name := "ChannelSpec"
  fields := [
    .of "input_power" false (·.inputPower) (fun d v => { d with inputPower := some v })
      (Reader.optional Reader.binary64),
    .of "output_power" false (·.outputPower) (fun d v => { d with outputPower := some v })
      (Reader.optional Reader.binary64),
    .of "laser_bias_current" false (·.biasCurrent) (fun d v => { d with biasCurrent := some v })
      (Reader.optional Reader.binary64)]
  blank := {}
  complete d := some
    { inputPower := d.inputPower.getD none
      outputPower := d.outputPower.getD none
      biasCurrent := d.biasCurrent.getD none }

structure ComponentSpec.Draft where
  name : Option String := none
  kind : Option ComponentKind := none
  mfgName : Option (Option String) := none
  interface : Option (Option String) := none
  channels : Option (List ChannelSpec) := none
  darkPower : Option Binary64 := none

def ComponentSpec.record : Record ComponentSpec.Draft ComponentSpec where
  name := "ComponentSpec"
  fields := [
    .of "name" true (·.name) (fun d v => { d with name := some v }) Reader.text,
    .of "type" true (·.kind) (fun d v => { d with kind := some v })
      (Reader.keyword ComponentKind.keywords),
    .of "mfg_name" false (·.mfgName) (fun d v => { d with mfgName := some v })
      (Reader.optional Reader.text),
    .of "interface" false (·.interface) (fun d v => { d with interface := some v })
      (Reader.optional Reader.text),
    .of "channels" false (·.channels) (fun d v => { d with channels := some v })
      (Reader.list ChannelSpec.record.read),
    .of "dark_output_power" false (·.darkPower) (fun d v => { d with darkPower := some v })
      Reader.binary64]
  blank := {}
  complete d := do return {
    name := ← d.name
    kind := ← d.kind
    mfgName := d.mfgName.getD none
    interface := d.interface.getD none
    channels := d.channels.getD []
    darkPower := d.darkPower.getD defaultDarkPower }

structure Topology.Draft where
  name : Option String := none
  model : Option String := none
  vendor : Option Vendor := none
  ports : Option PortMap := none
  interfaces : Option (List InterfaceSpec) := none
  components : Option (List ComponentSpec) := none
  settleTime : Option UInt64 := none

def Topology.record : Record Topology.Draft Topology where
  name := "Topology"
  fields := [
    .of "name" true (·.name) (fun d v => { d with name := some v }) Reader.text,
    .of "model" true (·.model) (fun d v => { d with model := some v }) Reader.text,
    .of "vendor" true (·.vendor) (fun d v => { d with vendor := some v })
      (Reader.keyword Vendor.keywords),
    .of "ports" false (·.ports) (fun d v => { d with ports := some v })
      (Reader.map Reader.text PortMap.empty PortMap.insert),
    .of "interfaces" false (·.interfaces) (fun d v => { d with interfaces := some v })
      (Reader.list InterfaceSpec.record.read),
    .of "components" false (·.components) (fun d v => { d with components := some v })
      (Reader.list ComponentSpec.record.read),
    .of "settle_time_ms" false (·.settleTime) (fun d v => { d with settleTime := some v })
      Reader.word64]
  blank := {}
  complete d := do return {
    name := ← d.name
    model := ← d.model
    vendor := ← d.vendor
    ports := d.ports.getD .empty
    interfaces := d.interfaces.getD []
    components := d.components.getD []
    settleTime := d.settleTime.getD defaultSettleTime }

/-- Why a document gives no topology. -/
inductive Topology.Refusal where
  | unreadable (problem : Problem)
  | invalid (dangling : Dangling)
deriving DecidableEq, Repr

def Topology.Refusal.message : Topology.Refusal → String
  | .unreadable problem => problem.message
  | .invalid dangling => dangling.message

namespace Topology

/-- Reads a topology without validating it. -/
def read (text : String) : Except Problem Topology := record.read.readAll text

def ofDocument (text : String) : Except Refusal Topology :=
  match read text with
  | .error problem => .error (.unreadable problem)
  | .ok t => match t.validate with
    | .ok () => .ok t
    | .error dangling => .error (.invalid dangling)

end Topology

/-- Parts separated by commas, between two brackets. -/
def enclosed (opening closing : Char) (parts : List (List Char)) : List Char :=
  opening :: [','].intercalate parts ++ [closing]

def writeObject (members : List (String × List Char)) : List Char :=
  enclosed '\x7b' '\x7d' (members.map fun (key, value) => Json.writeString key ++ ':' :: value)

def writeList {α : Type} (write : α → List Char) (items : List α) : List Char :=
  enclosed '[' ']' (items.map write)

def writeBool (b : Bool) : List Char := (boolText b).toList

def writeOption {α : Type} (write : α → List Char) : Option α → List Char
  | none => ['n', 'u', 'l', 'l']
  | some value => write value

/-- A number that is not finite has no JSON form and is written as `null`. -/
def writeNumber (x : Binary64) : List Char :=
  if x.isFinite then x.write .document else ['n', 'u', 'l', 'l']

def InterfaceSpec.write (spec : InterfaceSpec) : List Char :=
  writeObject [("name", Json.writeString spec.name), ("enabled", writeBool spec.enabled)]

def ChannelSpec.write (spec : ChannelSpec) : List Char :=
  writeObject [
    ("input_power", writeOption writeNumber spec.inputPower),
    ("output_power", writeOption writeNumber spec.outputPower),
    ("laser_bias_current", writeOption writeNumber spec.biasCurrent)]

def ComponentSpec.write (spec : ComponentSpec) : List Char :=
  writeObject [
    ("name", Json.writeString spec.name),
    ("type", Json.writeString spec.kind.keyword),
    ("mfg_name", writeOption Json.writeString spec.mfgName),
    ("interface", writeOption Json.writeString spec.interface),
    ("channels", writeList ChannelSpec.write spec.channels),
    ("dark_output_power", writeNumber spec.darkPower)]

namespace Topology

def write (t : Topology) : List Char :=
  writeObject [
    ("name", Json.writeString t.name),
    ("model", Json.writeString t.model),
    ("vendor", Json.writeString t.vendor.keyword),
    ("ports", writeObject (t.ports.entries.map fun (port, interface) =>
      (port, Json.writeString interface))),
    ("interfaces", writeList InterfaceSpec.write t.interfaces),
    ("components", writeList ComponentSpec.write t.components),
    ("settle_time_ms", digitChars t.settleTime.toNat)]

def document (t : Topology) : String := String.ofList t.write

end Topology
end OpticsCheck
