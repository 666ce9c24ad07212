import OpticsCheck.Device.Vendor
import OpticsCheck.Device.Interface
import OpticsCheck.Duration

/-!
# Faults

What ends a check case at once. A failed query or a failed push carries the message of what went
wrong and the contexts that were put around it, of which only the outermost is shown.
-/

namespace OpticsCheck

/-- A message and the contexts around it, innermost first. -/
structure Cause where
  message : String
  contexts : List String := []
deriving DecidableEq, Repr

def Cause.text (cause : Cause) : String := cause.contexts.getLast?.getD cause.message

inductive Fault where
  | noTransceivers (model : String)
  | unknownVendor (vendor : Vendor)
  | invalidVendor (text : String)
  | awaitTimeout (interface : String) (expected : OperStatus) (lastSeen : Option OperStatus)
      (timeout : Duration)
  | unknownPort (port : String)
  | unknownComponent (component : String)
  | unknownInterface (interface : String)
  | telemetry (cause : Cause)
  | config (cause : Cause)
deriving DecidableEq, Repr

def Fault.message : Fault → String
  | .noTransceivers model => "get transceiver list for " ++ Text.quoted model ++ ": got 0, want > 0"
  | .unknownVendor vendor => "no transceiver naming available for DUT vendor " ++ vendor.keyword
  | .invalidVendor text => "invalid vendor: " ++ text
  | .awaitTimeout interface expected lastSeen timeout =>
    "interface " ++ Text.quoted interface ++ " did not reach oper status " ++ expected.keyword
      ++ " within " ++ timeout.text
      ++ " (last seen: " ++ (lastSeen.elim "nothing" OperStatus.keyword) ++ ")"
  | .unknownPort port => "port " ++ Text.quoted port ++ " is not part of the topology"
  | .unknownComponent component =>
    "component " ++ Text.quoted component ++ " does not exist on the DUT"
  | .unknownInterface interface =>
    "interface " ++ Text.quoted interface ++ " does not exist on the DUT"
  | .telemetry cause => "telemetry query failed: " ++ cause.text
  | .config cause => "config push failed: " ++ cause.text

/-- Reads a vendor's keyword, refusing the text as it was given. -/
def Vendor.ofText (text : String) : Except Fault Vendor :=
  match Vendor.ofText? text with
  | some vendor => .ok vendor
  | none => .error (.invalidVendor text)

end OpticsCheck
