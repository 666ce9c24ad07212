import OpticsCheck.Device.Fault

/-!
# Transceiver names

An interface and the transceiver plugged into it are separate components. A vendor's transceivers
are either named like their interface, or after the path above the interface's last segment, with
a suffix; for some vendors no naming is known.
-/

namespace OpticsCheck

/-- The suffix of a vendor's transceivers; the empty one means that they share the interface's
name. -/
def Vendor.namingSuffix : Vendor → Option String
  | .arista => some " transceiver"
  | .cisco => some ""
  | .juniper => some ""
  | .nokia => none
  | .ciena => none
  | .openconfig => none

/-- What stands before the last slash; nothing where there is none. -/
def parentPath (interface : List Char) : List Char :=
  ((interface.reverse.dropWhile (· ≠ '/')).drop 1).reverse

def transceiverName (interface : String) (vendor : Vendor) : Except Fault String :=
  match vendor.namingSuffix with
  | none => .error (.unknownVendor vendor)
  | some suffix =>
    if suffix.isEmpty then .ok interface
    else .ok (String.ofList (parentPath interface.toList) ++ suffix)

end OpticsCheck
