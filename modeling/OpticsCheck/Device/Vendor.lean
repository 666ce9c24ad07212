import OpticsCheck.Text.Blank

/-!
# Vendors

The vendors of devices under test and their keywords. A vendor typed by hand may be padded with
blanks and written in any mix of ASCII cases.
-/

namespace OpticsCheck

inductive Vendor where
  | arista
  | cisco
  | juniper
  | nokia
  | ciena
  | openconfig
deriving DecidableEq, Repr

namespace Vendor

def all : List Vendor := [.arista, .cisco, .juniper, .nokia, .ciena, .openconfig]

def keyword : Vendor → String
  | .arista => "ARISTA"
  | .cisco => "CISCO"
  | .juniper => "JUNIPER"
  | .nokia => "NOKIA"
  | .ciena => "CIENA"
  | .openconfig => "OPENCONFIG"

def keywords : List (String × Vendor) := all.map fun vendor => (vendor.keyword, vendor)

/-- The vendor whose keyword `text` spells, if any. -/
def ofText? (text : String) : Option Vendor :=
  let spelled := (Text.trim text.toList).map Char.toUpper
  all.find? fun vendor => vendor.keyword.toList = spelled

theorem mem_all (vendor : Vendor) : vendor ∈ all := by cases vendor <;> decide

theorem keyword_injective {v w : Vendor} : v.keyword = w.keyword → v = w := by
  cases v <;> cases w <;> decide

end Vendor
end OpticsCheck
