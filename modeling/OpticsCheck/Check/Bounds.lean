import OpticsCheck.Binary64.Layout

/-!
# Power bounds

The range that an optics power has to lie in, in dBm; the lower bound is optional. A sample is
accepted when it breaks no bound, so a NaN, which is neither above nor below anything, is.
-/

namespace OpticsCheck

/-- The lowest power of a lit laser: -30 dBm. -/
def minOpticsPower : Binary64 := .ofInt (-30)

/-- The highest power of a healthy transceiver: 10 dBm. -/
def maxOpticsPower : Binary64 := .ofNat 10

structure Bounds where
  min : Option Binary64
  max : Binary64
deriving DecidableEq, Repr

inductive Violation where
  | aboveMax (sample max : Binary64)
  | belowMin (sample min : Binary64)
deriving DecidableEq, Repr

def Violation.message : Violation → String
  | .aboveMax sample max => "got " ++ sample.fixedText 2 ++ ", want < " ++ max.fixedText 6
  | .belowMin sample min => "got " ++ sample.fixedText 2 ++ ", want > " ++ min.fixedText 6

namespace Bounds

def within (min max : Binary64) : Bounds := ⟨some min, max⟩

def atMost (max : Binary64) : Bounds := ⟨none, max⟩

/-- The range of a lit laser. -/
def nominal : Bounds := within minOpticsPower maxOpticsPower

/-- Every bound that the sample breaks, the upper one first. -/
def violations (b : Bounds) (sample : Binary64) : List Violation :=
  (if b.max.lt sample then [.aboveMax sample b.max] else []) ++
    match b.min with
    | some min => if sample.lt min then [.belowMin sample min] else []
    | none => []

def contains (b : Bounds) (sample : Binary64) : Bool := (b.violations sample).isEmpty

def text (b : Bounds) : String :=
  match b.min with
  | some min => "[" ++ min.fixedText 6 ++ ", " ++ b.max.fixedText 6 ++ "]"
  | none => "<= " ++ b.max.fixedText 6

end Bounds
end OpticsCheck
