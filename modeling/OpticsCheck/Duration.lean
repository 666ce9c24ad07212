import OpticsCheck.Binary64.Layout

/-!
# Durations

Lengths of time in nanoseconds, and their text: the largest of the units `s`, `ms`, `µs`, `ns`
that is at least one, with what is left over as a fraction.
-/

namespace OpticsCheck

structure Duration where
  nanos : Nat
deriving DecidableEq, Repr

namespace Duration

def ofSeconds (n : Nat) : Duration := ⟨n * 1000000000⟩

def ofMillis (n : Nat) : Duration := ⟨n * 1000000⟩

/-- Whole milliseconds, rounded up: a wait ends on the first tick at or after its end. -/
def millis (d : Duration) : Nat := (d.nanos + 999999) / 1000000

/-- `n` in units of `10 ^ places`, without trailing zeros in the fraction. -/
def inUnits (n places : Nat) : List Char :=
  let fraction := digitChars (n % Nat.pow 10 places)
  let padded := List.replicate (places - fraction.length) '0' ++ fraction
  let kept := (padded.reverse.dropWhile (· = '0')).reverse
  digitChars (n / Nat.pow 10 places) ++ if kept.isEmpty then [] else '.' :: kept

def text (d : Duration) : String :=
  if 1000000000 ≤ d.nanos then String.ofList (inUnits d.nanos 9) ++ "s"
  else if 1000000 ≤ d.nanos then String.ofList (inUnits d.nanos 6) ++ "ms"
  else if 1000 ≤ d.nanos then String.ofList (inUnits d.nanos 3) ++ "µs"
  else String.ofList (digitChars d.nanos) ++ "ns"

/-- Seconds as a number: the whole seconds plus the rounded fraction of one. -/
def seconds (d : Duration) : Binary64 :=
  (Binary64.ofNat (d.nanos / 1000000000)).add
    (Binary64.ofRatio false (d.nanos % 1000000000) 1000000000)

end Duration
end OpticsCheck
