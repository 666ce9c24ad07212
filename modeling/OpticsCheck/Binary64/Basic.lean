/-!
# Binary64 numbers

The 64-bit binary floating-point numbers as words: sign, exponent and fraction. Comparison and
rounding are exact integer arithmetic on those fields, so every statement about a reading is a
statement about integers. Zero has two signs, which compare equal; a NaN compares with nothing.
-/

namespace OpticsCheck

structure Binary64 where
  bits : UInt64
deriving DecidableEq, Repr, Inhabited

namespace Binary64

/-- The weight of the sign bit. -/
def signUnit : Nat := 0x8000000000000000

/-- The weight of the lowest exponent bit, just above the 52 fraction bits. -/
def exponentUnit : Nat := 0x10000000000000

def negative (x : Binary64) : Bool := signUnit ≤ x.bits.toNat

/-- Exponent and fraction fields together; they grow with the absolute value. -/
def magnitude (x : Binary64) : Nat := x.bits.toNat % signUnit

/-- The magnitude of the infinities; NaNs lie above. -/
def infiniteMagnitude : Nat := 2047 * exponentUnit

def isNaN (x : Binary64) : Bool := infiniteMagnitude < x.magnitude

def isInfinite (x : Binary64) : Bool := x.magnitude = infiniteMagnitude

def isFinite (x : Binary64) : Bool := x.magnitude < infiniteMagnitude

def isZero (x : Binary64) : Bool := x.magnitude = 0

/-- An integer that orders all numbers but NaN. -/
def rank (x : Binary64) : Int := if x.negative then -x.magnitude else x.magnitude

def lt (x y : Binary64) : Bool := !x.isNaN && !y.isNaN && x.rank < y.rank

def le (x y : Binary64) : Bool := !x.isNaN && !y.isNaN && x.rank ≤ y.rank

/-- A finite number is `significand · 2 ^ exponent`, up to its sign. -/
def significand (x : Binary64) : Nat :=
  if x.magnitude < exponentUnit then x.magnitude else exponentUnit + x.magnitude % exponentUnit

def exponent (x : Binary64) : Int :=
  if x.magnitude < exponentUnit then -1074 else (x.magnitude / exponentUnit : Nat) - 1075

/-- The absolute value of a finite number as a quotient. -/
def numerator (x : Binary64) : Nat := x.significand <<< x.exponent.toNat

def denominator (x : Binary64) : Nat := 1 <<< (-x.exponent).toNat

def ofMagnitude (negative : Bool) (magnitude : Nat) : Binary64 :=
  ⟨UInt64.ofNat (if negative then signUnit + magnitude else magnitude)⟩

def nan : Binary64 := ofMagnitude false (infiniteMagnitude + exponentUnit / 2)

def infinity (negative : Bool) : Binary64 := ofMagnitude negative infiniteMagnitude

def zero (negative : Bool) : Binary64 := ofMagnitude negative 0

def neg (x : Binary64) : Binary64 := ofMagnitude (!x.negative) x.magnitude

end Binary64

/-- The integer nearest to `num / den`; a half goes to the even neighbour. -/
def divHalfEven (num den : Nat) : Nat :=
  let quotient := num / den
  let rest := num % den
  if den < 2 * rest || (2 * rest = den && quotient % 2 = 1) then quotient + 1 else quotient

namespace Binary64

/-- The least exponent that leaves 53 binary digits before the point of `num / den`, but none below
that of the subnormal numbers. -/
def unitExponent (num den : Nat) : Int :=
  let guess : Int := (num.log2 : Int) - den.log2 - 52
  let exponent :=
    if num <<< (-guess).toNat < den <<< guess.toNat * exponentUnit then guess - 1 else guess
  max exponent (-1074)

/-- The magnitude nearest to `num / den`, a half to the even neighbour, infinite past the largest
finite number. -/
def roundedMagnitude (num den : Nat) : Nat :=
  if num = 0 then 0
  else
    let exponent := unitExponent num den
    let units := divHalfEven (num <<< (-exponent).toNat) (den <<< exponent.toNat)
    min infiniteMagnitude ((exponent + 1074).toNat * exponentUnit + units)

def ofRatio (negative : Bool) (num den : Nat) : Binary64 :=
  ofMagnitude negative (roundedMagnitude num den)

def ofNat (n : Nat) : Binary64 := ofRatio false n 1

def ofInt (i : Int) : Binary64 := ofRatio (i < 0) i.natAbs 1

/-- The rounded product of two finite numbers. -/
def mul (x y : Binary64) : Binary64 :=
  ofRatio (x.negative != y.negative) (x.numerator * y.numerator) (x.denominator * y.denominator)

/-- The rounded quotient of two finite numbers, the second not zero. -/
def div (x y : Binary64) : Binary64 :=
  ofRatio (x.negative != y.negative) (x.numerator * y.denominator) (x.denominator * y.numerator)

/-- The rounded sum of two finite numbers that are not negative. -/
def add (x y : Binary64) : Binary64 :=
  ofRatio false (x.numerator * y.denominator + y.numerator * x.denominator)
    (x.denominator * y.denominator)

/-- The number nearest to `digits · 10 ^ exponent`. -/
def ofDecimal (negative : Bool) (digits : Nat) (exponent : Int) : Binary64 :=
  ofRatio negative (digits * Nat.pow 10 exponent.toNat) (Nat.pow 10 (-exponent).toNat)

end Binary64
end OpticsCheck
