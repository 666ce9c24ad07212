import OpticsCheck.Binary64.Shortest
import OpticsCheck.Text.Quoted

/-!
# Layouts of binary64 numbers

Three ways to write a number: with its shortest digits as reports do, with its shortest digits as
topology files do, and with a fixed number of places, rounded from the exact value.
-/

namespace OpticsCheck

/-- How shortest digits are laid out: positionally from `10 ^ least` up to below
`10 ^ (greatest + 1)`, otherwise with an exponent. -/
structure Layout where
  least : Int
  greatest : Int
  plusSign : Bool
  tie : Tie

/-- Readings in messages: positional from `0.0001` to below `1e16`. -/
def Layout.report : Layout := ⟨-4, 15, false, .up⟩

/-- Numbers in topology files: positional from `0.00001` to below `1e+16`. -/
def Layout.document : Layout := ⟨-5, 15, true, .even⟩

def digitChars (n : Nat) : List Char := Nat.toDigits 10 n

/-- The digits with a point, and at least one digit on each side of it. -/
def Decimal.positional (d : Decimal) : List Char :=
  let digits := digitChars d.digits
  if 0 ≤ d.exponent then digits ++ List.replicate d.exponent.toNat '0' ++ ['.', '0']
  else
    let places := (-d.exponent).toNat
    let padded := List.replicate (places + 1 - digits.length) '0' ++ digits
    padded.take (padded.length - places) ++ '.' :: padded.drop (padded.length - places)

/-- The decimal exponent of the first digit. -/
def Decimal.leading (d : Decimal) : Int := d.exponent + (digitChars d.digits).length - 1

def Decimal.scientific (plusSign : Bool) (d : Decimal) : List Char :=
  let mantissa := match digitChars d.digits with
    | first :: second :: rest => first :: '.' :: second :: rest
    | digits => digits
  let sign := if d.leading < 0 then ['-'] else if plusSign then ['+'] else []
  mantissa ++ 'e' :: sign ++ digitChars d.leading.natAbs

def Decimal.write (layout : Layout) (d : Decimal) : List Char :=
  if d.digits = 0 ∨ (layout.least ≤ d.leading ∧ d.leading ≤ layout.greatest) then d.positional
  else d.scientific layout.plusSign

namespace Binary64

def signChars (x : Binary64) : List Char := if x.negative then ['-'] else []

/-- A NaN has no sign; every other number shows its own, also zero and the infinities. -/
def write (layout : Layout) (x : Binary64) : List Char :=
  if x.isNaN then ['N', 'a', 'N']
  else if x.isInfinite then x.signChars ++ ['i', 'n', 'f']
  else x.signChars ++ (x.shortest layout.tie).write layout

/-- The exact value rounded to `places` digits behind the point, a half to the even neighbour. -/
def writeFixed (places : Nat) (x : Binary64) : List Char :=
  if x.isNaN then ['N', 'a', 'N']
  else if x.isInfinite then x.signChars ++ ['i', 'n', 'f']
  else
    let units := divHalfEven (x.numerator * Nat.pow 10 places) x.denominator
    let fraction := digitChars (units % Nat.pow 10 places)
    x.signChars ++ digitChars (units / Nat.pow 10 places) ++
      '.' :: List.replicate (places - fraction.length) '0' ++ fraction

/-- The text of a reading. -/
def text (x : Binary64) : String := String.ofList (x.write .report)

def fixedText (places : Nat) (x : Binary64) : String := String.ofList (x.writeFixed places)

/-- The text of a list of readings. -/
def listText (xs : List Binary64) : String := Text.bracketed (xs.map text)

end Binary64
end OpticsCheck
