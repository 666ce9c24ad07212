import OpticsCheck.Json.Reader

/-!
# Numbers in a document

A numeral is an optional minus sign, digits without a needless leading zero, and then optionally a
fraction and an exponent. Its value is computed from the leading digits that fit 64 bits: later
digits before the point only scale it, later digits behind the point are dropped. The scaled value
is rounded when the digits are turned into a binary64 number, and again when it is multiplied or
divided by a power of ten.
-/

namespace OpticsCheck.Json

/-- A numeral by its parts. -/
structure Numeral where
  negative : Bool
  whole : List Char
  fraction : Option (List Char)
  exponent : Option (Bool × List Char)
deriving DecidableEq, Repr

def digitValue (c : Char) : Nat := c.toNat - '0'.toNat

def natOfDigits (ds : List Char) : Nat := ds.foldl (fun n d => n * 10 + digitValue d) 0

def wordLimit : Nat := UInt64.size

/-- The value of the leading digits that fit 64 bits, and how many digits came after them. -/
def leadingDigits (ds : List Char) : Nat × Nat :=
  ds.foldl
    (fun (n, dropped) d =>
      if dropped = 0 ∧ n * 10 + digitValue d < wordLimit then (n * 10 + digitValue d, 0)
      else (n, dropped + 1))
    (0, 0)

/-- Continues `n` by the fraction's digits while they fit; the number of those taken. -/
def appendFraction (n : Nat) : List Char → Nat × Nat
  | [] => (n, 0)
  | d :: ds =>
    if n * 10 + digitValue d < wordLimit then
      let (m, taken) := appendFraction (n * 10 + digitValue d) ds
      (m, taken + 1)
    else (n, 0)

/-- `x · 10 ^ exponent`, in steps of at most 308 powers of ten; `none` past the largest number. -/
def scaled : Nat → Binary64 → Int → Option Binary64
  | 0, x, _ => some x
  | steps + 1, x, exponent =>
    if exponent.natAbs ≤ 308 then
      if 0 ≤ exponent then
        let y := x.mul (.ofNat (Nat.pow 10 exponent.natAbs))
        if y.isInfinite then none else some y
      else some (x.div (.ofNat (Nat.pow 10 exponent.natAbs)))
    else if x.isZero then some x
    else if 0 ≤ exponent then none
    else scaled steps (x.div (.ofNat (Nat.pow 10 308))) (exponent + 308)

namespace Numeral

def power (n : Numeral) : Int :=
  match n.exponent with
  | none => 0
  | some (negative, ds) => if negative then -natOfDigits ds else natOfDigits ds

/-- The absolute value as a binary64 number; `none` past the largest one. -/
def real? (n : Numeral) : Option Binary64 :=
  let (whole, dropped) := leadingDigits n.whole
  let (digits, places) := appendFraction whole (n.fraction.getD [])
  let exponent := (dropped : Int) - places + n.power
  scaled (exponent.natAbs / 308 + 1) (.ofNat digits) exponent

/-- Whether it is written as an integer. -/
def isInteger (n : Numeral) : Bool := n.fraction.isNone && n.exponent.isNone

/-- An integer that fits a word is kept as such, except a negative zero. -/
def value (n : Numeral) : Except Problem Number :=
  let (whole, dropped) := leadingDigits n.whole
  if n.isInteger ∧ dropped = 0 ∧ !n.negative then .ok (.natural whole)
  else if n.isInteger ∧ dropped = 0 ∧ 0 < whole ∧ whole ≤ wordLimit / 2 then .ok (.negative whole)
  else match n.real? with
    | some x => .ok (.real (if n.negative then x.neg else x))
    | none => .error (.malformed .numberOutOfRange)

end Numeral

def isDigit (c : Char) : Bool := '0' ≤ c && c ≤ '9'

namespace Reader

def digits : Reader (List Char) := fun cs => .ok (cs.takeWhile isDigit, cs.dropWhile isDigit)

/-- At least one digit; `ended` is the problem where the text ends instead. -/
def someDigits (ended : Problem) : Reader (List Char) := fun cs =>
  match cs with
  | [] => .error ended
  | c :: _ =>
    if isDigit c then .ok (cs.takeWhile isDigit, cs.dropWhile isDigit)
    else .error (.malformed .invalidNumber)

def wholeDigits (ended : Problem) : Reader (List Char) := fun cs =>
  match cs with
  | [] => .error ended
  | ['0'] => .ok (['0'], [])
  | '0' :: c :: rest =>
    if isDigit c then .error (.malformed .invalidNumber) else .ok (['0'], c :: rest)
  | _ => someDigits ended cs

def fraction (ended : Problem) : Reader (Option (List Char)) := do
  match ← get with
  | '.' :: rest => set rest; some <$> someDigits ended
  | _ => return none

def exponent (ended : Problem) : Reader (Option (Bool × List Char)) := do
  match ← get with
  | c :: rest =>
    if c = 'e' ∨ c = 'E' then
      match rest with
      | '+' :: after => set after; return some (false, ← someDigits ended)
      | '-' :: after => set after; return some (true, ← someDigits ended)
      | _ => set rest; return some (false, ← someDigits ended)
    else return none
  | [] => return none

/-- A numeral from its first character on; `ended` is the problem where the text ends too early. -/
def numeral (ended : Problem) : Reader Numeral := do
  let negative ← match ← get with
    | '-' :: rest => set rest; pure true
    | _ => pure false
  let whole ← wholeDigits ended
  let fraction ← fraction ended
  let exponent ← exponent ended
  return ⟨negative, whole, fraction, exponent⟩

def number : Reader Number := do
  let n ← numeral (.cutShort .value)
  n.value

end Reader
end OpticsCheck.Json
