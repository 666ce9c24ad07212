import OpticsCheck.Json.Text
import OpticsCheck.Json.Numeral

/-!
# Skipping a value

A value that nobody asks for must still be well-formed, however deep it nests. The brackets that
are open are kept in a list, so that no nesting is too deep, and each step passes a character.
-/

namespace OpticsCheck.Json

inductive Bracket where
  | list
  | object
deriving DecidableEq, Repr

def Bracket.unfinished : Bracket → Unfinished
  | .list => .list
  | .object => .object

def Bracket.closing : Bracket → Char
  | .list => ']'
  | .object => '\x7d'

/-- What may come next while skipping. -/
inductive Awaited where
  | value
  | key
  /-- A comma or the closing bracket, or nothing more once all brackets are closed. -/
  | separator

/-- What follows a number, a word or a string. -/
def skipScalar (c : Char) (rest : List Char) : Except Problem (List Char) :=
  if c = '"' then skipString rest
  else if c = 'n' then (·.2) <$> Reader.word ['u', 'l', 'l'] rest
  else if c = 't' then (·.2) <$> Reader.word ['r', 'u', 'e'] rest
  else if c = 'f' then (·.2) <$> Reader.word ['a', 'l', 's', 'e'] rest
  else if c = '-' ∨ isDigit c then
    (·.2) <$> Reader.numeral (.malformed .invalidNumber) (c :: rest)
  else .error (.malformed .expectedValue)

/-- What follows a member's key, from behind its opening quote, and its colon. -/
def skipKey (rest : List Char) : Except Problem (List Char) := do
  match afterBlanks (← skipString rest) with
  | [] => .error (.cutShort .object)
  | ':' :: after => .ok after
  | _ => .error (.malformed .expectedColon)

/-- Skips with at most `steps` steps; each passes a character at least. -/
def skip : (steps : Nat) → Awaited → List Bracket → List Char → Except Problem (List Char)
  | 0, _, _, cs => .ok cs
  | steps + 1, .value, stack, cs =>
    match afterBlanks cs with
    | [] => .error (.cutShort .value)
    | '[' :: rest =>
      match afterBlanks rest with
      | [] => .error (.cutShort .list)
      | ']' :: after => skip steps .separator stack after
      | after => skip steps .value (.list :: stack) after
    | '\x7b' :: rest =>
      match afterBlanks rest with
      | [] => .error (.cutShort .object)
      | '\x7d' :: after => skip steps .separator stack after
      | after => skip steps .key (.object :: stack) after
    | c :: rest =>
      match skipScalar c rest with
      | .error problem => .error problem
      | .ok after => skip steps .separator stack after
  | steps + 1, .key, stack, cs =>
    match afterBlanks cs with
    | [] => .error (.cutShort .object)
    | '"' :: rest =>
      match skipKey rest with
      | .error problem => .error problem
      | .ok after => skip steps .value stack after
    | _ => .error (.malformed .keyNotString)
  | _ + 1, .separator, [], cs => .ok cs
  | steps + 1, .separator, bracket :: stack, cs =>
    match afterBlanks cs with
    | [] => .error (.cutShort bracket.unfinished)
    | c :: rest =>
      if c = ',' then
        skip steps (match bracket with | .list => .value | .object => .key) (bracket :: stack) rest
      else if c = bracket.closing then skip steps .separator stack rest
      else .error (.malformed (match bracket with
        | .list => .expectedListEnd
        | .object => .expectedObjectEnd))

/-- Passes a value; more steps than there are characters are never needed. -/
def Reader.skipValue : Reader Unit := fun cs =>
  (skip (cs.length + 1) .value [] cs).map ((), ·)

end OpticsCheck.Json
