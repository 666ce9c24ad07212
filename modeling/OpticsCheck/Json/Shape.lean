import OpticsCheck.Json.Skip

/-!
# Reading values of a given shape

Readers for strings, booleans, numbers, keywords, lists and maps. Where something else stands, the
problem names what was found, which therefore has to be well-formed itself.
-/

namespace OpticsCheck.Json.Reader

variable {α : Type}

/-- The problem of a value that starts with `c` where `expected` was asked for. -/
def mistaken (expected : String) (c : Char) : Reader α := do
  let found : Found ←
    if c = 'n' then word ['n', 'u', 'l', 'l'] *> pure .null
    else if c = 't' then word ['t', 'r', 'u', 'e'] *> pure (.boolean true)
    else if c = 'f' then word ['f', 'a', 'l', 's', 'e'] *> pure (.boolean false)
    else if c = '-' ∨ isDigit c then .number <$> number
    else if c = '"' then .string <$> quotedString
    else if c = '[' then pure .list
    else if c = '\x7b' then pure .object
    else malformed .expectedValue
  mismatch (.wrongType found expected)

/-- Reads on where a value starts. -/
def startingWith (continue? : Char → Option (Reader α)) (expected : String) : Reader α := do
  match ← peek with
  | none => cutShort .value
  | some c => match continue? c with
    | some reader => reader
    | none => mistaken expected c

def string (expected : String) : Reader String :=
  startingWith (fun c => if c = '"' then some quotedString else none) expected

def text : Reader String := string "a string"

def boolean : Reader Bool :=
  startingWith
    (fun c =>
      if c = 't' then some (word ['t', 'r', 'u', 'e'] *> pure true)
      else if c = 'f' then some (word ['f', 'a', 'l', 's', 'e'] *> pure false)
      else none)
    "a boolean"

def null : Reader Unit :=
  startingWith (fun c => if c = 'n' then some (word ['n', 'u', 'l', 'l']) else none) "unit"

def anyNumber (expected : String) : Reader Number :=
  startingWith (fun c => if c = '-' ∨ isDigit c then some number else none) expected

/-- A natural number below `2 ^ 64`. -/
def word64 : Reader UInt64 := do
  match ← anyNumber "u64" with
  | .natural n => return UInt64.ofNat n
  | .negative n => mismatch (.wrongValue (.negative n) "u64")
  | .real x => mismatch (.wrongType (.number (.real x)) "u64")

def binary64 : Reader Binary64 := do
  match ← anyNumber "f64" with
  | .natural n => return .ofNat n
  | .negative n => return .ofInt (-n)
  | .real x => return x

/-- A value or `null`. -/
def optional (reader : Reader α) : Reader (Option α) := do
  match ← peek with
  | some 'n' => word ['n', 'u', 'l', 'l']; return none
  | _ => some <$> reader

/-- The items of a list after its opening bracket, up to its closing one. -/
def items (item : Reader α) : (steps : Nat) → (first : Bool) → Reader (List α)
  | 0, _ => return []
  | steps + 1, first => do
    if ← moreItems first then
      let head ← item
      let tail ← items item steps false
      return head :: tail
    else return []

def list (item : Reader α) : Reader (List α) :=
  startingWith
    (fun c =>
      if c = '[' then some do
        advance
        let all ← items item ((← get).length + 1) true
        closeList
        return all
      else none)
    "a sequence"

/-- The entries of a map after its opening brace; `add` takes in one entry. -/
def entries {β : Type} (value : Reader α) (add : β → String → α → β) :
    (steps : Nat) → (first : Bool) → β → Reader β
  | 0, _, map => return map
  | steps + 1, first, map => do
    if ← moreMembers first then
      let key ← quotedString
      colon
      let entry ← value
      entries value add steps false (add map key entry)
    else return map

def map {β : Type} (value : Reader α) (empty : β) (add : β → String → α → β) : Reader β :=
  startingWith
    (fun c =>
      if c = '\x7b' then some do
        advance
        let all ← entries value add ((← get).length + 1) true empty
        closeObject
        return all
      else none)
    "a map"

def keywordIn (known : List (String × α)) (found : String) : Reader α :=
  match known.lookup found with
  | some value => return value
  | none => mismatch (.unknownKeyword found (known.map (·.1)))

/-- The key of an object that has to have one. -/
def onlyKey : Reader String := do
  match ← peek with
  | none => cutShort .value
  | some '"' => quotedString
  | some '\x7d' => malformed .expectedValue
  | some _ => malformed .keyNotString

/-- A keyword as a string, or as the only key of an object whose value is `null`. -/
def keyword (known : List (String × α)) : Reader α := do
  match ← peek with
  | none => cutShort .value
  | some '"' => keywordIn known (← quotedString)
  | some '\x7b' =>
    advance
    let value ← keywordIn known (← onlyKey)
    colon
    null
    match ← peek with
    | none => cutShort .object
    | some '\x7d' => advance; return value
    | some _ => malformed .expectedValue
  | some _ => malformed .expectedValue

end OpticsCheck.Json.Reader
