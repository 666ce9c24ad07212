/-!
# Terminal escape sequences

Recognising the sequences that a terminal acts upon and does not show. A code is an introducer, then
brackets, then parts of a few digits separated by semicolons, then a final character, which may be
missing after digits; of the codes that start at one place the longest counts. A control string is
an escape, a character that says what it is for, and any text up to a terminator or the end. The
sequences cut a text into the pieces that are shown.
-/

namespace OpticsCheck.Escapes

inductive Place where
  /-- Behind the introducer. -/
  | introduced
  /-- Behind a single parenthesis. -/
  | charset
  | brackets
  /-- Behind that many digits of a part. -/
  | digits (count : Nat)
  | semicolon
  /-- Behind a complete sequence that cannot go on. -/
  | ended
deriving DecidableEq, Repr

/-- Whether a sequence may stop here. -/
def Place.complete : Place → Bool
  | .digits _ => true
  | .ended => true
  | _ => false

def isFinal (c : Char) : Bool :=
  ('A' ≤ c && c ≤ 'P') || c = 'R' || c = 'Z' || c = 'c' || ('f' ≤ c && c ≤ 'n')
    || c = 'q' || c = 'r' || c = 'y' || c = '=' || c = '<' || c = '>'

def isIntroducer (c : Char) : Bool := c = '\x1b' || c = '\u009b'

def Place.next? (place : Place) (c : Char) : Option Place :=
  if c = '(' ∨ c = ')' then
    match place with
    | .introduced => some .charset
    | .charset => some .brackets
    | .brackets => some .brackets
    | _ => none
  else if c = '[' ∨ c = '#' ∨ c = '?' then
    match place with
    | .introduced => some .brackets
    | .charset => some .brackets
    | .brackets => some .brackets
    | _ => none
  else if c = ';' then
    match place with
    | .introduced => some .brackets
    | .charset => some .brackets
    | .brackets => some .brackets
    | .digits count => if count < 5 then some .semicolon else none
    | .semicolon => some .semicolon
    | .ended => none
  else if c.isDigit then
    match place with
    | .introduced => some (.digits 1)
    | .brackets => some (.digits 1)
    | .charset => some (if c ≤ '2' then .ended else .digits 1)
    | .digits count => if count < 5 then some (.digits (count + 1)) else none
    | .semicolon => some (.digits 1)
    | .ended => none
  else if isFinal c then
    match place with
    | .charset => some .ended
    | .ended => none
    | .digits count => if count < 5 then some .ended else none
    | _ => some .ended
  else none

/-- What follows the longest sequence that goes on from `place`; `best` follows the longest complete
one so far. -/
def longest (place : Place) (best : Option (List Char)) : List Char → Option (List Char)
  | [] => if place.complete then some [] else best
  | c :: rest =>
    let best := if place.complete then some (c :: rest) else best
    match place.next? c with
    | none => best
    | some next => longest next best rest

/-- What follows a control string; a bell ends only some of them. -/
def afterString (bellEnds : Bool) : List Char → List Char
  | [] => []
  | c :: rest =>
    if c = '\u009C' ∨ (bellEnds ∧ c = '\x07') then rest
    else if c = '\x1b' ∧ rest.head? = some '\\' then rest.tail
    else afterString bellEnds rest

/-- What follows the sequence at the start of the text. -/
def sequence? : List Char → Option (List Char)
  | [] => none
  | c :: rest =>
    if c = '\x1b' ∧ rest.head? = some ']' then some (afterString true rest.tail)
    else if c = '\x1b' ∧ rest.head? = some 'P' then some (afterString false rest.tail)
    else if isIntroducer c then longest .introduced none rest
    else none

/-- The pieces between sequences, found by looking at no more than `steps` places. -/
def piecesFrom : (steps : Nat) → List Char → List (List Char)
  | 0, _ => [[]]
  | _ + 1, [] => [[]]
  | steps + 1, c :: rest =>
    match sequence? (c :: rest) with
    | some after => [] :: piecesFrom steps after
    | none => match piecesFrom steps rest with
      | [] => [[c]]
      | piece :: pieces => (c :: piece) :: pieces

def pieces (cs : List Char) : List (List Char) := piecesFrom cs.length cs

end OpticsCheck.Escapes
