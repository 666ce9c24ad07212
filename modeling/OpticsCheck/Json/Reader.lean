import OpticsCheck.Json.Problem

/-!
# Reading a document front to back

A reader takes the rest of the text and gives a value and what is left, or the first problem.
Blanks may stand between tokens; this module has the steps that skip them, look at the next
character, and pass the commas, colons and brackets of lists and objects.
-/

namespace OpticsCheck.Json

abbrev Reader (α : Type) := StateT (List Char) (Except Problem) α

def isBlank (c : Char) : Bool := c = ' ' || c = '\n' || c = '\t' || c = '\r'

def afterBlanks (cs : List Char) : List Char := cs.dropWhile isBlank

namespace Reader

variable {α : Type}

def cutShort (reading : Unfinished) : Reader α := throw (.cutShort reading)

def malformed (what : Malformation) : Reader α := throw (.malformed what)

def mismatch (what : Mismatch) : Reader α := throw (.mismatch what)

/-- Skips blanks and shows the character after them, which stays unread. -/
def peek : Reader (Option Char) := fun cs => .ok ((afterBlanks cs).head?, afterBlanks cs)

/-- Passes one character. -/
def advance : Reader Unit := fun cs => .ok ((), cs.tail)

/-- Reads the letters of a word. -/
def word : List Char → Reader Unit
  | [] => pure ()
  | c :: rest => do
    match ← get with
    | [] => cutShort .value
    | d :: after =>
      if c = d then set after; word rest else malformed .expectedWord

def colon : Reader Unit := do
  match ← peek with
  | none => cutShort .object
  | some ':' => advance
  | some _ => malformed .expectedColon

/-- Whether a list has a further item; a comma before it is passed, the closing bracket is not. -/
def moreItems (first : Bool) : Reader Bool := do
  match ← peek with
  | none => cutShort .list
  | some ']' => return false
  | some c =>
    if first then return true
    else if c = ',' then
      advance
      match ← peek with
      | none => cutShort .value
      | some ']' => malformed .trailingComma
      | some _ => return true
    else malformed .expectedListEnd

/-- Whether an object has a further member, whose key then starts at the next character. -/
def moreMembers (first : Bool) : Reader Bool := do
  match ← peek with
  | none => cutShort .object
  | some '\x7d' => return false
  | some c =>
    if first then
      if c = '"' then return true else malformed .keyNotString
    else if c = ',' then
      advance
      match ← peek with
      | none => cutShort .value
      | some '"' => return true
      | some '\x7d' => malformed .trailingComma
      | some _ => malformed .keyNotString
    else malformed .expectedObjectEnd

def closeList : Reader Unit := do
  match ← peek with
  | none => cutShort .list
  | some ']' => advance
  | some ',' =>
    advance
    match ← peek with
    | some ']' => malformed .trailingComma
    | _ => malformed .trailingCharacters
  | some _ => malformed .trailingCharacters

def closeObject : Reader Unit := do
  match ← peek with
  | none => cutShort .object
  | some '\x7d' => advance
  | some ',' => malformed .trailingComma
  | some _ => malformed .trailingCharacters

/-- Nothing but blanks may follow a document. -/
def finish : Reader Unit := do
  match ← peek with
  | none => return ()
  | some _ => malformed .trailingCharacters

/-- The whole document. -/
def readAll (reader : Reader α) (text : String) : Except Problem α :=
  (do let value ← reader; finish; return value).run' text.toList

end Reader
end OpticsCheck.Json
