import OpticsCheck.Text.Ranges

/-!
# Patterns

Whether a text is a well-formed regular expression: groups and classes are closed, a repetition has
something to repeat, and escapes are known. Counted repetitions cannot occur, since a closing brace
would end the text that holds the pattern. Nothing is ever matched against a pattern.
-/

namespace OpticsCheck.Pattern

def isHexDigit (c : Char) : Bool :=
  c.isDigit || ('a' ≤ c && c ≤ 'f') || ('A' ≤ c && c ≤ 'F')

/-- What follows `count` hexadecimal digits. -/
def afterCode? : (count : Nat) → List Char → Option (List Char)
  | 0, cs => some cs
  | count + 1, c :: rest => if isHexDigit c then afterCode? count rest else none
  | _ + 1, [] => none

/-- What follows the backslash's operand: a class, a control, a code, or any ASCII punctuation. -/
def afterEscape? : List Char → Option (List Char)
  | [] => none
  | c :: rest =>
    if c = 'x' then afterCode? 2 rest
    else if c = 'u' then afterCode? 4 rest
    else if c = 'U' then afterCode? 8 rest
    else if c = 'p' ∨ c = 'P' then
      if rest.head?.any ['L', 'M', 'N', 'P', 'S', 'Z', 'C'].contains then some rest.tail else none
    else if ['d', 'D', 's', 'S', 'w', 'W', 'a', 'f', 't', 'n', 'r', 'v', 'A', 'z'].contains c then
      some rest
    else if c.toNat < 0x80 && !c.isAlphanum && c ≠ '<' && c ≠ '>' then some rest
    else none

/-- What follows a class of characters from inside it; `depth` classes are open around it. -/
def afterClass? : (steps : Nat) → (depth : Nat) → List Char → Option (List Char)
  | 0, _, _ => none
  | _ + 1, _, [] => none
  | steps + 1, depth, c :: rest =>
    if c = ']' then if depth = 0 then some rest else afterClass? steps (depth - 1) rest
    else if c = '[' then afterClass? steps (depth + 1) rest
    else if c = '\\' then (afterEscape? rest).bind (afterClass? steps depth)
    else match rest with
      | '-' :: d :: after =>
        if d = ']' ∨ d = '[' ∨ d = '\\' ∨ d = '-' then afterClass? steps depth rest
        else if c ≤ d then afterClass? steps depth after
        else none
      | _ => afterClass? steps depth rest

/-- A bracket right at the start of a class stands for itself. -/
def afterClassStart? (cs : List Char) : Option (List Char) :=
  let cs := if cs.head? = some '^' then cs.tail else cs
  let cs := if cs.head? = some ']' then cs.tail else cs
  afterClass? (cs.length + 1) 0 cs

/-- What follows the name of a group, which ends in an angle bracket. -/
def afterName? (cs : List Char) : Option (List Char) :=
  let name := cs.takeWhile (· ≠ '>')
  if name ≠ [] ∧ name.all (fun c => c.isAlphanum || c = '_') ∧ cs.length ≠ name.length then
    some (cs.drop (name.length + 1))
  else none

/-- What follows the start of a group, and whether it opens one: flags alone do not. -/
def afterGroupStart? : List Char → Option (List Char × Bool)
  | '?' :: 'P' :: '<' :: rest => (afterName? rest).map (·, true)
  | '?' :: '<' :: rest => (afterName? rest).map (·, true)
  | '?' :: rest =>
    let flags := rest.takeWhile fun c => ['i', 'm', 's', 'U', 'u', 'x', 'R', '-'].contains c
    match rest.drop flags.length with
    | ':' :: after => some (after, true)
    | ')' :: after => if flags = [] then none else some (after, false)
    | _ => none
  | rest => some (rest, true)

/-- Reads on with that many groups open; `operand` says whether a repetition may follow. -/
def isWellFormedFrom : (steps : Nat) → (groups : Nat) → (operand : Bool) → List Char → Bool
  | _, groups, _, [] => groups = 0
  | 0, _, _, _ :: _ => false
  | steps + 1, groups, operand, c :: rest =>
    if c = '\\' then (afterEscape? rest).any (isWellFormedFrom steps groups true)
    else if c = '[' then (afterClassStart? rest).any (isWellFormedFrom steps groups true)
    else if c = '(' then (afterGroupStart? rest).any fun (rest, opens) =>
      isWellFormedFrom steps (if opens then groups + 1 else groups) false rest
    else if c = ')' then 0 < groups && isWellFormedFrom steps (groups - 1) true rest
    else if c = '*' ∨ c = '+' ∨ c = '?' then operand && isWellFormedFrom steps groups true rest
    else if c = '\x7b' then false
    else isWellFormedFrom steps groups (c ≠ '|') rest

def isWellFormed (cs : List Char) : Bool := isWellFormedFrom cs.length 0 false cs

end OpticsCheck.Pattern
