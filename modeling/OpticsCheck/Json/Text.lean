import OpticsCheck.Json.Reader

/-!
# Strings in a document

A string is read from behind its opening quote. Escaped code points beyond the basic plane come as
two surrogate escapes, which must form a pair. A string that is skipped is only cut at its end:
its surrogates are not looked at. Writing escapes quotes, backslashes and controls.
-/

namespace OpticsCheck.Json

def hexValue? (c : Char) : Option Nat :=
  if '0' ≤ c ∧ c ≤ '9' then some (c.toNat - '0'.toNat)
  else if 'a' ≤ c ∧ c ≤ 'f' then some (c.toNat - 'a'.toNat + 10)
  else if 'A' ≤ c ∧ c ≤ 'F' then some (c.toNat - 'A'.toNat + 10)
  else none

def hexCode? (a b c d : Char) : Option Nat := do
  return (((← hexValue? a) * 16 + (← hexValue? b)) * 16 + (← hexValue? c)) * 16 + (← hexValue? d)

def utf8Length (cs : List Char) : Nat := (String.ofList cs).utf8ByteSize

/-- What is wrong where four hexadecimal digits should stand: fewer than four bytes are left, or
some are no digits. -/
def hexProblem (cs : List Char) : Problem :=
  if utf8Length cs < 4 then .cutShort .string else .malformed .invalidEscape

/-- What is wrong where a low surrogate's escape should begin. -/
def pairProblem : List Char → Problem
  | [] => .cutShort .string
  | ['\\'] => .cutShort .string
  | '\\' :: 'u' :: rest => hexProblem rest
  | _ => .malformed .unfinishedSurrogate

def isHighSurrogate (code : Nat) : Bool := 0xD800 ≤ code && code < 0xDC00

def isLowSurrogate (code : Nat) : Bool := 0xDC00 ≤ code && code < 0xE000

def pairedCode (high low : Nat) : Nat := (high - 0xD800) * 0x400 + (low - 0xDC00) + 0x10000

/-- The character that a one-letter escape stands for. -/
def shortEscape? : Char → Option Char
  | '"' => some '"'
  | '\\' => some '\\'
  | '/' => some '/'
  | 'b' => some '\x08'
  | 'f' => some '\x0c'
  | 'n' => some '\n'
  | 'r' => some '\r'
  | 't' => some '\t'
  | _ => none

/-- The characters up to the closing quote, and what follows it. -/
def stringBody : List Char → Except Problem (List Char × List Char)
  | [] => .error (.cutShort .string)
  | '"' :: rest => .ok ([], rest)
  | '\\' :: 'u' :: a :: b :: c :: d :: rest =>
    match hexCode? a b c d with
    | none => .error (hexProblem (a :: b :: c :: d :: rest))
    | some code =>
      if isLowSurrogate code then .error (.malformed .loneSurrogate)
      else if isHighSurrogate code then
        match rest with
        | '\\' :: 'u' :: e :: f :: g :: h :: after =>
          match hexCode? e f g h with
          | none => .error (hexProblem (e :: f :: g :: h :: after))
          | some low =>
            if isLowSurrogate low then do
              let (body, left) ← stringBody after
              return (Char.ofNat (pairedCode code low) :: body, left)
            else .error (.malformed .loneSurrogate)
        | _ => .error (pairProblem rest)
      else do
        let (body, left) ← stringBody rest
        return (Char.ofNat code :: body, left)
  | '\\' :: 'u' :: rest => .error (hexProblem rest)
  | ['\\'] => .error (.cutShort .string)
  | '\\' :: c :: rest =>
    match shortEscape? c with
    | none => .error (.malformed .invalidEscape)
    | some plain => do
      let (body, left) ← stringBody rest
      return (plain :: body, left)
  | c :: rest =>
    if c.toNat < 0x20 then .error (.malformed .controlInString)
    else do
      let (body, left) ← stringBody rest
      return (c :: body, left)

/-- What follows the closing quote of a string that nobody asks for. -/
def skipString : List Char → Except Problem (List Char)
  | [] => .error (.cutShort .string)
  | '"' :: rest => .ok rest
  | '\\' :: 'u' :: a :: b :: c :: d :: rest =>
    if (hexCode? a b c d).isSome then skipString rest
    else .error (hexProblem (a :: b :: c :: d :: rest))
  | '\\' :: 'u' :: rest => .error (hexProblem rest)
  | ['\\'] => .error (.cutShort .string)
  | '\\' :: c :: rest =>
    if (shortEscape? c).isSome then skipString rest else .error (.malformed .invalidEscape)
  | c :: rest => if c.toNat < 0x20 then .error (.malformed .controlInString) else skipString rest

namespace Reader

/-- A string whose opening quote is the next character. -/
def quotedString : Reader String := do
  advance
  fun cs => (stringBody cs).map fun (body, rest) => (String.ofList body, rest)

end Reader

def hexDigit (n : Nat) : Char := (Nat.toDigits 16 n).headD '0'

def escapedChar (c : Char) : List Char :=
  if c = '"' then ['\\', '"']
  else if c = '\\' then ['\\', '\\']
  else if c = '\x08' then ['\\', 'b']
  else if c = '\x0c' then ['\\', 'f']
  else if c = '\n' then ['\\', 'n']
  else if c = '\r' then ['\\', 'r']
  else if c = '\t' then ['\\', 't']
  else if c.toNat < 0x20 then
    ['\\', 'u', '0', '0', hexDigit (c.toNat / 16), hexDigit (c.toNat % 16)]
  else [c]

def writeString (s : String) : List Char := '"' :: s.toList.flatMap escapedChar ++ ['"']

end OpticsCheck.Json
