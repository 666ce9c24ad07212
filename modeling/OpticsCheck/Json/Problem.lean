import OpticsCheck.Binary64.Layout

/-!
# What can be wrong with a JSON document

A document is read front to back and the first problem decides. It is one of three kinds: the text
ends too early, the text is not JSON, or the JSON does not have the shape that was asked for.
-/

namespace OpticsCheck.Json

/-- What was being read when the text ended. -/
inductive Unfinished where
  | list
  | object
  | string
  | value
deriving DecidableEq, Repr

inductive Malformation where
  | expectedColon
  | expectedListEnd
  | expectedObjectEnd
  | expectedWord
  | expectedValue
  | invalidEscape
  | invalidNumber
  | numberOutOfRange
  | controlInString
  | keyNotString
  | loneSurrogate
  | unfinishedSurrogate
  | trailingComma
  | trailingCharacters
deriving DecidableEq, Repr

/-- A number as it is written: a natural number below `2 ^ 64`, a negative integer not below
`-2 ^ 63`, or anything else. -/
inductive Number where
  | natural (n : Nat)
  | negative (n : Nat)
  | real (x : Binary64)
deriving DecidableEq, Repr

/-- What stands where something else was asked for. -/
inductive Found where
  | null
  | boolean (b : Bool)
  | number (n : Number)
  | string (s : String)
  | list
  | object
deriving DecidableEq, Repr

inductive Mismatch where
  | missingField (name : String)
  | duplicateField (name : String)
  | unknownKeyword (found : String) (known : List String)
  | wrongType (found : Found) (expected : String)
  | wrongValue (found : Number) (expected : String)
  | wrongLength (length : Nat) (expected : String)
deriving DecidableEq, Repr

inductive Problem where
  | cutShort (reading : Unfinished)
  | malformed (what : Malformation)
  | mismatch (what : Mismatch)
deriving DecidableEq, Repr

def Unfinished.message : Unfinished → String
  | .list => "EOF while parsing a list"
  | .object => "EOF while parsing an object"
  | .string => "EOF while parsing a string"
  | .value => "EOF while parsing a value"

def Malformation.message : Malformation → String
  | .expectedColon => "expected `:`"
  | .expectedListEnd => "expected `,` or `]`"
  | .expectedObjectEnd => "expected `,` or `\x7d`"
  | .expectedWord => "expected ident"
  | .expectedValue => "expected value"
  | .invalidEscape => "invalid escape"
  | .invalidNumber => "invalid number"
  | .numberOutOfRange => "number out of range"
  | .controlInString =>
    "control character (\\u0000-\\u001F) found while parsing a string"
  | .keyNotString => "key must be a string"
  | .loneSurrogate => "lone leading surrogate in hex escape"
  | .unfinishedSurrogate => "unexpected end of hex escape"
  | .trailingComma => "trailing comma"
  | .trailingCharacters => "trailing characters"

def inTicks (text : String) : String := "`" ++ text ++ "`"

def Number.describe : Number → String
  | .natural n => "integer " ++ inTicks (String.ofList (digitChars n))
  | .negative n => "integer " ++ inTicks (String.ofList ('-' :: digitChars n))
  | .real x => "floating point " ++ inTicks (String.ofList (x.write .document))

def Found.describe : Found → String
  | .null => "null"
  | .boolean b => "boolean " ++ inTicks (if b then "true" else "false")
  | .number n => n.describe
  | .string s => "string " ++ Text.quoted s
  | .list => "sequence"
  | .object => "map"

def Mismatch.message : Mismatch → String
  | .missingField name => "missing field " ++ inTicks name
  | .duplicateField name => "duplicate field " ++ inTicks name
  | .unknownKeyword found known =>
    "unknown variant " ++ inTicks found ++ ", expected one of "
      ++ ", ".intercalate (known.map inTicks)
  | .wrongType found expected => "invalid type: " ++ found.describe ++ ", expected " ++ expected
  | .wrongValue found expected => "invalid value: " ++ found.describe ++ ", expected " ++ expected
  | .wrongLength length expected =>
    "invalid length " ++ String.ofList (digitChars length) ++ ", expected " ++ expected

def Problem.message : Problem → String
  | .cutShort reading => reading.message
  | .malformed what => what.message
  | .mismatch what => what.message

end OpticsCheck.Json
