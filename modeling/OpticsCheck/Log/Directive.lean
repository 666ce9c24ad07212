import OpticsCheck.Text.Alphanumeric
import OpticsCheck.Text.Blank
import OpticsCheck.Log.Event
import OpticsCheck.Log.Pattern

/-!
# Filter directives

A directive of a log filter says how much passes, and of what: of the targets that begin in a given
way, of what is logged inside a span, or of what has a field. It is written
`target[span{field=value}]=level`, where all parts may be missing; a level may also stand alone.
-/

namespace OpticsCheck

/-- Asks for a field by its name, and possibly for its value. -/
structure FieldTest where
  name : String
  value : Option String := none
deriving DecidableEq, Repr

structure Directive where
  /-- How the targets begin; `none` admits all. -/
  target : Option String := none
  span : Option String := none
  field : Option FieldTest := none
  /-- The greatest verbosity let through; zero lets nothing through. -/
  verbosity : Nat
deriving DecidableEq, Repr

/-- A number without sign, exponent included, or infinity or no number. -/
def isMagnitude (cs : List Char) : Bool :=
  let word := (String.ofList cs).toLower
  let (mantissa, exponent) := (cs.takeWhile (fun c => c ≠ 'e' ∧ c ≠ 'E'),
    cs.dropWhile (fun c => c ≠ 'e' ∧ c ≠ 'E'))
  let digits := exponent.tail.dropWhile fun c => c = '+' ∨ c = '-'
  word = "inf" || word = "infinity" || word = "nan"
    || (mantissa.any Char.isDigit && mantissa.all (fun c => c.isDigit || c = '.')
      && mantissa.count '.' ≤ 1
      && (exponent = [] || (digits ≠ [] && digits.all Char.isDigit
        && exponent.length ≤ digits.length + 2)))

namespace FieldTest

/-- A value that is no number and no truth value is a pattern, which has to be well-formed. Of all
numbers only those with a plus sign are no patterns. -/
def isValue (cs : List Char) : Bool :=
  Pattern.isWellFormed cs || (cs.head? = some '+' && isMagnitude cs.tail)

/-- A name, or a name and a value; what a second equals sign starts is ignored. -/
def ofChars? (cs : List Char) : Option FieldTest :=
  match cs.splitOn '=' with
  | [] => none
  | [name] => if name = [] then none else some { name := String.ofList name }
  | name :: value :: _ =>
    if isValue value then some { name := String.ofList name, value := String.ofList value }
    else none

end FieldTest

namespace Directive

/-- The verbosity that a level's name or number stands for. -/
def verbosity? (text : String) : Option Nat :=
  let digits := if text.startsWith "+" then text.toList.tail else text.toList
  if digits ≠ [] ∧ digits.all Char.isDigit then
    let number := Nat.ofDigitChars 10 digits 0
    if number ≤ 5 then some number else none
  else match text.toLower with
    | "off" => some 0
    | "error" => some 1
    | "warn" => some 2
    | "info" => some 3
    | "debug" => some 4
    | "trace" => some 5
    | _ => none

def ofLevel (verbosity : Nat) : Directive := { verbosity }

/-- What stands for a level alone, or for a target that lets all through. -/
def ofWord (word : String) : Directive :=
  match verbosity? word with
  | some verbosity => { verbosity }
  | none => { target := word, verbosity := 5 }

def startsWord (c : Char) : Bool :=
  c = '-' || c = ':' || c = '_' || Text.isAlphanumeric c

/-- The level behind an equals sign; none lets all through. -/
def withLevel? (directive : Directive) (level : List Char) : Option Directive :=
  if level = [] then some directive
  else (verbosity? (String.ofList level)).map fun verbosity => { directive with verbosity }

/-- A directive being read. The blanks around it are passed over to find its parts, but the parts
are cut from the text with the blanks, at the same places. -/
structure Source where
  whole : List Char
  core : List Char

namespace Source

def cut (source : Source) (start count : Nat) : List Char := (source.whole.drop start).take count

/-- How many characters from `start` on come before one that `stops`. -/
def upTo (source : Source) (start : Nat) (stops : Char → Bool) : Nat :=
  ((source.core.drop start).takeWhile (!stops ·)).length

/-- A level may follow the brackets. -/
def afterBrackets? (source : Source) (start : Nat) (directive : Directive) : Option Directive :=
  match source.core.drop start with
  | [] => some directive
  | '=' :: _ => directive.withLevel? (source.whole.drop (start + 1))
  | _ => none

/-- A field between braces, with which the brackets end. -/
def afterBrace? (source : Source) (start : Nat) (directive : Directive) : Option Directive := do
  let count := source.upTo start (· = '\x7d')
  match source.core.drop (start + count) with
  | '\x7d' :: ']' :: _ =>
    let field ← FieldTest.ofChars? (source.cut start count)
    source.afterBrackets? (start + count + 2) { directive with field := some field }
  | _ => none

/-- A span's name between brackets, and maybe a field; only with a field the name may be missing. -/
def afterBracket? (source : Source) (start : Nat) (directive : Directive) : Option Directive :=
  let count := source.upTo start fun c => c = ']' || c = '\x7b'
  let name := source.cut start count
  match source.core.drop (start + count) with
  | ']' :: _ => source.afterBrackets? (start + count + 1)
      { directive with span := some (String.ofList name) }
  | '\x7b' :: _ => source.afterBrace? (start + count + 1)
      { directive with span := if name = [] then none else some (String.ofList name) }
  | _ => none

def read? (source : Source) : Option Directive :=
  match source.core with
  | [] => none
  | '[' :: _ => source.afterBracket? 1 { verbosity := 5 }
  | c :: _ =>
    if !startsWord c then none
    else
      let count := source.upTo 0 fun c => c = '=' || c = '['
      let directive : Directive :=
        { target := String.ofList (source.cut 0 count), verbosity := 5 }
      match source.core.drop count with
      | [] => some (ofWord (String.ofList source.whole))
      | '=' :: _ => directive.withLevel? (source.whole.drop (count + 1))
      | _ => source.afterBracket? (count + 1) directive

end Source

def ofChars? (cs : List Char) : Option Directive := Source.read? ⟨cs, Text.trim cs⟩

/-- Whether the directive bears on events by themselves. -/
def isStatic (directive : Directive) : Bool :=
  directive.span.isNone && directive.field.all (·.value.isNone)

/-- Whether the directive bears on what is logged inside spans. One for a field by its name alone
bears on both. -/
def isDynamic (directive : Directive) : Bool := directive.span.isSome || directive.field.isSome

/-- Whether the directive's targets begin as it says. -/
def admits (directive : Directive) (target : String) : Bool :=
  directive.target.all fun start => start.toList.isPrefixOf target.toList

def covers (directive : Directive) (event : Event) : Bool :=
  directive.isStatic && directive.admits event.target.path
    && directive.field.all (·.name = event.target.field)

/-- Of directives that cover an event, the longer target is the more specific one, and with equal
targets one that asks for a field. -/
def isAtLeastAsSpecificAs (directive other : Directive) : Bool :=
  match directive.target, other.target with
  | some _, none => true
  | none, some _ => false
  | some target, some target' =>
    target'.length < target.length
      || (target'.length = target.length && (directive.field.isSome || other.field.isNone))
  | none, none => directive.field.isSome || other.field.isNone

end Directive
end OpticsCheck
