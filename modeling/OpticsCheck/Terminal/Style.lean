/-!
# Styled text

Text with colours and weights, as a tree: a styled part may hold further styled parts. With colours
on, a style is switched on before its text and all styles are switched off after it, so within a
styled part the style is switched on again after each place where everything was switched off. With
colours off only the text remains. A style is shown even around no text.
-/

namespace OpticsCheck

inductive Colour where
  | red
  | green
  | yellow
  | white
  | brightBlack
  | brightRed
  | brightGreen
  | brightMagenta
  | brightCyan
deriving DecidableEq, Repr

def Colour.code : Colour → String
  | .red => "31"
  | .green => "32"
  | .yellow => "33"
  | .white => "37"
  | .brightBlack => "90"
  | .brightRed => "91"
  | .brightGreen => "92"
  | .brightMagenta => "95"
  | .brightCyan => "96"

structure Style where
  colour : Colour
  bold : Bool := false
  underline : Bool := false
deriving DecidableEq, Repr

/-- The sequence that switches the style on: weights before the colour. -/
def Style.start (style : Style) : List Char :=
  let codes := (if style.bold then ["1"] else []) ++ (if style.underline then ["4"] else [])
    ++ [style.colour.code]
  '\x1b' :: '[' :: (";".intercalate codes).toList ++ ['m']

/-- The sequence that switches everything off. -/
def resetCodes : List Char := ['\x1b', '[', '0', 'm']

inductive Styled where
  | plain (text : String)
  | styled (style : Style) (inner : Styled)
  | append (first second : Styled)
deriving Repr

/-- Writes `start` again after everything was switched off. -/
def restart (start : List Char) : List Char → List Char
  | '\x1b' :: '[' :: '0' :: 'm' :: rest => resetCodes ++ start ++ restart start rest
  | c :: rest => c :: restart start rest
  | [] => []

namespace Styled

instance : Append Styled := ⟨append⟩

def empty : Styled := plain ""

def concat (parts : List Styled) : Styled := parts.foldr append empty

/-- A text in one style. -/
def text (style : Style) (text : String) : Styled := styled style (plain text)

def colours : Styled → List Char
  | plain text => text.toList
  | styled style inner => style.start ++ restart style.start inner.colours ++ resetCodes
  | append first second => first.colours ++ second.colours

def bare : Styled → List Char
  | plain text => text.toList
  | styled _ inner => inner.bare
  | append first second => first.bare ++ second.bare

def render (coloured : Bool) (s : Styled) : String :=
  String.ofList (if coloured then s.colours else s.bare)

end Styled
end OpticsCheck
