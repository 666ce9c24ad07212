import OpticsCheck.Binary64.Layout
import OpticsCheck.Text.Upper
import OpticsCheck.Text.Width
import OpticsCheck.Terminal.Style
import OpticsCheck.Terminal.Escapes

/-!
# Lines on the terminal

The shapes of line that are printed: the banner, headers, separators, keys aligned by dots, the
head and the branches of a result tree, and centred text.
-/

namespace OpticsCheck.Line

def totalWidth : Nat := 64

def repeated (n : Nat) (c : Char) : String := String.ofList (List.replicate n c)

def accent : Style := { colour := .brightMagenta }

def primary : Style := { colour := .brightCyan }

def separator : Style := { colour := .brightBlack }

def plainText : Style := { colour := .white }

/-- What takes the place of a title: the text between white square brackets. -/
def framed (text : String) : String := "⟦ " ++ text ++ " ⟧"

def version : String := "0.1.0"

/-- The program's name and version between two bars. -/
def banner : Styled :=
  let title := framed ("OPTICS v" ++ version) ++ " "
  let bar := Styled.text separator
    (repeated ((totalWidth - Text.width title.toList) / 2) '═')
  bar ++ .text { colour := .brightGreen, bold := true } title ++ bar

/-- A title in upper case, filled up with dashes; the dashes are counted before the case changes. -/
def header (title : String) : Styled :=
  let text := framed title
  let dashes := totalWidth - text.length
  .styled separator
    (.plain (repeated (dashes / 2) '─') ++ .text { colour := .brightGreen } (Text.upper text)
      ++ .plain (repeated (dashes - dashes / 2) '─'))

/-- The banner, unless it is unwanted; quiet output has none. -/
def bannerLines (noBanner : Bool) (quiet : Nat) : List Styled :=
  if noBanner || 0 < quiet then [] else [banner]

/-- A header; quiet output has none. -/
def headerLines (title : String) (quiet : Nat) : List Styled :=
  if 0 < quiet then [] else [header title]

def fatSeparator : Styled := .text separator (repeated totalWidth '═')

def status (message : Styled) : Styled :=
  .text separator ">" ++ .plain " " ++ .styled plainText message

/-- How far keys are filled up with dots. -/
def defaultKeyWidth : Nat := 11

/-- A key, filled up with dots by its length in bytes, and a value. -/
def aligned (keyWidth : Nat) (key : String) (value : Styled) : Styled :=
  status (.text primary key ++ .text separator (repeated (keyWidth + 1 - key.utf8ByteSize) '.')
    ++ .text separator ":" ++ .plain " " ++ value)

def treeHead (index : Nat) (name : String) : Styled :=
  .styled separator
    (.plain "[" ++ .text accent (String.ofList (digitChars index)) ++ .plain "]")
    ++ .plain " " ++ .text primary name

def treeBranch (last : Bool) (key : String) (value : Styled) : Styled :=
  .plain " " ++ .text separator (if last then "└─" else "├─") ++ .plain " "
    ++ .text plainText key ++ .text separator (repeated (7 - key.utf8ByteSize) '.')
    ++ .text separator ":" ++ .plain " " ++ value

def tree : List (String × Styled) → List Styled
  | [] => []
  | [(key, value)] => [treeBranch true key value]
  | (key, value) :: rest => treeBranch false key value :: tree rest

/-- The columns of what is shown of a text. Sequences keep the characters beside them apart. -/
def shownWidth (text : String) : Nat :=
  (Escapes.pieces text.toList).foldl (fun columns piece => columns + Text.width piece) 0

/-- The text between spaces that centre what is shown of it. -/
def centred (text : String) : String :=
  let space := repeated ((totalWidth - shownWidth text) / 2) ' '
  space ++ text ++ space

end OpticsCheck.Line
