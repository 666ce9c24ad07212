import OpticsCheck.Text.Ligature

/-!
# Display width

How many terminal columns a text takes. It is the sum of its characters' widths, but a character
may count differently by what stands behind it: a line break written as two characters counts once,
pictures made of several characters count as one, letters that are drawn as one count as one, and a
selector changes the form of the character before it. So a text is measured from its end, and
what is kept of the part already measured is only what bears on the character before it.
-/

namespace OpticsCheck.Text

/-- A request for a form of the character before it. -/
inductive Selector where
  | picture
  | text
  /-- The wide form of a quotation mark. -/
  | wideQuote
deriving DecidableEq, Repr

def Selector.ofChar? (c : Char) : Option Selector :=
  if c = pictureSelector then some .picture
  else if c = textSelector then some .text
  else if c = '\uFE01' then some .wideQuote
  else none

/-- The start of what a joiner joins to the character before it. Its columns are counted already, so
a picture before it adds none. -/
inductive Joined where
  /-- A whole picture; `asked` says that the character before it is asked for its picture too. -/
  | picture (asked : Bool)
  | keyCap (asked : Bool)
  | flagLetter
  | evenFlagLetters
  | oddFlagLetters
  /-- The end of a region's code and that many letters of it. -/
  | regionLetters (count : Nat)
  /-- The end of a region's code and that many digits, at least one, before any letters. -/
  | regionDigits (count : Nat)
deriving DecidableEq, Repr

/-- What stands behind a character, as far as it bears on the character's columns. -/
inductive Behind where
  | plain
  | lineFeed
  | selector (selector : Selector)
  | ligature (second : Ligature) (selector : Option Selector)
  /-- The Kirat Rai vowel e. -/
  | vowelE
  /-- The Kirat Rai vowel ai, or e twice. -/
  | vowelAi
  | picture
  | tone
  | flagLetter
  | flagLetters
  | joined (rest : Joined)
deriving DecidableEq, Repr

/-- Columns, and what the text before has behind it. A part of a sequence can take back columns that
a later part counted. -/
abbrev Step := Int × Behind

namespace Behind

/-- Whether the character before is asked for its picture. -/
def asksPicture : Behind → Bool
  | .selector .picture => true
  | .ligature _ (some .picture) => true
  | .joined (.picture true) => true
  | .joined (.keyCap true) => true
  | _ => false

def isJoined : Behind → Bool
  | .joined _ => true
  | _ => false

/-- What is left when the character before has no picture that it is asked for. -/
def withoutPicture : Behind → Behind
  | .ligature second (some .picture) => .ligature second none
  | behind => if behind.asksPicture then .plain else behind

/-- A selector put before. Ligatures and joined pictures see through it, all else is cut off. -/
def select (form : Selector) : Behind → Behind
  | .ligature second _ => .ligature second (some form)
  | .joined (.picture _) =>
    if form = .picture then .joined (.picture true) else .selector form
  | .joined (.keyCap _) =>
    if form = .picture then .joined (.keyCap true) else .selector form
  | _ => .selector form

end Behind

def isQuote (c : Char) : Bool :=
  c = '\u2018' || c = '\u2019' || c = '\u201C' || c = '\u201D'

/-- Whether the character has the form that it is asked for, which then decides its columns. -/
def selected? (selector : Selector) (c : Char) : Option Step :=
  match selector with
  | .picture => none
  | .text => if hasNarrowForm c then some (1, .plain) else none
  | .wideQuote => if isQuote c then some (2, .plain) else none

def vowelE : Char := Char.ofNat 0x16D67

/-- A character that nothing behind it has a part in. -/
def alone (c : Char) : Step :=
  match Selector.ofChar? c with
  | some selector => (0, .selector selector)
  | none => match Ligature.ofChar? c with
    | some second => (1, .ligature second none)
    | none =>
      if c = vowelE then (1, .vowelE)
      else if c.toNat = 0x16D68 then (1, .vowelAi)
      else if isFlagLetter c then (1, .flagLetter)
      else if isTone c then (2, .tone)
      else if pictures.holds c then (2, .picture)
      else (charWidth c, .plain)

/-- Kirat Rai vowels are written in several equivalent ways, each of one column. -/
def beforeVowelE? (c : Char) : Option Step :=
  if c.toNat = 0x16D63 ∨ c.toNat = 0x16D69 then some (0, .plain)
  else if c = vowelE then some (0, .vowelAi)
  else if c.toNat = 0x16D68 then some (1, .vowelE)
  else none

/-- Letters of a region's code: a country's code of two letters and at most four more. -/
def beforeRegionLetters? (count : Nat) (c : Char) : Option Step :=
  if isTagLetter c ∧ count < 6 then some (0, .joined (.regionLetters (count + 1)))
  else if isTagDigit c ∧ count ≤ 4 then some (0, .joined (.regionDigits 1))
  else if c = blackFlag ∧ 3 ≤ count then some (0, .picture)
  else none

/-- Digits of a region's code: a country's code of three. -/
def beforeRegionDigits? (count : Nat) (c : Char) : Option Step :=
  if isTagDigit c ∧ count < 3 then some (0, .joined (.regionDigits (count + 1)))
  else if c = blackFlag ∧ count = 3 then some (0, .picture)
  else none

/-- A part of the picture that is joined to what follows. Flag letters count by pairs: the first of
a pair takes back what the second has counted. -/
def beforeJoined? (rest : Joined) (c : Char) : Option Step :=
  match rest with
  | .picture _ =>
    if c = keyCap then some (0, .joined (.keyCap false))
    else if isFlagLetter c then some (1, .joined .flagLetter)
    else if isTone c then some (0, .tone)
    else if c = tagEnd then some (0, .joined (.regionLetters 0))
    else if pictures.holds c then some (0, .picture)
    else none
  | .keyCap _ => none
  | .flagLetter => if isFlagLetter c then some (-1, .joined .evenFlagLetters) else none
  | .oddFlagLetters =>
    if c = joiner then some (0, .joined (.picture false))
    else if isFlagLetter c then some (-1, .joined .evenFlagLetters)
    else none
  | .evenFlagLetters =>
    if c = joiner then some (0, .joined (.picture false))
    else if isFlagLetter c then some (3, .joined .oddFlagLetters)
    else none
  | .regionLetters count => beforeRegionLetters? count c
  | .regionDigits count => beforeRegionDigits? count c

/-- A part of a sequence that goes on with what stands behind. -/
def part? (behind : Behind) (c : Char) : Option Step :=
  match behind with
  | .ligature second _ =>
    match second.through? c with
    | some second => some (0, .ligature second none)
    | none => (second.first? c).map fun (columns, second) =>
      (columns, second.elim .plain (.ligature · none))
  | .vowelE => beforeVowelE? c
  | .vowelAi => if c.toNat = 0x16D63 then some (0, .plain) else none
  | .picture => if c = joiner then some (0, .joined (.picture false)) else none
  | .tone =>
    if toneBases.holds c then some (0, .picture)
    else if c = joiner then some (0, .joined (.picture false))
    else none
  | .flagLetter => if isFlagLetter c then some (1, .flagLetters) else none
  | .flagLetters =>
    if isFlagLetter c then some (1, .flagLetters)
    else if c = joiner then some (0, .joined (.picture false))
    else none
  | .joined rest => beforeJoined? rest c
  | _ => none

/-- The selector that waits for the character before. -/
def Behind.selector? : Behind → Option Selector
  | .selector form => some form
  | .ligature _ form => form
  | _ => none

/-- A character that is not asked for its picture, or has none. -/
def stepOn (c : Char) (behind : Behind) : Step :=
  if c ≤ '\u00A0' then
    if c = '\n' then (1, .lineFeed)
    else if c = '\r' ∧ behind = .lineFeed then (0, .plain)
    else (1, .plain)
  else match Selector.ofChar? c with
    | some selector => (0, behind.select selector)
    | none => match behind.selector?.bind (selected? · c) with
      | some step => step
      | none => (part? behind c).getD (alone c)

def step (c : Char) (behind : Behind) : Step :=
  if behind.asksPicture && pictureBases.holds c then
    (if behind.isJoined then 0 else 2, .picture)
  else stepOn c behind.withoutPicture

/-- Measures a text from its end. -/
def measured (cs : List Char) : Step :=
  cs.foldr (fun c (columns, behind) =>
    let (more, behind) := step c behind
    (columns + more, behind)) (0, .plain)

theorem measured_nil : measured [] = (0, .plain) := rfl

theorem measured_cons (c : Char) (cs : List Char) :
    measured (c :: cs) =
      ((measured cs).1 + (step c (measured cs).2).1, (step c (measured cs).2).2) := rfl

def width (cs : List Char) : Nat := (measured cs).1.toNat

end OpticsCheck.Text
