import OpticsCheck.Text.CharWidth
import OpticsCheck.Text.Emoji

/-!
# Ligatures

Letters that are drawn as one with the letter after them, and so take fewer columns than on their
own. What matters of the text after a letter is the second part of a ligature; selectors, joiners
and ignorable marks may stand between.
-/

namespace OpticsCheck.Text

/-- The second part of a ligature as the text goes on with it; `joined` says that a joiner
comes first. -/
inductive Ligature where
  | alef
  | lamed (joined : Bool)
  | ya (joined : Bool)
  /-- The Buginese vowel i, a joiner and ya. -/
  | vowelAndYa
  | tifinagh (joined : Bool)
  /-- A Tifinagh consonant behind the sign that joins consonants. -/
  | boundTifinagh
  | lisuTone
  | orkhonI (joined : Bool)
  /-- A Khmer letter with a form that fits below another. -/
  | subscript
deriving DecidableEq, Repr

/-- Marks that are ignored between the letters of a ligature. -/
def ignorableMarks : Ranges := [
  (0x034F, 0x034F), (0x17B4, 0x17B5), (0x180B, 0x180D), (0x180F, 0x180F), (0xFE00, 0xFE0F),
  (0xE0100, 0xE01EF)]

def isLam (c : Char) : Bool :=
  c = '\u0644' || ('\u06B5' ≤ c && c ≤ '\u06B8') || c = '\u076A' || c = '\u08A6' || c = '\u08C7'

def alefs : Ranges := [
  (0x0622, 0x0623), (0x0625, 0x0625), (0x0627, 0x0627), (0x0671, 0x0673), (0x0675, 0x0675),
  (0x0773, 0x0774), (0x0870, 0x0882)]

/-- Khmer letters whose form below another letter takes no columns. -/
def subscripts : Ranges := [
  (0x1780, 0x1782), (0x1784, 0x1787), (0x1789, 0x178C), (0x178E, 0x1793), (0x1795, 0x1798),
  (0x179B, 0x179D), (0x17A0, 0x17A0), (0x17A2, 0x17A2), (0x17A7, 0x17A7), (0x17AB, 0x17AC),
  (0x17AF, 0x17AF)]

def isTifinagh (c : Char) : Bool := ('\u2D31' ≤ c && c ≤ '\u2D65') || c = '\u2D6F'

/-- Joins two Tifinagh consonants. -/
def tifinaghJoiner : Char := '\u2D7F'

namespace Ligature

/-- The second part that the character is, if it is one. -/
def ofChar? (c : Char) : Option Ligature :=
  if alefs.holds c then some .alef
  else if c = '\u05DC' then some (.lamed false)
  else if c = '\u1A10' then some (.ya false)
  else if isTifinagh c then some (.tifinagh false)
  else if c = '\uA4FC' ∨ c = '\uA4FD' then some .lisuTone
  else if c.toNat = 0x10C03 then some (.orkhonI false)
  else if subscripts.holds c then some .subscript
  else none

def join : Ligature → Ligature
  | .lamed _ => .lamed true
  | .ya _ => .ya true
  | .tifinagh _ => .tifinagh true
  | .orkhonI _ => .orkhonI true
  | other => other

/-- What the text goes on with when only an ignorable character comes before the second part. -/
def through? (second : Ligature) (c : Char) : Option Ligature :=
  if second = .alef then if joinsThrough c then some .alef else none
  else if c = joiner then some second.join
  else if ignorableMarks.holds c then some second
  else none

/-- The columns that a first part adds before the second, and the second part that both together
are. Letters below another cancel the column of the letter they consist of. -/
def first? (second : Ligature) (c : Char) : Option (Int × Option Ligature) :=
  match second with
  | .alef => if isLam c then some (0, none) else none
  | .lamed true => if c = '\u05D0' then some (0, none) else none
  | .ya true => if c = '\u1A17' then some (0, some .vowelAndYa) else none
  | .vowelAndYa => if c = '\u1A15' then some (0, none) else none
  | .tifinagh joined =>
    if c = tifinaghJoiner then some (1, some .boundTifinagh)
    else if joined && isTifinagh c then some (0, none)
    else none
  | .boundTifinagh => if isTifinagh c then some (-1, none) else none
  | .lisuTone => if '\uA4F8' ≤ c ∧ c ≤ '\uA4FB' then some (0, none) else none
  | .orkhonI true => if c.toNat = 0x10C32 then some (0, none) else none
  | .subscript => if c = '\u17D2' then some (-1, none) else none
  | _ => none

end Ligature
end OpticsCheck.Text
