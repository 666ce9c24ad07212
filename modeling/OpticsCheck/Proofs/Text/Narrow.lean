import Mathlib.Data.List.Basic
import OpticsCheck.Binary64.Layout
import OpticsCheck.Text.Width

/-!
# Narrow characters

The visible ASCII characters and the blank among them take one column each, whatever stands around
them, so a text of nothing else is as wide as it is long. Numbers are written in such characters.
-/

namespace OpticsCheck

namespace Text

def isNarrow (c : Char) : Bool := ' ' ≤ c && c ≤ '~'

theorem step_of_isNarrow {c : Char} (narrow : isNarrow c = true) : step c .plain = (1, .plain) := by
  obtain ⟨low, high⟩ : ' ' ≤ c ∧ c ≤ '~' := by simpa [isNarrow] using narrow
  have ascii : c ≤ '\u00A0' := Char.le_trans high (by decide)
  have noLineFeed : c ≠ '\n' := by
    rintro rfl
    exact absurd low (by decide)
  have alone : step c .plain = stepOn c .plain := rfl
  rw [alone, stepOn, if_pos ascii, if_neg noLineFeed, if_neg fun joined => nomatch joined.2]

theorem measured_of_narrow {cs : List Char} (narrow : ∀ c ∈ cs, isNarrow c = true) :
    measured cs = ((cs.length : Int), Behind.plain) := by
  induction cs with
  | nil => exact measured_nil
  | cons c rest ih =>
    obtain ⟨first, others⟩ := List.forall_mem_cons.mp narrow
    rw [measured_cons, ih others, step_of_isNarrow first, List.length_cons]
    rfl

theorem width_of_narrow {cs : List Char} (narrow : ∀ c ∈ cs, isNarrow c = true) :
    width cs = cs.length := by
  rw [width, measured_of_narrow narrow]
  exact Int.toNat_natCast _

/-- Whether every character of the text is narrow. -/
def allNarrow (text : String) : Bool := text.toList.all isNarrow

@[simp] theorem allNarrow_append (first second : String) :
    allNarrow (first ++ second) = (allNarrow first && allNarrow second) := by
  simp [allNarrow]

theorem allNarrow_ofList {chars : List Char} (narrow : ∀ c ∈ chars, isNarrow c = true) :
    allNarrow (String.ofList chars) = true := by
  simpa [allNarrow] using narrow

theorem isNarrow_of_allNarrow {text : String} (narrow : allNarrow text = true) :
    ∀ c ∈ text.toList, isNarrow c = true :=
  List.all_eq_true.mp narrow

theorem isNarrow_of_isDigit {c : Char} (digit : c.isDigit = true) : isNarrow c = true := by
  have bounds : '0' ≤ c ∧ c ≤ '9' := by simpa [Char.isDigit, Char.le_def] using digit
  simp [isNarrow, Char.le_trans (by decide : ' ' ≤ '0') bounds.1,
    Char.le_trans bounds.2 (by decide : '9' ≤ '~')]

end Text

open Text (isNarrow)

theorem isNarrow_of_mem_digitChars {n : Nat} : ∀ c ∈ digitChars n, isNarrow c = true :=
  fun _ mem => Text.isNarrow_of_isDigit (Nat.isDigit_of_mem_toDigits (by decide) (by decide) mem)

theorem isNarrow_of_mem_zeros {count : Nat} : ∀ c ∈ List.replicate count '0', isNarrow c = true :=
  fun _ mem => (List.mem_replicate.mp mem).2 ▸ rfl

theorem Binary64.isNarrow_of_mem_writeFixed {places : Nat} {x : Binary64} :
    ∀ c ∈ x.writeFixed places, isNarrow c = true := by
  have sign : ∀ c ∈ x.signChars, isNarrow c = true := by
    unfold signChars
    split <;> exact List.all_eq_true.mp (by decide)
  unfold writeFixed
  split
  · exact List.all_eq_true.mp (by decide)
  split
  · exact List.forall_mem_append.mpr ⟨sign, List.all_eq_true.mp (by decide)⟩
  · simp only [List.forall_mem_append, List.forall_mem_cons, List.append_assoc, List.cons_append]
    exact ⟨sign, isNarrow_of_mem_digitChars, rfl, isNarrow_of_mem_zeros, isNarrow_of_mem_digitChars⟩

end OpticsCheck
