import Mathlib.Data.List.Basic
import Mathlib.Data.List.TakeWhile
import OpticsCheck.Text.Blank

/-!
# Trimming

Trimming a text finds what is left of it between the blanks at its ends. This is the only part that
neither begins nor ends with a blank and has nothing but blanks around it, so a text can be trimmed
by showing how it is padded.
-/

namespace OpticsCheck.Text

/-- Nothing but blanks. -/
def Blank (cs : List Char) : Prop := ∀ c ∈ cs, isBlank c = true

/-- The text behind some blanks and in front of others. Both may be missing. -/
def Padded (word cs : List Char) : Prop :=
  ∃ before after, Blank before ∧ Blank after ∧ cs = before ++ word ++ after

/-- The text does not begin with a blank. -/
def Flush (word : List Char) : Prop := ∀ c ∈ word.head?, isBlank c = false

/-- The text neither begins nor ends with a blank. -/
def Solid (word : List Char) : Prop := Flush word ∧ Flush word.reverse

section Trim

variable {cs word after : List Char}

theorem blank_reverse_iff : Blank cs.reverse ↔ Blank cs := by
  simp [Blank]

theorem trimStart_eq_iff :
    trimStart cs = word ↔ Flush word ∧ ∃ before, Blank before ∧ cs = before ++ word := by
  constructor
  · rintro rfl
    refine ⟨?_, cs.takeWhile isBlank, ?_, List.takeWhile_append_dropWhile.symm⟩
    · intro c first
      have stopped := List.head?_dropWhile_not isBlank cs
      rw [trimStart] at first
      rw [first] at stopped
      exact stopped
    · intro c mem
      exact List.mem_takeWhile_imp mem
  · rintro ⟨flush, before, blank, rfl⟩
    rw [trimStart, List.dropWhile_append_of_pos blank]
    cases word with
    | nil => rfl
    | cons c more =>
      apply List.dropWhile_cons_of_neg
      rw [flush c rfl]
      decide

theorem trimStart_eq_nil_iff : trimStart cs = [] ↔ Blank cs :=
  List.dropWhile_eq_nil_iff

theorem flush_append_iff (nonempty : word ≠ []) : Flush (word ++ after) ↔ Flush word := by
  rw [Flush, Flush, List.head?_append_of_ne_nil word nonempty]

theorem exists_blank_append_trimStart (cs : List Char) :
    ∃ before, Blank before ∧ cs = before ++ trimStart cs :=
  (trimStart_eq_iff.mp rfl).2

theorem trim_eq_nil_iff : trim cs = [] ↔ Blank cs := by
  rw [trim, List.reverse_eq_nil_iff, trimStart_eq_nil_iff, blank_reverse_iff]
  constructor
  · intro blank
    obtain ⟨before, blank', same⟩ := exists_blank_append_trimStart cs
    rw [same]
    exact List.forall_mem_append.mpr ⟨blank', blank⟩
  · intro blank c mem
    exact blank c ((List.dropWhile_suffix isBlank).subset mem)

/-- The trimmed text is the solid one between the blanks. -/
theorem trim_eq_iff : trim cs = word ↔ Solid word ∧ Padded word cs := by
  -- A text of blanks only is trimmed from the front alone and may be parted anywhere.
  by_cases empty : word = []
  · subst empty
    rw [trim_eq_nil_iff]
    constructor
    · intro blank
      exact ⟨⟨nofun, nofun⟩, cs, [], blank, nofun, by simp⟩
    · rintro ⟨-, before, after, blank, blank', rfl⟩
      rw [List.append_nil]
      exact List.forall_mem_append.mpr ⟨blank, blank'⟩
  · rw [trim, List.reverse_eq_iff, trimStart_eq_iff]
    constructor
    · rintro ⟨ends, behind, blank, same⟩
      have start : trimStart cs = word ++ behind.reverse := by
        simpa using congrArg List.reverse same
      obtain ⟨flush, before, blank', rfl⟩ := trimStart_eq_iff.mp start
      refine ⟨⟨(flush_append_iff empty).mp flush, ends⟩, before, behind.reverse, blank', ?_, ?_⟩
      · exact blank_reverse_iff.mpr blank
      · rw [List.append_assoc]
    · rintro ⟨⟨flush, ends⟩, before, after, blank, blank', rfl⟩
      refine ⟨ends, after.reverse, blank_reverse_iff.mpr blank', ?_⟩
      have start : trimStart (before ++ word ++ after) = word ++ after :=
        trimStart_eq_iff.mpr
          ⟨(flush_append_iff empty).mpr flush, before, blank, List.append_assoc ..⟩
      rw [start, List.reverse_append]

theorem padded_trim (cs : List Char) : Padded (trim cs) cs :=
  (trim_eq_iff.mp rfl).2

theorem solid_of_not_isBlank (visible : ∀ c ∈ word, isBlank c = false) : Solid word := by
  constructor
  · intro c first
    exact visible c (List.mem_of_mem_head? first)
  · intro c last
    exact visible c (List.mem_reverse.mp (List.mem_of_mem_head? last))

end Trim

end OpticsCheck.Text
