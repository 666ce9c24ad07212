import Mathlib.Data.List.TakeWhile
import OpticsCheck.Terminal.Style

/-!
# Styled text without its styles

Colours are switched by sequences: an escape, a bracket, parameters and an m. Taking all of these
out of a text that is shown in colours leaves the text that is shown without them. How the sequences
are nested does not matter for this, so what colours come to is said by a relation between the two
texts: the one is the other with sequences put in.
-/

namespace OpticsCheck

namespace Style

/-- What may stand between the bracket and the m. -/
def isParameter (c : Char) : Bool := c.isDigit || c = ';' || c = ':'

/-- What follows the style sequence at the start of the text, if one stands there. -/
def after? : List Char → Option (List Char)
  | '\x1b' :: '[' :: rest =>
    match rest.dropWhile isParameter with
    | 'm' :: after => some after
    | _ => none
  | _ => none

theorem length_lt_of_after? {cs after : List Char} (found : after? cs = some after) :
    after.length < cs.length := by
  unfold after? at found
  split at found
  · next rest =>
    have shorter := (List.dropWhile_suffix (l := rest) isParameter).length_le
    split at found
    · next behind skipped =>
      cases found
      rw [skipped] at shorter
      simp only [List.length_cons] at shorter ⊢
      omega
    · cases found
  · cases found

theorem after?_of_ne {c : Char} (ne : c ≠ '\x1b') (rest : List Char) :
    after? (c :: rest) = none := by
  unfold after?
  split
  · next same => exact absurd (List.cons.inj same).1 ne
  · rfl

end Style

/-- The text without its style sequences. -/
def unstyled (cs : List Char) : List Char :=
  match _found : Style.after? cs with
  | some after => unstyled after
  | none =>
    match cs with
    | [] => []
    | c :: rest => c :: unstyled rest
termination_by cs.length
decreasing_by
  · exact Style.length_lt_of_after? _found
  · exact Nat.lt_succ_self _

theorem unstyled_of_after? {cs after : List Char} (found : Style.after? cs = some after) :
    unstyled cs = unstyled after := by
  rw [unstyled]
  split
  · next other same =>
    rw [found] at same
    cases same
    rfl
  · next none =>
    rw [found] at none
    cases none

theorem unstyled_nil : unstyled [] = [] := by
  rw [unstyled]
  rfl

theorem unstyled_cons {c : Char} (ne : c ≠ '\x1b') (rest : List Char) :
    unstyled (c :: rest) = c :: unstyled rest := by
  rw [unstyled]
  split
  · next found =>
    rw [Style.after?_of_ne ne] at found
    cases found
  · rfl

/-! ### The sequences that are written -/

namespace Style

/-- What the sequence that switches the style on has between the bracket and the m. -/
def codes (style : Style) : List Char := style.start.tail.tail.dropLast

theorem start_eq (style : Style) : style.start = '\x1b' :: '[' :: style.codes ++ ['m'] := by
  simp [codes, start]

theorem codes_eq_cons (style : Style) :
    ∃ first others, style.codes = first :: others ∧ first ≠ '0' ∧
      ∀ c ∈ style.codes, isParameter c = true := by
  obtain ⟨colour, bold, underline⟩ := style
  cases colour <;> cases bold <;> cases underline <;>
    exact ⟨_, _, rfl, by decide, List.all_eq_true.mp (by decide)⟩

theorem not_mem_of_isParameter {cs : List Char} (parameters : ∀ c ∈ cs, isParameter c = true) :
    '\x1b' ∉ cs :=
  fun mem => absurd (parameters _ mem) (by decide)

/-- The sequences that styled text is written with: a style goes on, or all go off. -/
inductive Switch : List Char → Prop where
  | start (style : Style) : Switch style.start
  | reset : Switch resetCodes

theorem Switch.eq_codes {switch : List Char} (written : Switch switch) :
    ∃ codes, switch = '\x1b' :: '[' :: codes ++ ['m'] ∧ ∀ c ∈ codes, isParameter c = true := by
  cases written with
  | start style =>
    obtain ⟨_, _, _, _, parameters⟩ := style.codes_eq_cons
    exact ⟨style.codes, style.start_eq, parameters⟩
  | reset => exact ⟨['0'], rfl, List.all_eq_true.mp (by decide)⟩

theorem Switch.length_pos {switch : List Char} (written : Switch switch) : 0 < switch.length := by
  obtain ⟨codes, rfl, _⟩ := written.eq_codes
  exact Nat.zero_lt_succ _

theorem Switch.after?_append {switch : List Char} (written : Switch switch) (rest : List Char) :
    after? (switch ++ rest) = some rest := by
  obtain ⟨codes, rfl, parameters⟩ := written.eq_codes
  have skipped : (codes ++ 'm' :: rest).dropWhile isParameter = 'm' :: rest := by
    rw [List.dropWhile_append_of_pos parameters, List.dropWhile_cons_of_neg (by decide)]
  simp only [List.cons_append, List.append_assoc, List.nil_append, after?, skipped]

end Style

open Style (Switch)

/-! ### Styles that go on again -/

theorem restart_cons {c : Char} (ne : c ≠ '\x1b') (start rest : List Char) :
    restart start (c :: rest) = c :: restart start rest :=
  restart.eq_2 start c rest fun _ same => absurd same ne

theorem restart_append {cs : List Char} (escapeless : '\x1b' ∉ cs) (start rest : List Char) :
    restart start (cs ++ rest) = cs ++ restart start rest := by
  induction cs with
  | nil => rfl
  | cons c others ih =>
    have ne := List.ne_of_not_mem_cons escapeless
    have later := ih (List.not_mem_of_not_mem_cons escapeless)
    rw [List.cons_append, restart_cons ne.symm, later, List.cons_append]

theorem restart_reset (start rest : List Char) :
    restart start (resetCodes ++ rest) = resetCodes ++ start ++ restart start rest := rfl

/-- No style is taken for the sequence that switches everything off. -/
theorem restart_start (style : Style) (start rest : List Char) :
    restart start (style.start ++ rest) = style.start ++ restart start rest := by
  obtain ⟨first, others, codes, nonzero, parameters⟩ := style.codes_eq_cons
  have escapeless : '\x1b' ∉ '[' :: style.codes ++ ['m'] := by
    have within := Style.not_mem_of_isParameter parameters
    simp [within]
  have kept : restart start ('\x1b' :: ('[' :: style.codes ++ ['m'] ++ rest)) =
      '\x1b' :: restart start ('[' :: style.codes ++ ['m'] ++ rest) := by
    apply restart.eq_2
    intro behind _ same
    rw [codes] at same
    exact nonzero (List.cons.inj (List.cons.inj same).2).1
  rw [style.start_eq]
  exact kept.trans (congrArg ('\x1b' :: ·) (restart_append escapeless start rest))

/-! ### Texts that differ in sequences only -/

/-- The second text is the first one with sequences put in; the first one has no escapes. -/
inductive Decorates : List Char → List Char → Prop where
  | done : Decorates [] []
  | char {c : Char} {bare coloured : List Char} (ne : c ≠ '\x1b') (rest : Decorates bare coloured) :
    Decorates (c :: bare) (c :: coloured)
  | switch {switch bare coloured : List Char} (written : Switch switch)
    (rest : Decorates bare coloured) : Decorates bare (switch ++ coloured)

namespace Decorates

variable {bare bare' coloured coloured' : List Char}

theorem of_escapeless {cs : List Char} (escapeless : '\x1b' ∉ cs) : Decorates cs cs := by
  induction cs with
  | nil => exact .done
  | cons c rest ih =>
    have ne := List.ne_of_not_mem_cons escapeless
    exact .char ne.symm (ih (List.not_mem_of_not_mem_cons escapeless))

theorem append (first : Decorates bare coloured) (second : Decorates bare' coloured') :
    Decorates (bare ++ bare') (coloured ++ coloured') := by
  induction first with
  | done => exact second
  | char ne _ ih => exact .char ne ih
  | switch written _ ih =>
    rw [List.append_assoc]
    exact .switch written ih

/-- Switching a style on again puts in no more than sequences. -/
theorem restarted (decorates : Decorates bare coloured) (style : Style) :
    Decorates bare (restart style.start coloured) := by
  induction decorates with
  | done => exact .done
  | char ne _ ih =>
    rw [restart_cons ne]
    exact .char ne ih
  | switch written _ ih =>
    cases written with
    | start inner =>
      rw [restart_start]
      exact .switch (.start inner) ih
    | reset =>
      -- The only place where something is put in: the style goes on behind what switched it off.
      rw [restart_reset, List.append_assoc]
      exact .switch .reset (.switch (.start style) ih)

theorem unstyled_eq (decorates : Decorates bare coloured) : unstyled coloured = bare := by
  induction decorates with
  | done => exact unstyled_nil
  | char ne _ ih => rw [unstyled_cons ne, ih]
  | switch written _ ih => rw [unstyled_of_after? (written.after?_append _), ih]

end Decorates

/-- Whatever way styles are nested in each other, they come to sequences put into the text. -/
theorem Styled.decorates {s : Styled} (escapeless : '\x1b' ∉ s.bare) :
    Decorates s.bare s.colours := by
  induction s with
  | plain text => exact .of_escapeless escapeless
  | styled style inner ih =>
    have within := (ih escapeless).restarted style
    have ended : Decorates (inner.bare ++ []) (restart style.start inner.colours ++ resetCodes) :=
      within.append (.switch .reset .done)
    rw [List.append_nil] at ended
    rw [Styled.colours, List.append_assoc]
    exact .switch (.start style) ended
  | append first second ihFirst ihSecond =>
    obtain ⟨before, behind⟩ := not_or.mp (mt List.mem_append.mpr escapeless)
    exact (ihFirst before).append (ihSecond behind)

namespace Text

/-- The text without its style sequences. -/
def unstyled (text : String) : String := String.ofList (OpticsCheck.unstyled text.toList)

/-- The second text is the first one with sequences put in. -/
def Decorates (bare coloured : String) : Prop :=
  OpticsCheck.Decorates bare.toList coloured.toList

/-- The text has no escape of its own. -/
def Escapeless (text : String) : Prop := '\x1b' ∉ text.toList

instance : DecidablePred Escapeless :=
  fun text => inferInstanceAs (Decidable ('\x1b' ∉ text.toList))

theorem Escapeless.decorates {text : String} (escapeless : Escapeless text) :
    Decorates text text :=
  .of_escapeless escapeless

theorem Decorates.append {bare bare' coloured coloured' : String} (first : Decorates bare coloured)
    (second : Decorates bare' coloured') : Decorates (bare ++ bare') (coloured ++ coloured') := by
  simp only [Decorates, String.toList_append]
  exact OpticsCheck.Decorates.append first second

theorem Decorates.unstyled_eq {bare coloured : String} (decorates : Decorates bare coloured) :
    unstyled coloured = bare := by
  rw [unstyled, OpticsCheck.Decorates.unstyled_eq decorates, String.ofList_toList]

end Text

theorem Styled.decorates_render {s : Styled} (escapeless : Text.Escapeless (s.render false)) :
    Text.Decorates (s.render false) (s.render true) := by
  have bare : (s.render false).toList = s.bare := String.toList_ofList
  have coloured : (s.render true).toList = s.colours := String.toList_ofList
  rw [Text.Escapeless, bare] at escapeless
  rw [Text.Decorates, bare, coloured]
  exact decorates escapeless

end OpticsCheck
