import Mathlib.Data.List.Forall2
import OpticsCheck.Proofs.Terminal.Layout
import OpticsCheck.Proofs.Terminal.Unstyled
import OpticsCheck.Proofs.Text.Narrow

/-!
# Results in colours

Colours only decorate the results: with the style sequences taken out, each line is the line that is
shown without colours. The one line whose layout depends on a width that is taken with the sequences
in it is the summary. It is narrow text, so its width is its length, and the sequences are cut out
before anything is measured.
-/

namespace OpticsCheck

open Style (Switch)
open Text (isNarrow)

theorem Text.admits_escapeless : Admits Escapeless := admits_lacking '\x1b' rfl

theorem Text.escapeless_of_allNarrow {text : String} (narrow : allNarrow text = true) :
    Escapeless text :=
  admits_escapeless.of_isPlain (isPlain_of_allNarrow narrow)

namespace Escapes

variable {place : Place} {cs : List Char}

theorem longest_ended (best : Option (List Char)) (rest : List Char) :
    longest .ended best rest = some rest := by
  cases rest with
  | nil => rfl
  | cons c others =>
    have stuck : Place.ended.next? c = none := by
      unfold Place.next?
      split_ifs <;> rfl
    simp [longest, stuck, Place.complete]

/-- Characters that lead to the end of a sequence are a sequence, whatever follows them. -/
theorem longest_append (walk : cs.foldlM Place.next? place = some .ended)
    (best : Option (List Char)) (rest : List Char) :
    longest place best (cs ++ rest) = some rest := by
  induction cs generalizing place best with
  | nil =>
    cases walk
    exact longest_ended best rest
  | cons c others ih =>
    rw [List.foldlM_cons] at walk
    obtain ⟨next, step, further⟩ := Option.bind_eq_some_iff.mp walk
    simp only [List.cons_append, longest, step, ih further]

theorem walk_of_switch {switch : List Char} (written : Switch switch) :
    switch.tail.foldlM Place.next? .introduced = some .ended := by
  cases written with
  | start style =>
    obtain ⟨colour, bold, underline⟩ := style
    cases colour <;> cases bold <;> cases underline <;> decide
  | reset => decide

theorem sequence?_of_switch {switch : List Char} (written : Switch switch) (rest : List Char) :
    sequence? (switch ++ rest) = some rest := by
  have walk := longest_append (walk_of_switch written) none rest
  obtain ⟨codes, rfl, _⟩ := written.eq_codes
  exact walk

/-- Besides the escape there is another introducer, so a text without escapes would not do here. -/
theorem sequence?_of_isNarrow {c : Char} (narrow : isNarrow c = true) (rest : List Char) :
    sequence? (c :: rest) = none := by
  have noEscape : c ≠ '\x1b' := by
    rintro rfl
    exact absurd narrow (by decide)
  have noIntroducer : c ≠ '\u009b' := by
    rintro rfl
    exact absurd narrow (by decide)
  simp [sequence?, isIntroducer, noEscape, noIntroducer]

theorem flatten_piecesFrom_of_some {cs after : List Char} (found : sequence? cs = some after)
    (steps : Nat) :
    (piecesFrom (steps + 1) cs).flatten = (piecesFrom steps after).flatten := by
  cases cs with
  | nil => cases found
  | cons c rest =>
    rw [piecesFrom, found]
    rfl

theorem flatten_piecesFrom_of_none {c : Char} {rest : List Char}
    (none : sequence? (c :: rest) = none) (steps : Nat) :
    (piecesFrom (steps + 1) (c :: rest)).flatten = c :: (piecesFrom steps rest).flatten := by
  rw [piecesFrom, none]
  cases piecesFrom steps rest <;> rfl

/-- What stands between the sequences is the text that they were put into. -/
theorem flatten_piecesFrom {bare coloured : List Char} (decorates : Decorates bare coloured)
    (narrow : ∀ c ∈ bare, isNarrow c = true) {steps : Nat} (enough : coloured.length ≤ steps) :
    (piecesFrom steps coloured).flatten = bare := by
  -- A step takes one character or one whole sequence, so the length is enough of them.
  induction decorates generalizing steps with
  | done => cases steps <;> rfl
  | @char c bare coloured _ _ ih =>
    obtain ⟨first, others⟩ := List.forall_mem_cons.mp narrow
    rw [List.length_cons] at enough
    obtain ⟨steps, rfl⟩ : ∃ further, steps = further + 1 := ⟨steps - 1, by omega⟩
    rw [flatten_piecesFrom_of_none (sequence?_of_isNarrow first coloured),
      ih others (Nat.le_of_succ_le_succ enough)]
  | @switch switch bare coloured written _ ih =>
    have some := written.length_pos
    rw [List.length_append] at enough
    obtain ⟨steps, rfl⟩ : ∃ further, steps = further + 1 := ⟨steps - 1, by omega⟩
    rw [flatten_piecesFrom_of_some (sequence?_of_switch written coloured), ih narrow (by omega)]

end Escapes

namespace Line

theorem columns_of_narrow {pieces : List (List Char)}
    (narrow : ∀ c ∈ pieces.flatten, isNarrow c = true) (columns : Nat) :
    pieces.foldl (fun columns piece => columns + Text.width piece) columns =
      columns + pieces.flatten.length := by
  induction pieces generalizing columns with
  | nil => rfl
  | cons piece rest ih =>
    obtain ⟨first, others⟩ := List.forall_mem_append.mp narrow
    rw [List.foldl_cons, ih others, Text.width_of_narrow first, List.flatten_cons,
      List.length_append, Nat.add_assoc]

/-- Narrow text takes as many columns in colours as it has characters without them. -/
theorem shownWidth_of_decorates {bare coloured : String} (decorates : Text.Decorates bare coloured)
    (narrow : Text.allNarrow bare = true) : shownWidth coloured = bare.length := by
  have each := Text.isNarrow_of_allNarrow narrow
  have text : (Escapes.pieces coloured.toList).flatten = bare.toList :=
    Escapes.flatten_piecesFrom decorates each (Nat.le_refl _)
  rw [shownWidth, columns_of_narrow (text.symm ▸ each), text, Nat.zero_add, String.length_toList]

/-- Narrow text is centred by the same spaces in colours and without them. -/
theorem decorates_centred {bare coloured : String} (decorates : Text.Decorates bare coloured)
    (narrow : Text.allNarrow bare = true) :
    Text.Decorates (centred bare) (centred coloured) := by
  have itself := Text.escapeless_of_allNarrow narrow
  have space : Text.Escapeless (repeated ((totalWidth - bare.length) / 2) ' ') :=
    Text.admits_escapeless.of_isPlain (isPlain_repeated _ (by decide))
  rw [centred, centred, shownWidth_of_decorates itself.decorates narrow,
    shownWidth_of_decorates decorates narrow]
  exact (space.decorates.append decorates).append space.decorates

end Line

/-! ### Line by line -/

namespace Text

variable {bare coloured : List String}

theorem map_unstyled (decorated : List.Forall₂ Decorates bare coloured) :
    coloured.map unstyled = bare := by
  induction decorated with
  | nil => rfl
  | cons first _ ih => rw [List.map_cons, first.unstyled_eq, ih]

theorem decorates_printed (decorated : List.Forall₂ Decorates bare coloured) :
    Decorates (printed bare) (printed coloured) := by
  induction decorated with
  | nil => exact .done
  | cons first _ ih =>
    have lineFeed : Decorates "\n" "\n" := Escapeless.decorates (by decide)
    rw [printed_cons, printed_cons]
    exact (first.append lineFeed).append ih

end Text

theorem Styled.decorates_map {shown : List Styled}
    (escapeless : ∀ line ∈ shown.map (render false), Text.Escapeless line) :
    List.Forall₂ Text.Decorates (shown.map (render false)) (shown.map (render true)) := by
  rw [List.forall₂_map_left_iff, List.forall₂_map_right_iff, List.forall₂_same]
  exact fun s mem => decorates_render (escapeless _ (List.mem_map_of_mem mem))

namespace Results

variable (suite : SuiteReport) (total : Duration) (quiet : Nat)

theorem decorates_summary :
    List.Forall₂ Text.Decorates (summary false suite total quiet)
      (summary true suite total quiet) := by
  have text : Text.Decorates ((summaryText suite total).render false)
      ((summaryText suite total).render true) :=
    Styled.decorates_render (Text.escapeless_of_allNarrow (allNarrow_summaryText suite total))
  have bar : Text.Decorates (Line.fatSeparator.render false) (Line.fatSeparator.render true) :=
    Styled.decorates_render (Text.admits_escapeless.of_isPlain Line.isPlain_fatSeparator)
  unfold summary
  split
  · exact .cons bar (.cons (Line.decorates_centred text (allNarrow_summaryText suite total)) .nil)
  · exact .cons (Text.Escapeless.decorates (by decide)) (.cons text .nil)

theorem decorates_lines {suite : SuiteReport}
    (escapeless : ∀ report ∈ suite.cases, report.AllTexts Text.Escapeless) :
    List.Forall₂ Text.Decorates (lines false suite total quiet) (lines true suite total quiet) := by
  have header : List.Forall₂ Text.Decorates
      ((Line.headerLines "optics results" quiet).map (Styled.render false))
      ((Line.headerLines "optics results" quiet).map (Styled.render true)) :=
    Styled.decorates_map
      fun line mem => Text.admits_escapeless.of_isPlain (isPlain_header line mem)
  have trees : List.Forall₂ Text.Decorates ((trees 0 suite.cases).map (Styled.render false))
      ((trees 0 suite.cases).map (Styled.render true)) := by
    apply Styled.decorates_map
    rw [render_trees]
    exact kind_treeTexts Text.admits_escapeless escapeless 0
  unfold lines
  refine List.rel_append (List.rel_append header ?_) (decorates_summary suite total quiet)
  split
  · exact trees
  · exact .nil

/-- The results in colours are the results without them, with sequences put in: line by line, and in
all that is printed. The texts of the cases may be any that have no escape. -/
theorem unstyled_lines {suite : SuiteReport}
    (escapeless : ∀ report ∈ suite.cases, report.AllTexts Text.Escapeless) (total : Duration)
    (quiet : Nat) :
    (lines true suite total quiet).map Text.unstyled = lines false suite total quiet ∧
      Text.unstyled (Text.printed (lines true suite total quiet)) =
        Text.printed (lines false suite total quiet) := by
  have decorated := decorates_lines total quiet escapeless
  exact ⟨Text.map_unstyled decorated, (Text.decorates_printed decorated).unstyled_eq⟩

/-- A suite with texts that look like sequences without their escapes. -/
def unescaped : SuiteReport :=
  ⟨[{ name := "[0m", skipReason := some "\u009b31m", entries := [.error "[1m\n[", .error ""] },
    { name := "", fatal := some ";4m" }]⟩

/-- Within the brackets of the head, grey goes on again behind the number, and the summary is centred
by four spaces. -/
theorem unstyled_lines_of_unescaped :
    (∀ report ∈ unescaped.cases, report.AllTexts Text.Escapeless) ∧
    (lines true unescaped ⟨0⟩ 0)[1]? =
      some "\x1b[90m[\x1b[95m0\x1b[0m\x1b[90m]\x1b[0m \x1b[96m[0m\x1b[0m" ∧
    (lines true unescaped ⟨0⟩ 0).getLast?.map Text.unstyled =
      some "    Checks Complete: 0 passed, 0 skipped, 2 failed in 0.00s    " ∧
    (lines true unescaped ⟨0⟩ 0).map Text.unstyled = lines false unescaped ⟨0⟩ 0 ∧
    Text.unstyled (Text.printed (lines true unescaped ⟨0⟩ 0)) =
      Text.printed (lines false unescaped ⟨0⟩ 0) := by
  have escapeless : ∀ report ∈ unescaped.cases, report.AllTexts Text.Escapeless := by
    decide +kernel
  have head : (lines true unescaped ⟨0⟩ 0)[1]? =
      some "\x1b[90m[\x1b[95m0\x1b[0m\x1b[90m]\x1b[0m \x1b[96m[0m\x1b[0m" := by
    decide +kernel
  have last : (lines false unescaped ⟨0⟩ 0).getLast? =
      some "    Checks Complete: 0 passed, 0 skipped, 2 failed in 0.00s    " := by
    decide +kernel
  obtain ⟨each, whole⟩ := unstyled_lines escapeless ⟨0⟩ 0
  refine ⟨escapeless, head, ?_, each, whole⟩
  rw [← List.getLast?_map, each, last]

end Results
end OpticsCheck
