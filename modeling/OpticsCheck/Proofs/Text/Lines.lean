import OpticsCheck.Proofs.Text.Plain

/-!
# Lines of a text

Lines that are printed one after the other can be told apart again as long as none of them has a
line break of its own. Texts without controls are of that kind, as they are of every kind that only
leaves a control out.
-/

namespace OpticsCheck

/-- Parts behind the first one follow a separator each. -/
theorem intercalate_cons {α : Type} (sep : α) (part : List α) (parts : List (List α)) :
    [sep].intercalate (part :: parts) = part ++ parts.flatMap (sep :: ·) := by
  induction parts generalizing part with
  | nil => simp
  | cons next parts ih =>
    rw [List.intercalate_cons_cons, ih, List.flatMap_cons, List.append_assoc]
    rfl

theorem forall_mem_intercalate {α : Type} {kind : α → Prop} {sep : α} (gap : kind sep)
    {parts : List (List α)} (each : ∀ part ∈ parts, ∀ x ∈ part, kind x) :
    ∀ x ∈ [sep].intercalate parts, kind x := by
  cases parts with
  | nil => exact List.forall_mem_nil _
  | cons part rest =>
    obtain ⟨first, others⟩ := List.forall_mem_cons.mp each
    rw [intercalate_cons, List.forall_mem_append, List.forall_mem_flatMap]
    exact ⟨first, fun next mem => List.forall_mem_cons.mpr ⟨gap, others next mem⟩⟩

namespace Text

/-- The text stays on one line. -/
def Unbroken (text : String) : Prop := '\n' ∉ text.toList

instance : DecidablePred Unbroken :=
  fun text => inferInstanceAs (Decidable ('\n' ∉ text.toList))

/-- The plain texts are of that kind, and so is what is put together from texts of that kind. -/
structure Admits (kind : String → Prop) : Prop where
  of_isPlain : ∀ {text : String}, isPlain text = true → kind text
  append : ∀ {first second : String}, kind first → kind second → kind (first ++ second)

theorem admits_lacking (c : Char) (control : isControl c = true) :
    Admits fun text => c ∉ text.toList where
  of_isPlain plain mem := by
    rw [isControl_of_isPlain plain mem] at control
    cases control
  append first second := by simp [first, second]

theorem admits_unbroken : Admits Unbroken := admits_lacking '\n' rfl

theorem unbroken_of_isPlain {text : String} (plain : isPlain text = true) : Unbroken text :=
  admits_unbroken.of_isPlain plain

/-- What the lines come to when they are printed one after the other. -/
def printed (shown : List String) : String := String.join (shown.map (· ++ "\n"))

theorem printed_cons (line : String) (rest : List String) :
    printed (line :: rest) = line ++ "\n" ++ printed rest :=
  String.join_cons

/-- The line behind the last line break is empty. -/
theorem lines_printed {shown : List String} (unbroken : ∀ line ∈ shown, Unbroken line) :
    lines (printed shown) = shown ++ [""] := by
  induction shown with
  | nil => rfl
  | cons line rest ih =>
    obtain ⟨first, others⟩ := List.forall_mem_cons.mp unbroken
    have chars : (printed (line :: rest)).toList =
        line.toList ++ '\n' :: (printed rest).toList := by
      simp [printed_cons]
    have parted := List.splitOnP_append_cons (p := (· == '\n')) line.toList (printed rest).toList
      (beq_self_eq_true '\n')
    have alone := List.splitOn_eq_singleton first
    have later := ih others
    unfold lines List.splitOn at later alone ⊢
    rw [chars, parted, alone, List.map_append, later]
    simp

theorem printed_injective {shown shown' : List String}
    (unbroken : ∀ line ∈ shown, Unbroken line) (unbroken' : ∀ line ∈ shown', Unbroken line)
    (same : printed shown = printed shown') : shown = shown' := by
  have lines := congrArg lines same
  rw [lines_printed unbroken, lines_printed unbroken'] at lines
  exact List.append_left_inj _ |>.mp lines

end Text
end OpticsCheck
