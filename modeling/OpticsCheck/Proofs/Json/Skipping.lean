import OpticsCheck.Json.Skip
import OpticsCheck.Proofs.Json.Numerals
import OpticsCheck.Proofs.Json.Strings

/-!
# Skipping values

The grammar of the values that nobody asks for, nested to any depth, and that each is skipped to its
end. The grammar has a second kind of text, what follows an item up to the bracket that closes its
list or object: on such a text the skipping pops the bracket that it had pushed.
-/

namespace OpticsCheck.Json

namespace Bracket

def opening : Bracket → Char
  | .list => '['
  | .object => '\x7b'

/-- What stands before an item: nothing in a list, a key with its colon in an object. -/
def labels : Bracket → Texts
  | .list => {[]}
  | .object => {text | ∃ body, SkippedBody body ∧ ∃ before ∈ blanks, ∃ after ∈ blanks,
      text = '"' :: (body ++ '"' :: (before ++ ':' :: after))}

/-- What the skipping looks for where an item is due. -/
def awaits : Bracket → Awaited
  | .list => .value
  | .object => .key

@[simp] theorem solid_opening (b : Bracket) : isBlank b.opening = false := by cases b <;> rfl

@[simp] theorem solid_closing (b : Bracket) : isBlank b.closing = false := by cases b <;> rfl

end Bracket

/-- A part of a text that is skipped: a value, or what follows an item up to the closing bracket. -/
inductive Part where
  | value
  | after (bracket : Bracket)

inductive WellFormed : Part → List Char → Prop
  | word {text : List Char} (known : text = ['n', 'u', 'l', 'l'] ∨ text = ['t', 'r', 'u', 'e'] ∨
      text = ['f', 'a', 'l', 's', 'e']) : WellFormed .value text
  | string {body : List Char} (skipped : SkippedBody body) :
      WellFormed .value ('"' :: (body ++ ['"']))
  | number {text : List Char} (numeral : text ∈ numerals) : WellFormed .value text
  | empty {inside : List Char} (b : Bracket) (blank : inside ∈ blanks) :
      WellFormed .value (b.opening :: (inside ++ [b.closing]))
  | nested {before label item tail : List Char} (b : Bracket) (blank : before ∈ blanks)
      (labelled : label ∈ b.labels) (first : WellFormed .value item)
      (more : WellFormed (.after b) tail) :
      WellFormed .value (b.opening :: (before ++ (label ++ (item ++ tail))))
  | closed {before : List Char} (b : Bracket) (blank : before ∈ blanks) :
      WellFormed (.after b) (before ++ [b.closing])
  | next {before inside label item tail : List Char} (b : Bracket) (blank : before ∈ blanks)
      (spaced : inside ∈ blanks) (labelled : label ∈ b.labels) (first : WellFormed .value item)
      (more : WellFormed (.after b) tail) :
      WellFormed (.after b) (before ++ ',' :: (inside ++ (label ++ (item ++ tail))))

section Steps

variable {cs more left : List Char} {c : Char} {b : Bracket} (steps : Nat) (stack : List Bracket)

theorem skip_scalar (found : afterBlanks cs = c :: more) (noList : c ≠ '[') (noObject : c ≠ '\x7b')
    (passed : skipScalar c more = .ok left) :
    skip (steps + 1) .value stack cs = skip steps .separator stack left := by
  simp [skip, found, passed]

theorem skip_empty (found : afterBlanks cs = b.opening :: more)
    (closes : afterBlanks more = b.closing :: left) :
    skip (steps + 1) .value stack cs = skip steps .separator stack left := by
  cases b with
  | list =>
    rw [Bracket.opening] at found
    rw [Bracket.closing] at closes
    simp [skip, found, closes]
  | object =>
    rw [Bracket.opening] at found
    rw [Bracket.closing] at closes
    simp [skip, found, closes]

theorem skip_enter (found : afterBlanks cs = b.opening :: more)
    (goes : afterBlanks more = c :: left) (notClosed : c ≠ b.closing) :
    skip (steps + 1) .value stack cs = skip steps b.awaits (b :: stack) (c :: left) := by
  cases b with
  | list =>
    rw [Bracket.opening] at found
    have inside : c ≠ ']' := notClosed
    simp [skip, found, goes, inside, Bracket.awaits]
  | object =>
    rw [Bracket.opening] at found
    have inside : c ≠ '\x7d' := notClosed
    simp [skip, found, goes, inside, Bracket.awaits]

theorem skip_comma (found : afterBlanks cs = ',' :: more) :
    skip (steps + 1) .separator (b :: stack) cs = skip steps b.awaits (b :: stack) more := by
  cases b <;> simp [skip, found, Bracket.awaits]

theorem skip_close (found : afterBlanks cs = b.closing :: more) :
    skip (steps + 1) .separator (b :: stack) cs = skip steps .separator stack more := by
  cases b <;> simp [skip, found, Bracket.closing]

theorem skip_key (found : afterBlanks cs = '"' :: more) (passed : skipKey more = .ok left) :
    skip (steps + 1) .key stack cs = skip steps .value stack left := by
  simp [skip, found, passed]

end Steps

section Grammar

variable {text label rest : List Char}

/-- A value begins with a character that is neither blank nor a closing bracket of a list. -/
theorem WellFormed.begins (value : WellFormed .value text) :
    ∃ c more, text = c :: more ∧ isBlank c = false ∧ c ≠ ']' := by
  cases value with
  | word known => rcases known with rfl | rfl | rfl <;> exact ⟨_, _, rfl, rfl, by decide⟩
  | string skipped => exact ⟨_, _, rfl, rfl, by decide⟩
  | number numeral =>
    obtain ⟨c, more, rfl, numeric⟩ := numeral_begins numeral
    exact ⟨c, more, rfl, solid_of_numeric numeric, ne_of_numeric numeric (by decide)⟩
  | empty b blank => cases b <;> exact ⟨_, _, rfl, rfl, by decide⟩
  | nested b blank labelled first more => cases b <;> exact ⟨_, _, rfl, rfl, by decide⟩

theorem WellFormed.delimited {b : Bracket} (tail : WellFormed (.after b) text) :
    Delimited (text ++ rest) := by
  cases tail with
  | closed b blank =>
    rw [List.append_assoc]
    refine delimited_of_blanks blank (delimited_cons ?_)
    cases b
    · exact .inr (.inl rfl)
    · exact .inr (.inr rfl)
  | next b blank =>
    rw [List.append_assoc]
    exact delimited_of_blanks blank (delimited_cons (.inl rfl))

theorem skipKey_label {body before after : List Char} (skipped : SkippedBody body)
    (blank : before ∈ blanks) :
    skipKey (body ++ '"' :: (before ++ ':' :: after)) = .ok after := by
  have colon : afterBlanks (before ++ ':' :: after) = ':' :: after := afterBlanks_gap blank rfl
  simp only [skipKey, skipString_of_body skipped, bind, Except.bind, colon]

/-- Behind its label an item is due as a value, with blanks before it. -/
theorem skip_label {b : Bracket} {gap : List Char} (spaced : gap ∈ blanks)
    (labelled : label ∈ b.labels) :
    ∃ k ≤ label.length, ∃ inside ∈ blanks, ∀ steps stack text,
      skip (steps + k) b.awaits stack (gap ++ (label ++ text)) =
        skip steps .value stack (inside ++ text) := by
  cases b with
  | list =>
    cases labelled
    exact ⟨0, le_rfl, gap, spaced, fun _ _ _ => rfl⟩
  | object =>
    obtain ⟨body, skipped, before, blank, after, inside, rfl⟩ := labelled
    refine ⟨1, by simp, after, inside, fun steps stack text => ?_⟩
    have found : afterBlanks (gap ++ ('"' :: (body ++ '"' :: (before ++ ':' :: after)) ++ text)) =
        '"' :: (body ++ '"' :: (before ++ ':' :: (after ++ text))) := by
      rw [List.cons_append, afterBlanks_gap spaced rfl]
      simp
    exact skip_key steps stack found (skipKey_label skipped blank)

/-- What skipping a part comes to, in `k` steps: a value leaves the open brackets as they are, and
what follows an item closes one of them. -/
def Part.Skipped (part : Part) (k : Nat) (text : List Char) : Prop :=
  match part with
  | .value => ∀ gap ∈ blanks, ∀ steps stack rest, Delimited rest →
      skip (steps + k) .value stack (gap ++ (text ++ rest)) = skip steps .separator stack rest
  | .after b => ∀ steps stack rest,
      skip (steps + k) .separator (b :: stack) (text ++ rest) = skip steps .separator stack rest

/-- A number, a word or a string takes one step. -/
theorem skipped_scalar {c : Char} {more : List Char} (solid : isBlank c = false)
    (noList : c ≠ '[') (noObject : c ≠ '\x7b')
    (passed : ∀ rest, Delimited rest → skipScalar c (more ++ rest) = .ok rest) :
    Part.value.Skipped 1 (c :: more) := by
  intro gap blank steps stack rest delimited
  have found : afterBlanks (gap ++ (c :: more ++ rest)) = c :: (more ++ rest) := by
    rw [List.cons_append, afterBlanks_gap blank solid]
  exact skip_scalar steps stack found noList noObject (passed rest delimited)

theorem skipScalar_word {text : List Char} (known : text = ['n', 'u', 'l', 'l'] ∨
    text = ['t', 'r', 'u', 'e'] ∨ text = ['f', 'a', 'l', 's', 'e']) :
    ∃ c letters, text = c :: letters ∧ isBlank c = false ∧ c ≠ '[' ∧ c ≠ '\x7b' ∧
      ∀ rest, skipScalar c (letters ++ rest) = .ok rest := by
  have passed : ∀ letters rest : List Char,
      (·.2) <$> Reader.word letters (letters ++ rest) = .ok rest := by
    intro letters rest
    rw [Reader.word_append]
    rfl
  rcases known with rfl | rfl | rfl
  all_goals exact ⟨_, _, rfl, rfl, by decide, by decide, fun rest => passed _ rest⟩

theorem skipScalar_number {c : Char} {more rest : List Char} (numeral : c :: more ∈ numerals)
    (delimited : Delimited rest) : skipScalar c (more ++ rest) = .ok rest := by
  obtain ⟨_, _, same, numeric⟩ := numeral_begins numeral
  cases same
  obtain ⟨read, done⟩ := numeral_append (.malformed .invalidNumber) numeral delimited
  have other : ∀ d, ¬ (d = '-' ∨ isDigit d = true) → c ≠ d := fun _ => ne_of_numeric numeric
  unfold skipScalar
  rw [if_neg (other '"' (by decide)), if_neg (other 'n' (by decide)), if_neg (other 't' (by decide)),
    if_neg (other 'f' (by decide)), if_pos numeric, ← List.cons_append, done]
  rfl

/-- From where an item is due to behind the bracket that closes its list or object. -/
theorem skip_item {b : Bracket} {gap item tail : List Char} {first last : Nat}
    (spaced : gap ∈ blanks) (labelled : label ∈ b.labels) (skipsItem : Part.value.Skipped first item)
    (more : WellFormed (.after b) tail) (skipsMore : (Part.after b).Skipped last tail) :
    ∃ k ≤ label.length + first + last, ∀ steps stack rest,
      skip (steps + k) b.awaits (b :: stack) (gap ++ (label ++ (item ++ (tail ++ rest)))) =
        skip steps .separator stack rest := by
  obtain ⟨k, short, inside, blank, skipsLabel⟩ := skip_label spaced labelled
  refine ⟨last + first + k, by omega, fun steps stack rest => ?_⟩
  calc skip (steps + (last + first + k)) b.awaits (b :: stack)
        (gap ++ (label ++ (item ++ (tail ++ rest))))
      = skip (steps + last + first) .value (b :: stack) (inside ++ (item ++ (tail ++ rest))) := by
        rw [← skipsLabel]
        congr 1
        omega
    _ = skip (steps + last) .separator (b :: stack) (tail ++ rest) :=
        skipsItem inside blank _ _ _ more.delimited
    _ = skip steps .separator stack rest := skipsMore steps stack rest

theorem label_begins {b : Bracket} (labelled : label ∈ b.labels) (value : WellFormed .value text) :
    ∃ c more, label ++ text = c :: more ∧ isBlank c = false ∧ c ≠ b.closing := by
  cases b with
  | list =>
    cases labelled
    exact value.begins
  | object =>
    obtain ⟨body, -, before, -, after, -, rfl⟩ := labelled
    exact ⟨'"', _, rfl, rfl, by decide⟩

theorem WellFormed.skipped {part : Part} (wellFormed : WellFormed part text) :
    ∃ k ≤ text.length, part.Skipped k text := by
  induction wellFormed with
  | word known =>
    obtain ⟨c, letters, rfl, solid, noList, noObject, passed⟩ := skipScalar_word known
    exact ⟨1, by simp, skipped_scalar solid noList noObject fun rest _ => passed rest⟩
  | string skipped =>
    refine ⟨1, by simp, skipped_scalar rfl (by decide) (by decide) fun rest _ => ?_⟩
    rw [List.append_assoc]
    exact skipString_of_body skipped rest
  | number numeral =>
    obtain ⟨c, more, rfl, numeric⟩ := numeral_begins numeral
    have other : ∀ d, ¬ (d = '-' ∨ isDigit d = true) → c ≠ d := fun _ => ne_of_numeric numeric
    exact ⟨1, by simp, skipped_scalar (solid_of_numeric numeric) (other _ (by decide))
      (other _ (by decide)) fun rest => skipScalar_number numeral⟩
  | @empty inside b blank =>
    refine ⟨1, by simp, ?_⟩
    intro gap spaced steps stack rest _
    have found : afterBlanks (gap ++ (b.opening :: (inside ++ [b.closing]) ++ rest)) =
        b.opening :: (inside ++ b.closing :: rest) := by
      rw [List.cons_append, afterBlanks_gap spaced b.solid_opening]
      simp
    exact skip_empty steps stack found (afterBlanks_gap blank b.solid_closing)
  | @nested before label item tail b blank labelled first more ihFirst ihMore =>
    obtain ⟨itemSteps, itemShort, skipsItem⟩ := ihFirst
    obtain ⟨tailSteps, tailShort, skipsMore⟩ := ihMore
    obtain ⟨k, short, skips⟩ := skip_item nil_mem_blanks labelled skipsItem more skipsMore
    refine ⟨k + 1, by simp; omega, ?_⟩
    intro gap spaced steps stack rest _
    obtain ⟨c, others, begins, solid, notClosed⟩ := label_begins labelled first
    have found : afterBlanks (gap ++ (b.opening :: (before ++ (label ++ (item ++ tail))) ++ rest)) =
        b.opening :: (before ++ (label ++ (item ++ (tail ++ rest)))) := by
      rw [List.cons_append, afterBlanks_gap spaced b.solid_opening]
      simp
    have begun : label ++ (item ++ (tail ++ rest)) = c :: (others ++ (tail ++ rest)) := by
      rw [← List.append_assoc, begins, List.cons_append]
    have goes : afterBlanks (before ++ (label ++ (item ++ (tail ++ rest)))) =
        c :: (others ++ (tail ++ rest)) := by
      rw [begun, afterBlanks_gap blank solid]
    rw [← Nat.add_assoc, skip_enter _ _ found goes notClosed, ← begun]
    exact skips steps stack rest
  | @closed before b blank =>
    refine ⟨1, by simp, ?_⟩
    intro steps stack rest
    refine skip_close steps stack ?_
    rw [List.append_assoc]
    exact afterBlanks_gap blank b.solid_closing
  | @next before inside label item tail b blank spaced labelled first more ihFirst ihMore =>
    obtain ⟨itemSteps, itemShort, skipsItem⟩ := ihFirst
    obtain ⟨tailSteps, tailShort, skipsMore⟩ := ihMore
    obtain ⟨k, short, skips⟩ := skip_item spaced labelled skipsItem more skipsMore
    refine ⟨k + 1, by simp; omega, ?_⟩
    intro steps stack rest
    have found : afterBlanks (before ++ ',' :: (inside ++ (label ++ (item ++ tail))) ++ rest) =
        ',' :: (inside ++ (label ++ (item ++ (tail ++ rest)))) := by
      rw [List.append_assoc, List.cons_append, afterBlanks_gap blank rfl]
      simp
    rw [← Nat.add_assoc, skip_comma _ _ found]
    exact skips steps stack rest

end Grammar

/-- The values that nobody asks for. -/
def anyValues : Texts := {text | WellFormed .value text}

theorem reads_skipValue : Reads Reader.skipValue anyValues () := by
  constructor
  · intro text value
    obtain ⟨c, more, rfl, solid, notClosed⟩ := WellFormed.begins value
    exact ⟨c, by rw [afterBlanks_cons solid]; rfl, notClosed⟩
  · intro text value cs rest found delimited
    obtain ⟨k, short, skips⟩ := WellFormed.skipped value
    obtain ⟨c, more, rfl, solid, -⟩ := WellFormed.begins value
    rw [afterBlanks_cons solid] at found
    obtain ⟨gap, blank, same⟩ := exists_gap cs
    rw [found] at same
    subst same
    -- a step for each character is enough, with one left to see that no bracket is open
    obtain ⟨left, enough⟩ : ∃ left, (gap ++ (c :: more ++ rest)).length + 1 = left + 1 + k := by
      refine ⟨(gap ++ (c :: more ++ rest)).length - k, ?_⟩
      simp only [List.length_append] at short ⊢
      omega
    have skipped := skips gap blank (left + 1) [] rest delimited
    rw [Reader.skipValue, enough, skipped]
    rfl

end OpticsCheck.Json
