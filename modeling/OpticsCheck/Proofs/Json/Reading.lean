import Mathlib.Data.List.DropRight
import Mathlib.Data.List.TakeWhile
import Mathlib.Data.Set.Basic
import OpticsCheck.Json.Shape

/-!
# Reading a value wherever it stands

A reader skips the blanks before its value and stops right behind it. So the same text is read alike
at the start of a document, behind a colon and in the middle of a list, as long as what follows it
cannot carry the value on.
-/

namespace OpticsCheck.Json

/-- Texts that stand for the same thing. -/
abbrev Texts := Set (List Char)

def blanks : Texts := {text | ∀ c ∈ text, isBlank c = true}

/-- A text of the given kind behind any blanks. -/
def spaced (texts : Texts) : Texts :=
  {text | ∃ before ∈ blanks, ∃ item ∈ texts, text = before ++ item}

/-- What may follow a value: nothing, a blank, a comma or a closing bracket. -/
def Delimited (rest : List Char) : Prop :=
  ∀ c ∈ rest.head?, isBlank c = true ∨ c = ',' ∨ c = ']' ∨ c = '\x7d'

section Blanks

variable {before text more rest : List Char} {c : Char}

theorem nil_mem_blanks : [] ∈ blanks := by
  intro c mem
  cases mem

theorem mem_spaced {texts : Texts} (mem : text ∈ texts) : text ∈ spaced texts :=
  ⟨[], nil_mem_blanks, text, mem, rfl⟩

theorem afterBlanks_of_blanks (blank : before ∈ blanks) :
    afterBlanks (before ++ rest) = afterBlanks rest :=
  List.dropWhile_append_of_pos blank

theorem afterBlanks_cons (solid : isBlank c = false) : afterBlanks (c :: rest) = c :: rest :=
  List.dropWhile_cons_of_neg (by simp [solid])

theorem afterBlanks_gap (blank : before ∈ blanks) (solid : isBlank c = false) :
    afterBlanks (before ++ c :: rest) = c :: rest := by
  rw [afterBlanks_of_blanks blank, afterBlanks_cons solid]

theorem afterBlanks_append (found : afterBlanks text = c :: more) :
    afterBlanks (text ++ rest) = c :: more ++ rest := by
  unfold afterBlanks at found ⊢
  rw [List.dropWhile_append, found]
  rfl

theorem afterBlanks_append_of_solid (solid : afterBlanks text ≠ []) (rest : List Char) :
    afterBlanks (text ++ rest) = afterBlanks text ++ rest := by
  cases found : afterBlanks text with
  | nil => exact absurd found solid
  | cons c more => exact afterBlanks_append found

theorem afterBlanks_of_all_blanks (blank : text ∈ blanks) : afterBlanks text = [] :=
  List.dropWhile_eq_nil_iff.mpr blank

theorem afterBlanks_afterBlanks (cs : List Char) :
    afterBlanks (afterBlanks cs) = afterBlanks cs :=
  List.dropWhile_idempotent isBlank cs

theorem exists_gap (cs : List Char) : ∃ gap ∈ blanks, cs = gap ++ afterBlanks cs :=
  ⟨cs.takeWhile isBlank, fun _ => List.mem_takeWhile_imp, List.takeWhile_append_dropWhile.symm⟩

theorem delimited_nil : Delimited [] := by
  intro c mem
  cases mem

theorem delimited_of_blanks (blank : before ∈ blanks) (delimited : Delimited rest) :
    Delimited (before ++ rest) := by
  cases before with
  | nil => exact delimited
  | cons first _ =>
    rintro c ⟨⟩
    exact .inl (blank first List.mem_cons_self)

theorem delimited_cons (ends : c = ',' ∨ c = ']' ∨ c = '\x7d') : Delimited (c :: rest) := by
  rintro d ⟨⟩
  exact .inr ends

theorem eq_of_isBlank (blank : isBlank c = true) : c = ' ' ∨ c = '\n' ∨ c = '\t' ∨ c = '\r' := by
  simpa [isBlank, or_assoc] using blank

/-- No delimiter can be part of a number. -/
theorem not_numeral_of_delimited (delimited : Delimited (c :: rest)) :
    isDigit c = false ∧ c ≠ '-' ∧ c ≠ '.' ∧ c ≠ 'e' ∧ c ≠ 'E' := by
  rcases delimited c rfl with blank | rfl | rfl | rfl
  · rcases eq_of_isBlank blank with rfl | rfl | rfl | rfl <;> decide
  all_goals decide

end Blanks

namespace Reader

variable {α β : Type} {reader : Reader α} {next : α → Reader β} {value : α} {c : Char}
  {cs more rest : List Char}

theorem bind_of_ok (first : reader cs = .ok (value, rest)) :
    (reader >>= next) cs = next value rest := by
  simp only [bind, StateT.bind, first, Except.bind]

theorem get_bind (next : List Char → Reader β) (cs : List Char) :
    ((get : Reader (List Char)) >>= next) cs = next cs cs := rfl

theorem map_of_ok (f : α → β) (done : reader cs = .ok (value, rest)) :
    (f <$> reader) cs = .ok (f value, rest) := by
  simp only [Functor.map, StateT.map, bind, done, Except.bind, pure, Except.pure]

theorem bind_congr {ds : List Char} (first : reader cs = reader ds) :
    (reader >>= next) cs = (reader >>= next) ds := by
  simp only [bind, StateT.bind, first]

theorem ok_bind {b : β} {left : List Char} (done : (reader >>= next) cs = .ok (b, left)) :
    ∃ a between, reader cs = .ok (a, between) ∧ next a between = .ok (b, left) := by
  cases first : reader cs with
  | error problem => simp [bind, StateT.bind, first, Except.bind] at done
  | ok read =>
    obtain ⟨a, between⟩ := read
    rw [bind_of_ok first] at done
    exact ⟨a, between, rfl, done⟩

theorem peek_of_cons (found : afterBlanks cs = c :: rest) : peek cs = .ok (some c, c :: rest) := by
  simp only [peek, found, List.head?_cons]

theorem word_append (letters rest : List Char) : word letters (letters ++ rest) = .ok ((), rest) := by
  induction letters with
  | nil => rfl
  | cons c letters ih =>
    rw [word]
    show (if c = c then _ else _ : Reader Unit) (c :: (letters ++ rest)) = _
    rw [if_pos rfl]
    exact ih

theorem startingWith_of_cons {continue? : Char → Option (Reader α)} {expected : String}
    (found : afterBlanks cs = c :: rest) (continues : continue? c = some reader) :
    startingWith continue? expected cs = reader (c :: rest) := by
  rw [startingWith, bind_of_ok (peek_of_cons found)]
  simp only [continues]

theorem mistaken_ne_ok (expected : String) (c : Char) (cs left : List Char) :
    mistaken expected c cs ≠ .ok (value, left) := by
  intro done
  unfold mistaken at done
  -- whatever is found, only the mismatch is left to report
  repeat' split at done
  all_goals
    obtain ⟨found, between, -, refused⟩ := ok_bind done
    cases refused

/-- A value that was read started with a character that its reader goes on from. -/
theorem ok_startingWith {continue? : Char → Option (Reader α)} {expected : String}
    {left : List Char} (done : startingWith continue? expected cs = .ok (value, left)) :
    ∃ c more reader, afterBlanks cs = c :: more ∧ continue? c = some reader ∧
      reader (c :: more) = .ok (value, left) := by
  obtain ⟨first, between, peeked, after⟩ := ok_bind done
  cases found : afterBlanks cs with
  | nil =>
    rw [peek, found] at peeked
    cases peeked
    cases after
  | cons c more =>
    rw [peek_of_cons found] at peeked
    cases peeked
    cases goes : continue? c with
    | none =>
      simp only [goes] at after
      exact absurd after (mistaken_ne_ok expected c _ _)
    | some reader =>
      simp only [goes] at after
      exact ⟨c, more, reader, rfl, goes, after⟩

theorem startingWith_congr {continue? : Char → Option (Reader α)} {expected : String}
    {ds : List Char} (same : afterBlanks cs = afterBlanks ds) :
    startingWith continue? expected cs = startingWith continue? expected ds :=
  bind_congr (by rw [peek, peek, same])

theorem finish_of_blanks (blank : cs ∈ blanks) : finish cs = .ok ((), []) := by
  have ends : peek cs = .ok (none, []) := by
    rw [peek, afterBlanks_of_all_blanks blank]
    rfl
  rw [finish, bind_of_ok ends]
  rfl

theorem blanks_of_finish {left : List Char} (done : finish cs = .ok ((), left)) : cs ∈ blanks := by
  obtain ⟨gap, blank, whole⟩ := exists_gap cs
  cases found : afterBlanks cs with
  | nil =>
    rw [found, List.append_nil] at whole
    exact whole ▸ blank
  | cons c more =>
    rw [finish, bind_of_ok (peek_of_cons found)] at done
    cases done

/-- A document is its value with blanks behind it. -/
theorem readAll_eq_ok_iff {text : String} : reader.readAll text = .ok value ↔
    ∃ left ∈ blanks, reader text.toList = .ok (value, left) := by
  have whole : reader.readAll text = (·.1) <$>
    (reader >>= fun value => finish >>= fun _ => pure value) text.toList := rfl
  rw [whole]
  constructor
  · intro done
    cases all : (reader >>= fun value => finish >>= fun _ => pure value) text.toList with
    | error problem =>
      rw [all] at done
      cases done
    | ok result =>
      obtain ⟨v, left, read, after⟩ := ok_bind all
      obtain ⟨_, end_, finished, last⟩ := ok_bind after
      rw [all] at done
      cases last
      cases done
      exact ⟨left, blanks_of_finish finished, read⟩
  · rintro ⟨left, blank, read⟩
    rw [bind_of_ok read, bind_of_ok (finish_of_blanks blank)]
    rfl

end Reader

/-- Every text begins as a value does, and is read as `value` behind blanks and before what may
follow a value. -/
structure Reads {α : Type} (reader : Reader α) (texts : Texts) (value : α) : Prop where
  starts : ∀ text ∈ texts, ∃ c ∈ (afterBlanks text).head?, c ≠ ']'
  reads : ∀ text ∈ texts, ∀ cs rest, afterBlanks cs = afterBlanks text ++ rest →
    Delimited rest → reader cs = .ok (value, rest)

namespace Reads

variable {α : Type} {reader : Reader α} {texts : Texts} {value : α}

theorem mono {more : Texts} (reads : Reads reader more value) (within : texts ⊆ more) :
    Reads reader texts value :=
  ⟨fun text mem => reads.starts text (within mem), fun text mem => reads.reads text (within mem)⟩

theorem union {more : Texts} (reads : Reads reader texts value) (others : Reads reader more value) :
    Reads reader (texts ∪ more) value :=
  ⟨fun text mem => mem.elim (reads.starts text) (others.starts text),
    fun text mem => mem.elim (reads.reads text) (others.reads text)⟩

theorem exists_mem {ι : Type} {p : ι → Prop} {kind : ι → Texts}
    (each : ∀ i, p i → Reads reader (kind i) value) :
    Reads reader {text | ∃ i, p i ∧ text ∈ kind i} value :=
  ⟨fun text ⟨i, holds, mem⟩ => (each i holds).starts text mem,
    fun text ⟨i, holds, mem⟩ => (each i holds).reads text mem⟩

theorem spaced (reads : Reads reader texts value) : Reads reader (Json.spaced texts) value := by
  constructor
  · rintro text ⟨before, blank, item, mem, rfl⟩
    rw [afterBlanks_of_blanks blank]
    exact reads.starts item mem
  · rintro text ⟨before, blank, item, mem, rfl⟩ cs rest found delimited
    rw [afterBlanks_of_blanks blank] at found
    exact reads.reads item mem cs rest found delimited

theorem solid (reads : Reads reader texts value) {text : List Char} (mem : text ∈ texts) :
    afterBlanks text ≠ [] := by
  intro empty
  obtain ⟨c, head, -⟩ := reads.starts text mem
  rw [empty] at head
  cases head

/-- The blanks before a value may have been passed already. -/
theorem reads_solid (reads : Reads reader texts value) {text rest : List Char} (mem : text ∈ texts)
    (delimited : Delimited rest) : reader (afterBlanks text ++ rest) = .ok (value, rest) := by
  refine reads.reads text mem _ rest ?_ delimited
  have same := afterBlanks_afterBlanks text
  rw [afterBlanks_append_of_solid (by rw [same]; exact reads.solid mem), same]

/-- A reader that only looks at what follows the blanks need only be run on texts without any. -/
theorem of_cons {c : Char} (solid : isBlank c = false) (opens : c ≠ ']')
    (begins : ∀ text ∈ texts, ∃ more, text = c :: more)
    (reads : ∀ more, c :: more ∈ texts → ∀ cs rest, afterBlanks cs = c :: (more ++ rest) →
      Delimited rest → reader cs = .ok (value, rest)) :
    Reads reader texts value := by
  constructor
  · intro text mem
    obtain ⟨more, rfl⟩ := begins text mem
    exact ⟨c, by rw [afterBlanks_cons solid]; rfl, opens⟩
  · intro text mem cs rest found delimited
    obtain ⟨more, rfl⟩ := begins text mem
    rw [afterBlanks_cons solid] at found
    exact reads more mem cs rest found delimited

/-- A document that is one text with blanks around it. -/
theorem readAll (reads : Reads reader texts value) {text : String} {body after : List Char}
    (mem : body ∈ texts) (blank : after ∈ blanks) (whole : text.toList = body ++ after) :
    reader.readAll text = .ok value := by
  have delimited : Delimited after := by
    rw [← List.append_nil after]
    exact delimited_of_blanks blank delimited_nil
  have read := reads.reads body mem (body ++ after) after
    (afterBlanks_append_of_solid (reads.solid mem) after) delimited
  rw [Reader.readAll_eq_ok_iff, whole]
  exact ⟨after, blank, read⟩

end Reads
end OpticsCheck.Json
