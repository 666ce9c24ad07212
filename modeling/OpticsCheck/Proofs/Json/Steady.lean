import OpticsCheck.Proofs.Json.Reading

/-!
# Readings that outlast their text

A reader that stops inside a text has read it front to back and looked no further. So when the text
goes on, the reading stays as it is and only what is left grows. At the very end of a text that
depends on what comes: further digits belong to a number that ended there, a comma does not. A
reader that stops at a closing bracket of its own stays as it is whatever comes.
-/

namespace OpticsCheck.Json.Reader

variable {α β : Type}

theorem ok_peek {next : Option Char → Reader β} {cs left : List Char} {b : β}
    (done : (peek >>= next) cs = .ok (b, left)) :
    next none [] = .ok (b, left) ∨
      ∃ c more, afterBlanks cs = c :: more ∧ next (some c) (c :: more) = .ok (b, left) := by
  cases found : afterBlanks cs with
  | nil =>
    have nothing : peek cs = .ok (none, []) := by
      rw [peek, found]
      rfl
    rw [bind_of_ok nothing] at done
    exact .inl done
  | cons c more =>
    rw [bind_of_ok (peek_of_cons found)] at done
    exact .inr ⟨c, more, rfl, done⟩

/-- What `reader` reads from `cs`, `longer` reads once `rest` comes behind `cs`, and it leaves `rest`
as well. Where `reader` leaves nothing, that is so only if `rest` is `allowed` there. -/
def Prolongs (allowed : Prop) (rest : List Char) (reader longer : Reader α) (cs : List Char) : Prop :=
  ∀ value left, reader cs = .ok (value, left) →
    left <:+ cs ∧ ((left = [] → allowed) → longer (cs ++ rest) = .ok (value, left ++ rest))

/-- Nothing that may `follow` the text of a reading changes it. -/
def Steady (reader : Reader α) (follow : List Char → Prop) : Prop :=
  ∀ cs rest, Prolongs (follow rest) rest reader reader cs

/-- Nothing at all changes a reading. -/
abbrev Sealed (reader : Reader α) : Prop := reader.Steady fun _ => True

namespace Prolongs

variable {allowed atEnd : Prop} {rest cs : List Char} {reader longer : Reader α}
  {next later : α → Reader β}

theorem mono (prolongs : Prolongs allowed rest reader longer cs) (fewer : atEnd → allowed) :
    Prolongs atEnd rest reader longer cs := by
  intro value left done
  obtain ⟨suffix, goesOn⟩ := prolongs value left done
  exact ⟨suffix, fun fits => goesOn fun empty => fewer (fits empty)⟩

theorem pure (a : α) (rest cs : List Char) :
    Prolongs allowed rest (Pure.pure a : Reader α) (Pure.pure a) cs := by
  rintro _ _ ⟨⟩
  exact ⟨List.suffix_rfl, fun _ => rfl⟩

/-- Where nothing is read there is nothing to change. -/
theorem of_ne_ok (never : ∀ value left, reader cs ≠ .ok (value, left)) :
    Prolongs allowed rest reader longer cs :=
  fun value left done => absurd done (never value left)

/-- The first reading may end the text if what comes next reads on from nothing. -/
theorem bind_of_end (first : Prolongs allowed rest reader longer cs)
    (second : ∀ a between, reader cs = .ok (a, between) →
      Prolongs atEnd rest (next a) (later a) between)
    (ends : ∀ a b left, next a [] = .ok (b, left) → atEnd → allowed) :
    Prolongs atEnd rest (reader >>= next) (longer >>= later) cs := by
  intro b left done
  obtain ⟨a, between, read, after⟩ := ok_bind done
  obtain ⟨suffix, goesOn⟩ := first a between read
  obtain ⟨within, reads⟩ := second a between read b left after
  refine ⟨within.trans suffix, fun fits => ?_⟩
  have link : between = [] → allowed := by
    rintro rfl
    exact ends a b left after (fits (List.suffix_nil.mp within))
  rw [bind_of_ok (goesOn link)]
  exact reads fits

theorem bind (first : Prolongs allowed rest reader longer cs)
    (second : ∀ a between, reader cs = .ok (a, between) →
      Prolongs allowed rest (next a) (later a) between) :
    Prolongs allowed rest (reader >>= next) (longer >>= later) cs :=
  first.bind_of_end second fun _ _ _ _ fits => fits

/-- What comes next, a closing bracket for one, needs more text than nothing. -/
theorem bind_more (first : Prolongs allowed rest reader longer cs)
    (second : ∀ a between, reader cs = .ok (a, between) →
      Prolongs atEnd rest (next a) (later a) between)
    (needs : ∀ a b left, next a [] ≠ .ok (b, left)) :
    Prolongs atEnd rest (reader >>= next) (longer >>= later) cs :=
  first.bind_of_end second fun a b left done => absurd done (needs a b left)

theorem map (f : α → β) (prolongs : Prolongs allowed rest reader longer cs) :
    Prolongs allowed rest (f <$> reader) (f <$> longer) cs := by
  rw [map_eq_pure_bind, map_eq_pure_bind]
  exact prolongs.bind fun a between _ => .pure (f a) rest between

/-- A look at what follows the blanks stays the same if there is anything. -/
theorem peek {next later : Option Char → Reader β} (needs : ∀ b left, next none [] ≠ .ok (b, left))
    (goesOn : ∀ c more, afterBlanks cs = c :: more →
      Prolongs allowed rest (next (some c)) (later (some c)) (c :: more)) :
    Prolongs allowed rest (Reader.peek >>= next) (Reader.peek >>= later) cs := by
  intro b left done
  rcases ok_peek done with nothing | ⟨c, more, found, after⟩
  · exact absurd nothing (needs b left)
  · obtain ⟨suffix, reads⟩ := goesOn c more found b left after
    have within : c :: more <:+ cs := found ▸ List.dropWhile_suffix isBlank
    refine ⟨suffix.trans within, fun fits => ?_⟩
    rw [bind_of_ok (peek_of_cons (afterBlanks_append found))]
    exact reads fits

theorem advance {next later : Unit → Reader β} (c : Char)
    (goesOn : Prolongs allowed rest (next ()) (later ()) cs) :
    Prolongs allowed rest (Reader.advance >>= next) (Reader.advance >>= later) (c :: cs) := by
  intro b left done
  obtain ⟨suffix, reads⟩ := goesOn b left done
  exact ⟨suffix.trans (List.suffix_cons c cs), reads⟩

/-- A reader may look at the length of the whole text. -/
theorem get {next later : List Char → Reader β}
    (goesOn : Prolongs allowed rest (next cs) (later (cs ++ rest)) cs) :
    Prolongs allowed rest ((MonadState.get : Reader (List Char)) >>= next)
      ((MonadState.get : Reader (List Char)) >>= later) cs :=
  goesOn

end Prolongs

namespace Steady

variable {follow : List Char → Prop} {reader : Reader α} {next : α → Reader β}

theorem mono {fewer : List Char → Prop} (steady : reader.Steady follow)
    (within : ∀ rest, fewer rest → follow rest) : reader.Steady fewer :=
  fun cs rest => (steady cs rest).mono (within rest)

theorem suffix (steady : reader.Steady follow) {cs left : List Char} {value : α}
    (done : reader cs = .ok (value, left)) : left <:+ cs :=
  (steady cs [] value left done).1

theorem pure (a : α) : (Pure.pure a : Reader α).Steady follow :=
  fun cs rest => .pure a rest cs

theorem throw (problem : Problem) : (throw problem : Reader α).Steady follow := by
  rintro cs rest _ _ ⟨⟩

theorem bind (first : reader.Steady follow) (second : ∀ a, (next a).Steady follow) :
    (reader >>= next).Steady follow :=
  fun cs rest => (first cs rest).bind fun a between _ => second a between rest

end Steady

theorem Sealed.steady {reader : Reader α} (sealed : reader.Sealed) (follow : List Char → Prop) :
    reader.Steady follow :=
  sealed.mono fun _ _ => trivial

/-- A value that its first character tells apart. -/
theorem steady_startingWith {continue? : Char → Option (Reader α)} {expected : String}
    {follow : List Char → Prop} (each : ∀ c reader, continue? c = some reader →
      ∀ more rest, Prolongs (follow rest) rest reader reader (c :: more)) :
    (startingWith continue? expected).Steady follow := by
  intro cs rest
  refine .peek nofun fun c more _ => ?_
  cases continues : continue? c with
  | none =>
    simp only [continues]
    exact .of_ne_ok fun _ left => mistaken_ne_ok expected c _ left
  | some reader =>
    simp only [continues]
    exact each c reader continues more rest

end OpticsCheck.Json.Reader
