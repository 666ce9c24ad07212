import OpticsCheck.Proofs.Json.Steady

/-!
# Reading numbers

A number ends where its digits end, so a text that reads as a number by itself reads as the same
number wherever it stands. The digits of a natural number below `2 ^ 64` read as that number, and
whatever the grammar calls a numeral is one to the reader.
-/

namespace OpticsCheck.Json

/-! ### Texts that read alike wherever they stand -/

namespace Reader

variable {α : Type}

/-- A run of digits that ends the text goes on unless a delimiter follows. -/
theorem span_append (ds : List Char) {rest : List Char}
    (fits : ds.dropWhile isDigit = [] → Delimited rest) :
    (ds ++ rest).takeWhile isDigit = ds.takeWhile isDigit ∧
      (ds ++ rest).dropWhile isDigit = ds.dropWhile isDigit ++ rest := by
  induction ds with
  | nil =>
    cases rest with
    | nil => exact ⟨rfl, rfl⟩
    | cons c rest =>
      have noDigit := (not_numeral_of_delimited (fits rfl)).1
      simp [noDigit]
  | cons d ds ih =>
    by_cases digit : isDigit d = true
    · rw [List.dropWhile_cons_of_pos digit] at fits
      simp [digit, ih fits]
    · simp [digit]

theorem steady_someDigits (ended : Problem) : (someDigits ended).Steady Delimited := by
  intro cs rest value left done
  cases cs with
  | nil => cases done
  | cons c cs =>
    simp only [someDigits] at done
    split at done
    · rename_i digit
      cases done
      refine ⟨List.dropWhile_suffix isDigit, fun fits => ?_⟩
      obtain ⟨taken, dropped⟩ := span_append (c :: cs) fits
      simp only [someDigits, List.cons_append, digit, if_true]
      rw [← List.cons_append, taken, dropped]
    · cases done

theorem wholeDigits_of_ne_zero {ended : Problem} {c : Char} (nonzero : c ≠ '0') (cs : List Char) :
    wholeDigits ended (c :: cs) = someDigits ended (c :: cs) := by
  unfold wholeDigits
  simp [nonzero]

theorem steady_wholeDigits (ended : Problem) : (wholeDigits ended).Steady Delimited := by
  intro cs rest value left done
  cases cs with
  | nil => cases done
  | cons c cs =>
    by_cases zero : c = '0'
    · subst zero
      cases cs with
      | nil =>
        cases done
        refine ⟨List.nil_suffix, fun fits => ?_⟩
        cases rest with
        | nil => rfl
        | cons d rest =>
          have noDigit := (not_numeral_of_delimited (fits rfl)).1
          simp [wholeDigits, noDigit]
      | cons d ds =>
        simp only [wholeDigits] at done
        split at done
        · cases done
        · rename_i noDigit
          cases done
          refine ⟨List.suffix_cons '0' _, fun _ => ?_⟩
          simp [wholeDigits, noDigit]
    · rw [wholeDigits_of_ne_zero zero] at done
      rw [List.cons_append, wholeDigits_of_ne_zero zero]
      exact steady_someDigits ended _ rest _ _ done

/-- Neither a point nor the letter of an exponent can come from what delimits a value. -/
theorem head_of_append {left rest : List Char} {c : Char} (fits : left = [] → Delimited rest)
    (part : c = '.' ∨ c = 'e' ∨ c = 'E') (mem : c ∈ (left ++ rest).head?) : c ∈ left.head? := by
  cases left with
  | cons first left => exact mem
  | nil =>
    cases rest with
    | nil => cases mem
    | cons first rest =>
      cases mem
      obtain ⟨-, -, noPoint, noSmall, noLarge⟩ := not_numeral_of_delimited (fits rfl)
      rcases part with same | same | same <;> contradiction

theorem fraction_of_no_point {ended : Problem} {cs : List Char} (noPoint : '.' ∉ cs.head?) :
    fraction ended cs = .ok (none, cs) := by
  rw [fraction, get_bind]
  split
  · exact absurd rfl noPoint
  · rfl

/-- A fraction whose point was read. -/
def fractionDigits (ended : Problem) : Reader (Option (List Char)) := some <$> someDigits ended

theorem steady_fraction (ended : Problem) : (fraction ended).Steady Delimited := by
  intro cs rest value left done
  by_cases point : '.' ∈ cs.head?
  · obtain ⟨more, rfl⟩ := List.head?_eq_some_iff.mp point
    have digits : Prolongs (Delimited rest) rest (fractionDigits ended) (fractionDigits ended) more :=
      .map some (steady_someDigits ended more rest)
    obtain ⟨suffix, reads⟩ := digits value left done
    exact ⟨suffix.trans (List.suffix_cons _ _), reads⟩
  · rw [fraction_of_no_point point] at done
    cases done
    refine ⟨List.suffix_rfl, fun fits => ?_⟩
    exact fraction_of_no_point fun mem => point (head_of_append fits (.inl rfl) mem)

theorem exponent_of_no_letter {ended : Problem} {cs : List Char} (noSmall : 'e' ∉ cs.head?)
    (noLarge : 'E' ∉ cs.head?) : exponent ended cs = .ok (none, cs) := by
  cases cs with
  | nil => rfl
  | cons c cs =>
    have neither : ¬ (c = 'e' ∨ c = 'E') := by
      rintro (rfl | rfl)
      · exact noSmall rfl
      · exact noLarge rfl
    show (if c = 'e' ∨ c = 'E' then _ else _ : Reader _) (c :: cs) = _
    rw [if_neg neither]
    rfl

/-- The digits of an exponent whose sign was read. -/
def exponentDigits (ended : Problem) (negative : Bool) : Reader (Option (Bool × List Char)) := do
  return some (negative, ← someDigits ended)

theorem steady_exponentDigits (ended : Problem) (negative : Bool) :
    (exponentDigits ended negative).Steady Delimited :=
  (steady_someDigits ended).bind fun _ => .pure _

theorem exponent_signed {ended : Problem} {c : Char} (letter : c = 'e' ∨ c = 'E')
    (cs : List Char) :
    exponent ended (c :: '+' :: cs) = exponentDigits ended false cs ∧
      exponent ended (c :: '-' :: cs) = exponentDigits ended true cs := by
  rcases letter with rfl | rfl <;> exact ⟨rfl, rfl⟩

theorem exponent_unsigned {ended : Problem} {c : Char} {cs : List Char}
    (letter : c = 'e' ∨ c = 'E') (noPlus : '+' ∉ cs.head?) (noMinus : '-' ∉ cs.head?) :
    exponent ended (c :: cs) = exponentDigits ended false cs := by
  show (if c = 'e' ∨ c = 'E' then _ else _ : Reader _) (c :: cs) = _
  rw [if_pos letter]
  split
  · exact absurd rfl noPlus
  · exact absurd rfl noMinus
  · rfl

theorem steady_exponent (ended : Problem) : (exponent ended).Steady Delimited := by
  intro cs rest value left done
  by_cases letter : 'e' ∈ cs.head? ∨ 'E' ∈ cs.head?
  · obtain ⟨c, more, rfl, isLetter⟩ : ∃ c more, cs = c :: more ∧ (c = 'e' ∨ c = 'E') := by
      rcases letter with mem | mem
      all_goals
        obtain ⟨more, rfl⟩ := List.head?_eq_some_iff.mp mem
        exact ⟨_, more, rfl, by simp⟩
    cases more with
    | nil => rcases isLetter with rfl | rfl <;> cases done
    | cons d more =>
      have behind : more <:+ c :: d :: more :=
        (List.suffix_cons d more).trans (List.suffix_cons c _)
      simp only [List.cons_append]
      by_cases plus : d = '+'
      · subst plus
        rw [(exponent_signed isLetter _).1] at done ⊢
        obtain ⟨suffix, reads⟩ := steady_exponentDigits ended false more rest value left done
        exact ⟨suffix.trans behind, reads⟩
      · by_cases minus : d = '-'
        · subst minus
          rw [(exponent_signed isLetter _).2] at done ⊢
          obtain ⟨suffix, reads⟩ := steady_exponentDigits ended true more rest value left done
          exact ⟨suffix.trans behind, reads⟩
        · have noPlus : ∀ ds : List Char, '+' ∉ (d :: ds).head? := fun _ => by simp [plus]
          have noMinus : ∀ ds : List Char, '-' ∉ (d :: ds).head? := fun _ => by simp [minus]
          rw [exponent_unsigned isLetter (noPlus _) (noMinus _)] at done ⊢
          obtain ⟨suffix, reads⟩ :=
            steady_exponentDigits ended false (d :: more) rest value left done
          exact ⟨suffix.trans (List.suffix_cons c _), reads⟩
  · obtain ⟨noSmall, noLarge⟩ := not_or.mp letter
    rw [exponent_of_no_letter noSmall noLarge] at done
    cases done
    refine ⟨List.suffix_rfl, fun fits => exponent_of_no_letter (fun mem => noSmall ?_) (fun mem => noLarge ?_)⟩
    · exact head_of_append fits (.inr (.inl rfl)) mem
    · exact head_of_append fits (.inr (.inr rfl)) mem

/-- A numeral whose sign was read. -/
def unsignedNumeral (ended : Problem) (negative : Bool) : Reader Numeral := do
  let whole ← wholeDigits ended
  let fraction ← fraction ended
  let exponent ← exponent ended
  return ⟨negative, whole, fraction, exponent⟩

theorem steady_unsignedNumeral (ended : Problem) (negative : Bool) :
    (unsignedNumeral ended negative).Steady Delimited :=
  (steady_wholeDigits ended).bind fun _ => (steady_fraction ended).bind fun _ =>
    (steady_exponent ended).bind fun _ => .pure _

theorem numeral_of_minus (ended : Problem) (cs : List Char) :
    numeral ended ('-' :: cs) = unsignedNumeral ended true cs := rfl

theorem numeral_of_no_minus {ended : Problem} {cs : List Char} (noMinus : '-' ∉ cs.head?) :
    numeral ended cs = unsignedNumeral ended false cs := by
  rw [numeral, get_bind]
  split
  · exact absurd rfl noMinus
  · rfl

theorem steady_numeral (ended : Problem) : (numeral ended).Steady Delimited := by
  intro cs rest value left done
  by_cases minus : '-' ∈ cs.head?
  · obtain ⟨more, rfl⟩ := List.head?_eq_some_iff.mp minus
    obtain ⟨suffix, reads⟩ := steady_unsignedNumeral ended true more rest value left done
    exact ⟨suffix.trans (List.suffix_cons _ _), reads⟩
  · rw [numeral_of_no_minus minus] at done
    cases cs with
    | nil => cases done
    | cons c cs =>
      rw [numeral_of_no_minus (by exact minus)]
      exact steady_unsignedNumeral ended false (c :: cs) rest value left done

theorem steady_number : number.Steady Delimited := by
  refine (steady_numeral _).bind fun n => ?_
  intro cs rest value left done
  cases kept : n.value with
  | error problem =>
    rw [kept] at done
    cases done
  | ok number =>
    rw [kept] at done
    cases done
    exact ⟨List.suffix_rfl, fun _ => rfl⟩

theorem steady_anyNumber (expected : String) : (anyNumber expected).Steady Delimited := by
  refine steady_startingWith fun c reader continues more rest => ?_
  split at continues
  · cases continues
    exact steady_number (c :: more) rest
  · cases continues

theorem steady_binary64 : binary64.Steady Delimited := by
  refine (steady_anyNumber _).bind fun n => ?_
  cases n <;> exact .pure _

theorem steady_word64 : word64.Steady Delimited := by
  refine (steady_anyNumber _).bind fun n => ?_
  cases n with
  | natural n => exact .pure _
  | negative n => exact .throw _
  | real x => exact .throw _

end Reader

theorem ne_of_numeric {c d : Char} (numeric : c = '-' ∨ isDigit c = true)
    (other : ¬ (d = '-' ∨ isDigit d = true)) : c ≠ d := by
  rintro rfl
  exact other numeric

theorem solid_of_numeric {c : Char} (numeric : c = '-' ∨ isDigit c = true) : isBlank c = false := by
  by_contra blank
  rcases eq_of_isBlank (eq_true_of_ne_false blank) with rfl | rfl | rfl | rfl
  all_goals exact absurd numeric (by decide)

section Numbers

variable {α : Type} {expected : String} {next : Number → Reader α} {value : α} {text left : List Char}

/-- A text that reads as a number begins with a minus sign or a digit. -/
theorem numeric_of_anyNumber (done : (Reader.anyNumber expected >>= next) text = .ok (value, left)) :
    ∃ c more, afterBlanks text = c :: more ∧ (c = '-' ∨ isDigit c = true) := by
  obtain ⟨n, between, read, -⟩ := Reader.ok_bind done
  obtain ⟨c, more, reader, found, continues, -⟩ := Reader.ok_startingWith read
  split at continues
  · exact ⟨c, more, found, by assumption⟩
  · cases continues

/-- What a number reader makes of a whole text, it makes of it wherever the text stands. -/
theorem reads_of_anyNumber (steady : (Reader.anyNumber expected >>= next).Steady Delimited) :
    Reads (Reader.anyNumber expected >>= next)
      {text | (Reader.anyNumber expected >>= next) text = .ok (value, [])} value := by
  constructor
  · intro text done
    obtain ⟨c, more, found, numeric⟩ := numeric_of_anyNumber done
    exact ⟨c, by rw [found]; rfl, ne_of_numeric numeric (by decide)⟩
  · intro text done cs rest standing delimited
    obtain ⟨c, more, found, -⟩ := numeric_of_anyNumber done
    have alike : Reader.anyNumber expected cs = Reader.anyNumber expected (text ++ rest) :=
      Reader.startingWith_congr (by rw [standing, found, afterBlanks_append found])
    rw [Reader.bind_congr alike]
    exact (steady text rest value [] done).2 fun _ => delimited

end Numbers

/-- The texts that stand for `x`: which ones those are is up to the rounding. -/
def numberTexts (x : Binary64) : Texts := {text | Reader.binary64 text = .ok (x, [])}

theorem reads_binary64 (x : Binary64) : Reads Reader.binary64 (numberTexts x) x :=
  reads_of_anyNumber Reader.steady_binary64

/-! ### Digits -/

def digitRuns : Texts := {ds | ds ≠ [] ∧ ∀ d ∈ ds, isDigit d = true}

section Digits

variable {ds rest : List Char} {c : Char}

theorem digitRun_begins (run : ds ∈ digitRuns) : ∃ d more, ds = d :: more ∧ isDigit d = true := by
  obtain ⟨nonempty, digits⟩ := run
  obtain ⟨d, more, rfl⟩ := List.exists_cons_of_ne_nil nonempty
  exact ⟨d, more, rfl, digits d List.mem_cons_self⟩

theorem not_head_of_digitRun (run : ds ∈ digitRuns) (noDigit : isDigit c = false)
    (rest : List Char) : c ∉ (ds ++ rest).head? := by
  intro head
  obtain ⟨d, more, rfl, digit⟩ := digitRun_begins run
  cases head
  exact absurd digit (by simp [noDigit])

theorem no_digit_of_delimited (delimited : Delimited rest) :
    ∀ c ∈ rest.head?, isDigit c = false := by
  intro c head
  obtain ⟨more, rfl⟩ := List.head?_eq_some_iff.mp head
  exact (not_numeral_of_delimited delimited).1

theorem someDigits_append (ended : Problem) (run : ds ∈ digitRuns)
    (ends : ∀ c ∈ rest.head?, isDigit c = false) :
    Reader.someDigits ended (ds ++ rest) = .ok (ds, rest) := by
  have digits := run.2
  have taken : (ds ++ rest).takeWhile isDigit = ds ∧ (ds ++ rest).dropWhile isDigit = rest := by
    rw [List.takeWhile_append_of_pos digits, List.dropWhile_append_of_pos digits]
    cases rest with
    | nil => simp
    | cons c rest => simp [ends c rfl]
  obtain ⟨d, more, rfl, first⟩ := digitRun_begins run
  simp only [List.cons_append] at taken ⊢
  simp only [Reader.someDigits, first, if_true, taken]

theorem wholeDigits_append (ended : Problem) (run : ds ∈ digitRuns)
    (canonical : ds = ['0'] ∨ '0' ∉ ds.head?) (ends : ∀ c ∈ rest.head?, isDigit c = false) :
    Reader.wholeDigits ended (ds ++ rest) = .ok (ds, rest) := by
  rcases canonical with rfl | noZero
  · cases rest with
    | nil => rfl
    | cons c rest => simp [Reader.wholeDigits, ends c rfl]
  · have read := someDigits_append ended run ends
    obtain ⟨d, more, rfl, -⟩ := digitRun_begins run
    have nonzero : d ≠ '0' := fun same => noZero (by rw [same]; rfl)
    rw [List.cons_append, Reader.wholeDigits_of_ne_zero nonzero]
    exact read

end Digits

/-! ### Natural numbers -/

theorem digitChars_mem (n : Nat) : digitChars n ∈ digitRuns := by
  refine ⟨Nat.toDigits_ne_nil, fun c mem => ?_⟩
  have digit := Nat.isDigit_of_mem_toDigits (by decide) (by decide) mem
  simpa [Char.isDigit, isDigit, Char.le_def] using digit

theorem digitChars_of_lt {n : Nat} (small : n < 10) : digitChars n = [n.digitChar] :=
  Nat.toDigits_of_lt_base small

theorem digitChars_of_le {n : Nat} (large : 10 ≤ n) :
    digitChars n = digitChars (n / 10) ++ [(n % 10).digitChar] :=
  Nat.toDigits_of_base_le (by decide) large

theorem digitValue_digitChar {d : Nat} (small : d < 10) : digitValue d.digitChar = d := by
  unfold digitValue
  rw [Nat.toNat_digitChar_of_lt_ten small]
  exact Nat.add_sub_cancel_left 48 d

theorem head_digitChars {n : Nat} (positive : 0 < n) : '0' ∉ (digitChars n).head? := by
  induction n using Nat.strong_induction_on with
  | _ n ih =>
    by_cases small : n < 10
    · rw [digitChars_of_lt small]
      intro same
      have zero := Nat.digitChar_eq_zero.mp (Option.some.inj same)
      omega
    · rw [digitChars_of_le (by omega), List.head?_append]
      have shorter := ih (n / 10) (by omega) (by omega)
      obtain ⟨d, more, digits, -⟩ := digitRun_begins (digitChars_mem (n / 10))
      rw [digits] at shorter ⊢
      exact shorter

theorem leadingDigits_digitChars {n : Nat} (fits : n < wordLimit) :
    leadingDigits (digitChars n) = (n, 0) := by
  induction n using Nat.strong_induction_on with
  | _ n ih =>
    by_cases small : n < 10
    · rw [digitChars_of_lt small]
      simp [leadingDigits, digitValue_digitChar small, fits]
    · have last : n % 10 < 10 := by omega
      have before := ih (n / 10) (by omega) (by omega)
      have together : n / 10 * 10 + n % 10 = n := by omega
      rw [digitChars_of_le (by omega)]
      unfold leadingDigits at before ⊢
      rw [List.foldl_append, before]
      simp [digitValue_digitChar last, together, fits]

theorem numeral_digitChars (ended : Problem) (n : Nat) :
    Reader.numeral ended (digitChars n) = .ok (⟨false, digitChars n, none, none⟩, []) := by
  have canonical : digitChars n = ['0'] ∨ '0' ∉ (digitChars n).head? := by
    rcases Nat.eq_zero_or_pos n with rfl | positive
    · exact .inl rfl
    · exact .inr (head_digitChars positive)
  have noMinus : '-' ∉ (digitChars n ++ []).head? := not_head_of_digitRun (digitChars_mem n) rfl []
  have whole := wholeDigits_append ended (digitChars_mem n) canonical
    (no_digit_of_delimited delimited_nil)
  rw [List.append_nil] at noMinus whole
  rw [Reader.numeral_of_no_minus noMinus, Reader.unsignedNumeral, Reader.bind_of_ok whole]
  rfl

theorem number_digitChars {n : Nat} (fits : n < wordLimit) :
    Reader.number (digitChars n) = .ok (.natural n, []) := by
  have integer : Numeral.value ⟨false, digitChars n, none, none⟩ = .ok (.natural n) := by
    simp [Numeral.value, Numeral.isInteger, leadingDigits_digitChars fits]
  rw [Reader.number, Reader.bind_of_ok (numeral_digitChars _ n), integer]
  rfl

/-- The digits of a word read as the word. -/
theorem reads_word64 (n : UInt64) : Reads Reader.word64 {digitChars n.toNat} n := by
  refine (reads_of_anyNumber Reader.steady_word64).mono ?_
  rintro text rfl
  have read := number_digitChars n.toNat_lt
  obtain ⟨d, more, chars, digit⟩ := digitRun_begins (digitChars_mem n.toNat)
  have solid : isBlank d = false := solid_of_numeric (.inr digit)
  rw [chars] at read ⊢
  have alone : Reader.anyNumber "u64" (d :: more) = Reader.number (d :: more) :=
    Reader.startingWith_of_cons (afterBlanks_cons solid) (if_pos (.inr digit))
  show Reader.word64 (d :: more) = _
  rw [Reader.word64, Reader.bind_of_ok (alone.trans read)]
  show Except.ok (UInt64.ofNat n.toNat, []) = _
  rw [UInt64.ofNat_toNat]

/-! ### Numerals by the grammar -/

def fractions : Texts := {text | text = [] ∨ ∃ ds ∈ digitRuns, text = '.' :: ds}

def exponents : Texts :=
  {text | text = [] ∨ ∃ letter, (letter = 'e' ∨ letter = 'E') ∧
    ∃ sign, (sign = [] ∨ sign = ['+'] ∨ sign = ['-']) ∧ ∃ ds ∈ digitRuns, text = letter :: (sign ++ ds)}

/-- An optional minus sign, digits without a needless leading zero, and optionally a fraction and
an exponent. -/
def numerals : Texts :=
  {text | ∃ sign, (sign = [] ∨ sign = ['-']) ∧
    ∃ whole ∈ digitRuns, (whole = ['0'] ∨ '0' ∉ whole.head?) ∧
    ∃ fraction ∈ fractions, ∃ exponent ∈ exponents, text = sign ++ (whole ++ (fraction ++ exponent))}

section Grammar

variable (ended : Problem) {text rest : List Char}

theorem numeral_begins (mem : text ∈ numerals) :
    ∃ c more, text = c :: more ∧ (c = '-' ∨ isDigit c = true) := by
  obtain ⟨sign, rfl | rfl, whole, run, -, fraction, -, exponent, -, rfl⟩ := mem
  · obtain ⟨d, more, rfl, digit⟩ := digitRun_begins run
    exact ⟨d, _, rfl, .inr digit⟩
  · exact ⟨'-', _, rfl, .inl rfl⟩

theorem exponent_append (mem : text ∈ exponents) (delimited : Delimited rest) :
    ∃ read, Reader.exponent ended (text ++ rest) = .ok (read, rest) := by
  rcases mem with rfl | ⟨letter, isLetter, sign, signs, ds, run, rfl⟩
  · refine ⟨none, Reader.exponent_of_no_letter (fun head => ?_) (fun head => ?_)⟩
    all_goals
      obtain ⟨more, rfl⟩ := List.head?_eq_some_iff.mp head
      obtain ⟨-, -, -, noSmall, noLarge⟩ := not_numeral_of_delimited delimited
      contradiction
  · have read := someDigits_append ended run (no_digit_of_delimited delimited)
    have signed : ∀ negative, Reader.exponentDigits ended negative (ds ++ rest) =
        .ok (some (negative, ds), rest) := by
      intro negative
      rw [Reader.exponentDigits, Reader.bind_of_ok read]
      rfl
    rcases signs with rfl | rfl | rfl
    · have noPlus : '+' ∉ (ds ++ rest).head? := not_head_of_digitRun run rfl rest
      have noMinus : '-' ∉ (ds ++ rest).head? := not_head_of_digitRun run rfl rest
      exact ⟨_, (Reader.exponent_unsigned isLetter noPlus noMinus).trans (signed false)⟩
    · exact ⟨_, (Reader.exponent_signed isLetter _).1.trans (signed false)⟩
    · exact ⟨_, (Reader.exponent_signed isLetter _).2.trans (signed true)⟩

/-- Where a fraction or an exponent begins no digit is read. -/
theorem no_digit_of_exponents (mem : text ∈ exponents) (delimited : Delimited rest) :
    ∀ c ∈ (text ++ rest).head?, isDigit c = false ∧ c ≠ '.' := by
  intro c head
  rcases mem with rfl | ⟨letter, rfl | rfl, sign, signs, ds, run, rfl⟩
  · obtain ⟨more, same⟩ := List.head?_eq_some_iff.mp head
    rw [List.nil_append] at same
    subst same
    obtain ⟨noDigit, -, noPoint, -⟩ := not_numeral_of_delimited delimited
    exact ⟨noDigit, noPoint⟩
  all_goals
    cases head
    decide

theorem fraction_append {more : List Char} (mem : text ∈ fractions)
    (ends : ∀ c ∈ more.head?, isDigit c = false ∧ c ≠ '.') :
    ∃ read, Reader.fraction ended (text ++ more) = .ok (read, more) := by
  rcases mem with rfl | ⟨ds, run, rfl⟩
  · exact ⟨none, Reader.fraction_of_no_point fun head => (ends '.' head).2 rfl⟩
  · have read := someDigits_append ended run fun c head => (ends c head).1
    exact ⟨some ds, Reader.map_of_ok some read⟩

/-- The reader knows every numeral of the grammar. -/
theorem numeral_append (mem : text ∈ numerals) (delimited : Delimited rest) :
    ∃ read, Reader.numeral ended (text ++ rest) = .ok (read, rest) := by
  obtain ⟨sign, signs, whole, run, canonical, fraction, hasFraction, exponent,
    hasExponent, rfl⟩ := mem
  have ends := no_digit_of_exponents hasExponent delimited
  obtain ⟨last, readExponent⟩ := exponent_append ended hasExponent delimited
  obtain ⟨middle, readFraction⟩ := fraction_append ended hasFraction ends
  have wholeEnds : ∀ c ∈ (fraction ++ (exponent ++ rest)).head?, isDigit c = false := by
    intro c head
    rcases hasFraction with rfl | ⟨ds, -, rfl⟩
    · exact (ends c head).1
    · cases head
      rfl
  have readWhole := wholeDigits_append ended run canonical wholeEnds
  have unsigned : ∀ negative, Reader.unsignedNumeral ended negative
      (whole ++ (fraction ++ (exponent ++ rest))) = .ok (⟨negative, whole, middle, last⟩, rest) := by
    intro negative
    rw [Reader.unsignedNumeral, Reader.bind_of_ok readWhole, Reader.bind_of_ok readFraction,
      Reader.bind_of_ok readExponent]
    rfl
  rcases signs with rfl | rfl
  · have noMinus : '-' ∉ (whole ++ (fraction ++ (exponent ++ rest))).head? :=
      not_head_of_digitRun run rfl _
    refine ⟨⟨false, whole, middle, last⟩, ?_⟩
    simp only [List.nil_append, List.append_assoc]
    rw [Reader.numeral_of_no_minus noMinus]
    exact unsigned false
  · refine ⟨⟨true, whole, middle, last⟩, ?_⟩
    simp only [List.cons_append, List.nil_append, List.append_assoc]
    rw [Reader.numeral_of_minus]
    exact unsigned true

end Grammar
end OpticsCheck.Json
