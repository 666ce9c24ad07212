import OpticsCheck.Proofs.Json.Prefixes

/-!
# Skipping a value in a prefix of a text

A value that was skipped is skipped still when the text goes on, unless it ended the text: then it
may have been the start of a longer number. The skipping takes a step for each character at most, so
the steps that there are for a text are enough on both.
-/

namespace OpticsCheck.Json

namespace Reader

/-! ### Numerals take at least a digit -/

theorem wholeDigits_shortens {ended : Problem} {cs ds left : List Char}
    (done : wholeDigits ended cs = .ok (ds, left)) : left.length < cs.length := by
  cases cs with
  | nil => cases done
  | cons c more =>
    by_cases zero : c = '0'
    · subst zero
      cases more with
      | nil =>
        cases done
        exact Nat.zero_lt_one
      | cons d later =>
        simp only [wholeDigits] at done
        split at done
        · cases done
        · cases done
          exact Nat.lt_succ_self _
    · rw [wholeDigits_of_ne_zero zero] at done
      simp only [someDigits] at done
      split at done
      · rename_i digit
        cases done
        rw [List.dropWhile_cons_of_pos digit]
        exact Nat.lt_succ_of_le (List.dropWhile_suffix isDigit).length_le
      · cases done

theorem unsignedNumeral_shortens {ended : Problem} {negative : Bool} {n : Numeral}
    {cs left : List Char} (done : unsignedNumeral ended negative cs = .ok (n, left)) :
    left.length < cs.length := by
  obtain ⟨whole, between, read, after⟩ := ok_bind done
  have later : ((fraction ended >>= fun fraction => exponent ended >>= fun exponent =>
      pure ⟨negative, whole, fraction, exponent⟩ : Reader Numeral)).Steady Delimited :=
    (steady_fraction ended).bind fun _ => (steady_exponent ended).bind fun _ => .pure _
  have suffix := (later between [] n left after).1
  exact Nat.lt_of_le_of_lt suffix.length_le (wholeDigits_shortens read)

theorem numeral_shortens {ended : Problem} {n : Numeral} {cs left : List Char}
    (done : numeral ended cs = .ok (n, left)) : left.length < cs.length := by
  by_cases minus : '-' ∈ cs.head?
  · obtain ⟨more, rfl⟩ := List.head?_eq_some_iff.mp minus
    exact Nat.lt_succ_of_lt (unsignedNumeral_shortens done)
  · rw [numeral_of_no_minus minus] at done
    exact unsignedNumeral_shortens done

end Reader

/-! ### Skipping -/

section Skipping

variable {cs left : List Char} {steps : Nat} {stack : List Bracket}

theorem ok_map_snd {α : Type} {read : Except Problem (α × List Char)}
    (done : (·.2) <$> read = .ok left) : ∃ value, read = .ok (value, left) := by
  cases read with
  | error problem => cases done
  | ok result =>
    cases done
    exact ⟨_, rfl⟩

theorem skipScalar_append {c : Char} {more : List Char} (done : skipScalar c more = .ok left)
    (rest : List Char) :
    left <:+ more ∧ (left ≠ [] → skipScalar c (more ++ rest) = .ok (left ++ rest)) := by
  have word {letters : List Char} (done : (·.2) <$> Reader.word letters more = .ok left) :
      left <:+ more ∧ (·.2) <$> Reader.word letters (more ++ rest) = .ok (left ++ rest) := by
    obtain ⟨value, read⟩ := ok_map_snd done
    obtain ⟨suffix, reads⟩ := Reader.sealed_word letters more rest value left read
    exact ⟨suffix, by rw [reads fun _ => trivial]; rfl⟩
  unfold skipScalar at done ⊢
  by_cases quote : c = '"'
  · rw [if_pos quote] at done ⊢
    obtain ⟨text, skipped, rfl⟩ := exists_skippedBody done
    refine ⟨List.suffix_append_of_suffix (List.suffix_cons _ _), fun _ => ?_⟩
    rw [List.append_assoc]
    exact skipString_of_body skipped (left ++ rest)
  rw [if_neg quote] at done ⊢
  by_cases null : c = 'n'
  · rw [if_pos null] at done ⊢
    exact (word done).imp_right fun skips _ => skips
  rw [if_neg null] at done ⊢
  by_cases isTrue : c = 't'
  · rw [if_pos isTrue] at done ⊢
    exact (word done).imp_right fun skips _ => skips
  rw [if_neg isTrue] at done ⊢
  by_cases isFalse : c = 'f'
  · rw [if_pos isFalse] at done ⊢
    exact (word done).imp_right fun skips _ => skips
  rw [if_neg isFalse] at done ⊢
  by_cases numeric : c = '-' ∨ isDigit c = true
  · rw [if_pos numeric] at done ⊢
    obtain ⟨n, read⟩ := ok_map_snd done
    obtain ⟨suffix, reads⟩ := Reader.steady_numeral _ (c :: more) rest n left read
    have shorter := Reader.numeral_shortens read
    constructor
    · rcases List.suffix_cons_iff.mp suffix with same | within
      · rw [same] at shorter
        exact absurd shorter (Nat.lt_irrefl _)
      · exact within
    · intro nonempty
      rw [← List.cons_append, reads fun empty => absurd empty nonempty]
      rfl
  · rw [if_neg numeric] at done
    cases done

theorem skipKey_append {more : List Char} (done : skipKey more = .ok left) (rest : List Char) :
    left <:+ more ∧ skipKey (more ++ rest) = .ok (left ++ rest) := by
  cases passed : skipString more with
  | error problem =>
    simp only [skipKey, passed, bind, Except.bind] at done
    cases done
  | ok after =>
    obtain ⟨text, skipped, rfl⟩ := exists_skippedBody passed
    simp only [skipKey, passed, bind, Except.bind] at done
    cases found : afterBlanks after with
    | nil =>
      rw [found] at done
      cases done
    | cons c later =>
      rw [found] at done
      by_cases colon : c = ':'
      · subst colon
        cases done
        obtain ⟨gap, blank, same⟩ := exists_gap after
        rw [found] at same
        subst same
        refine ⟨⟨text ++ '"' :: (gap ++ [':']), by simp⟩, ?_⟩
        simp only [List.append_assoc, List.cons_append]
        exact skipKey_label skipped blank
      · simp [colon] at done

/-- A value that was passed is a scalar, or starts with a bracket that was closed at once or
entered. -/
theorem ok_skip_value (done : skip (steps + 1) .value stack cs = .ok left) :
    (∃ c more after, afterBlanks cs = c :: more ∧ c ≠ '[' ∧ c ≠ '\x7b' ∧
      skipScalar c more = .ok after ∧ skip steps .separator stack after = .ok left) ∨
    ∃ b : Bracket, ∃ more c after, afterBlanks cs = b.opening :: more ∧
      afterBlanks more = c :: after ∧
      ((c = b.closing ∧ skip steps .separator stack after = .ok left) ∨
        (c ≠ b.closing ∧ skip steps b.awaits (b :: stack) (c :: after) = .ok left)) := by
  have bracketed (b : Bracket) {more : List Char} (found : afterBlanks cs = b.opening :: more) :
      ∃ c after, afterBlanks more = c :: after ∧
        ((c = b.closing ∧ skip steps .separator stack after = .ok left) ∨
          (c ≠ b.closing ∧ skip steps b.awaits (b :: stack) (c :: after) = .ok left)) := by
    cases inside : afterBlanks more with
    | nil => cases b <;> simp [skip, found, inside, Bracket.opening] at done
    | cons c after =>
      refine ⟨c, after, rfl, ?_⟩
      by_cases closed : c = b.closing
      · subst closed
        rw [skip_empty steps stack found inside] at done
        exact .inl ⟨rfl, done⟩
      · rw [skip_enter steps stack found inside closed] at done
        exact .inr ⟨closed, done⟩
  cases found : afterBlanks cs with
  | nil => simp [skip, found] at done
  | cons c more =>
    by_cases list : c = '['
    · subst list
      exact .inr ⟨.list, more, (bracketed .list found).imp fun _ => .imp fun _ => .intro rfl⟩
    by_cases object : c = '\x7b'
    · subst object
      exact .inr ⟨.object, more, (bracketed .object found).imp fun _ => .imp fun _ => .intro rfl⟩
    · cases passed : skipScalar c more with
      | error problem => simp [skip, found, passed] at done
      | ok after =>
        rw [skip_scalar steps stack found list object passed] at done
        exact .inl ⟨c, more, after, rfl, list, object, passed, done⟩

theorem ok_skip_key (done : skip (steps + 1) .key stack cs = .ok left) :
    ∃ more after, afterBlanks cs = '"' :: more ∧ skipKey more = .ok after ∧
      skip steps .value stack after = .ok left := by
  cases found : afterBlanks cs with
  | nil => simp [skip, found] at done
  | cons c more =>
    by_cases quote : c = '"'
    · subst quote
      cases passed : skipKey more with
      | error problem => simp [skip, found, passed] at done
      | ok after =>
        rw [skip_key steps stack found passed] at done
        exact ⟨more, after, rfl, passed, done⟩
    · simp [skip, found, quote] at done

theorem ok_skip_separator {b : Bracket}
    (done : skip (steps + 1) .separator (b :: stack) cs = .ok left) :
    ∃ c more, afterBlanks cs = c :: more ∧
      ((c = ',' ∧ skip steps b.awaits (b :: stack) more = .ok left) ∨
        (c = b.closing ∧ skip steps .separator stack more = .ok left)) := by
  cases found : afterBlanks cs with
  | nil => simp [skip, found] at done
  | cons c more =>
    refine ⟨c, more, rfl, ?_⟩
    by_cases comma : c = ','
    · subst comma
      rw [skip_comma steps stack found] at done
      exact .inl ⟨rfl, done⟩
    by_cases closed : c = b.closing
    · subst closed
      rw [skip_close steps stack found] at done
      exact .inr ⟨rfl, done⟩
    · simp [skip, found, comma, closed] at done

theorem afterBlanks_suffix {c : Char} {more : List Char} (found : afterBlanks cs = c :: more) :
    more <:+ cs ∧ more.length < cs.length := by
  have within : c :: more <:+ cs := found ▸ List.dropWhile_suffix isBlank
  exact ⟨(List.suffix_cons c more).trans within, within.length_le⟩

/-- There are more steps than characters on either text, so neither run is short of steps. -/
theorem skip_append {awaited : Awaited} {steps' : Nat} (rest : List Char)
    (enough : cs.length < steps) (enough' : (cs ++ rest).length < steps')
    (done : skip steps awaited stack cs = .ok left) :
    left <:+ cs ∧
      (left ≠ [] → skip steps' awaited stack (cs ++ rest) = .ok (left ++ rest)) := by
  induction steps generalizing awaited stack cs steps' with
  | zero => exact absurd enough (Nat.not_lt_zero _)
  | succ steps ih =>
    obtain ⟨steps', rfl⟩ : ∃ n, steps' = n + 1 := ⟨steps' - 1, by omega⟩
    -- the same step on both texts, to a shorter rest, leaves steps enough on both
    have onward {next : Awaited} {brackets : List Bracket} {after : List Char} (within : after <:+ cs)
        (shorter : after.length < cs.length) (done : skip steps next brackets after = .ok left)
        (step : after ≠ [] → skip (steps' + 1) awaited stack (cs ++ rest) =
          skip steps' next brackets (after ++ rest)) :
        left <:+ cs ∧
          (left ≠ [] → skip (steps' + 1) awaited stack (cs ++ rest) = .ok (left ++ rest)) := by
      have fewer : (after ++ rest).length < steps' := by
        simp only [List.length_append] at enough' ⊢
        omega
      obtain ⟨suffix, skips⟩ := ih (by omega) fewer done
      refine ⟨suffix.trans within, fun nonempty => ?_⟩
      rw [step ?_]
      · exact skips nonempty
      · rintro rfl
        exact nonempty (List.suffix_nil.mp suffix)
    cases awaited with
    | value =>
      rcases ok_skip_value done with ⟨c, more, after, found, noList, noObject, passed, goes⟩ |
        ⟨b, more, c, after, found, inside, ⟨rfl, goes⟩ | ⟨notClosed, goes⟩⟩
      · obtain ⟨behind, shorter⟩ := afterBlanks_suffix found
        obtain ⟨suffix, passes⟩ := skipScalar_append passed rest
        refine onward (suffix.trans behind) (Nat.lt_of_le_of_lt suffix.length_le shorter) goes ?_
        exact fun some => skip_scalar steps' stack (afterBlanks_append found) noList noObject
          (passes some)
      · obtain ⟨behind, shorter⟩ := afterBlanks_suffix found
        obtain ⟨later, fewer⟩ := afterBlanks_suffix inside
        refine onward (later.trans behind) (Nat.lt_trans fewer shorter) goes fun _ => ?_
        exact skip_empty steps' stack (afterBlanks_append found) (afterBlanks_append inside)
      · obtain ⟨behind, shorter⟩ := afterBlanks_suffix found
        have later : c :: after <:+ more := inside ▸ List.dropWhile_suffix isBlank
        refine onward (later.trans behind) (Nat.lt_of_le_of_lt later.length_le shorter) goes ?_
        exact fun _ => skip_enter steps' stack (afterBlanks_append found)
          (afterBlanks_append inside) notClosed
    | key =>
      obtain ⟨more, after, found, passed, goes⟩ := ok_skip_key done
      obtain ⟨behind, shorter⟩ := afterBlanks_suffix found
      obtain ⟨suffix, passes⟩ := skipKey_append passed rest
      refine onward (suffix.trans behind) (Nat.lt_of_le_of_lt suffix.length_le shorter) goes ?_
      exact fun _ => skip_key steps' stack (afterBlanks_append found) passes
    | separator =>
      cases stack with
      | nil =>
        cases done
        exact ⟨List.suffix_rfl, fun _ => rfl⟩
      | cons b stack =>
        obtain ⟨c, more, found, ⟨rfl, goes⟩ | ⟨rfl, goes⟩⟩ := ok_skip_separator done
        · obtain ⟨behind, shorter⟩ := afterBlanks_suffix found
          exact onward behind shorter goes fun _ =>
            skip_comma steps' stack (afterBlanks_append found)
        · obtain ⟨behind, shorter⟩ := afterBlanks_suffix found
          exact onward behind shorter goes fun _ =>
            skip_close steps' stack (afterBlanks_append found)

end Skipping

theorem Reader.steady_skipValue : skipValue.Steady fun _ => False := by
  intro cs rest value left done
  cases passed : skip (cs.length + 1) .value [] cs with
  | error problem =>
    rw [skipValue, passed] at done
    cases done
  | ok after =>
    rw [skipValue, passed] at done
    cases done
    obtain ⟨suffix, skips⟩ := skip_append rest (Nat.lt_succ_self _) (Nat.lt_succ_self _) passed
    refine ⟨suffix, fun fits => ?_⟩
    rw [skipValue, skips fits]
    rfl

end OpticsCheck.Json
