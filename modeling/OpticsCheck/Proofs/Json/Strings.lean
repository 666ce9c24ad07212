import OpticsCheck.Proofs.Json.Reading

/-!
# Reading strings

A character can be written as itself or in one of several escapes, and a string is read back from
any mix of them. What is written for a string is one such mix, and whatever is read as a string is
one.
-/

namespace OpticsCheck.Json

/-- The ways to write a character inside a string. -/
inductive CharText (c : Char) : List Char → Prop
  | plain (quote : c ≠ '"') (backslash : c ≠ '\\') (control : 0x20 ≤ c.toNat) : CharText c [c]
  | short {letter : Char} (stands : shortEscape? letter = some c) : CharText c ['\\', letter]
  | code {d₁ d₂ d₃ d₄ : Char} (stands : hexCode? d₁ d₂ d₃ d₄ = some c.toNat) :
      CharText c ['\\', 'u', d₁, d₂, d₃, d₄]
  | pair {d₁ d₂ d₃ d₄ e₁ e₂ e₃ e₄ : Char} {high low : Nat}
      (first : hexCode? d₁ d₂ d₃ d₄ = some high) (second : hexCode? e₁ e₂ e₃ e₄ = some low)
      (isHigh : isHighSurrogate high = true) (isLow : isLowSurrogate low = true)
      (stands : pairedCode high low = c.toNat) :
      CharText c ['\\', 'u', d₁, d₂, d₃, d₄, '\\', 'u', e₁, e₂, e₃, e₄]

/-- The ways to write characters one after the other inside a string. -/
def bodyTexts : List Char → Texts
  | [] => {[]}
  | c :: cs => {text | ∃ first, CharText c first ∧ ∃ more ∈ bodyTexts cs, text = first ++ more}

def stringTexts (s : String) : Texts :=
  {text | ∃ body ∈ bodyTexts s.toList, text = '"' :: (body ++ ['"'])}

theorem no_surrogate (c : Char) :
    isLowSurrogate c.toNat = false ∧ isHighSurrogate c.toNat = false := by
  have valid : c.toNat < 0xD800 ∨ 0xDFFF < c.toNat ∧ c.toNat < 0x110000 := c.valid
  simp only [isLowSurrogate, isHighSurrogate, Bool.and_eq_false_iff, decide_eq_false_iff_not]
  omega

theorem not_low_of_high {code : Nat} (isHigh : isHighSurrogate code = true) :
    isLowSurrogate code = false := by
  simp only [isLowSurrogate, isHighSurrogate, Bool.and_eq_true, Bool.and_eq_false_iff,
    decide_eq_true_eq, decide_eq_false_iff_not] at isHigh ⊢
  omega

theorem stringBody_append {c : Char} {text rest body left : List Char} (written : CharText c text)
    (follows : stringBody rest = .ok (body, left)) :
    stringBody (text ++ rest) = .ok (c :: body, left) := by
  cases written with
  | plain quote backslash control =>
    have printable : ¬ c.toNat < 0x20 := by omega
    simp [stringBody, backslash, printable, follows]
  | short stands =>
    rename_i letter
    have noCode : letter ≠ 'u' := by
      rintro rfl
      cases stands
    simp [stringBody, noCode, stands, follows]
  | code stands =>
    obtain ⟨notLow, notHigh⟩ := no_surrogate c
    simp [stringBody, stands, notLow, notHigh, follows]
  | pair first second isHigh isLow stands =>
    simp [stringBody, first, second, isHigh, isLow, not_low_of_high isHigh, follows, stands]

theorem stringBody_bodyTexts {cs text : List Char} (written : text ∈ bodyTexts cs)
    (rest : List Char) : stringBody (text ++ '"' :: rest) = .ok (cs, rest) := by
  induction cs generalizing text with
  | nil =>
    cases written
    rfl
  | cons c cs ih =>
    obtain ⟨first, spelled, more, written, rfl⟩ := written
    rw [List.append_assoc]
    exact stringBody_append spelled (ih written)

theorem quotedString_of_body {s : String} {body : List Char} (written : body ∈ bodyTexts s.toList)
    (rest : List Char) : Reader.quotedString ('"' :: (body ++ '"' :: rest)) = .ok (s, rest) := by
  show (stringBody (body ++ '"' :: rest)).map _ = _
  rw [stringBody_bodyTexts written]
  simp [Except.map]

theorem reads_string (expected : String) (s : String) :
    Reads (Reader.string expected) (stringTexts s) s := by
  refine Reads.of_cons (c := '"') rfl (by decide) ?_ ?_
  · rintro text ⟨body, -, rfl⟩
    exact ⟨_, rfl⟩
  · rintro more ⟨body, written, same⟩ cs rest found delimited
    cases same
    rw [List.append_assoc] at found
    rw [Reader.string, Reader.startingWith_of_cons found (if_pos rfl)]
    exact quotedString_of_body written rest

/-! ### Strings that nobody asks for -/

/-- A character of a string that is skipped: an escape need not stand for anything. -/
inductive SkippedChar : List Char → Prop
  | plain {c : Char} (quote : c ≠ '"') (backslash : c ≠ '\\') (control : 0x20 ≤ c.toNat) :
      SkippedChar [c]
  | short {letter : Char} (known : (shortEscape? letter).isSome) : SkippedChar ['\\', letter]
  | code {d₁ d₂ d₃ d₄ : Char} (digits : (hexCode? d₁ d₂ d₃ d₄).isSome) :
      SkippedChar ['\\', 'u', d₁, d₂, d₃, d₄]

inductive SkippedBody : List Char → Prop
  | nil : SkippedBody []
  | cons {first more : List Char} (head : SkippedChar first) (tail : SkippedBody more) :
      SkippedBody (first ++ more)

theorem skipString_append {text : List Char} (head : SkippedChar text) (rest : List Char) :
    skipString (text ++ rest) = skipString rest := by
  cases head with
  | plain quote backslash control =>
    rename_i c
    have printable : ¬ c.toNat < 0x20 := by omega
    simp [skipString, backslash, printable]
  | short known =>
    rename_i letter
    have noCode : letter ≠ 'u' := by
      rintro rfl
      cases known
    simp [skipString, noCode, known]
  | code digits => simp [skipString, digits]

theorem skipString_of_body {body : List Char} (skipped : SkippedBody body) (rest : List Char) :
    skipString (body ++ '"' :: rest) = .ok rest := by
  induction skipped with
  | nil => simp [skipString]
  | cons head _ ih =>
    rw [List.append_assoc, skipString_append head]
    exact ih

/-! ### Strings that are written -/

theorem hexCode?_control : ∀ n : Fin 32,
    hexCode? '0' '0' (hexDigit (n.val / 16)) (hexDigit (n.val % 16)) = some n.val := by
  decide

theorem charText_escapedChar (c : Char) : CharText c (escapedChar c) := by
  unfold escapedChar
  split_ifs with quote backslash backspace formFeed newline carriage tab control
  · subst quote
    exact .short rfl
  · subst backslash
    exact .short rfl
  · subst backspace
    exact .short rfl
  · subst formFeed
    exact .short rfl
  · subst newline
    exact .short rfl
  · subst carriage
    exact .short rfl
  · subst tab
    exact .short rfl
  · exact .code (hexCode?_control ⟨c.toNat, control⟩)
  · exact .plain quote backslash (by omega)

theorem flatMap_escapedChar_mem (cs : List Char) : cs.flatMap escapedChar ∈ bodyTexts cs := by
  induction cs with
  | nil => rfl
  | cons c cs ih => exact ⟨_, charText_escapedChar c, _, ih, List.flatMap_cons⟩

theorem writeString_mem (s : String) : writeString s ∈ stringTexts s :=
  ⟨_, flatMap_escapedChar_mem s.toList, rfl⟩

/-! ### Nothing else is read as a string -/

section Sound

variable {cs body left : List Char}

theorem hexValue?_lt {c : Char} {n : Nat} (stands : hexValue? c = some n) : n < 16 := by
  have bound {d : Char} (le : c ≤ d) : c.toNat ≤ d.toNat :=
    UInt32.le_iff_toNat_le.mp (Char.le_def.mp le)
  unfold hexValue? at stands
  split at stands
  · next range =>
    have := bound range.2
    cases stands
    have : '9'.toNat = '0'.toNat + 9 := rfl
    omega
  split at stands
  · next range =>
    have := bound range.2
    cases stands
    have : 'f'.toNat = 'a'.toNat + 5 := rfl
    omega
  split at stands
  · next range =>
    have := bound range.2
    cases stands
    have : 'F'.toNat = 'A'.toNat + 5 := rfl
    omega
  · cases stands

theorem hexCode?_lt {a b c d : Char} {code : Nat} (stands : hexCode? a b c d = some code) :
    code < 0x10000 := by
  obtain ⟨w, first, x, second, y, third, z, fourth, value⟩ :
      ∃ w, hexValue? a = some w ∧ ∃ x, hexValue? b = some x ∧ ∃ y, hexValue? c = some y ∧
        ∃ z, hexValue? d = some z ∧ ((w * 16 + x) * 16 + y) * 16 + z = code := by
    simpa [hexCode?, Option.bind_eq_some_iff] using stands
  have := hexValue?_lt first
  have := hexValue?_lt second
  have := hexValue?_lt third
  have := hexValue?_lt fourth
  omega

/-- A code point that is no surrogate is that of a character. -/
theorem toNat_ofNat_of_code {code : Nat} (small : code < 0x110000)
    (notLow : isLowSurrogate code = false) (notHigh : isHighSurrogate code = false) :
    (Char.ofNat code).toNat = code := by
  have valid : code.isValidChar := by
    simp only [isLowSurrogate, isHighSurrogate, Bool.and_eq_false_iff, decide_eq_false_iff_not]
      at notLow notHigh
    unfold Nat.isValidChar
    omega
  rw [Char.ofNat, dif_pos valid]
  rfl

theorem toNat_ofNat_pairedCode {high low : Nat} (isHigh : isHighSurrogate high = true)
    (isLow : isLowSurrogate low = true) :
    (Char.ofNat (pairedCode high low)).toNat = pairedCode high low := by
  have bounds : 0x10000 ≤ pairedCode high low ∧ pairedCode high low < 0x110000 := by
    simp only [isLowSurrogate, isHighSurrogate, Bool.and_eq_true, decide_eq_true_eq] at isHigh isLow
    unfold pairedCode
    omega
  refine toNat_ofNat_of_code bounds.2 ?_ ?_
  · simp only [isLowSurrogate, Bool.and_eq_false_iff, decide_eq_false_iff_not]
    omega
  · simp only [isHighSurrogate, Bool.and_eq_false_iff, decide_eq_false_iff_not]
    omega

/-- A backslash would be the start of an escape. -/
theorem ne_backslash {c : Char} {follows : List Char} (alone : c = '\\' → follows = [] → False)
    (escapes : ∀ letter later, c = '\\' → follows = letter :: later → False) : c ≠ '\\' := by
  rintro rfl
  cases follows with
  | nil => exact alone rfl rfl
  | cons letter later => exact escapes letter later rfl rfl

theorem ok_character {read : Except Problem (List Char × List Char)} {c : Char}
    (done : (do let (more, left) ← read; return (c :: more, left)) = .ok (body, left)) :
    ∃ more, body = c :: more ∧ read = .ok (more, left) := by
  cases read with
  | error problem => cases done
  | ok result =>
    cases done
    exact ⟨_, rfl, rfl⟩

theorem exists_bodyTexts_cons {c : Char} {text : List Char} (written : CharText c text)
    (read : ∃ more ∈ bodyTexts body, cs = more ++ '"' :: left) :
    ∃ more ∈ bodyTexts (c :: body), text ++ cs = more ++ '"' :: left := by
  obtain ⟨more, mem, rfl⟩ := read
  exact ⟨text ++ more, ⟨text, written, more, mem, rfl⟩, (List.append_assoc _ _ _).symm⟩

theorem exists_bodyTexts (done : stringBody cs = .ok (body, left)) :
    ∃ text ∈ bodyTexts body, cs = text ++ '"' :: left := by
  fun_induction stringBody cs generalizing body left
  case case2 =>
    cases done
    exact ⟨[], rfl, rfl⟩
  case case6 first _ isHigh _ _ _ _ _ _ second isLow ih =>
    obtain ⟨more, rfl, read⟩ := ok_character done
    have same := toNat_ofNat_pairedCode isHigh isLow
    exact exists_bodyTexts_cons (.pair first second isHigh isLow same.symm) (ih read)
  case case9 stands notLow notHigh ih =>
    obtain ⟨more, rfl, read⟩ := ok_character done
    have same := toNat_ofNat_of_code (Nat.lt_trans (hexCode?_lt stands) (by decide))
      (Bool.eq_false_of_not_eq_true notLow) (Bool.eq_false_of_not_eq_true notHigh)
    exact exists_bodyTexts_cons (.code (by rw [stands, same])) (ih read)
  case case13 stands ih =>
    obtain ⟨more, rfl, read⟩ := ok_character done
    exact exists_bodyTexts_cons (.short stands) (ih read)
  case case15 quote _ _ alone escapes control ih =>
    obtain ⟨more, rfl, read⟩ := ok_character done
    have plain := CharText.plain quote (ne_backslash alone escapes) (Nat.le_of_not_lt control)
    exact exists_bodyTexts_cons plain (ih read)
  all_goals cases done

theorem exists_skippedBody_append {text : List Char} (head : SkippedChar text)
    (tail : ∃ more, SkippedBody more ∧ cs = more ++ '"' :: left) :
    ∃ more, SkippedBody more ∧ text ++ cs = more ++ '"' :: left := by
  obtain ⟨more, skipped, rfl⟩ := tail
  exact ⟨text ++ more, .cons head skipped, (List.append_assoc _ _ _).symm⟩

theorem exists_skippedBody (done : skipString cs = .ok left) :
    ∃ text, SkippedBody text ∧ cs = text ++ '"' :: left := by
  fun_induction skipString cs
  case case2 =>
    cases done
    exact ⟨[], .nil, rfl⟩
  case case3 digits ih => exact exists_skippedBody_append (.code digits) (ih done)
  case case7 known ih => exact exists_skippedBody_append (.short known) (ih done)
  case case10 quote _ _ alone escapes control ih =>
    have plain := SkippedChar.plain quote (ne_backslash alone escapes) (Nat.le_of_not_lt control)
    exact exists_skippedBody_append plain (ih done)
  all_goals cases done

end Sound

end OpticsCheck.Json
