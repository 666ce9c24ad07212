import OpticsCheck.Proofs.Json.Series

/-!
# Reading a prefix of a text

A string ends with its quote, a word with its last letter and a keyword with one of both or with a
bracket. So nothing that comes behind them changes how they are read, and neither does it change
that of a comma, a colon or a closing bracket.
-/

namespace OpticsCheck.Json

namespace Reader

variable {α : Type} {allowed : Prop} {rest : List Char}

/-! ### Strings and words -/

theorem sealed_quotedString : quotedString.Sealed := by
  intro cs rest
  cases cs with
  | nil => exact .of_ne_ok nofun
  | cons c cs =>
    refine .advance c ?_
    intro s left done
    change (stringBody cs).map _ = _ at done
    cases read : stringBody cs with
    | error problem =>
      rw [read] at done
      cases done
    | ok result =>
      rw [read] at done
      cases done
      obtain ⟨text, written, rfl⟩ := exists_bodyTexts read
      refine ⟨List.suffix_append_of_suffix (List.suffix_cons _ _), fun _ => ?_⟩
      rw [List.append_assoc, List.cons_append]
      exact congrArg (Except.map _) (stringBody_bodyTexts written _)

theorem word_cons (c : Char) (letters cs : List Char) :
    word (c :: letters) (c :: cs) = word letters cs := by
  show (if c = c then _ else _ : Reader Unit) (c :: cs) = _
  rw [if_pos rfl]
  rfl

theorem sealed_word (letters : List Char) : (word letters).Sealed := by
  induction letters with
  | nil => exact .pure ()
  | cons c letters ih =>
    intro cs rest value left done
    cases cs with
    | nil => cases done
    | cons d after =>
      by_cases same : c = d
      · subst same
        rw [word_cons] at done
        obtain ⟨suffix, reads⟩ := ih after rest value left done
        refine ⟨suffix.trans (List.suffix_cons c after), fun fits => ?_⟩
        rw [List.cons_append, word_cons]
        exact reads fits
      · change (if c = d then _ else _ : Reader Unit) (d :: after) = _ at done
        rw [if_neg same] at done
        cases done

theorem sealed_string (expected : String) : (string expected).Sealed := by
  refine steady_startingWith fun c reader continues more rest => ?_
  split at continues
  · cases continues
    exact sealed_quotedString (c :: more) rest
  · cases continues

theorem sealed_boolean : boolean.Sealed := by
  refine steady_startingWith fun c reader continues more rest => ?_
  split at continues
  · cases continues
    exact (sealed_word _ (c :: more) rest).bind fun _ between _ => .pure true rest between
  split at continues
  · cases continues
    exact (sealed_word _ (c :: more) rest).bind fun _ between _ => .pure false rest between
  · cases continues

theorem sealed_null : null.Sealed := by
  refine steady_startingWith fun c reader continues more rest => ?_
  split at continues
  · cases continues
    exact sealed_word _ (c :: more) rest
  · cases continues

theorem steady_optional {reader : Reader α} {follow : List Char → Prop}
    (steady : reader.Steady follow) (needs : ∀ value left, reader [] ≠ .ok (value, left)) :
    (optional reader).Steady follow := by
  intro cs rest
  refine .peek ?_ fun c more _ => ?_
  · intro value left done
    rw [map_eq_pure_bind] at done
    obtain ⟨v, between, read, -⟩ := ok_bind done
    exact needs v between read
  · generalize some c = first
    split
    · refine ((sealed_word _).steady follow (c :: more) rest).bind fun _ between _ => ?_
      exact .pure none rest between
    · exact .map some (steady (c :: more) rest)

/-! ### Commas, colons and brackets -/

theorem sealed_colon : colon.Sealed := by
  intro cs rest
  refine .peek nofun fun c more _ => ?_
  generalize seen : some c = first
  split
  · cases seen
  · cases seen
    exact .advance ':' (.pure () rest more)
  · exact .of_ne_ok nofun

theorem sealed_moreItems (first : Bool) : (moreItems first).Sealed := by
  intro cs rest
  refine .peek nofun fun c more _ => ?_
  generalize seen : some c = next
  split
  · cases seen
  · exact .pure false rest (c :: more)
  · cases seen
    split
    · exact .pure true rest (c :: more)
    split
    · refine .advance c (.peek nofun fun d later _ => ?_)
      generalize some d = next
      split
      · exact .of_ne_ok nofun
      · exact .of_ne_ok nofun
      · exact .pure true rest (d :: later)
    · exact .of_ne_ok nofun

theorem sealed_moreMembers (first : Bool) : (moreMembers first).Sealed := by
  intro cs rest
  refine .peek nofun fun c more _ => ?_
  generalize seen : some c = next
  split
  · cases seen
  · exact .pure false rest (c :: more)
  · cases seen
    split
    · split
      · exact .pure true rest (c :: more)
      · exact .of_ne_ok nofun
    split
    · refine .advance c (.peek nofun fun d later _ => ?_)
      generalize some d = next
      split
      · exact .of_ne_ok nofun
      · exact .pure true rest (d :: later)
      · exact .of_ne_ok nofun
      · exact .of_ne_ok nofun
    · exact .of_ne_ok nofun

theorem sealed_closeList : closeList.Sealed := by
  intro cs rest
  refine .peek nofun fun c more _ => ?_
  generalize seen : some c = first
  split
  · cases seen
  · cases seen
    exact .advance ']' (.pure () rest more)
  · cases seen
    -- whatever comes behind the comma is a problem
    refine .advance ',' (.of_ne_ok fun value left done => ?_)
    obtain ⟨next, between, -, refused⟩ := ok_bind done
    split at refused <;> cases refused
  · exact .of_ne_ok nofun

theorem sealed_closeObject : closeObject.Sealed := by
  intro cs rest
  refine .peek nofun fun c more _ => ?_
  generalize seen : some c = first
  split
  · cases seen
  · cases seen
    exact .advance '\x7d' (.pure () rest more)
  · exact .of_ne_ok nofun
  · exact .of_ne_ok nofun

/-! ### Keywords -/

theorem prolongs_keywordIn (known : List (String × α)) (found : String) (cs : List Char) :
    Prolongs allowed rest (keywordIn known found) (keywordIn known found) cs := by
  unfold keywordIn
  split
  · exact .pure _ rest cs
  · exact .of_ne_ok nofun

theorem sealed_onlyKey : onlyKey.Sealed := by
  intro cs rest
  refine .peek nofun fun c more _ => ?_
  generalize some c = first
  split
  · exact .of_ne_ok nofun
  · exact sealed_quotedString (c :: more) rest
  · exact .of_ne_ok nofun
  · exact .of_ne_ok nofun

theorem sealed_keyword (known : List (String × α)) : (keyword known).Sealed := by
  intro cs rest
  refine .peek nofun fun c more _ => ?_
  generalize seen : some c = first
  split
  · cases seen
  · exact (sealed_quotedString (c :: more) rest).bind fun found between _ =>
      prolongs_keywordIn known found between
  · cases seen
    refine .advance '\x7b' ?_
    refine (sealed_onlyKey more rest).bind fun key between _ => ?_
    refine (prolongs_keywordIn known key between).bind fun value between _ => ?_
    refine (sealed_colon between rest).bind fun _ between _ => ?_
    refine (sealed_null between rest).bind fun _ between _ => ?_
    refine .peek nofun fun d later _ => ?_
    generalize seen : some d = next
    split
    · cases seen
    · cases seen
      exact .advance '\x7d' (.pure value rest later)
    · exact .of_ne_ok nofun
  · exact .of_ne_ok nofun

end Reader
end OpticsCheck.Json
