import OpticsCheck.Proofs.Json.Records
import OpticsCheck.Proofs.Json.SkippedPrefixes

/-!
# Reading lists, maps and records from a prefix of a text

What stands between two brackets is read by a loop that takes a step for each comma. On a longer text
there are more steps to take, but what ends the loop is the closing bracket. So a list, a map and a
record are read from a text or not at all, whatever comes behind it.
-/

namespace OpticsCheck.Json

variable {α β : Type} {rest cs : List Char}

/-- Each comma is passed, and only the first text of a series has none. -/
theorem Leads.length {first : Bool} {here : List Char} (leads : Leads first cs here) :
    here.length + 1 ≤ cs.length + first.toNat := by
  cases first with
  | true =>
    have found : afterBlanks cs = here := leads
    exact Nat.succ_le_succ (found ▸ (List.dropWhile_suffix isBlank).length_le)
  | false =>
    obtain ⟨more, comma, found⟩ := leads
    have behind := (afterBlanks_suffix comma).2
    have solid : here.length ≤ more.length := found ▸ (List.dropWhile_suffix isBlank).length_le
    exact Nat.lt_of_le_of_lt solid behind

namespace Reader

theorem leads_of_moreItems {first : Bool} {here : List Char}
    (more : moreItems first cs = .ok (true, here)) : Leads first cs here := by
  rcases ok_peek more with nothing | ⟨c, behind, found, goes⟩
  · cases nothing
  generalize seen : some c = next at goes
  split at goes
  · cases goes
  · cases goes
  · cases seen
    cases first with
    | true =>
      cases goes
      exact found
    | false =>
      simp only [Bool.false_eq_true, if_false] at goes
      split at goes
      · next comma =>
        subst comma
        refine ⟨behind, found, ?_⟩
        rw [bind_of_ok (advance_cons ',' behind)] at goes
        rcases ok_peek goes with nothing | ⟨d, later, begins, goes⟩
        · cases nothing
        · generalize some d = next at goes
          split at goes
          · cases goes
          · cases goes
          · cases goes
            exact begins
      · cases goes

theorem leads_of_moreMembers {first : Bool} {here : List Char}
    (more : moreMembers first cs = .ok (true, here)) : Leads first cs here := by
  rcases ok_peek more with nothing | ⟨c, behind, found, goes⟩
  · cases nothing
  generalize seen : some c = next at goes
  split at goes
  · cases goes
  · cases goes
  · cases seen
    cases first with
    | true =>
      simp only [if_true] at goes
      split at goes
      · cases goes
        exact found
      · cases goes
    | false =>
      simp only [Bool.false_eq_true, if_false] at goes
      split at goes
      · next comma =>
        subst comma
        refine ⟨behind, found, ?_⟩
        rw [bind_of_ok (advance_cons ',' behind)] at goes
        rcases ok_peek goes with nothing | ⟨d, later, begins, goes⟩
        · cases nothing
        · generalize some d = next at goes
          split at goes
          · cases goes
          · cases goes
            exact begins
          · cases goes
          · cases goes
      · cases goes

/-- What tells whether a list or an object goes on: it looks at some text, and passes a comma unless
nothing came before. -/
structure Separates (more : Bool → Reader Bool) : Prop where
  sealed : ∀ first, (more first).Sealed
  needs : ∀ first goes left, more first [] ≠ .ok (goes, left)
  leads : ∀ {first cs here}, more first cs = .ok (true, here) → Leads first cs here

theorem separates_moreItems : Separates moreItems where
  sealed := sealed_moreItems
  needs _ := nofun
  leads := leads_of_moreItems

theorem separates_moreMembers : Separates moreMembers where
  sealed := sealed_moreMembers
  needs _ := nofun
  leads := leads_of_moreMembers

/-- A loop that has steps for all of the text stops at a closing bracket, so it stops there on a
longer text as well. -/
theorem prolongs_loop {γ δ : Type} {more : Bool → Reader Bool} (separates : Separates more)
    (loop : Nat → Bool → γ → Reader δ) (body : Nat → γ → Reader δ) (out : γ → δ)
    (stops : ∀ first s, loop 0 first s = pure (out s))
    (turns : ∀ steps first s, loop (steps + 1) first s =
      more first >>= fun goes => if goes then body steps s else pure (out s))
    (each : ∀ steps steps' s here,
      (∀ s' between, between <:+ here →
        Prolongs False rest (loop steps false s') (loop steps' false s') between) →
      Prolongs False rest (body steps s) (body steps' s) here)
    {steps steps' : Nat} {first : Bool} (s : γ) (enough : cs.length + first.toNat ≤ steps)
    (enough' : (cs ++ rest).length + first.toNat ≤ steps') :
    Prolongs False rest (loop steps first s) (loop steps' first s) cs := by
  rw [List.length_append] at enough'
  induction steps generalizing first cs steps' s with
  | zero =>
    have empty : cs = [] := List.eq_nil_of_length_eq_zero (by omega)
    subst empty
    rw [stops]
    rintro _ _ ⟨⟩
    exact ⟨List.suffix_rfl, fun fits => (fits rfl).elim⟩
  | succ steps ih =>
    rw [turns]
    cases steps' with
    | zero =>
      have empty : cs = [] := List.eq_nil_of_length_eq_zero (by omega)
      subst empty
      refine .of_ne_ok fun value left done => ?_
      obtain ⟨goes, here, read, -⟩ := ok_bind done
      exact separates.needs first goes here read
    | succ steps' =>
      rw [turns]
      refine ((separates.sealed first).steady (fun _ => False) cs rest).bind fun goes here read => ?_
      cases goes with
      | false => exact .pure (out s) rest here
      | true =>
        have passed := (separates.leads read).length
        refine each steps steps' s here fun s' between within => ?_
        have shorter := within.length_le
        refine ih s' ?_ ?_
        · simp only [Bool.toNat_false]
          omega
        · simp only [Bool.toNat_false]
          omega

theorem sealed_list {item : Reader α} (steady : item.Steady fun _ => False) :
    (list item).Sealed := by
  refine steady_startingWith fun c reader continues more rest => ?_
  split at continues
  · cases continues
    refine .advance c (.get ?_)
    have all : Prolongs False rest (items item (more.length + 1) true)
        (items item ((more ++ rest).length + 1) true) more := by
      refine prolongs_loop separates_moreItems (fun steps first (_ : Unit) => items item steps first)
        (fun steps _ => item >>= fun head => items item steps false >>= fun tail =>
          pure (head :: tail))
        (fun _ => []) (fun _ _ => rfl) (fun _ _ _ => rfl) ?_ () le_rfl le_rfl
      intro steps steps' _ here onward
      refine (steady here rest).bind fun head between read => ?_
      exact (onward () between (steady.suffix read)).bind fun tail left _ =>
        .pure (head :: tail) rest left
    refine all.bind_more (fun values between _ => ?_) fun values b left done => ?_
    · exact (sealed_closeList between rest).bind fun _ left _ => .pure values rest left
    · cases done
  · cases continues

theorem sealed_map {value : Reader α} (steady : value.Steady fun _ => False) (empty : β)
    (add : β → String → α → β) : (map value empty add).Sealed := by
  refine steady_startingWith fun c reader continues more rest => ?_
  split at continues
  · cases continues
    refine .advance c (.get ?_)
    have all : Prolongs False rest (entries value add (more.length + 1) true empty)
        (entries value add ((more ++ rest).length + 1) true empty) more := by
      refine prolongs_loop separates_moreMembers (entries value add)
        (fun steps map => quotedString >>= fun key => colon >>= fun _ => value >>= fun entry =>
          entries value add steps false (add map key entry))
        id (fun _ _ => rfl) (fun _ _ _ => rfl) ?_ empty le_rfl le_rfl
      intro steps steps' map here onward
      have key := sealed_quotedString.steady fun _ => False
      have colon := sealed_colon.steady fun _ => False
      refine (key here rest).bind fun name keyed readKey => ?_
      refine (colon keyed rest).bind fun _ content readColon => ?_
      refine (steady content rest).bind fun entry between read => ?_
      refine onward (add map name entry) between ?_
      exact (steady.suffix read).trans ((colon.suffix readColon).trans (key.suffix readKey))
    refine all.bind_more (fun map between _ => ?_) fun map b left done => ?_
    · exact (sealed_closeObject between rest).bind fun _ left _ => .pure map rest left
    · cases done
  · cases continues

end Reader

namespace Record

variable {δ : Type} (r : Record δ α)

theorem prolongs_finished {allowed : Prop} (draft : δ) (cs : List Char) :
    Reader.Prolongs allowed rest (r.finished draft) (r.finished draft) cs := by
  unfold finished
  split
  · exact .of_ne_ok nofun
  split
  · exact .pure _ rest cs
  · exact .of_ne_ok nofun

theorem steady_elements {fields : List (Field δ)}
    (steady : ∀ field ∈ fields, ∀ draft, (field.read draft).Steady fun _ => False) (index : Nat)
    (draft : δ) : (r.elements fields index draft).Steady fun _ => False := by
  induction fields generalizing index draft with
  | nil => exact .pure draft
  | cons field fields ih =>
    intro cs rest
    have more := (Reader.sealed_moreItems (index = 0)).steady fun _ => False
    refine (more cs rest).bind fun goes here _ => ?_
    cases goes with
    | true =>
      refine (steady field List.mem_cons_self draft here rest).bind fun draft between _ => ?_
      exact ih (fun other mem => steady other (List.mem_cons_of_mem _ mem)) _ draft between rest
    | false =>
      simp only [Bool.false_eq_true, if_false]
      split
      · exact .pure draft rest here
      · exact .of_ne_ok nofun

theorem prolongs_members (steady : ∀ field ∈ r.fields, ∀ draft,
      (field.read draft).Steady fun _ => False) {steps steps' : Nat} {first : Bool} (draft : δ)
    (enough : cs.length + first.toNat ≤ steps)
    (enough' : (cs ++ rest).length + first.toNat ≤ steps') :
    Reader.Prolongs False rest (r.members steps first draft) (r.members steps' first draft) cs := by
  have key := Reader.sealed_quotedString.steady fun _ => False
  have colon := Reader.sealed_colon.steady fun _ => False
  refine Reader.prolongs_loop Reader.separates_moreMembers r.members _ id (fun _ _ => rfl)
    (fun _ _ _ => rfl) ?_ draft enough enough'
  intro steps steps' draft here onward
  refine (key here rest).bind fun name keyed readKey => ?_
  split
  · refine (colon keyed rest).bind fun _ content readColon => ?_
    refine (Reader.steady_skipValue content rest).bind fun _ between read => ?_
    refine onward draft between ?_
    exact (Reader.steady_skipValue.suffix read).trans
      ((colon.suffix readColon).trans (key.suffix readKey))
  · next field found =>
    have reads := steady field (List.mem_of_find?_eq_some found) draft
    split
    · exact .of_ne_ok nofun
    · refine (colon keyed rest).bind fun _ content readColon => ?_
      refine (reads content rest).bind fun draft between read => ?_
      refine onward draft between ?_
      exact (reads.suffix read).trans ((colon.suffix readColon).trans (key.suffix readKey))

/-- No draft is finished and closed by a text that ends before the bracket. -/
theorem needs_close {close : Reader Unit} (needs : ∀ left, close [] ≠ .ok ((), left)) (draft : δ)
    (value : α) (left : List Char) :
    (r.finished draft >>= fun value => close >>= fun _ => pure value) [] ≠ .ok (value, left) := by
  intro done
  obtain ⟨made, between, finished, after⟩ := Reader.ok_bind done
  have steady : Reader.Prolongs True [] (r.finished draft) (r.finished draft) [] :=
    r.prolongs_finished draft []
  obtain rfl : between = [] := List.suffix_nil.mp (steady made between finished).1
  obtain ⟨_, left', closed, -⟩ := Reader.ok_bind after
  exact needs left' closed

/-- A record ends with its closing bracket. -/
theorem sealed_read (steady : ∀ field ∈ r.fields, ∀ draft,
    (field.read draft).Steady fun _ => False) : r.read.Sealed := by
  refine Reader.steady_startingWith fun c reader continues more rest => ?_
  split at continues
  · cases continues
    have all := r.steady_elements steady 0 r.blank more rest
    refine .advance c (all.bind_more (fun draft between _ => ?_) (r.needs_close nofun))
    refine (r.prolongs_finished draft between).bind fun value between _ => ?_
    exact (Reader.sealed_closeList between rest).bind fun _ left _ => .pure value rest left
  split at continues
  · cases continues
    have all : Reader.Prolongs False rest (r.members (more.length + 1) true r.blank)
        (r.members ((more ++ rest).length + 1) true r.blank) more :=
      r.prolongs_members steady r.blank le_rfl le_rfl
    refine .advance c (.get (all.bind_more (fun draft between _ => ?_) (r.needs_close nofun)))
    refine (r.prolongs_finished draft between).bind fun value between _ => ?_
    exact (Reader.sealed_closeObject between rest).bind fun _ left _ => .pure value rest left
  · cases continues

end Record
end OpticsCheck.Json
