import OpticsCheck.Json.Record
import OpticsCheck.Proofs.Json.Series

/-!
# Reading records

The spellings of a record: an object with the fields in any order, other members among them and
omittable fields left out, or a list of the fields in their order with an omittable rest left out.
A draft only depends on which fields were read, so every spelling ends in the same record.
-/

namespace OpticsCheck.Json

/-- A field of a record that is to be spelled: the texts for its value, and whether it may be left
out. -/
structure Slot where
  name : String
  texts : Texts
  omittable : Prop

/-- A member of an object that spells a record. -/
inductive Entry where
  | field (slot : Slot)
  | unknown (key : String)

namespace Entry

def texts : Entry → Texts
  | field slot => memberTexts slot.name slot.texts
  | unknown key => memberTexts key anyValues

def fieldName? : Entry → Option String
  | field slot => some slot.name
  | unknown _ => none

end Entry

/-- The entries give each field once, unless it is omittable and left out, and their other keys are
no field's name. -/
structure Gives (slots : List Slot) (entries : List Entry) : Prop where
  known : ∀ slot, .field slot ∈ entries → slot ∈ slots
  once : (entries.filterMap Entry.fieldName?).Nodup
  complete : ∀ slot ∈ slots, .field slot ∈ entries ∨ slot.omittable
  unknown : ∀ key, .unknown key ∈ entries → ∀ slot ∈ slots, slot.name ≠ key

def recordObjects (slots : List Slot) : Texts :=
  {text | ∃ entries, Gives slots entries ∧ text ∈ bracketed .object (entries.map Entry.texts)}

def recordLists (slots : List Slot) : Texts :=
  {text | ∃ count, (∀ slot ∈ slots.drop count, slot.omittable) ∧
    text ∈ bracketed .list ((slots.take count).map Slot.texts)}

def recordTexts (slots : List Slot) : Texts := recordObjects slots ∪ recordLists slots

section Fields

variable {δ : Type} {draft : List String → δ} {field : Field δ} {slot : Slot}

/-- The field reads what the slot spells, into the draft of the fields `seen` so far. -/
structure Fits (draft : List String → δ) (field : Field δ) (slot : Slot) : Prop where
  name : field.name = slot.name
  required : field.required = true → ¬ slot.omittable
  filled : ∀ seen, field.filled (draft seen) = decide (slot.name ∈ seen)
  reads : ∀ seen, Reads (field.read (draft seen)) slot.texts (draft (slot.name :: seen))

/-- A field that puts the value it reads into the draft fits when the draft shows that value once
it is seen. -/
theorem fits_of {β : Type} {name : String} {required : Bool} {get : δ → Option β} {put : δ → β → δ}
    {reader : Reader β} {texts : Texts} {value : β} {omittable : Prop}
    (reads : Reads reader texts value) (needed : required = true → ¬ omittable)
    (shown : ∀ seen, get (draft seen) = if name ∈ seen then some value else none)
    (puts : ∀ seen, put (draft seen) value = draft (name :: seen)) :
    Fits draft (Field.of name required get put reader) ⟨name, texts, omittable⟩ where
  name := rfl
  required := needed
  filled := by
    intro seen
    show (get (draft seen)).isSome = decide (name ∈ seen)
    rw [shown]
    split <;> simp_all
  reads := by
    intro seen
    refine ⟨reads.starts, fun text mem cs rest found delimited => ?_⟩
    show (reader >>= fun v => pure (put (draft seen) v)) cs = _
    rw [Reader.bind_of_ok (reads.reads text mem cs rest found delimited), puts]
    rfl

end Fields

/-- How a record's drafts come to `value` by reading the slots: `draft seen` is the draft once the
fields `seen` were read. -/
structure Fills {δ α : Type} (r : Record δ α) (slots : List Slot) (draft : List String → δ)
    (value : α) : Prop where
  blank : draft [] = r.blank
  distinct : (slots.map (·.name)).Nodup
  fits : List.Forall₂ (Fits draft) r.fields slots
  complete : ∀ seen, (∀ slot ∈ slots, slot.name ∈ seen ∨ slot.omittable) →
    r.complete (draft seen) = some value

section Lookup

variable {δ : Type} {draft : List String → δ} {fields : List (Field δ)} {slots : List Slot}

theorem find?_of_mem (fits : List.Forall₂ (Fits draft) fields slots)
    (distinct : (slots.map (·.name)).Nodup) {slot : Slot} (mem : slot ∈ slots) :
    ∃ field, fields.find? (·.name = slot.name) = some field ∧ Fits draft field slot := by
  induction fits with
  | nil => cases mem
  | @cons field first fields slots fit fits ih =>
    obtain ⟨fresh, others⟩ := List.nodup_cons.mp distinct
    rcases List.mem_cons.mp mem with rfl | later
    · exact ⟨field, List.find?_cons_of_pos (by simp [fit.name]), fit⟩
    · have different : first.name ≠ slot.name := by
        intro same
        exact fresh (List.mem_map.mpr ⟨slot, later, same.symm⟩)
      obtain ⟨found, lookup, fitting⟩ := ih others later
      refine ⟨found, ?_, fitting⟩
      rw [List.find?_cons_of_neg (by simpa [fit.name] using different)]
      exact lookup

theorem find?_of_unknown (fits : List.Forall₂ (Fits draft) fields slots) {key : String}
    (unknown : ∀ slot ∈ slots, slot.name ≠ key) : fields.find? (·.name = key) = none := by
  induction fits with
  | nil => rfl
  | @cons field first fields slots fit fits ih =>
    have different := unknown first List.mem_cons_self
    rw [List.find?_cons_of_neg (by simpa [fit.name] using different)]
    exact ih fun slot mem => unknown slot (List.mem_cons_of_mem _ mem)

theorem exists_fit (fits : List.Forall₂ (Fits draft) fields slots) {field : Field δ}
    (mem : field ∈ fields) : ∃ slot ∈ slots, Fits draft field slot := by
  induction fits with
  | nil => cases mem
  | @cons first slot fields slots fit fits ih =>
    rcases List.mem_cons.mp mem with rfl | later
    · exact ⟨slot, List.mem_cons_self, fit⟩
    · obtain ⟨other, inside, fitting⟩ := ih later
      exact ⟨other, List.mem_cons_of_mem _ inside, fitting⟩

end Lookup

section Records

variable {δ α : Type} {r : Record δ α} {slots : List Slot} {draft : List String → δ} {value : α}
  (fills : Fills r slots draft value)

include fills

theorem finished_of_seen {seen : List String}
    (all : ∀ slot ∈ slots, slot.name ∈ seen ∨ slot.omittable) (cs : List Char) :
    r.finished (draft seen) cs = .ok (value, cs) := by
  have noneMissing : r.missing? (draft seen) = none := by
    refine List.find?_eq_none.mpr fun field mem => ?_
    obtain ⟨slot, inside, fit⟩ := exists_fit fills.fits mem
    cases needed : field.required with
    | false => simp
    | true =>
      have given := (all slot inside).resolve_right (fit.required needed)
      simp [fit.filled, given]
  rw [Record.finished, noneMissing]
  simp only [fills.complete seen all]
  rfl

/-- A field's value is read into the draft, and the members behind it are next. -/
theorem members_field {slot : Slot} {kinds : List Texts} {first : Bool} {text : List Char}
    {seen : List String} (known : slot ∈ slots) (fresh : slot.name ∉ seen)
    (series : Series first (memberTexts slot.name slot.texts :: kinds) text) (steps : Nat)
    (rest : List Char) :
    ∃ tail, Series false kinds tail ∧
      r.members (steps + 1) first (draft seen) (text ++ '\x7d' :: rest) =
        r.members steps false (draft (slot.name :: seen)) (tail ++ '\x7d' :: rest) := by
  have closing : Delimited ('\x7d' :: rest) := delimited_cons (.inr (.inr rfl))
  obtain ⟨field, lookup, fit⟩ := find?_of_mem fills.fits fills.distinct known
  have unseen : field.filled (draft seen) = false := by simpa [fit.filled] using fresh
  obtain ⟨quoted, keyed, content, tail, more, leads, key, colon, reads⟩ :=
    series.member (fit.reads seen) closing
  refine ⟨tail, more, ?_⟩
  rw [Record.members, Reader.bind_of_ok (Reader.moreMembers_of_leads leads), if_pos rfl,
    Reader.bind_of_ok key, lookup]
  simp only [unseen, Bool.false_eq_true, if_false]
  rw [Reader.bind_of_ok colon, Reader.bind_of_ok reads]

/-- The value of an unknown key is skipped, and the draft stays as it is. -/
theorem members_unknown {other : String} {kinds : List Texts} {first : Bool} {text : List Char}
    {seen : List String} (unknown : ∀ slot ∈ slots, slot.name ≠ other)
    (series : Series first (memberTexts other anyValues :: kinds) text) (steps : Nat)
    (rest : List Char) :
    ∃ tail, Series false kinds tail ∧
      r.members (steps + 1) first (draft seen) (text ++ '\x7d' :: rest) =
        r.members steps false (draft seen) (tail ++ '\x7d' :: rest) := by
  have closing : Delimited ('\x7d' :: rest) := delimited_cons (.inr (.inr rfl))
  obtain ⟨quoted, keyed, content, tail, more, leads, key, colon, skipped⟩ :=
    series.member reads_skipValue closing
  refine ⟨tail, more, ?_⟩
  rw [Record.members, Reader.bind_of_ok (Reader.moreMembers_of_leads leads), if_pos rfl,
    Reader.bind_of_ok key, find?_of_unknown fills.fits unknown]
  simp only
  rw [Reader.bind_of_ok colon, Reader.bind_of_ok skipped]

/-- All fields among the members are read into the draft. -/
theorem members_of_series {entries : List Entry} {first : Bool} {text : List Char} {steps : Nat}
    {seen : List String} (known : ∀ slot, .field slot ∈ entries → slot ∈ slots)
    (unknown : ∀ key, .unknown key ∈ entries → ∀ slot ∈ slots, slot.name ≠ key)
    (once : (entries.filterMap Entry.fieldName?).Nodup)
    (fresh : ∀ slot, .field slot ∈ entries → slot.name ∉ seen)
    (series : Series first (entries.map Entry.texts) text) (enough : entries.length < steps)
    (rest : List Char) :
    r.members steps first (draft seen) (text ++ '\x7d' :: rest) =
      .ok (draft ((entries.filterMap Entry.fieldName?).reverse ++ seen), '\x7d' :: rest) := by
  induction entries generalizing first text steps seen with
  | nil =>
    cases steps with
    | zero => exact absurd enough (Nat.not_lt_zero _)
    | succ steps =>
      rw [Record.members, Reader.bind_of_ok (Reader.moreMembers_of_close (series.closes rfl))]
      rfl
  | cons entry entries ih =>
    cases steps with
    | zero => exact absurd enough (Nat.not_lt_zero _)
    | succ steps =>
      have enoughLeft : entries.length < steps := Nat.lt_of_succ_lt_succ enough
      have knownLater : ∀ slot, .field slot ∈ entries → slot ∈ slots :=
        fun slot mem => known slot (List.mem_cons_of_mem _ mem)
      have unknownLater : ∀ key, .unknown key ∈ entries → ∀ slot ∈ slots, slot.name ≠ key :=
        fun key mem => unknown key (List.mem_cons_of_mem _ mem)
      cases entry with
      | field slot =>
        obtain ⟨onceOnly, onceLater⟩ := List.nodup_cons.mp once
        have freshLater : ∀ later, .field later ∈ entries → later.name ∉ slot.name :: seen := by
          intro later mem again
          rcases List.mem_cons.mp again with same | old
          · apply onceOnly
            exact List.mem_filterMap.mpr ⟨.field later, mem, by rw [← same]; rfl⟩
          · exact fresh later (List.mem_cons_of_mem _ mem) old
        obtain ⟨tail, more, step⟩ := members_field fills (known slot List.mem_cons_self)
          (fresh slot List.mem_cons_self) series steps rest
        rw [step, ih knownLater unknownLater onceLater freshLater more enoughLeft]
        simp [Entry.fieldName?]
      | unknown other =>
        have freshLater : ∀ later, .field later ∈ entries → later.name ∉ seen :=
          fun later mem => fresh later (List.mem_cons_of_mem _ mem)
        obtain ⟨tail, more, step⟩ :=
          members_unknown fills (unknown other List.mem_cons_self) series steps rest
        rw [step]
        exact ih knownLater unknownLater once freshLater more enoughLeft

omit fills in
/-- Items are read into the draft in the order of the fields, until there are no more. -/
theorem elements_of_series {fields : List (Field δ)} {count : Nat} {text : List Char}
    (index : Nat) (seen : List String) (fits : List.Forall₂ (Fits draft) fields slots)
    (omitted : ∀ slot ∈ slots.drop count, slot.omittable)
    (series : Series (index = 0) ((slots.take count).map Slot.texts) text) (rest : List Char) :
    ∃ left, r.elements fields index (draft seen) (text ++ ']' :: rest) =
        .ok (draft (((slots.take count).map Slot.name).reverse ++ seen), left) ∧
      afterBlanks left = ']' :: rest := by
  induction fits generalizing count index text seen with
  | nil =>
    rw [List.take_nil] at series ⊢
    exact ⟨text ++ ']' :: rest, rfl, series.closes rfl⟩
  | @cons field slot fields slots fit fits ih =>
    cases count with
    | zero =>
      have noneRequired : (field :: fields).findIdx? (·.required) = none := by
        refine List.findIdx?_eq_none_iff.mpr fun other mem => ?_
        obtain ⟨s, inside, fitting⟩ := exists_fit (.cons fit fits) mem
        cases needed : other.required with
        | false => rfl
        | true => exact absurd (omitted s inside) (fitting.required needed)
      refine ⟨']' :: rest, ?_, afterBlanks_cons rfl⟩
      rw [Record.elements, Reader.bind_of_ok (Reader.moreItems_of_close (series.closes rfl)),
        noneRequired]
      rfl
    | succ count =>
      have closing : Delimited (']' :: rest) := delimited_cons (.inr (.inl rfl))
      obtain ⟨here, tail, more, goesOn, reads⟩ := series.item (fit.reads seen) closing
      have onward : Series (index + 1 = 0) ((slots.take count).map Slot.texts) tail := by
        simpa using more
      obtain ⟨left, read, closes⟩ := ih (index + 1) (slot.name :: seen) omitted onward
      refine ⟨left, ?_, closes⟩
      rw [Record.elements, Reader.bind_of_ok goesOn, if_pos rfl, Reader.bind_of_ok reads, read]
      simp

theorem reads_recordObjects : Reads r.read (recordObjects slots) value := by
  refine Reads.exists_mem fun entries gives => ?_
  refine reads_bracketed fun inside series cs rest found => ?_
  simp only [Bracket.opening, Bracket.closing] at found
  have enough : entries.length < (inside ++ '\x7d' :: rest).length + 1 := by
    simpa using series.lt_steps '\x7d' rest
  have read := members_of_series fills gives.known gives.unknown gives.once
    (fun _ _ => List.not_mem_nil) series enough rest
  have all : ∀ slot ∈ slots, slot.name ∈ (entries.filterMap Entry.fieldName?).reverse ++ [] ∨
      slot.omittable := by
    intro slot mem
    rcases gives.complete slot mem with given | omittable
    · have named : slot.name ∈ entries.filterMap Entry.fieldName? :=
        List.mem_filterMap.mpr ⟨.field slot, given, rfl⟩
      exact .inl (List.mem_append_left _ (List.mem_reverse.mpr named))
    · exact .inr omittable
  rw [fills.blank] at read
  rw [Record.read, Reader.startingWith_of_cons found rfl,
    Reader.bind_of_ok (Reader.advance_cons _ _), Reader.get_bind, Reader.bind_of_ok read,
    Reader.bind_of_ok (finished_of_seen fills all _),
    Reader.bind_of_ok (Reader.closeObject_of_close (afterBlanks_cons rfl))]
  rfl

theorem reads_recordLists : Reads r.read (recordLists slots) value := by
  refine Reads.exists_mem fun count omitted => ?_
  refine reads_bracketed fun inside series cs rest found => ?_
  simp only [Bracket.opening, Bracket.closing] at found
  obtain ⟨left, read, closes⟩ :=
    elements_of_series (r := r) 0 [] fills.fits omitted series rest
  have all : ∀ slot ∈ slots, slot.name ∈ ((slots.take count).map Slot.name).reverse ++ [] ∨
      slot.omittable := by
    intro slot mem
    rw [← List.take_append_drop count slots] at mem
    rcases List.mem_append.mp mem with given | dropped
    · have named : slot.name ∈ (slots.take count).map Slot.name := List.mem_map_of_mem given
      exact .inl (List.mem_append_left _ (List.mem_reverse.mpr named))
    · exact .inr (omitted slot dropped)
  rw [fills.blank] at read
  rw [Record.read, Reader.startingWith_of_cons found rfl,
    Reader.bind_of_ok (Reader.advance_cons _ _), Reader.bind_of_ok read,
    Reader.bind_of_ok (finished_of_seen fills all _),
    Reader.bind_of_ok (Reader.closeList_of_close closes)]
  rfl

/-- A record is read from each of its spellings. -/
theorem reads_record : Reads r.read (recordTexts slots) value :=
  (reads_recordObjects fills).union (reads_recordLists fills)

end Records
end OpticsCheck.Json
