import OpticsCheck.Proofs.Json.Skipping

/-!
# Reading lists, maps and keywords

What stands between two brackets is a series of texts with commas and blanks between them. Whether
the texts are items or members, passing a comma and the blanks leads to the next one, so a list is
read from any list of texts that its items are read from, and a map likewise.
-/

namespace OpticsCheck.Json

/-- One text of each kind in turn, with blanks anywhere between and a comma before each, except
before the first of all. -/
inductive Series : (first : Bool) → List Texts → List Char → Prop
  | done {first : Bool} {before : List Char} (blank : before ∈ blanks) : Series first [] before
  | head {kind : Texts} {kinds : List Texts} {item tail : List Char} (mem : item ∈ spaced kind)
      (more : Series false kinds tail) : Series true (kind :: kinds) (item ++ tail)
  | next {kind : Texts} {kinds : List Texts} {before item tail : List Char}
      (blank : before ∈ blanks) (mem : item ∈ spaced kind) (more : Series false kinds tail) :
      Series false (kind :: kinds) (before ++ ',' :: (item ++ tail))

/-- A list or an object of one text of each kind. -/
def bracketed (b : Bracket) (kinds : List Texts) : Texts :=
  {text | ∃ inside, Series true kinds inside ∧ text = b.opening :: (inside ++ [b.closing])}

/-- A member of an object. -/
def memberTexts (key : String) (value : Texts) : Texts :=
  {text | ∃ name ∈ stringTexts key, ∃ before ∈ blanks, ∃ content ∈ spaced value,
    text = name ++ (before ++ ':' :: content)}

section Series

variable {first : Bool} {kind : Texts} {kinds : List Texts} {text rest : List Char}

/-- Each text but the first of all has a comma of its own. -/
theorem Series.length_le (series : Series first kinds text) :
    kinds.length ≤ text.length + first.toNat := by
  induction series with
  | done => exact Nat.zero_le _
  | head mem more ih =>
    simp only [List.length_cons, List.length_append, Bool.toNat_true, Bool.toNat_false] at ih ⊢
    omega
  | next blank mem more ih =>
    simp only [List.length_cons, List.length_append, Bool.toNat_false] at ih ⊢
    omega

theorem Series.delimited (series : Series false kinds text) (delimited : Delimited rest) :
    Delimited (text ++ rest) := by
  cases series with
  | done blank => exact delimited_of_blanks blank delimited
  | next blank mem more =>
    rw [List.append_assoc]
    exact delimited_of_blanks blank (delimited_cons (.inl rfl))

/-- Past the blanks, and the comma unless nothing came before, the text goes on as `target`. -/
def Leads (first : Bool) (cs target : List Char) : Prop :=
  if first then afterBlanks cs = target
  else ∃ more, afterBlanks cs = ',' :: more ∧ afterBlanks more = target

theorem Series.leads (solid : ∀ item ∈ kind, afterBlanks item ≠ [])
    (series : Series first (kind :: kinds) text) (rest : List Char) :
    ∃ item ∈ kind, ∃ tail, Series false kinds tail ∧
      Leads first (text ++ rest) (afterBlanks item ++ (tail ++ rest)) := by
  have standing : ∀ {spread : List Char}, spread ∈ spaced kind → ∃ item ∈ kind,
      ∀ tail, afterBlanks (spread ++ (tail ++ rest)) = afterBlanks item ++ (tail ++ rest) := by
    rintro spread ⟨before, blank, item, mem, rfl⟩
    refine ⟨item, mem, fun tail => ?_⟩
    rw [List.append_assoc, afterBlanks_of_blanks blank]
    exact afterBlanks_append_of_solid (solid item mem) _
  cases series with
  | @head _ _ _ tail mem more =>
    obtain ⟨item, inner, stands⟩ := standing mem
    refine ⟨item, inner, tail, more, ?_⟩
    rw [List.append_assoc]
    exact stands tail
  | @next _ _ before _ tail blank mem more =>
    obtain ⟨item, inner, stands⟩ := standing mem
    refine ⟨item, inner, tail, more, _, ?_, stands tail⟩
    rw [List.append_assoc, List.cons_append, afterBlanks_gap blank rfl, List.append_assoc]

theorem Series.closes {c : Char} (solid : isBlank c = false) (series : Series first [] text) :
    afterBlanks (text ++ c :: rest) = c :: rest := by
  cases series with
  | done blank => exact afterBlanks_gap blank solid

end Series

namespace Reader

variable {first : Bool} {c : Char} {cs more : List Char}

theorem advance_cons (c : Char) (cs : List Char) : advance (c :: cs) = .ok ((), cs) := rfl

theorem moreItems_of_leads (leads : Leads first cs (c :: more)) (notClosed : c ≠ ']') :
    moreItems first cs = .ok (true, c :: more) := by
  cases first with
  | true =>
    rw [moreItems, bind_of_ok (peek_of_cons leads)]
    simp only [if_true]
    rfl
  | false =>
    obtain ⟨between, comma, found⟩ := leads
    rw [moreItems, bind_of_ok (peek_of_cons comma)]
    show (advance >>= fun _ => peek >>= _) (',' :: between) = _
    rw [bind_of_ok (advance_cons _ _), bind_of_ok (peek_of_cons found)]
    simp only
    rfl

theorem moreItems_of_close (found : afterBlanks cs = ']' :: more) :
    moreItems first cs = .ok (false, ']' :: more) := by
  rw [moreItems, bind_of_ok (peek_of_cons found)]
  rfl

theorem moreMembers_of_leads (leads : Leads first cs ('"' :: more)) :
    moreMembers first cs = .ok (true, '"' :: more) := by
  cases first with
  | true =>
    rw [moreMembers, bind_of_ok (peek_of_cons leads)]
    rfl
  | false =>
    obtain ⟨between, comma, found⟩ := leads
    rw [moreMembers, bind_of_ok (peek_of_cons comma)]
    show (advance >>= fun _ => peek >>= _) (',' :: between) = _
    rw [bind_of_ok (advance_cons _ _), bind_of_ok (peek_of_cons found)]
    rfl

theorem moreMembers_of_close (found : afterBlanks cs = '\x7d' :: more) :
    moreMembers first cs = .ok (false, '\x7d' :: more) := by
  rw [moreMembers, bind_of_ok (peek_of_cons found)]
  rfl

theorem closeList_of_close (found : afterBlanks cs = ']' :: more) :
    closeList cs = .ok ((), more) := by
  rw [closeList, bind_of_ok (peek_of_cons found)]
  rfl

theorem closeObject_of_close (found : afterBlanks cs = '\x7d' :: more) :
    closeObject cs = .ok ((), more) := by
  rw [closeObject, bind_of_ok (peek_of_cons found)]
  rfl

theorem colon_of_cons (found : afterBlanks cs = ':' :: more) : colon cs = .ok ((), more) := by
  rw [colon, bind_of_ok (peek_of_cons found)]
  rfl

end Reader

section Next

variable {α : Type} {reader : Reader α} {value : α} {first : Bool} {kind : Texts}
  {kinds : List Texts} {text rest : List Char}

/-- An item is read and the series goes on behind it. -/
theorem Series.item (series : Series first (kind :: kinds) text) (reads : Reads reader kind value)
    (delimited : Delimited rest) :
    ∃ here tail, Series false kinds tail ∧ Reader.moreItems first (text ++ rest) = .ok (true, here) ∧
      reader here = .ok (value, tail ++ rest) := by
  obtain ⟨item, mem, tail, more, leads⟩ := series.leads (fun _ => reads.solid) rest
  obtain ⟨c, head, notClosed⟩ := reads.starts item mem
  obtain ⟨others, begins⟩ := List.head?_eq_some_iff.mp head
  refine ⟨afterBlanks item ++ (tail ++ rest), tail, more, ?_, ?_⟩
  · rw [begins] at leads ⊢
    exact Reader.moreItems_of_leads leads notClosed
  · exact reads.reads_solid mem (more.delimited delimited)

/-- A member's key and colon are passed, its value is read and the series goes on behind it. -/
theorem Series.member {key : String} (series : Series first (memberTexts key kind :: kinds) text)
    (reads : Reads reader kind value) (delimited : Delimited rest) :
    ∃ quoted keyed content tail, Series false kinds tail ∧ Leads first (text ++ rest) ('"' :: quoted) ∧
      Reader.quotedString ('"' :: quoted) = .ok (key, keyed) ∧ Reader.colon keyed = .ok ((), content) ∧
      reader content = .ok (value, tail ++ rest) := by
  have begins : ∀ item ∈ memberTexts key kind, ∃ body ∈ bodyTexts key.toList, ∃ before ∈ blanks,
      ∃ content ∈ spaced kind, item = '"' :: (body ++ '"' :: (before ++ ':' :: content)) := by
    rintro _ ⟨_, ⟨body, written, rfl⟩, before, blank, content, inner, rfl⟩
    exact ⟨body, written, before, blank, content, inner, by simp⟩
  have solid : ∀ item ∈ memberTexts key kind, afterBlanks item ≠ [] := by
    intro item mem
    obtain ⟨body, -, before, -, content, -, rfl⟩ := begins item mem
    rw [afterBlanks_cons rfl]
    exact List.cons_ne_nil _ _
  obtain ⟨item, mem, tail, more, leads⟩ := series.leads solid rest
  obtain ⟨body, written, before, blank, content, inner, rfl⟩ := begins item mem
  rw [afterBlanks_cons rfl] at leads
  have shape : '"' :: (body ++ '"' :: (before ++ ':' :: content)) ++ (tail ++ rest) =
      '"' :: (body ++ '"' :: (before ++ ':' :: (content ++ (tail ++ rest)))) := by
    simp
  rw [shape] at leads
  refine ⟨_, _, _, tail, more, leads, quotedString_of_body written _,
    Reader.colon_of_cons (afterBlanks_gap blank rfl), ?_⟩
  exact reads.spaced.reads content inner _ _
    (afterBlanks_append_of_solid (reads.spaced.solid inner) _) (more.delimited delimited)

/-- A reader that goes on from the opening bracket is run on any series before the closing one. -/
theorem reads_bracketed {b : Bracket} (reads : ∀ inside, Series true kinds inside →
      ∀ cs rest, afterBlanks cs = b.opening :: (inside ++ b.closing :: rest) →
        reader cs = .ok (value, rest)) :
    Reads reader (bracketed b kinds) value := by
  refine Reads.of_cons b.solid_opening (by cases b <;> decide) ?_ ?_
  · rintro text ⟨inside, -, rfl⟩
    exact ⟨_, rfl⟩
  · rintro more ⟨inside, series, same⟩ cs rest found -
    cases same
    rw [List.append_assoc] at found
    exact reads inside series cs rest found

/-- There is a step for each text of a series and one for its end. -/
theorem Series.lt_steps {inside : List Char} (series : Series true kinds inside) (c : Char)
    (rest : List Char) : kinds.length < (inside ++ c :: rest).length + 1 := by
  have counted := series.length_le
  simp only [List.length_append, List.length_cons, Bool.toNat_true] at counted ⊢
  omega

end Next

/-! ### Lists -/

section Lists

variable {α : Type} {item : Reader α} {kind : α → Texts} {values : List α}

theorem items_of_series {first : Bool} {text : List Char} {steps : Nat}
    (each : ∀ value ∈ values, Reads item (kind value) value)
    (series : Series first (values.map kind) text) (enough : values.length < steps)
    (rest : List Char) :
    Reader.items item steps first (text ++ ']' :: rest) = .ok (values, ']' :: rest) := by
  induction values generalizing first text steps with
  | nil =>
    cases steps with
    | zero => exact absurd enough (Nat.not_lt_zero _)
    | succ steps =>
      rw [Reader.items, Reader.bind_of_ok (Reader.moreItems_of_close (series.closes rfl))]
      rfl
  | cons value values ih =>
    cases steps with
    | zero => exact absurd enough (Nat.not_lt_zero _)
    | succ steps =>
      have closing : Delimited (']' :: rest) := delimited_cons (.inr (.inl rfl))
      obtain ⟨here, tail, more, goesOn, reads⟩ :=
        series.item (each value List.mem_cons_self) closing
      have others := ih (fun v mem => each v (List.mem_cons_of_mem _ mem)) more
        (Nat.lt_of_succ_lt_succ enough)
      rw [Reader.items, Reader.bind_of_ok goesOn, if_pos rfl, Reader.bind_of_ok reads,
        Reader.bind_of_ok others]
      rfl

theorem reads_list (each : ∀ value ∈ values, Reads item (kind value) value) :
    Reads (Reader.list item) (bracketed .list (values.map kind)) values := by
  refine reads_bracketed fun inside series cs rest found => ?_
  simp only [Bracket.opening, Bracket.closing] at found
  have enough : values.length < (inside ++ ']' :: rest).length + 1 := by
    simpa using series.lt_steps ']' rest
  have all := items_of_series each series enough rest
  rw [Reader.list, Reader.startingWith_of_cons found (if_pos rfl),
    Reader.bind_of_ok (Reader.advance_cons _ _), Reader.get_bind, Reader.bind_of_ok all,
    Reader.bind_of_ok (Reader.closeList_of_close (afterBlanks_cons rfl))]
  rfl

end Lists

/-! ### Maps -/

section Maps

variable {α β : Type} {reader : Reader α} {kind : α → Texts} {entries : List (String × α)}
  (add : β → String → α → β)

theorem entries_of_series {first : Bool} {text : List Char} {steps : Nat} (map : β)
    (each : ∀ entry ∈ entries, Reads reader (kind entry.2) entry.2)
    (series : Series first (entries.map fun entry => memberTexts entry.1 (kind entry.2)) text)
    (enough : entries.length < steps) (rest : List Char) :
    Reader.entries reader add steps first map (text ++ '\x7d' :: rest) =
      .ok (entries.foldl (fun map entry => add map entry.1 entry.2) map, '\x7d' :: rest) := by
  induction entries generalizing first text steps map with
  | nil =>
    cases steps with
    | zero => exact absurd enough (Nat.not_lt_zero _)
    | succ steps =>
      rw [Reader.entries, Reader.bind_of_ok (Reader.moreMembers_of_close (series.closes rfl))]
      rfl
  | cons entry entries ih =>
    cases steps with
    | zero => exact absurd enough (Nat.not_lt_zero _)
    | succ steps =>
      have closing : Delimited ('\x7d' :: rest) := delimited_cons (.inr (.inr rfl))
      obtain ⟨quoted, keyed, content, tail, more, leads, key, colon, reads⟩ :=
        series.member (each entry List.mem_cons_self) closing
      rw [Reader.entries, Reader.bind_of_ok (Reader.moreMembers_of_leads leads), if_pos rfl,
        Reader.bind_of_ok key, Reader.bind_of_ok colon, Reader.bind_of_ok reads]
      exact ih _ (fun e mem => each e (List.mem_cons_of_mem _ mem)) more
        (Nat.lt_of_succ_lt_succ enough)

theorem reads_map (empty : β) (each : ∀ entry ∈ entries, Reads reader (kind entry.2) entry.2) :
    Reads (Reader.map reader empty add)
      (bracketed .object (entries.map fun entry => memberTexts entry.1 (kind entry.2)))
      (entries.foldl (fun map entry => add map entry.1 entry.2) empty) := by
  refine reads_bracketed fun inside series cs rest found => ?_
  simp only [Bracket.opening, Bracket.closing] at found
  have enough : entries.length < (inside ++ '\x7d' :: rest).length + 1 := by
    simpa using series.lt_steps '\x7d' rest
  have all := entries_of_series add empty each series enough rest
  rw [Reader.map, Reader.startingWith_of_cons found (if_pos rfl),
    Reader.bind_of_ok (Reader.advance_cons _ _), Reader.get_bind, Reader.bind_of_ok all,
    Reader.bind_of_ok (Reader.closeObject_of_close (afterBlanks_cons rfl))]
  rfl

end Maps

/-! ### Words and keywords -/

def nullTexts : Texts := {['n', 'u', 'l', 'l']}

def booleanTexts : Bool → Texts
  | true => {['t', 'r', 'u', 'e']}
  | false => {['f', 'a', 'l', 's', 'e']}

/-- A word that a reader knows by its first letter. -/
theorem reads_word {α : Type} {reader : Reader α} {value : α} {c : Char} {letters : List Char}
    (solid : isBlank c = false) (opens : c ≠ ']')
    (reads : ∀ cs rest, afterBlanks cs = c :: (letters ++ rest) → reader cs = .ok (value, rest)) :
    Reads reader {c :: letters} value := by
  refine Reads.of_cons solid opens ?_ ?_
  · rintro _ rfl
    exact ⟨letters, rfl⟩
  · rintro _ ⟨⟩ cs rest found -
    exact reads cs rest found

theorem reads_null : Reads Reader.null nullTexts () := by
  refine reads_word rfl (by decide) fun cs rest found => ?_
  rw [Reader.null, Reader.startingWith_of_cons found (if_pos rfl)]
  exact Reader.word_append ['n', 'u', 'l', 'l'] rest

theorem reads_boolean (b : Bool) : Reads Reader.boolean (booleanTexts b) b := by
  cases b with
  | true =>
    refine reads_word rfl (by decide) fun cs rest found => ?_
    rw [Reader.boolean, Reader.startingWith_of_cons found (if_pos rfl)]
    exact Reader.bind_of_ok (Reader.word_append ['t', 'r', 'u', 'e'] rest)
  | false =>
    refine reads_word rfl (by decide) fun cs rest found => ?_
    rw [Reader.boolean, Reader.startingWith_of_cons found rfl]
    exact Reader.bind_of_ok (Reader.word_append ['f', 'a', 'l', 's', 'e'] rest)

section Options

variable {α : Type} {reader : Reader α} {kind : α → Texts}

/-- A value, or `null` where there is none. -/
def optionTexts (kind : α → Texts) : Option α → Texts
  | none => nullTexts
  | some value => kind value

theorem reads_optional {value : Option α} (each : ∀ v ∈ value, Reads reader (kind v) v)
    (notNull : ∀ v ∈ value, ∀ text ∈ kind v, 'n' ∉ (afterBlanks text).head?) :
    Reads (Reader.optional reader) (optionTexts kind value) value := by
  cases value with
  | none =>
    refine reads_word rfl (by decide) fun cs rest found => ?_
    rw [Reader.optional, Reader.bind_of_ok (Reader.peek_of_cons found)]
    exact Reader.bind_of_ok (Reader.word_append ['n', 'u', 'l', 'l'] rest)
  | some v =>
    have reads := each v rfl
    refine ⟨reads.starts, fun text mem cs rest found delimited => ?_⟩
    have noNull := notNull v rfl text mem
    have read := reads.reads_solid mem delimited
    cases begins : afterBlanks text with
    | nil => exact absurd begins (reads.solid mem)
    | cons c more =>
      rw [begins] at found noNull read
      rw [Reader.optional, Reader.bind_of_ok (Reader.peek_of_cons found)]
      generalize seen : some c = first
      split
      · cases seen
        exact absurd rfl noNull
      · exact Reader.map_of_ok some read

end Options

/-- A keyword as a string, or as the key of an object whose only value is `null`. -/
def keywordTexts (keyword : String) : Texts :=
  stringTexts keyword ∪ bracketed .object [memberTexts keyword nullTexts]

theorem reads_keyword {α : Type} {known : List (String × α)} {keyword : String} {value : α}
    (found : known.lookup keyword = some value) :
    Reads (Reader.keyword known) (keywordTexts keyword) value := by
  have keywordIn : ∀ rest, Reader.keywordIn known keyword rest = .ok (value, rest) := by
    intro rest
    rw [Reader.keywordIn, found]
    rfl
  refine Reads.union ?_ ?_
  · refine Reads.of_cons (c := '"') rfl (by decide) ?_ ?_
    · rintro text ⟨body, -, rfl⟩
      exact ⟨_, rfl⟩
    · rintro more ⟨body, written, same⟩ cs rest found -
      cases same
      rw [List.append_assoc] at found
      rw [Reader.keyword, Reader.bind_of_ok (Reader.peek_of_cons found)]
      show (Reader.quotedString >>= _) ('"' :: (body ++ '"' :: rest)) = _
      rw [Reader.bind_of_ok (quotedString_of_body written rest)]
      exact keywordIn rest
  · refine reads_bracketed fun inside series cs rest found => ?_
    have closing : Delimited ('\x7d' :: rest) := delimited_cons (.inr (.inr rfl))
    obtain ⟨quoted, keyed, content, tail, more, leads, key, colon, null⟩ :=
      series.member reads_null closing
    have closes : Reader.peek (tail ++ '\x7d' :: rest) = .ok (some '\x7d', '\x7d' :: rest) :=
      Reader.peek_of_cons (more.closes rfl)
    have onlyKey : Reader.onlyKey (inside ++ '\x7d' :: rest) = .ok (keyword, keyed) := by
      rw [Reader.onlyKey, Reader.bind_of_ok (Reader.peek_of_cons leads)]
      exact key
    rw [Reader.keyword, Reader.bind_of_ok (Reader.peek_of_cons found)]
    show (Reader.advance >>= fun _ => Reader.onlyKey >>= _) ('\x7b' :: (inside ++ '\x7d' :: rest)) = _
    rw [Reader.bind_of_ok (Reader.advance_cons _ _), Reader.bind_of_ok onlyKey,
      Reader.bind_of_ok (keywordIn _), Reader.bind_of_ok colon, Reader.bind_of_ok null,
      Reader.bind_of_ok closes]
    rfl

end OpticsCheck.Json
