import OpticsCheck.Proofs.Json.RecordPrefixes
import OpticsCheck.Topology.Document

/-!
# Documents that were cut off

A topology is read up to a closing bracket, and behind that only blanks may come. So a document from
which more than blanks were cut off is refused, however many of its fields could be left out, and
blanks behind a document make no difference.
-/

namespace OpticsCheck

open Json (Field Reader blanks)

section Fields

variable {δ β : Type} {follow : List Char → Prop}

theorem Json.Field.steady_of {name : String} {required : Bool} {get : δ → Option β}
    {put : δ → β → δ} {value : Reader β} (steady : value.Steady follow) (draft : δ) :
    ((Field.of name required get put value).read draft).Steady follow :=
  steady.bind fun v => .pure (put draft v)

theorem steady_text : Reader.text.Steady follow :=
  (Reader.sealed_string "a string").steady follow

theorem steady_optionalText : (Reader.optional Reader.text).Steady follow :=
  Reader.steady_optional steady_text nofun

/-- A number is read to its end where anything is left behind it. -/
theorem steady_binary64_of_left : Reader.binary64.Steady fun _ => False :=
  Reader.steady_binary64.mono fun _ => False.elim

theorem steady_optionalBinary64 : (Reader.optional Reader.binary64).Steady fun _ => False :=
  Reader.steady_optional steady_binary64_of_left nofun

end Fields

theorem InterfaceSpec.sealed_read : InterfaceSpec.record.read.Sealed := by
  refine Json.Record.sealed_read _ fun field mem draft => ?_
  simp only [record, List.mem_cons, List.not_mem_nil, or_false] at mem
  rcases mem with rfl | rfl
  · exact Field.steady_of steady_text draft
  · exact Field.steady_of (Reader.sealed_boolean.steady _) draft

theorem ChannelSpec.sealed_read : ChannelSpec.record.read.Sealed := by
  refine Json.Record.sealed_read _ fun field mem draft => ?_
  simp only [record, List.mem_cons, List.not_mem_nil, or_false] at mem
  rcases mem with rfl | rfl | rfl
  · exact Field.steady_of steady_optionalBinary64 draft
  · exact Field.steady_of steady_optionalBinary64 draft
  · exact Field.steady_of steady_optionalBinary64 draft

theorem ComponentSpec.sealed_read : ComponentSpec.record.read.Sealed := by
  refine Json.Record.sealed_read _ fun field mem draft => ?_
  simp only [record, List.mem_cons, List.not_mem_nil, or_false] at mem
  rcases mem with rfl | rfl | rfl | rfl | rfl | rfl
  · exact Field.steady_of steady_text draft
  · exact Field.steady_of ((Reader.sealed_keyword _).steady _) draft
  · exact Field.steady_of steady_optionalText draft
  · exact Field.steady_of steady_optionalText draft
  · exact Field.steady_of ((Reader.sealed_list (ChannelSpec.sealed_read.steady _)).steady _) draft
  · exact Field.steady_of steady_binary64_of_left draft

namespace Topology

theorem sealed_read : Topology.record.read.Sealed := by
  refine Json.Record.sealed_read _ fun field mem draft => ?_
  simp only [record, List.mem_cons, List.not_mem_nil, or_false] at mem
  rcases mem with rfl | rfl | rfl | rfl | rfl | rfl | rfl
  · exact Field.steady_of steady_text draft
  · exact Field.steady_of steady_text draft
  · exact Field.steady_of ((Reader.sealed_keyword _).steady _) draft
  · exact Field.steady_of ((Reader.sealed_map steady_text _ _).steady _) draft
  · exact Field.steady_of ((Reader.sealed_list (InterfaceSpec.sealed_read.steady _)).steady _) draft
  · exact Field.steady_of ((Reader.sealed_list (ComponentSpec.sealed_read.steady _)).steady _) draft
  · exact Field.steady_of (Reader.steady_word64.mono fun _ => False.elim) draft

theorem ofDocument_eq_ok_iff {text : String} {t : Topology} :
    ofDocument text = .ok t ↔ read text = .ok t ∧ t.validate = .ok () := by
  unfold ofDocument
  cases read text with
  | error problem => simp
  | ok u =>
    simp only [Except.ok.injEq]
    split
    case h_1 valid =>
      constructor
      · rintro ⟨⟩
        exact ⟨rfl, valid⟩
      · rintro ⟨rfl, -⟩
        rfl
    case h_2 dangling invalid =>
      simp only [reduceCtorEq, false_iff, not_and]
      rintro rfl
      simp [invalid]

theorem append_mem_blanks_iff {before after : List Char} :
    before ++ after ∈ blanks ↔ before ∈ blanks ∧ after ∈ blanks :=
  List.forall_mem_append

theorem read_append_iff {text : String} {t : Topology} (accepted : read text = .ok t)
    (more : String) (u : Topology) :
    read (text ++ more) = .ok u ↔ more.toList ∈ blanks ∧ u = t := by
  obtain ⟨left, blank, done⟩ := Reader.readAll_eq_ok_iff.mp accepted
  have longer : Topology.record.read (text ++ more).toList = .ok (t, left ++ more.toList) := by
    rw [String.toList_append]
    exact (sealed_read text.toList more.toList t left done).2 fun _ => trivial
  unfold read
  rw [Reader.readAll_eq_ok_iff, longer]
  constructor
  · rintro ⟨after, blankAfter, same⟩
    cases same
    exact ⟨(append_mem_blanks_iff.mp blankAfter).2, rfl⟩
  · rintro ⟨blankMore, rfl⟩
    exact ⟨_, append_mem_blanks_iff.mpr ⟨blank, blankMore⟩, rfl⟩

/-- Behind a document that is accepted only blanks may come, and they do not change what it is read
as. Cutting off anything else than blanks at its end leaves a text that is refused. -/
theorem accepted_whole {text : String} {t : Topology} (accepted : ofDocument text = .ok t) :
    (∀ more u, ofDocument (text ++ more) = .ok u ↔ more.toList ∈ blanks ∧ u = t) ∧
    ∀ kept cut, text = kept ++ cut → cut.toList ∉ blanks →
      ∃ refusal, ofDocument kept = .error refusal := by
  obtain ⟨read, valid⟩ := ofDocument_eq_ok_iff.mp accepted
  constructor
  · intro more u
    rw [ofDocument_eq_ok_iff, read_append_iff read]
    constructor
    · exact And.left
    · rintro ⟨blank, rfl⟩
      exact ⟨⟨blank, rfl⟩, valid⟩
  · rintro kept cut rfl notBlank
    cases early : ofDocument kept with
    | error refusal => exact ⟨refusal, rfl⟩
    | ok u =>
      obtain ⟨readEarly, -⟩ := ofDocument_eq_ok_iff.mp early
      exact absurd ((read_append_iff readEarly cut t).mp read).1 notBlank

/-- A topology with all of its fields in a list, the last a number. -/
def listedDocument : String := "[\"dut\",\"m\",\"CISCO\",\x7b\x7d,[],[],12]"

/-- A shorter number would do as well, and so would none, but the list was not closed. -/
theorem accepted_whole_of_listed :
    let listed : Topology := { name := "dut", model := "m", vendor := .cisco, settleTime := 12 }
    ofDocument listedDocument = .ok listed ∧
    ofDocument (listedDocument ++ "\n\t ") = .ok listed ∧
    (∃ refusal, ofDocument "[\"dut\",\"m\",\"CISCO\",\x7b\x7d,[],[],1" = .error refusal) ∧
    ∃ refusal, ofDocument "[\"dut\",\"m\",\"CISCO\",\x7b\x7d,[],[]" = .error refusal := by
  intro listed
  have accepted : ofDocument listedDocument = .ok listed := by decide +kernel
  obtain ⟨extended, cutOff⟩ := accepted_whole accepted
  refine ⟨accepted, (extended _ _).mpr ⟨?_, rfl⟩, cutOff _ "2]" ?_ ?_, cutOff _ ",12]" ?_ ?_⟩
  · simp [blanks, Json.isBlank]
  · decide
  · simp [blanks, Json.isBlank]
  · decide
  · simp [blanks, Json.isBlank]

end Topology
end OpticsCheck
