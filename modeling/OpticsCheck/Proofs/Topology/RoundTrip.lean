import Mathlib.Data.List.Forall2
import OpticsCheck.Proofs.Text.Lines
import OpticsCheck.Proofs.Topology.Spelling

/-!
# Writing a topology and reading it back

What is written for a topology is one of its spellings, the one with all fields in their order and
no blanks, so it is read back as the same topology. The numbers have to be finite, and the reader's
rounding has to give each of them back.
-/

namespace OpticsCheck

open Json

/-! ### Written values are spellings -/

theorem series_intercalate {parts : List (List Char)} {kinds : List Texts}
    (each : List.Forall₂ (· ∈ ·) parts kinds) : Series true kinds ([','].intercalate parts) := by
  have behind : ∀ {parts : List (List Char)} {kinds : List Texts},
      List.Forall₂ (· ∈ ·) parts kinds → Series false kinds (parts.flatMap (',' :: ·)) := by
    intro parts kinds each
    induction each with
    | nil => exact .done nil_mem_blanks
    | cons mem _ ih => exact .next nil_mem_blanks (mem_spaced mem) ih
  cases each with
  | nil => exact .done nil_mem_blanks
  | cons mem others =>
    rw [intercalate_cons]
    exact .head (mem_spaced mem) (behind others)

theorem enclosed_mem {parts : List (List Char)} {kinds : List Texts} (b : Bracket)
    (each : List.Forall₂ (· ∈ ·) parts kinds) :
    enclosed b.opening b.closing parts ∈ bracketed b kinds :=
  ⟨_, series_intercalate each, rfl⟩

theorem member_mem {key : String} {value : List Char} {kind : Texts} (mem : value ∈ kind) :
    Json.writeString key ++ ':' :: value ∈ memberTexts key kind :=
  ⟨_, writeString_mem key, [], nil_mem_blanks, _, mem_spaced mem, rfl⟩

theorem writeList_mem {α : Type} {write : α → List Char} {kind : α → Texts} {items : List α}
    (each : ∀ item ∈ items, write item ∈ kind item) :
    writeList write items ∈ bracketed .list (items.map kind) := by
  refine enclosed_mem .list ?_
  rw [List.forall₂_map_left_iff, List.forall₂_map_right_iff]
  exact List.forall₂_same.mpr each

theorem writeBool_mem (b : Bool) : writeBool b ∈ booleanTexts b := by
  cases b <;> rfl

theorem writeOption_mem {α : Type} {write : α → List Char} {kind : α → Texts} {value : Option α}
    (each : ∀ v ∈ value, write v ∈ kind v) : writeOption write value ∈ optionTexts kind value := by
  cases value with
  | none => rfl
  | some v => exact each v rfl

/-- A record written with all its fields is spelled. -/
theorem writeObject_mem {members : List (String × List Char)} {slots : List Slot}
    (distinct : (slots.map Slot.name).Nodup)
    (each : List.Forall₂ (fun member slot => member.1 = slot.name ∧ member.2 ∈ slot.texts)
      members slots) : writeObject members ∈ recordTexts slots := by
  have names : (slots.map Entry.field).filterMap Entry.fieldName? = slots.map Slot.name := by
    rw [List.filterMap_map]
    exact congrFun List.filterMap_eq_map slots
  refine .inl ⟨slots.map .field, ⟨?_, ?_, ?_, ?_⟩, enclosed_mem .object ?_⟩
  · intro slot mem
    obtain ⟨other, inside, same⟩ := List.mem_map.mp mem
    cases same
    exact inside
  · rw [names]
    exact distinct
  · intro slot mem
    exact .inl (List.mem_map_of_mem mem)
  · intro key mem
    obtain ⟨other, -, same⟩ := List.mem_map.mp mem
    cases same
  · rw [List.map_map, List.forall₂_map_left_iff, List.forall₂_map_right_iff]
    refine each.imp ?_
    rintro ⟨key, value⟩ slot ⟨rfl, mem⟩
    exact member_mem mem

/-! ### Written records -/

/-- The number is finite, and is read back from what is written for it. -/
structure ReadsBack (x : Binary64) : Prop where
  finite : x.isFinite = true
  same : Reader.binary64 (x.write .document) = .ok (x, [])

instance (x : Binary64) : Decidable (ReadsBack x) :=
  decidable_of_iff (x.isFinite = true ∧ Reader.binary64 (x.write .document) = .ok (x, []))
    ⟨fun ⟨finite, same⟩ => ⟨finite, same⟩, fun ⟨finite, same⟩ => ⟨finite, same⟩⟩

theorem writeNumber_mem {x : Binary64} (back : ReadsBack x) : writeNumber x ∈ numberTexts x := by
  rw [writeNumber, if_pos back.finite]
  exact back.same

theorem InterfaceSpec.write_mem (spec : InterfaceSpec) : spec.write ∈ spec.texts :=
  writeObject_mem spec.fills.distinct <|
    .cons ⟨rfl, writeString_mem _⟩ <| .cons ⟨rfl, writeBool_mem _⟩ .nil

def ChannelSpec.numbers (spec : ChannelSpec) : List Binary64 :=
  spec.inputPower.toList ++ spec.outputPower.toList ++ spec.biasCurrent.toList

theorem ChannelSpec.write_mem {spec : ChannelSpec} (back : ∀ x ∈ spec.numbers, ReadsBack x) :
    spec.write ∈ spec.texts := by
  have leaf : ∀ value : Option Binary64, (∀ x ∈ value, x ∈ spec.numbers) →
      writeOption writeNumber value ∈ optionTexts numberTexts value :=
    fun value among => writeOption_mem fun x mem => writeNumber_mem (back x (among x mem))
  refine writeObject_mem spec.fills.distinct <|
    .cons ⟨rfl, leaf _ ?_⟩ <| .cons ⟨rfl, leaf _ ?_⟩ <| .cons ⟨rfl, leaf _ ?_⟩ .nil
  all_goals
    intro x mem
    simp [numbers, Option.mem_def.mp mem]

def ComponentSpec.numbers (spec : ComponentSpec) : List Binary64 :=
  spec.darkPower :: spec.channels.flatMap ChannelSpec.numbers

theorem ComponentSpec.write_mem {spec : ComponentSpec} (back : ∀ x ∈ spec.numbers, ReadsBack x) :
    spec.write ∈ spec.texts := by
  have channels : ∀ channel ∈ spec.channels, channel.write ∈ channel.texts := fun channel mem =>
    ChannelSpec.write_mem fun x inside =>
      back x (List.mem_cons_of_mem _ (List.mem_flatMap.mpr ⟨channel, mem, inside⟩))
  exact writeObject_mem spec.fills.distinct <|
    .cons ⟨rfl, writeString_mem _⟩ <|
    .cons ⟨rfl, .inl (writeString_mem _)⟩ <|
    .cons ⟨rfl, writeOption_mem fun _ _ => writeString_mem _⟩ <|
    .cons ⟨rfl, writeOption_mem fun _ _ => writeString_mem _⟩ <|
    .cons ⟨rfl, writeList_mem channels⟩ <|
    .cons ⟨rfl, writeNumber_mem (back _ List.mem_cons_self)⟩ .nil

namespace Topology

/-- All numbers of the topology's components. -/
def numbers (t : Topology) : List Binary64 := t.components.flatMap ComponentSpec.numbers

theorem write_mem {t : Topology} (back : ∀ x ∈ t.numbers, ReadsBack x) : t.write ∈ t.texts := by
  have components : ∀ spec ∈ t.components, spec.write ∈ spec.texts := fun spec mem =>
    ComponentSpec.write_mem fun x inside => back x (List.mem_flatMap.mpr ⟨spec, mem, inside⟩)
  have ports : writeObject (t.ports.entries.map fun entry =>
      (entry.1, Json.writeString entry.2)) ∈ t.portTexts := by
    refine ⟨t.ports.entries, .refl _, enclosed_mem .object ?_⟩
    rw [List.map_map, List.forall₂_map_left_iff, List.forall₂_map_right_iff]
    exact List.forall₂_same.mpr fun _ _ => member_mem (writeString_mem _)
  exact writeObject_mem t.fills.distinct <|
    .cons ⟨rfl, writeString_mem _⟩ <|
    .cons ⟨rfl, writeString_mem _⟩ <|
    .cons ⟨rfl, .inl (writeString_mem _)⟩ <|
    .cons ⟨rfl, ports⟩ <|
    .cons ⟨rfl, writeList_mem fun spec _ => spec.write_mem⟩ <|
    .cons ⟨rfl, writeList_mem components⟩ <|
    .cons ⟨rfl, rfl⟩ .nil

/-- The topology is valid, and its numbers are finite and read back. -/
structure Printable (t : Topology) : Prop where
  valid : t.validate = .ok ()
  numbers : ∀ x ∈ t.numbers, ReadsBack x

theorem ofDocument_document {t : Topology} (printable : t.Printable) :
    ofDocument t.document = .ok t := by
  refine ofDocument_of_read printable.valid (read_of_spelling ?_)
  refine ⟨t.write, mem_spaced (write_mem printable.numbers), [], nil_mem_blanks, ?_⟩
  rw [document, String.toList_ofList, List.append_nil]

/-- A topology is read back from what is written for it. So no two topologies are written alike,
and what was read back is written alike. -/
theorem document_round_trip {t : Topology} (printable : t.Printable) :
    ofDocument t.document = .ok t ∧
      (∀ u : Topology, u.Printable → u.document = t.document → u = t) ∧
      ∀ u, ofDocument t.document = .ok u → u.document = t.document := by
  have back := ofDocument_document printable
  refine ⟨back, fun u other same => ?_, fun u read => ?_⟩
  · have otherBack := ofDocument_document other
    rw [same, back] at otherBack
    cases otherBack
    rfl
  · rw [back] at read
    cases read
    rfl

/-- Awkward strings, an interface and a component declared twice, a missing leaf and a negative
zero. -/
def awkward : Topology where
  name := "\"\\/\x01\n\x7f😀"
  model := ""
  vendor := .juniper
  ports := (PortMap.empty.insert "b" "i").insert "a" "i"
  interfaces := [{ name := "i" }, { name := "i", enabled := false }]
  components := [
    { name := "c", kind := .cpu, mfgName := some "", interface := some "i"
      channels := [{}, { outputPower := some (.ofDecimal false 63 (-1)) }] },
    { name := "c", kind := .cpu, darkPower := .zero true }]
  settleTime := 18446744073709551615

theorem printable_awkward : awkward.Printable := ⟨by decide, by decide +kernel⟩

theorem document_round_trip_awkward :
    awkward.Printable ∧ ofDocument awkward.document = .ok awkward :=
  ⟨printable_awkward, (document_round_trip printable_awkward).1⟩

end Topology
end OpticsCheck
