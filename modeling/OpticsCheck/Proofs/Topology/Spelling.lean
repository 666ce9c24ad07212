import OpticsCheck.Proofs.Json.Records
import OpticsCheck.Topology.Document

/-!
# The spellings of a topology

Which documents spell a topology, whatever order, defaults, unknown fields, lists in place of
objects, escapes and blanks they make use of, and that each of them is read as that topology.
-/

namespace OpticsCheck

open Json

/-! ### Port maps -/

theorem perm_insertPort {port interface : String} {entries : List PortEntry}
    (fresh : ∀ entry ∈ entries, entry.1 ≠ port) :
    (insertPort port interface entries).Perm ((port, interface) :: entries) := by
  induction entries with
  | nil => exact .refl _
  | cons head rest ih =>
    have other := fresh head List.mem_cons_self
    have later := ih fun entry mem => fresh entry (List.mem_cons_of_mem _ mem)
    rw [insertPort]
    split
    · exact .refl _
    · rename_i notBefore
      split
      · exact (later.cons head).trans (.swap _ _ _)
      · rename_i notAfter
        have same : head.1 = port :=
          String.le_antisymm (String.not_lt.mp notBefore) (String.not_lt.mp notAfter)
        exact absurd same other

/-- Ports that are mapped once each all end up in the map. -/
theorem perm_foldl_insert {entries : List PortEntry} {map : PortMap}
    (distinct : ((entries ++ map.entries).map (·.1)).Nodup) :
    (entries.foldl (fun map entry => map.insert entry.1 entry.2) map).entries.Perm
      (entries ++ map.entries) := by
  induction entries generalizing map with
  | nil => exact .refl _
  | cons entry entries ih =>
    obtain ⟨fresh, others⟩ := List.nodup_cons.mp distinct
    have inserted : (map.insert entry.1 entry.2).entries.Perm (entry :: map.entries) := by
      refine perm_insertPort fun other mem same => fresh ?_
      exact List.mem_map.mpr ⟨other, List.mem_append_right _ mem, same⟩
    have moved : (entries ++ (map.insert entry.1 entry.2).entries).Perm
        (entry :: (entries ++ map.entries)) :=
      (inserted.append_left entries).trans List.perm_middle
    exact (ih ((moved.map _).nodup_iff.mpr distinct)).trans moved

theorem PortMap.eq_of_perm {a b : PortMap} (same : a.entries.Perm b.entries) : a = b := by
  have ordered : a.entries = b.entries := by
    refine List.Perm.eq_of_pairwise ?_ a.sorted b.sorted same
    intro x y _ _ before after
    exact absurd (String.lt_trans before after) (String.lt_irrefl _)
  cases a
  cases b
  cases ordered
  rfl

/-- A map is made up of its entries in any order. -/
theorem PortMap.foldl_insert {map : PortMap} {entries : List PortEntry}
    (all : entries.Perm map.entries) :
    entries.foldl (fun map entry => map.insert entry.1 entry.2) PortMap.empty = map := by
  have distinct : (map.entries.map (·.1)).Nodup := by
    refine List.pairwise_map.mpr (map.sorted.imp fun {x y} before same => ?_)
    rw [same] at before
    exact String.lt_irrefl _ before
  refine eq_of_perm ((perm_foldl_insert ?_).trans ?_)
  · rw [PortMap.empty, List.append_nil]
    exact (all.map _).nodup_iff.mpr distinct
  · rw [PortMap.empty, List.append_nil]
    exact all

/-! ### Records -/

section Drafts

variable {β : Type} {seen : List String} {name : String} {value default : β}

/-- What a draft holds of a field, given the fields seen so far. -/
def drafted (seen : List String) (name : String) (value : β) : Option β :=
  if name ∈ seen then some value else none

theorem drafted_of_required (given : name ∈ seen ∨ False) : drafted seen name value = some value :=
  if_pos (given.resolve_right id)

theorem getD_drafted (given : name ∈ seen ∨ value = default) :
    (drafted seen name value).getD default = value := by
  by_cases read : name ∈ seen
  · rw [drafted, if_pos read]
    rfl
  · rw [drafted, if_neg read]
    exact (given.resolve_left read).symm

end Drafts

namespace InterfaceSpec

def slots (spec : InterfaceSpec) : List Slot := [
  ⟨"name", stringTexts spec.name, False⟩,
  ⟨"enabled", booleanTexts spec.enabled, spec.enabled = true⟩]

def texts (spec : InterfaceSpec) : Texts := recordTexts spec.slots

def draft (spec : InterfaceSpec) (seen : List String) : Draft where
  name := drafted seen "name" spec.name
  enabled := drafted seen "enabled" spec.enabled

theorem fills (spec : InterfaceSpec) : Fills record spec.slots spec.draft spec where
  blank := rfl
  distinct := by simp [slots]
  fits :=
    .cons (fits_of (reads_string _ _) (by simp) (fun _ => rfl) (by simp [draft, drafted])) <|
    .cons (fits_of (reads_boolean _) (by simp) (fun _ => rfl) (by simp [draft, drafted])) .nil
  complete := by
    intro seen all
    simp only [slots, List.forall_mem_cons] at all
    obtain ⟨name, enabled, -⟩ := all
    simp only [record, draft, drafted_of_required name, getD_drafted enabled]
    rfl

theorem reads (spec : InterfaceSpec) : Reads record.read spec.texts spec := reads_record spec.fills

end InterfaceSpec

theorem reads_optionalNumber (value : Option Binary64) :
    Reads (Reader.optional Reader.binary64) (optionTexts numberTexts value) value := by
  refine reads_optional (fun v _ => reads_binary64 v) fun v _ text read head => ?_
  obtain ⟨c, more, found, numeric⟩ := numeric_of_anyNumber read
  rw [found] at head
  cases head
  exact absurd numeric (by decide)

theorem reads_optionalString (value : Option String) :
    Reads (Reader.optional Reader.text) (optionTexts stringTexts value) value := by
  refine reads_optional (fun v _ => reads_string _ v) fun v _ text mem head => ?_
  obtain ⟨body, -, rfl⟩ := mem
  rw [afterBlanks_cons rfl] at head
  cases head

namespace ChannelSpec

/-- What a channel's leaf is spelled as. -/
def leafSlot (name : String) (value : Option Binary64) : Slot :=
  ⟨name, optionTexts numberTexts value, value = none⟩

def slots (spec : ChannelSpec) : List Slot := [
  leafSlot "input_power" spec.inputPower,
  leafSlot "output_power" spec.outputPower,
  leafSlot "laser_bias_current" spec.biasCurrent]

def texts (spec : ChannelSpec) : Texts := recordTexts spec.slots

def draft (spec : ChannelSpec) (seen : List String) : Draft where
  inputPower := drafted seen "input_power" spec.inputPower
  outputPower := drafted seen "output_power" spec.outputPower
  biasCurrent := drafted seen "laser_bias_current" spec.biasCurrent

theorem fills (spec : ChannelSpec) : Fills record spec.slots spec.draft spec where
  blank := rfl
  distinct := by simp [slots, leafSlot]
  fits :=
    .cons (fits_of (reads_optionalNumber _) (by simp) (fun _ => rfl) (by simp [draft, drafted])) <|
    .cons (fits_of (reads_optionalNumber _) (by simp) (fun _ => rfl) (by simp [draft, drafted])) <|
    .cons (fits_of (reads_optionalNumber _) (by simp) (fun _ => rfl) (by simp [draft, drafted])) .nil
  complete := by
    intro seen all
    simp only [slots, leafSlot, List.forall_mem_cons] at all
    obtain ⟨input, output, bias, -⟩ := all
    simp only [record, draft, getD_drafted input, getD_drafted output, getD_drafted bias]

theorem reads (spec : ChannelSpec) : Reads record.read spec.texts spec := reads_record spec.fills

end ChannelSpec

namespace ComponentSpec

def slots (spec : ComponentSpec) : List Slot := [
  ⟨"name", stringTexts spec.name, False⟩,
  ⟨"type", keywordTexts spec.kind.keyword, False⟩,
  ⟨"mfg_name", optionTexts stringTexts spec.mfgName, spec.mfgName = none⟩,
  ⟨"interface", optionTexts stringTexts spec.interface, spec.interface = none⟩,
  ⟨"channels", bracketed .list (spec.channels.map ChannelSpec.texts), spec.channels = []⟩,
  ⟨"dark_output_power", numberTexts spec.darkPower, spec.darkPower = defaultDarkPower⟩]

def texts (spec : ComponentSpec) : Texts := recordTexts spec.slots

def draft (spec : ComponentSpec) (seen : List String) : Draft where
  name := drafted seen "name" spec.name
  kind := drafted seen "type" spec.kind
  mfgName := drafted seen "mfg_name" spec.mfgName
  interface := drafted seen "interface" spec.interface
  channels := drafted seen "channels" spec.channels
  darkPower := drafted seen "dark_output_power" spec.darkPower

theorem lookup_keyword (kind : ComponentKind) :
    ComponentKind.keywords.lookup kind.keyword = some kind := by
  cases kind <;> decide

theorem fills (spec : ComponentSpec) : Fills record spec.slots spec.draft spec where
  blank := rfl
  distinct := by simp [slots]
  fits :=
    .cons (fits_of (reads_string _ _) (by simp) (fun _ => rfl) (by simp [draft, drafted])) <|
    .cons (fits_of (reads_keyword (lookup_keyword _)) (by simp) (fun _ => rfl)
      (by simp [draft, drafted])) <|
    .cons (fits_of (reads_optionalString _) (by simp) (fun _ => rfl) (by simp [draft, drafted])) <|
    .cons (fits_of (reads_optionalString _) (by simp) (fun _ => rfl) (by simp [draft, drafted])) <|
    .cons (fits_of (reads_list fun c _ => c.reads) (by simp) (fun _ => rfl)
      (by simp [draft, drafted])) <|
    .cons (fits_of (reads_binary64 _) (by simp) (fun _ => rfl) (by simp [draft, drafted])) .nil
  complete := by
    intro seen all
    simp only [slots, List.forall_mem_cons] at all
    obtain ⟨name, kind, mfgName, interface, channels, darkPower, -⟩ := all
    simp only [record, draft, drafted_of_required name, drafted_of_required kind, getD_drafted mfgName,
      getD_drafted interface, getD_drafted channels, getD_drafted darkPower]
    rfl

theorem reads (spec : ComponentSpec) : Reads record.read spec.texts spec := reads_record spec.fills

end ComponentSpec

namespace Topology

/-- The port map as an object, with the ports in any order. -/
def portTexts (t : Topology) : Texts :=
  {text | ∃ entries : List PortEntry, entries.Perm t.ports.entries ∧
    text ∈ bracketed .object (entries.map fun entry => memberTexts entry.1 (stringTexts entry.2))}

def slots (t : Topology) : List Slot := [
  ⟨"name", stringTexts t.name, False⟩,
  ⟨"model", stringTexts t.model, False⟩,
  ⟨"vendor", keywordTexts t.vendor.keyword, False⟩,
  ⟨"ports", t.portTexts, t.ports = .empty⟩,
  ⟨"interfaces", bracketed .list (t.interfaces.map InterfaceSpec.texts), t.interfaces = []⟩,
  ⟨"components", bracketed .list (t.components.map ComponentSpec.texts), t.components = []⟩,
  ⟨"settle_time_ms", {digitChars t.settleTime.toNat}, t.settleTime = defaultSettleTime⟩]

def texts (t : Topology) : Texts := recordTexts t.slots

/-- The documents that spell a topology. -/
def documents (t : Topology) : Texts :=
  {text | ∃ body ∈ spaced t.texts, ∃ after ∈ blanks, text = body ++ after}

def draft (t : Topology) (seen : List String) : Draft where
  name := drafted seen "name" t.name
  model := drafted seen "model" t.model
  vendor := drafted seen "vendor" t.vendor
  ports := drafted seen "ports" t.ports
  interfaces := drafted seen "interfaces" t.interfaces
  components := drafted seen "components" t.components
  settleTime := drafted seen "settle_time_ms" t.settleTime

theorem reads_ports (t : Topology) :
    Reads (Reader.map Reader.text PortMap.empty PortMap.insert) t.portTexts t.ports := by
  refine Reads.exists_mem fun entries all => ?_
  have read := reads_map PortMap.insert PortMap.empty fun (entry : PortEntry) (_ : entry ∈ entries) =>
    reads_string "a string" entry.2
  rw [PortMap.foldl_insert all] at read
  exact read

theorem lookup_keyword (vendor : Vendor) :
    Vendor.keywords.lookup vendor.keyword = some vendor := by
  cases vendor <;> decide

theorem fills (t : Topology) : Fills record t.slots t.draft t where
  blank := rfl
  distinct := by simp [slots]
  fits :=
    .cons (fits_of (reads_string _ _) (by simp) (fun _ => rfl) (by simp [draft, drafted])) <|
    .cons (fits_of (reads_string _ _) (by simp) (fun _ => rfl) (by simp [draft, drafted])) <|
    .cons (fits_of (reads_keyword (lookup_keyword _)) (by simp) (fun _ => rfl)
      (by simp [draft, drafted])) <|
    .cons (fits_of t.reads_ports (by simp) (fun _ => rfl) (by simp [draft, drafted])) <|
    .cons (fits_of (reads_list fun spec _ => spec.reads) (by simp) (fun _ => rfl)
      (by simp [draft, drafted])) <|
    .cons (fits_of (reads_list fun spec _ => spec.reads) (by simp) (fun _ => rfl)
      (by simp [draft, drafted])) <|
    .cons (fits_of (reads_word64 _) (by simp) (fun _ => rfl) (by simp [draft, drafted])) .nil
  complete := by
    intro seen all
    simp only [slots, List.forall_mem_cons] at all
    obtain ⟨name, model, vendor, ports, interfaces, components, settleTime, -⟩ := all
    simp only [record, draft, drafted_of_required name, drafted_of_required model,
      drafted_of_required vendor, getD_drafted ports, getD_drafted interfaces, getD_drafted components,
      getD_drafted settleTime]
    rfl

theorem reads (t : Topology) : Reads record.read t.texts t := reads_record t.fills

theorem read_of_spelling {t : Topology} {text : String} (spelled : text.toList ∈ t.documents) :
    read text = .ok t := by
  obtain ⟨body, mem, after, blank, whole⟩ := spelled
  exact t.reads.spaced.readAll mem blank whole

theorem ofDocument_of_read {t : Topology} {text : String} (valid : t.validate = .ok ())
    (done : read text = .ok t) : ofDocument text = .ok t := by
  rw [ofDocument, done]
  simp only [valid]

/-- Whichever way a valid topology is spelled, it is what the document is read as. -/
theorem ofDocument_of_spelling {t : Topology} {text : String} (valid : t.validate = .ok ())
    (spelled : text.toList ∈ t.documents) : ofDocument text = .ok t :=
  ofDocument_of_read valid (read_of_spelling spelled)

/-! ### A loose spelling -/

/-- A string with its first character written in another way. -/
theorem escaped_mem {s : String} {c : Char} {first : List Char} (cs : List Char)
    (same : s.toList = c :: cs) (written : CharText c first) :
    '"' :: (first ++ cs.flatMap escapedChar ++ ['"']) ∈ stringTexts s := by
  refine ⟨_, ?_, rfl⟩
  rw [same]
  exact ⟨first, written, _, flatMap_escapedChar_mem cs, rfl⟩

/-- A member with a blank behind its colon. -/
theorem member_of_gap {key : String} {value : Texts} {name text : List Char}
    (named : name ∈ stringTexts key) (mem : text ∈ value) :
    name ++ ':' :: ' ' :: text ∈ memberTexts key value :=
  ⟨_, named, [], nil_mem_blanks, _, ⟨[' '], by simp [blanks, isBlank], text, mem, rfl⟩, rfl⟩

def looselySpelled : Topology where
  name := "dut"
  model := ""
  vendor := .cisco
  interfaces := [{ name := "/1" }]
  components := [{
    name := "f", kind := .fan
    channels := [{ inputPower := some (.ofDecimal true 25 (-1)) }] }]

/-- Fields out of order and left out, an unknown one, lists for records, escapes and blanks. -/
def looseDocument : String :=
  "\n\x7b\"a\": [[],\x7b\"b\":null\x7d],\"\\u0076endor\": \"\\u0043ISCO\"," ++
  "\"interfaces\": [[\"\\/1\"]],\"components\": [[\"f\",\"FAN\"," ++
  "null,null,[[-2.5]]]],\"name\": \"dut\",\"model\": \"\"\x7d "

theorem looseDocument_mem : looseDocument.toList ∈ looselySpelled.documents := by
  have key : SkippedBody ['b'] := .cons (.plain (by decide) (by decide) (by decide)) .nil
  have object := WellFormed.nested .object nil_mem_blanks
    ⟨['b'], key, [], nil_mem_blanks, [], nil_mem_blanks, rfl⟩ (.word (.inl rfl))
    (.closed .object nil_mem_blanks)
  have unknown : _ ∈ anyValues := WellFormed.nested .list nil_mem_blanks rfl
    (.empty .list nil_mem_blanks)
    (.next .list nil_mem_blanks nil_mem_blanks rfl object (.closed .list nil_mem_blanks))
  have vendorKey : _ ∈ stringTexts "vendor" := escaped_mem ['e', 'n', 'd', 'o', 'r'] (by decide)
    (.code (by decide : hexCode? '0' '0' '7' '6' = some 'v'.toNat))
  have vendor : _ ∈ keywordTexts "CISCO" := .inl <| escaped_mem ['I', 'S', 'C', 'O'] (by decide)
    (.code (by decide : hexCode? '0' '0' '4' '3' = some 'C'.toNat))
  have slash : _ ∈ stringTexts "/1" :=
    escaped_mem ['1'] (by decide) (.short (by decide : shortEscape? '/' = some '/'))
  have interface : _ ∈ InterfaceSpec.texts { name := "/1" } :=
    .inr ⟨1, by simp [InterfaceSpec.slots], _, .head (mem_spaced slash) (.done nil_mem_blanks), rfl⟩
  have number : ['-', '2', '.', '5'] ∈ numberTexts (.ofDecimal true 25 (-1)) := by
    show Reader.binary64 _ = _
    decide +kernel
  have channel : _ ∈ ChannelSpec.texts { inputPower := some (.ofDecimal true 25 (-1)) } :=
    .inr ⟨1, by simp [ChannelSpec.slots, ChannelSpec.leafSlot], _,
      .head (mem_spaced number) (.done nil_mem_blanks), rfl⟩
  have component : _ ∈ ComponentSpec.texts looselySpelled.components[0] :=
    .inr ⟨5, by simp [ComponentSpec.slots, looselySpelled], _,
      .head (mem_spaced (writeString_mem "f")) <|
      .next nil_mem_blanks (mem_spaced (.inl (writeString_mem "FAN"))) <|
      .next nil_mem_blanks (mem_spaced (rfl : _ ∈ nullTexts)) <|
      .next nil_mem_blanks (mem_spaced (rfl : _ ∈ nullTexts)) <|
      .next nil_mem_blanks
        (mem_spaced ⟨_, .head (mem_spaced channel) (.done nil_mem_blanks), rfl⟩) <|
      .done nil_mem_blanks, rfl⟩
  have gives : Gives looselySpelled.slots [.unknown "a", .field looselySpelled.slots[2],
      .field looselySpelled.slots[4], .field looselySpelled.slots[5],
      .field looselySpelled.slots[0], .field looselySpelled.slots[1]] := by
    constructor
    · simp [slots]
    · show ["vendor", "interfaces", "components", "name", "model"].Nodup
      decide
    · simp [slots, looselySpelled]
    · simp [slots]
  have body : _ ∈ looselySpelled.texts := .inl ⟨_, gives, _,
    .head (mem_spaced (member_of_gap (writeString_mem "a") unknown)) <|
    .next nil_mem_blanks (mem_spaced (member_of_gap vendorKey vendor)) <|
    .next nil_mem_blanks (mem_spaced (member_of_gap (writeString_mem "interfaces")
      ⟨_, .head (mem_spaced interface) (.done nil_mem_blanks), rfl⟩)) <|
    .next nil_mem_blanks (mem_spaced (member_of_gap (writeString_mem "components")
      ⟨_, .head (mem_spaced component) (.done nil_mem_blanks), rfl⟩)) <|
    .next nil_mem_blanks
      (mem_spaced (member_of_gap (writeString_mem "name") (writeString_mem "dut"))) <|
    .next nil_mem_blanks
      (mem_spaced (member_of_gap (writeString_mem "model") (writeString_mem ""))) <|
    .done nil_mem_blanks, rfl⟩
  refine ⟨_, ⟨['\n'], by simp [blanks, isBlank], _, body, rfl⟩, [' '], by simp [blanks, isBlank], ?_⟩
  decide +kernel

theorem ofDocument_of_loose_spelling :
    looselySpelled.validate = .ok () ∧ looseDocument.toList ∈ looselySpelled.documents ∧
      ofDocument looseDocument = .ok looselySpelled :=
  ⟨by decide, looseDocument_mem, ofDocument_of_spelling (by decide) looseDocument_mem⟩

end Topology
end OpticsCheck
