import Mathlib.Data.List.TakeWhile
import OpticsCheck.Device.Naming

/-!
# Transceiver names by segments

A transceiver's name is found by looking for the last slash of its interface. The rule behind it
speaks of segments: split the interface at its slashes, drop the last segment, join the others again
and append the vendor's suffix. Both give the same name for every text, also where segments are
empty or there is no slash, so the names that coincide can be told from the segments.
-/

namespace OpticsCheck

section Slashes

variable {cs above last : List Char}

theorem parentPath_of_not_mem (single : '/' ∉ cs) : parentPath cs = [] := by
  have all : cs.reverse.dropWhile (· ≠ '/') = [] := by
    refine List.dropWhile_eq_nil_iff.mpr fun c mem => decide_eq_true fun slash => ?_
    exact single (slash ▸ List.mem_reverse.mp mem)
  rw [parentPath, all]
  rfl

theorem parentPath_append (single : '/' ∉ last) : parentPath (above ++ '/' :: last) = above := by
  have skipped : ∀ c ∈ last.reverse, decide (c ≠ '/') = true := fun c mem =>
    decide_eq_true fun slash => single (slash ▸ List.mem_reverse.mp mem)
  have found : (above ++ '/' :: last).reverse.dropWhile (· ≠ '/') = '/' :: above.reverse := by
    rw [List.reverse_append, List.reverse_cons, List.append_assoc,
      List.dropWhile_append_of_pos skipped]
    rfl
  rw [parentPath, found, List.drop_one, List.tail_cons, List.reverse_reverse]

theorem exists_last_slash (mem : '/' ∈ cs) :
    ∃ above last, cs = above ++ '/' :: last ∧ '/' ∉ last := by
  obtain ⟨before, behind, same, single⟩ :=
    List.eq_append_cons_of_mem (List.mem_reverse.mpr mem)
  refine ⟨behind.reverse, before.reverse, ?_, fun slash => single (List.mem_reverse.mp slash)⟩
  simpa using congrArg List.reverse same

/-- What stands before the last slash is what the segments but the last one make up. -/
theorem parentPath_eq_intercalate :
    parentPath cs = ['/'].intercalate (cs.splitOn '/').dropLast := by
  by_cases slash : '/' ∈ cs
  · obtain ⟨above, last, rfl, single⟩ := exists_last_slash slash
    rw [parentPath_append single, List.splitOn_append_cons_self, List.splitOn_eq_singleton single,
      List.dropLast_concat, List.intercalate_splitOn]
  · rw [parentPath_of_not_mem slash, List.splitOn_eq_singleton slash]
    rfl

end Slashes

/-- The segments of an interface, of which there is at least one. Any of them may be empty. -/
def segments (interface : String) : List String :=
  (interface.toList.splitOn '/').map String.ofList

/-- The segments but the last one, joined by slashes again. -/
def parentOf (interface : String) : String := "/".intercalate (segments interface).dropLast

theorem parentOf_eq (interface : String) :
    parentOf interface = String.ofList (parentPath interface.toList) := by
  apply String.toList_inj.mp
  rw [parentOf, String.toList_intercalate, segments, ← List.map_dropLast, List.map_map,
    String.toList_ofList, parentPath_eq_intercalate]
  simp [Function.comp_def]

/-- The rule for a vendor's suffix; the empty suffix means that nothing is changed. -/
def nameBySegments (suffix interface : String) : String :=
  if suffix = "" then interface else parentOf interface ++ suffix

theorem nameBySegments_inj_iff {suffix interface other : String} :
    nameBySegments suffix interface = nameBySegments suffix other ↔
      if suffix = "" then interface = other else parentOf interface = parentOf other := by
  unfold nameBySegments
  by_cases shared : suffix = ""
  · simp only [if_pos shared]
  · simp only [if_neg shared]
    exact String.append_left_inj suffix

theorem transceiverName_of_suffix {vendor : Vendor} {suffix : String}
    (known : vendor.namingSuffix = some suffix) (interface : String) :
    transceiverName interface vendor = .ok (nameBySegments suffix interface) := by
  unfold transceiverName nameBySegments
  rw [known, parentOf_eq]
  by_cases shared : suffix = ""
  · simp [shared]
  · simp [shared]

theorem transceiverName_of_no_suffix {vendor : Vendor} (unknown : vendor.namingSuffix = none)
    (interface : String) : transceiverName interface vendor = .error (.unknownVendor vendor) := by
  rw [transceiverName, unknown]

/-- The name that is found is the one after the rule, and there is none exactly where no naming is
known for the vendor. Two interfaces have transceivers of the same name exactly if they have the
same parent or, where the suffix is empty, are the same. -/
theorem transceiverName_by_segments (interface : String) (vendor : Vendor) :
    transceiverName interface vendor =
      vendor.namingSuffix.elim (.error (.unknownVendor vendor))
        (fun suffix => .ok (nameBySegments suffix interface)) ∧
    (∀ fault, transceiverName interface vendor = .error fault ↔
      vendor.namingSuffix = none ∧ fault = .unknownVendor vendor) ∧
    ∀ suffix ∈ vendor.namingSuffix, ∀ other,
      transceiverName interface vendor = transceiverName other vendor ↔
        if suffix = "" then interface = other else parentOf interface = parentOf other := by
  cases naming : vendor.namingSuffix with
  | none =>
    have unknown := transceiverName_of_no_suffix naming interface
    refine ⟨unknown, fun fault => ?_, nofun⟩
    rw [unknown]
    simp [eq_comm]
  | some suffix =>
    have known := transceiverName_of_suffix naming
    refine ⟨known interface, fun fault => ?_, ?_⟩
    · simp [known interface]
    · rintro _ ⟨⟩ other
      rw [known interface, known other, Except.ok.injEq]
      exact nameBySegments_inj_iff

/-- Empty segments at either end and in between, and an interface without a slash. -/
theorem transceiverName_by_segments_of_empty_segments :
    Vendor.arista.namingSuffix = some " transceiver" ∧
    segments "/1//2" = ["", "1", "", "2"] ∧
    transceiverName "/1//2" .arista = .ok "/1/ transceiver" ∧
    transceiverName "/1//2" .arista = transceiverName "/1//" .arista ∧
    transceiverName "/1//2" .arista ≠ transceiverName "/1/2" .arista ∧
    transceiverName "1" .arista = transceiverName "/2" .arista ∧
    Vendor.cisco.namingSuffix = some "" ∧
    transceiverName "1" .cisco ≠ transceiverName "/2" .cisco ∧
    transceiverName "1" .nokia = .error (.unknownVendor .nokia) := by
  obtain ⟨named, _, sameName⟩ := transceiverName_by_segments "/1//2" .arista
  obtain ⟨_, _, sameSuffix⟩ := transceiverName_by_segments "1" .arista
  obtain ⟨_, _, sameInterface⟩ := transceiverName_by_segments "1" .cisco
  obtain ⟨_, refused, _⟩ := transceiverName_by_segments "1" .nokia
  refine ⟨rfl, by decide +kernel, named.trans (by decide +kernel), ?_, ?_, ?_, rfl, ?_, ?_⟩
  · exact (sameName _ rfl _).mpr (by decide +kernel)
  · exact fun same => absurd ((sameName _ rfl _).mp same) (by decide +kernel)
  · exact (sameSuffix _ rfl _).mpr (by decide +kernel)
  · exact fun same => absurd ((sameInterface _ rfl _).mp same) (by decide +kernel)
  · exact (refused _).mpr ⟨rfl, rfl⟩

end OpticsCheck
