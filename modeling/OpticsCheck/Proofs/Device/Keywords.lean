import Mathlib
import OpticsCheck.Device.Fault
import OpticsCheck.Proofs.Text.Trimming

/-!
# Keywords typed by hand

A text spells a vendor when it is the vendor's keyword in any mix of ASCII cases, with any blanks
around it. Only such texts are read as a vendor; all others are refused as they are. Letters beyond
ASCII do not count as a case of an ASCII letter, even where a language folds them to one.
-/

namespace OpticsCheck
namespace Text

/-- The capital ASCII letters, each with its small form. -/
def letters : List (Char × Char) :=
  "ABCDEFGHIJKLMNOPQRSTUVWXYZ".toList.zip "abcdefghijklmnopqrstuvwxyz".toList

/-- The same character, or the two cases of one ASCII letter. -/
def SameLetter (c d : Char) : Prop := c = d ∨ (c, d) ∈ letters ∨ (d, c) ∈ letters

/-- The same text but for the cases of ASCII letters. -/
def Recased (cs ds : List Char) : Prop := List.Forall₂ SameLetter cs ds

section Cases

variable {c d : Char} {cs ds : List Char}

theorem toUpper_of_mem_letters (mem : (c, d) ∈ letters) : c.toUpper = c ∧ d.toUpper = c := by
  have each : ∀ pair ∈ letters, pair.1.toUpper = pair.1 ∧ pair.2.toUpper = pair.1 := by decide
  exact each _ mem

theorem mem_letters_of_isLower (lower : c.isLower = true) : (c.toUpper, c) ∈ letters := by
  have each : ∀ i < 26, ((Char.ofNat (97 + i)).toUpper, Char.ofNat (97 + i)) ∈ letters := by decide
  have bounds : 97 ≤ c.toNat ∧ c.toNat ≤ 122 := by
    simpa [Char.isLower, UInt32.le_iff_toNat_le] using lower
  have code : 97 + (c.toNat - 97) = c.toNat := by omega
  have found := each (c.toNat - 97) (by omega)
  rwa [code, Char.ofNat_toNat] at found

theorem toLower_toUpper_of_isLower (lower : c.isLower = true) : c.toUpper.toLower = c := by
  rw [Char.toLower_toUpper_eq_toLower]
  exact Char.toLower_eq_of_not_isUpper (Char.not_isUpper_of_isLower lower)

/-- Characters are the same letter when they have the same capital. -/
theorem sameLetter_iff : SameLetter c d ↔ c.toUpper = d.toUpper := by
  constructor
  · rintro (rfl | mem | mem)
    · rfl
    · obtain ⟨capital, small⟩ := toUpper_of_mem_letters mem
      rw [capital, small]
    · obtain ⟨capital, small⟩ := toUpper_of_mem_letters mem
      rw [capital, small]
  · intro same
    by_cases lower : c.isLower = true
    · have mem := mem_letters_of_isLower lower
      by_cases lower' : d.isLower = true
      · left
        rw [← toLower_toUpper_of_isLower lower, same, toLower_toUpper_of_isLower lower']
      · rw [same, Char.toUpper_eq_of_not_isLower lower'] at mem
        exact .inr (.inr mem)
    · rw [Char.toUpper_eq_of_not_isLower lower] at same
      by_cases lower' : d.isLower = true
      · have mem := mem_letters_of_isLower lower'
        rw [← same] at mem
        exact .inr (.inl mem)
      · rw [Char.toUpper_eq_of_not_isLower lower'] at same
        exact .inl same

theorem recased_iff : Recased cs ds ↔ cs.map Char.toUpper = ds.map Char.toUpper := by
  have related : SameLetter = fun c d => c.toUpper = d.toUpper := by
    funext c d
    exact propext sameLetter_iff
  rw [Recased, related, ← List.forall₂_eq_eq_eq, List.forall₂_map_left_iff,
    List.forall₂_map_right_iff]

theorem not_isBlank_of_isAlpha (letter : c.isAlpha = true) : isBlank c = false := by
  have bounds : (65 ≤ c.toNat ∧ c.toNat ≤ 90) ∨ (97 ≤ c.toNat ∧ c.toNat ≤ 122) := by
    simpa [Char.isAlpha, Char.isUpper, Char.isLower, UInt32.le_iff_toNat_le] using letter
  rw [← Bool.not_eq_true, isBlank, Ranges.holds_iff]
  simp [blanks]
  omega

theorem Recased.isAlpha (recased : Recased cs ds) (alpha : ∀ d ∈ ds, d.isAlpha = true) :
    ∀ c ∈ cs, c.isAlpha = true := by
  intro c mem
  have mem' : c.toUpper ∈ ds.map Char.toUpper := by
    rw [← recased_iff.mp recased]
    exact List.mem_map_of_mem mem
  obtain ⟨d, mem, same⟩ := List.mem_map.mp mem'
  rw [← Char.isAlpha_toUpper_eq_isAlpha, ← same, Char.isAlpha_toUpper_eq_isAlpha]
  exact alpha d mem

end Cases
end Text

namespace Vendor

open Text

/-- The text is the vendor's keyword but for the cases of its letters and the blanks around it. -/
def SpelledBy (vendor : Vendor) (text : String) : Prop :=
  ∃ word, Recased word vendor.keyword.toList ∧ Padded word text.toList

section Spelling

variable {vendor : Vendor} {text : String}

theorem isAlpha_keyword : ∀ c ∈ vendor.keyword.toList, c.isAlpha = true := by
  have all : vendor.keyword.toList.all Char.isAlpha = true := by cases vendor <;> decide
  exact List.all_eq_true.mp all

theorem toUpper_keyword : vendor.keyword.toList.map Char.toUpper = vendor.keyword.toList := by
  cases vendor <;> decide +kernel

/-- The first vendor found is the only one, since no two have the same keyword. -/
theorem ofText?_eq_some_iff :
    ofText? text = some vendor ↔
      (trim text.toList).map Char.toUpper = vendor.keyword.toList := by
  have spells {vendor : Vendor} (found : ofText? text = some vendor) :
      (trim text.toList).map Char.toUpper = vendor.keyword.toList := by
    simp only [ofText?] at found
    have holds := List.find?_some found
    exact (of_decide_eq_true holds).symm
  constructor
  · intro found
    exact spells found
  · intro spelled
    obtain ⟨other, found⟩ : ∃ other, ofText? text = some other := by
      refine Option.isSome_iff_exists.mp (List.find?_isSome.mpr ⟨vendor, mem_all vendor, ?_⟩)
      exact decide_eq_true spelled.symm
    have same := (spells found).symm.trans spelled
    rw [found, keyword_injective (String.toList_inj.mp same)]

/-- The blanks around a keyword are all that trimming cuts off. -/
theorem spelledBy_iff :
    vendor.SpelledBy text ↔ Recased (trim text.toList) vendor.keyword.toList := by
  constructor
  · rintro ⟨word, recased, padded⟩
    have solid := solid_of_not_isBlank fun c mem =>
      not_isBlank_of_isAlpha (recased.isAlpha isAlpha_keyword c mem)
    rw [trim_eq_iff.mpr ⟨solid, padded⟩]
    exact recased
  · intro recased
    exact ⟨_, recased, padded_trim _⟩

theorem ofText?_eq_some_iff_spelledBy : ofText? text = some vendor ↔ vendor.SpelledBy text := by
  rw [ofText?_eq_some_iff, spelledBy_iff, recased_iff, toUpper_keyword]

theorem ofText_eq_ok_iff : ofText text = .ok vendor ↔ vendor.SpelledBy text := by
  rw [← ofText?_eq_some_iff_spelledBy, ofText]
  cases ofText? text with
  | none => simp
  | some other => simp

theorem ofText_eq_error_iff {fault : Fault} :
    ofText text = .error fault ↔
      (∀ vendor : Vendor, ¬ vendor.SpelledBy text) ∧ fault = .invalidVendor text := by
  simp only [← ofText?_eq_some_iff_spelledBy, ofText]
  cases ofText? text with
  | none => simp [eq_comm]
  | some other => simp

end Spelling

/-- A text is read as the one vendor that it spells and, where it spells none, refused as it was
given, with its blanks and cases. -/
theorem ofText_by_spelling (text : String) :
    (∀ vendor, ofText text = .ok vendor ↔ vendor.SpelledBy text) ∧
    (∀ fault, ofText text = .error fault ↔
      (∀ vendor : Vendor, ¬ vendor.SpelledBy text) ∧ fault = .invalidVendor text) ∧
    ∀ vendor : Vendor, vendor.SpelledBy text →
      ∀ other, ofText text = .ok other ↔ other = vendor := by
  refine ⟨?_, ?_, ?_⟩
  · intro vendor
    exact ofText_eq_ok_iff
  · intro fault
    exact ofText_eq_error_iff
  · intro vendor spelled other
    rw [ofText_eq_ok_iff.mpr spelled, Except.ok.injEq]
    exact eq_comm

/-- A keyword in mixed cases between blanks beyond ASCII, and texts with a Kelvin sign for a K, a
long s for an S, a blank inside, a blank of no width, and nothing at all. -/
theorem ofText_by_spelling_of_lookalikes :
    juniper.SpelledBy "\u2003\tjUnIpEr\u0085" ∧
    (∀ other, ofText "\u2003\tjUnIpEr\u0085" = .ok other ↔ other = juniper) ∧
    ∀ text ∈ ["NO\u212AIA", "CI\u017FCO", "CIS CO", "\u200BARISTA", ""],
      ofText text = .error (.invalidVendor text) ∧ ∀ vendor : Vendor, ¬ vendor.SpelledBy text := by
  obtain ⟨-, -, only⟩ := ofText_by_spelling "\u2003\tjUnIpEr\u0085"
  have spelled : juniper.SpelledBy "\u2003\tjUnIpEr\u0085" := by
    refine ⟨"jUnIpEr".toList, recased_iff.mpr (by decide +kernel), "\u2003\t".toList,
      "\u0085".toList, ?_, ?_, by decide +kernel⟩
    · exact List.all_eq_true.mp (by decide)
    · exact List.all_eq_true.mp (by decide)
  refine ⟨spelled, only juniper spelled, ?_⟩
  intro text mem
  have refused : ofText text = .error (.invalidVendor text) := by
    revert text
    decide +kernel
  exact ⟨refused, (((ofText_by_spelling text).2.1 _).mp refused).1⟩

end Vendor
end OpticsCheck
