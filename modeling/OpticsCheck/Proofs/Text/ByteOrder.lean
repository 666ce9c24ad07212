import Mathlib.Data.String.Basic

/-!
# The order of texts and of their bytes

Texts are compared character by character. A text may as well be compared by its UTF-8 bytes: of two
characters the lower one is also the one whose bytes come first, whatever stands behind them.
-/

namespace OpticsCheck.Text

/-- The UTF-8 bytes of a text. -/
def bytes (text : String) : List UInt8 := text.toUTF8.data.toList

theorem bytes_eq_flatMap (text : String) :
    bytes text = text.toList.flatMap String.utf8EncodeChar := by
  have written : (String.ofList text.toList).toUTF8.data.toList =
      text.toList.flatMap String.utf8EncodeChar := by
    rw [String.toUTF8_eq_toByteArray, String.toByteArray_ofList]
    simp [List.utf8Encode]
  rwa [String.ofList_toList] at written

section Bytes

variable {m n : Nat} (small : m < 256) (small' : n < 256)
include small small'

theorem byte_lt_iff : UInt8.ofNat m < UInt8.ofNat n ↔ m < n := by
  rw [UInt8.lt_iff_toNat_lt, UInt8.toNat_ofNat_of_lt' small, UInt8.toNat_ofNat_of_lt' small']

theorem byte_eq_iff : UInt8.ofNat m = UInt8.ofNat n ↔ m = n := by
  rw [← UInt8.toNat_inj, UInt8.toNat_ofNat_of_lt' small, UInt8.toNat_ofNat_of_lt' small']

end Bytes

/-- The bytes of a lower character come first: the first byte tells how many there are, and bytes of
one number hold the digits of the code point from the highest on. -/
theorem encoded_append_lt {c d : Char} (less : c < d) (rest rest' : List UInt8) :
    String.utf8EncodeChar c ++ rest < String.utf8EncodeChar d ++ rest' := by
  have below : c.val.toNat < d.val.toNat := UInt32.lt_iff_toNat_lt.mp (Char.lt_def.mp less)
  have most : d.val.toNat < 2097152 := by
    have valid := d.valid
    unfold UInt32.isValidChar Nat.isValidChar at valid
    omega
  simp only [String.utf8EncodeChar]
  generalize c.val.toNat = m at *
  generalize d.val.toNat = n at *
  have parts (k : Nat) : k / 64 / 64 = k / 4096 ∧ k / 4096 / 64 = k / 262144 :=
    ⟨Nat.div_div_eq_div_mul k 64 64, Nat.div_div_eq_div_mul k 4096 64⟩
  have mParts := parts m
  have nParts := parts n
  have mLeading : m / 262144 % 8 = m / 262144 := Nat.mod_eq_of_lt (by omega)
  have nLeading : n / 262144 % 8 = n / 262144 := Nat.mod_eq_of_lt (by omega)
  rw [mLeading, nLeading]
  -- One case for each two numbers of bytes; the lower character never has more.
  split_ifs <;> try omega
  all_goals
    simp (disch := omega) only [List.cons_append, List.nil_append, List.cons_lt_cons_iff,
      byte_lt_iff, byte_eq_iff, Nat.add_lt_add_iff_right, Nat.add_right_cancel_iff]
    omega

theorem encoded_lt {cs ds : List Char} (less : cs < ds) :
    cs.flatMap String.utf8EncodeChar < ds.flatMap String.utf8EncodeChar := by
  induction less with
  | nil =>
    obtain ⟨first, others, some⟩ := List.exists_cons_of_ne_nil String.utf8EncodeChar_ne_nil
    rw [List.flatMap_cons, some]
    exact List.nil_lt_cons first _
  | rel less => exact encoded_append_lt less _ _
  | cons _ ih => exact List.append_left_lt ih

/-- Texts are ordered as their bytes are. -/
theorem bytes_lt_bytes_iff {s t : String} : bytes s < bytes t ↔ s < t := by
  have mono {s t : String} (less : s < t) : bytes s < bytes t := by
    rw [bytes_eq_flatMap, bytes_eq_flatMap]
    exact encoded_lt (String.lt_iff_toList_lt.mp less)
  refine ⟨fun less => ?_, mono⟩
  rcases Std.lt_trichotomy s t with before | rfl | behind
  · exact before
  · exact absurd less (List.lt_irrefl _)
  · exact absurd less (List.lt_asymm (mono behind))

end OpticsCheck.Text
