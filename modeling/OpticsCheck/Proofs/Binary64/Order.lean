import Mathlib
import OpticsCheck.Binary64.Basic

/-!
# The order of binary64 numbers

Numbers are compared by their ranks, integers read off the bits. Behind a rank stands a value: a
rational number or one of the two infinities, and none for a NaN. Values grow with ranks, so the
comparisons are those of the values, where both numbers have one. Hence they are transitive, hold
of no NaN and do not tell the two zeros apart.
-/

namespace OpticsCheck.Binary64

/-- Rational numbers and the infinities below and above them. -/
abbrev Extended := WithBot (WithTop ℚ)

/-- The absolute value of a finite number. -/
def absValue (x : Binary64) : ℚ := x.significand * 2 ^ x.exponent

/-- The value of a number, which a NaN has not. -/
def value? (x : Binary64) : Option Extended :=
  if x.isNaN then none
  else if x.isInfinite then some (if x.negative then ⊥ else ⊤)
  else some (((if x.negative then -x.absValue else x.absValue : ℚ) : WithTop ℚ) : Extended)

/-- Both numbers have values, and these are related. -/
def Compares (related : Extended → Extended → Prop) (x y : Binary64) : Prop :=
  ∃ a ∈ x.value?, ∃ b ∈ y.value?, related a b

/-- Less than, as values. -/
def Below : Binary64 → Binary64 → Prop := Compares (· < ·)

/-- Less than or equal, as values. -/
def AtMost : Binary64 → Binary64 → Prop := Compares (· ≤ ·)

/-- The absolute value of the numbers of a magnitude, in units of the least positive number. -/
def units (magnitude : Nat) : Nat :=
  if magnitude < exponentUnit then magnitude
  else (exponentUnit + magnitude % exponentUnit) * 2 ^ (magnitude / exponentUnit - 1)

/-- Within one exponent the significand grows by one. Where its fraction is full, the exponent grows
and the fraction starts again, which leaves half a significand of the double weight. -/
theorem units_lt_units_succ (m : Nat) : units m < units (m + 1) := by
  unfold units exponentUnit
  by_cases subnormal : m < 0x10000000000000
  · rw [if_pos subnormal]
    by_cases last : m + 1 < 0x10000000000000
    · rw [if_pos last]
      omega
    · have edge : m + 1 = 0x10000000000000 := by omega
      rw [if_neg last, edge]
      omega
  · rw [if_neg subnormal, if_neg (by omega)]
    by_cases full : m % 0x10000000000000 + 1 = 0x10000000000000
    · have carried : (m + 1) % 0x10000000000000 = 0 ∧
          (m + 1) / 0x10000000000000 - 1 = m / 0x10000000000000 - 1 + 1 := by omega
      rw [carried.1, carried.2, Nat.pow_succ]
      have positive := Nat.two_pow_pos (m / 0x10000000000000 - 1)
      generalize 2 ^ (m / 0x10000000000000 - 1) = scale at positive ⊢
      have few : 0x10000000000000 + m % 0x10000000000000 < 0x10000000000000 * 2 := by omega
      calc (0x10000000000000 + m % 0x10000000000000) * scale
          < 0x10000000000000 * 2 * scale := Nat.mul_lt_mul_of_pos_right few positive
        _ = (0x10000000000000 + 0) * (scale * 2) := by omega
    · have same : (m + 1) % 0x10000000000000 = m % 0x10000000000000 + 1 ∧
          (m + 1) / 0x10000000000000 = m / 0x10000000000000 := by omega
      rw [same.1, same.2]
      exact Nat.mul_lt_mul_of_pos_right (by omega) (Nat.two_pow_pos _)

theorem absValue_eq (x : Binary64) : x.absValue = units x.magnitude * 2 ^ (-1074 : ℤ) := by
  unfold absValue significand exponent units
  by_cases subnormal : x.magnitude < exponentUnit
  · simp only [if_pos subnormal]
  · simp only [if_neg subnormal]
    have one : 1 ≤ x.magnitude / exponentUnit :=
      (Nat.one_le_div_iff (by decide)).mpr (Nat.not_lt.mp subnormal)
    have split : ((x.magnitude / exponentUnit : Nat) : ℤ) - 1075 =
        ((x.magnitude / exponentUnit - 1 : Nat) : ℤ) + -1074 := by omega
    rw [split, zpow_add₀ two_ne_zero, zpow_natCast, Nat.cast_mul, Nat.cast_pow, Nat.cast_ofNat,
      mul_assoc]

/-- The value of the finite numbers of a rank. -/
def finiteValue : ℤ → ℚ
  | .ofNat m => units m * 2 ^ (-1074 : ℤ)
  | .negSucc m => -(units (m + 1) * 2 ^ (-1074 : ℤ))

theorem finiteValue_zero : finiteValue 0 = 0 := by
  simp [finiteValue, units, exponentUnit]

theorem finiteValue_neg (m : Nat) : finiteValue (-m) = -(units m * 2 ^ (-1074 : ℤ)) := by
  cases m with
  | zero => simp [finiteValue_zero, units, exponentUnit]
  | succ m => rfl

theorem finiteValue_strictMono : StrictMono finiteValue := by
  have least : (0 : ℚ) < 2 ^ (-1074 : ℤ) := zpow_pos two_pos _
  have step (m : Nat) : (units m * 2 ^ (-1074 : ℤ) : ℚ) < units (m + 1) * 2 ^ (-1074 : ℤ) :=
    mul_lt_mul_of_pos_right (Nat.cast_lt.mpr (units_lt_units_succ m)) least
  apply strictMono_int_of_lt_succ
  intro r
  cases r with
  | ofNat m => exact step m
  | negSucc m =>
    have next : Int.negSucc m + 1 = -(m : ℤ) := by omega
    rw [next, finiteValue_neg]
    exact neg_lt_neg (step m)

/-- The value of a rank, of which the least and the greatest are those of the infinities. -/
def rankValue (r : ℤ) : Extended :=
  if infiniteMagnitude ≤ r then ⊤ else if r ≤ -infiniteMagnitude then ⊥
  else ((finiteValue r : WithTop ℚ) : Extended)

theorem rankValue_strictMonoOn :
    StrictMonoOn rankValue (Set.Icc (-infiniteMagnitude) infiniteMagnitude) := by
  intro r low s high less
  have above : ¬ (infiniteMagnitude : ℤ) ≤ r := by have := high.2; omega
  have below : ¬ s ≤ -(infiniteMagnitude : ℤ) := by have := low.1; omega
  rw [rankValue, rankValue, if_neg above]
  by_cases greatest : (infiniteMagnitude : ℤ) ≤ s
  · rw [if_pos greatest]
    by_cases least : r ≤ -(infiniteMagnitude : ℤ)
    · rw [if_pos least]
      exact bot_lt_top
    · rw [if_neg least]
      exact WithBot.coe_lt_coe.mpr (WithTop.coe_lt_top _)
  · rw [if_neg greatest, if_neg below]
    by_cases least : r ≤ -(infiniteMagnitude : ℤ)
    · rw [if_pos least]
      exact WithBot.bot_lt_coe _
    · rw [if_neg least]
      exact WithBot.coe_lt_coe.mpr (WithTop.coe_lt_coe.mpr (finiteValue_strictMono less))

section Numbers

variable {x y z : Binary64} {related : Extended → Extended → Prop}

theorem magnitude_le (number : x.isNaN = false) : x.magnitude ≤ infiniteMagnitude := by
  simpa [isNaN] using number

theorem rank_mem (number : x.isNaN = false) :
    x.rank ∈ Set.Icc (-infiniteMagnitude : ℤ) infiniteMagnitude := by
  have bound := magnitude_le number
  rw [rank, Set.mem_Icc]
  split <;> omega

/-- The two zeros have different bits, but one rank and one value. -/
theorem value?_of_number (number : x.isNaN = false) : x.value? = some (rankValue x.rank) := by
  have bound := magnitude_le number
  have large : 0 < infiniteMagnitude := by decide
  rw [value?, if_neg (by simp [number]), rank, rankValue]
  by_cases infinite : x.magnitude = infiniteMagnitude
  · have isInfinite : x.isInfinite = true := decide_eq_true infinite
    rw [if_pos isInfinite, infinite]
    by_cases negative : x.negative = true
    · simp only [if_pos negative]
      rw [if_neg (by omega), if_pos le_rfl]
    · simp only [if_neg negative]
      rw [if_pos le_rfl]
  · have finite : ¬ x.isInfinite = true := fun isInfinite => infinite (of_decide_eq_true isInfinite)
    rw [if_neg finite, absValue_eq]
    by_cases negative : x.negative = true
    · simp only [if_pos negative]
      rw [if_neg (by omega), if_neg (by omega), finiteValue_neg]
    · simp only [if_neg negative]
      rw [if_neg (by omega), if_neg (by omega)]
      rfl

theorem compares_iff :
    Compares related x y ↔ x.isNaN = false ∧ y.isNaN = false ∧
      related (rankValue x.rank) (rankValue y.rank) := by
  have number {x : Binary64} {a : Extended} (mem : a ∈ x.value?) : x.isNaN = false := by
    by_contra nan
    rw [Option.mem_def, value?, if_pos (by simpa using nan)] at mem
    cases mem
  constructor
  · rintro ⟨a, mem, b, mem', holds⟩
    refine ⟨number mem, number mem', ?_⟩
    rw [value?_of_number (number mem)] at mem
    rw [value?_of_number (number mem')] at mem'
    cases mem
    cases mem'
    exact holds
  · rintro ⟨number, number', holds⟩
    exact ⟨_, value?_of_number number, _, value?_of_number number', holds⟩

/-- The comparison of the ranks is that of the values. -/
theorem lt_iff_below : x.lt y = true ↔ x.Below y := by
  rw [Below, compares_iff]
  simp only [lt, Bool.and_eq_true, Bool.not_eq_true', decide_eq_true_eq, and_assoc]
  refine and_congr_right fun number => and_congr_right fun number' => ?_
  exact (rankValue_strictMonoOn.lt_iff_lt (rank_mem number) (rank_mem number')).symm

theorem le_iff_atMost : x.le y = true ↔ x.AtMost y := by
  rw [AtMost, compares_iff]
  simp only [le, Bool.and_eq_true, Bool.not_eq_true', decide_eq_true_eq, and_assoc]
  refine and_congr_right fun number => and_congr_right fun number' => ?_
  exact (rankValue_strictMonoOn.le_iff_le (rank_mem number) (rank_mem number')).symm

instance : DecidableRel Below := fun _ _ => decidable_of_iff _ lt_iff_below

instance : DecidableRel AtMost := fun _ _ => decidable_of_iff _ le_iff_atMost

theorem Compares.trans {first second both : Extended → Extended → Prop}
    (less : Compares first x y) (more : Compares second y z)
    (step : ∀ a b c, first a b → second b c → both a c) : Compares both x z := by
  obtain ⟨a, mem, b, mem', holds⟩ := less
  obtain ⟨b', mem'', c, last, holds'⟩ := more
  cases Option.mem_unique mem' mem''
  exact ⟨a, mem, c, last, step a b c holds holds'⟩

theorem Below.trans (less : x.Below y) (less' : y.Below z) : x.Below z :=
  Compares.trans less less' fun _ _ _ => lt_trans

theorem AtMost.trans_below (most : x.AtMost y) (less : y.Below z) : x.Below z :=
  Compares.trans most less fun _ _ _ => lt_of_le_of_lt

theorem Below.trans_atMost (less : x.Below y) (most : y.AtMost z) : x.Below z :=
  Compares.trans less most fun _ _ _ => lt_of_lt_of_le

theorem not_below_self : ¬ x.Below x := by
  rintro ⟨a, mem, b, mem', less⟩
  cases Option.mem_unique mem mem'
  exact lt_irrefl a less

/-- The converse fails for a NaN, of which neither holds. -/
theorem AtMost.not_below (most : x.AtMost y) : ¬ y.Below x := by
  intro less
  exact not_below_self (most.trans_below less)

end Numbers

end OpticsCheck.Binary64
