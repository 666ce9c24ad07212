import OpticsCheck.Check.Bounds
import OpticsCheck.Proofs.Binary64.Order

/-!
# Broken bounds

A sample breaks the upper bound when its value lies above it and the lower one, if there is any,
when its value lies below it. It can break both only where the upper bound lies below the lower one,
and bounds that are moved apart are broken by no further samples. A NaN has no value, so as a sample
it breaks nothing and as a bound it is broken by nothing.
-/

namespace OpticsCheck

inductive Side where
  | upper
  | lower
deriving DecidableEq

namespace Violation

def side : Violation → Side
  | .aboveMax _ _ => .upper
  | .belowMin _ _ => .lower

/-- The value of the sample lies beyond the bound. -/
def Broken : Violation → Prop
  | .aboveMax sample max => max.Below sample
  | .belowMin sample min => sample.Below min

instance : DecidablePred Broken
  | .aboveMax sample max => inferInstanceAs (Decidable (max.Below sample))
  | .belowMin sample min => inferInstanceAs (Decidable (sample.Below min))

end Violation

namespace Bounds

/-- The violations that there can be, in the order in which they are listed. -/
def possible (b : Bounds) (sample : Binary64) : List Violation :=
  .aboveMax sample b.max :: (b.min.map (.belowMin sample)).toList

/-- Each bound of `wider` is the one of `b` or lies beyond it. The lower one may be dropped, but not
added. -/
structure WidensTo (b wider : Bounds) : Prop where
  max : wider.max = b.max ∨ b.max.AtMost wider.max
  min : ∀ low ∈ wider.min, ∃ min ∈ b.min, low = min ∨ low.AtMost min

section Violations

variable {b wider : Bounds} {sample min : Binary64}

/-- The violations listed are those that there are. -/
theorem violations_eq_filter (b : Bounds) (sample : Binary64) :
    b.violations sample = (b.possible sample).filter (·.Broken) := by
  unfold violations possible
  simp only [Binary64.lt_iff_below]
  cases b.min with
  | none =>
    by_cases above : b.max.Below sample <;> simp [Violation.Broken, above]
  | some min =>
    by_cases above : b.max.Below sample <;> by_cases below : sample.Below min <;>
      simp [Violation.Broken, above, below]

theorem violations_sublist (b : Bounds) (sample : Binary64) :
    (b.violations sample).Sublist (b.possible sample) := by
  rw [violations_eq_filter]
  exact List.filter_sublist

theorem aboveMax_mem_violations :
    .aboveMax sample b.max ∈ b.violations sample ↔ b.max.Below sample := by
  rw [violations_eq_filter, List.mem_filter, decide_eq_true_eq]
  exact and_iff_right List.mem_cons_self

theorem belowMin_mem_violations (bound : min ∈ b.min) :
    .belowMin sample min ∈ b.violations sample ↔ sample.Below min := by
  have possible : .belowMin sample min ∈ b.possible sample := by
    rw [possible, Option.mem_def.mp bound]
    exact List.mem_cons_of_mem _ List.mem_cons_self
  rw [violations_eq_filter, List.mem_filter, decide_eq_true_eq]
  exact and_iff_right possible

/-- Only an inverted range leaves samples beyond both of its bounds. -/
theorem inverted_of_both (bound : min ∈ b.min)
    (above : .aboveMax sample b.max ∈ b.violations sample)
    (below : .belowMin sample min ∈ b.violations sample) : b.max.Below min :=
  (aboveMax_mem_violations.mp above).trans ((belowMin_mem_violations bound).mp below)

theorem length_violations_le_one (ordered : ∀ min ∈ b.min, min.AtMost b.max) :
    (b.violations sample).length ≤ 1 := by
  have listed := violations_sublist b sample
  cases low : b.min with
  | none =>
    have one : (b.possible sample).length = 1 := by simp [possible, low]
    exact one ▸ listed.length_le
  | some min =>
    by_contra many
    have two : (b.possible sample).length = 2 := by simp [possible, low]
    have all : b.violations sample = b.possible sample := listed.eq_of_length_le (by omega)
    have inverted : b.max.Below min := by
      apply inverted_of_both low
      · rw [all, possible, low]
        exact List.mem_cons_self
      · rw [all, possible, low]
        exact List.mem_cons_of_mem _ List.mem_cons_self
    exact (ordered min low).not_below inverted

/-- The bounds themselves are accepted. -/
theorem contains_of_between (low : ∀ min ∈ b.min, min.AtMost sample)
    (high : sample.AtMost b.max) : b.contains sample = true := by
  rw [contains, List.isEmpty_iff, violations_eq_filter, List.filter_eq_nil_iff]
  intro violation mem
  rw [decide_eq_true_eq]
  rcases List.mem_cons.mp mem with rfl | mem
  · exact high.not_below
  · obtain ⟨min, bound, rfl⟩ := Option.map_eq_some_iff.mp (Option.mem_toList.mp mem)
    exact (low min bound).not_below

/-- Whether the sample lies beyond a bound on that side. -/
def BrokenOn (b : Bounds) (sample : Binary64) : Side → Prop
  | .upper => b.max.Below sample
  | .lower => ∃ min ∈ b.min, sample.Below min

instance : DecidablePred (b.BrokenOn sample)
  | .upper => inferInstanceAs (Decidable (b.max.Below sample))
  | .lower => inferInstanceAs (Decidable (∃ min ∈ b.min, sample.Below min))

theorem sides_violations (b : Bounds) (sample : Binary64) :
    (b.violations sample).map Violation.side =
      [Side.upper, .lower].filter (b.BrokenOn sample) := by
  rw [violations_eq_filter, possible]
  cases low : b.min with
  | none =>
    by_cases above : b.max.Below sample <;>
      simp [Violation.Broken, BrokenOn, Violation.side, low, above]
  | some min =>
    by_cases above : b.max.Below sample <;> by_cases below : sample.Below min <;>
      simp [Violation.Broken, BrokenOn, Violation.side, low, above, below]

theorem WidensTo.brokenOn (widens : b.WidensTo wider) {side : Side}
    (broken : wider.BrokenOn sample side) : b.BrokenOn sample side := by
  cases side with
  | upper =>
    have above : wider.max.Below sample := broken
    rcases widens.max with same | most
    · rw [same] at above
      exact above
    · exact most.trans_below above
  | lower =>
    obtain ⟨low, bound, below⟩ := broken
    obtain ⟨min, bound', rfl | most⟩ := widens.min low bound
    · exact ⟨low, bound', below⟩
    · exact ⟨min, bound', below.trans_atMost most⟩

theorem WidensTo.sublist (widens : b.WidensTo wider) (sample : Binary64) :
    ((wider.violations sample).map Violation.side).Sublist
      ((b.violations sample).map Violation.side) := by
  rw [sides_violations, sides_violations]
  apply List.monotone_filter_right
  intro side broken
  exact decide_eq_true (widens.brokenOn (of_decide_eq_true broken))

end Violations

/-- The violations are those of the bounds beyond which the value of the sample lies, the upper one
first. A range that is not inverted is broken on one side at most and holds its own bounds, and a
wider one is broken on no further side. -/
theorem violations_by_value (b : Bounds) (sample : Binary64) :
    let found := b.violations sample
    found.Sublist (.aboveMax sample b.max :: (b.min.map (.belowMin sample)).toList) ∧
    (.aboveMax sample b.max ∈ found ↔ b.max.Below sample) ∧
    (∀ min ∈ b.min, .belowMin sample min ∈ found ↔ sample.Below min) ∧
    (b.contains sample = true ↔ found = []) ∧
    (∀ min ∈ b.min, .aboveMax sample b.max ∈ found → .belowMin sample min ∈ found →
      b.max.Below min) ∧
    ((∀ min ∈ b.min, min.AtMost b.max) → found.length ≤ 1) ∧
    ((∀ min ∈ b.min, min.AtMost sample) → sample.AtMost b.max → b.contains sample = true) ∧
    ∀ wider : Bounds, b.WidensTo wider →
      ((wider.violations sample).map Violation.side).Sublist (found.map Violation.side) := by
  intro found
  refine ⟨violations_sublist b sample, aboveMax_mem_violations, ?_, List.isEmpty_iff,
    ?_, ?_, ?_, ?_⟩
  · intro min bound
    exact belowMin_mem_violations bound
  · intro min bound above below
    exact inverted_of_both bound above below
  · intro ordered
    exact length_violations_le_one ordered
  · intro low high
    exact contains_of_between low high
  · intro wider widens
    exact widens.sublist sample

/-- Zero breaks both bounds of an inverted range. Between the two zeros lies zero with either sign,
and what is too high there is not where the upper bound is infinite. -/
theorem violations_by_value_of_zeros :
    let inverted := within (.ofNat 5) (.ofInt (-5))
    let zeros := within (.zero false) (.zero true)
    let wide : Bounds := atMost (.infinity false)
    (.aboveMax (.zero false) (.ofInt (-5)) ∈ inverted.violations (.zero false) ∧
      .belowMin (.zero false) (.ofNat 5) ∈ inverted.violations (.zero false) ∧
      (Binary64.ofInt (-5)).Below (.ofNat 5)) ∧
    ((Binary64.zero false).AtMost (.zero true) ∧ (zeros.violations (.ofNat 1)).length ≤ 1) ∧
    ((Binary64.zero true).AtMost (.zero true) ∧ zeros.contains (.zero true) = true) ∧
    zeros.WidensTo wide ∧
    ((wide.violations (.ofNat 1)).map Violation.side).Sublist
      ((zeros.violations (.ofNat 1)).map Violation.side) := by
  intro inverted zeros wide
  obtain ⟨-, above, below, -, crossed, -, -, -⟩ := violations_by_value inverted (.zero false)
  obtain ⟨-, -, -, -, -, once, -, widened⟩ := violations_by_value zeros (.ofNat 1)
  obtain ⟨-, -, -, -, -, -, between, -⟩ := violations_by_value zeros (.zero true)
  have low : Binary64.ofNat 5 ∈ inverted.min := rfl
  have above := above.mpr (by decide +kernel)
  have below := (below _ low).mpr (by decide +kernel)
  have ordered : (Binary64.zero false).AtMost (.zero true) := by decide +kernel
  have self : (Binary64.zero true).AtMost (.zero true) := by decide +kernel
  have widens : zeros.WidensTo wide := ⟨.inr (by decide +kernel), nofun⟩
  refine ⟨⟨above, below, crossed _ low above below⟩, ⟨ordered, once ?_⟩, ⟨self, between ?_ self⟩,
    widens, widened _ widens⟩
  · rintro _ ⟨⟩
    exact ordered
  · rintro _ ⟨⟩
    exact ordered

/-- A NaN is found in the range of a lit laser. -/
example : nominal.violations .nan = [] := by decide +kernel

end Bounds
end OpticsCheck
