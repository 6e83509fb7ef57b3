import Mathlib.Tactic.Linarith
import Mathlib.Tactic.Positivity
import PowerGovernor.Thermal

/-!
The power a temperature permits.

Owns the bounds of the headroom fraction, its fall with the temperature, and that
its only division is by a positive number, all for thresholds in any order.
-/

set_option autoImplicit false

namespace PowerGovernor

namespace ThermalThresholds

/-- `constrained_reduction` is a fraction. -/
def FractionalReduction (t : ThermalThresholds) : Prop :=
  0 ≤ t.constrainedReduction ∧ t.constrainedReduction ≤ 1

end ThermalThresholds

namespace ThermalGovernor

variable {th : ThermalGovernor} {temp : Celsius}

/-! ## The three pieces -/

theorem headroomFraction_normal (normal : temp.value ≤ th.thresholds.normalMax.value) :
    th.headroomFraction (some temp) = 1 := if_pos normal

theorem headroomFraction_between (warm : th.thresholds.normalMax.value < temp.value)
    (below : temp.value < th.thresholds.hotMax.value) :
    th.headroomFraction (some temp) =
      1 - (temp.value - th.thresholds.normalMax.value) /
        (th.thresholds.hotMax.value - th.thresholds.normalMax.value) *
          (1 - th.thresholds.constrainedReduction) :=
  (if_neg (not_le.mpr warm)).trans (if_pos below)

theorem headroomFraction_hot (warm : th.thresholds.normalMax.value < temp.value)
    (hot : th.thresholds.hotMax.value ≤ temp.value) :
    th.headroomFraction (some temp) = th.thresholds.constrainedReduction :=
  (if_neg (not_le.mpr warm)).trans (if_neg (not_lt.mpr hot))

/-- The part of the way from `normal_max` to `hot_max` is a fraction. -/
theorem part_mem {low high t : ℚ} (above : low < t) (below : t < high) :
    0 ≤ (t - low) / (high - low) ∧ (t - low) / (high - low) ≤ 1 := by
  have width : 0 < high - low := by linarith
  constructor
  · exact div_nonneg (by linarith) width.le
  · rw [div_le_one width]
    linarith

/-! ## Bounds -/

theorem reduction_le_headroomFraction (fractional : th.thresholds.FractionalReduction)
    (temp : Celsius) : th.thresholds.constrainedReduction ≤ th.headroomFraction (some temp) := by
  obtain ⟨_, le_one⟩ := fractional
  rcases le_or_gt temp.value th.thresholds.normalMax.value with normal | warm
  · rw [headroomFraction_normal normal]
    exact le_one
  · rcases lt_or_ge temp.value th.thresholds.hotMax.value with below | hot
    · rw [headroomFraction_between warm below]
      obtain ⟨_, part⟩ := part_mem warm below
      have reduced := mul_le_mul_of_nonneg_right part (sub_nonneg.mpr le_one)
      linarith
    · exact (headroomFraction_hot warm hot).ge

theorem headroomFraction_le_one (fractional : th.thresholds.FractionalReduction)
    (temp : Celsius) : th.headroomFraction (some temp) ≤ 1 := by
  obtain ⟨_, le_one⟩ := fractional
  rcases le_or_gt temp.value th.thresholds.normalMax.value with normal | warm
  · exact (headroomFraction_normal normal).le
  · rcases lt_or_ge temp.value th.thresholds.hotMax.value with below | hot
    · rw [headroomFraction_between warm below]
      obtain ⟨part, _⟩ := part_mem warm below
      have reduced := mul_nonneg part (sub_nonneg.mpr le_one)
      linarith
    · rw [headroomFraction_hot warm hot]
      exact le_one

/-- A hotter device has no more headroom: the fraction starts at 1, falls along the line
and ends at the reduction. -/
theorem headroomFraction_antitone (fractional : th.thresholds.FractionalReduction)
    {cooler hotter : Celsius} (order : cooler.value ≤ hotter.value) :
    th.headroomFraction (some hotter) ≤ th.headroomFraction (some cooler) := by
  rcases le_or_gt cooler.value th.thresholds.normalMax.value with normal | warm
  · rw [headroomFraction_normal normal]
    exact headroomFraction_le_one fractional hotter
  · rcases lt_or_ge hotter.value th.thresholds.hotMax.value with below | hot
    · rw [headroomFraction_between warm (order.trans_lt below),
        headroomFraction_between (warm.trans_le order) below]
      have width : 0 < th.thresholds.hotMax.value - th.thresholds.normalMax.value := by linarith
      have further : (cooler.value - th.thresholds.normalMax.value) /
            (th.thresholds.hotMax.value - th.thresholds.normalMax.value) ≤
          (hotter.value - th.thresholds.normalMax.value) /
            (th.thresholds.hotMax.value - th.thresholds.normalMax.value) :=
        div_le_div_of_nonneg_right (by linarith) width.le
      have reduced := mul_le_mul_of_nonneg_right further (sub_nonneg.mpr fractional.2)
      linarith
    · rw [headroomFraction_hot (warm.trans_le order) hot]
      exact reduction_le_headroomFraction fractional cooler

theorem fractional_of_standard (standard : th.thresholds = .standard) :
    th.thresholds.FractionalReduction := by
  rw [standard]
  exact ⟨by decide +kernel, by decide +kernel⟩

/-! ## Divisions -/

/-- A division that fails on a zero divisor. -/
def checkedDiv (dividend divisor : ℚ) : Option ℚ :=
  if divisor = 0 then none else some (dividend / divisor)

/-- `headroom_fraction` with its division checked. -/
def checkedHeadroomFraction (th : ThermalGovernor) : Option Celsius → Option ℚ
  | none => some 1
  | some temp =>
    let t := temp.value
    let nm := th.thresholds.normalMax.value
    let hm := th.thresholds.hotMax.value
    let red := th.thresholds.constrainedReduction
    if t ≤ nm then some 1
    else if t < hm then do
      let frac ← checkedDiv (t - nm) (hm - nm)
      return 1 - frac * (1 - red)
    else some red

/-- It divides only between `normal_max` and `hot_max`, and these differ there. -/
theorem checkedHeadroomFraction_eq (th : ThermalGovernor) (temp : Option Celsius) :
    th.checkedHeadroomFraction temp = some (th.headroomFraction temp) := by
  cases temp with
  | none => rfl
  | some temp =>
      unfold checkedHeadroomFraction
      dsimp only
      rcases le_or_gt temp.value th.thresholds.normalMax.value with normal | warm
      · rw [if_pos normal, headroomFraction_normal normal]
      · rw [if_neg (not_le.mpr warm)]
        rcases lt_or_ge temp.value th.thresholds.hotMax.value with below | hot
        · have divisor : th.thresholds.hotMax.value - th.thresholds.normalMax.value ≠ 0 := by
            linarith
          rw [if_pos below, checkedDiv, if_neg divisor, headroomFraction_between warm below]
          rfl
        · rw [if_neg (not_lt.mpr hot), headroomFraction_hot warm hot]

/-! ## The permitted power -/

/-- A known temperature permits the headroom fraction of the cap. -/
theorem permittedPower_some (fractional : th.thresholds.FractionalReduction) (cap : Watts)
    (temp : Celsius) :
    ∃ power : Watts, th.permittedPower cap (some temp) = .ok (some power) ∧
      power.value = cap.value * th.headroomFraction (some temp) := by
  have headroom := fractional.1.trans (reduction_le_headroomFraction fractional temp)
  refine ⟨⟨_, mul_nonneg cap.nonneg headroom⟩, ?_, rfl⟩
  unfold permittedPower
  rw [noexcept_eq_ok, bind_eq_ok]
  exact ⟨⟨_, mul_nonneg cap.nonneg headroom⟩, Quantity.construct_eq_ok.mpr rfl, rfl⟩

/-- Hotter never permits more power: whatever the order of the thresholds, the permitted
power lies between the reduced cap and the cap and falls with the temperature, and no
division is by zero. -/
theorem hotter_permits_no_more (th : ThermalGovernor)
    (fractional : th.thresholds.FractionalReduction) (cap : Watts) :
    (∀ temp, th.checkedHeadroomFraction temp = some (th.headroomFraction temp)) ∧
    (∀ temp, ∃ power : Watts, th.permittedPower cap (some temp) = .ok (some power) ∧
      cap.value * th.thresholds.constrainedReduction ≤ power.value ∧ power.value ≤ cap.value) ∧
    ∀ cooler hotter : Celsius, cooler.value ≤ hotter.value → ∃ less more : Watts,
      th.permittedPower cap (some hotter) = .ok (some less) ∧
        th.permittedPower cap (some cooler) = .ok (some more) ∧ less.value ≤ more.value := by
  refine ⟨th.checkedHeadroomFraction_eq, fun temp => ?_, fun cooler hotter order => ?_⟩
  · obtain ⟨power, permitted, value⟩ := permittedPower_some fractional cap temp
    have atLeast := reduction_le_headroomFraction fractional temp
    have atMost := headroomFraction_le_one fractional temp
    refine ⟨power, permitted, ?_, ?_⟩
    · rw [value]
      exact mul_le_mul_of_nonneg_left atLeast cap.nonneg
    · rw [value]
      exact mul_le_of_le_one_right cap.nonneg atMost
  · obtain ⟨less, permitted, value⟩ := permittedPower_some fractional cap hotter
    obtain ⟨more, permitted', value'⟩ := permittedPower_some fractional cap cooler
    refine ⟨less, more, permitted, permitted', ?_⟩
    rw [value, value']
    exact mul_le_mul_of_nonneg_left (headroomFraction_antitone fractional order) cap.nonneg

/-- The default thresholds permit between 60 and 100 percent of 250 W. -/
theorem hotter_permits_no_more_standard : ∃ less more : Watts,
    (construct .standard).permittedPower ⟨250, by decide +kernel⟩
        (some ⟨80, by decide +kernel⟩) = .ok (some less) ∧
      (construct .standard).permittedPower ⟨250, by decide +kernel⟩
          (some ⟨70, by decide +kernel⟩) = .ok (some more) ∧
        less.value ≤ more.value :=
  (hotter_permits_no_more (construct .standard) ⟨by decide +kernel, by decide +kernel⟩
    ⟨250, by decide +kernel⟩).2.2 _ _ (by decide +kernel)

end ThermalGovernor

end PowerGovernor
