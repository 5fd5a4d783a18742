import VehicleLink.Proofs.Quaternion.Accuracy
import VehicleLink.Proofs.Quaternion.FixedPoints

/-!
What any code is unpacked to, also one that packing never makes. All four components are finite and
within their bounds. They make a unit quaternion wherever the three that are held leave room for the
fourth, and where they leave none the fourth is zero.
-/

namespace VehicleLink.Quaternion

open Single

/-! ### The component left out -/

section Rebuilt

variable {components : List Single} (three : components.length ≤ 3)
  (finite : ∀ x ∈ components, x.isFinite = true)

include three finite

/-- What is left of one, as it is computed, and how far that is from what the squares leave. -/
theorem rounds_left (below : (components.map (·.value ^ 2)).sum ≤ 2) :
    (Single.one - summed components).Rounds (1 - (summed components).value) ∧
      0 ≤ (summed components).value ∧
      |(summed components).value - (components.map (·.value ^ 2)).sum| ≤
        ((components.map (·.value ^ 2)).sum + 6) * (1001 / 1000) / 2 ^ 24 := by
  have squares := sum_squares_nonneg components
  obtain ⟨near, above⟩ := near_summed one_le_two (le_refl (2 : Rat)) three finite below
  have close := near.close
  norm_num at close
  have total := abs_le.mp close
  have difference := rounds_sub one_finite.1 near.finite (by
    rw [one_finite.2, abs_lt]
    constructor <;> linarith)
  rw [one_finite.2] at difference
  refine ⟨difference, above, ?_⟩
  rw [abs_le]
  constructor <;> linarith

theorem rebuild_bounds (below : (components.map (·.value ^ 2)).sum ≤ 2) :
    (rebuild components).isFinite = true ∧ 0 ≤ (rebuild components).value ∧
      (rebuild components).value ≤ 1 := by
  obtain ⟨difference, above, _⟩ := rounds_left three finite below
  have capped : (Single.one - summed components).value ≤ 1 := by
    have := difference.capped 0 (by decide) (by rw [zpow_zero]; linarith)
    rwa [zpow_zero] at this
  obtain ⟨maxFinite, maxValue⟩ := max_finite difference.finite zero_finite.1
  rw [zero_finite.2] at maxValue
  rw [rebuild_eq]
  rcases (le_max_right (Single.one - summed components).value 0).eq_or_lt with nothing | positive
  · rw [← nothing] at maxValue
    rw [sqrt_zero maxValue maxFinite, maxValue]
    exact ⟨maxFinite, le_refl 0, zero_le_one⟩
  · rw [← maxValue] at positive
    have most : ((Single.one - summed components).max .zero).value ≤ 1 := by
      rw [maxValue]
      exact max_le capped zero_le_one
    have least := le_value_of_pos maxFinite positive
    obtain ⟨rooted, root, _⟩ := sqrt_bounds maxFinite (by linarith) (by linarith)
    exact ⟨rooted, root.le, sqrt_le_one maxFinite positive most⟩

/-- Squares that make more than one leave nothing. -/
theorem rebuild_eq_zero (above : 1 + 1 / 10 ^ 6 ≤ (components.map (·.value ^ 2)).sum)
    (below : (components.map (·.value ^ 2)).sum ≤ 2) : rebuild components = .zero := by
  obtain ⟨difference, _, close⟩ := rounds_left three finite below
  have total := abs_le.mp close
  have left := abs_le.mp difference.close
  rw [roundingError, abs_of_neg (by linarith)] at left
  have negative : (Single.one - summed components).lt .zero = true := by
    rw [lt_iff difference.finite zero_finite.1, zero_finite.2]
    linarith
  have number : (Single.one - summed components).isNaN = false := isNaN_of_finite difference.finite
  have none : (Single.one - summed components).max .zero = .zero := by
    rw [Single.max, number, if_neg Bool.false_ne_true, if_pos negative]
  rw [rebuild_eq, none, sqrt_zero zero_finite.2 zero_finite.1]

/-- Squares that make about one leave what is missing, or nothing. -/
theorem rebuild_of_full (above : 1 - 1 / 10 ^ 6 ≤ (components.map (·.value ^ 2)).sum)
    (below : (components.map (·.value ^ 2)).sum ≤ 1 + 1 / 10 ^ 6) :
    |(rebuild components).value ^ 2 + (components.map (·.value ^ 2)).sum - 1| ≤ 1 / 10 ^ 6 := by
  obtain ⟨difference, _, close⟩ := rounds_left three finite (by linarith)
  have total := abs_le.mp close
  obtain ⟨maxFinite, maxValue⟩ := max_finite difference.finite zero_finite.1
  rw [zero_finite.2] at maxValue
  rw [rebuild_eq]
  rcases (le_max_right (Single.one - summed components).value 0).eq_or_lt with nothing | positive
  · rw [← nothing] at maxValue
    rw [sqrt_zero maxValue maxFinite, maxValue, abs_le]
    constructor <;> linarith
  · have same := max_eq_left (lt_max_iff.mp positive |>.resolve_right (lt_irrefl 0)).le
    rw [same] at maxValue positive
    rw [← maxValue] at positive
    have left := abs_le.mp difference.close
    have size : |1 - (summed components).value| ≤ 1 / 10 ^ 5 := by
      rw [abs_le]
      constructor <;> linarith
    rw [roundingError] at left
    have least := le_value_of_pos maxFinite positive
    obtain ⟨_, _, lower, upper⟩ := sqrt_bounds maxFinite (by linarith) (by linarith)
    rw [mul_pow] at lower upper
    rw [abs_le]
    constructor <;> linarith

end Rebuilt

/-! ### The components that are held -/

theorem value_ofMagnitude_le {count : Nat} (most : count ≤ maxMagnitude) :
    (ofMagnitude count).value ≤ rootHalf.value := by
  rcases most.eq_or_lt with rfl | less
  · decide +kernel
  · have close := abs_le.mp (near_ofMagnitude most).close
    have counted : (count : Rat) ≤ 510 := by exact_mod_cast Nat.le_of_lt_succ less
    rw [step_eq] at close
    rw [rootHalf_finite.2]
    linarith

theorem sumOfSquares_le (code : UInt32) : sumOfSquares code ≤ 3 * maxMagnitude ^ 2 := by
  have each (i : Fin 4) : magnitudeOf code i ^ 2 ≤ maxMagnitude ^ 2 :=
    Nat.pow_le_pow_left (magnitude_group_le (groupOf code i)) 2
  obtain ⟨first, second, third, beside⟩ := beside_exists (omitted code)
  have stored : sumOfSquares code = magnitudeOf code first ^ 2 +
      (magnitudeOf code second ^ 2 + magnitudeOf code third ^ 2) := by
    simp [sumOfSquares, beside.stored]
  linarith [each first, each second, each third]

theorem held_le_two (code : UInt32) : ((held code).map (·.value ^ 2)).sum ≤ 2 := by
  have most : (sumOfSquares code : Rat) ≤ 3 * 511 ^ 2 := by
    exact_mod_cast sumOfSquares_le code
  have bound := (held_bounds code).2
  rw [step_eq] at bound
  linarith

/-! ### All codes -/

/-- What holds of the four components that a code is unpacked to. -/
structure Sound (code : UInt32) : Prop where
  finite : ∀ i, ((decompress code).component i).isFinite = true
  held : ∀ i ≠ omitted code, |((decompress code).component i).value| ≤ rootHalf.value
  rebuilt : 0 ≤ ((decompress code).component (omitted code)).value ∧
    ((decompress code).component (omitted code)).value ≤ 1
  /-- The components make a unit quaternion if those that are held leave room. -/
  unit : sumOfSquares code ≤ 2 * maxMagnitude ^ 2 →
    |squaredNorm (decompress code) - 1| ≤ 1 / 10 ^ 6
  /-- If they leave none, the component left out is zero. -/
  full : 2 * maxMagnitude ^ 2 < sumOfSquares code →
    (decompress code).component (omitted code) = .zero

theorem decompress_unit {code : UInt32} (room : sumOfSquares code ≤ 2 * maxMagnitude ^ 2) :
    |squaredNorm (decompress code) - 1| ≤ 1 / 10 ^ 6 := by
  have most : (sumOfSquares code : Rat) ≤ 2 * 511 ^ 2 := by exact_mod_cast room
  have bound := (held_bounds code).2
  rw [step_eq] at bound
  rw [squaredNorm_decompress]
  rcases le_total ((held code).map (·.value ^ 2)).sum (1 - 1 / 10 ^ 6) with below | above
  · obtain ⟨_, _, close⟩ := rebuild_close (length_held code) (isFinite_held code) below
    rw [abs_le] at close ⊢
    constructor <;> linarith
  · exact rebuild_of_full (length_held code) (isFinite_held code) above (by linarith)

theorem decompress_full {code : UInt32} (full : 2 * maxMagnitude ^ 2 < sumOfSquares code) :
    (decompress code).component (omitted code) = .zero := by
  have least : (2 * 511 ^ 2 + 1 : Rat) ≤ sumOfSquares code := by exact_mod_cast full
  have bound := (held_bounds code).1
  rw [step_eq] at bound
  rw [component_omitted]
  exact rebuild_eq_zero (length_held code) (isFinite_held code) (by linarith) (held_le_two code)

/-- Whatever is received, it is unpacked to finite components within their bounds. -/
theorem decompress_sound (code : UInt32) : Sound code := by
  obtain ⟨rebuilt, nonneg, most⟩ :=
    rebuild_bounds (length_held code) (isFinite_held code) (held_le_two code)
  refine ⟨fun i => ?_, fun i other => ?_, ?_, decompress_unit, decompress_full⟩
  · by_cases left : i = omitted code
    · rwa [left, component_omitted]
    · rw [component_of_ne left]
      exact isFinite_ofGroup _
  · rw [component_of_ne other, abs_value_ofGroup]
    exact value_ofMagnitude_le (magnitude_group_le _)
  · rw [component_omitted]
    exact ⟨nonneg, most⟩

end VehicleLink.Quaternion
