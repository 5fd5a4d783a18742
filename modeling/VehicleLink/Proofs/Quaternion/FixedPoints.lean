import VehicleLink.Proofs.Quaternion.Quantizing

/-!
Codes that survive being unpacked and packed again. Where the component left out is the largest of
all, it is found again, every magnitude is restored, and only the sign of a zero is lost.
-/

namespace VehicleLink.Quaternion

open Single

variable {code other : UInt32}

def magnitudeOf (code : UInt32) (i : Fin 4) : Nat := groupOf code i % 512

def sumOfSquares (code : UInt32) : Nat :=
  ((stored (omitted code)).map fun i => magnitudeOf code i ^ 2).sum

/-- What the unit norm leaves for the component left out is more than any component that is held. -/
def LeavesLargest (code : UInt32) : Prop :=
  ∀ i ≠ omitted code, magnitudeOf code i ^ 2 + sumOfSquares code < 2 * maxMagnitude ^ 2

instance (code : UInt32) : Decidable (LeavesLargest code) :=
  inferInstanceAs (Decidable (∀ i, i ≠ omitted code → _))

def unsignedZero (group : Nat) : Nat := if group % 512 = 0 then 0 else group

/-- A code with the sign bit cleared in every group of magnitude zero. -/
def withoutNegativeZeros (code : UInt32) : UInt32 :=
  assemble (omitted code) fun i => unsignedZero (groupOf code i)

/-! ### One group -/

theorem ofGroup_lt_zero_iff (group : Nat) :
    (ofGroup group).lt .zero = true ↔ group / 512 % 2 = 1 ∧ group % 512 ≠ 0 := by
  obtain ⟨nonneg, positive⟩ := value_ofMagnitude_nonneg (magnitude_group_le group)
  rw [lt_iff (isFinite_ofGroup group) zero_finite.1, zero_finite.2, value_ofGroup]
  split
  · next signed =>
    rw [neg_lt_zero, and_iff_right signed]
    refine ⟨fun above zero => ?_, positive⟩
    rw [zero, ofMagnitude_zero, zero_finite.2] at above
    exact lt_irrefl _ above
  · next unsigned => simp [unsigned, nonneg]

theorem magnitude_ofGroup {group : Nat} {x : Single} (finite : x.isFinite = true)
    (same : |x.value| = |(ofGroup group).value|) : magnitude x = group % 512 := by
  refine magnitude_of_close finite (magnitude_group_le group) ?_
  rw [same, abs_value_ofGroup]
  exact (near_ofMagnitude (magnitude_group_le group)).close

/-- Packing a component restores its ten bits, but for the sign of a zero. -/
theorem group_ofGroup {code : Nat} (within : code < 1024) :
    group (ofGroup code) false = unsignedZero code := by
  rw [group, magnitude_ofGroup (isFinite_ofGroup code) rfl, Bool.xor_false, unsignedZero]
  by_cases negative : (ofGroup code).lt .zero = true
  · obtain ⟨signed, nonzero⟩ := (ofGroup_lt_zero_iff code).mp negative
    rw [if_pos negative, if_neg nonzero]
    omega
  · rw [if_neg negative]
    rw [ofGroup_lt_zero_iff, not_and, not_not] at negative
    split
    · next zero => omega
    · next nonzero =>
      have unsigned : ¬ code / 512 % 2 = 1 := fun signed => nonzero (negative signed)
      omega

/-! ### The component left out -/

theorem sq_ofGroup_bounds (group : Nat) :
    (group % 512 : Nat) ^ 2 * (step * (1 - 1 / 2 ^ 22)) ^ 2 ≤ (ofGroup group).value ^ 2 ∧
      (ofGroup group).value ^ 2 ≤ (group % 512 : Nat) ^ 2 * (step * (1 + 1 / 2 ^ 22)) ^ 2 := by
  have most := magnitude_group_le group
  have close := abs_le.mp (near_ofMagnitude most).close
  have steps : 0 ≤ ((group % 512 : Nat) : Rat) * step := mul_nonneg (Nat.cast_nonneg _) step_pos.le
  rw [← sq_abs (ofGroup group).value, abs_value_ofGroup, ← mul_pow, ← mul_pow]
  constructor
  · exact pow_le_pow_left₀ (by linarith) (by linarith) 2
  · exact pow_le_pow_left₀ (value_ofMagnitude_nonneg most).1 (by linarith) 2

theorem sum_squares_bounds (code : UInt32) (indices : List (Fin 4)) :
    (indices.map fun i => magnitudeOf code i ^ 2).sum * (step * (1 - 1 / 2 ^ 22)) ^ 2 ≤
        ((indices.map fun i => ofGroup (groupOf code i)).map (·.value ^ 2)).sum ∧
      ((indices.map fun i => ofGroup (groupOf code i)).map (·.value ^ 2)).sum ≤
        (indices.map fun i => magnitudeOf code i ^ 2).sum * (step * (1 + 1 / 2 ^ 22)) ^ 2 := by
  induction indices with
  | nil => simp
  | cons i rest ih =>
      obtain ⟨lower, upper⟩ := sq_ofGroup_bounds (groupOf code i)
      simp only [List.map_cons, List.sum_cons] at ih ⊢
      push_cast [magnitudeOf] at ih lower upper ⊢
      constructor <;> linarith

theorem held_bounds (code : UInt32) :
    sumOfSquares code * (step * (1 - 1 / 2 ^ 22)) ^ 2 ≤ ((held code).map (·.value ^ 2)).sum ∧
      ((held code).map (·.value ^ 2)).sum ≤ sumOfSquares code * (step * (1 + 1 / 2 ^ 22)) ^ 2 := by
  have bounds := sum_squares_bounds code (stored (omitted code)).reverse
  rwa [List.map_reverse (f := fun i => magnitudeOf code i ^ 2), List.sum_reverse] at bounds

/-- The room that is left where the bound is not reached outweighs all roundings. -/
theorem scaled_lt_one {squares : Nat} (below : squares < 2 * maxMagnitude ^ 2) :
    (squares : Rat) * (step * (1 + 1 / 2 ^ 22)) ^ 2 ≤ 1 - 14 / 10 ^ 7 := by
  have most : (squares : Rat) ≤ 522241 := by
    simp only [maxMagnitude] at below
    exact_mod_cast Nat.le_of_lt_succ below
  rw [step_eq]
  linarith

theorem sq_add_sum_le (leaves : LeavesLargest code) {i : Fin 4} (other : i ≠ omitted code) :
    (ofGroup (groupOf code i)).value ^ 2 + ((held code).map (·.value ^ 2)).sum ≤
      1 - 14 / 10 ^ 7 := by
  have bound := scaled_lt_one (leaves i other)
  have square := (sq_ofGroup_bounds (groupOf code i)).2
  push_cast [magnitudeOf] at bound square
  linarith [(held_bounds code).2]

theorem rebuild_largest (leaves : LeavesLargest code) :
    (rebuild (held code)).isFinite = true ∧ 0 < (rebuild (held code)).value ∧
      ∀ i ≠ omitted code, |(ofGroup (groupOf code i)).value| < (rebuild (held code)).value := by
  obtain ⟨first, _, _, beside⟩ := beside_exists (omitted code)
  have below : ((held code).map (·.value ^ 2)).sum ≤ 1 - 1 / 10 ^ 6 := by
    linarith [sq_add_sum_le leaves beside.apart.1, sq_nonneg (ofGroup (groupOf code first)).value]
  obtain ⟨finite, positive, close⟩ := rebuild_close (length_held code) (isFinite_held code) below
  rw [abs_le] at close
  refine ⟨finite, positive, fun i other => abs_lt_of_sq_lt_sq ?_ positive.le⟩
  linarith [sq_add_sum_le leaves other]

/-! ### Codes -/

theorem largest_decompress (leaves : LeavesLargest code) :
    (decompress code).largest = omitted code := by
  obtain ⟨finite, positive, above⟩ := rebuild_largest leaves
  refine largest_of_lt (fun i => ?_) fun i other => ?_
  · by_cases same : i = omitted code
    · rwa [same, component_omitted]
    · rw [component_of_ne same]
      exact isFinite_ofGroup _
  · rw [component_omitted, component_of_ne other, abs_of_pos positive]
    exact above i other

theorem compress_decompress_eq (leaves : LeavesLargest code) :
    (decompress code).compress = withoutNegativeZeros code := by
  obtain ⟨finite, positive, _⟩ := rebuild_largest leaves
  have unflipped : (rebuild (held code)).lt .zero = false := by
    rw [← Bool.not_eq_true, lt_iff finite zero_finite.1, zero_finite.2]
    exact not_lt.mpr positive.le
  rw [compress_eq, largest_decompress leaves, component_omitted, unflipped]
  refine assemble_congr fun i other => ?_
  rw [component_of_ne other]
  exact group_ofGroup (groupOf_lt code i)

theorem unsignedZero_of_ne {group : Nat} (within : group < 1024) (positive : group ≠ 512) :
    unsignedZero group = group := by
  rw [unsignedZero]
  split
  · omega
  · rfl

theorem withoutNegativeZeros_eq (positive : ∀ i ≠ omitted code, groupOf code i ≠ 512) :
    withoutNegativeZeros code = code := by
  refine (assemble_congr fun i other => ?_).trans (assemble_groupOf code)
  exact unsignedZero_of_ne (groupOf_lt code i) (positive i other)

/-- A group can be told from the number that its float is, but for the sign of a zero. -/
theorem unsignedZero_of_value {left right : Nat} (leftWithin : left < 1024)
    (rightWithin : right < 1024) (same : (ofGroup left).value = (ofGroup right).value) :
    unsignedZero left = unsignedZero right := by
  have sizes : magnitude (ofGroup left) = magnitude (ofGroup right) := by
    have restored : magnitude (ofGroup left) = right % 512 :=
      magnitude_ofGroup (isFinite_ofGroup left) (by rw [same])
    rw [restored, magnitude_ofGroup (isFinite_ofGroup right) rfl]
  have signs : (ofGroup left).lt .zero = (ofGroup right).lt .zero := by
    rw [Bool.eq_iff_iff, lt_iff (isFinite_ofGroup left) zero_finite.1,
      lt_iff (isFinite_ofGroup right) zero_finite.1, same]
  rw [← group_ofGroup leftWithin, ← group_ofGroup rightWithin, group, group, sizes, signs]

theorem ofGroup_injective {left right : Nat} (leftWithin : left < 1024) (rightWithin : right < 1024)
    (same : ofGroup left = ofGroup right) : left = right := by
  have cleared := unsignedZero_of_value leftWithin rightWithin (congrArg Single.value same)
  have signs : ofGroup 0 ≠ ofGroup 512 := by decide +kernel
  by_cases zero : left % 512 = 0
  · have zeroRight : right % 512 = 0 := by
      by_contra nonzero
      simp only [unsignedZero, if_pos zero, if_neg nonzero] at cleared
      omega
    have leftZeros : left = 0 ∨ left = 512 := by omega
    have rightZeros : right = 0 ∨ right = 512 := by omega
    rcases leftZeros with rfl | rfl <;> rcases rightZeros with rfl | rfl
    · rfl
    · exact absurd same signs
    · exact absurd same.symm signs
    · rfl
  · have nonzeroRight : right % 512 ≠ 0 := by
      intro zeroRight
      simp only [unsignedZero, if_neg zero, if_pos zeroRight] at cleared
      omega
    simpa only [unsignedZero, if_neg zero, if_neg nonzeroRight] using cleared

theorem omitted_eq_of_values (leaves : LeavesLargest code) (leavesOther : LeavesLargest other)
    (same : ∀ i, ((decompress code).component i).value = ((decompress other).component i).value) :
    omitted code = omitted other := by
  by_contra apart
  have above := (rebuild_largest leaves).2.2 (omitted other) (Ne.symm apart)
  have aboveOther := (rebuild_largest leavesOther).2.2 (omitted code) apart
  have first := same (omitted code)
  have second := same (omitted other)
  rw [component_omitted, component_of_ne apart] at first
  rw [component_omitted, component_of_ne (Ne.symm apart)] at second
  rw [second] at above
  rw [← first] at aboveOther
  exact lt_asymm ((le_abs_self _).trans_lt above) ((le_abs_self _).trans_lt aboveOther)

theorem code_of_groups (omits : omitted code = omitted other)
    (same : ∀ i ≠ omitted code, groupOf code i = groupOf other i) : code = other := by
  rw [← assemble_groupOf code, ← assemble_groupOf other, ← omits]
  exact assemble_congr same

theorem decompress_injective (leaves : LeavesLargest code) (leavesOther : LeavesLargest other)
    (same : decompress code = decompress other) : code = other := by
  have omits := omitted_eq_of_values leaves leavesOther fun i => by rw [same]
  refine code_of_groups omits fun i held => ?_
  refine ofGroup_injective (groupOf_lt code i) (groupOf_lt other i) ?_
  rw [← component_of_ne held, same, component_of_ne (omits ▸ held)]

theorem withoutNegativeZeros_of_values (leaves : LeavesLargest code)
    (leavesOther : LeavesLargest other)
    (same : ∀ i, ((decompress code).component i).value = ((decompress other).component i).value) :
    withoutNegativeZeros code = withoutNegativeZeros other := by
  have omits := omitted_eq_of_values leaves leavesOther same
  rw [withoutNegativeZeros, withoutNegativeZeros, ← omits]
  refine assemble_congr fun i held => ?_
  refine unsignedZero_of_value (groupOf_lt code i) (groupOf_lt other i) ?_
  rw [← component_of_ne held, same, component_of_ne (omits ▸ held)]

/-- Where the component left out is the largest, packing undoes unpacking but for the signs of
zeros. Such codes can be told apart by what they are unpacked to, also by the numbers alone if no
negative zero is among them. -/
theorem compress_decompress (leaves : LeavesLargest code) :
    (decompress code).compress = withoutNegativeZeros code ∧
      ((∀ i ≠ omitted code, groupOf code i ≠ 512) → (decompress code).compress = code) ∧
      ∀ other, LeavesLargest other →
        (decompress code = decompress other → code = other) ∧
        ((∀ i, ((decompress code).component i).value = ((decompress other).component i).value) →
          withoutNegativeZeros code = withoutNegativeZeros other) := by
  have restored := compress_decompress_eq leaves
  refine ⟨restored, fun positive => ?_, fun other leavesOther => ⟨?_, ?_⟩⟩
  · rw [restored, withoutNegativeZeros_eq positive]
  · exact decompress_injective leaves leavesOther
  · exact withoutNegativeZeros_of_values leaves leavesOther

/-- A code close to the bound, and the one that differs from it by a negative zero. -/
theorem compress_decompress_atBound :
    LeavesLargest 0xbfe0002d ∧ LeavesLargest 0xbfe8002d ∧
      (∀ i ≠ omitted 0xbfe0002d, groupOf 0xbfe0002d i ≠ 512) ∧
      (decompress 0xbfe0002d).compress = 0xbfe0002d ∧
      (decompress 0xbfe8002d).compress = withoutNegativeZeros 0xbfe8002d ∧
      withoutNegativeZeros 0xbfe0002d = withoutNegativeZeros 0xbfe8002d := by
  have leaves : LeavesLargest 0xbfe0002d := by decide
  have leavesOther : LeavesLargest 0xbfe8002d := by decide
  have positive : ∀ i ≠ omitted 0xbfe0002d, groupOf 0xbfe0002d i ≠ 512 := by decide
  have same : ∀ i, ((decompress 0xbfe0002d).component i).value =
      ((decompress 0xbfe8002d).component i).value := by decide +kernel
  have restored := compress_decompress leaves
  exact ⟨leaves, leavesOther, positive, restored.2.1 positive, (compress_decompress leavesOther).1,
    (restored.2.2 _ leavesOther).2 same⟩

end VehicleLink.Quaternion
