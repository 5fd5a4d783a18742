import Mathlib.Analysis.Real.Sqrt
import Mathlib.Tactic.LinearCombination
import VehicleLink.Proofs.Quaternion.Quantizing

/-!
How accurate a rotation is that was packed and unpacked. A component that is held is off by half a
step, and one left out by what the squares of the others make of that, which is worst where all four
are equal.
-/

namespace VehicleLink.Quaternion

open Single

variable {q : Quaternion}

def squaredNorm (q : Quaternion) : Rat :=
  q.x.value ^ 2 + q.y.value ^ 2 + q.z.value ^ 2 + q.w.value ^ 2

/-- A component of the quaternion or of its opposite, whichever has a largest component that is not
negative. -/
def upright (q : Quaternion) (i : Fin 4) : Rat :=
  if 0 ≤ (q.component q.largest).value then (q.component i).value else -(q.component i).value

theorem squaredNorm_eq (q : Quaternion) (left : Fin 4) :
    squaredNorm q =
      (q.component left).value ^ 2 +
        ((stored left).map fun i => (q.component i).value ^ 2).sum := by
  have total := ((stored_perm left).map fun i => (q.component i).value ^ 2).sum_eq
  simp only [List.map_cons, List.map_nil, List.sum_cons, List.sum_nil, add_zero] at total
  rw [total, squaredNorm, ← add_assoc, ← add_assoc]
  rfl

/-! ### Components that are held -/

/-- Half a step, with all roundings. -/
def heldError : Rat := 6925 / 10 ^ 7

theorem held_component_close {x : Single} (finite : x.isFinite = true)
    (small : |x.value| ≤ 7072 / 10000) :
    |(ofMagnitude (magnitude x)).value - (|x.value|)| ≤ heldError := by
  obtain ⟨upper, lower⟩ := magnitude_bounds finite small
  have close := abs_le.mp (near_ofMagnitude (magnitude_le x)).close
  have most : (magnitude x : Rat) ≤ 511 := by exact_mod_cast magnitude_le x
  rw [step_eq] at upper lower close
  rw [heldError, abs_le]
  constructor <;> linarith

theorem sq_error {read exact most error : Rat} (nonneg : 0 ≤ exact) (below : exact ≤ most)
    (close : |read - exact| ≤ error) : |read ^ 2 - exact ^ 2| ≤ error * (2 * most + error) := by
  have bounds := abs_le.mp close
  have sum : |read + exact| ≤ 2 * most + error := by
    rw [abs_le]
    constructor <;> linarith
  calc |read ^ 2 - exact ^ 2| = |read - exact| * |read + exact| := by
        rw [← abs_mul]
        ring_nf
    _ ≤ error * (2 * most + error) :=
        mul_le_mul close sum (abs_nonneg _) ((abs_nonneg _).trans close)

theorem lt_zero_eq {x : Single} (finite : x.isFinite = true) :
    x.lt .zero = decide (x.value < 0) := by
  rw [Bool.eq_iff_iff, lt_iff finite zero_finite.1, zero_finite.2, decide_eq_true_iff]

/-- A component that is held comes back with its size for its magnitude and with its own sign. -/
theorem held_eq (finite : ∀ i, (q.component i).isFinite = true) {i : Fin 4}
    (other : i ≠ q.largest) :
    |((decompress q.compress).component i).value| =
        (ofMagnitude (magnitude (q.component i))).value ∧
      |((decompress q.compress).component i).value - upright q i| =
        |(ofMagnitude (magnitude (q.component i))).value - (|(q.component i).value|)| := by
  obtain ⟨size, sign⟩ := group_parts (q.component i) ((q.component q.largest).lt .zero)
  have held : (decompress q.compress).component i = ofGroup (groupOf q.compress i) :=
    component_of_ne (by rwa [omitted_compress])
  rw [held, groupOf_compress q other]
  refine ⟨by rw [abs_value_ofGroup, size], ?_⟩
  simp only [value_ofGroup, size, sign]
  rw [lt_zero_eq (finite i), lt_zero_eq (finite q.largest), upright]
  generalize (ofMagnitude (magnitude (q.component i))).value = read
  rcases lt_or_ge (q.component i).value 0 with below | above
  · rw [decide_eq_true below, abs_of_neg below]
    rcases lt_or_ge (q.component q.largest).value 0 with flipped | kept
    · rw [decide_eq_true flipped, if_neg (by decide), if_neg (not_le.mpr flipped)]
    · rw [decide_eq_false (not_lt.mpr kept), if_pos (by decide), if_pos kept, ← abs_neg]
      ring_nf
  · rw [decide_eq_false (not_lt.mpr above), abs_of_nonneg above]
    rcases lt_or_ge (q.component q.largest).value 0 with flipped | kept
    · rw [decide_eq_true flipped, if_pos (by decide), if_neg (not_le.mpr flipped), ← abs_neg]
      ring_nf
    · rw [decide_eq_false (not_lt.mpr kept), if_neg (by decide), if_pos kept]

theorem mem_stored {left i : Fin 4} : i ∈ stored left ↔ i ≠ left := by
  revert left i
  decide

theorem sum_held (code : UInt32) :
    ((held code).map (·.value ^ 2)).sum =
      ((stored (omitted code)).map fun i => ((decompress code).component i).value ^ 2).sum := by
  have same : ∀ i ∈ stored (omitted code),
      (ofGroup (groupOf code i)).value ^ 2 = ((decompress code).component i).value ^ 2 :=
    fun i member => by rw [component_of_ne (mem_stored.mp member)]
  rw [held, List.map_map, List.map_reverse, List.sum_reverse]
  exact congrArg List.sum (List.map_congr_left same)

theorem squaredNorm_decompress (code : UInt32) :
    squaredNorm (decompress code) =
      (rebuild (held code)).value ^ 2 + ((held code).map (·.value ^ 2)).sum := by
  rw [squaredNorm_eq _ (omitted code), component_omitted, sum_held]

theorem held_square_close (finite : ∀ i, (q.component i).isFinite = true) {i : Fin 4}
    (small : |(q.component i).value| ≤ 7072 / 10000) (other : i ≠ q.largest) :
    |((decompress q.compress).component i).value ^ 2 - (q.component i).value ^ 2| ≤
      heldError * (2 * |(q.component q.largest).value| + heldError) := by
  have close := held_component_close (finite i) small
  rw [← (held_eq finite other).1] at close
  have squares := sq_error (abs_nonneg _) (abs_le_largest finite i) close
  rwa [sq_abs, sq_abs] at squares

section NearlyUnit

variable (finite : ∀ i, (q.component i).isFinite = true)
  (unit : |squaredNorm q - 1| ≤ 1 / 10 ^ 4)

include finite

theorem sq_le_largest (i : Fin 4) :
    (q.component i).value ^ 2 ≤ (q.component q.largest).value ^ 2 :=
  sq_le_sq.mpr (abs_le_largest finite i)

/-- No component has more than four times its share, so the largest has at least its share. -/
theorem squaredNorm_le : squaredNorm q ≤ 4 * (q.component q.largest).value ^ 2 := by
  have x := sq_le_largest finite 0
  have y := sq_le_largest finite 1
  have z := sq_le_largest finite 2
  have w := sq_le_largest finite 3
  calc squaredNorm q =
      (q.component 0).value ^ 2 + (q.component 1).value ^ 2 + (q.component 2).value ^ 2 +
        (q.component 3).value ^ 2 := rfl
    _ ≤ 4 * (q.component q.largest).value ^ 2 := by linarith

include unit

/-- Beside a component at least as large, no component exceeds the root of a half by much. -/
theorem abs_le_of_ne_largest {i : Fin 4} (other : i ≠ q.largest) :
    |(q.component i).value| ≤ 7072 / 10000 := by
  have larger := sq_le_largest finite i
  have among : (q.component i).value ^ 2 ≤
      ((stored q.largest).map fun i => (q.component i).value ^ 2).sum := by
    refine List.single_le_sum (fun square member => ?_) _
      (List.mem_map_of_mem (mem_stored.mpr other))
    obtain ⟨_, _, rfl⟩ := List.mem_map.mp member
    exact sq_nonneg _
  have upper := (abs_le.mp unit).2
  rw [squaredNorm_eq q q.largest] at upper
  exact abs_le_of_sq_le_sq (by linarith) (by norm_num)

theorem held_squares_close :
    |((held q.compress).map (·.value ^ 2)).sum -
        (squaredNorm q - (q.component q.largest).value ^ 2)| ≤
      3 * (heldError * (2 * |(q.component q.largest).value| + heldError)) := by
  have each {i : Fin 4} (other : i ≠ q.largest) := abs_le.mp (held_square_close finite
    (abs_le_of_ne_largest finite unit other) other)
  obtain ⟨first, second, third, beside⟩ := beside_exists q.largest
  obtain ⟨apartFirst, apartSecond, apartThird⟩ := beside.apart
  have closeFirst := each apartFirst
  have closeSecond := each apartSecond
  have closeThird := each apartThird
  rw [sum_held, squaredNorm_eq q q.largest, omitted_compress, beside.stored]
  simp only [List.map_cons, List.map_nil, List.sum_cons, List.sum_nil]
  rw [abs_le]
  constructor <;> linarith

end NearlyUnit

/-! ### The component left out -/

section Rebuilt

variable {largest squares norm : Rat} (nonneg : 0 ≤ largest) (unit : |norm - 1| ≤ 1 / 10 ^ 4)
  (share : norm ≤ 4 * largest ^ 2)
  (close : |squares - (norm - largest ^ 2)| ≤ 3 * (heldError * (2 * largest + heldError)))

include nonneg unit share close

theorem held_below : squares ≤ 1 - 1 / 10 ^ 6 := by
  rw [abs_le] at unit close
  rw [heldError] at close
  nlinarith

/-- The root of what the others leave of one is not far from the largest component. -/
theorem rebuilt_error {rebuilt : Rat} (positive : 0 < rebuilt)
    (root : |rebuilt ^ 2 - (1 - squares)| ≤ 1 / 2 ^ 21) :
    |rebuilt - largest| ≤ 2499 / 10 ^ 6 := by
  rw [abs_le] at unit close root
  rw [heldError] at close
  -- An error of the square is divided by twice the component, so this is what bounds the error.
  have half : 4999 / 10000 ≤ largest := by nlinarith
  rw [abs_le]
  constructor
  · by_contra low
    rw [not_le] at low
    nlinarith
  · by_contra high
    rw [not_le] at high
    nlinarith

end Rebuilt

theorem abs_sqrt_sub_one_le {x : Real} (nonneg : 0 ≤ x) : |√x - 1| ≤ |x - 1| := by
  have root := Real.sqrt_nonneg x
  have factors : x - 1 = (√x - 1) * (√x + 1) := by
    linear_combination -(Real.sq_sqrt nonneg)
  rw [factors, abs_mul, abs_of_nonneg (by linarith : 0 ≤ √x + 1)]
  exact le_mul_of_one_le_right (abs_nonneg _) (by linarith)

theorem quantizationBound_value : quantizationBound.value = 10737418 / 4294967296 := by
  decide +kernel

/-- Packing a finite quaternion of nearly unit norm and unpacking it again keeps every component, up
to a common sign, and the norm within the quantization bound. -/
theorem decompress_compress_close (finite : ∀ i, (q.component i).isFinite = true)
    (unit : |squaredNorm q - 1| ≤ 1 / 10 ^ 4) :
    (∀ i, ((decompress q.compress).component i).isFinite = true ∧
      |((decompress q.compress).component i).value - upright q i| ≤ quantizationBound.value) ∧
    |√(squaredNorm (decompress q.compress) : Real) - 1| ≤ (quantizationBound.value : Real) := by
  have close := held_squares_close finite unit
  have share := squaredNorm_le finite
  rw [← sq_abs (q.component q.largest).value] at close share
  have below := held_below (abs_nonneg _) unit share close
  obtain ⟨rebuilt, positive, root⟩ := rebuild_close (length_held _) (isFinite_held _) below
  have largest := rebuilt_error (abs_nonneg _) unit share close positive root
  refine ⟨fun i => ?_, ?_⟩
  · by_cases left : i = q.largest
    · have whole : (decompress q.compress).component i = rebuild (held q.compress) := by
        rw [left, ← omitted_compress, component_omitted]
      have size : upright q i = |(q.component q.largest).value| := by
        rw [upright, left]
        split
        · next kept => exact (abs_of_nonneg kept).symm
        · next flipped => exact (abs_of_neg (not_le.mp flipped)).symm
      rw [whole, size, quantizationBound_value]
      exact ⟨rebuilt, by linarith⟩
    · have error := held_component_close (finite i) (abs_le_of_ne_largest finite unit left)
      rw [← (held_eq finite left).2, heldError] at error
      rw [component_of_ne (by rwa [omitted_compress])] at error ⊢
      rw [quantizationBound_value]
      exact ⟨isFinite_ofGroup _, by linarith⟩
  · have norm : |squaredNorm (decompress q.compress) - 1| ≤ quantizationBound.value := by
      rw [abs_le] at root
      rw [squaredNorm_decompress, quantizationBound_value, abs_le]
      constructor <;> linarith
    have nonneg : 0 ≤ squaredNorm (decompress q.compress) := by
      rw [squaredNorm]
      positivity
    refine (abs_sqrt_sub_one_le (by exact_mod_cast nonneg)).trans ?_
    exact_mod_cast norm

/-- Where all components are of one size, the rebuilt one is the least accurate. -/
theorem decompress_compress_close_equalComponents :
    let q : Quaternion := ⟨⟨0xbf000150⟩, ⟨0x3f000150⟩, ⟨0x3f000150⟩, ⟨0xbf000150⟩⟩
    (∀ i, ((decompress q.compress).component i).isFinite = true ∧
      |((decompress q.compress).component i).value - upright q i| ≤ quantizationBound.value) ∧
    |√(squaredNorm (decompress q.compress) : Real) - 1| ≤ (quantizationBound.value : Real) :=
  decompress_compress_close (by decide +kernel) (by decide +kernel)

end VehicleLink.Quaternion
