import VehicleLink.Proofs.Quaternion.FixedPoints
import VehicleLink.Proofs.Quaternion.Packing

/-!
A quaternion and its opposite are one rotation, also in a code: both leave out the same component,
store the same magnitudes and are unpacked to the same values. The signs flip together, but for that
of a zero, which is not below zero on either side.
-/

namespace VehicleLink

namespace Single

/-- Two floats compare as equal if they are one number, whatever the signs of zeros. -/
structure Equals (x y : Single) : Prop where
  left : x.isFinite = true
  right : y.isFinite = true
  same : x.value = y.value

theorem Equals.refl {x : Single} (finite : x.isFinite = true) : x.Equals x := ⟨finite, finite, rfl⟩

end Single

namespace Quaternion

open Binary Single

variable {q : Quaternion} {i : Fin 4}

instance : Neg Quaternion := ⟨fun q => ofComponents fun i => -q.component i⟩

theorem component_neg (q : Quaternion) (i : Fin 4) : (-q).component i = -q.component i :=
  match i with
  | 0 | 1 | 2 | 3 => rfl

theorem largest_neg (q : Quaternion) : (-q).largest = q.largest := by
  simp only [largest, component_neg, Single.abs_neg]

theorem magnitude_neg (x : Single) : magnitude (-x) = magnitude x := by
  rw [magnitude, magnitude, Single.abs_neg]

/-! ### Zeros -/

theorem magnitude_of_isZero {x : Single} (zero : x.IsZero) : magnitude x = 0 :=
  magnitude_of_close zero.1 (Nat.zero_le _) (by rw [zero.2]; norm_num)

theorem datum_abs_of_isZero {x : Single} (zero : x.IsZero) : x.abs.datum = .finite false 0 := by
  rw [datum_abs_finite zero.1, zero.2, abs_zero]

theorem not_lt_abs_zero {x y : Single} (number : x.isNaN = false) (zero : y.IsZero) :
    x.abs.lt y.abs = false := by
  have unsigned := unsigned_abs number
  rw [Single.lt, datum_abs_of_isZero zero]
  generalize x.abs.datum = exact at unsigned ⊢
  cases unsigned with
  | infinite => rfl
  | finite nonneg => exact decide_eq_false nonneg.not_gt

theorem isZero_of_not_lt {x y : Single} (zero : x.IsZero) (number : y.isNaN = false)
    (notGreater : x.abs.lt y.abs = false) : y.IsZero := by
  rw [Single.lt, datum_abs_of_isZero zero, datum_abs] at notGreater
  cases same : y.datum with
  | nan => exact absurd same (datum_ne_nan number)
  | infinity negative =>
      rw [same] at notGreater
      exact absurd notGreater Bool.noConfusion
  | finite negative magnitude =>
      rw [same] at notGreater
      have nothing : magnitude = 0 :=
        le_antisymm (not_lt.mp (of_decide_eq_false notGreater)) (datum_nonneg same)
      obtain ⟨finite, exact⟩ := finite_of_datum same
      refine ⟨finite, ?_⟩
      rw [exact, Datum.value_finite, nothing, neg_zero, ite_self]

section Numbers

variable (numbers : ∀ i, (q.component i).isNaN = false)

include numbers

/-- A scan that ends at a zero has seen nothing else. -/
theorem Scan.zeros {best found : Fin 4} {rest : List (Fin 4)} (scan : Scan q best rest found)
    (zero : (q.component found).IsZero) :
    (q.component best).IsZero ∧ ∀ i ∈ rest, (q.component i).IsZero := by
  induction scan with
  | done best => exact ⟨zero, nofun⟩
  | @move best i found rest greater _ ih =>
      rw [not_lt_abs_zero (numbers best) (ih zero).1] at greater
      exact absurd greater Bool.false_ne_true
  | @stay best i found rest notGreater _ ih =>
      obtain ⟨zeroBest, others⟩ := ih zero
      have next := isZero_of_not_lt zeroBest (numbers i) notGreater
      exact ⟨zeroBest, List.forall_mem_cons.mpr ⟨next, others⟩⟩

theorem zeros_of_largest (zero : (q.component q.largest).IsZero) (i : Fin 4) :
    (q.component i).IsZero := by
  obtain ⟨first, others⟩ := Scan.zeros numbers ((scan_iff q q.largest).mpr rfl) zero
  match i with
  | 0 => exact first
  | 1 => exact others 1 (by decide)
  | 2 => exact others 2 (by decide)
  | 3 => exact others 3 (by decide)

/-! ### Groups -/

theorem groupOf_neg (other : i ≠ q.largest) (nonzero : ¬ (q.component i).IsZero) :
    groupOf (-q).compress i = groupOf q.compress i := by
  -- A component that is not zero makes the largest one so, and both tests flip.
  have largest : ¬ (q.component q.largest).IsZero := fun zero =>
    nonzero (zeros_of_largest numbers zero i)
  rw [groupOf_compress _ (by rwa [largest_neg]), groupOf_compress _ other, largest_neg,
    component_neg, component_neg, group, group, magnitude_neg, lt_zero_neg (numbers i) nonzero,
    lt_zero_neg (numbers _) largest, Bool.not_xor_not]

end Numbers

theorem magnitudeOf_neg (other : i ≠ q.largest) :
    magnitudeOf (-q).compress i = magnitudeOf q.compress i := by
  rw [magnitudeOf, magnitudeOf, groupOf_compress _ (by rwa [largest_neg]),
    groupOf_compress _ other, (group_parts _ _).1, (group_parts _ _).1, component_neg,
    magnitude_neg]

theorem omitted_neg (q : Quaternion) : omitted (-q).compress = omitted q.compress := by
  rw [omitted_compress, omitted_compress, largest_neg]

/-! ### Signs -/

/-- Two codes of one layout and equal magnitudes differ in signs only. -/
theorem sign_of_testBit_ne {code other : UInt32} {bit : Nat} (omits : omitted other = omitted code)
    (same : ∀ i ≠ omitted code, magnitudeOf other i = magnitudeOf code i)
    (differs : other.toNat.testBit bit ≠ code.toNat.testBit bit) :
    ∃ i ≠ omitted code, groupOf other i ≠ groupOf code i ∧
      bit = 10 * place (omitted code) i + 9 := by
  rw [testBit_code, testBit_code, omits] at differs
  split at differs
  · obtain ⟨i, apart, placed⟩ := place_surjective (omitted code) (by omega : bit / 10 < 3)
    have left : groupAt other (bit / 10) = groupOf other i := by rw [groupOf, omits, placed]
    have right : groupAt code (bit / 10) = groupOf code i := by rw [groupOf, placed]
    rw [left, right] at differs
    refine ⟨i, apart, fun equal => differs (by rw [equal]), ?_⟩
    by_contra elsewhere
    have inside : bit % 10 < 9 := by omega
    have low (code : UInt32) :
        (groupOf code i).testBit (bit % 10) = (magnitudeOf code i).testBit (bit % 10) :=
      (testBit_low _ 9 inside).symm
    rw [low, low, same i apart] at differs
    exact differs rfl
  · exact absurd rfl differs

/-! ### What is unpacked -/

theorem ofGroup_mul_self (group : Nat) :
    ofGroup group * ofGroup group = ofMagnitude (group % 512) * ofMagnitude (group % 512) := by
  simp only [ofGroup]
  split
  · exact Single.neg_mul_neg _ _
  · rfl

theorem summed_eq (components : List Single) :
    summed components = (components.map fun x => x * x).foldl (· + ·) .zero := by
  rw [summed, List.foldl_map]

theorem rebuild_congr {code other : UInt32} (omits : omitted other = omitted code)
    (same : ∀ i ≠ omitted code, magnitudeOf other i = magnitudeOf code i) :
    rebuild (held other) = rebuild (held code) := by
  have squares : (held other).map (fun x => x * x) = (held code).map fun x => x * x := by
    rw [held, held, omits, List.map_map, List.map_map]
    refine List.map_congr_left fun i member => ?_
    have apart : i ≠ omitted code := by
      simpa using List.of_mem_filter (List.mem_reverse.mp member)
    simp only [Function.comp_apply, ofGroup_mul_self]
    rw [← magnitudeOf, ← magnitudeOf, same i apart]
  rw [rebuild_eq, rebuild_eq, summed_eq, summed_eq, squares]

theorem value_ofGroup_zero {group : Nat} (zero : group % 512 = 0) : (ofGroup group).value = 0 := by
  rw [value_ofGroup, zero, ofMagnitude_zero, zero_finite.2, neg_zero, ite_self]

theorem decompress_neg (numbers : ∀ i, (q.component i).isNaN = false) (i : Fin 4) :
    ((decompress (-q).compress).component i).Equals ((decompress q.compress).component i) := by
  have omits := omitted_neg q
  by_cases left : i = q.largest
  · have rebuilt := rebuild_congr omits fun i other =>
      magnitudeOf_neg (by rwa [omitted_compress] at other)
    rw [component_decompress, component_decompress, omits, omitted_compress, if_pos left, if_pos left,
      rebuilt]
    exact .refl (rebuild_bounds (length_held _) (isFinite_held _) (held_le_two _)).1
  · rw [component_of_ne (by rwa [omits, omitted_compress]),
      component_of_ne (by rwa [omitted_compress])]
    by_cases zero : (q.component i).IsZero
    · have none : magnitudeOf q.compress i = 0 := by
        rw [magnitudeOf, groupOf_compress _ left, (group_parts _ _).1, magnitude_of_isZero zero]
      refine ⟨isFinite_ofGroup _, isFinite_ofGroup _, ?_⟩
      rw [value_ofGroup_zero none, value_ofGroup_zero ((magnitudeOf_neg left).trans none)]
    · rw [groupOf_neg numbers left zero]
      exact .refl (isFinite_ofGroup _)

/-! ### Opposite quaternions -/

/-- How the code of the opposite of a quaternion relates to its own. -/
structure Opposite (q : Quaternion) : Prop where
  index : (-q).largest = q.largest ∧ bits (-q).compress 30 2 = bits q.compress 30 2
  magnitudes : ∀ i ≠ q.largest,
    bits (-q).compress (10 * place q.largest i) 9 = bits q.compress (10 * place q.largest i) 9
  /-- A bit that differs is the sign bit of a group whose component is zero. -/
  signs : ∀ bit, (-q).compress.toNat.testBit bit ≠ q.compress.toNat.testBit bit →
    ∃ i ≠ q.largest, (q.component i).IsZero ∧ bit = 10 * place q.largest i + 9
  unpacked : ∀ i,
    ((decompress (-q).compress).component i).Equals ((decompress q.compress).component i)

theorem compress_opposite (numbers : ∀ i, (q.component i).isNaN = false) : Opposite q := by
  have omits := omitted_neg q
  refine ⟨⟨largest_neg q, by rw [bits_index, bits_index, omits]⟩, fun i other => ?_,
    fun bit differs => ?_, decompress_neg numbers⟩
  · have left := bits_magnitude (-q).compress i
    have right := bits_magnitude q.compress i
    rw [omits] at left
    rw [omitted_compress] at left right
    rw [left, right]
    exact magnitudeOf_neg other
  · obtain ⟨i, apart, changed, sign⟩ := sign_of_testBit_ne omits
      (fun i other => magnitudeOf_neg (by rwa [omitted_compress] at other)) differs
    rw [omitted_compress] at apart sign
    refine ⟨i, apart, ?_, sign⟩
    by_contra nonzero
    exact changed (groupOf_neg numbers apart nonzero)

/-- Infinite components and zeros of both signs: the codes are not equal here. -/
theorem compress_opposite_infinite :
    let q : Quaternion := ⟨⟨0xff800000⟩, .zero, half, -.zero⟩
    (∀ i, (q.component i).isNaN = false) ∧ (-q).compress ≠ q.compress ∧ Opposite q :=
  ⟨by decide +kernel, by decide +kernel, compress_opposite (by decide +kernel)⟩

end Quaternion

end VehicleLink
