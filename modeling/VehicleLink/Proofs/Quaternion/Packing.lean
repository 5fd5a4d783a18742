import VehicleLink.Proofs.Quaternion.Soundness

/-!
What a code holds of any four floats, also of those that are infinite or undefined. The index of the
component left out is in the top two bits and the others follow in ascending order, each as a sign
above its magnitude. Every group is unpacked for the component that it was packed for.
-/

namespace VehicleLink.Quaternion

open Binary Single

/-! ### The component left out -/

/-- A scan of indices that moves on to those of strictly greater magnitude. -/
inductive Scan (q : Quaternion) : Fin 4 → List (Fin 4) → Fin 4 → Prop
  | done (best : Fin 4) : Scan q best [] best
  | move {best i found : Fin 4} {rest : List (Fin 4)}
      (greater : (q.component best).abs.lt (q.component i).abs = true)
      (others : Scan q i rest found) : Scan q best (i :: rest) found
  | stay {best i found : Fin 4} {rest : List (Fin 4)}
      (notGreater : (q.component best).abs.lt (q.component i).abs = false)
      (others : Scan q best rest found) : Scan q best (i :: rest) found

theorem scan_foldl (q : Quaternion) (best : Fin 4) (rest : List (Fin 4)) :
    Scan q best rest (rest.foldl
      (fun best i => if (q.component best).abs.lt (q.component i).abs then i else best) best) := by
  induction rest generalizing best with
  | nil => exact .done best
  | cons i rest ih =>
      rw [List.foldl_cons]
      split
      · next greater => exact .move greater (ih i)
      · next notGreater => exact .stay (eq_false_of_ne_true notGreater) (ih best)

theorem Scan.eq_foldl {q : Quaternion} {best found : Fin 4} {rest : List (Fin 4)}
    (scan : Scan q best rest found) :
    found = rest.foldl
      (fun best i => if (q.component best).abs.lt (q.component i).abs then i else best) best := by
  induction scan with
  | done best => rfl
  | move greater _ ih => rw [List.foldl_cons, if_pos greater, ih]
  | stay notGreater _ ih => rw [List.foldl_cons, notGreater, if_neg Bool.false_ne_true, ih]

theorem scan_iff (q : Quaternion) (index : Fin 4) :
    Scan q 0 [1, 2, 3] index ↔ index = q.largest := by
  constructor
  · exact Scan.eq_foldl
  · rintro rfl
    exact scan_foldl q 0 [1, 2, 3]

/-! ### The magnitude of a component -/

/-- The magnitude of a component is the whole part of its steps and a half, as far as there is room
for it; an undefined component has none. -/
inductive Stores (x : Single) : Nat → Prop
  | undefined (undefined : x.isNaN = true) : Stores x 0
  | infinite (number : x.isNaN = false) (infinite : (steps x).datum = .infinity false) :
      Stores x 511
  | finite (number : x.isNaN = false) (finite : (steps x).isFinite = true)
      (nonneg : 0 ≤ (steps x).value) : Stores x (min ⌊(steps x).value⌋₊ 511)

theorem unsigned_abs {x : Single} (number : x.isNaN = false) : x.abs.datum.Unsigned := by
  rw [datum_abs]
  cases same : x.datum with
  | nan => exact absurd same (datum_ne_nan number)
  | infinity negative => exact .infinite
  | finite negative magnitude => exact .finite (datum_nonneg same)

theorem unsigned_steps {x : Single} (number : x.isNaN = false) : (steps x).datum.Unsigned := by
  have product : (scale * x.abs).datum.Unsigned := by
    refine unsigned_ofDatum ?_
    rw [scale_datum]
    exact (unsigned_abs number).mul (by norm_num)
  have quotient : (scale * x.abs / rootHalf).datum.Unsigned := by
    refine unsigned_ofDatum ?_
    rw [rootHalf_datum]
    exact product.div (by norm_num)
  refine unsigned_ofDatum ?_
  rw [half_datum]
  exact quotient.add (by norm_num)

theorem steps_of_isNaN {x : Single} (undefined : x.isNaN = true) : (steps x).datum = .nan := by
  have same : x.datum = .nan := eq_of_beq undefined
  have product : (scale * x.abs).datum = .nan := by
    refine datum_ofDatum_nan ?_
    rw [datum_abs, same, scale_datum]
    rfl
  have quotient : (scale * x.abs / rootHalf).datum = .nan := by
    refine datum_ofDatum_nan ?_
    rw [product]
    rfl
  refine datum_ofDatum_nan ?_
  rw [quotient]
  rfl

theorem magnitude_eq (x : Single) :
    magnitude x = min ((steps x).datum.truncate 0xffffffff) maxMagnitude := by
  rw [magnitude, toNat_toUInt32, steps]

theorem stores_magnitude (x : Single) : Stores x (magnitude x) := by
  rw [magnitude_eq]
  cases number : x.isNaN
  · have unsigned := unsigned_steps number
    generalize same : (steps x).datum = exact at unsigned ⊢
    cases unsigned with
    | infinite => exact .infinite number same
    | @finite count nonneg =>
        obtain ⟨finite, value⟩ := finite_of_datum same
        -- The conversion saturates far above the largest magnitude, which alone counts.
        have whole : min ((Datum.finite false count).truncate 0xffffffff) maxMagnitude =
            min ⌊(steps x).value⌋₊ 511 := by
          rw [Datum.truncate, if_neg Bool.false_ne_true, Nat.min_assoc, value]
          rfl
        rw [whole]
        exact .finite number finite (nonneg.trans_eq value.symm)
  · rw [steps_of_isNaN number]
    exact .undefined number

/-! ### Codes -/

/-- What a code holds of one component, whose group starts at the given bit, and what the component
is unpacked to. -/
structure Holds (q : Quaternion) (i : Fin 4) (low : Nat) : Prop where
  sign : bits q.compress (low + 9) 1 = 1 ↔
    ((q.component i).lt .zero ^^ (q.component q.largest).lt .zero) = true
  magnitude : Stores (q.component i) (bits q.compress low 9)
  unpacked : (decompress q.compress).component i =
    if bits q.compress (low + 9) 1 = 1 then -ofMagnitude (bits q.compress low 9)
    else ofMagnitude (bits q.compress low 9)

theorem holds_compress {q : Quaternion} {i : Fin 4} (other : i ≠ q.largest) :
    Holds q i (10 * place q.largest i) := by
  have omits := omitted_compress q
  have signBit := bits_sign q.compress i
  have size := bits_magnitude q.compress i
  rw [omits] at signBit size
  refine ⟨?_, ?_, ?_⟩
  · rw [signBit, groupOf_compress q other]
    exact (group_parts _ _).2
  · rw [size, groupOf_compress q other, (group_parts _ _).1]
    exact stores_magnitude _
  · rw [component_of_ne (by rwa [omits]), signBit, size]
    rfl

/-- The layout of the code of four floats. -/
structure Packed (q : Quaternion) (first second third : Fin 4) : Prop where
  scanned : ∀ index, Scan q 0 [1, 2, 3] index ↔ index = q.largest
  ascending : first < second ∧ second < third
  apart : first ≠ q.largest ∧ second ≠ q.largest ∧ third ≠ q.largest
  index : bits q.compress 30 2 = q.largest.val
  high : Holds q first 20
  middle : Holds q second 10
  low : Holds q third 0
  rebuilt : ((decompress q.compress).component q.largest).isFinite = true ∧
    0 ≤ ((decompress q.compress).component q.largest).value

/-- Packing and unpacking agree on the layout, whatever is packed. -/
theorem compress_packed (q : Quaternion) : ∃ first second third, Packed q first second third := by
  obtain ⟨first, second, third, beside⟩ := beside_exists q.largest
  obtain ⟨apartFirst, apartSecond, apartThird⟩ := beside.apart
  obtain ⟨placeFirst, placeSecond, placeThird⟩ := beside.places
  have omits := omitted_compress q
  refine ⟨first, second, third, scan_iff q, beside.ascending, beside.apart, ?_, ?_, ?_, ?_, ?_⟩
  · rw [bits_index, omits]
  · have := holds_compress apartFirst
    rwa [placeFirst] at this
  · have := holds_compress apartSecond
    rwa [placeSecond] at this
  · have := holds_compress apartThird
    rwa [placeThird] at this
  · obtain ⟨finite, nonneg, _⟩ := rebuild_bounds (length_held q.compress)
      (isFinite_held q.compress) (held_le_two q.compress)
    rw [← omits, component_omitted]
    exact ⟨finite, nonneg⟩

end VehicleLink.Quaternion
