import VehicleLink.Proofs.Numbers.Single
import VehicleLink.Proofs.Quaternion.Layout

/-!
How far the stored magnitudes are from the components that they stand for. A magnitude counts steps
of one size; scaling to steps and back costs some roundings, which together are far below half a
step. The component left out is rebuilt from the squares of the others.
-/

namespace VehicleLink.Quaternion

open Single

/-! ### Constants -/

theorem rootHalf_datum : rootHalf.datum = .finite false (11863283 / 16777216) := by
  decide +kernel

theorem scale_datum : scale.datum = .finite false 511 := by
  decide +kernel

theorem half_datum : half.datum = .finite false (1 / 2) := by
  decide +kernel

theorem one_datum : Single.one.datum = .finite false 1 := by
  decide +kernel

theorem rootHalf_finite : rootHalf.isFinite = true ∧ rootHalf.value = 11863283 / 16777216 :=
  finite_of_datum rootHalf_datum

theorem scale_finite : scale.isFinite = true ∧ scale.value = 511 := finite_of_datum scale_datum

theorem half_finite : half.isFinite = true ∧ half.value = 1 / 2 := finite_of_datum half_datum

theorem zero_finite : Single.zero.isFinite = true ∧ Single.zero.value = 0 :=
  finite_of_datum datum_zero

theorem one_finite : Single.one.isFinite = true ∧ Single.one.value = 1 := finite_of_datum one_datum

theorem ofMagnitude_zero : ofMagnitude 0 = .zero := by
  decide +kernel

/-- The size of one stored magnitude. -/
def step : Rat := rootHalf.value / 511

theorem step_eq : step = 11863283 / 8573157376 := by
  rw [step, rootHalf_finite.2]
  norm_num

/-! ### The largest component -/

theorem abs_lt_abs_iff {x y : Single} (left : x.isFinite = true) (right : y.isFinite = true) :
    x.abs.lt y.abs = true ↔ |x.value| < |y.value| := by
  rw [lt_iff (isFinite_abs left) (isFinite_abs right), value_abs left, value_abs right]

section Largest

variable {q : Quaternion} (finite : ∀ i, (q.component i).isFinite = true)

include finite

theorem abs_le_foldl (rest : List (Fin 4)) (best : Fin 4) :
    let found := rest.foldl
      (fun best i => if (q.component best).abs.lt (q.component i).abs then i else best) best
    |(q.component best).value| ≤ |(q.component found).value| ∧
      ∀ i ∈ rest, |(q.component i).value| ≤ |(q.component found).value| := by
  induction rest generalizing best with
  | nil => exact ⟨le_refl _, nofun⟩
  | cons i rest ih =>
      simp only [List.foldl_cons, List.forall_mem_cons]
      split
      · next larger =>
        rw [abs_lt_abs_iff (finite best) (finite i)] at larger
        obtain ⟨kept, others⟩ := ih i
        exact ⟨larger.le.trans kept, kept, others⟩
      · next smaller =>
        rw [abs_lt_abs_iff (finite best) (finite i), not_lt] at smaller
        obtain ⟨kept, others⟩ := ih best
        exact ⟨kept, smaller.trans kept, others⟩

theorem abs_le_largest (i : Fin 4) :
    |(q.component i).value| ≤ |(q.component q.largest).value| := by
  obtain ⟨first, others⟩ := abs_le_foldl finite [1, 2, 3] 0
  match i with
  | 0 => exact first
  | 1 => exact others 1 (by decide)
  | 2 => exact others 2 (by decide)
  | 3 => exact others 3 (by decide)

theorem largest_of_lt {index : Fin 4}
    (above : ∀ i ≠ index, |(q.component i).value| < |(q.component index).value|) :
    q.largest = index := by
  by_contra other
  exact absurd (above _ other) (not_lt.mpr (abs_le_largest finite index))

end Largest

/-! ### Magnitudes -/

/-- What a magnitude is read as differs from so many steps by a fraction of them. -/
theorem near_ofMagnitude {count : Nat} (most : count ≤ maxMagnitude) :
    (ofMagnitude count).Near (count * step) (count * step / 2 ^ 22) := by
  obtain ⟨finiteRoot, root⟩ := rootHalf_finite
  obtain ⟨finiteScale, scaled⟩ := scale_finite
  rcases Nat.eq_zero_or_pos count with rfl | positive
  · rw [ofMagnitude_zero, Nat.cast_zero, zero_mul, zero_div]
    exact ⟨zero_finite.1, by rw [zero_finite.2]; norm_num⟩
  · have least : (1 : Rat) ≤ count := by exact_mod_cast positive
    have most : (count : Rat) ≤ 511 := by exact_mod_cast most
    have given : (ofRat count).Rounds count := rounds_ofRat (by linarith) (by linarith)
    have counted := given.bounds (by linarith)
    have product := rounds_mul finiteRoot given.finite (by
      rw [root, abs_of_nonneg (by linarith)]
      linarith)
    rw [root] at product
    have multiplied := product.bounds (by linarith)
    have quotient := rounds_div product.finite finiteScale (by norm_num [scaled]) (by
      rw [scaled, abs_of_nonneg (by linarith)]
      linarith)
    rw [scaled] at quotient
    have divided := quotient.bounds (by linarith)
    refine ⟨quotient.finite, ?_⟩
    rw [step_eq, ofMagnitude, abs_le]
    constructor <;> linarith

/-- A component in steps, with the half that is added before the fraction is cut off. -/
def steps (x : Single) : Single := scale * x.abs / rootHalf + half

theorem near_steps {x : Single} (finite : x.isFinite = true) (small : |x.value| ≤ 3 / 4) :
    (steps x).Near (|x.value| / step + 1 / 2) (1 / 8000) := by
  obtain ⟨finiteRoot, root⟩ := rootHalf_finite
  obtain ⟨finiteScale, scaled⟩ := scale_finite
  obtain ⟨finiteHalf, halved⟩ := half_finite
  have nonneg := abs_nonneg x.value
  have product := rounds_mul finiteScale (isFinite_abs finite) (by
    rw [scaled, value_abs finite, abs_of_nonneg (by linarith)]
    linarith)
  rw [scaled, value_abs finite] at product
  have multiplied := product.bounds (by linarith)
  have quotient := rounds_div product.finite finiteRoot (by norm_num [root]) (by
    rw [root, abs_of_nonneg (by linarith)]
    linarith)
  rw [root] at quotient
  have divided := quotient.bounds (by linarith)
  have sum := rounds_add quotient.finite finiteHalf (by
    rw [halved, abs_of_nonneg (by linarith)]
    linarith)
  rw [halved] at sum
  have added := sum.bounds (by linarith)
  refine ⟨sum.finite, ?_⟩
  rw [step_eq, steps, abs_le]
  constructor <;> linarith

/-- A magnitude is the whole part of the steps of a component and a half. -/
theorem magnitude_bounds {x : Single} (finite : x.isFinite = true)
    (small : |x.value| ≤ 7072 / 10000) :
    (magnitude x : Rat) ≤ |x.value| / step + 1 / 2 + 1 / 8000 ∧
      |x.value| / step + 1 / 2 - 1 / 8000 < magnitude x + 1 := by
  obtain ⟨counted, close⟩ := near_steps finite (by linarith)
  rw [abs_le, step_eq] at close
  have nonneg := abs_nonneg x.value
  have bounds : 0 ≤ (steps x).value ∧ (steps x).value < 512 := by
    constructor <;> linarith
  have floor := Rat.floor_le (steps x).value
  have above := Rat.lt_floor_add_one (steps x).value
  push_cast at above
  have whole : magnitude x = (steps x).value.floor.toNat := by
    have below : (steps x).value.floor < 512 :=
      Rat.floor_lt_iff.mpr (by exact_mod_cast bounds.2)
    rw [magnitude, ← steps, toUInt32_toNat counted bounds.1 (by linarith), maxMagnitude]
    omega
  have exact : (magnitude x : Rat) = (steps x).value.floor := by
    have same : (magnitude x : Int) = (steps x).value.floor := by
      rw [whole, Int.toNat_of_nonneg (Rat.le_floor_iff.mpr (by exact_mod_cast bounds.1))]
    exact_mod_cast congrArg (Int.cast : Int → Rat) same
  rw [step_eq, exact]
  constructor <;> linarith

/-- A component that is close to so many steps is stored as that many. -/
theorem magnitude_of_close {x : Single} {count : Nat} (finite : x.isFinite = true)
    (most : count ≤ maxMagnitude)
    (close : |(|x.value|) - count * step| ≤ count * step / 2 ^ 22) : magnitude x = count := by
  have least : (0 : Rat) ≤ count := Nat.cast_nonneg count
  have most : (count : Rat) ≤ 511 := by exact_mod_cast most
  rw [abs_le, step_eq] at close
  obtain ⟨upper, lower⟩ := magnitude_bounds finite (by linarith)
  rw [step_eq] at upper lower
  have below : (magnitude x : Rat) < ((count + 1 : Nat) : Rat) := by
    push_cast
    linarith
  have above : (count : Rat) < ((magnitude x + 1 : Nat) : Rat) := by
    push_cast
    linarith
  rw [Nat.cast_lt] at below above
  omega

/-! ### Groups -/

theorem step_pos : 0 < step := by
  rw [step_eq]
  norm_num

theorem magnitude_group_le (group : Nat) : group % 512 ≤ maxMagnitude :=
  Nat.le_of_lt_succ (Nat.mod_lt _ (by decide))

theorem isFinite_ofGroup (group : Nat) : (ofGroup group).isFinite = true := by
  have size := near_ofMagnitude (magnitude_group_le group)
  simp only [ofGroup]
  split
  · exact (isFinite_neg _).trans size.finite
  · exact size.finite

theorem value_ofMagnitude_nonneg {count : Nat} (most : count ≤ maxMagnitude) :
    0 ≤ (ofMagnitude count).value ∧ (count ≠ 0 → 0 < (ofMagnitude count).value) := by
  have close := abs_le.mp (near_ofMagnitude most).close
  have steps : 0 ≤ (count : Rat) * step := mul_nonneg (Nat.cast_nonneg _) step_pos.le
  refine ⟨by linarith, fun nonzero => ?_⟩
  have positive : 0 < (count : Rat) * step :=
    mul_pos (by exact_mod_cast Nat.pos_of_ne_zero nonzero) step_pos
  linarith

theorem value_ofGroup (group : Nat) :
    (ofGroup group).value =
      if group / 512 % 2 = 1 then -(ofMagnitude (group % 512)).value
      else (ofMagnitude (group % 512)).value := by
  simp only [ofGroup]
  split
  · exact value_neg _
  · rfl

theorem abs_value_ofGroup (group : Nat) :
    |(ofGroup group).value| = (ofMagnitude (group % 512)).value := by
  have nonneg := (value_ofMagnitude_nonneg (magnitude_group_le group)).1
  rw [value_ofGroup]
  split
  · rw [abs_neg, abs_of_nonneg nonneg]
  · exact abs_of_nonneg nonneg

theorem isFinite_held (code : UInt32) : ∀ x ∈ held code, x.isFinite = true := by
  intro x member
  obtain ⟨i, _, rfl⟩ := List.mem_map.mp member
  exact isFinite_ofGroup _

/-! ### The component left out -/

def summed (components : List Single) : Single :=
  components.foldl (fun sum x => sum + x * x) .zero

theorem rebuild_eq (components : List Single) :
    rebuild components = ((Single.one - summed components).max .zero).sqrt := rfl

/-- What adding one more square costs below a limit. -/
def squareError (limit x : Rat) : Rat := (x ^ 2 + limit) * (1001 / 1000) / 2 ^ 24

theorem sum_squareError (limit : Rat) (components : List Single) :
    (components.map fun x => squareError limit x.value).sum =
      ((components.map (·.value ^ 2)).sum + components.length * limit) * (1001 / 1000) / 2 ^ 24 := by
  induction components with
  | nil => simp
  | cons x rest ih =>
      rw [List.map_cons, List.sum_cons, ih, squareError]
      simp only [List.map_cons, List.sum_cons, List.length_cons]
      push_cast
      ring

theorem sum_squares_nonneg (components : List Single) :
    0 ≤ (components.map (·.value ^ 2)).sum :=
  List.sum_nonneg fun square member => by
    obtain ⟨x, _, rfl⟩ := List.mem_map.mp member
    exact sq_nonneg _

section Squares

variable {limit : Rat} (one : 1 ≤ limit) (two : limit ≤ 2)

include one two

theorem near_add_square {sum x : Single} {exact error : Rat} (near : sum.Near exact error)
    (positive : 0 ≤ sum.value) (nonneg : 0 ≤ exact) (finite : x.isFinite = true)
    (small : exact + x.value ^ 2 ≤ limit) (slight : error ≤ 1 / 2 ^ 12) :
    (sum + x * x).Near (exact + x.value ^ 2) (error + squareError limit x.value) ∧
      0 ≤ (sum + x * x).value := by
  have square := sq_nonneg x.value
  have close := abs_le.mp near.close
  have product := rounds_mul finite finite (by
    rw [← sq, abs_of_nonneg square]
    linarith)
  rw [← sq] at product
  have squared := product.bounds square
  have added := rounds_add near.finite product.finite (by
    rw [abs_lt]
    constructor <;> linarith)
  have size : |sum.value + (x * x).value| ≤ limit + 1 / 2 ^ 10 := by
    rw [abs_le]
    constructor <;> linarith
  have summed := abs_le.mp added.close
  rw [roundingError] at summed
  refine ⟨⟨added.finite, ?_⟩, added.nonneg (add_nonneg positive squared.1)⟩
  rw [squareError, abs_le]
  constructor <;> linarith

theorem near_sum_squares {components : List Single} {sum : Single} {exact error : Rat}
    (near : sum.Near exact error) (positive : 0 ≤ sum.value) (nonneg : 0 ≤ exact)
    (finite : ∀ x ∈ components, x.isFinite = true)
    (small : exact + (components.map (·.value ^ 2)).sum ≤ limit)
    (slight : error + (components.map fun x => squareError limit x.value).sum ≤ 1 / 2 ^ 12) :
    (components.foldl (fun sum x => sum + x * x) sum).Near
        (exact + (components.map (·.value ^ 2)).sum)
        (error + (components.map fun x => squareError limit x.value).sum) ∧
      0 ≤ (components.foldl (fun sum x => sum + x * x) sum).value := by
  induction components generalizing sum exact error with
  | nil => exact ⟨by simpa using near, positive⟩
  | cons x rest ih =>
      obtain ⟨first, others⟩ := List.forall_mem_cons.mp finite
      have restSquares := sum_squares_nonneg rest
      have restErrors : 0 ≤ (rest.map fun x => squareError limit x.value).sum := by
        rw [sum_squareError]
        positivity
      simp only [List.map_cons, List.sum_cons, ← add_assoc] at small slight ⊢
      have error : 0 ≤ squareError limit x.value := by
        unfold squareError
        positivity
      obtain ⟨added, above⟩ :=
        near_add_square one two near positive nonneg first (by linarith) (by linarith)
      exact ih added above (add_nonneg nonneg (sq_nonneg _)) others small slight

/-- The sum of at most three squares as it is computed. -/
theorem near_summed {components : List Single} (three : components.length ≤ 3)
    (finite : ∀ x ∈ components, x.isFinite = true)
    (below : (components.map (·.value ^ 2)).sum ≤ limit) :
    (summed components).Near (components.map (·.value ^ 2)).sum
        (((components.map (·.value ^ 2)).sum + 3 * limit) * (1001 / 1000) / 2 ^ 24) ∧
      0 ≤ (summed components).value := by
  have squares := sum_squares_nonneg components
  have errors : (components.map fun x => squareError limit x.value).sum ≤
      ((components.map (·.value ^ 2)).sum + 3 * limit) * (1001 / 1000) / 2 ^ 24 := by
    have most : (components.length : Rat) ≤ 3 := by exact_mod_cast three
    have := mul_le_mul_of_nonneg_right most (by linarith : 0 ≤ limit)
    rw [sum_squareError]
    linarith
  have start : Single.zero.Near 0 0 := ⟨zero_finite.1, by rw [zero_finite.2]; norm_num⟩
  obtain ⟨near, above⟩ := near_sum_squares one two start zero_finite.2.ge (le_refl 0) finite
    (by linarith) (by linarith)
  rw [zero_add, zero_add] at near
  exact ⟨⟨near.finite, near.close.trans errors⟩, above⟩

end Squares

/-- The square of the rebuilt component is what the others leave of one, but for some roundings. -/
theorem rebuild_close {components : List Single} (three : components.length ≤ 3)
    (finite : ∀ x ∈ components, x.isFinite = true)
    (below : (components.map (·.value ^ 2)).sum ≤ 1 - 1 / 10 ^ 6) :
    (rebuild components).isFinite = true ∧ 0 < (rebuild components).value ∧
      |(rebuild components).value ^ 2 - (1 - (components.map (·.value ^ 2)).sum)| ≤ 1 / 2 ^ 21 := by
  have squares := sum_squares_nonneg components
  obtain ⟨near, _⟩ :=
    near_summed (le_refl (1 : Rat)) one_le_two three finite (by linarith)
  have total := abs_le.mp near.close
  have difference := rounds_sub one_finite.1 near.finite (by
    rw [one_finite.2, abs_lt]
    constructor <;> linarith)
  rw [one_finite.2] at difference
  have rest := difference.bounds (by linarith)
  obtain ⟨maxFinite, maxValue⟩ := max_finite difference.finite zero_finite.1
  rw [zero_finite.2, max_eq_left rest.1] at maxValue
  obtain ⟨rooted, positive, lower, upper⟩ := sqrt_bounds maxFinite (by linarith) (by linarith)
  rw [mul_pow, maxValue] at lower upper
  refine ⟨rooted, positive, ?_⟩
  rw [rebuild_eq, abs_le]
  constructor <;> linarith

end VehicleLink.Quaternion
