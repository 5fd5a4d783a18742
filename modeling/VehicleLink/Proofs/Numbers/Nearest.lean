import Mathlib.Algebra.Order.Field.Power
import Mathlib.Data.Rat.Floor
import Mathlib.Tactic.FieldSimp
import Mathlib.Tactic.Linarith
import Mathlib.Tactic.Positivity
import Mathlib.Tactic.Ring
import VehicleLink.Binary.Format

/-!
How far rounding moves a number. An integer is at most a half away, and a float at most half of its
last place, which is a fixed fraction of the number or half of the smallest positive float.
-/

namespace VehicleLink

/-! ### Integers -/

theorem roundHalfEven_error (x : Rat) : |(roundHalfEven x : Rat) - x| ≤ 1 / 2 := by
  have below := Rat.floor_le x
  have above := Rat.lt_floor_add_one x
  push_cast at above
  simp only [roundHalfEven]
  rw [abs_le]
  split_ifs <;> push_cast <;> constructor <;> linarith

theorem le_roundHalfEven {n : Int} {x : Rat} (below : (n : Rat) ≤ x) : n ≤ roundHalfEven x := by
  have close := abs_le.mp (roundHalfEven_error x)
  have apart : (n : Rat) < ((roundHalfEven x + 1 : Int) : Rat) := by
    push_cast
    linarith
  exact Int.lt_add_one_iff.mp (by exact_mod_cast apart)

theorem roundHalfEven_le {n : Int} {x : Rat} (above : x ≤ n) : roundHalfEven x ≤ n := by
  have close := abs_le.mp (roundHalfEven_error x)
  have apart : (roundHalfEven x : Rat) < ((n + 1 : Int) : Rat) := by
    push_cast
    linarith
  exact Int.lt_add_one_iff.mp (by exact_mod_cast apart)

/-- `n` is the integer nearest to `x`, and the even one of two that are equally near. -/
def NearestEven (n : Int) (x : Rat) : Prop :=
  |n - x| < 1 / 2 ∨ |n - x| = 1 / 2 ∧ n % 2 = 0

theorem roundHalfEven_nearest (x : Rat) : NearestEven (roundHalfEven x) x := by
  have below := Rat.floor_le x
  have above := Rat.lt_floor_add_one x
  push_cast at above
  simp only [NearestEven, roundHalfEven]
  split_ifs with low high even
  · exact .inl (abs_lt.mpr ⟨by linarith, by linarith⟩)
  · push_cast
    exact .inl (abs_lt.mpr ⟨by linarith, by linarith⟩)
  · refine .inr ⟨?_, even⟩
    rw [show (x.floor : Rat) - x = -(1 / 2) by linarith]
    norm_num
  · refine .inr ⟨?_, by omega⟩
    push_cast
    rw [show (x.floor : Rat) + 1 - x = 1 / 2 by linarith]
    norm_num

theorem NearestEven.le {n : Int} {x : Rat} (nearest : NearestEven n x) : |n - x| ≤ 1 / 2 := by
  rcases nearest with close | ⟨half, _⟩
  · exact close.le
  · exact half.le

/-- Two integers are never both the nearest: they would be neighbours and both even. -/
theorem NearestEven.not_lt {m n : Int} {x : Rat} (left : NearestEven m x)
    (right : NearestEven n x) : ¬ m < n := by
  intro apart
  have next : (m : Rat) + 1 ≤ n := by exact_mod_cast apart
  have low := abs_le.mp left.le
  have high := abs_le.mp right.le
  have halfLow : (m : Rat) - x = -(1 / 2) := by linarith
  have halfHigh : (n : Rat) - x = 1 / 2 := by linarith
  have evenLow := (left.resolve_left (by rw [halfLow]; norm_num)).2
  have evenHigh := (right.resolve_left (by rw [halfHigh]; norm_num)).2
  have neighbours : n = m + 1 := by
    have : (n : Rat) = ((m + 1 : Int) : Rat) := by
      push_cast
      linarith
    exact_mod_cast this
  omega

theorem nearestEven_iff {n : Int} {x : Rat} : NearestEven n x ↔ n = roundHalfEven x := by
  have nearest := roundHalfEven_nearest x
  constructor
  · intro other
    exact le_antisymm (not_lt.mp (nearest.not_lt other)) (not_lt.mp (other.not_lt nearest))
  · rintro rfl
    exact nearest

theorem roundHalfEven_mono {x y : Rat} (le : x ≤ y) : roundHalfEven x ≤ roundHalfEven y := by
  rcases le.eq_or_lt with rfl | less
  · exact le_rfl
  · have low := abs_le.mp (roundHalfEven_error x)
    have high := abs_le.mp (roundHalfEven_error y)
    have apart : (roundHalfEven x : Rat) < ((roundHalfEven y + 1 : Int) : Rat) := by
      push_cast
      linarith
    exact Int.lt_add_one_iff.mp (by exact_mod_cast apart)

/-- The root lies within a half of the integer that is nearest to it. -/
theorem rootHalfEven_bounds {x : Rat} (nonneg : 0 ≤ x) :
    (rootHalfEven x = 0 ∨ ((rootHalfEven x : Rat) - 1 / 2) ^ 2 ≤ x) ∧
      x ≤ ((rootHalfEven x : Rat) + 1 / 2) ^ 2 := by
  have floor : ((x.floor.toNat : Int) : Rat) = x.floor := by
    rw [Int.toNat_of_nonneg (Rat.le_floor_iff.mpr (by exact_mod_cast nonneg))]
  have above := Rat.lt_floor_add_one x
  push_cast at above floor
  have lower : ((x.floor.toNat.sqrt : Rat)) ^ 2 ≤ x := by
    have root : ((x.floor.toNat.sqrt : Rat)) ^ 2 ≤ x.floor.toNat := by
      exact_mod_cast Nat.sqrt_le' x.floor.toNat
    linarith [Rat.floor_le x]
  have upper : x < ((x.floor.toNat.sqrt : Rat) + 1) ^ 2 := by
    have root : (x.floor.toNat : Rat) + 1 ≤ ((x.floor.toNat.sqrt : Rat) + 1) ^ 2 := by
      exact_mod_cast Nat.succ_le_succ_sqrt' x.floor.toNat
    linarith
  simp only [rootHalfEven]
  generalize x.floor.toNat.sqrt = below at *
  have kept : below = 0 ∨ ((below : Rat) - 1 / 2) ^ 2 ≤ x := by
    rcases Nat.eq_zero_or_pos below with zero | positive
    · exact .inl zero
    · have one : (1 : Rat) ≤ below := by exact_mod_cast positive
      exact .inr (by nlinarith)
  split_ifs with low high even
  · exact ⟨kept, by nlinarith⟩
  · push_cast
    exact ⟨.inr (by nlinarith), by nlinarith⟩
  · exact ⟨kept, by nlinarith⟩
  · push_cast
    exact ⟨.inr (by nlinarith), by nlinarith⟩

theorem le_rootHalfEven {n : Nat} {x : Rat} (below : (n : Rat) ^ 2 ≤ x) : n ≤ rootHalfEven x := by
  have close := (rootHalfEven_bounds ((sq_nonneg _).trans below)).2
  have apart : (n : Rat) < ((rootHalfEven x + 1 : Nat) : Rat) := by
    push_cast
    nlinarith [(Nat.cast_nonneg (rootHalfEven x) : (0 : Rat) ≤ _)]
  exact Nat.lt_add_one_iff.mp (by exact_mod_cast apart)

theorem rootHalfEven_le {n : Nat} {x : Rat} (nonneg : 0 ≤ x) (above : x ≤ (n : Rat) ^ 2) :
    rootHalfEven x ≤ n := by
  rcases (rootHalfEven_bounds nonneg).1 with zero | close
  · omega
  · have apart : (rootHalfEven x : Rat) < ((n + 1 : Nat) : Rat) := by
      push_cast
      nlinarith [(Nat.cast_nonneg n : (0 : Rat) ≤ _)]
    exact Nat.lt_add_one_iff.mp (by exact_mod_cast apart)

/-! ### Powers of two -/

theorem two_zpow_mono {left right : Int} (le : left ≤ right) : (2 : Rat) ^ left ≤ 2 ^ right :=
  zpow_le_zpow_right₀ (by norm_num) le

theorem two_zpow_add (left right : Int) : (2 : Rat) ^ (left + right) = 2 ^ left * 2 ^ right :=
  zpow_add₀ (by norm_num) left right

theorem two_zpow_two_mul (n : Int) : (2 : Rat) ^ (2 * n) = (2 ^ n) ^ 2 := by
  rw [two_mul, two_zpow_add, sq]

theorem two_zpow_multiple {place power : Int} (le : place ≤ power) :
    ∃ multiple : Nat, (2 : Rat) ^ power = multiple * 2 ^ place := by
  obtain ⟨rest, rfl⟩ := Int.le.dest le
  refine ⟨2 ^ rest, ?_⟩
  rw [two_zpow_add, mul_comm, zpow_natCast]
  push_cast
  rfl

theorem floorLog2_bounds {x : Rat} (positive : 0 < x) :
    (2 : Rat) ^ floorLog2 x ≤ x ∧ x < 2 ^ (floorLog2 x + 1) := by
  have numerator : 0 < x.num.natAbs := Int.natAbs_pos.mpr (Rat.num_ne_zero.mpr positive.ne')
  have whole : x * x.den = x.num.natAbs := by
    have natural : ((x.num.natAbs : Int) : Rat) = x.num := by
      rw [Int.natAbs_of_nonneg (Rat.num_nonneg.mpr positive.le)]
    rw [Rat.mul_den_eq_num, ← natural]
    rfl
  have numLow : (2 : Rat) ^ (x.num.natAbs.log2 : Int) ≤ x.num.natAbs := by
    exact_mod_cast Nat.log2_self_le numerator.ne'
  have numHigh : (x.num.natAbs : Rat) < 2 ^ (x.num.natAbs.log2 + 1 : Int) := by
    exact_mod_cast Nat.lt_log2_self
  have denLow : (2 : Rat) ^ (x.den.log2 : Int) ≤ x.den := by
    exact_mod_cast Nat.log2_self_le x.den_ne_zero
  have denHigh : (x.den : Rat) < 2 ^ (x.den.log2 + 1 : Int) := by
    exact_mod_cast Nat.lt_log2_self
  have denPositive : (0 : Rat) < x.den := by exact_mod_cast x.den_pos
  have above : x < 2 ^ ((x.num.natAbs.log2 : Int) - x.den.log2 + 1) := by
    refine lt_of_mul_lt_mul_right ?_ denPositive.le
    calc x * x.den < 2 ^ (x.num.natAbs.log2 + 1 : Int) := by rwa [whole]
      _ = 2 ^ ((x.num.natAbs.log2 : Int) - x.den.log2 + 1) * 2 ^ (x.den.log2 : Int) := by
        rw [← two_zpow_add]
        ring_nf
      _ ≤ _ := mul_le_mul_of_nonneg_left denLow (by positivity)
  have below : (2 : Rat) ^ ((x.num.natAbs.log2 : Int) - x.den.log2 - 1) ≤ x := by
    refine le_of_mul_le_mul_right ?_ denPositive
    calc (2 : Rat) ^ ((x.num.natAbs.log2 : Int) - x.den.log2 - 1) * x.den
        ≤ 2 ^ ((x.num.natAbs.log2 : Int) - x.den.log2 - 1) * 2 ^ (x.den.log2 + 1 : Int) :=
          mul_le_mul_of_nonneg_left denHigh.le (by positivity)
      _ = 2 ^ (x.num.natAbs.log2 : Int) := by
        rw [← two_zpow_add]
        ring_nf
      _ ≤ x * x.den := by rwa [whole]
  simp only [floorLog2]
  split_ifs with reached
  · exact ⟨reached, above⟩
  · refine ⟨below, ?_⟩
    rw [Int.sub_add_cancel]
    exact lt_of_not_ge reached

/-! ### Floats -/

namespace Binary.Format

variable (format : Format)

theorem fractions_eq : (format.fractions : Rat) = 2 ^ (format.fractionBits : Int) := by
  simp [fractions, Nat.shiftLeft_eq]

theorem fractions_pos : 0 < format.fractions := by
  simp [fractions, Nat.shiftLeft_eq]

/-- No positive value is below the smallest one. -/
theorem le_value_of_pos {magnitude : Nat} (positive : 0 < format.value magnitude) :
    (2 : Rat) ^ format.leastExponent ≤ format.value magnitude := by
  simp only [value] at positive ⊢
  split_ifs at positive ⊢ with subnormal
  · have place : (0 : Rat) < 2 ^ format.leastExponent := by positivity
    have counted : (1 : Rat) ≤ (magnitude % format.fractions : Nat) := by
      exact_mod_cast Nat.cast_pos.mp (pos_of_mul_pos_left positive place.le)
    exact le_mul_of_one_le_left place.le counted
  · have exponent : (1 : Int) ≤ (magnitude / format.fractions : Nat) := by
      exact_mod_cast Nat.pos_of_ne_zero subnormal
    have counted : (1 : Rat) ≤ (format.fractions + magnitude % format.fractions : Nat) := by
      exact_mod_cast Nat.le_add_right_of_le format.fractions_pos
    exact (two_zpow_mono (by omega)).trans (le_mul_of_one_le_left (by positivity) counted)

/-- What a magnitude is worth that is put together from a last place and a count of it. -/
theorem value_of_count {place : Int} {count : Nat} (above : format.leastExponent ≤ place)
    (most : count ≤ 2 * format.fractions)
    (least : place = format.leastExponent ∨ format.fractions ≤ count) :
    format.value ((place - format.leastExponent).toNat * format.fractions + count) =
      count * (2 : Rat) ^ place := by
  obtain ⟨exponent, rfl⟩ := Int.le.dest above
  rw [add_eq_left] at least
  rw [add_sub_cancel_left, Int.toNat_natCast]
  have positive := format.fractions_pos
  have quotient : (exponent * format.fractions + count) / format.fractions =
      exponent + count / format.fractions := by
    rw [Nat.add_comm, Nat.add_mul_div_right _ _ positive, Nat.add_comm]
  have remainder : (exponent * format.fractions + count) % format.fractions =
      count % format.fractions := by
    rw [Nat.add_comm, Nat.add_mul_mod_self_right]
  simp only [value, quotient, remainder]
  rcases Nat.lt_or_ge count format.fractions with low | normal
  · obtain rfl : exponent = 0 := by exact_mod_cast least.resolve_right (Nat.not_le.mpr low)
    simp [Nat.div_eq_of_lt low, Nat.mod_eq_of_lt low]
  · have above : exponent + count / format.fractions ≠ 0 := by
      have := Nat.div_pos normal positive
      omega
    rw [if_neg above]
    rcases Nat.lt_or_ge count (2 * format.fractions) with within | twice
    · have single : count / format.fractions = 1 := by
        rw [Nat.div_eq_iff positive]
        omega
      have rest : format.fractions + count % format.fractions = count := by
        have := Nat.div_add_mod count format.fractions
        rw [single] at this
        omega
      rw [rest, single]
      push_cast
      ring_nf
    · obtain rfl : count = 2 * format.fractions := Nat.le_antisymm most twice
      rw [Nat.mul_div_cancel _ positive, Nat.mul_mod_left]
      push_cast
      have doubled : (2 : Rat) ^ (format.leastExponent + (exponent + 2) - 1) =
          2 * 2 ^ (format.leastExponent + exponent) := by
        rw [← zpow_one_add₀ (by norm_num)]
        ring_nf
      rw [doubled]
      ring

/-- A number counted in its last places. -/
theorem counted_bounds {x : Rat} (positive : 0 < x) :
    0 < x / 2 ^ format.quantum x ∧ x / 2 ^ format.quantum x ≤ (2 * format.fractions : Nat) ∧
      (format.quantum x = format.leastExponent ∨
        (format.fractions : Rat) ≤ x / 2 ^ format.quantum x) := by
  obtain ⟨low, high⟩ := floorLog2_bounds positive
  have place : (0 : Rat) < 2 ^ format.quantum x := by positivity
  have most : floorLog2 x + 1 ≤ format.fractionBits + 1 + format.quantum x := by
    have := le_max_right format.leastExponent (floorLog2 x - format.fractionBits)
    simp only [quantum]
    omega
  refine ⟨by positivity, ?_, ?_⟩
  · rw [div_le_iff₀ place]
    push_cast
    rw [fractions_eq, ← zpow_one_add₀ (by norm_num), ← two_zpow_add, add_comm (1 : Int)]
    exact high.le.trans (two_zpow_mono most)
  · rcases le_total (floorLog2 x - format.fractionBits) format.leastExponent with deep | normal
    · exact .inl (max_eq_left deep)
    · refine .inr ?_
      have exact : format.quantum x = floorLog2 x - format.fractionBits := max_eq_right normal
      rw [le_div_iff₀ place, fractions_eq, ← two_zpow_add, exact, add_sub_cancel]
      exact low

/-- The last places that a number is rounded to. -/
def count (x : Rat) : Nat := (roundHalfEven (x / 2 ^ format.quantum x)).toNat

theorem count_bounds {x : Rat} (positive : 0 < x) :
    format.count x ≤ 2 * format.fractions ∧
      (format.quantum x = format.leastExponent ∨ format.fractions ≤ format.count x) ∧
      |(format.count x : Rat) - x / 2 ^ format.quantum x| ≤ 1 / 2 := by
  obtain ⟨counted, most, least⟩ := format.counted_bounds positive
  have nonneg : 0 ≤ roundHalfEven (x / 2 ^ format.quantum x) :=
    le_roundHalfEven (by exact_mod_cast counted.le)
  have same : (format.count x : Int) = roundHalfEven (x / 2 ^ format.quantum x) :=
    Int.toNat_of_nonneg nonneg
  refine ⟨?_, least.imp_right fun normal => ?_, ?_⟩
  · have := roundHalfEven_le (n := (2 * format.fractions : Nat)) most
    omega
  · have := le_roundHalfEven (n := format.fractions) normal
    omega
  · have exact : (format.count x : Rat) = roundHalfEven (x / 2 ^ format.quantum x) := by
      exact_mod_cast congrArg (Int.cast : Int → Rat) same
    rw [exact]
    exact roundHalfEven_error _

theorem nearest_le (x : Rat) : format.nearest x ≤ format.infinityMagnitude := by
  rw [nearest]
  split
  · exact Nat.zero_le _
  · exact Nat.min_le_right _ _

/-- Below the given power of two no number is rounded to infinity. -/
theorem nearest_finite {x : Rat} {steps : Nat} (positive : 0 < x)
    (room : steps + 4 ≤ 1 <<< format.exponentBits)
    (small : x < 2 ^ (format.leastExponent + format.fractionBits + steps)) :
    format.nearest x < format.infinityMagnitude ∧
      format.nearest x =
        (format.quantum x - format.leastExponent).toNat * format.fractions + format.count x := by
  obtain ⟨most, _, _⟩ := format.count_bounds positive
  have exponent : floorLog2 x < format.leastExponent + format.fractionBits + steps :=
    (zpow_lt_zpow_iff_right₀ (by norm_num : (1 : Rat) < 2)).mp
      ((floorLog2_bounds positive).1.trans_lt small)
  have steps : (format.quantum x - format.leastExponent).toNat + 3 ≤
      1 <<< format.exponentBits - 1 := by
    simp only [quantum]
    omega
  have finite : (format.quantum x - format.leastExponent).toNat * format.fractions +
      format.count x < format.infinityMagnitude := by
    have := Nat.mul_le_mul_right format.fractions steps
    have := format.fractions_pos
    rw [infinityMagnitude]
    linarith
  have same : format.nearest x = _ := (if_neg positive.ne').trans (Nat.min_eq_left finite.le)
  rw [same]
  exact ⟨finite, rfl⟩

/-- The value of the magnitude that is nearest to a number. -/
def rounded (x : Rat) : Rat := format.value (format.nearest x)

theorem rounded_zero : format.rounded 0 = 0 := by
  simp [rounded, nearest, value]

theorem rounded_eq {x : Rat} {steps : Nat} (positive : 0 < x)
    (room : steps + 4 ≤ 1 <<< format.exponentBits)
    (small : x < 2 ^ (format.leastExponent + format.fractionBits + steps)) :
    format.rounded x = format.count x * 2 ^ format.quantum x := by
  obtain ⟨most, least, _⟩ := format.count_bounds positive
  rw [rounded, (format.nearest_finite positive room small).2]
  exact format.value_of_count (le_max_left _ _) most least

/-- Rounding carries no number past a power of two. -/
theorem rounded_le_two_zpow {x : Rat} {steps : Nat} {power : Int} (nonneg : 0 ≤ x)
    (room : steps + 4 ≤ 1 <<< format.exponentBits)
    (small : x < 2 ^ (format.leastExponent + format.fractionBits + steps))
    (above : format.leastExponent ≤ power) (le : x ≤ 2 ^ power) :
    format.rounded x ≤ 2 ^ power := by
  rcases nonneg.eq_or_lt with rfl | positive
  · rwa [rounded_zero]
  · have exponent : floorLog2 x ≤ power :=
      (zpow_le_zpow_iff_right₀ (by norm_num : (1 : Rat) < 2)).mp
        ((floorLog2_bounds positive).1.trans le)
    have place : (0 : Rat) < 2 ^ format.quantum x := by positivity
    obtain ⟨multiple, whole⟩ := two_zpow_multiple (show format.quantum x ≤ power from
      max_le above (by omega))
    have counted : x / 2 ^ format.quantum x ≤ (multiple : Int) := by
      rw [div_le_iff₀ place, Int.cast_natCast, ← whole]
      exact le
    have count : format.count x ≤ multiple := Int.toNat_le.mpr (roundHalfEven_le counted)
    rw [format.rounded_eq positive room small, whole]
    exact mul_le_mul_of_nonneg_right (by exact_mod_cast count) place.le

/-- A rounded number is off by half of its last place at most. -/
theorem rounded_error {x : Rat} {steps : Nat} (nonneg : 0 ≤ x)
    (room : steps + 4 ≤ 1 <<< format.exponentBits)
    (small : x < 2 ^ (format.leastExponent + format.fractionBits + steps)) :
    |format.rounded x - x| ≤
      x * 2 ^ (-(format.fractionBits : Int) - 1) + 2 ^ (format.leastExponent - 1) := by
  rcases nonneg.eq_or_lt with rfl | positive
  · rw [rounded_zero, sub_zero, abs_zero, zero_mul, zero_add]
    positivity
  · obtain ⟨_, _, close⟩ := format.count_bounds positive
    have place : (0 : Rat) < 2 ^ format.quantum x := by positivity
    have exact := format.rounded_eq positive room small
    have apart : format.rounded x - x =
        (format.count x - x / 2 ^ format.quantum x) * 2 ^ format.quantum x := by
      rw [exact]
      field_simp
    have half : |format.rounded x - x| ≤ 2 ^ (format.quantum x - 1) := by
      rw [apart, abs_mul, abs_of_pos place, zpow_sub_one₀ (by norm_num), mul_comm (_ ^ _)]
      have := mul_le_mul_of_nonneg_right close place.le
      rwa [one_div] at this
    refine half.trans ?_
    rcases le_total (floorLog2 x - format.fractionBits) format.leastExponent with deep | normal
    · rw [quantum, max_eq_left deep]
      exact le_add_of_nonneg_left (by positivity)
    · have last : format.quantum x - 1 = floorLog2 x + (-(format.fractionBits : Int) - 1) := by
        rw [quantum, max_eq_right normal]
        ring
      rw [last, two_zpow_add]
      have := mul_le_mul_of_nonneg_right (floorLog2_bounds positive).1
        (by positivity : (0 : Rat) ≤ 2 ^ (-(format.fractionBits : Int) - 1))
      exact this.trans (le_add_of_nonneg_right (by positivity))

/-! ### Roots -/

/-- The exponent of the last place kept of the root of a positive `x`. -/
def rootQuantum (x : Rat) : Int :=
  max format.leastExponent (floorLog2 x / 2 - format.fractionBits)

/-- The last places that the root of a number is rounded to. -/
def rootCount (x : Rat) : Nat := rootHalfEven (x / 2 ^ (2 * format.rootQuantum x))

theorem rootCount_bounds {x : Rat} (positive : 0 < x) :
    format.rootCount x ≤ 2 * format.fractions ∧
      (floorLog2 x / 2 < format.leastExponent + format.fractionBits ∨
        format.fractions ≤ format.rootCount x) := by
  obtain ⟨low, high⟩ := floorLog2_bounds positive
  have place : (0 : Rat) < 2 ^ (2 * format.rootQuantum x) := by positivity
  constructor
  · refine rootHalfEven_le (by positivity) ?_
    rw [div_le_iff₀ place]
    push_cast
    rw [fractions_eq, ← zpow_one_add₀ (by norm_num), ← two_zpow_two_mul, ← two_zpow_add]
    refine high.le.trans (two_zpow_mono ?_)
    have := le_max_right format.leastExponent (floorLog2 x / 2 - format.fractionBits)
    simp only [rootQuantum]
    omega
  · rcases lt_or_ge (floorLog2 x / 2) (format.leastExponent + format.fractionBits) with
      deep | normal
    · exact .inl deep
    · refine .inr (le_rootHalfEven ?_)
      have exact : format.rootQuantum x = floorLog2 x / 2 - format.fractionBits :=
        max_eq_right (by omega)
      rw [le_div_iff₀ place, fractions_eq, ← two_zpow_two_mul, ← two_zpow_add]
      refine (two_zpow_mono ?_).trans low
      omega

theorem nearestRoot_eq {x : Rat} (positive : 0 < x) :
    format.nearestRoot x =
      (format.rootQuantum x - format.leastExponent).toNat * format.fractions +
        format.rootCount x :=
  if_neg positive.ne'

/-- The value of the magnitude that is nearest to the root of a number. -/
def root (x : Rat) : Rat := format.value (format.nearestRoot x)

theorem root_eq {x : Rat} (positive : 0 < x) :
    format.root x = format.rootCount x * 2 ^ format.rootQuantum x := by
  obtain ⟨most, least⟩ := format.rootCount_bounds positive
  rw [root, format.nearestRoot_eq positive]
  exact format.value_of_count (le_max_left _ _) most (least.imp_left fun deep =>
    max_eq_left (by omega))

/-- Rounding carries no root past a power of two. -/
theorem root_le_two_zpow {x : Rat} {power : Int} (positive : 0 < x)
    (above : format.leastExponent ≤ power) (le : x ≤ 2 ^ (2 * power)) :
    format.root x ≤ 2 ^ power := by
  have exponent : floorLog2 x ≤ 2 * power :=
    (zpow_le_zpow_iff_right₀ (by norm_num : (1 : Rat) < 2)).mp
      ((floorLog2_bounds positive).1.trans le)
  have place : (0 : Rat) < 2 ^ format.rootQuantum x := by positivity
  obtain ⟨multiple, whole⟩ := two_zpow_multiple (show format.rootQuantum x ≤ power from
    max_le above (by omega))
  have counted : x / 2 ^ (2 * format.rootQuantum x) ≤ (multiple : Rat) ^ 2 := by
    rw [two_zpow_two_mul, div_le_iff₀ (by positivity), ← mul_pow, ← whole, ← two_zpow_two_mul]
    exact le
  have count : format.rootCount x ≤ multiple := rootHalfEven_le (by positivity) counted
  rw [format.root_eq positive, whole]
  exact mul_le_mul_of_nonneg_right (by exact_mod_cast count) place.le

/-- Below the given power of two no root is infinite. -/
theorem nearestRoot_finite {x : Rat} {steps : Nat} (positive : 0 < x)
    (room : steps + 4 ≤ 1 <<< format.exponentBits)
    (small : x < 2 ^ (2 * (format.leastExponent + format.fractionBits + steps))) :
    format.nearestRoot x < format.infinityMagnitude := by
  obtain ⟨most, _⟩ := format.rootCount_bounds positive
  have exponent : floorLog2 x < 2 * (format.leastExponent + format.fractionBits + steps) :=
    (zpow_lt_zpow_iff_right₀ (by norm_num : (1 : Rat) < 2)).mp
      ((floorLog2_bounds positive).1.trans_lt small)
  have steps : (format.rootQuantum x - format.leastExponent).toNat + 3 ≤
      1 <<< format.exponentBits - 1 := by
    simp only [rootQuantum]
    omega
  have := Nat.mul_le_mul_right format.fractions steps
  have := format.fractions_pos
  rw [format.nearestRoot_eq positive, infinityMagnitude]
  linarith

/-- The root of a number lies within half of the last place of its rounded root. -/
theorem root_bounds {x : Rat}
    (normal : (2 : Rat) ^ (2 * (format.leastExponent + format.fractionBits)) ≤ x) :
    0 < format.root x ∧
      (format.root x * (1 - 2 ^ (-(format.fractionBits : Int) - 1))) ^ 2 ≤ x ∧
      x ≤ (format.root x * (1 + 2 ^ (-(format.fractionBits : Int) - 1))) ^ 2 := by
  have positive : 0 < x := lt_of_lt_of_le (by positivity) normal
  obtain ⟨most, least⟩ := format.rootCount_bounds positive
  have place : (0 : Rat) < 2 ^ format.rootQuantum x := by positivity
  have exact := format.root_eq positive
  have full : (format.fractions : Rat) ≤ format.rootCount x := by
    have exponent : 2 * (format.leastExponent + format.fractionBits) < floorLog2 x + 1 :=
      (zpow_lt_zpow_iff_right₀ (by norm_num : (1 : Rat) < 2)).mp
        (normal.trans_lt (floorLog2_bounds positive).2)
    exact Nat.cast_le.mpr (least.resolve_left (by omega))
  have counted : 0 < (format.rootCount x : Rat) :=
    lt_of_lt_of_le (by exact_mod_cast format.fractions_pos) full
  -- The root has all its places, so half of the last one is a fraction of it.
  have half : (2 : Rat) ^ format.rootQuantum x / 2 ≤
      format.root x * 2 ^ (-(format.fractionBits : Int) - 1) := by
    rw [exact, zpow_sub_one₀ (by norm_num), zpow_neg, ← fractions_eq]
    have fractions : (0 : Rat) < format.fractions := by exact_mod_cast format.fractions_pos
    have one : 1 ≤ (format.rootCount x : Rat) * (format.fractions : Rat)⁻¹ := by
      rwa [← div_eq_mul_inv, one_le_div fractions]
    have quantum : 0 ≤ (2 : Rat) ^ format.rootQuantum x / 2 := by positivity
    have := mul_le_mul_of_nonneg_right one quantum
    linarith
  have square := two_zpow_two_mul (format.rootQuantum x)
  obtain ⟨lower, upper⟩ := rootHalfEven_bounds (div_nonneg positive.le (by positivity) :
    0 ≤ x / 2 ^ (2 * format.rootQuantum x))
  have lower := lower.resolve_left (Nat.cast_pos.mp counted).ne'
  rw [square, le_div_iff₀ (by positivity), ← mul_pow, ← square] at lower
  rw [square, div_le_iff₀ (by positivity), ← mul_pow, ← square] at upper
  change ((format.rootCount x - 1 / 2 : Rat) * _) ^ 2 ≤ x at lower
  change x ≤ ((format.rootCount x + 1 / 2 : Rat) * _) ^ 2 at upper
  have rooted : 0 < format.root x := by
    rw [exact]
    positivity
  have fraction : (2 : Rat) ^ (-(format.fractionBits : Int) - 1) ≤ 1 :=
    zpow_le_one_of_nonpos₀ (by norm_num) (by omega)
  refine ⟨rooted, le_trans (pow_le_pow_left₀ ?_ ?_ 2) lower, upper.trans (pow_le_pow_left₀ ?_ ?_ 2)⟩
  · exact mul_nonneg rooted.le (by linarith)
  · rw [sub_mul, ← exact]
    linarith
  · positivity
  · rw [add_mul, ← exact]
    linarith

end Binary.Format

end VehicleLink
