import VehicleLink.Binary.Single
import VehicleLink.Proofs.Numbers.Nearest

/-!
Arithmetic of finite floats. An operation on finite operands whose exact result is far below
overflow gives a finite float, and that is within the rounding error of the exact result.
-/

namespace VehicleLink

namespace Binary

theorem Format.value_nonneg (format : Format) (magnitude : Nat) : 0 ≤ format.value magnitude := by
  simp only [value]
  split <;> positivity

theorem Format.leastExponent_single : single.leastExponent = -149 := rfl

theorem Format.signBit_single : single.signBit = 2147483648 := rfl

theorem Format.fractionBits_single : single.fractionBits = 23 := rfl

/-- A datum without its sign. -/
def Datum.abs : Datum → Datum
  | .nan => .nan
  | .infinity _ => .infinity false
  | .finite _ magnitude => .finite false magnitude

/-- What a sign and a magnitude mean together. -/
def Format.meaning (format : Format) (negative : Bool) (magnitude : Nat) : Datum :=
  if format.infinityMagnitude < magnitude then .nan
  else if magnitude = format.infinityMagnitude then .infinity negative
  else .finite negative (format.value magnitude)

theorem Format.meaning_of_finite {format : Format} {magnitude : Nat} (negative : Bool)
    (finite : magnitude < format.infinityMagnitude) :
    format.meaning negative magnitude = .finite negative (format.value magnitude) := by
  rw [meaning, if_neg (Nat.lt_asymm finite), if_neg (Nat.ne_of_lt finite)]

theorem Format.meaning_not (format : Format) (negative : Bool) (magnitude : Nat) :
    format.meaning (!negative) magnitude = (format.meaning negative magnitude).neg := by
  unfold meaning
  split_ifs <;> rfl

theorem Format.meaning_abs (format : Format) (negative : Bool) (magnitude : Nat) :
    format.meaning false magnitude = (format.meaning negative magnitude).abs := by
  unfold meaning
  split_ifs <;> rfl

theorem Format.finite_of_meaning {format : Format} {negative sign : Bool} {magnitude : Nat}
    {size : Rat} (same : format.meaning negative magnitude = .finite sign size) :
    magnitude < format.infinityMagnitude ∧ negative = sign ∧ format.value magnitude = size := by
  unfold meaning at same
  split_ifs at same with undefined infinite
  rw [Datum.finite.injEq] at same
  exact ⟨by omega, same⟩

namespace Datum

def isFinite : Datum → Bool
  | .finite .. => true
  | .nan | .infinity _ => false

theorem value_finite (negative : Bool) (magnitude : Rat) :
    (finite negative magnitude).value = if negative then -magnitude else magnitude := by
  cases negative <;> rfl

theorem ofRat_eq (x : Rat) : ofRat x = .finite (decide (x < 0)) |x| := by
  rw [ofRat, Rat.abs]
  split
  · next nonneg => rw [abs_of_nonneg nonneg]
  · next negative => rw [abs_of_neg (not_le.mp negative)]

theorem value_ofRat (x : Rat) : (ofRat x).value = x := by
  rw [ofRat_eq, value_finite]
  split
  · next negative => rw [abs_of_neg (of_decide_eq_true negative), neg_neg]
  · next nonneg => exact abs_of_nonneg (not_lt.mp (of_decide_eq_false (eq_false_of_ne_true nonneg)))

theorem abs_value_finite (negative : Bool) {magnitude : Rat} (nonneg : 0 ≤ magnitude) :
    |(finite negative magnitude).value| = magnitude := by
  cases negative
  · exact abs_of_nonneg nonneg
  · exact (abs_neg magnitude).trans (abs_of_nonneg nonneg)

theorem truncate_le (limit : Nat) (exact : Datum) : exact.truncate limit ≤ limit := by
  cases exact with
  | nan => exact Nat.zero_le _
  | infinity negative => cases negative <;> simp [truncate]
  | finite negative magnitude => cases negative <;> simp [truncate]

/-- A number with the positive sign, also one that is infinite. -/
inductive Unsigned : Datum → Prop
  | infinite : Unsigned (.infinity false)
  | finite {magnitude : Rat} (nonneg : 0 ≤ magnitude) : Unsigned (.finite false magnitude)

namespace Unsigned

variable {exact : Datum} {size : Rat}

theorem mul (unsigned : exact.Unsigned) (positive : 0 < size) :
    ((Datum.finite false size).mul exact).Unsigned := by
  cases unsigned with
  | infinite =>
      rw [Datum.mul, if_neg positive.ne']
      exact infinite
  | finite nonneg => exact finite (mul_nonneg positive.le nonneg)

theorem div (unsigned : exact.Unsigned) (positive : 0 < size) :
    (exact.div (.finite false size)).Unsigned := by
  cases unsigned with
  | infinite => exact infinite
  | finite nonneg =>
      rw [Datum.div, if_neg positive.ne']
      exact finite (div_nonneg nonneg positive.le)

theorem add (unsigned : exact.Unsigned) (positive : 0 < size) :
    (exact.add (.finite false size)).Unsigned := by
  cases unsigned with
  | infinite => exact infinite
  | @finite magnitude nonneg =>
      have sum : 0 < (Datum.finite false magnitude).value + (Datum.finite false size).value :=
        add_pos_of_nonneg_of_pos nonneg positive
      rw [Datum.add, if_neg sum.ne', Datum.ofRat_eq, decide_eq_false sum.not_gt]
      exact finite (abs_nonneg _)

end Unsigned

end Datum

end Binary

namespace Single

open Binary

variable {x y : Single}

def isFinite (x : Single) : Bool := x.datum.isFinite

theorem datum_eq (x : Single) :
    x.datum = Format.single.meaning (decide (2147483648 ≤ x.bits.toNat))
      (x.bits.toNat % 2147483648) :=
  rfl

theorem datum_nonneg {negative : Bool} {magnitude : Rat}
    (same : x.datum = .finite negative magnitude) : 0 ≤ magnitude := by
  rw [datum_eq] at same
  rw [← (Format.finite_of_meaning same).2.2]
  exact Format.value_nonneg _ _

/-- A finite float is a sign and a magnitude. -/
theorem datum_of_finite (finite : x.isFinite = true) :
    ∃ negative magnitude, x.datum = .finite negative magnitude ∧ 0 ≤ magnitude ∧
      x.value = if negative then -magnitude else magnitude := by
  cases same : x.datum with
  | finite negative magnitude =>
      refine ⟨negative, magnitude, rfl, datum_nonneg same, ?_⟩
      rw [value, same, Datum.value_finite]
  | nan => simp [isFinite, same, Datum.isFinite] at finite
  | infinity negative => simp [isFinite, same, Datum.isFinite] at finite

theorem finite_of_datum {negative : Bool} {magnitude : Rat}
    (same : x.datum = .finite negative magnitude) :
    x.isFinite = true ∧ x.value = (Datum.finite negative magnitude).value := by
  rw [isFinite, value, same]
  exact ⟨rfl, rfl⟩

theorem datum_ne_nan (number : x.isNaN = false) : x.datum ≠ .nan := fun same => by
  rw [isNaN, same] at number
  exact absurd number (by decide)

/-! ### Rounding -/

/-- Half of the last place of a number, at most. -/
def roundingError (exact : Rat) : Rat := |exact| / 2 ^ 24 + 1 / 2 ^ 150

/-- A finite float that a number may have been rounded to. -/
structure Rounds (x : Single) (exact : Rat) : Prop where
  finite : x.isFinite = true
  close : |x.value - exact| ≤ roundingError exact
  nonneg : 0 ≤ exact → 0 ≤ x.value
  /-- No power of two is passed. -/
  capped : ∀ power : Int, -149 ≤ power → exact ≤ 2 ^ power → x.value ≤ 2 ^ power

theorem Rounds.bounds {exact : Rat} (rounds : x.Rounds exact) (nonneg : 0 ≤ exact) :
    0 ≤ x.value ∧ exact - (exact / 2 ^ 24 + 1 / 2 ^ 150) ≤ x.value ∧
      x.value ≤ exact + (exact / 2 ^ 24 + 1 / 2 ^ 150) := by
  have close := abs_le.mp rounds.close
  rw [roundingError, abs_of_nonneg nonneg] at close
  exact ⟨rounds.nonneg nonneg, by linarith, by linarith⟩

/-- A finite float that is within an error of a number. -/
structure Near (x : Single) (exact error : Rat) : Prop where
  finite : x.isFinite = true
  close : |x.value - exact| ≤ error

theorem datum_ofNat {magnitude : Nat} (negative : Bool)
    (finite : magnitude < Format.single.infinityMagnitude) :
    datum ⟨UInt32.ofNat (Format.single.word negative magnitude)⟩ =
      .finite negative (Format.single.value magnitude) := by
  have below : magnitude < 2139095040 := finite
  have parts : Format.single.word negative magnitude < 2 ^ 32 ∧
      decide (2147483648 ≤ Format.single.word negative magnitude) = negative ∧
      Format.single.word negative magnitude % 2147483648 = magnitude := by
    rw [Format.word, Format.signBit_single]
    cases negative <;> simp <;> omega
  obtain ⟨within, sign, rest⟩ := parts
  rw [datum_eq, UInt32.toNat_ofNat_of_lt' within, sign, rest]
  exact Format.meaning_of_finite negative finite

/-- What is below this needs no more than 252 steps of the exponent. -/
theorem two_pow_limit : (2 : Rat) ^ 126 =
    2 ^ (Format.single.leastExponent + Format.single.fractionBits + (252 : Nat)) := by
  rw [Format.leastExponent_single, Format.fractionBits_single]
  norm_num

theorem nearest_finite {x : Rat} (nonneg : 0 ≤ x) (small : x < 2 ^ 126) :
    Format.single.nearest x < Format.single.infinityMagnitude ∧
      |Format.single.rounded x - x| ≤ roundingError x := by
  rw [two_pow_limit] at small
  constructor
  · rcases nonneg.eq_or_lt with rfl | positive
    · decide
    · exact (Format.single.nearest_finite positive (by decide) small).1
  · have error := Format.single.rounded_error nonneg (by decide) small
    have last : (2 : Rat) ^ (Format.single.leastExponent - 1) = 1 / 2 ^ 150 := by
      rw [Format.leastExponent_single]
      norm_num
    have fraction : x * 2 ^ (-(Format.single.fractionBits : Int) - 1) = |x| / 2 ^ 24 := by
      rw [abs_of_nonneg nonneg, Format.fractionBits_single]
      norm_num
      ring
    rwa [last, fraction] at error

/-- A number far below overflow becomes a finite float. -/
theorem rounds_ofDatum {exact : Datum} (finite : exact.isFinite = true)
    (sized : ∀ negative magnitude, exact = .finite negative magnitude → 0 ≤ magnitude)
    (small : |exact.value| < 2 ^ 126) :
    (ofDatum exact).Rounds exact.value := by
  cases exact with
  | nan => cases finite
  | infinity negative => cases finite
  | finite negative magnitude =>
      have nonneg := sized negative magnitude rfl
      rw [Datum.abs_value_finite negative nonneg] at small
      obtain ⟨below, error⟩ := nearest_finite nonneg small
      have same : (ofDatum (.finite negative magnitude)).datum =
          .finite negative (Format.single.rounded magnitude) := datum_ofNat negative below
      refine ⟨by rw [isFinite, same]; rfl, ?_, ?_, fun power above le => ?_⟩
      · rw [value, same, roundingError, Datum.abs_value_finite negative nonneg]
        rw [roundingError, abs_of_nonneg nonneg] at error
        cases negative
        · exact error
        · rw [Datum.value, Datum.value, neg_sub_neg, abs_sub_comm]
          exact error
      · intro above
        rw [value, same]
        cases negative
        · exact Format.value_nonneg _ _
        · -- Only zero has a negative sign here, and it stays zero.
          obtain rfl : magnitude = 0 := le_antisymm (neg_nonneg.mp above) nonneg
          rw [Format.rounded_zero]
          exact le_refl _
      · rw [two_pow_limit] at small
        rw [value, same]
        cases negative
        · exact Format.single.rounded_le_two_zpow nonneg (by decide) small above le
        · exact (neg_nonpos.mpr (Format.value_nonneg _ _)).trans (by positivity)

/-! ### Operations -/

theorem rounds_mul (left : x.isFinite = true) (right : y.isFinite = true)
    (small : |x.value * y.value| < 2 ^ 126) :
    (x * y).Rounds (x.value * y.value) := by
  obtain ⟨signX, sizeX, sameX, nonnegX, valueX⟩ := datum_of_finite left
  obtain ⟨signY, sizeY, sameY, nonnegY, valueY⟩ := datum_of_finite right
  have product : (x.datum.mul y.datum).value = x.value * y.value := by
    rw [sameX, sameY, Datum.mul, Datum.value_finite, valueX, valueY]
    cases signX <;> cases signY <;> simp
  rw [← product] at small ⊢
  refine rounds_ofDatum ?_ ?_ small
  · rw [sameX, sameY]
    rfl
  · intro negative magnitude same
    rw [sameX, sameY, Datum.mul, Datum.finite.injEq] at same
    rw [← same.2]
    exact mul_nonneg nonnegX nonnegY

theorem rounds_div (left : x.isFinite = true) (right : y.isFinite = true) (divisor : y.value ≠ 0)
    (small : |x.value / y.value| < 2 ^ 126) :
    (x / y).Rounds (x.value / y.value) := by
  obtain ⟨signX, sizeX, sameX, nonnegX, valueX⟩ := datum_of_finite left
  obtain ⟨signY, sizeY, sameY, nonnegY, valueY⟩ := datum_of_finite right
  have nonzero : sizeY ≠ 0 := by
    rintro rfl
    simp [valueY] at divisor
  have divided : x.datum.div y.datum = .finite (signX ^^ signY) (sizeX / sizeY) := by
    rw [sameX, sameY, Datum.div, if_neg nonzero]
  have quotient : (x.datum.div y.datum).value = x.value / y.value := by
    rw [divided, Datum.value_finite, valueX, valueY]
    cases signX <;> cases signY <;> simp [neg_div, div_neg]
  rw [← quotient] at small ⊢
  refine rounds_ofDatum ?_ ?_ small
  · rw [divided]
    rfl
  · intro negative magnitude same
    rw [divided, Datum.finite.injEq] at same
    rw [← same.2]
    exact div_nonneg nonnegX nonnegY

theorem rounds_add (left : x.isFinite = true) (right : y.isFinite = true)
    (small : |x.value + y.value| < 2 ^ 126) :
    (x + y).Rounds (x.value + y.value) := by
  obtain ⟨signX, sizeX, sameX, nonnegX, valueX⟩ := datum_of_finite left
  obtain ⟨signY, sizeY, sameY, nonnegY, valueY⟩ := datum_of_finite right
  have added : x.datum.add y.datum =
      if x.value + y.value = 0 then .finite (signX && signY) 0
      else .ofRat (x.value + y.value) := by
    rw [value, value, sameX, sameY]
    rfl
  have sum : (x.datum.add y.datum).value = x.value + y.value := by
    rw [added]
    split
    · next zero => rw [zero, Datum.value_finite, neg_zero, ite_self]
    · exact Datum.value_ofRat _
  rw [← sum] at small ⊢
  refine rounds_ofDatum ?_ ?_ small
  · rw [added]
    split <;> rfl
  · intro negative magnitude same
    rw [added] at same
    split at same
    · cases same
      exact le_refl 0
    · rw [Datum.ofRat_eq, Datum.finite.injEq] at same
      rw [← same.2]
      exact abs_nonneg _

/-! ### Numbers without sign -/

theorem datum_ofDatum_nan {exact : Datum} (undefined : exact = .nan) :
    (ofDatum exact).datum = .nan := by
  rw [undefined]
  decide +kernel

theorem datum_ofDatum_infinity : (ofDatum (.infinity false)).datum = .infinity false := by
  decide +kernel

theorem unsigned_ofDatum {exact : Datum} (unsigned : exact.Unsigned) :
    (ofDatum exact).datum.Unsigned := by
  cases unsigned with
  | infinite =>
      rw [datum_ofDatum_infinity]
      exact .infinite
  | @finite magnitude nonneg =>
      have most : Format.single.nearest magnitude ≤ Format.single.infinityMagnitude :=
        Format.single.nearest_le magnitude
      rcases most.eq_or_lt with large | below
      · have same : Format.single.round (.finite false magnitude) =
            Format.single.round (.infinity false) := by
          rw [Format.round, Format.round, large]
        rw [ofDatum, same, ← ofDatum, datum_ofDatum_infinity]
        exact .infinite
      · rw [ofDatum, Format.round, datum_ofNat false below]
        exact .finite (Format.value_nonneg _ _)

/-! ### Signs and the order -/

theorem toNat_abs (x : Single) : x.abs.bits.toNat = x.bits.toNat % 2147483648 :=
  (UInt32.toNat_and _ _).trans (Nat.and_two_pow_sub_one_eq_mod _ 31)

theorem toNat_neg_mod (x : Single) :
    (-x).bits.toNat % 2147483648 = x.bits.toNat % 2147483648 := by
  have flipped : (-x).bits.toNat = x.bits.toNat ^^^ 2 ^ 31 := UInt32.toNat_xor _ _
  rw [flipped]
  exact (Nat.xor_mod_two_pow (n := 31)).trans (Nat.xor_zero _)

protected theorem abs_neg (x : Single) : (-x).abs = x.abs := by
  have same : (-x).abs.bits = x.abs.bits := by
    rw [← UInt32.toNat_inj, toNat_abs, toNat_abs, toNat_neg_mod]
  exact congrArg Single.mk same

theorem datum_abs (x : Single) : x.abs.datum = x.datum.abs := by
  have unsigned : decide (2147483648 ≤ x.bits.toNat % 2147483648) = false := by
    simpa using Nat.mod_lt _ (by decide)
  rw [datum_eq, datum_eq, toNat_abs, Nat.mod_mod, unsigned]
  exact Format.meaning_abs _ _ _

theorem datum_abs_finite (finite : x.isFinite = true) : x.abs.datum = .finite false |x.value| := by
  obtain ⟨negative, magnitude, same, nonneg, _⟩ := datum_of_finite finite
  rw [datum_abs, value, same, Datum.abs_value_finite negative nonneg, Datum.abs]

theorem isFinite_abs (finite : x.isFinite = true) : x.abs.isFinite = true := by
  rw [isFinite, datum_abs_finite finite]
  rfl

theorem value_abs (finite : x.isFinite = true) : x.abs.value = |x.value| := by
  rw [value, datum_abs_finite finite]
  rfl

theorem lt_iff (left : x.isFinite = true) (right : y.isFinite = true) :
    x.lt y = true ↔ x.value < y.value := by
  obtain ⟨signX, sizeX, sameX, _, _⟩ := datum_of_finite left
  obtain ⟨signY, sizeY, sameY, _, _⟩ := datum_of_finite right
  rw [lt, value, value, sameX, sameY, Datum.lt, decide_eq_true_iff]

theorem datum_neg (x : Single) : (-x).datum = x.datum.neg := by
  have flipped : (-x).bits.toNat = x.bits.toNat ^^^ 2 ^ 31 := UInt32.toNat_xor _ _
  have within := x.bits.toNat_lt
  have signed : decide (2147483648 ≤ (-x).bits.toNat) = !decide (2147483648 ≤ x.bits.toNat) := by
    have top : (-x).bits.toNat / 2 ^ 31 = x.bits.toNat / 2 ^ 31 ^^^ 1 := by
      rw [flipped]
      exact Nat.xor_div_two_pow (n := 31)
    have bit : x.bits.toNat / 2 ^ 31 = 0 ∨ x.bits.toNat / 2 ^ 31 = 1 := by omega
    rcases bit with clear | set
    · rw [clear, Nat.zero_xor] at top
      rw [decide_eq_true (by omega : 2147483648 ≤ (-x).bits.toNat),
        decide_eq_false (by omega : ¬ 2147483648 ≤ x.bits.toNat)]
      rfl
    · rw [set, Nat.xor_self] at top
      rw [decide_eq_false (by omega : ¬ 2147483648 ≤ (-x).bits.toNat),
        decide_eq_true (by omega : 2147483648 ≤ x.bits.toNat)]
      rfl
  rw [datum_eq, datum_eq, toNat_neg_mod, signed, Format.meaning_not]

theorem value_neg (x : Single) : (-x).value = -x.value := by
  rw [value, value, datum_neg]
  rcases x.datum with _ | negative | ⟨negative, magnitude⟩
  · rfl
  · rfl
  · cases negative <;> simp [Datum.neg, Datum.value]

theorem isFinite_neg (x : Single) : (-x).isFinite = x.isFinite := by
  rw [isFinite, isFinite, datum_neg]
  cases x.datum <;> rfl

/-- Two signs that are flipped together cancel. -/
protected theorem neg_mul_neg (x y : Single) : -x * -y = x * y := by
  have same : (-x).datum.mul (-y).datum = x.datum.mul y.datum := by
    rw [datum_neg, datum_neg]
    cases x.datum <;> cases y.datum <;> simp [Datum.neg, Datum.mul]
  exact congrArg ofDatum same

/-- Zero with either sign. -/
def IsZero (x : Single) : Prop := x.isFinite = true ∧ x.value = 0

theorem datum_zero : Single.zero.datum = .finite false 0 := by
  decide +kernel

theorem lt_zero_neg (number : x.isNaN = false) (nonzero : ¬ x.IsZero) :
    (-x).lt .zero = !x.lt .zero := by
  rw [lt, lt, datum_neg, datum_zero]
  cases same : x.datum with
  | nan => exact absurd same (datum_ne_nan number)
  | infinity negative => cases negative <;> rfl
  | finite negative magnitude =>
      obtain ⟨finite, exact⟩ := finite_of_datum same
      have apart : (Datum.finite negative magnitude).value ≠ 0 := fun zero =>
        nonzero ⟨finite, exact.trans zero⟩
      have flipped : (Datum.finite (!negative) magnitude).value =
          -(Datum.finite negative magnitude).value := by
        cases negative
        · rfl
        · exact (neg_neg magnitude).symm
      have nothing : (Datum.finite false 0).value = 0 := rfl
      rw [Datum.neg, Datum.lt, Datum.lt, flipped, nothing]
      rcases apart.lt_or_gt with below | above
      · rw [decide_eq_true below, decide_eq_false (by linarith)]
        rfl
      · rw [decide_eq_true (by linarith), decide_eq_false (by linarith)]
        rfl

theorem rounds_sub (left : x.isFinite = true) (right : y.isFinite = true)
    (small : |x.value - y.value| < 2 ^ 126) :
    (x - y).Rounds (x.value - y.value) := by
  rw [sub_eq_add_neg, ← value_neg] at small ⊢
  exact rounds_add left ((isFinite_neg y).trans right) small

theorem isNaN_of_finite (finite : x.isFinite = true) : x.isNaN = false := by
  obtain ⟨negative, magnitude, same, _⟩ := datum_of_finite finite
  rw [isNaN, same]
  rfl

theorem max_finite (left : x.isFinite = true) (right : y.isFinite = true) :
    (x.max y).isFinite = true ∧ (x.max y).value = Max.max x.value y.value := by
  rw [max, isNaN_of_finite left, if_neg Bool.false_ne_true]
  split
  · next below =>
    rw [lt_iff left right] at below
    exact ⟨right, (max_eq_right below.le).symm⟩
  · next above =>
    rw [lt_iff left right, not_lt] at above
    exact ⟨left, (max_eq_left above).symm⟩

/-! ### Roots and integers -/

theorem datum_sqrt (finite : x.isFinite = true) (positive : 0 < x.value)
    (small : x.value < 2 ^ 252) :
    x.sqrt.datum = .finite false (Format.single.root x.value) := by
  obtain ⟨negative, magnitude, same, nonneg, exact⟩ := datum_of_finite finite
  obtain rfl : negative = false := by
    cases negative
    · rfl
    · rw [if_pos rfl] at exact
      linarith
  rw [if_neg Bool.false_ne_true] at exact
  rw [exact] at small positive ⊢
  have high : (2 : Rat) ^ (2 * (Format.single.leastExponent + Format.single.fractionBits +
      (252 : Nat))) = 2 ^ 252 := by
    rw [Format.leastExponent_single, Format.fractionBits_single]
    norm_num
  rw [← high] at small
  have below := Format.single.nearestRoot_finite positive (by decide) small
  rw [sqrt, same]
  simp only [positive.ne', if_false, Bool.false_eq_true]
  exact datum_ofNat false below

theorem sqrt_bounds (finite : x.isFinite = true) (normal : 1 / 2 ^ 252 ≤ x.value)
    (small : x.value < 2 ^ 252) :
    x.sqrt.isFinite = true ∧ 0 < x.sqrt.value ∧
      (x.sqrt.value * (1 - 1 / 2 ^ 24)) ^ 2 ≤ x.value ∧
      x.value ≤ (x.sqrt.value * (1 + 1 / 2 ^ 24)) ^ 2 := by
  have positive : 0 < x.value := lt_of_lt_of_le (by positivity) normal
  have low : (2 : Rat) ^ (2 * (Format.single.leastExponent + Format.single.fractionBits)) =
      1 / 2 ^ 252 := by
    rw [Format.leastExponent_single, Format.fractionBits_single]
    norm_num
  have fraction : (2 : Rat) ^ (-(Format.single.fractionBits : Int) - 1) = 1 / 2 ^ 24 := by
    rw [Format.fractionBits_single]
    norm_num
  rw [← low] at normal
  have bounds := Format.single.root_bounds normal
  rw [fraction] at bounds
  rw [isFinite, value, datum_sqrt finite positive small]
  exact ⟨rfl, bounds⟩

/-- The root of what is at most one is at most one. -/
theorem sqrt_le_one (finite : x.isFinite = true) (positive : 0 < x.value) (le : x.value ≤ 1) :
    x.sqrt.value ≤ 1 := by
  have one : (2 : Rat) ^ (2 * (0 : Int)) = 1 := by norm_num
  rw [← one] at le
  have root := Format.single.root_le_two_zpow positive (by decide) le
  rw [value, datum_sqrt finite positive (by linarith)]
  exact root

theorem sqrt_zero (zero : x.value = 0) (finite : x.isFinite = true) : x.sqrt = x := by
  obtain ⟨negative, magnitude, same, nonneg, exact⟩ := datum_of_finite finite
  have nothing : magnitude = 0 := by
    rw [zero] at exact
    cases negative
    · exact exact.symm
    · exact neg_eq_zero.mp exact.symm
  rw [sqrt, same]
  simp only [nothing, if_true]

/-- No positive float is below the smallest one. -/
theorem le_value_of_pos (finite : x.isFinite = true) (positive : 0 < x.value) :
    1 / 2 ^ 149 ≤ x.value := by
  obtain ⟨negative, magnitude, same, nonneg, exact⟩ := datum_of_finite finite
  have least : (2 : Rat) ^ Format.single.leastExponent = 1 / 2 ^ 149 := by
    rw [Format.leastExponent_single]
    norm_num
  rw [datum_eq] at same
  have size := (Format.finite_of_meaning same).2.2
  cases negative
  · rw [if_neg Bool.false_ne_true, ← size] at exact
    rw [exact] at positive ⊢
    rw [← least]
    exact Format.single.le_value_of_pos positive
  · rw [if_pos rfl] at exact
    linarith

theorem toNat_toUInt32 (x : Single) : x.toUInt32.toNat = x.datum.truncate 0xffffffff :=
  UInt32.toNat_ofNat_of_lt' (Nat.lt_succ_of_le (Datum.truncate_le _ _))

theorem toUInt32_toNat (finite : x.isFinite = true) (nonneg : 0 ≤ x.value)
    (small : x.value < 2 ^ 32) : x.toUInt32.toNat = x.value.floor.toNat := by
  obtain ⟨negative, magnitude, same, positive, exact⟩ := datum_of_finite finite
  have below : x.value.floor.toNat ≤ 0xffffffff := by
    have : x.value.floor < 2 ^ 32 := Rat.floor_lt_iff.mpr (by exact_mod_cast small)
    omega
  rw [toNat_toUInt32, same]
  cases negative
  · rw [if_neg Bool.false_ne_true] at exact
    rw [Datum.truncate, if_neg Bool.false_ne_true, ← exact, Nat.min_eq_left below]
  · rw [if_pos rfl] at exact
    obtain zero : x.value = 0 := by linarith
    rw [Datum.truncate, if_pos rfl, zero]
    rfl

theorem rounds_ofRat {exact : Rat} (nonneg : 0 ≤ exact) (small : exact < 2 ^ 126) :
    (ofRat exact).Rounds exact := by
  have given : (Datum.finite false exact).value = exact := rfl
  have := @rounds_ofDatum (.finite false exact) rfl
    (fun _ _ same => by rw [← (Datum.finite.inj same).2]; exact nonneg)
    (by rwa [given, abs_of_nonneg nonneg])
  rwa [given] at this

end Single

end VehicleLink
