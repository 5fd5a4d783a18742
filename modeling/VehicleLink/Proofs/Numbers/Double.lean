import VehicleLink.Binary.Double
import VehicleLink.Proofs.Numbers.Single

/-!
Numbers that rounding leaves alone. A number is held exactly if it has no more digits than the format
has places for; such are the values of every narrower format and the natural numbers up to a bound.
Whether a double is zero, undefined, below zero or above zero can be read off its word.
-/

namespace VehicleLink

theorem roundHalfEven_intCast (n : Int) : roundHalfEven (n : Rat) = n :=
  le_antisymm (roundHalfEven_le le_rfl) (le_roundHalfEven le_rfl)

namespace Binary.Format

variable (format : Format) {count magnitude : Nat} {place : Int}

/-- A multiple of a power of two is held exactly if it is not too many of them. -/
theorem rounded_of_multiple {steps : Nat} (above : format.leastExponent ≤ place)
    (few : count < 2 * format.fractions) (room : steps + 4 ≤ 1 <<< format.exponentBits)
    (small : (count : Rat) * 2 ^ place < 2 ^ (format.leastExponent + format.fractionBits + steps)) :
    format.rounded (count * 2 ^ place) = count * 2 ^ place := by
  rcases Nat.eq_zero_or_pos count with rfl | positive
  · rw [Nat.cast_zero, zero_mul, rounded_zero]
  · have exact : (0 : Rat) < count * 2 ^ place := by positivity
    have exponent : floorLog2 (count * 2 ^ place) < place + (format.fractionBits + 1) := by
      refine (zpow_lt_zpow_iff_right₀ (by norm_num : (1 : Rat) < 2)).mp
        ((floorLog2_bounds exact).1.trans_lt ?_)
      have below : (count : Rat) < 2 ^ (format.fractionBits + 1 : Int) := by
        rw [zpow_add_one₀ (by norm_num), ← fractions_eq, mul_comm]
        exact_mod_cast few
      rw [two_zpow_add, mul_comm (2 ^ place : Rat)]
      exact mul_lt_mul_of_pos_right below (by positivity)
    -- The last place that is kept divides the given one, so that nothing is rounded off.
    have last : format.quantum (count * 2 ^ place) ≤ place := max_le above (by omega)
    rw [format.rounded_eq exact room small, Format.count]
    generalize format.quantum (count * 2 ^ place) = quantum at last
    obtain ⟨multiple, whole⟩ := two_zpow_multiple last
    have counted : (count : Rat) * 2 ^ place / 2 ^ quantum = ((count * multiple : Nat) : Int) := by
      rw [div_eq_iff (by positivity), whole]
      push_cast
      ring
    rw [counted, roundHalfEven_intCast, Int.toNat_natCast, whole]
    push_cast
    ring

/-- A value is a multiple of a power of two. -/
theorem value_eq_multiple (finite : magnitude < format.infinityMagnitude) :
    ∃ (count : Nat) (place : Int), format.value magnitude = count * 2 ^ place ∧
      count < 2 * format.fractions ∧ format.leastExponent ≤ place ∧
      place < format.leastExponent + (1 <<< format.exponentBits : Nat) := by
  have fraction := Nat.mod_lt magnitude format.fractions_pos
  have exponent : magnitude / format.fractions < 1 <<< format.exponentBits - 1 :=
    (Nat.div_lt_iff_lt_mul format.fractions_pos).mpr finite
  simp only [value]
  generalize magnitude / format.fractions = quotient at exponent
  split
  · exact ⟨_, _, rfl, by omega, le_refl _, by omega⟩
  · exact ⟨_, _, rfl, by omega, by omega, by omega⟩

theorem infinityMagnitude_lt_signBit : format.infinityMagnitude < format.signBit := by
  have fewer : 1 <<< format.exponentBits - 1 < 1 <<< format.exponentBits := by
    rw [Nat.one_shiftLeft]
    exact Nat.sub_lt (by positivity) Nat.one_pos
  have scaled := Nat.mul_lt_mul_of_pos_right fewer format.fractions_pos
  simpa only [infinityMagnitude, signBit, fractions, Nat.one_shiftLeft, Nat.pow_add] using scaled

/-- A word of a sign and a finite magnitude means just that. -/
theorem datum_word (negative : Bool) (finite : magnitude < format.infinityMagnitude) :
    format.datum (format.word negative magnitude) = .finite negative (format.value magnitude) := by
  have below := finite.trans format.infinityMagnitude_lt_signBit
  have parts : decide (format.signBit ≤ format.word negative magnitude) = negative ∧
      format.word negative magnitude % format.signBit = magnitude := by
    cases negative
    · exact ⟨decide_eq_false (Nat.not_le.mpr below), Nat.mod_eq_of_lt below⟩
    · refine ⟨decide_eq_true (Nat.le_add_right _ _), ?_⟩
      rw [word, if_pos rfl, Nat.add_mod_left, Nat.mod_eq_of_lt below]
  change format.meaning _ _ = _
  rw [parts.1, parts.2]
  exact meaning_of_finite negative finite

theorem value_pos (positive : 0 < magnitude) : 0 < format.value magnitude := by
  simp only [value]
  split
  next subnormal =>
    have fraction : magnitude % format.fractions = magnitude :=
      Nat.mod_eq_of_lt ((Nat.div_eq_zero_iff_lt format.fractions_pos).mp subnormal)
    rw [fraction]
    positivity
  next =>
    have := format.fractions_pos
    positivity

theorem value_zero : format.value 0 = 0 := by simp [value]

/-- A magnitude other than zero is infinite or has a value other than zero. -/
theorem meaning_of_pos (negative : Bool) (positive : 0 < magnitude)
    (defined : magnitude ≤ format.infinityMagnitude) :
    format.meaning negative magnitude = .infinity negative ∨
      ∃ value, 0 < value ∧ format.meaning negative magnitude = .finite negative value := by
  rcases defined.eq_or_lt with rfl | finite
  · left
    rw [meaning, if_neg (Nat.lt_irrefl _), if_pos rfl]
  · exact .inr ⟨_, format.value_pos positive, meaning_of_finite negative finite⟩

end Binary.Format

theorem Binary.Datum.finite_lt_finite_iff {left right : Bool} {x y : Rat} :
    (finite left x).lt (finite right y) = true ↔ (finite left x).value < (finite right y).value :=
  decide_eq_true_iff

namespace Double

open Binary

variable {count : Nat} {place : Int}

/-- A number of at most 53 digits that is neither too small nor too large is held exactly. -/
theorem datum_of_multiple (negative : Bool) (few : count < 2 ^ 53) (above : -1074 ≤ place)
    (below : place ≤ 900) :
    (ofDatum (.finite negative (count * 2 ^ place))).datum =
      .finite negative (count * 2 ^ place) := by
  have least : Format.double.leastExponent = -1074 := rfl
  have bits : Format.double.fractionBits = 52 := rfl
  have few : count < 2 * Format.double.fractions := few
  have nonneg : (0 : Rat) ≤ count * 2 ^ place := by positivity
  have small : (count : Rat) * 2 ^ place <
      2 ^ (Format.double.leastExponent + Format.double.fractionBits + (2000 : Nat)) := by
    have counted : (count : Rat) < 2 ^ (53 : Int) := by exact_mod_cast few
    have scaled := mul_lt_mul_of_pos_right counted (by positivity : (0 : Rat) < 2 ^ place)
    rw [← two_zpow_add] at scaled
    exact scaled.trans_le (two_zpow_mono (by rw [least, bits]; omega))
  have exact := Format.double.rounded_of_multiple (by rw [least]; exact above) few (by decide) small
  have finite : Format.double.nearest (count * 2 ^ place) < Format.double.infinityMagnitude := by
    rcases nonneg.eq_or_lt with zero | positive
    · rw [← zero]
      decide
    · exact (Format.double.nearest_finite positive (by decide) small).1
  have within : Format.double.word negative (Format.double.nearest (count * 2 ^ place)) < 2 ^ 64 := by
    have sign : Format.double.signBit = 2 ^ 63 := rfl
    have below := finite.trans Format.double.infinityMagnitude_lt_signBit
    rw [Format.word, sign] at *
    cases negative <;> simp <;> omega
  rw [ofDatum, datum, Format.round, UInt64.toNat_ofNat_of_lt' within,
    Format.double.datum_word negative finite, ← Format.rounded, exact]

/-- A natural number of at most 53 digits is held exactly. -/
theorem datum_ofNat {n : Nat} (few : n < 2 ^ 53) : (ofNat n).datum = .finite false n := by
  have exact : (ofDatum (.finite false (n * 2 ^ (0 : Int)))).datum =
      .finite false (n * 2 ^ (0 : Int)) :=
    datum_of_multiple false few (by decide) (by decide)
  rwa [zpow_zero, mul_one] at exact

/-! ### What a word tells -/

variable {x : Double}

def IsNaN (x : Double) : Prop :=
  0x7ff0000000000000 < x.bits ∧ x.bits < 0x8000000000000000 ∨ 0xfff0000000000000 < x.bits

/-- Both zeros. -/
def IsZero (x : Double) : Prop := x.bits = 0 ∨ x.bits = 0x8000000000000000

/-- A number below zero, also one that is subnormal or infinite. -/
def IsNegative (x : Double) : Prop :=
  0x8000000000000000 < x.bits ∧ x.bits ≤ 0xfff0000000000000

/-- A number above zero, also one that is subnormal or infinite. -/
def IsPositive (x : Double) : Prop := 0 < x.bits ∧ x.bits ≤ 0x7ff0000000000000

/-- Every word is of one of these kinds. -/
theorem kinds (x : Double) : x.IsNaN ∨ x.IsZero ∨ x.IsNegative ∨ x.IsPositive := by
  have below := x.bits.toNat_lt
  simp only [IsNaN, IsZero, IsNegative, IsPositive, UInt64.lt_iff_toNat_lt, UInt64.le_iff_toNat_le,
    ← UInt64.toNat_inj, UInt64.reduceToNat]
  omega

theorem datum_eq (x : Double) :
    x.datum = Format.double.meaning (decide (0x8000000000000000 ≤ x.bits.toNat))
      (x.bits.toNat % 0x8000000000000000) := rfl

theorem infinityMagnitude_double : Format.double.infinityMagnitude = 0x7ff0000000000000 := rfl

theorem datum_of_isNaN (undefined : x.IsNaN) : x.datum = .nan := by
  have below := x.bits.toNat_lt
  simp only [IsNaN, UInt64.lt_iff_toNat_lt, UInt64.reduceToNat] at undefined
  rw [datum_eq, Format.meaning, if_pos]
  rw [infinityMagnitude_double]
  omega

theorem datum_of_isZero (zero : x.IsZero) : ∃ negative, x.datum = .finite negative 0 := by
  simp only [IsZero, ← UInt64.toNat_inj, UInt64.reduceToNat] at zero
  have none_left : x.bits.toNat % 0x8000000000000000 = 0 := by omega
  refine ⟨decide (0x8000000000000000 ≤ x.bits.toNat), ?_⟩
  rw [datum_eq, none_left, Format.meaning_of_finite _ (by decide), Format.value_zero]

theorem datum_of_isPositive (positive : x.IsPositive) :
    x.datum = .infinity false ∨ ∃ value, 0 < value ∧ x.datum = .finite false value := by
  simp only [IsPositive, UInt64.lt_iff_toNat_lt, UInt64.le_iff_toNat_le,
    UInt64.reduceToNat] at positive
  have sign : decide (0x8000000000000000 ≤ x.bits.toNat) = false := decide_eq_false (by omega)
  rw [datum_eq, sign]
  exact Format.double.meaning_of_pos false (by omega) (by rw [infinityMagnitude_double]; omega)

theorem datum_of_isNegative (negative : x.IsNegative) :
    x.datum = .infinity true ∨ ∃ value, 0 < value ∧ x.datum = .finite true value := by
  simp only [IsNegative, UInt64.lt_iff_toNat_lt, UInt64.le_iff_toNat_le,
    UInt64.reduceToNat] at negative
  have sign : decide (0x8000000000000000 ≤ x.bits.toNat) = true := decide_eq_true (by omega)
  rw [datum_eq, sign]
  exact Format.double.meaning_of_pos true (by omega) (by rw [infinityMagnitude_double]; omega)

/-- The kinds are those of the order of doubles. -/
theorem isPositive_iff : x.IsPositive ↔ (Datum.finite false 0).lt x.datum = true := by
  constructor
  · intro positive
    rcases datum_of_isPositive positive with same | ⟨value, positive, same⟩
    · rw [same]
      rfl
    · rw [same, Datum.finite_lt_finite_iff]
      exact positive
  · intro above
    rcases x.kinds with undefined | zero | negative | positive
    · simp [datum_of_isNaN undefined, Datum.lt] at above
    · obtain ⟨sign, same⟩ := datum_of_isZero zero
      rw [same, Datum.finite_lt_finite_iff] at above
      cases sign <;> simp [Datum.value] at above
    · rcases datum_of_isNegative negative with same | ⟨value, positive, same⟩
      · simp [same, Datum.lt] at above
      · rw [same, Datum.finite_lt_finite_iff] at above
        exact absurd (neg_pos.mp above) positive.le.not_gt
    · exact positive

theorem isNegative_iff : x.IsNegative ↔ x.datum.lt (.finite false 0) = true := by
  constructor
  · intro negative
    rcases datum_of_isNegative negative with same | ⟨value, positive, same⟩
    · rw [same]
      rfl
    · rw [same, Datum.finite_lt_finite_iff]
      exact neg_neg_iff_pos.mpr positive
  · intro below
    rcases x.kinds with undefined | zero | negative | positive
    · simp [datum_of_isNaN undefined, Datum.lt] at below
    · obtain ⟨sign, same⟩ := datum_of_isZero zero
      rw [same, Datum.finite_lt_finite_iff] at below
      cases sign <;> simp [Datum.value] at below
    · exact negative
    · rcases datum_of_isPositive positive with same | ⟨value, positive, same⟩
      · simp [same, Datum.lt] at below
      · rw [same, Datum.finite_lt_finite_iff] at below
        exact absurd below positive.le.not_gt

end Double

namespace Single

open Binary

/-- A double holds every single, also one that is infinite or undefined. -/
theorem datum_widen (x : Single) : x.widen.datum = x.datum := by
  rw [widen]
  cases same : x.datum with
  | nan => decide +kernel
  | infinity negative => cases negative <;> decide +kernel
  | finite negative magnitude =>
      rw [datum_eq] at same
      obtain ⟨finite, _, rfl⟩ := Format.finite_of_meaning same
      obtain ⟨count, place, exact, few, above, below⟩ := Format.single.value_eq_multiple finite
      rw [exact]
      exact Double.datum_of_multiple negative (few.trans (by decide))
        (le_trans (by decide) above) (below.le.trans (by decide))

end Single

end VehicleLink
