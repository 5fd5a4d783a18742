import Mathlib.Data.ENat.Basic
import VehicleLink.Link.Wait
import VehicleLink.Proofs.Numbers.Double

/-!
How long a receiver waits that is told a number of seconds. Zero and what is undefined is no wait, and
a number below zero is a wait for ever. Above zero the wait is the nearest number of nanoseconds, a
half going to the even one, as long as its seconds can be held; a longer one never ends.
-/

namespace VehicleLink

open Binary

namespace Wait

variable {seconds later : Double}

/-- How long a wait is, in nanoseconds. -/
def length : Wait → ℕ∞
  | .none => 0
  | .forever => ⊤
  | .atMost nanoseconds => nanoseconds

/-- A wait of nanoseconds, for ever if its seconds cannot be held. -/
def capped (nanoseconds : Nat) : Wait :=
  if nanoseconds < secondsLimit * 1000000000 then .atMost nanoseconds else .forever

theorem capped_ne_none (nanoseconds : Nat) : capped nanoseconds ≠ .none := by
  unfold capped
  split <;> exact Wait.noConfusion

theorem length_capped_mono {fewer more : Nat} (le : fewer ≤ more) :
    (capped fewer).length ≤ (capped more).length := by
  unfold capped
  split_ifs with held least
  · exact Nat.cast_le.mpr le
  · exact le_top
  · omega
  · exact le_rfl

theorem ofSeconds_of_infinity {negative : Bool} (same : seconds.datum = .infinity negative) :
    ofSeconds seconds = .forever := by
  simp only [ofSeconds, same]

theorem ofSeconds_of_finite {value : Rat} (same : seconds.datum = .finite false value)
    (positive : 0 < value) :
    ofSeconds seconds = capped (roundHalfEven (value * 1000000000)).toNat := by
  simp only [ofSeconds, same, if_neg positive.ne', capped]
  rfl

theorem ofSeconds_of_isNegative (negative : seconds.IsNegative) :
    ofSeconds seconds = .forever := by
  rcases Double.datum_of_isNegative negative with same | ⟨value, positive, same⟩
  · exact ofSeconds_of_infinity same
  · simp only [ofSeconds, same, if_neg positive.ne', if_true]

theorem ofSeconds_ne_none (positive : seconds.IsPositive) : ofSeconds seconds ≠ .none := by
  rcases Double.datum_of_isPositive positive with same | ⟨value, positive, same⟩
  · rw [ofSeconds_of_infinity same]
    exact Wait.noConfusion
  · rw [ofSeconds_of_finite same positive]
    exact capped_ne_none _

theorem ofSeconds_eq_none_iff : ofSeconds seconds = .none ↔ seconds.IsNaN ∨ seconds.IsZero := by
  constructor
  · intro none
    rcases seconds.kinds with undefined | zero | negative | positive
    · exact .inl undefined
    · exact .inr zero
    · cases (ofSeconds_of_isNegative negative).symm.trans none
    · exact absurd none (ofSeconds_ne_none positive)
  · rintro (undefined | zero)
    · simp only [ofSeconds, Double.datum_of_isNaN undefined]
    · obtain ⟨sign, same⟩ := Double.datum_of_isZero zero
      simp only [ofSeconds, same, if_true]

theorem ofSeconds_mono (positive : seconds.IsPositive) (defined : ¬ later.IsNaN)
    (le : later.datum.lt seconds.datum = false) :
    (ofSeconds seconds).length ≤ (ofSeconds later).length := by
  rcases later.kinds with undefined | zero | negative | further
  · exact absurd undefined defined
  · obtain ⟨sign, after⟩ := Double.datum_of_isZero zero
    rcases Double.datum_of_isPositive positive with same | ⟨value, positive, same⟩
    · rw [after, same] at le
      cases le
    · rw [after, same, ← Bool.not_eq_true, Datum.finite_lt_finite_iff] at le
      refine absurd ?_ le
      cases sign <;> simpa [Datum.value] using positive
  · rw [ofSeconds_of_isNegative negative]
    exact le_top
  · rcases Double.datum_of_isPositive further with after | ⟨size, large, after⟩
    · rw [ofSeconds_of_infinity after]
      exact le_top
    · rcases Double.datum_of_isPositive positive with same | ⟨value, positive, same⟩
      · rw [after, same] at le
        cases le
      · rw [after, same, ← Bool.not_eq_true, Datum.finite_lt_finite_iff, not_lt] at le
        have le : value ≤ size := le
        rw [ofSeconds_of_finite same positive, ofSeconds_of_finite after large]
        exact length_capped_mono (Int.toNat_le_toNat (roundHalfEven_mono (by linarith)))

/-! ### The law -/

/-- What becomes of a number of seconds. -/
structure Classifies (seconds : Double) : Prop where
  /-- Every word is of one of these kinds, and they are those of the order of doubles. -/
  kinds : seconds.IsNaN ∨ seconds.IsZero ∨ seconds.IsNegative ∨ seconds.IsPositive
  below : seconds.IsNegative ↔ seconds.datum.lt (.finite false 0) = true
  above : seconds.IsPositive ↔ (Datum.finite false 0).lt seconds.datum = true
  none_iff : ofSeconds seconds = .none ↔ seconds.IsNaN ∨ seconds.IsZero
  negative : seconds.IsNegative → ofSeconds seconds = .forever
  infinite : seconds.datum = .infinity false → ofSeconds seconds = .forever
  /-- There is one nearest number of nanoseconds, and it is the wait if its seconds can be held. -/
  nearest : ∀ value, seconds.datum = .finite false value → 0 < value →
    ∃ nanoseconds : Nat,
      (∀ n : Int, NearestEven n (value * 10 ^ 9) ↔ n = nanoseconds) ∧
      (nanoseconds < 2 ^ 64 * 10 ^ 9 →
        ∃ (whole : UInt64) (rest : UInt32), whole.toNat = nanoseconds / 10 ^ 9 ∧
          rest.toNat = nanoseconds % 10 ^ 9 ∧
          ofSeconds seconds = .atMost (whole.toNat * 10 ^ 9 + rest.toNat)) ∧
      (2 ^ 64 * 10 ^ 9 ≤ nanoseconds → ofSeconds seconds = .forever)
  waits : seconds.IsPositive → ofSeconds seconds ≠ .none
  monotone : ∀ later, seconds.IsPositive → ¬ later.IsNaN →
    later.datum.lt seconds.datum = false →
    (ofSeconds seconds).length ≤ (ofSeconds later).length

theorem capped_nearest (nanoseconds : Nat) :
    (nanoseconds < 2 ^ 64 * 10 ^ 9 →
      ∃ (whole : UInt64) (rest : UInt32), whole.toNat = nanoseconds / 10 ^ 9 ∧
        rest.toNat = nanoseconds % 10 ^ 9 ∧
        capped nanoseconds = .atMost (whole.toNat * 10 ^ 9 + rest.toNat)) ∧
    (2 ^ 64 * 10 ^ 9 ≤ nanoseconds → capped nanoseconds = .forever) := by
  have limit : secondsLimit * 1000000000 = 2 ^ 64 * 10 ^ 9 := by decide
  constructor
  · intro held
    refine ⟨.ofNat (nanoseconds / 10 ^ 9), .ofNat (nanoseconds % 10 ^ 9), ?_⟩
    rw [UInt64.toNat_ofNat_of_lt' (by simp only [UInt64.size]; omega),
      UInt32.toNat_ofNat_of_lt' (by simp only [UInt32.size]; omega)]
    refine ⟨rfl, rfl, ?_⟩
    rw [capped, limit, if_pos held, Nat.div_add_mod']
  · intro long
    rw [capped, limit, if_neg long.not_gt]

theorem ofSeconds_classifies (seconds : Double) : Classifies seconds where
  kinds := seconds.kinds
  below := Double.isNegative_iff
  above := Double.isPositive_iff
  none_iff := ofSeconds_eq_none_iff
  negative := ofSeconds_of_isNegative
  infinite := ofSeconds_of_infinity
  nearest value same positive := by
    have rounded : 0 ≤ roundHalfEven (value * 1000000000) :=
      le_roundHalfEven (by push_cast; positivity)
    refine ⟨(roundHalfEven (value * 1000000000)).toNat, fun n => ?_, ?_⟩
    · rw [Int.toNat_of_nonneg rounded, show (10 : Rat) ^ 9 = 1000000000 by norm_num]
      exact nearestEven_iff
    · rw [ofSeconds_of_finite same positive]
      exact capped_nearest _
  waits := ofSeconds_ne_none
  monotone later positive defined le := ofSeconds_mono positive defined le

/-- The smallest number above zero, a half of a nanosecond too much, a second that is all but full,
the last number of seconds that can be held and the first that cannot. -/
example :
    [1, 0x3f50000000000000, 0x3fefffffffc90640, 0x43efffffffffffff, 0x43f0000000000000].map
      (ofSeconds ⟨·⟩) =
    [.atMost 0, .atMost 976562, .atMost 1000000000,
      .atMost (18446744073709549568 * 1000000000), .forever] := by
  decide +kernel

end Wait

end VehicleLink
