/-!
Rounding of exact rationals to integers, and their place among the powers of two. These are the
rules behind every inexact number of the link: float arithmetic, fixed-point setpoints and waits.
-/

namespace VehicleLink

/-- The integer nearest to `x`; a half goes to the even neighbour. -/
def roundHalfEven (x : Rat) : Int :=
  let below := x.floor
  let above := below + 1
  let rest := x - below
  if rest < 1 / 2 then below
  else if 1 / 2 < rest then above
  else if below % 2 = 0 then below else above

/-- The integer nearest to `x`; a half goes away from zero. -/
def roundHalfAway (x : Rat) : Int :=
  if x < 0 then -((1 / 2 - x).floor) else (x + 1 / 2).floor

/-- The integer nearest to the square root of `x`; a half goes to the even neighbour. -/
def rootHalfEven (x : Rat) : Nat :=
  let below := x.floor.toNat.sqrt
  let middle : Rat := below + 1 / 2
  if x < middle * middle then below
  else if middle * middle < x then below + 1
  else if below % 2 = 0 then below else below + 1

/-- The exponent of the largest power of two that is at most `x`, for positive `x`. -/
def floorLog2 (x : Rat) : Int :=
  let estimate : Int := (x.num.natAbs.log2 : Int) - (x.den.log2 : Int)
  if (2 : Rat) ^ estimate ≤ x then estimate else estimate - 1

end VehicleLink
