import VehicleLink.Binary.Format

/-!
The shortest decimal that reads back as a given float. A decimal reads back when it lies among the
numbers that round to the float: up to the midpoints towards both neighbours, the midpoints
included when the float is even.
-/

namespace VehicleLink.Decimal

/-- The number `coefficient * 10 ^ exponent`. -/
structure Scaled where
  coefficient : Nat
  exponent : Int
  deriving DecidableEq, Repr

def Scaled.value (x : Scaled) : Rat := (x.coefficient : Rat) * (10 : Rat) ^ x.exponent

/-- The numbers that round to one float. -/
structure Window where
  lower : Rat
  upper : Rat
  closed : Bool

def Window.contains (window : Window) (x : Rat) : Bool :=
  if window.closed then decide (window.lower ≤ x ∧ x ≤ window.upper)
  else decide (window.lower < x ∧ x < window.upper)

/-- The numbers that round to the magnitude of a format, for a magnitude above zero. -/
def Window.around (format : Binary.Format) (magnitude : Nat) : Window where
  lower := (format.value (magnitude - 1) + format.value magnitude) / 2
  upper := (format.value magnitude + format.value (magnitude + 1)) / 2
  closed := magnitude % 2 = 0

/-- The number of decimal digits of `n`, one for zero. -/
def digitCount (n : Nat) : Nat := (Nat.toDigits 10 n).length

/-- The exponent of the first power of ten above `x`, for positive `x`. -/
def leadingExponent (x : Rat) : Int :=
  if 1 ≤ x then digitCount x.floor.toNat
  else 1 - (digitCount (x⁻¹.ceil.toNat - 1) : Int)

/-- The point of the grid `10 ^ exponent` in the window that is nearest to `x`; a tie goes up. -/
def nearestOn (window : Window) (x : Rat) (exponent : Int) : Option Scaled :=
  let below := (x / (10 : Rat) ^ exponent).floor.toNat
  let low : Scaled := ⟨below, exponent⟩
  let high : Scaled := ⟨below + 1, exponent⟩
  match window.contains low.value, window.contains high.value with
  | true, true => if high.value - x ≤ x - low.value then some high else some low
  | true, false => some low
  | false, true => some high
  | false, false => none

/-- Tries `count` ever finer grids, the first of them `10 ^ exponent`. -/
def firstOn (window : Window) (x : Rat) (exponent : Int) : Nat → Option Scaled
  | 0 => none
  | count + 1 =>
      match nearestOn window x exponent with
      | some hit => some hit
      | none => firstOn window x (exponent - 1) count

/-- The shortest decimal that reads back as the magnitude of a format, and of those the nearest.
Seventeen digits always suffice for the formats in use. -/
def shortest (format : Binary.Format) (magnitude : Nat) : Scaled :=
  if magnitude = 0 then ⟨0, 0⟩
  else
    let x := format.value magnitude
    (firstOn (Window.around format magnitude) x (leadingExponent x - 1) 17).getD ⟨0, 0⟩

end VehicleLink.Decimal
