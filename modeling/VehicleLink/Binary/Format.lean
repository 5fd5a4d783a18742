import VehicleLink.Rounding

/-!
Binary interchange formats. A word of a format is a sign bit above a *magnitude*: the magnitudes
are counted upwards from zero through the subnormal and normal values to infinity, so neighbouring
magnitudes are neighbouring values. `Format.datum` says what a word means and `Format.nearest` is
the one rounding rule, to the nearest magnitude with ties to the even one.
-/

namespace VehicleLink.Binary

/-- The widths of the two fields below the sign bit. -/
structure Format where
  exponentBits : Nat
  fractionBits : Nat
  deriving DecidableEq, Repr

/-- What a word means. Zero keeps its sign. -/
inductive Datum where
  | nan
  | infinity (negative : Bool)
  | finite (negative : Bool) (magnitude : Rat)
  deriving DecidableEq, Repr

def Format.single : Format := ⟨8, 23⟩

def Format.double : Format := ⟨11, 52⟩

namespace Format

variable (format : Format)

/-- The number of fractions that share one exponent. -/
def fractions : Nat := 1 <<< format.fractionBits

/-- The first magnitude that is not finite. -/
def infinityMagnitude : Nat := ((1 <<< format.exponentBits) - 1) * format.fractions

/-- The word whose sign bit alone is set. -/
def signBit : Nat := 1 <<< (format.exponentBits + format.fractionBits)

/-- The exponent of the smallest positive value. -/
def leastExponent : Int :=
  2 - (1 <<< (format.exponentBits - 1) : Nat) - (format.fractionBits : Int)

/-- The value of a magnitude, the exponent range taken as unbounded above. -/
def value (magnitude : Nat) : Rat :=
  let exponent := magnitude / format.fractions
  let fraction := magnitude % format.fractions
  if exponent = 0 then (fraction : Rat) * (2 : Rat) ^ format.leastExponent
  else ((format.fractions + fraction : Nat) : Rat) *
    (2 : Rat) ^ (format.leastExponent + exponent - 1)

def datum (word : Nat) : Datum :=
  let negative := decide (format.signBit ≤ word)
  let magnitude := word % format.signBit
  if format.infinityMagnitude < magnitude then .nan
  else if magnitude = format.infinityMagnitude then .infinity negative
  else .finite negative (format.value magnitude)

/-- The exponent of the last place kept of a positive `x`. -/
def quantum (x : Rat) : Int :=
  max format.leastExponent (floorLog2 x - format.fractionBits)

/-- The magnitude whose value is nearest to `x`, which is not negative; a tie goes to the even
magnitude and what lies past the largest finite value goes to infinity. -/
def nearest (x : Rat) : Nat :=
  if x = 0 then 0
  else
    let quantum := format.quantum x
    let count := (roundHalfEven (x / (2 : Rat) ^ quantum)).toNat
    min ((quantum - format.leastExponent).toNat * format.fractions + count)
      format.infinityMagnitude

/-- The magnitude whose value is nearest to the square root of `x`, which is not negative. -/
def nearestRoot (x : Rat) : Nat :=
  if x = 0 then 0
  else
    let quantum := max format.leastExponent (floorLog2 x / 2 - format.fractionBits)
    let count := rootHalfEven (x / (2 : Rat) ^ (2 * quantum))
    (quantum - format.leastExponent).toNat * format.fractions + count

/-- The word with a sign and a magnitude. -/
def word (negative : Bool) (magnitude : Nat) : Nat :=
  if negative then format.signBit + magnitude else magnitude

/-- The word nearest to a datum; every undefined value becomes the one quiet NaN. -/
def round : Datum → Nat
  | .nan => format.infinityMagnitude + 1 <<< (format.fractionBits - 1)
  | .infinity negative => format.word negative format.infinityMagnitude
  | .finite negative magnitude => format.word negative (format.nearest magnitude)

end Format

namespace Datum

/-- The signed value of a finite datum, zero for the others. -/
def value : Datum → Rat
  | .finite true magnitude => -magnitude
  | .finite false magnitude => magnitude
  | _ => 0

/-- A finite datum of a rational that is not zero. -/
def ofRat (x : Rat) : Datum := .finite (decide (x < 0)) x.abs

def neg : Datum → Datum
  | .nan => .nan
  | .infinity negative => .infinity (!negative)
  | .finite negative magnitude => .finite (!negative) magnitude

/-- The exact sum. Two zeros of one sign keep it; every other zero sum is positive. -/
def add : Datum → Datum → Datum
  | .nan, _ | _, .nan => .nan
  | .infinity left, .infinity right => if left = right then .infinity left else .nan
  | .infinity left, .finite .. => .infinity left
  | .finite .., .infinity right => .infinity right
  | .finite left x, .finite right y =>
      let sum := (finite left x).value + (finite right y).value
      if sum = 0 then .finite (left && right) 0 else ofRat sum

/-- The exact product. -/
def mul : Datum → Datum → Datum
  | .nan, _ | _, .nan => .nan
  | .infinity left, .infinity right => .infinity (left ^^ right)
  | .infinity left, .finite right y => if y = 0 then .nan else .infinity (left ^^ right)
  | .finite left x, .infinity right => if x = 0 then .nan else .infinity (left ^^ right)
  | .finite left x, .finite right y => .finite (left ^^ right) (x * y)

/-- The exact quotient. -/
def div : Datum → Datum → Datum
  | .nan, _ | _, .nan => .nan
  | .infinity _, .infinity _ => .nan
  | .infinity left, .finite right _ => .infinity (left ^^ right)
  | .finite left _, .infinity right => .finite (left ^^ right) 0
  | .finite left x, .finite right y =>
      if y = 0 then if x = 0 then .nan else .infinity (left ^^ right)
      else .finite (left ^^ right) (x / y)

/-- The order of the extended numbers; nothing is below or above an undefined value. -/
def lt : Datum → Datum → Bool
  | .nan, _ | _, .nan => false
  | .infinity left, .infinity right => left && !right
  | .infinity left, .finite .. => left
  | .finite .., .infinity right => !right
  | .finite left x, .finite right y => decide ((finite left x).value < (finite right y).value)

/-- The integer part within `0 ≤ n ≤ limit`: what lies outside goes to the nearer end and an
undefined value to zero. -/
def truncate (limit : Nat) : Datum → Nat
  | .nan => 0
  | .infinity negative => if negative then 0 else limit
  | .finite negative magnitude => if negative then 0 else min magnitude.floor.toNat limit

end Datum

end VehicleLink.Binary
