import VehicleLink.Decimal.Shortest
import VehicleLink.Binary.Double

/-! Decimal numbers written in full: digits and at most one point, never an exponent. -/

namespace VehicleLink

namespace Decimal

/-- Digits with a point before the last `places` of them. Zeros at the end of the fraction are
left out, and the point with them. -/
def placePoint (digits : List Char) (places : Nat) : List Char :=
  let padded := List.replicate (places + 1 - digits.length) '0' ++ digits
  let whole := padded.take (padded.length - places)
  let fraction := (padded.drop (padded.length - places)).reverse.dropWhile (· = '0')
  if fraction.isEmpty then whole else whole ++ '.' :: fraction.reverse

def Scaled.text (x : Scaled) : String :=
  let digits := Nat.toDigits 10 x.coefficient
  if x.coefficient = 0 then "0"
  else if 0 ≤ x.exponent then String.ofList (digits ++ List.replicate x.exponent.toNat '0')
  else String.ofList (placePoint digits (-x.exponent).toNat)

end Decimal

/-- The shortest text that reads back, written in full. -/
def Double.text (x : Double) : String :=
  let sign := if Binary.Format.double.signBit ≤ x.bits.toNat then "-" else ""
  match x.datum with
  | .nan => "NaN"
  | .infinity _ => sign ++ "inf"
  | .finite .. =>
      sign ++ (Decimal.shortest .double (x.bits.toNat % Binary.Format.double.signBit)).text

end VehicleLink
