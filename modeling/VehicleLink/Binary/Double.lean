import VehicleLink.Binary.Single

/-! Double precision floats as their 64-bit words. -/

namespace VehicleLink

open Binary

/-- A double precision float, known by its word. -/
structure Double where
  bits : UInt64
  deriving DecidableEq, Repr

namespace Double

def datum (x : Double) : Datum := Format.double.datum x.bits.toNat

/-- The float nearest to a datum. -/
def ofDatum (exact : Datum) : Double := ⟨UInt64.ofNat (Format.double.round exact)⟩

/-- The float nearest to a natural number. -/
def ofNat (n : Nat) : Double := ofDatum (.finite false n)

end Double

/-- The same number in double precision, which holds every single exactly. -/
def Single.widen (x : Single) : Double := Double.ofDatum x.datum

end VehicleLink
