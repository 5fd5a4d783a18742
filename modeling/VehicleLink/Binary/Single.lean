import VehicleLink.Binary.Format

/-!
Single precision floats as their 32-bit words. Every operation computes the exact result of its
operands and rounds it once.
-/

namespace VehicleLink

open Binary

/-- A single precision float, known by its word. -/
structure Single where
  bits : UInt32
  deriving DecidableEq, Repr

namespace Single

def datum (x : Single) : Datum := Format.single.datum x.bits.toNat

/-- The float nearest to a datum. -/
def ofDatum (exact : Datum) : Single := ⟨UInt32.ofNat (Format.single.round exact)⟩

/-- The float nearest to a number that is not negative. -/
def ofRat (x : Rat) : Single := ofDatum (.finite false x)

/-- The value of a finite float, zero for the others. -/
def value (x : Single) : Rat := x.datum.value

def isNaN (x : Single) : Bool := x.datum == .nan

/-- Clears the sign bit, also that of an undefined value. -/
def abs (x : Single) : Single := ⟨x.bits &&& 0x7fffffff⟩

/-- Flips the sign bit, also that of an undefined value. -/
def neg (x : Single) : Single := ⟨x.bits ^^^ 0x80000000⟩

def add (x y : Single) : Single := ofDatum (x.datum.add y.datum)

def sub (x y : Single) : Single := add x y.neg

def mul (x y : Single) : Single := ofDatum (x.datum.mul y.datum)

def div (x y : Single) : Single := ofDatum (x.datum.div y.datum)

instance : Neg Single := ⟨neg⟩
instance : Add Single := ⟨add⟩
instance : Sub Single := ⟨sub⟩
instance : Mul Single := ⟨mul⟩
instance : Div Single := ⟨div⟩

def lt (x y : Single) : Bool := x.datum.lt y.datum

def zero : Single := ⟨0⟩

def one : Single := ⟨0x3f800000⟩

/-- The larger of two floats; one that is undefined gives way to the other. -/
def max (x y : Single) : Single :=
  if x.isNaN then y else if x.lt y then y else x

/-- A zero is its own root; below zero there is none. -/
def sqrt (x : Single) : Single :=
  match x.datum with
  | .nan | .infinity true => ofDatum .nan
  | .infinity false => x
  | .finite negative magnitude =>
      if magnitude = 0 then x
      else if negative then ofDatum .nan
      else ⟨UInt32.ofNat (Format.single.nearestRoot magnitude)⟩

/-- The integer part as an unsigned word, saturating; an undefined value gives zero. -/
def toUInt32 (x : Single) : UInt32 := UInt32.ofNat (x.datum.truncate 0xffffffff)

end Single

end VehicleLink
