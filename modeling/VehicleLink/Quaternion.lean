import VehicleLink.Binary.Single

/-!
Attitudes in 32 bits. A code names the component of largest magnitude in its top two bits and holds
the other three, the first of them highest, each as a sign bit above a magnitude of nine bits. The
largest component is left out: its size follows from the unit norm, and its sign from the
convention that it is not negative, since a quaternion and its opposite are one rotation.
-/

namespace VehicleLink

/-- The components of a rotation in the order x, y, z, w. -/
structure Quaternion where
  x : Single
  y : Single
  z : Single
  w : Single
  deriving DecidableEq, Repr

namespace Quaternion

def component (q : Quaternion) : Fin 4 → Single
  | 0 => q.x
  | 1 => q.y
  | 2 => q.z
  | 3 => q.w

def ofComponents (component : Fin 4 → Single) : Quaternion :=
  ⟨component 0, component 1, component 2, component 3⟩

/-- The float nearest to the root of one half, the bound of every component that is stored. -/
def rootHalf : Single := ⟨0x3f3504f3⟩

def half : Single := ⟨0x3f000000⟩

/-- The float of the largest stored magnitude. -/
def scale : Single := ⟨0x43ff8000⟩

/-- The largest stored magnitude. -/
def maxMagnitude : Nat := 511

/-- How far a component may be off after a code has been unpacked. -/
def quantizationBound : Single := ⟨0x3b23d70a⟩

/-- The component of largest magnitude, the first of several. -/
def largest (q : Quaternion) : Fin 4 :=
  [1, 2, 3].foldl
    (fun best i => if (q.component best).abs.lt (q.component i).abs then i else best) 0

/-- The three components that are stored beside the one that is not, in order. -/
def stored (largest : Fin 4) : List (Fin 4) := [0, 1, 2, 3].filter (· ≠ largest)

/-- The nearest stored magnitude, a half going up. -/
def magnitude (x : Single) : Nat :=
  min (scale * x.abs / rootHalf + half).toUInt32.toNat maxMagnitude

/-- The ten bits of one stored component. -/
def group (x : Single) (flipped : Bool) : Nat :=
  (if x.lt .zero ^^ flipped then 512 else 0) + magnitude x

def compress (q : Quaternion) : UInt32 :=
  let largest := q.largest
  let flipped := (q.component largest).lt .zero
  UInt32.ofNat <| (stored largest).foldl
    (fun code i => code * 1024 + group (q.component i) flipped) largest.val

/-- The index of the component that a code leaves out. -/
def omitted (code : UInt32) : Fin 4 := Fin.ofNat 4 (code.toNat / 1073741824)

/-- The ten bits of the component stored in a place, the last place being zero. -/
def groupAt (code : UInt32) (place : Nat) : Nat := code.toNat / 1 <<< (10 * place) % 1024

/-- The float of a stored magnitude that has been divided out again. -/
def ofMagnitude (magnitude : Nat) : Single := rootHalf * Single.ofRat magnitude / scale

def ofGroup (group : Nat) : Single :=
  let size := ofMagnitude (group % 512)
  if group / 512 % 2 = 1 then -size else size

/-- The place of a stored component, counted from the last. -/
def place (largest i : Fin 4) : Nat := if i < largest then 2 - i.val else 3 - i.val

/-- What the unit norm leaves for the component that is not stored. -/
def rebuild (components : List Single) : Single :=
  let sum := components.foldl (fun sum x => sum + x * x) .zero
  ((Single.one - sum).max .zero).sqrt

/-- The rotation of a code; the component left out is never negative. -/
def decompress (code : UInt32) : Quaternion :=
  let largest := omitted code
  let value (i : Fin 4) : Single := ofGroup (groupAt code (place largest i))
  let rebuilt := rebuild ((stored largest).reverse.map value)
  ofComponents fun i => if i = largest then rebuilt else value i

end Quaternion

end VehicleLink
