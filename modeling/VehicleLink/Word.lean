import VehicleLink.Binary.Single

/-! Words as bytes, the least significant byte first. -/

namespace VehicleLink

/-- The low `width` bytes of `n`. -/
def littleEndian : (width n : Nat) → List UInt8
  | 0, _ => []
  | width + 1, n => UInt8.ofNat n :: littleEndian width (n / 256)

def ofLittleEndian : List UInt8 → Nat
  | [] => 0
  | byte :: rest => byte.toNat + 256 * ofLittleEndian rest

theorem littleEndian_length (width n : Nat) : (littleEndian width n).length = width := by
  induction width generalizing n with
  | zero => rfl
  | succ width ih => simp [littleEndian, ih]

/-- Reading the low bytes of a number gives what they hold of it. -/
theorem ofLittleEndian_littleEndian (width n : Nat) :
    ofLittleEndian (littleEndian width n) = n % (1 <<< (8 * width)) := by
  induction width generalizing n with
  | zero => simp [littleEndian, ofLittleEndian, Nat.mod_one]
  | succ width ih =>
    have byte : (UInt8.ofNat n).toNat = n % 256 := UInt8.toNat_ofNat'
    simp only [littleEndian, ofLittleEndian, ih, byte, Nat.one_shiftLeft]
    rw [Nat.mul_succ, Nat.add_comm (8 * width) 8, Nat.pow_add, Nat.mod_mul]

/-- The two's complement of `n` in `width` bytes. -/
def littleEndianSigned (width : Nat) (n : Int) : List UInt8 :=
  littleEndian width (n % (1 <<< (8 * width) : Nat)).toNat

def Single.bytes (x : Single) : List UInt8 := littleEndian 4 x.bits.toNat

def Single.ofBytes (bytes : List UInt8) : Single := ⟨UInt32.ofNat (ofLittleEndian bytes)⟩

end VehicleLink
