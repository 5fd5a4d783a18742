import Mathlib.Data.List.Basic
import Mathlib.Tactic.Positivity
import VehicleLink.Setpoint

/-!
Words as bytes and the fields of a payload. A number, a number with a sign or a float that was written
in some place is read back from there, whatever stands before and behind it.
-/

namespace VehicleLink

variable {α : Type} {front field : List UInt8} {width place : Nat}

/-! ### Words -/

theorem littleEndian_ofLittleEndian (bytes : List UInt8) :
    littleEndian bytes.length (ofLittleEndian bytes) = bytes := by
  induction bytes with
  | nil => rfl
  | cons byte rest ih =>
      have small := byte.toNat_lt
      have low : UInt8.ofNat (byte.toNat + 256 * ofLittleEndian rest) = byte := by
        rw [← UInt8.toNat_inj, UInt8.toNat_ofNat']
        omega
      have high : (byte.toNat + 256 * ofLittleEndian rest) / 256 = ofLittleEndian rest := by omega
      simp only [List.length_cons, ofLittleEndian, littleEndian, low, high, ih]

theorem ofLittleEndian_lt (bytes : List UInt8) : ofLittleEndian bytes < 256 ^ bytes.length := by
  induction bytes with
  | nil => exact Nat.one_pos
  | cons byte rest ih =>
      have small := byte.toNat_lt
      simp only [ofLittleEndian, List.length_cons, Nat.pow_succ]
      omega

theorem ofLittleEndian_of_lt {n : Nat} (small : n < 256 ^ width) :
    ofLittleEndian (littleEndian width n) = n := by
  rw [ofLittleEndian_littleEndian, Nat.one_shiftLeft, Nat.pow_mul]
  exact Nat.mod_eq_of_lt small

theorem littleEndianSigned_length (width : Nat) (n : Int) :
    (littleEndianSigned width n).length = width :=
  littleEndian_length width _

/-- A number with a sign is read back if its two's complement has room for it. -/
theorem bmod_littleEndianSigned {n : Int} (low : -(256 ^ width : Nat) ≤ n * 2)
    (high : n * 2 < (256 ^ width : Nat)) :
    (ofLittleEndian (littleEndianSigned width n) : Int).bmod (256 ^ width) = n := by
  have room : 1 <<< (8 * width) = 256 ^ width := by
    rw [Nat.one_shiftLeft, Nat.pow_mul]
  have positive : (0 : Int) < (256 ^ width : Nat) := by positivity
  have wrapped := Int.emod_nonneg n positive.ne'
  have small : (n % (256 ^ width : Nat)).toNat < 256 ^ width := by
    have := Int.emod_lt_of_pos n positive
    omega
  rw [littleEndianSigned, room, ofLittleEndian_of_lt small, Int.toNat_of_nonneg wrapped,
    Int.emod_bmod]
  exact Int.bmod_eq_of_le_mul_two low high

namespace Single

theorem bytes_length (x : Single) : x.bytes.length = 4 := littleEndian_length 4 _

theorem ofBytes_bytes (float : Single) : ofBytes float.bytes = float := by
  have whole : float.bits.toNat % (1 <<< (8 * 4)) = float.bits.toNat :=
    Nat.mod_eq_of_lt float.bits.toNat_lt
  rw [ofBytes, bytes, ofLittleEndian_littleEndian, whole, UInt32.ofNat_toNat]

theorem bytes_ofBytes {word : List UInt8} (four : word.length = 4) :
    (ofBytes word).bytes = word := by
  have bound := ofLittleEndian_lt word
  rw [four] at bound
  rw [bytes, ofBytes, UInt32.toNat_ofNat_of_lt' bound, ← four, littleEndian_ofLittleEndian]

end Single

/-! ### Fields -/

def bytesAt (bytes : List UInt8) (offset width : Nat) : List UInt8 := (bytes.drop offset).take width

def numberAt (bytes : List UInt8) (offset width : Nat) : Nat :=
  ofLittleEndian (bytesAt bytes offset width)

/-- The number of a field in two's complement. -/
def signedAt (bytes : List UInt8) (offset width : Nat) : Int :=
  (numberAt bytes offset width : Int).bmod (256 ^ width)

def floatAt (bytes : List UInt8) (offset : Nat) : Single := .ofBytes (bytesAt bytes offset 4)

theorem bytesAt_front (wide : field.length = width) (back : List UInt8) :
    bytesAt (field ++ back) 0 width = field := by
  rw [bytesAt, List.drop_zero, List.take_left' wide]

theorem bytesAt_append (long : front.length = place) (back : List UInt8) (offset width : Nat) :
    bytesAt (front ++ back) (place + offset) width = bytesAt back offset width := by
  rw [bytesAt, ← List.drop_drop, List.drop_left' long, bytesAt]

theorem bytesAt_within {offset : Nat} (inside : offset + width ≤ front.length) (back : List UInt8) :
    bytesAt (front ++ back) offset width = bytesAt front offset width := by
  have reached : width ≤ (front.drop offset).length := by
    rw [List.length_drop]
    omega
  rw [bytesAt, List.drop_append_of_le_length (by omega), List.take_append_of_le_length reached,
    bytesAt]

theorem length_flatMap_of_width {write : α → List UInt8}
    (wide : ∀ item, (write item).length = width) (items : List α) :
    (items.flatMap write).length = width * items.length := by
  rw [List.length_flatMap, List.map_congr_left fun item _ => wide item]
  simp [Nat.mul_comm]

theorem drop_flatMap_of_width {write : α → List UInt8}
    (wide : ∀ item, (write item).length = width) (items : List α) (place : Nat) :
    (items.flatMap write).drop (width * place) = (items.drop place).flatMap write := by
  induction items generalizing place with
  | nil => simp
  | cons first rest ih =>
      cases place with
      | zero => rfl
      | succ place =>
          rw [List.flatMap_cons, Nat.mul_succ, Nat.add_comm, ← List.drop_drop,
            List.drop_left' (wide first), ih, List.drop_succ_cons]

/-- Of items that are all written in the same number of bytes each one stands in its place. -/
theorem bytesAt_flatMap {write : α → List UInt8} (wide : ∀ item, (write item).length = width)
    {items : List α} {item : α} (found : items[place]? = some item) (back : List UInt8) :
    bytesAt (items.flatMap write ++ back) (width * place) width = write item := by
  obtain ⟨inside, same⟩ := List.getElem?_eq_some_iff.mp found
  have reached : width * place ≤ (items.flatMap write).length := by
    rw [length_flatMap_of_width wide]
    exact Nat.mul_le_mul_left width (Nat.le_of_lt inside)
  rw [bytesAt, List.drop_append_of_le_length reached, drop_flatMap_of_width wide,
    List.drop_eq_getElem_cons inside, same, List.flatMap_cons, List.append_assoc,
    List.take_left' (wide item)]

theorem floats_length (values : List Single) :
    (Setpoint.floats values).length = 4 * values.length :=
  length_flatMap_of_width Single.bytes_length values

/-- Floats stand one after the other from an offset on. -/
def FloatsAt (bytes : List UInt8) (offset : Nat) (values : List Single) : Prop :=
  ∀ (place : Nat) (value : Single), values[place]? = some value →
    floatAt bytes (offset + 4 * place) = value

/-- Floats that are written one after the other are read back from their places. -/
theorem floatsAt_floats (front : List UInt8) (values : List Single) (back : List UInt8) :
    FloatsAt (front ++ (Setpoint.floats values ++ back)) front.length values := by
  intro place value found
  rw [floatAt, bytesAt_append rfl, Setpoint.floats, bytesAt_flatMap Single.bytes_length found,
    Single.ofBytes_bytes]

/-- So many floats are read from an offset in one way only. -/
theorem FloatsAt.unique {bytes : List UInt8} {offset : Nat} {values others : List Single}
    (floats : FloatsAt bytes offset values) (otherFloats : FloatsAt bytes offset others)
    (length : values.length = others.length) : values = others := by
  refine List.ext_getElem length ?_
  intro place inside insideOther
  rw [← floats place _ (List.getElem?_eq_getElem inside),
    ← otherFloats place _ (List.getElem?_eq_getElem insideOther)]

theorem floats_injective {values others : List Single}
    (same : Setpoint.floats values = Setpoint.floats others) : values = others := by
  have length := floats_length values
  rw [same, floats_length] at length
  have placed := floatsAt_floats [] values []
  rw [same] at placed
  exact placed.unique (floatsAt_floats [] others []) (by omega)

end VehicleLink
