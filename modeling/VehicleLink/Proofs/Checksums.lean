import Mathlib.Algebra.BigOperators.Group.List.Basic
import Mathlib.Data.Int.ModEq
import VehicleLink.Proofs.Reencoding

/-!
What the checksum byte tells. A packet and the frame it was read from agree on the checksum as far
as the reserved bits of the frame were set, and of two frames of one length with a valid checksum
the bytes before the last change by what the last byte changes by, modulo 256.
-/

namespace VehicleLink

variable {before after bytes : List UInt8} {place : Nat} {byte : UInt8}

/-! ### Sums of bytes -/

/-- The sum of bytes as numbers. -/
def byteTotal (bytes : List UInt8) : Nat := (bytes.map UInt8.toNat).sum

/-- What bytes change by, all in all, when others take their places. -/
def byteChange (before after : List UInt8) : Int :=
  (List.zipWith (fun old new => (new.toNat : Int) - old.toNat) before after).sum

theorem byteSum_toNat (bytes : List UInt8) : (byteSum bytes).toNat = byteTotal bytes % 256 := by
  induction bytes with
  | nil => rfl
  | cons byte rest ih =>
      rw [byteSum, UInt8.toNat_add, ih, Nat.add_mod_mod]
      rfl

theorem byteTotal_perm (same : before.Perm after) : byteTotal before = byteTotal after :=
  (same.map UInt8.toNat).sum_eq

theorem byteChange_eq (same : after.length = before.length) :
    byteChange before after = (byteTotal after : Int) - byteTotal before := by
  induction before generalizing after with
  | nil =>
      rw [List.length_nil, List.length_eq_zero_iff] at same
      rw [same]
      rfl
  | cons old rest ih =>
      cases after with
      | nil => cases same
      | cons new others =>
          have rest := ih (Nat.succ.inj same)
          simp only [byteChange, byteTotal, List.zipWith_cons_cons, List.map_cons,
            List.sum_cons] at rest ⊢
          omega

theorem byteChange_self (bytes : List UInt8) : byteChange bytes bytes = 0 := by
  rw [byteChange_eq rfl, Int.sub_self]

theorem byteChange_set (inside : place < bytes.length) (byte : UInt8) :
    byteChange bytes (bytes.set place byte) = (byte.toNat : Int) - bytes[place].toNat := by
  induction bytes generalizing place with
  | nil => cases inside
  | cons old rest ih =>
      cases place with
      | zero =>
          rw [List.set_cons_zero, byteChange, List.zipWith_cons_cons, List.sum_cons]
          exact (congrArg _ (byteChange_self rest)).trans (Int.add_zero _)
      | succ place =>
          have changed := ih (Nat.lt_of_succ_lt_succ inside)
          rw [List.set_cons_succ, byteChange, List.zipWith_cons_cons, List.sum_cons, Int.sub_self,
            Int.zero_add]
          exact changed

/-- A byte is the only one that is what it is modulo 256. -/
theorem toNat_modEq_iff {left right : UInt8} :
    (left.toNat : Int) ≡ right.toNat [ZMOD 256] ↔ left = right := by
  have low := left.toNat_lt
  have high := right.toNat_lt
  rw [← UInt8.toNat_inj, Int.ModEq]
  omega

theorem byteSum_eq_iff :
    byteSum bytes = byte ↔ (byteTotal bytes : Int) ≡ byte.toNat [ZMOD 256] := by
  have sum := byteSum_toNat bytes
  have bound := byte.toNat_lt
  rw [← UInt8.toNat_inj, sum, Int.ModEq]
  omega

namespace Packet

variable {packet : Packet} {frame body other : List UInt8} {last : UInt8}

/-! ### Of a packet and of its frame -/

theorem frame_ends (packet : Packet) :
    packet.frame.head? = some packet.header ∧ packet.frame.getLast? = some packet.checksum :=
  ⟨rfl, List.getLast?_concat⟩

/-- Setting the reserved bits of a byte adds those that were clear. -/
theorem or_reservedBits_toNat (byte : UInt8) :
    (byte ||| reservedBits).toNat = byte.toNat + 12 - (byte &&& 0x0c).toNat := by
  have every : ∀ n : Fin 256, n.val ||| 12 = n.val + 12 - (n.val &&& 12) := by
    decide +kernel
  rw [UInt8.toNat_or, UInt8.toNat_and]
  exact every ⟨byte.toNat, byte.toNat_lt⟩

theorem and_reservedBits_toNat_le (byte : UInt8) : (byte &&& 0x0c).toNat ≤ 12 := by
  rw [UInt8.toNat_and]
  exact Nat.and_le_right

/-- A packet has the checksum of the frame it was read from, with the reserved bits set. -/
theorem checksum_of_decode {header last : UInt8} {middle : List UInt8}
    (decoded : decode (header :: (middle ++ [last])) = .ok packet) :
    packet.checksum.toNat =
      (byteTotal (header :: middle) + 12 - (header &&& 0x0c).toNat) % 256 := by
  obtain ⟨isPort, isChannel, isPayload⟩ := decode_parts decoded
  have rebuilt : packet.header = header ||| reservedBits := by
    rw [Packet.header, isPort, isChannel, header_rebuilt]
  have clear := and_reservedBits_toNat_le header
  have sum : byteTotal (header :: middle) = header.toNat + byteTotal middle := rfl
  rw [checksum, rebuilt, isPayload, UInt8.toNat_add, byteSum_toNat, Nat.add_mod_mod,
    or_reservedBits_toNat, sum]
  congr 1
  omega

theorem checksum_eq_byteSum_iff {header last : UInt8} {middle : List UInt8}
    (decoded : decode (header :: (middle ++ [last])) = .ok packet) :
    packet.checksum = byteSum (header :: middle) ↔ header &&& 0x0c = 0x0c := by
  have clear := and_reservedBits_toNat_le header
  have mask : (0x0c : UInt8).toNat = 12 := rfl
  rw [← UInt8.toNat_inj, ← UInt8.toNat_inj, checksum_of_decode decoded, byteSum_toNat, mask]
  omega

/-! ### Of two frames -/

theorem frame_concat (holds : checksumHolds frame = true) :
    ∃ body last, frame = body ++ [last] ∧ body ≠ [] ∧ byteSum body = last := by
  rcases List.eq_nil_or_concat frame with rfl | ⟨body, last, rfl⟩
  · cases holds
  · rw [List.concat_eq_append] at holds ⊢
    exact ⟨body, last, rfl, (checksumHolds_concat body last).mp holds⟩

/-- Between frames with a valid checksum, the last byte takes part in what the others change by. -/
theorem checksumHolds_iff_byteChange {otherLast : UInt8}
    (holds : checksumHolds (body ++ [last]) = true) (same : other.length = body.length) :
    checksumHolds (other ++ [otherLast]) = true ↔
      byteChange body other ≡ (otherLast.toNat : Int) - last.toNat [ZMOD 256] := by
  obtain ⟨nonempty, sum⟩ := (checksumHolds_concat body last).mp holds
  have otherNonempty : other ≠ [] := by
    rw [← List.length_pos_iff, same]
    exact List.length_pos_iff.mpr nonempty
  rw [byteSum_eq_iff, Int.ModEq] at sum
  rw [checksumHolds_concat, byteChange_eq same, byteSum_eq_iff, Int.ModEq, Int.ModEq]
  refine (and_iff_right otherNonempty).trans ?_
  omega

/-- A byte that is replaced by another one is noticed wherever it stands. -/
theorem checksumHolds_set (holds : checksumHolds frame = true) (inside : place < frame.length)
    (replaced : byte ≠ frame[place]) : checksumHolds (frame.set place byte) = false := by
  obtain ⟨body, last, rfl, _⟩ := frame_concat holds
  rw [Bool.eq_false_iff]
  intro still
  rw [List.length_append, List.length_singleton] at inside
  rcases Nat.lt_or_ge place body.length with within | beyond
  · rw [List.getElem_append_left within] at replaced
    rw [List.set_append_left _ _ within, checksumHolds_iff_byteChange holds List.length_set,
      byteChange_set within, sub_self] at still
    have same := still.add_right (body[place].toNat : Int)
    rw [sub_add_cancel, zero_add] at same
    exact replaced (toNat_modEq_iff.mp same)
  · obtain rfl : place = body.length := by omega
    rw [List.getElem_concat_length rfl] at replaced
    rw [List.set_append_right _ _ beyond, Nat.sub_self, List.set_cons_zero,
      checksumHolds_iff_byteChange holds rfl, byteChange_self] at still
    have same := still.add_right (last.toNat : Int)
    rw [sub_add_cancel, zero_add] at same
    exact replaced (toNat_modEq_iff.mp same.symm)

/-- The order of the bytes before the last one does not matter. -/
theorem checksumHolds_perm (holds : checksumHolds (body ++ [last]) = true)
    (permuted : other.Perm body) : checksumHolds (other ++ [last]) = true := by
  have same := permuted.length_eq
  rw [checksumHolds_iff_byteChange holds same, byteChange_eq same, byteTotal_perm permuted, sub_self,
    sub_self]

end Packet

/-- The header is the first byte of a frame that is sent and the checksum the last one. A packet
that is read from a frame has as its checksum the sum of the bytes before the last and of the
reserved bits that were clear. Against a frame with a valid checksum, another one of its length has
a valid checksum exactly if the bytes before the last change by what the last one changes by; a
single byte that is replaced is always noticed, and another order of the bytes before the last never
is. -/
theorem checksum_exact (frame : List UInt8) :
    (∀ packet : Packet, packet.encode = .ok frame →
      frame.head? = some packet.header ∧ frame.getLast? = some packet.checksum) ∧
    (2 ≤ frame.length → ∃ packet first, Packet.decode frame = .ok packet ∧
      frame.head? = some first ∧
      packet.checksum.toNat = (byteTotal frame.dropLast + 12 - (first &&& 0x0c).toNat) % 256 ∧
      (packet.checksum = byteSum frame.dropLast ↔ first &&& 0x0c = 0x0c)) ∧
    (Packet.checksumHolds frame = true →
      (∀ other : List UInt8, other.length = frame.length →
        (Packet.checksumHolds other = true ↔ byteChange frame.dropLast other.dropLast ≡
          ((other.getLastD 0).toNat : Int) - (frame.getLastD 0).toNat [ZMOD 256])) ∧
      (∀ place byte, (inside : place < frame.length) → byte ≠ frame[place] →
        Packet.checksumHolds (frame.set place byte) = false) ∧
      ∀ other : List UInt8, other.Perm frame.dropLast →
        Packet.checksumHolds (other ++ [frame.getLastD 0]) = true) := by
  refine ⟨?_, ?_, fun holds => ⟨?_, fun _ _ => Packet.checksumHolds_set holds, ?_⟩⟩
  · intro packet encoded
    obtain ⟨_, rfl⟩ := Packet.encode_eq_ok_iff.mp encoded
    exact packet.frame_ends
  · intro long
    obtain ⟨packet, decoded⟩ := Packet.decode_exists long
    obtain ⟨header, middle, last, rfl⟩ := Packet.frame_parts long
    have front : ((header :: middle) ++ [last]).dropLast = header :: middle :=
      List.dropLast_concat
    rw [List.cons_append] at front
    rw [front]
    exact ⟨packet, header, decoded, rfl, Packet.checksum_of_decode decoded,
      Packet.checksum_eq_byteSum_iff decoded⟩
  · intro other same
    obtain ⟨body, last, rfl, _⟩ := Packet.frame_concat holds
    rcases List.eq_nil_or_concat other with rfl | ⟨otherBody, otherLast, rfl⟩
    · simp at same
    · rw [List.concat_eq_append] at same ⊢
      rw [List.dropLast_concat, List.dropLast_concat, List.getLastD_concat, List.getLastD_concat]
      exact Packet.checksumHolds_iff_byteChange holds (by simpa using same)
  · intro other permuted
    obtain ⟨body, last, rfl, _⟩ := Packet.frame_concat holds
    rw [List.dropLast_concat] at permuted
    rw [List.getLastD_concat]
    exact Packet.checksumHolds_perm holds permuted

/-- A frame whose reserved bits are clear: its own checksum is valid and is not that of its packet.
Two bytes that change by opposite amounts are not noticed, one of them is. -/
theorem checksum_exact_clearBits :
    ∃ packet, Packet.decode [0x53, 1, 2, 0x56] = .ok packet ∧ packet.checksum = 0x62 ∧
      packet.checksum ≠ byteSum [0x53, 1, 2] ∧
      Packet.checksumHolds [0x53, 0xff, 4, 0x56] = true ∧
      Packet.checksumHolds [0x53, 1, 4, 0x56] = false ∧
      Packet.checksumHolds [2, 0x53, 1, 0x56] = true := by
  obtain ⟨_, read, valid⟩ := checksum_exact [0x53, 1, 2, 0x56]
  obtain ⟨packet, first, decoded, isFirst, sum, agrees⟩ := read (by decide)
  obtain ⟨changed, replaced, permuted⟩ := valid (by decide)
  cases isFirst
  refine ⟨packet, decoded, UInt8.toNat_inj.mp sum, fun same => absurd (agrees.mp same) (by decide),
    (changed _ rfl).mpr (by decide), replaced 2 4 (by decide) (by decide),
    permuted [2, 0x53, 1] (by decide)⟩

end VehicleLink
