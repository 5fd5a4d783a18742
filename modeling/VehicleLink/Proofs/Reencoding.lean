import VehicleLink.Proofs.Frames

/-!
What becomes of a received frame when its packet is encoded again: the reserved bits are set and
the checksum byte agrees with the rest. A frame that has both already comes back as it was.
-/

namespace VehicleLink

/-- A frame with both reserved bits set and the sum of the other bytes in its last byte. -/
def settled (frame : List UInt8) : List UInt8 :=
  let marked := frame.modifyHead (· ||| reservedBits)
  marked.dropLast ++ [byteSum marked.dropLast]

def reencode (frame : List UInt8) : Except PacketError (List UInt8) :=
  (Packet.decode frame).bind Packet.encode

namespace Packet

variable {packet : Packet} {frame : List UInt8}

theorem frame_parts (long : 2 ≤ frame.length) :
    ∃ header middle last, frame = header :: (middle ++ [last]) := by
  match frame with
  | [] | [_] => simp at long
  | header :: byte :: rest =>
      have nonempty : byte :: rest ≠ [] := List.cons_ne_nil byte rest
      exact ⟨header, _, _, congrArg (header :: ·) (List.dropLast_concat_getLast nonempty).symm⟩

theorem settled_parts (header last : UInt8) (middle : List UInt8) :
    settled (header :: (middle ++ [last])) =
      (header ||| reservedBits) :: (middle ++ [byteSum ((header ||| reservedBits) :: middle)]) := by
  have front : ((header ||| reservedBits) :: (middle ++ [last])).dropLast =
      (header ||| reservedBits) :: middle := by
    rw [← List.cons_append, List.dropLast_concat]
  simp only [settled, List.modifyHead_cons, front, List.cons_append]

theorem decode_parts {header last : UInt8} {middle : List UInt8}
    (decoded : decode (header :: (middle ++ [last])) = .ok packet) :
    packet.port = header >>> 4 ∧ packet.channel = header &&& maxChannel ∧
      packet.payload = middle := by
  rw [decode_cons (by simp)] at decoded
  obtain rfl := Except.ok.inj decoded
  exact ⟨rfl, rfl, List.dropLast_concat⟩

theorem payload_length_of_decode (decoded : decode frame = .ok packet) :
    packet.payload.length = frame.length - 2 := by
  have long : 2 ≤ frame.length := by
    by_contra short
    rw [decode_eq_error_iff.mpr ⟨Nat.lt_of_not_le short, rfl⟩] at decoded
    cases decoded
  obtain ⟨header, middle, last, rfl⟩ := frame_parts long
  simp [(decode_parts decoded).2.2]

theorem frame_of_decode (long : 2 ≤ frame.length) (decoded : decode frame = .ok packet) :
    packet.frame = settled frame := by
  obtain ⟨header, middle, last, rfl⟩ := frame_parts long
  obtain ⟨isPort, isChannel, isPayload⟩ := decode_parts decoded
  have rebuilt : packet.header = header ||| reservedBits := by
    unfold Packet.header
    rw [isPort, isChannel, header_rebuilt]
  simp only [Packet.frame, rebuilt, isPayload, settled_parts, List.cons_append]

theorem settled_eq_self_iff (long : 2 ≤ frame.length) :
    settled frame = frame ↔
      (∃ header ∈ frame.head?, header &&& 0x0c = 0x0c) ∧ checksumHolds frame = true := by
  obtain ⟨header, middle, last, rfl⟩ := frame_parts long
  have holds := checksumHolds_concat (header :: middle) last
  simp only [List.cons_append] at holds
  have marked := or_eq_self_iff header reservedBits
  simp only [settled_parts, List.cons.injEq, List.append_cancel_left_eq, and_true, marked, holds,
    List.head?_cons, Option.mem_some, exists_eq_left']
  refine and_congr_right fun reserved => ?_
  rw [marked.mpr reserved]
  simp

end Packet

/-- Frames of fewer than two bytes are refused. Of a frame that can be sent, reading and encoding
makes the settled frame, which stands for the same packet and settles no further; it is the frame
itself exactly if the reserved bits are set and the checksum is valid. Of a longer frame reading
makes a packet too large to encode. -/
theorem reencode_received (frame : List UInt8) :
    (∀ error, Packet.decode frame = .error error ↔
      frame.length < 2 ∧ error = .frameTooShort frame.length) ∧
    (2 ≤ frame.length → frame.length ≤ 32 →
      ∃ packet, Packet.decode frame = .ok packet ∧ packet.encode = .ok (settled frame) ∧
        Packet.decode (settled frame) = .ok packet ∧
        reencode frame = .ok (settled frame) ∧
        reencode (settled frame) = .ok (settled frame) ∧
        (settled frame = frame ↔
          (∃ header ∈ frame.head?, header &&& 0x0c = 0x0c) ∧
            Packet.checksumHolds frame = true)) ∧
    (32 < frame.length →
      ∃ packet, Packet.decode frame = .ok packet ∧ packet.payload.length = frame.length - 2 ∧
        packet.encode = .error (.payloadTooLarge (frame.length - 2) 30)) := by
  refine ⟨fun _ => Packet.decode_eq_error_iff, ?_, ?_⟩
  · intro long short
    obtain ⟨packet, decoded⟩ := Packet.decode_exists long
    have framed := Packet.frame_of_decode long decoded
    have encoded : packet.encode = .ok (settled frame) := by
      have length := Packet.payload_length_of_decode decoded
      exact Packet.encode_eq_ok_iff.mpr ⟨by omega, framed⟩
    have again : Packet.decode (settled frame) = .ok packet := framed ▸ packet.decode_frame
    refine ⟨packet, decoded, encoded, again, ?_, ?_, Packet.settled_eq_self_iff long⟩
    · rw [reencode, decoded]
      exact encoded
    · rw [reencode, again]
      exact encoded
  · intro large
    obtain ⟨packet, decoded⟩ := Packet.decode_exists (show 2 ≤ frame.length by omega)
    have length := Packet.payload_length_of_decode decoded
    refine ⟨packet, decoded, length, ?_⟩
    have refused : ¬ packet.payload.length ≤ maxPayloadLength := by
      change ¬ packet.payload.length ≤ 30
      omega
    rw [Packet.encode, if_neg refused, length]
    rfl

/-- A frame with a clear reserved bit and a wrong checksum. -/
theorem reencode_received_damaged :
    ∃ packet, Packet.decode [0x53, 1, 2, 0] = .ok packet ∧
      packet.encode = .ok [0x5f, 1, 2, 0x62] ∧
      Packet.decode [0x5f, 1, 2, 0x62] = .ok packet ∧
      reencode [0x5f, 1, 2, 0x62] = .ok [0x5f, 1, 2, 0x62] := by
  obtain ⟨packet, decoded, encoded, again, _, fixed, _⟩ :=
    (reencode_received [0x53, 1, 2, 0]).2.1 (by decide) (by decide)
  exact ⟨packet, decoded, encoded, again, fixed⟩

end VehicleLink
