import VehicleLink.Packet
import Mathlib.Tactic.IntervalCases

/-!
Frames and the packets in them. Encoding and reading back gives the packet, so no two packets share
a frame; reading a received frame and encoding its packet settles the bits that reading passes over.
-/

namespace VehicleLink

namespace Packet

variable {packet : Packet} {port channel : UInt8} {payload frame : List UInt8}

/-! ### The header byte -/

/-- Port, reserved bits and channel do not overlap in the header. -/
theorem header_toNat (packet : Packet) :
    packet.header.toNat = 16 * packet.port.toNat + 12 + packet.channel.toNat := by
  have portBound : packet.port.toNat ≤ 15 := UInt8.le_iff_toNat_le.mp packet.port_le
  have channelBound : packet.channel.toNat ≤ 3 := UInt8.le_iff_toNat_le.mp packet.channel_le
  have shifted : (packet.port <<< 4).toNat = packet.port.toNat <<< 4 := by
    simp only [UInt8.toNat_shiftLeft, Nat.shiftLeft_eq]
    change packet.port.toNat * 2 ^ 4 % 2 ^ 8 = _
    omega
  have masked : (packet.channel &&& maxChannel).toNat = packet.channel.toNat := by
    rw [UInt8.toNat_and]
    change packet.channel.toNat &&& (2 ^ 2 - 1) = _
    rw [Nat.and_two_pow_sub_one_eq_mod]
    omega
  have low : 12 + packet.channel.toNat = 12 ||| packet.channel.toNat :=
    Nat.shiftLeft_add_eq_or_of_lt (i := 2) (by omega) 3
  have high := Nat.shiftLeft_add_eq_or_of_lt (i := 4) (b := 12 + packet.channel.toNat)
    (by omega) packet.port.toNat
  unfold header
  rw [UInt8.toNat_or, UInt8.toNat_or, shifted, masked]
  change packet.port.toNat <<< 4 ||| 12 ||| packet.channel.toNat = _
  rw [Nat.or_assoc, ← low, ← high, Nat.shiftLeft_eq]
  omega

theorem header_shiftRight (packet : Packet) : packet.header >>> 4 = packet.port := by
  have channelBound : packet.channel.toNat ≤ 3 := UInt8.le_iff_toNat_le.mp packet.channel_le
  apply UInt8.toNat_inj.mp
  simp only [UInt8.toNat_shiftRight, header_toNat, Nat.shiftRight_eq_div_pow]
  change (16 * packet.port.toNat + 12 + packet.channel.toNat) / 2 ^ 4 = _
  omega

theorem header_and_maxChannel (packet : Packet) : packet.header &&& maxChannel = packet.channel := by
  have channelBound : packet.channel.toNat ≤ 3 := UInt8.le_iff_toNat_le.mp packet.channel_le
  apply UInt8.toNat_inj.mp
  rw [UInt8.toNat_and, header_toNat]
  change (16 * packet.port.toNat + 12 + packet.channel.toNat) &&& (2 ^ 2 - 1) = _
  rw [Nat.and_two_pow_sub_one_eq_mod]
  omega

/-- Taking a header apart and putting it together again sets its reserved bits. -/
theorem header_rebuilt (header : UInt8) :
    header >>> 4 <<< 4 ||| reservedBits ||| header &&& maxChannel &&& maxChannel =
      header ||| reservedBits := by
  apply UInt8.eq_of_toBitVec_eq
  apply BitVec.eq_of_getLsbD_eq
  intro place bound
  simp only [reservedBits, maxChannel, UInt8.toBitVec_or, UInt8.toBitVec_and,
    UInt8.toBitVec_shiftLeft, UInt8.toBitVec_shiftRight, BitVec.getLsbD_or, BitVec.getLsbD_and]
  interval_cases place <;> simp

theorem or_eq_self_iff (byte mask : UInt8) : byte ||| mask = byte ↔ byte &&& mask = mask := by
  simp only [← UInt8.toBitVec_inj, UInt8.toBitVec_or, UInt8.toBitVec_and]
  constructor
  all_goals
    intro equal
    apply BitVec.eq_of_getLsbD_eq
    intro place bound
    have bit := congrArg (·.getLsbD place) equal
    simp only [BitVec.getLsbD_or, BitVec.getLsbD_and] at bit ⊢
    revert bit
    cases byte.toBitVec.getLsbD place <;> cases mask.toBitVec.getLsbD place <;> simp

/-! ### Reading a frame -/

theorem decode_cons {header : UInt8} {rest : List UInt8} (nonempty : rest ≠ []) :
    decode (header :: rest) = .ok {
      port := header >>> 4
      channel := header &&& maxChannel
      payload := rest.dropLast
      port_le := shiftRight_four_le header
      channel_le := and_three_le header } := by
  cases rest with
  | nil => contradiction
  | cons byte rest => rfl

theorem decode_eq_error_iff {error : PacketError} :
    decode frame = .error error ↔ frame.length < 2 ∧ error = .frameTooShort frame.length := by
  match frame with
  | [] | [_] => simp [decode, eq_comm]
  | header :: byte :: rest => simp [decode]

theorem decode_exists (long : 2 ≤ frame.length) : ∃ packet, decode frame = .ok packet := by
  cases decoded : decode frame with
  | ok packet => exact ⟨packet, rfl⟩
  | error error =>
      have short := (decode_eq_error_iff.mp decoded).1
      omega

theorem decode_frame (packet : Packet) : decode packet.frame = .ok packet := by
  have nonempty : packet.payload ++ [byteSum (packet.header :: packet.payload)] ≠ [] := by simp
  change decode (packet.header :: (packet.payload ++ [_])) = _
  rw [decode_cons nonempty]
  simp only [header_shiftRight, header_and_maxChannel, List.dropLast_concat]

theorem frame_injective {left right : Packet} (same : left.frame = right.frame) : left = right := by
  have decoded := left.decode_frame
  rw [same, right.decode_frame] at decoded
  exact (Except.ok.inj decoded).symm

theorem frame_length (packet : Packet) : packet.frame.length = packet.payload.length + 2 := by
  simp [frame]

/-! ### The checksum byte -/

theorem checksumHolds_concat (body : List UInt8) (last : UInt8) :
    checksumHolds (body ++ [last]) = true ↔ body ≠ [] ∧ byteSum body = last := by
  simp only [checksumHolds, List.getLast?_concat, List.dropLast_concat, Bool.and_eq_true,
    Bool.not_eq_true', List.isEmpty_eq_false_iff, ne_eq, beq_iff_eq]

theorem checksumHolds_frame (packet : Packet) : checksumHolds packet.frame = true :=
  (checksumHolds_concat _ _).mpr ⟨List.cons_ne_nil _ _, rfl⟩

/-! ### Encoding -/

theorem make_eq_ok_iff :
    make port channel payload = .ok packet ↔
      payload.length ≤ 30 ∧ packet.port = port ∧ packet.channel = channel ∧
        packet.payload = payload := by
  obtain ⟨packetPort, packetChannel, packetPayload, portBound, channelBound⟩ := packet
  unfold make
  constructor
  · intro made
    split at made
    · split at made
      · split at made
        · next fits =>
          cases made
          exact ⟨fits, rfl, rfl, rfl⟩
        · cases made
      · cases made
    · cases made
  · rintro ⟨fits, rfl, rfl, rfl⟩
    change packetPayload.length ≤ maxPayloadLength at fits
    simp only [portBound, channelBound, fits, dite_true, if_true]

theorem make_of_large (portFits : port ≤ 15) (channelFits : channel ≤ 3)
    (large : 30 < payload.length) :
    make port channel payload = .error (.payloadTooLarge payload.length 30) := by
  change port ≤ maxPort at portFits
  change channel ≤ maxChannel at channelFits
  change maxPayloadLength < payload.length at large
  rw [make, dif_pos portFits, dif_pos channelFits, if_neg large.not_ge]
  rfl

theorem encode_eq_ok_iff :
    packet.encode = .ok frame ↔ packet.payload.length ≤ 30 ∧ packet.frame = frame := by
  unfold encode
  split
  · next fits => simp [show packet.payload.length ≤ 30 from fits]
  · next large => simp [show ¬ packet.payload.length ≤ 30 from large]

/-- A packet that is not too long gets through: its frame is read as the packet. -/
theorem encode_and_decode (short : packet.payload.length ≤ 30) :
    packet.encode = .ok packet.frame ∧ decode packet.frame = .ok packet :=
  ⟨encode_eq_ok_iff.mpr ⟨short, rfl⟩, packet.decode_frame⟩

end Packet

variable {port channel : UInt8} {payload frame : List UInt8}

theorem encodeFrame_eq_ok_iff :
    encodeFrame port channel payload = .ok frame ↔
      payload.length ≤ 30 ∧ ∃ packet : Packet, packet.port = port ∧ packet.channel = channel ∧
        packet.payload = payload ∧ packet.frame = frame := by
  have opened : encodeFrame port channel payload = .ok frame ↔
      ∃ packet, Packet.make port channel payload = .ok packet ∧ packet.frame = frame := by
    unfold encodeFrame
    cases Packet.make port channel payload <;> simp [Except.map]
  simp only [opened, Packet.make_eq_ok_iff]
  constructor
  · rintro ⟨packet, ⟨fits, isPort, isChannel, isPayload⟩, framed⟩
    exact ⟨fits, packet, isPort, isChannel, isPayload, framed⟩
  · rintro ⟨fits, packet, isPort, isChannel, isPayload, framed⟩
    exact ⟨packet, ⟨fits, isPort, isChannel, isPayload⟩, framed⟩

/-- The port is judged first, then the channel, then the payload. -/
theorem encodeFrame_eq_error_iff {error : PacketError} :
    encodeFrame port channel payload = .error error ↔
      (15 < port ∧ error = .invalidPort port) ∨
      (port ≤ 15 ∧ 3 < channel ∧ error = .invalidChannel channel) ∨
      (port ≤ 15 ∧ channel ≤ 3 ∧ 30 < payload.length ∧
        error = .payloadTooLarge payload.length 30) := by
  change _ ↔ (maxPort < port ∧ error = .invalidPort port) ∨
    (port ≤ maxPort ∧ maxChannel < channel ∧ error = .invalidChannel channel) ∨
    (port ≤ maxPort ∧ channel ≤ maxChannel ∧ maxPayloadLength < payload.length ∧
      error = .payloadTooLarge payload.length maxPayloadLength)
  unfold encodeFrame Packet.make
  by_cases portFits : port ≤ maxPort
  · have portKept : ¬ maxPort < port := UInt8.not_lt.mpr portFits
    by_cases channelFits : channel ≤ maxChannel
    · have channelKept : ¬ maxChannel < channel := UInt8.not_lt.mpr channelFits
      by_cases payloadFits : payload.length ≤ maxPayloadLength
      · simp [portFits, channelFits, payloadFits, portKept, channelKept, Except.map]
      · have payloadLarge : maxPayloadLength < payload.length := Nat.lt_of_not_le payloadFits
        simp [portFits, channelFits, payloadFits, portKept, channelKept, payloadLarge, Except.map,
          eq_comm]
    · have channelLarge : maxChannel < channel := UInt8.not_le.mp channelFits
      simp [portFits, channelFits, portKept, channelLarge, Except.map, eq_comm]
  · have portLarge : maxPort < port := UInt8.not_le.mp portFits
    simp [portFits, portLarge, Except.map, eq_comm]

/-- A packet that can be made is encoded the same way. -/
theorem make_bind_encode (port channel : UInt8) (payload : List UInt8) :
    (Packet.make port channel payload).bind Packet.encode = encodeFrame port channel payload := by
  unfold encodeFrame
  cases made : Packet.make port channel payload with
  | error error => rfl
  | ok packet =>
      obtain ⟨fits, _, _, rfl⟩ := Packet.make_eq_ok_iff.mp made
      exact Packet.encode_eq_ok_iff.mpr ⟨fits, rfl⟩

theorem encodeFrame_success_iff :
    (∃ frame, encodeFrame port channel payload = .ok frame) ↔
      port ≤ 15 ∧ channel ≤ 3 ∧ payload.length ≤ 30 := by
  simp only [encodeFrame_eq_ok_iff]
  constructor
  · rintro ⟨_, fits, packet, rfl, rfl, rfl, _⟩
    exact ⟨packet.port_le, packet.channel_le, fits⟩
  · rintro ⟨portFits, channelFits, fits⟩
    exact ⟨_, fits, ⟨port, channel, payload, portFits, channelFits⟩, rfl, rfl, rfl, rfl⟩

theorem encodeFrame_injective {otherPort otherChannel : UInt8} {otherPayload : List UInt8}
    (encoded : encodeFrame port channel payload = .ok frame)
    (otherEncoded : encodeFrame otherPort otherChannel otherPayload = .ok frame) :
    otherPort = port ∧ otherChannel = channel ∧ otherPayload = payload := by
  obtain ⟨_, packet, rfl, rfl, rfl, framed⟩ := encodeFrame_eq_ok_iff.mp encoded
  obtain ⟨_, other, rfl, rfl, rfl, otherFramed⟩ := encodeFrame_eq_ok_iff.mp otherEncoded
  have same : other = packet := Packet.frame_injective (otherFramed.trans framed.symm)
  exact ⟨congrArg Packet.port same, congrArg Packet.channel same, congrArg Packet.payload same⟩

theorem encodeFrame_keepAlive : encodeFrame 15 3 [1, 1] = .ok keepAliveFrame := by decide

/-- Ports up to 15, channels up to 3 and payloads of up to 30 bytes are encoded, and nothing else.
A frame is two bytes longer than its payload, reads back as what was encoded, has a valid checksum
and is the frame of nothing else; the keep-alive datagram is the frame of one packet. -/
theorem encodeFrame_round_trip (port channel : UInt8) (payload : List UInt8) :
    ((∃ frame, encodeFrame port channel payload = .ok frame) ↔
      port ≤ 15 ∧ channel ≤ 3 ∧ payload.length ≤ 30) ∧
    (∀ frame, encodeFrame port channel payload = .ok frame →
      frame.length = payload.length + 2 ∧
      (∃ packet, Packet.decode frame = .ok packet ∧ packet.port = port ∧
        packet.channel = channel ∧ packet.payload = payload) ∧
      Packet.checksumHolds frame = true ∧
      ∀ otherPort otherChannel otherPayload,
        encodeFrame otherPort otherChannel otherPayload = .ok frame →
          otherPort = port ∧ otherChannel = channel ∧ otherPayload = payload) ∧
    (encodeFrame port channel payload = .ok keepAliveFrame ↔
      port = 15 ∧ channel = 3 ∧ payload = [1, 1]) ∧
    (∀ error, encodeFrame port channel payload = .error error ↔
      (15 < port ∧ error = .invalidPort port) ∨
      (port ≤ 15 ∧ 3 < channel ∧ error = .invalidChannel channel) ∨
      (port ≤ 15 ∧ channel ≤ 3 ∧ 30 < payload.length ∧
        error = .payloadTooLarge payload.length 30)) ∧
    (Packet.make port channel payload).bind Packet.encode = encodeFrame port channel payload := by
  refine ⟨encodeFrame_success_iff, ?_, ?_, fun _ => encodeFrame_eq_error_iff,
    make_bind_encode port channel payload⟩
  · intro frame encoded
    obtain ⟨_, packet, isPort, isChannel, isPayload, framed⟩ := encodeFrame_eq_ok_iff.mp encoded
    subst framed
    refine ⟨?_, ⟨packet, packet.decode_frame, isPort, isChannel, isPayload⟩,
      packet.checksumHolds_frame, fun _ _ _ => encodeFrame_injective encoded⟩
    rw [packet.frame_length, isPayload]
  · constructor
    · exact encodeFrame_injective encodeFrame_keepAlive
    · rintro ⟨rfl, rfl, rfl⟩
      exact encodeFrame_keepAlive

theorem encodeFrame_round_trip_largest :
    ∃ frame, encodeFrame 15 3 (List.replicate 30 0xff) = .ok frame ∧ frame.length = 32 ∧
      (∃ packet, Packet.decode frame = .ok packet ∧ packet.port = 15 ∧ packet.channel = 3 ∧
        packet.payload = List.replicate 30 0xff) ∧
      Packet.checksumHolds frame = true := by
  have law := encodeFrame_round_trip 15 3 (List.replicate 30 0xff)
  obtain ⟨frame, encoded⟩ := law.1.mpr (by decide)
  obtain ⟨length, read, holds, _⟩ := law.2.1 frame encoded
  exact ⟨frame, encoded, length, read, holds⟩

end VehicleLink
