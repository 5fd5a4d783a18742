import VehicleLink.Packet.Error

/-!
Packets and their frames. A frame is one header byte, the payload and one checksum byte; the header
holds the port in its upper four bits, two reserved bits that are always sent as ones, and the
channel in its lower two bits.
-/

namespace VehicleLink

/-- The sum of `bytes` modulo 256. -/
def byteSum : List UInt8 → UInt8
  | [] => 0
  | byte :: rest => byte + byteSum rest

def maxPort : UInt8 := 15

def maxChannel : UInt8 := 3

def headerLength : Nat := 1

def checksumLength : Nat := 1

/-- The largest frame that is sent. -/
def maxFrameLength : Nat := 32

def minFrameLength : Nat := headerLength + checksumLength

def maxPayloadLength : Nat := maxFrameLength - headerLength - checksumLength

/-- The two header bits between port and channel. -/
def reservedBits : UInt8 := 0x0c

/-- The datagram that tells the vehicle where its peer listens. -/
def keepAliveFrame : List UInt8 := [0xff, 0x01, 0x01, 0x01]

/-- A packet. Its payload may be longer than a frame can hold, since frames of any length are
read; such a packet cannot be sent. -/
structure Packet where
  port : UInt8
  channel : UInt8
  payload : List UInt8
  port_le : port ≤ maxPort
  channel_le : channel ≤ maxChannel
  deriving DecidableEq, Repr

namespace Packet

def header (packet : Packet) : UInt8 :=
  packet.port <<< 4 ||| reservedBits ||| packet.channel &&& maxChannel

def checksum (packet : Packet) : UInt8 := packet.header + byteSum packet.payload

/-- A packet that can be sent. The port is judged first, then the channel, then the payload. -/
def make (port channel : UInt8) (payload : List UInt8) : Except PacketError Packet :=
  if port_le : port ≤ maxPort then
    if channel_le : channel ≤ maxChannel then
      if payload.length ≤ maxPayloadLength then .ok { port, channel, payload, port_le, channel_le }
      else .error (.payloadTooLarge payload.length maxPayloadLength)
    else .error (.invalidChannel channel)
  else .error (.invalidPort port)

/-- The bytes of a packet on the wire. -/
def frame (packet : Packet) : List UInt8 :=
  let body := packet.header :: packet.payload
  body ++ [byteSum body]

def encode (packet : Packet) : Except PacketError (List UInt8) :=
  if packet.payload.length ≤ maxPayloadLength then .ok packet.frame
  else .error (.payloadTooLarge packet.payload.length maxPayloadLength)

theorem shiftRight_four_le (header : UInt8) : header >>> 4 ≤ maxPort := by
  have bound := header.toNat_lt
  simp only [UInt8.le_iff_toNat_le, UInt8.toNat_shiftRight, maxPort, Nat.shiftRight_eq_div_pow]
  simp
  omega

theorem and_three_le (header : UInt8) : header &&& maxChannel ≤ maxChannel := by
  simp only [UInt8.le_iff_toNat_le, UInt8.toNat_and]
  exact Nat.and_le_right

/-- The packet of a received frame. The reserved bits and the checksum are not looked at. -/
def decode : List UInt8 → Except PacketError Packet
  | [] => .error (.frameTooShort 0)
  | [_] => .error (.frameTooShort 1)
  | header :: rest =>
      .ok {
        port := header >>> 4
        channel := header &&& maxChannel
        payload := rest.dropLast
        port_le := shiftRight_four_le header
        channel_le := and_three_le header }

/-- Whether the last byte of a frame is the sum of the bytes before it, of which there is one. -/
def checksumHolds (frame : List UInt8) : Bool :=
  match frame.getLast? with
  | some last => !frame.dropLast.isEmpty && byteSum frame.dropLast == last
  | none => false

end Packet

/-- The frame of a port, a channel and a payload. -/
def encodeFrame (port channel : UInt8) (payload : List UInt8) : Except PacketError (List UInt8) :=
  (Packet.make port channel payload).map Packet.frame

end VehicleLink
