import VehicleLink.Proofs.Fields
import VehicleLink.Proofs.Frames
import VehicleLink.Proofs.Numbers.Double

/-!
Setpoints read back. Apart from full states, what a setpoint asks for stands in its frame bit by bit,
so that no two of them share a frame. All are sent but those with more thrust than two bytes hold.
-/

namespace VehicleLink.Setpoint

variable {setpoint left right : Setpoint} {packet other : Packet} {kind otherKind : UInt8}
  {arguments others : List Single} {roll pitch yaw otherRoll otherPitch otherYaw : Single}
  {thrust otherThrust : UInt32}

/-! ### Setpoints of a kind -/

/-- The kind byte and the arguments of a setpoint that is sent as its arguments are. -/
def typed? : Setpoint → Option (UInt8 × List Single)
  | stop => some (0, [])
  | velocityWorld vx vy vz yawRate => some (1, [vx, vy, vz, yawRate])
  | height roll pitch yawRate z => some (2, [roll, pitch, yawRate, z])
  | hover vx vy yawRate z => some (5, [vx, vy, yawRate, z])
  | position x y z yaw => some (7, [x, y, z, yaw])
  | attitude .. | fullState _ => none

/-- Kind and arguments make the setpoint: no two kinds share a byte. -/
theorem typed?_injective (typed : left.typed? = some (kind, arguments))
    (same : right.typed? = some (kind, arguments)) : left = right := by
  cases left <;> cases typed <;> cases right <;> cases same <;> rfl

/-- A packet holds a kind and arguments, each in its place. -/
structure HoldsArguments (packet : Packet) (kind : UInt8) (arguments : List Single) : Prop where
  port : packet.port = 7
  channel : packet.channel = 0
  length : packet.payload.length = 1 + 4 * arguments.length
  kind : packet.payload.head? = some kind
  arguments : FloatsAt packet.payload 1 arguments

theorem HoldsArguments.unique (holds : HoldsArguments packet kind arguments)
    (holdsOther : HoldsArguments packet otherKind others) :
    otherKind = kind ∧ others = arguments := by
  have kinds := holds.kind
  rw [holdsOther.kind] at kinds
  have lengths := holds.length
  rw [holdsOther.length] at lengths
  exact ⟨Option.some.inj kinds, holdsOther.arguments.unique holds.arguments (by omega)⟩

/-- Arguments have room beside their kind as long as there are at most seven. -/
theorem generic_floats (kind : UInt8) (few : arguments.length ≤ 7) :
    ∃ packet, generic kind (floats arguments) = .ok packet ∧
      HoldsArguments packet kind arguments := by
  let packet : Packet := ⟨7, 0, kind :: floats arguments, by decide, by decide⟩
  have length : packet.payload.length = 1 + 4 * arguments.length := by
    rw [List.length_cons, floats_length, Nat.add_comm]
  have made : generic kind (floats arguments) = .ok packet :=
    Packet.make_eq_ok_iff.mpr ⟨by change packet.payload.length ≤ 30; omega, rfl, rfl, rfl⟩
  have placed := floatsAt_floats [kind] arguments []
  rw [List.append_nil] at placed
  exact ⟨packet, made, rfl, rfl, length, rfl, placed⟩

theorem packet_of_typed (typed : setpoint.typed? = some (kind, arguments)) (crossedFrame : Bool) :
    ∃ packet, setpoint.packet crossedFrame = .ok packet ∧
      HoldsArguments packet kind arguments ∧ packet.payload.length ≤ 30 := by
  have generic : setpoint.packet crossedFrame = generic kind (floats arguments) ∧
      arguments.length ≤ 4 := by
    cases setpoint <;> cases typed <;> exact ⟨rfl, by simp⟩
  obtain ⟨packet, made, holds⟩ := generic_floats kind (generic.2.trans (by decide))
  have length := holds.length
  exact ⟨packet, generic.1.trans made, holds, by omega⟩

/-! ### Attitudes -/

/-- A packet holds two tilts, a yaw and a thrust. -/
structure HoldsAttitude (packet : Packet) (roll pitch yaw : Single) (thrust : UInt32) : Prop where
  port : packet.port = 3
  channel : packet.channel = 0
  length : packet.payload.length = 14
  roll : floatAt packet.payload 0 = roll
  pitch : floatAt packet.payload 4 = pitch
  yaw : floatAt packet.payload 8 = yaw
  thrust : numberAt packet.payload 12 2 = thrust.toNat

theorem HoldsAttitude.unique (holds : HoldsAttitude packet roll pitch yaw thrust)
    (holdsOther : HoldsAttitude packet otherRoll otherPitch otherYaw otherThrust) :
    otherRoll = roll ∧ otherPitch = pitch ∧ otherYaw = yaw ∧ otherThrust = thrust :=
  ⟨holdsOther.roll.symm.trans holds.roll, holdsOther.pitch.symm.trans holds.pitch,
    holdsOther.yaw.symm.trans holds.yaw,
    UInt32.toNat_inj.mp (holdsOther.thrust.symm.trans holds.thrust)⟩

theorem holdsAttitude_of_payload (port : packet.port = 3) (channel : packet.channel = 0)
    (payload : packet.payload = floats [roll, pitch, yaw] ++ littleEndian 2 thrust.toNat)
    (room : thrust.toNat ≤ maxThrust) : HoldsAttitude packet roll pitch yaw thrust := by
  have twelve : (floats [roll, pitch, yaw]).length = 12 := floats_length _
  have reads : FloatsAt packet.payload 0 [roll, pitch, yaw] := by
    rw [payload]
    exact floatsAt_floats [] _ _
  refine ⟨port, channel, ?_, reads 0 roll rfl, reads 1 pitch rfl, reads 2 yaw rfl, ?_⟩
  · rw [payload, List.length_append, twelve, littleEndian_length]
  · have back := bytesAt_front (littleEndian_length 2 thrust.toNat) []
    rw [List.append_nil] at back
    rw [payload, numberAt, ← Nat.add_zero 12, bytesAt_append twelve, back]
    exact ofLittleEndian_of_lt (Nat.lt_succ_of_le room)

/-- The tilts that an attitude setpoint sends: the pitch with its sign turned, on a crossed frame
both turned to its axes. -/
def tilts (crossedFrame : Bool) (roll pitch : Single) : Single × Single :=
  let turned := if crossedFrame then crossed roll pitch else (roll, pitch)
  (turned.1, -turned.2)

theorem packet_of_attitude (crossedFrame : Bool) (roll pitch yaw : Single)
    (room : thrust.toNat ≤ maxThrust) :
    ∃ packet, (attitude roll pitch yaw thrust).packet crossedFrame = .ok packet ∧
      HoldsAttitude packet (tilts crossedFrame roll pitch).1 (tilts crossedFrame roll pitch).2 yaw
        thrust := by
  let sent := tilts crossedFrame roll pitch
  let payload := floats [sent.1, sent.2, yaw] ++ littleEndian 2 thrust.toNat
  let packet : Packet := ⟨3, 0, payload, by decide, by decide⟩
  have holds : HoldsAttitude packet sent.1 sent.2 yaw thrust :=
    holdsAttitude_of_payload rfl rfl rfl room
  refine ⟨packet, ?_, holds⟩
  rw [Setpoint.packet, if_pos room]
  exact Packet.make_eq_ok_iff.mpr ⟨holds.length.le.trans (by decide), rfl, rfl, rfl⟩

theorem packet_of_excess (crossedFrame : Bool) (roll pitch yaw : Single)
    (excess : maxThrust < thrust.toNat) :
    (attitude roll pitch yaw thrust).packet crossedFrame =
      .error (.valueOutOfRange .thrust (Double.ofNat thrust.toNat)) :=
  if_neg excess.not_ge

/-- A sign can be turned back, also that of an undefined value. -/
theorem neg_inj {x y : Single} (same : -x = -y) : x = y := by
  have words : x.bits ^^^ 0x80000000 = y.bits ^^^ 0x80000000 := congrArg Single.bits same
  cases x
  cases y
  exact congrArg Single.mk (by simpa using words)

/-! ### Different setpoints -/

/-- What is sent with a plain frame holds the setpoint in one of two ways. -/
theorem sent_cases (plain : ∀ state, setpoint ≠ fullState state)
    (sent : setpoint.packet false = .ok packet) :
    (∃ kind arguments, setpoint.typed? = some (kind, arguments) ∧
      HoldsArguments packet kind arguments) ∨
    ∃ roll pitch yaw thrust, setpoint = attitude roll pitch yaw thrust ∧
      HoldsAttitude packet roll (-pitch) yaw thrust := by
  cases typed : setpoint.typed? with
  | some parts =>
      obtain ⟨made, same, holds, _⟩ := packet_of_typed typed false
      cases same.symm.trans sent
      exact .inl ⟨_, _, rfl, holds⟩
  | none =>
      cases setpoint with
      | stop | velocityWorld | height | hover | position => cases typed
      | fullState state => exact absurd rfl (plain state)
      | attitude roll pitch yaw thrust =>
          rcases Nat.lt_or_ge maxThrust thrust.toNat with excess | room
          · cases (packet_of_excess false roll pitch yaw excess).symm.trans sent
          · obtain ⟨made, same, holds⟩ := packet_of_attitude false roll pitch yaw room
            cases same.symm.trans sent
            exact .inr ⟨_, _, _, _, rfl, holds⟩

/-- Setpoints without a full state that share a packet are the same. -/
theorem eq_of_packet (plain : ∀ state, left ≠ fullState state)
    (otherPlain : ∀ state, right ≠ fullState state) (sent : left.packet false = .ok packet)
    (otherSent : right.packet false = .ok packet) : left = right := by
  -- The port tells the two ways apart, so that only what is held in the same way is compared.
  rcases sent_cases plain sent with
    ⟨kind, arguments, typed, holds⟩ | ⟨roll, pitch, yaw, thrust, rfl, holds⟩
  · rcases sent_cases otherPlain otherSent with
      ⟨otherKind, others, otherTyped, holdsOther⟩ | ⟨_, _, _, _, _, holdsOther⟩
    · obtain ⟨rfl, rfl⟩ := holds.unique holdsOther
      exact typed?_injective typed otherTyped
    · exact absurd (holds.port.symm.trans holdsOther.port) (by decide)
  · rcases sent_cases otherPlain otherSent with
      ⟨_, _, _, holdsOther⟩ | ⟨otherRoll, otherPitch, otherYaw, otherThrust, rfl, holdsOther⟩
    · exact absurd (holds.port.symm.trans holdsOther.port) (by decide)
    · obtain ⟨rfl, turned, rfl, rfl⟩ := holds.unique holdsOther
      rw [neg_inj turned]

theorem encoded_cases {frame : List UInt8} {crossedFrame : Bool}
    (encoded : (setpoint.packet crossedFrame).bind Packet.encode = .ok frame) :
    ∃ packet, setpoint.packet crossedFrame = .ok packet ∧ packet.frame = frame := by
  cases sent : setpoint.packet crossedFrame with
  | error error =>
      rw [sent] at encoded
      cases encoded
  | ok packet =>
      rw [sent] at encoded
      exact ⟨packet, rfl, (Packet.encode_eq_ok_iff.mp encoded).2⟩

/-- Setpoints of a kind are always sent, attitudes as long as two bytes have room for their thrust.
What was asked for is read from the frame, pitch with its sign turned; a crossed frame changes roll
and pitch alone. Without it two setpoints have the same frame only if they are the same. -/
theorem read_from_frame :
    (∀ crossedFrame setpoint kind arguments, typed? setpoint = some (kind, arguments) →
      ∃ packet, setpoint.packet crossedFrame = .ok packet ∧
        (packet.encode = .ok packet.frame ∧ Packet.decode packet.frame = .ok packet) ∧
        HoldsArguments packet kind arguments) ∧
    (∀ crossedFrame roll pitch yaw thrust,
      (thrust.toNat ≤ 65535 →
        ∃ packet, (attitude roll pitch yaw thrust).packet crossedFrame = .ok packet ∧
          (packet.encode = .ok packet.frame ∧ Packet.decode packet.frame = .ok packet) ∧
          HoldsAttitude packet (tilts crossedFrame roll pitch).1 (tilts crossedFrame roll pitch).2
            yaw thrust ∧
          (crossedFrame = false → floatAt packet.payload 0 = roll ∧
            (floatAt packet.payload 4).bits = pitch.bits ^^^ 0x80000000)) ∧
      (65535 < thrust.toNat →
        ∃ (field : Field) (value : Double),
          (attitude roll pitch yaw thrust).packet crossedFrame =
            .error (.valueOutOfRange field value) ∧
          field.name = "thrust" ∧ value.datum = .finite false thrust.toNat)) ∧
    ∀ left right, (∀ state, left ≠ fullState state) → (∀ state, right ≠ fullState state) →
      ∀ frame otherFrame, (left.packet false).bind Packet.encode = .ok frame →
        (right.packet false).bind Packet.encode = .ok otherFrame →
        (frame = otherFrame ↔ left = right) := by
  refine ⟨?_, ?_, ?_⟩
  · intro crossedFrame setpoint kind arguments typed
    obtain ⟨packet, sent, holds, short⟩ := packet_of_typed typed crossedFrame
    exact ⟨packet, sent, Packet.encode_and_decode short, holds⟩
  · intro crossedFrame roll pitch yaw thrust
    constructor
    · intro room
      obtain ⟨packet, sent, holds⟩ := packet_of_attitude crossedFrame roll pitch yaw room
      refine ⟨packet, sent, Packet.encode_and_decode (holds.length.le.trans (by decide)), holds, ?_⟩
      rintro rfl
      exact ⟨holds.roll, congrArg Single.bits holds.pitch⟩
    · intro excess
      refine ⟨_, _, packet_of_excess crossedFrame roll pitch yaw excess, rfl, ?_⟩
      exact Double.datum_ofNat (thrust.toNat_lt.trans (by decide))
  · intro left right plain otherPlain frame otherFrame encoded otherEncoded
    obtain ⟨packet, sent, rfl⟩ := encoded_cases encoded
    obtain ⟨other, otherSent, rfl⟩ := encoded_cases otherEncoded
    constructor
    · intro same
      obtain rfl := Packet.frame_injective same
      exact eq_of_packet plain otherPlain sent otherSent
    · rintro rfl
      exact congrArg Packet.frame (Except.ok.inj (sent.symm.trans otherSent))

theorem read_from_frame_alike :
    (∃ packet, (hover .one .zero ⟨0x80000000⟩ ⟨0xff800000⟩).packet true = .ok packet ∧
      HoldsArguments packet 5 [.one, .zero, ⟨0x80000000⟩, ⟨0xff800000⟩]) ∧
    (∃ packet, (attitude .one .one .zero 65535).packet false = .ok packet ∧
      floatAt packet.payload 0 = .one ∧ (floatAt packet.payload 4).bits = 0xbf800000) ∧
    (∃ field value, (attitude .one .one .zero 65536).packet true =
        .error (.valueOutOfRange field value) ∧
      field.name = "thrust" ∧ value.datum = .finite false 65536) ∧
    ∃ frame otherFrame,
      ((velocityWorld .one .zero .zero .zero).packet false).bind Packet.encode = .ok frame ∧
      ((position .one .zero .zero .zero).packet false).bind Packet.encode = .ok otherFrame ∧
      frame ≠ otherFrame := by
  obtain ⟨typed, attitudes, apart⟩ := read_from_frame
  refine ⟨?_, ?_, ?_, ?_⟩
  · obtain ⟨packet, sent, _, holds⟩ :=
      typed true (hover .one .zero ⟨0x80000000⟩ ⟨0xff800000⟩) 5 _ rfl
    exact ⟨packet, sent, holds⟩
  · obtain ⟨packet, sent, _, _, plain⟩ :=
      (attitudes false .one .one .zero 65535).1 (by decide)
    exact ⟨packet, sent, plain rfl⟩
  · exact (attitudes true .one .one .zero 65536).2 (by decide)
  · obtain ⟨packet, sent, short, _⟩ := typed false (velocityWorld .one .zero .zero .zero) 1 _ rfl
    obtain ⟨other, otherSent, otherShort, _⟩ := typed false (position .one .zero .zero .zero) 7 _ rfl
    have framed : ((velocityWorld .one .zero .zero .zero).packet false).bind Packet.encode =
        .ok packet.frame := by
      rw [sent]
      exact short.1
    have otherFramed : ((position .one .zero .zero .zero).packet false).bind Packet.encode =
        .ok other.frame := by
      rw [otherSent]
      exact otherShort.1
    refine ⟨_, _, framed, otherFramed, fun same => ?_⟩
    have equal := (apart _ _ (by simp) (by simp) _ _ framed otherFramed).mp same
    exact absurd equal (by decide)

end VehicleLink.Setpoint
