import VehicleLink.Localization
import VehicleLink.Proofs.Fields
import VehicleLink.Proofs.Frames

/-!
Messages to the vehicle about its position. All can be sent, except that 28 bytes are the most for an
anchor. Where a message is of a kind, the kind and what the message says are read from its packet; no
two messages share a packet.
-/

namespace VehicleLink.Localization

variable {message left right : Message} {packet : Packet} {kind : UInt8}

namespace Message

def channel (message : Message) : UInt8 :=
  if message.kind?.isSome then genericChannel else positionChannel

def payload (message : Message) : List UInt8 := message.kind?.toList ++ message.body

theorem packet_eq (message : Message) :
    message.packet = Packet.make 6 message.channel message.payload := by
  rw [packet, channel, payload]
  cases message.kind? <;> rfl

theorem packet_exists (message : Message) (short : message.payload.length ≤ 30) :
    ∃ packet, message.packet = .ok packet ∧ packet.channel = message.channel ∧
      packet.payload = message.payload := by
  have bound : message.channel ≤ maxChannel := by
    rw [channel]
    split <;> decide
  rw [packet_eq]
  exact ⟨⟨6, message.channel, message.payload, by decide, bound⟩,
    Packet.make_eq_ok_iff.mpr ⟨short, rfl, rfl, rfl⟩, rfl, rfl⟩

theorem payload_of_kind (typed : message.kind? = some kind) :
    message.payload = kind :: message.body := by
  rw [payload, typed, Option.toList_some, List.singleton_append]

/-- A message to the vehicle is of no kind that has ranges. -/
theorem kind?_ne_rangeStreamKind (typed : message.kind? = some kind) : kind ≠ rangeStreamKind := by
  cases message <;> cases typed <;> decide

/-! ### Different messages -/

theorem axes_of_toList {position other : Axes} (same : position.toList = other.toList) :
    position = other := by
  obtain ⟨x, y, z⟩ := position
  obtain ⟨_, _, _⟩ := other
  cases same
  rfl

/-- A message is known by its kind and its body. -/
theorem eq_of_kind_of_body (kinds : left.kind? = right.kind?) (bodies : left.body = right.body) :
    left = right := by
  cases left <;> cases right <;> cases kinds
  case externalPosition.externalPosition =>
    rw [axes_of_toList (floats_injective bodies)]
  case externalPose.externalPose position q other r =>
    have same := floats_injective bodies
    obtain ⟨positions, attitudes⟩ := List.append_inj same rfl
    cases q
    cases r
    cases attitudes
    rw [axes_of_toList positions]
  case shortLpp.shortLpp =>
    cases bodies
    rfl
  all_goals rfl

/-- The channel tells whether a kind byte comes first. -/
theorem kinds_of_channels (same : left.channel = right.channel) :
    left.kind?.toList.length = right.kind?.toList.length := by
  rw [channel, channel] at same
  cases typed : left.kind? <;> cases otherTyped : right.kind? <;> rw [typed, otherTyped] at same
  case none.some | some.none => cases same
  all_goals rfl

theorem eq_of_packet (sent : left.packet = .ok packet) (otherSent : right.packet = .ok packet) :
    left = right := by
  rw [packet_eq] at sent otherSent
  obtain ⟨_, _, onChannel, holds⟩ := Packet.make_eq_ok_iff.mp sent
  obtain ⟨_, _, otherChannel, otherHolds⟩ := Packet.make_eq_ok_iff.mp otherSent
  have lengths := kinds_of_channels (onChannel.symm.trans otherChannel)
  obtain ⟨kinds, bodies⟩ := List.append_inj (holds.symm.trans otherHolds) lengths
  have kinds := congrArg List.head? kinds
  rw [Option.head?_toList, Option.head?_toList] at kinds
  exact eq_of_kind_of_body kinds bodies

end Message

/-! ### Arrival -/

/-- A packet gets through and is read as a message of this kind, without ranges. -/
structure Arrives (packet : Packet) (kind : UInt8) (content : List UInt8) : Prop where
  encode : packet.encode = .ok packet.frame
  decode : Packet.decode packet.frame = .ok packet
  parse : Report.parse packet = .ok ⟨kind, content, none⟩

theorem arrives_of_kind (message : Message) (typed : message.kind? = some kind)
    (short : message.body.length ≤ 29) :
    ∃ packet, message.packet = .ok packet ∧ Arrives packet kind message.body := by
  have payload := message.payload_of_kind typed
  have fits : message.payload.length ≤ 30 := by
    rw [payload, List.length_cons]
    omega
  obtain ⟨packet, sent, _, same⟩ := message.packet_exists fits
  obtain ⟨encode, decode⟩ := packet.encode_and_decode (same ▸ fits)
  refine ⟨packet, sent, encode, decode, ?_⟩
  rw [Report.parse, same, payload]
  exact if_neg (Message.kind?_ne_rangeStreamKind typed)

theorem shortLpp_refused (destination : UInt8) {content : List UInt8}
    (large : 28 < content.length) :
    (Message.shortLpp destination content).packet =
      .error (.payloadTooLarge (content.length + 2) 30) :=
  Packet.make_of_large (by decide) (by decide) (Nat.add_lt_add_right large 2)

/-- All messages are sent, but no more than 28 bytes to an anchor. What was said is read from the
packet that arrives, and two messages have the same packet only if they are the same. -/
theorem messages_exact :
    (∀ position, ∃ packet, (Message.externalPosition position).packet = .ok packet ∧
      (packet.encode = .ok packet.frame ∧ Packet.decode packet.frame = .ok packet) ∧
      packet.payload.length = 12 ∧ FloatsAt packet.payload 0 position.toList) ∧
    (∀ position q, ∃ packet content, (Message.externalPose position q).packet = .ok packet ∧
      Arrives packet 8 content ∧ content.length = 28 ∧
      FloatsAt content 0 (position.toList ++ [q.x, q.y, q.z, q.w])) ∧
    (∀ destination content,
      (content.length ≤ 28 → ∃ packet, (Message.shortLpp destination content).packet = .ok packet ∧
        Arrives packet 2 (destination :: content)) ∧
      (28 < content.length → (Message.shortLpp destination content).packet =
        .error (.payloadTooLarge (content.length + 2) 30))) ∧
    ((∃ packet, Message.emergencyStop.packet = .ok packet ∧ Arrives packet 3 []) ∧
      (∃ packet, Message.emergencyStopWatchdog.packet = .ok packet ∧ Arrives packet 4 []) ∧
      ∃ packet, Message.emergencyReset.packet = .ok packet ∧ Arrives packet 10 []) ∧
    ∀ (left right : Message) (packet other : Packet), left.packet = .ok packet →
      right.packet = .ok other → (packet = other ↔ left = right) := by
  refine ⟨?_, ?_, ?_, ?_, ?_⟩
  · intro position
    have length : (Setpoint.floats position.toList).length = 12 := floats_length _
    obtain ⟨packet, sent, _, same⟩ :=
      (Message.externalPosition position).packet_exists (length.le.trans (by decide))
    change packet.payload = Setpoint.floats position.toList at same
    have placed := floatsAt_floats [] position.toList []
    rw [List.append_nil, List.nil_append, ← same] at placed
    rw [← same] at length
    exact ⟨packet, sent, packet.encode_and_decode (length.le.trans (by decide)), length, placed⟩
  · intro position q
    let values := position.toList ++ [q.x, q.y, q.z, q.w]
    have length : (Setpoint.floats values).length = 28 := floats_length values
    obtain ⟨packet, sent, arrives⟩ :=
      arrives_of_kind (.externalPose position q) rfl (length.le.trans (by decide))
    have placed := floatsAt_floats [] values []
    rw [List.append_nil] at placed
    exact ⟨packet, _, sent, arrives, length, placed⟩
  · intro destination content
    exact ⟨fun short => arrives_of_kind _ rfl (Nat.succ_le_succ short), shortLpp_refused destination⟩
  · exact ⟨arrives_of_kind _ rfl (Nat.zero_le _), arrives_of_kind _ rfl (Nat.zero_le _),
      arrives_of_kind _ rfl (Nat.zero_le _)⟩
  · intro left right packet other sent otherSent
    constructor
    · rintro rfl
      exact Message.eq_of_packet sent otherSent
    · rintro rfl
      exact Except.ok.inj (sent.symm.trans otherSent)

theorem messages_exact_fullPayload :
    (∃ packet, (Message.shortLpp 7 (List.replicate 28 0xff)).packet = .ok packet ∧
      Arrives packet 2 (7 :: List.replicate 28 0xff)) ∧
    (Message.shortLpp 7 (List.replicate 29 0xff)).packet = .error (.payloadTooLarge 31 30) ∧
    ∃ packet other, (Message.shortLpp 3 []).packet = .ok packet ∧
      Message.emergencyStop.packet = .ok other ∧ packet ≠ other := by
  obtain ⟨_, _, lpp, ⟨⟨stop, stopped, _⟩, _⟩, apart⟩ := messages_exact
  refine ⟨(lpp 7 _).1 (by decide), (lpp 7 _).2 (by decide), ?_⟩
  obtain ⟨packet, sent, _⟩ := (lpp 3 []).1 (by decide)
  refine ⟨packet, stop, sent, stopped, fun same => ?_⟩
  have equal := (apart _ _ _ _ sent stopped).mp same
  cases equal

end VehicleLink.Localization
