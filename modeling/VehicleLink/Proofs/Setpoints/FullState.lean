import Mathlib.Tactic.SplitIfs
import VehicleLink.Proofs.Fields
import VehicleLink.Proofs.Frames
import VehicleLink.Proofs.Numbers.Double

/-!
Full states. A full state is sent exactly if each of its motions and rates has room in two bytes with
a sign, once it is rounded to thousandths; nothing wraps and nothing is cut off at a limit. What is
sent stands in fixed places, and what is refused is the first value that has no room.
-/

namespace VehicleLink

open Binary

/-! ### Thousandths -/

/-- An integer is the nearest to a number, or of the two nearest the one farther from zero. -/
def NearestAway (n : Int) (x : Rat) : Prop :=
  |n - x| < 1 / 2 ∨ |n - x| = 1 / 2 ∧ |x| < |(n : Rat)|

theorem roundHalfAway_nearest (x : Rat) : NearestAway (roundHalfAway x) x := by
  rw [NearestAway, roundHalfAway]
  split_ifs with negative
  · have below := Rat.floor_le (1 / 2 - x)
    have above := Rat.lt_floor_add_one (1 / 2 - x)
    generalize (1 / 2 - x).floor = n at below above ⊢
    push_cast at above ⊢
    rcases below.lt_or_eq with within | half
    · exact .inl (abs_lt.mpr ⟨by linarith, by linarith⟩)
    · have apart : -(n : Rat) - x = -(1 / 2) := by linarith
      refine .inr ⟨by rw [apart]; norm_num, ?_⟩
      rw [abs_of_neg negative, abs_neg, half]
      exact (by linarith : -x < 1 / 2 - x).trans_le (le_abs_self _)
  · have below := Rat.floor_le (x + 1 / 2)
    have above := Rat.lt_floor_add_one (x + 1 / 2)
    generalize (x + 1 / 2).floor = n at below above ⊢
    push_cast at above
    rcases below.lt_or_eq with within | half
    · exact .inl (abs_lt.mpr ⟨by linarith, by linarith⟩)
    · have apart : (n : Rat) - x = 1 / 2 := by linarith
      refine .inr ⟨by rw [apart]; norm_num, ?_⟩
      rw [abs_of_nonneg (not_lt.mp negative), half]
      exact (by linarith : x < x + 1 / 2).trans_le (le_abs_self _)

theorem NearestAway.le {n : Int} {x : Rat} (nearest : NearestAway n x) : |n - x| ≤ 1 / 2 := by
  rcases nearest with close | ⟨half, _⟩
  · exact close.le
  · exact half.le

/-- Two integers are never both the nearest. A number half way between them would be less than a
quarter away from zero. -/
theorem NearestAway.not_lt {m n : Int} {x : Rat} (left : NearestAway m x)
    (right : NearestAway n x) : ¬ m < n := by
  intro apart
  have next : (m : Rat) + 1 ≤ n := by exact_mod_cast apart
  have low := abs_le.mp left.le
  have high := abs_le.mp right.le
  have halfLow : (m : Rat) - x = -(1 / 2) := by linarith
  have halfHigh : (n : Rat) - x = 1 / 2 := by linarith
  have farLow := sq_lt_sq.mpr (left.resolve_left (by rw [halfLow]; norm_num)).2
  have farHigh := sq_lt_sq.mpr (right.resolve_left (by rw [halfHigh]; norm_num)).2
  have above : ((-1 : Int) : Rat) < m := by
    rw [show (n : Rat) = x + 1 / 2 by linarith] at farHigh
    push_cast
    nlinarith
  have below : (m : Rat) < ((0 : Int) : Rat) := by
    rw [show (m : Rat) = x - 1 / 2 by linarith] at farLow
    push_cast
    nlinarith
  have above : -1 < m := by exact_mod_cast above
  have below : m < 0 := by exact_mod_cast below
  omega

theorem nearestAway_iff {n : Int} {x : Rat} : NearestAway n x ↔ n = roundHalfAway x := by
  have nearest := roundHalfAway_nearest x
  constructor
  · intro other
    exact le_antisymm (not_lt.mp (nearest.not_lt other)) (not_lt.mp (other.not_lt nearest))
  · rintro rfl
    exact nearest

namespace Single

/-- The float nearest to a thousand times a value. -/
def timesThousand (value : Single) : Single := ofDatum (value.datum.mul (.finite false 1000))

/-- A value has this number of thousandths, rounded to a float first and to an integer then. -/
def InThousandths (value : Single) (n : Int) : Prop :=
  value.timesThousand.isFinite = true ∧ NearestAway n value.timesThousand.value

/-- The thousandths of a value have room in two bytes with a sign. -/
def HasRoom (value : Single) : Prop := ∃ n, value.InThousandths n ∧ -32768 ≤ n ∧ n ≤ 32767

end Single

namespace Setpoint

variable {field : Field} {value : Single} {values : List Single} {n : Int}

theorem mul_thousand (value : Single) : value * thousand = value.timesThousand := by
  have exact : thousand.datum = .finite false 1000 := by decide +kernel
  rw [Single.timesThousand, ← exact]
  rfl

theorem thousandths_of_room (counted : value.InThousandths n) (low : -32768 ≤ n)
    (high : n ≤ 32767) (field : Field) : thousandths field value = .ok n := by
  obtain ⟨finite, nearest⟩ := counted
  rw [nearestAway_iff] at nearest
  obtain ⟨negative, magnitude, same, _⟩ := Single.datum_of_finite finite
  have exact := (Single.finite_of_datum same).2
  rw [thousandths, mul_thousand, same]
  simp only [← exact, ← nearest]
  rw [if_pos ⟨low, high⟩]

theorem thousandths_of_no_room (refused : ¬ value.HasRoom) (field : Field) :
    thousandths field value = .error (.valueOutOfRange field value.widen) := by
  rw [thousandths, mul_thousand]
  cases same : value.timesThousand.datum with
  | nan | infinity negative => rfl
  | finite negative magnitude =>
      obtain ⟨finite, exact⟩ := Single.finite_of_datum same
      simp only [← exact]
      rw [if_neg]
      rintro ⟨low, high⟩
      exact refused ⟨_, ⟨finite, nearestAway_iff.mpr rfl⟩, low, high⟩

/-! ### Several values -/

/-- A value without room, and all before it have room. -/
def FirstWithoutRoom (values : List Single) (value : Single) : Prop :=
  ∃ front back, values = front ++ value :: back ∧ (∀ earlier ∈ front, earlier.HasRoom) ∧
    ¬ value.HasRoom

theorem FirstWithoutRoom.not_all (first : FirstWithoutRoom values value) :
    ¬ ∀ value ∈ values, value.HasRoom := by
  obtain ⟨front, back, rfl, _, refused⟩ := first
  exact fun all => refused (all value (by simp))

/-- Values in thousandths stand one after the other from an offset on, two bytes for each. -/
def ThousandthsAt (bytes : List UInt8) (offset : Nat) (values : List Single) : Prop :=
  ∀ (place : Nat) (value : Single), values[place]? = some value →
    value.InThousandths (signedAt bytes (offset + 2 * place) 2)

/-- These bytes are the values in thousandths. -/
structure Holds (bytes : List UInt8) (values : List Single) : Prop where
  length : bytes.length = 2 * values.length
  reads : ThousandthsAt bytes 0 values

theorem Holds.cons {bytes : List UInt8} (holds : Holds bytes values)
    (counted : value.InThousandths n) (low : -32768 ≤ n) (high : n ≤ 32767) :
    Holds (littleEndianSigned 2 n ++ bytes) (value :: values) where
  length := by
    rw [List.length_append, littleEndianSigned_length, holds.length, List.length_cons]
    omega
  reads := by
    intro place other found
    cases place with
    | zero =>
        cases found
        rw [signedAt, numberAt, bytesAt_front (littleEndianSigned_length 2 n),
          bmod_littleEndianSigned (by norm_num; omega) (by norm_num; omega)]
        exact counted
    | succ place =>
        have later := holds.reads place other found
        rw [Nat.zero_add] at later ⊢
        rw [Nat.mul_succ, Nat.add_comm, signedAt, numberAt,
          bytesAt_append (littleEndianSigned_length 2 n)]
        exact later

theorem Holds.within {bytes : List UInt8} (holds : Holds bytes values) (front back : List UInt8) :
    ThousandthsAt (front ++ (bytes ++ back)) front.length values := by
  intro place value found
  have inside := (List.getElem?_eq_some_iff.mp found).1
  have length := holds.length
  have alone := holds.reads place value found
  rw [Nat.zero_add] at alone
  rw [signedAt, numberAt, bytesAt_append rfl, bytesAt_within (by omega)]
  exact alone

theorem allThousandths_cases (field : Field) (values : List Single) :
    (∃ bytes, allThousandths field values = .ok bytes ∧ (∀ value ∈ values, value.HasRoom) ∧
      Holds bytes values) ∨
    ∃ value, allThousandths field values = .error (.valueOutOfRange field value.widen) ∧
      FirstWithoutRoom values value := by
  induction values with
  | nil => exact .inl ⟨[], rfl, by simp, rfl, nofun⟩
  | cons value rest ih =>
      by_cases room : value.HasRoom
      · have ⟨n, counted, low, high⟩ := room
        have first := thousandths_of_room counted low high field
        rcases ih with ⟨bytes, written, all, holds⟩ | ⟨other, refused, front, back, rfl, all, none⟩
        · refine .inl ⟨littleEndianSigned 2 n ++ bytes, ?_, ?_, holds.cons counted low high⟩
          · rw [allThousandths, first, written]
            rfl
          · exact List.forall_mem_cons.mpr ⟨room, all⟩
        · refine .inr ⟨other, ?_, value :: front, back, rfl, ?_, none⟩
          · rw [allThousandths, first, refused]
            rfl
          · exact List.forall_mem_cons.mpr ⟨room, all⟩
      · refine .inr ⟨value, ?_, [], rest, rfl, by simp, room⟩
        rw [allThousandths, thousandths_of_no_room room]
        rfl

end Setpoint

/-! ### The packet -/

/-- The values of a full state that come before its attitude. -/
def FullState.motion (state : FullState) : List Single :=
  state.position.toList ++ state.velocity.toList ++ state.acceleration.toList

namespace Setpoint

variable {state : FullState} {packet : Packet}

/-- A packet holds a full state, each part in its place. -/
structure Carries (packet : Packet) (state : FullState) : Prop where
  port : packet.port = 7
  channel : packet.channel = 0
  length : packet.payload.length = 29
  kind : packet.payload.head? = some 6
  motion : ThousandthsAt packet.payload 1 state.motion
  attitude : numberAt packet.payload 19 4 = state.attitude.compress.toNat
  rates : ThousandthsAt packet.payload 23 state.rates.toList

theorem carries_of_parts {motion rates : List UInt8} (port : packet.port = 7)
    (channel : packet.channel = 0) (moving : Holds motion state.motion)
    (turning : Holds rates state.rates.toList)
    (payload : packet.payload =
      6 :: (motion ++ littleEndian 4 state.attitude.compress.toNat ++ rates)) :
    Carries packet state := by
  have eighteen : motion.length = 18 := moving.length
  have before : (6 :: motion).length = 19 := congrArg (· + 1) eighteen
  have ahead : (6 :: motion ++ littleEndian 4 state.attitude.compress.toNat).length = 23 := by
    rw [List.length_append, before, littleEndian_length]
  refine ⟨port, channel, ?_, by rw [payload, List.head?_cons], ?_, ?_, ?_⟩
  · rw [payload, ← List.cons_append, ← List.cons_append, List.length_append, ahead, turning.length]
    rfl
  · rw [payload, List.append_assoc]
    exact moving.within [6] _
  · rw [numberAt, payload, List.append_assoc, ← List.cons_append, ← Nat.add_zero 19,
      bytesAt_append before, bytesAt_front (littleEndian_length 4 _)]
    exact ofLittleEndian_of_lt state.attitude.compress.toNat_lt
  · have placed := turning.within (6 :: motion ++ littleEndian 4 state.attitude.compress.toNat) []
    rw [ahead, List.append_nil] at placed
    rw [payload, ← List.cons_append, ← List.cons_append]
    exact placed

theorem ofFullState_eq (state : FullState) :
    ofFullState state =
      (allThousandths .fullState state.motion).bind fun motion =>
        (allThousandths .rate state.rates.toList).bind fun rates =>
          generic 6 (motion ++ littleEndian 4 state.attitude.compress.toNat ++ rates) :=
  rfl

/-- A full state is sent, or the first of its values that has no room is refused. -/
theorem ofFullState_cases (state : FullState) :
    (∃ packet, ofFullState state = .ok packet ∧
      (∀ value ∈ state.motion ++ state.rates.toList, value.HasRoom) ∧ Carries packet state) ∨
    (∃ value, ofFullState state = .error (.valueOutOfRange .fullState value.widen) ∧
      FirstWithoutRoom state.motion value) ∨
    ∃ value, ofFullState state = .error (.valueOutOfRange .rate value.widen) ∧
      (∀ earlier ∈ state.motion, earlier.HasRoom) ∧ FirstWithoutRoom state.rates.toList value := by
  rw [ofFullState_eq]
  rcases allThousandths_cases .fullState state.motion with
    ⟨motion, written, moving, held⟩ | ⟨value, refused, first⟩
  · rcases allThousandths_cases .rate state.rates.toList with
      ⟨rates, turned, turning, kept⟩ | ⟨value, refused, first⟩
    · let payload := 6 :: (motion ++ littleEndian 4 state.attitude.compress.toNat ++ rates)
      let packet : Packet := ⟨7, 0, payload, by decide, by decide⟩
      have carries : Carries packet state := carries_of_parts rfl rfl held kept rfl
      have made : Packet.make 7 0 payload = .ok packet :=
        Packet.make_eq_ok_iff.mpr ⟨carries.length.le.trans (by decide), rfl, rfl, rfl⟩
      refine .inl ⟨packet, ?_, List.forall_mem_append.mpr ⟨moving, turning⟩, carries⟩
      rw [written, turned]
      exact made
    · refine .inr (.inr ⟨value, ?_, moving, first⟩)
      rw [written, refused]
      rfl
  · refine .inr (.inl ⟨value, ?_, first⟩)
    rw [refused]
    rfl

/-- A full state is sent exactly if all its values have room. Its packet holds each of them in its
place and can be encoded. Otherwise the first value without room is refused as it was given, the
rates being judged after all others. -/
theorem fullState_exact (crossedFrame : Bool) (state : FullState) :
    ((∃ packet, (fullState state).packet crossedFrame = .ok packet) ↔
      ∀ value ∈ state.motion ++ state.rates.toList, value.HasRoom) ∧
    (∀ packet, (fullState state).packet crossedFrame = .ok packet →
      Carries packet state ∧ packet.encode = .ok packet.frame ∧
        Packet.decode packet.frame = .ok packet) ∧
    ∀ error, (fullState state).packet crossedFrame = .error error →
      ∃ (field : Field) (value : Single), error = .valueOutOfRange field value.widen ∧
        value.widen.datum = value.datum ∧
        (field.name = "full state" ∧ FirstWithoutRoom state.motion value ∨
          field.name = "rate" ∧ (∀ earlier ∈ state.motion, earlier.HasRoom) ∧
            FirstWithoutRoom state.rates.toList value) := by
  change ((∃ packet, ofFullState state = .ok packet) ↔ _) ∧
    (∀ packet, ofFullState state = .ok packet → _) ∧ ∀ error, ofFullState state = .error error → _
  rcases ofFullState_cases state with
    ⟨packet, sent, room, carries⟩ | ⟨value, refused, first⟩ | ⟨value, refused, moving, first⟩
  · rw [sent]
    refine ⟨iff_of_true ⟨packet, rfl⟩ room, ?_, nofun⟩
    rintro _ ⟨⟩
    exact ⟨carries, Packet.encode_and_decode (carries.length.le.trans (by decide))⟩
  · rw [refused]
    refine ⟨iff_of_false nofun fun room => first.not_all ?_, nofun, ?_⟩
    · exact (List.forall_mem_append.mp room).1
    · rintro _ ⟨⟩
      exact ⟨.fullState, value, rfl, value.datum_widen, .inl ⟨rfl, first⟩⟩
  · rw [refused]
    refine ⟨iff_of_false nofun fun room => first.not_all ?_, nofun, ?_⟩
    · exact (List.forall_mem_append.mp room).2
    · rintro _ ⟨⟩
      exact ⟨.rate, value, rfl, value.datum_widen, .inr ⟨rfl, moving, first⟩⟩

/-- Values next to both limits, halves of a thousandth, and zeros. -/
def atLimits : FullState where
  position := ⟨⟨0x420311eb⟩, ⟨0xc20312f1⟩, ⟨0x3a03126f⟩⟩
  velocity := ⟨⟨0xba03126f⟩, ⟨0x80000000⟩, ⟨0x00000001⟩⟩
  acceleration := ⟨⟨0x3ac49ba6⟩, ⟨0x3f800000⟩, ⟨0xbfc00000⟩⟩
  attitude := ⟨⟨0x3f000000⟩, ⟨0xbf000000⟩, ⟨0x3f000000⟩, ⟨0x3f000000⟩⟩
  rates := ⟨⟨0x420311eb⟩, ⟨0xc20312f1⟩, ⟨0x3e800000⟩⟩

/-- The next float above the upper limit, and an undefined rate that is not reached. -/
def pastLimits : FullState :=
  { atLimits with
    acceleration := ⟨⟨0x3ac49ba6⟩, ⟨0x420311ec⟩, ⟨0xff800000⟩⟩
    rates := ⟨⟨0x7fc00000⟩, ⟨0x3e800000⟩, ⟨0x3e800000⟩⟩ }

theorem fullState_exact_limits :
    (∃ packet, (fullState atLimits).packet true = .ok packet ∧ Carries packet atLimits ∧
      (List.range 9).map (fun place => signedAt packet.payload (1 + 2 * place) 2) =
        [32767, -32768, 1, -1, 0, 0, 2, 1000, -1500] ∧
      (List.range 3).map (fun place => signedAt packet.payload (23 + 2 * place) 2) =
        [32767, -32768, 250]) ∧
    ∃ field value, (fullState pastLimits).packet false =
        .error (.valueOutOfRange field (Single.widen value)) ∧
      field.name = "full state" ∧ FirstWithoutRoom pastLimits.motion value := by
  constructor
  · let packet : Packet := ⟨7, 0, [6, 0xff, 0x7f, 0, 0x80, 1, 0, 0xff, 0xff, 0, 0, 0, 0, 2, 0,
      0xe8, 3, 0x24, 0xfa, 0x69, 0xa5, 0x95, 0x36, 0xff, 0x7f, 0, 0x80, 0xfa, 0], by decide,
      by decide⟩
    have made : (fullState atLimits).packet true = .ok packet := by decide +kernel
    have carries := ((fullState_exact true atLimits).2.1 packet made).1
    exact ⟨packet, made, carries, by decide, by decide⟩
  · have refused : (fullState pastLimits).packet false =
        .error (.valueOutOfRange .fullState (Single.widen ⟨0x420311ec⟩)) := by decide +kernel
    obtain ⟨field, value, same, _, ⟨named, first⟩ | ⟨named, moving, _⟩⟩ :=
      (fullState_exact false pastLimits).2.2 _ refused
    · exact ⟨field, value, refused.trans (congrArg Except.error same), named, first⟩
    · rw [← (PacketError.valueOutOfRange.inj same).1] at named
      exact absurd named (by decide)

end Setpoint

end VehicleLink
