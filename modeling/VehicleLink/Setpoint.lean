import VehicleLink.Packet.Service
import VehicleLink.Quaternion
import VehicleLink.Word

/-!
Setpoints and the packets that carry them. Attitude setpoints have a port of their own; all others
share the generic port, where a kind byte comes first. Floats travel as their words, the elements
of a full state as thousandths in two bytes.
-/

namespace VehicleLink

/-- Three numbers along the axes of a frame. -/
structure Axes where
  x : Single
  y : Single
  z : Single
  deriving DecidableEq, Repr

def Axes.toList (v : Axes) : List Single := [v.x, v.y, v.z]

structure FullState where
  position : Axes
  velocity : Axes
  acceleration : Axes
  attitude : Quaternion
  rates : Axes
  deriving DecidableEq, Repr

/-- At rest in the origin, with an attitude of all zeros. -/
def FullState.zero : FullState :=
  let origin : Axes := ⟨.zero, .zero, .zero⟩
  ⟨origin, origin, origin, ⟨.zero, .zero, .zero, .zero⟩, origin⟩

inductive Setpoint where
  | attitude (roll pitch yaw : Single) (thrust : UInt32)
  | stop
  | velocityWorld (vx vy vz yawRate : Single)
  | height (roll pitch yawRate z : Single)
  | hover (vx vy yawRate z : Single)
  | position (x y z yaw : Single)
  | fullState (state : FullState)
  deriving DecidableEq, Repr

namespace Setpoint

def maxThrust : Nat := 65535

/-- The share of roll and pitch that each arm of a crossed frame takes. -/
def armShare : Single := ⟨0x3f34fdf4⟩

/-- Roll and pitch turned from the arms of a crossed frame to its axes. -/
def crossed (roll pitch : Single) : Single × Single :=
  (armShare * (roll - pitch), armShare * (roll + pitch))

def floats (values : List Single) : List UInt8 := values.flatMap Single.bytes

def thousand : Single := ⟨0x447a0000⟩

/-- A value in thousandths. What does not fit into two bytes with a sign is refused. -/
def thousandths (field : Field) (value : Single) : Except PacketError Int :=
  let refused := .error (.valueOutOfRange field value.widen)
  match (value * thousand).datum with
  | .finite negative magnitude =>
      let count := roundHalfAway (Binary.Datum.finite negative magnitude).value
      if -32768 ≤ count ∧ count ≤ 32767 then .ok count else refused
  | _ => refused

/-- Several values in thousandths; the first that does not fit decides. -/
def allThousandths (field : Field) (values : List Single) : Except PacketError (List UInt8) :=
  match values with
  | [] => .ok []
  | value :: rest => do
      let count ← thousandths field value
      let tail ← allThousandths field rest
      return littleEndianSigned 2 count ++ tail

/-- A packet on the generic port. -/
def generic (kind : UInt8) (body : List UInt8) : Except PacketError Packet :=
  Packet.make Service.commanderGeneric.port 0 (kind :: body)

def ofFullState (state : FullState) : Except PacketError Packet := do
  let motion ← allThousandths .fullState
    (state.position.toList ++ state.velocity.toList ++ state.acceleration.toList)
  let attitude := littleEndian 4 state.attitude.compress.toNat
  let rates ← allThousandths .rate state.rates.toList
  generic 6 (motion ++ attitude ++ rates)

/-- The packet of a setpoint. Pitch is sent with its sign turned; a crossed frame concerns attitude
setpoints alone. -/
def packet (crossedFrame : Bool) : Setpoint → Except PacketError Packet
  | attitude roll pitch yaw thrust =>
      if thrust.toNat ≤ maxThrust then
        let (roll, pitch) := if crossedFrame then crossed roll pitch else (roll, pitch)
        Packet.make Service.commander.port 0
          (floats [roll, -pitch, yaw] ++ littleEndian 2 thrust.toNat)
      else .error (.valueOutOfRange .thrust (Double.ofNat thrust.toNat))
  | stop => generic 0 []
  | velocityWorld vx vy vz yawRate => generic 1 (floats [vx, vy, vz, yawRate])
  | height roll pitch yawRate z => generic 2 (floats [roll, pitch, yawRate, z])
  | hover vx vy yawRate z => generic 5 (floats [vx, vy, yawRate, z])
  | position x y z yaw => generic 7 (floats [x, y, z, yaw])
  | fullState state => ofFullState state

end Setpoint

end VehicleLink
