import VehicleLink.Decimal.Positional

/-! Why a packet, a frame or a payload is refused. -/

namespace VehicleLink

/-- The group of setpoint fields that a value out of range belongs to. -/
inductive Field where
  | thrust
  | fullState
  | rate
  deriving DecidableEq, Repr

def Field.name : Field → String
  | .thrust => "thrust"
  | .fullState => "full state"
  | .rate => "rate"

inductive PacketError where
  | invalidPort (port : UInt8)
  | invalidChannel (channel : UInt8)
  | payloadTooLarge (length limit : Nat)
  | frameTooShort (length : Nat)
  | valueOutOfRange (field : Field) (value : Double)
  | malformed (reason : String)
  deriving DecidableEq, Repr

def PacketError.message : PacketError → String
  | .invalidPort port => s!"invalid port {port} (must be 0..=15)"
  | .invalidChannel channel => s!"invalid channel {channel} (must be 0..=3)"
  | .payloadTooLarge length limit => s!"payload too large: {length} bytes (max {limit})"
  | .frameTooShort length => s!"frame too short: {length} bytes"
  | .valueOutOfRange field value => s!"{field.name} out of range: {value.text}"
  | .malformed reason => s!"malformed payload: {reason}"

end VehicleLink
