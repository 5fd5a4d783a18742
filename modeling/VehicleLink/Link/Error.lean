import VehicleLink.Link.Phase
import VehicleLink.Packet.Error

/-! What can go wrong on a link, at a bridge, and above both. -/

namespace VehicleLink

inductive TransportError where
  | packet (cause : PacketError)
  | io (reason : String)
  | invalidAddress (text : String)
  | bindExhausted (base : UInt16) (attempts : UInt32)
  | connectionTimeout
  | phase (cause : PhaseError)
  deriving DecidableEq, Repr

namespace TransportError

def message : TransportError → String
  | packet cause => s!"protocol error: {cause.message}"
  | io reason => s!"i/o error: {reason}"
  | invalidAddress text => s!"not an IP address: {text}"
  | bindExhausted base attempts => s!"no free local port in {base}..+{attempts}"
  | connectionTimeout => "Connection timeout!"
  | phase cause => cause.message

def isTimeout : TransportError → Bool
  | connectionTimeout => true
  | _ => false

/-- Whether the link is of no more use. -/
def isFatal : TransportError → Bool
  | bindExhausted .. | invalidAddress _ | phase .closed => true
  | _ => false

end TransportError

inductive BridgeError where
  | linkOpen (uri reason : String)
  | logConfig (reason : String)
  deriving DecidableEq, Repr

def BridgeError.message : BridgeError → String
  | .linkOpen uri reason => s!"failed to open link to {uri}: {reason}"
  | .logConfig reason => s!"log configuration rejected: {reason}"

/-- An error of any layer. -/
inductive LinkError where
  | packet (cause : PacketError)
  | phase (cause : PhaseError)
  | bridge (cause : BridgeError)
  | transport (cause : TransportError)
  | io (reason : String)
  deriving DecidableEq, Repr

def LinkError.message : LinkError → String
  | .packet cause => s!"protocol error: {cause.message}"
  | .phase cause => s!"link state error: {cause.message}"
  | .bridge cause => s!"bridge error: {cause.message}"
  | .transport cause => s!"transport error: {cause.message}"
  | .io reason => s!"i/o error: {reason}"

end VehicleLink
