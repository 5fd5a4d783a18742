/-! The life of a link: idle, connected or paused, and closed for good. -/

namespace VehicleLink

inductive Phase where
  | idle
  | connected
  | paused
  | closed
  deriving DecidableEq, Repr

/-- Why an operation is refused in the present phase of a link. -/
inductive PhaseError where
  | notConnected
  | alreadyConnected
  | alreadyOpen
  | closed
  deriving DecidableEq, Repr

def PhaseError.message : PhaseError → String
  | .notConnected => "link not connected"
  | .alreadyConnected => "link already connected"
  | .alreadyOpen => "link already open"
  | .closed => "link closed"

namespace Phase

def name : Phase → String
  | idle => "Idle"
  | connected => "Connected"
  | paused => "Paused"
  | closed => "Closed"

/-- Whether a socket is held. -/
def canSend : Phase → Bool
  | connected | paused => true
  | idle | closed => false

def isReceiving (phase : Phase) : Bool := phase = connected

/-- Only an idle link can be connected. -/
def checkConnect : Phase → Except PhaseError Unit
  | idle => .ok ()
  | connected | paused => .error .alreadyConnected
  | closed => .error .closed

/-- Every other operation needs the socket. -/
def checkOpen : Phase → Except PhaseError Unit
  | connected | paused => .ok ()
  | idle => .error .notConnected
  | closed => .error .closed

end Phase

end VehicleLink
