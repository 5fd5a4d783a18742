/-! How a link is set up. -/

namespace VehicleLink

structure Settings where
  /-- The port of the peer. -/
  remotePort : UInt16
  /-- The first local port that is tried. -/
  localPortBase : UInt16
  /-- How many local ports are tried. -/
  maxBindAttempts : UInt32
  /-- Milliseconds without a datagram after which a timeout is reported. -/
  readTimeout : Nat
  /-- Datagrams without an application send after which each one is answered by a keep-alive. -/
  keepAliveThreshold : UInt32
  /-- The bytes of a datagram that are read. -/
  receiveBufferSize : Nat
  deriving DecidableEq, Repr

namespace Settings

def standard : Settings where
  remotePort := 2390
  localPortBase := 2390
  maxBindAttempts := 1000
  readTimeout := 5000
  keepAliveThreshold := 20
  receiveBufferSize := 1024

/-- One setting and its value. -/
inductive Change where
  | remotePort (port : UInt16)
  | localPortBase (port : UInt16)
  | maxBindAttempts (attempts : UInt32)
  | readTimeout (milliseconds : Nat)
  | keepAliveThreshold (datagrams : UInt32)
  | receiveBufferSize (bytes : Nat)
  deriving DecidableEq, Repr

def change (settings : Settings) : Change → Settings
  | .remotePort port => { settings with remotePort := port }
  | .localPortBase port => { settings with localPortBase := port }
  | .maxBindAttempts attempts => { settings with maxBindAttempts := attempts }
  | .readTimeout milliseconds => { settings with readTimeout := milliseconds }
  | .keepAliveThreshold datagrams => { settings with keepAliveThreshold := datagrams }
  | .receiveBufferSize bytes => { settings with receiveBufferSize := bytes }

/-- The standard settings after several changes; the last change of a setting counts. -/
def ofChanges (changes : List Change) : Settings := changes.foldl change standard

end Settings

end VehicleLink
