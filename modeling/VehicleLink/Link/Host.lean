import VehicleLink.Link.Address

/-! The machine that a link runs on: its local ports and its routes. -/

namespace VehicleLink

structure Host where
  /-- The local ports that are in use. -/
  taken : List UInt16
  /-- The local address from which a peer is reached, or why it is not. -/
  route : Address → Except String Address

namespace Host

/-- A machine whose interfaces are all down: no peer is reached from it, itself included. What it
lacks is a route to four octets, an interface where the address needs one, and else an address of
its own. -/
def isolated (taken : List UInt16) : Host where
  taken
  route peer := .error <|
    if peer.isOctets then "Network is unreachable (os error 101)"
    else if peer.needsInterface then "Invalid argument (os error 22)"
    else "Cannot assign requested address (os error 99)"

/-- Whether a port can be bound. Port zero leaves the choice to the host. -/
def isFree (host : Host) (port : UInt16) : Bool := port = 0 || !host.taken.contains port

/-- The ports that are tried in a number of attempts, none of them past the last port. -/
def candidates (base : UInt16) (attempts : UInt32) : List UInt16 :=
  (List.range (min attempts.toNat (65536 - base.toNat))).map (base + UInt16.ofNat ·)

/-- Tries ports in turn up to the first that can be bound: the ports tried and the port bound. -/
def bindFirst (host : Host) : List UInt16 → List UInt16 × Option UInt16
  | [] => ([], none)
  | port :: rest =>
      if host.isFree port then ([port], some port)
      else
        let (tried, bound) := bindFirst host rest
        (port :: tried, bound)

def bind (host : Host) (base : UInt16) (attempts : UInt32) : List UInt16 × Option UInt16 :=
  host.bindFirst (candidates base attempts)

end Host

end VehicleLink
