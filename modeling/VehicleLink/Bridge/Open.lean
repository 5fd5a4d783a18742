import VehicleLink.Bridge.Station

/-! Opening and closing the link through a bridge that waits for the outcome. -/

namespace VehicleLink.Bridge.Station

/-- The reason of an attempt that nobody can decide any more. -/
def closedWhileOpening : String := "link closed while opening"

/-- Opens the link and waits for the first event that decides. An open bridge is refused without a
call. There is no result if the driver never reports such an event: the caller waits for ever. -/
def openLink (station : Station) (number : Nat) : Option (Station × Except LinkError Unit) :=
  let bridge := station.bridge number
  if bridge.isOpen then some (station, .error (.phase .alreadyOpen))
  else
    let waiting := station.updateBridge number ({ · with attempt := .waiting })
    let subscribed := waiting.subscribeBridge number
    let called := (subscribed.call (.openLink number bridge.uri)).fireAll subscribed.onOpen
    let settled := called.updateBridge number ({ · with attempt := .none })
    let refuse (reason : String) :=
      some (settled.unsubscribeBridge number, .error (.bridge (.linkOpen bridge.uri reason)))
    match (called.bridge number).attempt with
    | .waiting => none
    | .decided (.ok ()) => some (settled.updateBridge number ({ · with isOpen := true }), .ok ())
    | .decided (.error reason) => refuse reason
    | .none => refuse closedWhileOpening

/-- Closes the link, also one that was never opened. -/
def closeLink (station : Station) (number : Nat) : Station :=
  (station.call (.closeLink number)).fireAll station.onClose
    |>.unsubscribeBridge number
    |>.updateBridge number ({ · with attempt := .none, isOpen := false })

/-- Gives up a bridge; an open one closes the link. -/
def dropBridge (station : Station) (number : Nat) : Station :=
  if (station.bridge number).isOpen then station.closeLink number
  else station.unsubscribeBridge number

end VehicleLink.Bridge.Station
