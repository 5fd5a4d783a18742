import VehicleLink.Link.Session
import VehicleLink.Router

/-!
A link together with its peer and a router: what happens when an application and a peer act in
turn. The network takes whatever is written to it. Every act comes to an answer, to the datagrams
that reach the peer and to the timeouts that are reported.
-/

namespace VehicleLink

namespace Session

/-- Receives one packet and routes it. There is no result if the receiver waits for ever. -/
def dispatchNext {α : Type} (session : Session) (wait : Wait) (route : Packet → α → α) (course : α) :
    Option (Session × α × Bool) :=
  match session.receive wait with
  | none => none
  | some (after, none) => some (after, course, false)
  | some (after, some packet) => some (after, route packet course, true)

end Session

namespace Link

/-- A handler on the router of a scenario. -/
structure Route where
  name : String
  port : UInt8
  channel : Option UInt8
  fails : Bool
  deriving DecidableEq, Repr

/-- What can happen while a receiver waits. -/
inductive Interruption where
  | peerSend (datagram : List UInt8)
  | pause
  | close
  deriving DecidableEq, Repr

inductive Act where
  | connect (address : String)
  | send (packet : Except PacketError Packet)
  | make (packet : Except PacketError Packet)
  | peerSend (datagram : List UInt8)
  /-- Several datagrams, the number of each added to its second byte. -/
  | peerSendMany (datagram : List UInt8) (count : Nat)
  | receive (wait : Wait)
  | receiveAll
  | receiveWhile (wait : Wait) (interruption : Interruption)
  | dispatchNext (wait : Wait)
  | sleep (milliseconds : Nat)
  | pause
  | restart
  | close
  | name
  | scan (address : String)
  | addresses
  /-- The text of the link with these texts for the ports. -/
  | describe (peerPort localPort : String)
  /-- The peer goes away; what is sent to it from then on is lost. -/
  | peerLeaves
  /-- The link is given up. -/
  | drop

inductive Answer where
  | done
  | outcome (outcome : Except TransportError Unit)
  | made (packet : Except PacketError Packet)
  /-- Whether a datagram found a socket. -/
  | arrived (arrived : Bool)
  | packet (packet : Option Packet)
  | packets (packets : List Packet)
  | interrupted (received : Option Packet) (interruption : Answer)
  | dispatched (dispatched : Bool) (calls : List (String × Packet))
  | text (text : String)
  | candidates (candidates : List (String × String))
  | addresses (source peer : Option Address) (peerPort : Option UInt16)

/-- Why an act has no answer. -/
inductive Stuck where
  | waits (operation : String)
  | dropped
  deriving DecidableEq, Repr

def Stuck.message : Stuck → String
  | .waits operation => s!"{operation} would block for ever"
  | .dropped => "the link has been dropped"

structure Scenario where
  session : Session
  routes : List Route
  reporting : Bool
  peerPresent : Bool
  dropped : Bool

namespace Scenario

/-- The handler of the route in a place. Two routes are two handlers even if they look the same. -/
def handlerName (place : Nat) : String := toString place

def routeNamed? (routes : List Route) (name : String) : Option Route :=
  (routes.zipIdx.find? fun (_, place) => handlerName place = name).map (·.1)

/-- The subscriptions of the routes in order. -/
def router (routes : List Route) : Router :=
  (routes.zipIdx.map fun (route, place) =>
    (⟨route.port, route.channel, .named (handlerName place)⟩ : Subscription)).foldl .insert .empty

/-- The handlers of routes ask for nothing, and some of them fail. -/
def behaviour (routes : List Route) : Router.Behaviour where
  handle _ name _ := .scripted [] (!(routeNamed? routes name).any (·.fails))
  receive _ _ _ _ := .scripted [] true

/-- The calls of the routes that a packet is for. -/
def calls (routes : List Route) (packet : Packet) : List (String × Packet) :=
  let desk := { Router.Desk.empty with router := router routes }
  let (course, _) :=
    (Router.exchange (behaviour routes)).handle 0 0 (.route packet) ⟨desk, []⟩
  course.trace.reverse.filterMap fun
    | .invoked _ (.handler (.named name)) (.packet packet) =>
        (routeNamed? routes name).map fun route => (route.name, packet)
    | _ => none

def withSession (scenario : Scenario) (session : Session) : Scenario := { scenario with session }

/-- Whether what the peer sends finds a socket. -/
def reaches (scenario : Scenario) : Bool :=
  scenario.peerPresent && scenario.session.socket.isSome

def peerSend (scenario : Scenario) (datagram : List UInt8) : Scenario × Bool :=
  if scenario.reaches then
    (scenario.withSession (scenario.session.arrive datagram).catchUp, true)
  else (scenario, false)

/-- Adds a number to the second byte of a datagram, if it has one. -/
def numbered (datagram : List UInt8) (number : Nat) : List UInt8 :=
  datagram.modify 1 (· + UInt8.ofNat number)

def peerSendMany (scenario : Scenario) (datagram : List UInt8) (count : Nat) : Scenario :=
  if scenario.reaches then
    (List.range count).foldl
      (fun scenario number => (scenario.peerSend (numbered datagram number)).1) scenario
  else scenario

def interrupt (scenario : Scenario) : Interruption → Scenario × Answer
  | .peerSend datagram =>
      let (after, arrived) := scenario.peerSend datagram
      (after, .arrived arrived)
  | .pause =>
      let (session, outcome) := scenario.session.pause false (.ok ())
      (scenario.withSession session, .outcome outcome)
  | .close =>
      let (session, outcome) := scenario.session.close false (.ok ())
      (scenario.withSession session, .outcome outcome)

/-- Whether an act can only be performed on a link. What cannot be made into a packet is never sent,
and a link that is given up can be given up again. -/
def needsLink : Act → Bool
  | .send (.error _) | .make _ | .peerSend _ | .peerSendMany .. | .sleep _ | .peerLeaves | .drop =>
      false
  | _ => true

def perform (scenario : Scenario) (act : Act) : Except Stuck (Scenario × Answer) :=
  let session := scenario.session
  let settle (result : Session × Except TransportError Unit) : Except Stuck (Scenario × Answer) :=
    .ok (scenario.withSession result.1.catchUp, .outcome result.2)
  if scenario.dropped && needsLink act then .error .dropped
  else match act with
  | .connect address => settle (session.connect address scenario.reporting (.ok ()))
  | .send (.error error) => .ok (scenario, .made (.error error))
  | .send (.ok packet) => settle (session.send packet (.ok ()))
  | .make packet => .ok (scenario, .made packet)
  | .peerSend datagram =>
      let (after, arrived) := scenario.peerSend datagram
      .ok (after, .arrived arrived)
  | .peerSendMany datagram count => .ok (scenario.peerSendMany datagram count, .arrived true)
  | .receive wait =>
      match session.receive wait with
      | some (after, packet) => .ok (scenario.withSession after, .packet packet)
      | none => .error (.waits "receive")
  | .receiveAll =>
      let (after, packets) := session.receiveAll
      .ok (scenario.withSession after, .packets packets)
  | .receiveWhile wait interruption =>
      if session.waits wait then
        let (interrupted, answer) := scenario.interrupt interruption
        match interrupted.session.receive wait with
        | some (after, packet) =>
            .ok (interrupted.withSession after, .interrupted packet answer)
        | none => .error (.waits "receive")
      else
        match session.receive wait with
        | some (after, packet) =>
            let (interrupted, answer) := (scenario.withSession after).interrupt interruption
            .ok (interrupted, .interrupted packet answer)
        | none => .error (.waits "receive")
  | .dispatchNext wait =>
      match session.dispatchNext wait (fun packet _ => calls scenario.routes packet) [] with
      | some (after, calls, dispatched) =>
          .ok (scenario.withSession after, .dispatched dispatched calls)
      | none => .error (.waits "dispatch_next")
  | .sleep milliseconds =>
      .ok (scenario.withSession (session.elapse (session.clock + milliseconds)), .done)
  | .pause => settle (session.pause false (.ok ()))
  | .restart => settle (session.restart (.ok ()))
  | .close => settle (session.close false (.ok ()))
  | .name => .ok (scenario, .text Session.name)
  | .scan address => .ok (scenario, .candidates (Session.scan address))
  | .addresses =>
      .ok (scenario, .addresses (session.socket.map (·.address)) (session.peer.map (·.address))
        (session.peer.map (·.port)))
  | .describe peerPort localPort => .ok (scenario, .text (session.describe peerPort localPort))
  | .peerLeaves => .ok ({ scenario with peerPresent := false }, .done)
  | .drop =>
      let stopped := { session.stopReader false (.ok ()) with socket := none }
      .ok ({ scenario with session := stopped, dropped := true }, .done)

/-- What an act comes to: its answer, the datagrams that reached the peer, the instants at which a
timeout was reported, and the scenario after it. -/
structure Reply where
  answer : Answer
  received : List (List UInt8)
  reports : List Nat
  scenario : Scenario

/-- The instants after one session and until another at which silence is reported. A reader that is
due when an act ends reports before the next one. -/
def reports (before after : Session) : List Nat :=
  let past := (after.since before).filterMap fun (instant, incident) =>
    if incident = .silent ∧ before.clock < instant then some instant else none
  let isDue := before.clock < after.clock ∧ after.reporting ∧ after.silentAt = some after.clock
  if isDue then past ++ [after.clock] else past

def reply (before after : Scenario) (answer : Answer) : Reply :=
  let incidents := after.session.since before.session
  { answer
    received :=
      if before.peerPresent then incidents.filterMap fun (_, incident) => incident.transmission?
      else []
    reports := reports before.session after.session
    scenario := after }

/-- Performs acts one after the other; one that has no answer ends them all. -/
def run : List Act → Scenario → Except Stuck (List Reply)
  | [], _ => .ok []
  | act :: rest, scenario => do
      let (after, answer) ← scenario.perform act
      return reply scenario after answer :: (← run rest after)

end Scenario

end Link

end VehicleLink
