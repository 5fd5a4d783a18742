import VehicleLink.Signal
import VehicleLink.Localization

/-!
Routers: what hands a packet to every handler of its port. A subscription may ask for one channel
alone. Beside handlers in general there are listeners, which read the packets of the localization
port and call a signal of their own with the reports of those that are well formed.
-/

namespace VehicleLink

/-- A listener on the localization port. The serial tells apart the listeners of one name. -/
structure Listener where
  serial : Nat
  name : String
  deriving DecidableEq, Repr

inductive Handler where
  | named (name : String)
  | listener (listener : Listener)
  deriving DecidableEq, Repr

structure Subscription where
  port : UInt8
  channel : Option UInt8
  handler : Handler
  deriving DecidableEq, Repr

/-- Whether a packet is for a subscription. A subscription without a channel takes all. -/
def Subscription.accepts (subscription : Subscription) (packet : Packet) : Bool :=
  subscription.port = packet.port && subscription.channel.all (· = packet.channel)

abbrev Router := Registry Subscription

namespace Router

/-- The handlers of a packet, in the order of their subscriptions. -/
def handlers (router : Router) (packet : Packet) : List Handler :=
  (router.entries.filter (·.accepts packet)).map (·.handler)

/-- The number of subscriptions on a port, those for one channel included. -/
def handlerCount (router : Router) (port : UInt8) : Nat := router.count (·.port = port)

def describe (router : Router) : String :=
  s!"PortRouter \x7b subscriptions: {router.size} \x7d"

/-- Whom something is handed to: a handler, or a callback at the signal of a listener. -/
inductive Recipient where
  | handler (handler : Handler)
  | callback (listener : Listener) (name : String)
  deriving DecidableEq, Repr

/-- What is handed to them. -/
inductive Message where
  | packet (packet : Packet)
  | report (report : Localization.Report)
  deriving DecidableEq, Repr

/-- A router with the listeners made so far, the latest first, and the signal of each. -/
structure Desk where
  router : Router
  listeners : List Listener
  received : Listener → Signal

def Desk.empty : Desk := ⟨.empty, [], fun _ => .empty⟩

inductive Request where
  | register (port : UInt8) (channel : Option UInt8) (handler : String)
  | unregister (port : UInt8) (channel : Option UInt8) (handler : String)
  /-- Hands a packet to its handlers. -/
  | route (packet : Packet)
  /-- Reads a frame and hands its packet to the handlers. -/
  | dispatch (frame : List UInt8)
  | count (port : UInt8)
  | describe
  | attach (listener : String)
  | detach (listener : String)
  /-- Asks something of the signal of the latest listener of a name. -/
  | signal (listener : String) (request : Signal.Request Localization.Report)
  /-- What a listener asks for: calls its signal. -/
  | emit (listener : Listener) (report : Localization.Report)
  deriving DecidableEq, Repr

inductive Answer where
  | done
  | completed (handlers : Nat)
  | refused (error : PacketError)
  | count (handlers : Nat)
  | text (text : String)
  | signal (answer : Signal.Answer)
  deriving DecidableEq, Repr

/-- The subscription of a listener. -/
def listening (listener : Listener) : Subscription :=
  ⟨Service.localization.port, none, .listener listener⟩

/-- A new listener under a name; earlier ones of that name stay subscribed. -/
def Desk.attach (desk : Desk) (name : String) : Desk :=
  let listener : Listener := ⟨desk.listeners.length, name⟩
  { desk with
    router := desk.router.insert (listening listener)
    listeners := listener :: desk.listeners }

/-- Unsubscribes the latest listener of a name. -/
def Desk.detach (desk : Desk) (name : String) : Desk :=
  match desk.listeners.find? (·.name = name) with
  | some listener => { desk with router := desk.router.remove (listening listener) }
  | none => desk

/-- Asks something of the signal of a listener. -/
def Desk.ask (desk : Desk) (listener : Listener) (request : Signal.Request Localization.Report) :
    Effect Desk Recipient Message Answer :=
  match Signal.effect request (desk.received listener) with
  | .reply answer signal =>
      .reply (.signal answer) { desk with
        received := fun other => if other = listener then signal else desk.received other }
  | .deliver callbacks report answer =>
      .deliver (callbacks.map (.callback listener)) (.report report) fun count =>
        .signal (answer count)

/-- Hands a packet to its handlers. -/
def Desk.route (desk : Desk) (packet : Packet) : Effect Desk Recipient Message Answer :=
  .deliver ((handlers desk.router packet).map .handler) (.packet packet) .completed

def effect (request : Request) (desk : Desk) : Effect Desk Recipient Message Answer :=
  match request with
  | .register port channel handler =>
      .reply .done { desk with router := desk.router.insert ⟨port, channel, .named handler⟩ }
  | .unregister port channel handler =>
      .reply .done { desk with router := desk.router.remove ⟨port, channel, .named handler⟩ }
  | .route packet => desk.route packet
  | .dispatch frame =>
      match Packet.decode frame with
      | .ok packet => desk.route packet
      | .error error => .reply (.refused error) desk
  | .count port => .reply (.count (handlerCount desk.router port)) desk
  | .describe => .reply (.text (Router.describe desk.router)) desk
  | .attach listener => .reply .done (desk.attach listener)
  | .detach listener => .reply .done (desk.detach listener)
  | .signal name request =>
      match desk.listeners.find? (·.name = name) with
      | some listener => desk.ask listener request
      | none => .reply (.signal .done) desk
  | .emit listener report => desk.ask listener (.call report)

/-- How a listener takes a packet: it calls its signal if the packet is well formed, and completes
once that is done. -/
def listen (listener : Listener) (packet : Packet) : Conduct Request Answer where
  reaction :=
    match Localization.Report.parse packet with
    | .ok report => .ask (.emit listener report) fun answer => .finish (answer = .signal .done)
    | .error _ => .finish true
  completesBare := true

/-- How handlers and callbacks behave, by what has happened until they are invoked. -/
structure Behaviour where
  handle : List (Happening Request Recipient Message Answer) → String → Packet →
    Conduct Request Answer
  receive : List (Happening Request Recipient Message Answer) → Listener → String →
    Localization.Report → Conduct Request Answer

/-- A router whose handlers and callbacks each behave by a reaction of their own. Handlers take
packets, and callbacks take reports. -/
def exchange (behaviour : Behaviour) : Exchange Desk Request Answer Recipient Message where
  effect := effect
  conduct
    | trace, .handler (.named name), .packet packet => behaviour.handle trace name packet
    | _, .handler (.listener listener), .packet packet => listen listener packet
    | trace, .callback listener name, .report report =>
        behaviour.receive trace listener name report
    | _, .handler _, .report _ | _, .callback .., .packet _ => .scripted [] true

end Router

end VehicleLink
