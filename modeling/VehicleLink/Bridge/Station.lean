import VehicleLink.Registry
import VehicleLink.Link.Error

/-!
A ground station: one driver with its three event sources, named log blocks, and the bridges that
wait for its events. A link bridge opens the link and waits for the first event that decides; a log
stream queues the samples of one block for a reader. Every subscription of a bridge is a session of
its own, so an old callback is never taken for a new one.
-/

namespace VehicleLink.Bridge

/-- A callback of a bridge: which bridge, and which of its subscriptions. -/
inductive Subscriber where
  | link (bridge session : Nat)
  | stream (stream session : Nat)
  deriving DecidableEq, Repr

/-- What the driver reports. -/
inductive Event where
  | connected
  | failed (reason : String)
  | disconnected
  | sample (block : String) (timestamp : Nat) (values : List (String × Double))
  deriving DecidableEq, Repr

/-- A sample as a reader gets it. -/
structure Entry where
  timestamp : Nat
  values : List (String × Double)
  config : String
  deriving DecidableEq, Repr

/-- A log block, and what the driver will report while it is started, stopped and deleted the next
time. -/
structure Block where
  name : String
  receivers : Registry Subscriber
  onStart : List Event
  onStop : List Event
  onDelete : List Event
  deriving DecidableEq, Repr

def Block.reporting (block : Block) (onStart onStop onDelete : List Event) : Block :=
  { block with onStart, onStop, onDelete }

/-- How far an attempt to open the link has come. -/
inductive Attempt where
  | none
  | waiting
  | decided (outcome : Except String Unit)

structure LinkBridge where
  uri : String
  isOpen : Bool
  attempt : Attempt
  /-- The number of subscriptions made so far. -/
  sessions : Nat
  /-- The subscription that is held. -/
  lifecycle : Option Nat

def LinkBridge.new (uri : String) : LinkBridge := ⟨uri, false, .none, 0, none⟩

/-- Only the first report decides an attempt, and outside an attempt none does. -/
def LinkBridge.decide (outcome : Except String Unit) (bridge : LinkBridge) : LinkBridge :=
  match bridge.attempt with
  | .waiting => { bridge with attempt := .decided outcome }
  | .none | .decided _ => bridge

structure LogStream where
  block : Nat
  isConnected : Bool
  /-- Whether samples still reach the queue. -/
  accepting : Bool
  queue : List Entry
  /-- The number of subscriptions made so far. -/
  sessions : Nat
  /-- The subscription that is held. -/
  subscription : Option Nat

def LogStream.new (block : Nat) : LogStream := ⟨block, false, false, [], 0, none⟩

/-- A call that the driver receives, and from which bridge. -/
inductive Call where
  | openLink (bridge : Nat) (uri : String)
  | closeLink (bridge : Nat)
  | addConfig (stream : Nat) (block : String)
  | start (stream : Nat) (block : String)
  | stop (stream : Nat) (block : String)
  | delete (stream : Nat) (block : String)
  deriving DecidableEq, Repr

/-- What happens at the driver: it is called, or it reports. A sample is reported by the block that
has its name at that moment. -/
inductive Incident where
  | called (call : Call)
  | connected
  | failed (reason : String)
  | disconnected
  | sampled (block : Nat) (entry : Entry)
  deriving DecidableEq, Repr

structure Station where
  connected : Registry Subscriber
  failed : Registry Subscriber
  disconnected : Registry Subscriber
  bridges : List LinkBridge
  streams : List LogStream
  blocks : List Block
  /-- The block of each name. -/
  blockNames : List (String × Nat)
  /-- What the driver reports while it opens and while it closes the link. -/
  onOpen : List Event
  onClose : List Event
  /-- Why log configurations are rejected at present. -/
  rejection : Option String
  /-- What has happened at the driver so far, the latest first. -/
  history : List Incident

namespace Station

def empty : Station where
  connected := .empty
  failed := .empty
  disconnected := .empty
  bridges := []
  streams := []
  blocks := []
  blockNames := []
  onOpen := []
  onClose := []
  rejection := none
  history := []

def bridge (station : Station) (number : Nat) : LinkBridge :=
  station.bridges[number]?.getD (.new "")

def stream (station : Station) (number : Nat) : LogStream :=
  station.streams[number]?.getD (.new 0)

def block (station : Station) (number : Nat) : Block :=
  station.blocks[number]?.getD ⟨"", .empty, [], [], []⟩

def updateBridge (station : Station) (number : Nat) (change : LinkBridge → LinkBridge) : Station :=
  { station with bridges := station.bridges.modify number change }

def updateStream (station : Station) (number : Nat) (change : LogStream → LogStream) : Station :=
  { station with streams := station.streams.modify number change }

def updateBlock (station : Station) (number : Nat) (change : Block → Block) : Station :=
  { station with blocks := station.blocks.modify number change }

def record (station : Station) (incident : Incident) : Station :=
  { station with history := incident :: station.history }

def call (station : Station) (call : Call) : Station := station.record (.called call)

/-! ### Subscriptions -/

/-- Gives up the subscription of a link bridge, if it holds one. -/
def unsubscribeBridge (station : Station) (number : Nat) : Station :=
  match (station.bridge number).lifecycle with
  | none => station
  | some session =>
      let subscriber := Subscriber.link number session
      { station with
        connected := station.connected.remove subscriber
        failed := station.failed.remove subscriber
        disconnected := station.disconnected.remove subscriber }
        |>.updateBridge number ({ · with lifecycle := none })

/-- Subscribes a link bridge to all three events, in place of any earlier subscription. -/
def subscribeBridge (station : Station) (number : Nat) : Station :=
  let station := station.unsubscribeBridge number
  let session := (station.bridge number).sessions
  let subscriber := Subscriber.link number session
  { station with
    connected := station.connected.insert subscriber
    failed := station.failed.insert subscriber
    disconnected := station.disconnected.insert subscriber }
    |>.updateBridge number ({ · with sessions := session + 1, lifecycle := some session })

/-- Gives up the subscription of a log stream, if it holds one, and its queue. -/
def releaseStream (station : Station) (number : Nat) : Station :=
  let stream := station.stream number
  let freed := match stream.subscription with
    | none => station
    | some session =>
        let subscriber := Subscriber.stream number session
        { station with disconnected := station.disconnected.remove subscriber }
          |>.updateBlock stream.block fun block =>
            { block with receivers := block.receivers.remove subscriber }
  freed.updateStream number
    ({ · with subscription := none, accepting := false, queue := [] })

/-- Subscribes a log stream to its block and to the loss of the link, with an empty queue. -/
def subscribeStream (station : Station) (number : Nat) : Station :=
  let stream := station.stream number
  let session := stream.sessions
  let subscriber := Subscriber.stream number session
  { station with disconnected := station.disconnected.insert subscriber }
    |>.updateBlock stream.block (fun block =>
      { block with receivers := block.receivers.insert subscriber })
    |>.updateStream number ({ · with
      sessions := session + 1, subscription := some session, accepting := true, queue := [] })

/-! ### Events -/

/-- The reason of an attempt that ends in the loss of the link. -/
def lostWhileOpening : String := "link disconnected while opening"

def decideAttempt (outcome : Except String Unit) (station : Station) : Subscriber → Station
  | .link number _ => station.updateBridge number (.decide outcome)
  | .stream .. => station

/-- A lost link ends an attempt, closes its bridge and takes away the subscription of the bridge.
A log stream stops accepting samples and keeps its subscription. -/
def loseLink (station : Station) : Subscriber → Station
  | .link number _ =>
      station.updateBridge number (fun bridge =>
          { bridge with isOpen := false }.decide (.error lostWhileOpening))
        |>.unsubscribeBridge number
  | .stream number _ =>
      station.updateStream number ({ · with isConnected := false, accepting := false })

def queueSample (entry : Entry) (station : Station) : Subscriber → Station
  | .link .. => station
  | .stream number _ => station.updateStream number fun stream =>
      if stream.accepting then { stream with queue := stream.queue ++ [entry] } else stream

/-- Calls the subscribers that an event has when it is reported. -/
def fire (station : Station) : Event → Station
  | .connected =>
      station.connected.entries.foldl (decideAttempt (.ok ())) (station.record .connected)
  | .failed reason =>
      station.failed.entries.foldl (decideAttempt (.error reason)) (station.record (.failed reason))
  | .disconnected => station.disconnected.entries.foldl loseLink (station.record .disconnected)
  | .sample name timestamp values =>
      match station.blockNames.lookup name with
      | none => station
      | some number =>
          let block := station.block number
          let entry : Entry := ⟨timestamp, values, block.name⟩
          block.receivers.entries.foldl (queueSample entry) (station.record (.sampled number entry))

def fireAll (station : Station) (events : List Event) : Station := events.foldl fire station

end Station

end VehicleLink.Bridge
