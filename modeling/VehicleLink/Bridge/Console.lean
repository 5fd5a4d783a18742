import VehicleLink.Bridge.Open
import VehicleLink.Bridge.Stream
import VehicleLink.Text.Quoted

/-! A console: bridges and blocks of one station by name, and the commands that work on them. -/

namespace VehicleLink.Bridge

inductive Command where
  /-- What the driver will report while it opens the link. -/
  | onOpen (events : List Event)
  /-- What the driver will report while it closes the link. -/
  | onClose (events : List Event)
  /-- Why log configurations will be rejected; nothing accepts them again. -/
  | reject (reason : Option String)
  | fire (event : Event)
  /-- A new block. One of that name lives on in the streams that hold it. -/
  | block (name title : String) (onStart onStop onDelete : List Event)
  /-- What the driver will report from now on while it starts, stops and deletes a block. The blocks
  are counted as they were added, so that one without a name can be meant. -/
  | onBlock (number : Nat) (onStart onStop onDelete : List Event)
  /-- A new link bridge. One of that name is given up afterwards. -/
  | link (name uri : String)
  | openLink (name : String)
  | closeLink (name : String)
  | uri (name : String)
  | describeLink (name : String)
  | dropLink (name : String)
  /-- A new log stream on a block. One of that name is given up afterwards. -/
  | stream (name block : String)
  | connect (name : String)
  | disconnect (name : String)
  /-- The next sample. An event may be reported while the reader waits, or after the answer if it
  does not wait. -/
  | next (name : String) (meanwhile : Option Event)
  | take (name : String) (count : Nat)
  | describeStream (name : String)
  | dropStream (name : String)
  deriving DecidableEq, Repr

inductive Answer where
  | done
  | outcome (outcome : Except LinkError Unit)
  | entry (entry : Option Entry)
  | entries (entries : List Entry)
  | text (text : String)

/-- Why a command has no answer. -/
inductive Stuck where
  | unknown (name : String)
  | waits (operation : String)
  deriving DecidableEq, Repr

def Stuck.message : Stuck → String
  | .unknown name => s!"nothing is named {name}"
  | .waits operation => s!"{operation} would block for ever"

structure Console where
  station : Station
  links : List (String × Nat)
  streams : List (String × Nat)

namespace Console

def empty : Console := ⟨.empty, [], []⟩

def unbind (names : List (String × Nat)) (name : String) : List (String × Nat) :=
  names.filter (·.1 ≠ name)

/-- Binds a name, in place of what it stood for. -/
def bind (names : List (String × Nat)) (name : String) (number : Nat) : List (String × Nat) :=
  (name, number) :: unbind names name

def find (names : List (String × Nat)) (name : String) : Except Stuck Nat :=
  match names.lookup name with
  | some number => .ok number
  | none => .error (.unknown name)

def describeLink (bridge : LinkBridge) : String :=
  s!"SyncLink \x7b uri: {Text.quoted bridge.uri}, is_open: {bridge.isOpen} \x7d"

def describeStream (stream : LogStream) (block : Block) : String :=
  s!"SyncLogger \x7b config: {Text.quoted block.name}, is_connected: {stream.isConnected} \x7d"

def withStation (console : Console) (station : Station) : Console := { console with station }

/-- Adds a link bridge, then gives up the one that had the name. -/
def addLink (console : Console) (name uri : String) : Console :=
  let station := console.station
  let number := station.bridges.length
  let added := { station with bridges := station.bridges ++ [.new uri] }
  let kept := match console.links.lookup name with
    | some old => added.dropBridge old
    | none => added
  { console with station := kept, links := bind console.links name number }

/-- Adds a log stream, then gives up the one that had the name. -/
def addStream (console : Console) (name : String) (block : Nat) : Console :=
  let station := console.station
  let number := station.streams.length
  let added := { station with streams := station.streams ++ [.new block] }
  let kept := match console.streams.lookup name with
    | some old => added.disconnectStream old
    | none => added
  { console with station := kept, streams := bind console.streams name number }

/-- Gives up the link bridge of a name, if there is one. -/
def removeLink (console : Console) (name : String) : Console :=
  match console.links.lookup name with
  | some number => { console with
      station := console.station.dropBridge number, links := unbind console.links name }
  | none => console

/-- Gives up the log stream of a name, if there is one. -/
def removeStream (console : Console) (name : String) : Console :=
  match console.streams.lookup name with
  | some number => { console with
      station := console.station.disconnectStream number, streams := unbind console.streams name }
  | none => console

def perform (console : Console) : Command → Except Stuck (Console × Answer)
  | .onOpen events => .ok (console.withStation { console.station with onOpen := events }, .done)
  | .onClose events => .ok (console.withStation { console.station with onClose := events }, .done)
  | .reject reason => .ok (console.withStation { console.station with rejection := reason }, .done)
  | .fire event => .ok (console.withStation (console.station.fire event), .done)
  | .block name title onStart onStop onDelete =>
      let station := console.station
      .ok (console.withStation { station with
        blocks := station.blocks ++ [⟨title, .empty, onStart, onStop, onDelete⟩]
        blockNames := bind station.blockNames name station.blocks.length }, .done)
  | .onBlock number onStart onStop onDelete =>
      .ok (console.withStation (console.station.updateBlock number
        (·.reporting onStart onStop onDelete)), .done)
  | .link name uri => .ok (console.addLink name uri, .done)
  | .openLink name => do
      match console.station.openLink (← find console.links name) with
      | some (station, outcome) => return (console.withStation station, .outcome outcome)
      | none => throw (.waits "open")
  | .closeLink name => do
      return (console.withStation (console.station.closeLink (← find console.links name)), .done)
  | .uri name => do
      return (console, .text (console.station.bridge (← find console.links name)).uri)
  | .describeLink name => do
      let bridge := console.station.bridge (← find console.links name)
      return (console, .text (describeLink bridge))
  | .dropLink name => .ok (console.removeLink name, .done)
  | .stream name block => do
      return (console.addStream name (← find console.station.blockNames block), .done)
  | .connect name => do
      let (station, outcome) := console.station.connectStream (← find console.streams name)
      return (console.withStation station, .outcome outcome)
  | .disconnect name => do
      let number ← find console.streams name
      return (console.withStation (console.station.disconnectStream number), .done)
  | .next name meanwhile => do
      match console.station.nextWhile (← find console.streams name) meanwhile.toList with
      | some (station, entry) => return (console.withStation station, .entry entry)
      | none => throw (.waits "next")
  | .take name count => do
      match console.station.takeEntries (← find console.streams name) count with
      | some (station, entries) => return (console.withStation station, .entries entries)
      | none => throw (.waits "take")
  | .describeStream name => do
      let stream := console.station.stream (← find console.streams name)
      return (console, .text (describeStream stream (console.station.block stream.block)))
  | .dropStream name => .ok (console.removeStream name, .done)

/-- The calls of the driver that came after those of an earlier console, in order. -/
def callsSince (console earlier : Console) : List Call :=
  let history := console.station.history
  (history.take (history.length - earlier.station.history.length)).reverse.filterMap fun
    | .called call => some call
    | _ => none

/-- What a command comes to: its answer, the calls made for it and the console after it. -/
structure Reply where
  answer : Answer
  calls : List Call
  console : Console

/-- Performs commands one after the other; one that has no answer ends them all. -/
def run : List Command → Console → Except Stuck (List Reply)
  | [], _ => .ok []
  | command :: rest, console => do
      let (after, answer) ← console.perform command
      return ⟨answer, after.callsSince console, after⟩ :: (← run rest after)

end Console

end VehicleLink.Bridge
