import VehicleLink.Link.Error
import VehicleLink.Link.Host
import VehicleLink.Link.Settings
import VehicleLink.Link.Wait
import VehicleLink.Packet

/-!
A link over datagrams. What comes in waits at the socket. While the link is connected a reader takes
one datagram after the other: it counts it, queues its packet if it has one, and answers it by a
keep-alive if too many have come since the application last sent something. The reader begins and
ends with a keep-alive and reports every stretch of silence. The socket may refuse what is written
to it, and a reader that cannot read from it may end before it is stopped. Time is counted in
milliseconds and moves only where somebody waits.
-/

namespace VehicleLink

structure Socket where
  port : UInt16
  /-- The local address from which the peer is reached. -/
  address : Address
  /-- The datagrams since the last application send. -/
  unanswered : UInt32
  /-- The datagrams that have come in and wait for a reader. -/
  unread : List (List UInt8)
  deriving DecidableEq, Repr

namespace Socket

def new (port : UInt16) (address : Address) : Socket := ⟨port, address, 0, []⟩

/-- Counts a datagram. The count that is kept starts again at zero after the largest word; the one
that is reported stays there. -/
def noteDatagram (socket : Socket) : Socket × UInt32 :=
  ({ socket with unanswered := socket.unanswered + 1 },
    if socket.unanswered = 0xffffffff then 0xffffffff else socket.unanswered + 1)

def noteSend (socket : Socket) : Socket := { socket with unanswered := 0 }

def hold (socket : Socket) (datagram : List UInt8) : Socket :=
  { socket with unread := socket.unread ++ [datagram] }

end Socket

structure Endpoint where
  address : Address
  port : UInt16
  deriving DecidableEq, Repr

/-- Why nothing can be read from a socket. -/
inductive ReadError where
  | connectionRefused
  | connectionReset
  | interrupted
  | other (reason : String)
  deriving DecidableEq, Repr

/-- Whether a reader goes on. A connected socket also tells in this way what the machine of the peer
has sent back. -/
def ReadError.isTransient : ReadError → Bool
  | .connectionRefused | .connectionReset | .interrupted => true
  | .other _ => false

/-- A reader listens, and will report silence at an instant, or it has come to its end by itself. -/
inductive Reader where
  | listening (silentAt : Nat)
  | ended
  deriving DecidableEq, Repr

def Reader.silentAt : Reader → Option Nat
  | .listening instant => some instant
  | .ended => none

inductive Session.Incident where
  | readerStarted
  | readerStopped
  | read (datagram : List UInt8)
  /-- Reading failed, and the reader goes on. -/
  | disturbed
  | keptAlive
  /-- The socket has not taken a keep-alive. -/
  | refused (reason : String)
  | sent (frame : List UInt8)
  | silent
  deriving DecidableEq, Repr

namespace Session.Incident

/-- What a keep-alive comes to that the socket may refuse. -/
def keepAlive : Except String Unit → Incident
  | .ok () => .keptAlive
  | .error reason => .refused reason

/-- The datagram that goes out in an incident. -/
def transmission? : Incident → Option (List UInt8)
  | .keptAlive => some keepAliveFrame
  | .sent frame => some frame
  | .readerStarted | .readerStopped | .read _ | .disturbed | .refused _ | .silent => none

end Session.Incident

structure Session where
  settings : Settings
  host : Host
  clock : Nat
  phase : Phase
  socket : Option Socket
  peer : Option Endpoint
  /-- Whether somebody is told of silence. -/
  reporting : Bool
  /-- The packets that wait for a receiver. -/
  inbound : List Packet
  /-- Whether more packets may come. -/
  accepting : Bool
  /-- The reader that was started last, until it is stopped. -/
  reader : Option Reader
  /-- What has happened so far and when, the latest first. -/
  history : List (Nat × Session.Incident)

namespace Session

def new (settings : Settings) (host : Host) : Session where
  settings := settings
  host := host
  clock := 0
  phase := .idle
  socket := none
  peer := none
  reporting := false
  inbound := []
  accepting := true
  reader := none
  history := []

def keepAliveCount (session : Session) : UInt32 :=
  match session.socket with
  | some socket => socket.unanswered
  | none => 0

def unread (session : Session) : List (List UInt8) :=
  match session.socket with
  | some socket => socket.unread
  | none => []

/-- When the reader will report silence next, while one listens. -/
def silentAt (session : Session) : Option Nat := session.reader.bind Reader.silentAt

def record (session : Session) (incident : Incident) : Session :=
  { session with history := (session.clock, incident) :: session.history }

/-- What has happened since an earlier session, in order. -/
def since (session earlier : Session) : List (Nat × Incident) :=
  (session.history.take (session.history.length - earlier.history.length)).reverse

/-! ### The reader -/

def visible (session : Session) (datagram : List UInt8) : List UInt8 :=
  datagram.take session.settings.receiveBufferSize

/-- Queues the packet of a datagram; what holds no packet is dropped. -/
def enqueue (session : Session) (bytes : List UInt8) : Session :=
  match Packet.decode bytes with
  | .ok packet => { session with inbound := session.inbound ++ [packet] }
  | .error _ => session

/-- When the reader will report silence if nothing comes from now on. -/
def nextSilence (session : Session) : Nat := session.clock + session.settings.readTimeout

def listen (session : Session) : Session :=
  { session with reader := some (.listening session.nextSilence) }

/-- Handles a datagram that has been taken from the socket. If too many have come the reader answers
by a keep-alive, which the socket may refuse; without an outcome the reader has been told to stop and
does not answer. -/
def read (session : Session) (socket : Socket) (datagram : List UInt8)
    (written : Option (Except String Unit)) : Session :=
  let (counted, count) := socket.noteDatagram
  let queued := { (session.record (.read datagram)).listen with socket := some counted }
    |>.enqueue (session.visible datagram)
  match written with
  | some written =>
      if session.settings.keepAliveThreshold < count then queued.record (.keepAlive written)
      else queued
  | none => queued

def readNext (session : Session) (written : Option (Except String Unit)) : Session :=
  match session.silentAt, session.socket with
  | some _, some socket =>
      match socket.unread with
      | datagram :: rest => session.read { socket with unread := rest } datagram written
      | [] => session
  | _, _ => session

/-- Reads all that waits, where the socket takes what is written. -/
def catchUp (session : Session) : Session :=
  session.unread.foldl (fun session _ => session.readNext (some (.ok ()))) session

def beginReading (session : Session) (written : Except String Unit) : Session :=
  ((session.record .readerStarted).record (.keepAlive written)).listen

def endReading (session : Session) (written : Except String Unit) : Session :=
  { (session.record (.keepAlive written)).record .readerStopped with reader := none }

/-- The socket cannot be read. The reader listens anew or comes to its end, of which nobody is told:
the link stays connected. -/
def failRead (session : Session) (cause : ReadError) (written : Except String Unit) : Session :=
  if cause.isTransient then (session.record .disturbed).listen
  else { session.endReading written with reader := some .ended }

/-- Starts the reader, which needs a socket to read from and a queue to fill. -/
def startReader (session : Session) (written : Except String Unit) :
    Session × Except TransportError Unit :=
  match session.socket with
  | none => (session, .error (.phase .notConnected))
  | some _ =>
      if session.accepting then (session.beginReading written, .ok ())
      else (session, .error (.phase .closed))

/-- Stops the reader if there is one. A reader that is busy takes one more datagram; one that has come
to its end does nothing more. -/
def stopReader (session : Session) (busy : Bool) (written : Except String Unit) : Session :=
  match session.silentAt with
  | some _ => (if busy then session.readNext none else session).endReading written
  | none => { session with reader := none }

/-- A datagram comes in. It is lost where there is no socket. -/
def arrive (session : Session) (datagram : List UInt8) : Session :=
  { session with socket := session.socket.map (·.hold datagram) }

/-- The instants from `due` on and before `finish` that are a whole number of periods apart. -/
def instants (due period finish : Nat) : List Nat :=
  if due < finish then (List.range ((finish - 1 - due) / period + 1)).map (due + · * period) else []

/-- Lets time pass up to an instant. The reader has reported silence whenever it was due before that
instant. At the instant itself a datagram or a stop still comes first. -/
def elapse (session : Session) (instant : Nat) : Session :=
  match session.silentAt with
  | none => { session with clock := instant }
  | some due =>
      let reported := instants due session.settings.readTimeout instant
      let told := if session.reporting then reported.map ((·, Incident.silent)) else []
      { session with
        clock := instant
        reader := some (.listening (due + reported.length * session.settings.readTimeout))
        history := told.reverse ++ session.history }

/-! ### Operations -/

/-- Connects an idle link: first the phase is judged, then the address, then a local port is looked
for, then the way to the peer, and last the reader is started. -/
def connect (session : Session) (address : String) (reporting : Bool)
    (written : Except String Unit) : Session × Except TransportError Unit :=
  match session.phase.checkConnect with
  | .error cause => (session, .error (.phase cause))
  | .ok () =>
      match Address.parse? address with
      | none => (session, .error (.invalidAddress address))
      | some ip =>
          let settings := session.settings
          match (session.host.bind settings.localPortBase settings.maxBindAttempts).2 with
          | none =>
              (session, .error (.bindExhausted settings.localPortBase settings.maxBindAttempts))
          | some port =>
              match session.host.route ip with
              | .error reason => (session, .error (.io reason))
              | .ok source =>
                  let bound := { session with
                    socket := some (.new port source)
                    peer := some ⟨ip, settings.remotePort⟩
                    reporting := reporting }
                  match bound.startReader written with
                  | (unread, .error error) => (unread, .error error)
                  | (reading, .ok ()) => ({ reading with phase := .connected }, .ok ())

/-- Sends a packet, for which the socket may refuse the frame. Only what has been sent sets the count
of datagrams back. -/
def send (session : Session) (packet : Packet) (written : Except String Unit) :
    Session × Except TransportError Unit :=
  match session.phase.checkOpen, session.socket with
  | .error cause, _ => (session, .error (.phase cause))
  | .ok (), none => (session, .error (.phase .notConnected))
  | .ok (), some socket =>
      match packet.encode, written with
      | .error cause, _ => (session, .error (.packet cause))
      | .ok _, .error reason => (session, .error (.io reason))
      | .ok frame, .ok () =>
          ({ session.record (.sent frame) with socket := some socket.noteSend }, .ok ())

/-- Stops the reader, which may be busy, and keeps the socket. A paused link stays as it is. -/
def pause (session : Session) (busy : Bool) (written : Except String Unit) :
    Session × Except TransportError Unit :=
  match session.phase.checkOpen with
  | .error cause => (session, .error (.phase cause))
  | .ok () =>
      if session.phase.isReceiving then
        ({ session.stopReader busy written with phase := .paused }, .ok ())
      else (session, .ok ())

/-- Starts the reader again. A connected link stays as it is, also if its reader has ended. -/
def restart (session : Session) (written : Except String Unit) :
    Session × Except TransportError Unit :=
  match session.phase.checkOpen with
  | .error cause => (session, .error (.phase cause))
  | .ok () =>
      if session.phase.isReceiving then (session, .ok ())
      else
        match session.peer, session.socket with
        | none, _ | _, none => (session, .error (.phase .notConnected))
        | some peer, some _ =>
            match session.host.route peer.address with
            | .error reason => (session, .error (.io reason))
            | .ok _ =>
                match session.startReader written with
                | (unread, .error error) => (unread, .error error)
                | (reading, .ok ()) => ({ reading with phase := .connected }, .ok ())

/-- Ends a link for good; the reader may be busy. Packets that wait can still be received. -/
def close (session : Session) (busy : Bool) (written : Except String Unit) :
    Session × Except TransportError Unit :=
  match session.phase.checkOpen with
  | .error cause => (session, .error (.phase cause))
  | .ok () =>
      ({ session.stopReader busy written with
        phase := .closed
        socket := none
        reporting := false
        accepting := false }, .ok ())

/-- Takes the next packet. There is no result if the receiver waits for ever. -/
def receive (session : Session) (wait : Wait) : Option (Session × Option Packet) :=
  match session.inbound with
  | packet :: rest => some ({ session with inbound := rest }, some packet)
  | [] =>
      if session.accepting then
        match wait with
        | .none => some (session, none)
        | .forever => none
        | .atMost nanoseconds =>
            some (session.elapse (session.clock + Wait.milliseconds nanoseconds), none)
      else some (session, none)

/-- Whether a receiver that asks for this wait has to wait. -/
def waits (session : Session) (wait : Wait) : Bool :=
  session.inbound.isEmpty && session.accepting &&
    match wait with
    | .none => false
    | .forever => true
    | .atMost nanoseconds => 0 < Wait.milliseconds nanoseconds

def receiveAll (session : Session) : Session × List Packet :=
  ({ session with inbound := [] }, session.inbound)

/-! ### Views -/

def name : String := "udp"

/-- There is no discovery: the one candidate is the address itself, without a name. -/
def scan (address : String) : List (String × String) := [(address, "")]

/-- The text of a link. The ports are written as given. -/
def describe (session : Session) (peerPort localPort : String) : String :=
  let optional : Option String → String
    | some text => s!"Some({text})"
    | none => "None"
  let peer := optional (session.peer.map (·.address.withPort peerPort))
  let source := optional (session.socket.map (·.address.withPort localPort))
  s!"UdpDriver \x7b state: {session.phase.name}, peer: {peer}, local: {source} \x7d"

end Session

end VehicleLink
