import VehicleLink.Proofs.Link.Reader

/-!
Runs of a link: an application connects, sends, receives, pauses, restarts and closes in any order
while datagrams come in, the reader takes them in its own time or fails to, time passes, and the
ports and routes of the machine change. The log of a run keeps what was done and what came of it.
-/

namespace VehicleLink

/-- A machine all of whose ports are free and from which every peer is reached. -/
def Host.unhindered : Host where
  taken := []
  route _ := .ok (.v4 [10, 0, 0, 2])

/-- What is done to a link, and what comes of it. -/
inductive Session.Deed where
  | connected (address : String) (outcome : Except TransportError Unit)
  | sent (packet : Packet) (outcome : Except TransportError Unit)
  | paused (busy : Bool) (outcome : Except TransportError Unit)
  | restarted (outcome : Except TransportError Unit)
  | closed (busy : Bool) (outcome : Except TransportError Unit)
  | received (wait : Wait) (packet : Option Packet)
  | arrived (datagram : List UInt8) (held : Bool)
  | read (datagram : List UInt8)
  | readFailed (cause : ReadError)
  | waited
  | hostChanged

namespace Session.Deed

def outcome? : Deed → Option (Except TransportError Unit)
  | .connected _ outcome | .sent _ outcome | .paused _ outcome | .restarted outcome
  | .closed _ outcome => some outcome
  | .received .. | .arrived .. | .read _ | .readFailed _ | .waited | .hostChanged => none

/-- Why an operation is not allowed in a phase. -/
def refusal : Deed → Phase → Option PhaseError
  | .connected .., .connected | .connected .., .paused => some .alreadyConnected
  | .sent .., .idle | .paused .., .idle | .restarted _, .idle | .closed .., .idle =>
      some .notConnected
  | .connected .., .closed | .sent .., .closed | .paused .., .closed | .restarted _, .closed
  | .closed .., .closed => some .closed
  | _, _ => none

def phaseAfter : Deed → Phase → Phase
  | .connected _ (.ok _), .idle => .connected
  | .paused _ (.ok _), .connected => .paused
  | .restarted (.ok _), .paused => .connected
  | .closed _ (.ok _), .connected | .closed _ (.ok _), .paused => .closed
  | _, phase => phase

theorem phaseAfter_of_error {deed : Deed} {error : TransportError}
    (failed : deed.outcome? = some (.error error)) (phase : Phase) :
    deed.phaseAfter phase = phase := by
  cases deed <;> simp_all [outcome?, phaseAfter]

/-- Whether the reader may take a datagram in a deed. -/
def mayRead : Deed → Bool
  | .read _ | .paused true _ | .closed true _ => true
  | .paused false _ | .closed false _ | .connected .. | .sent .. | .restarted _ | .received ..
  | .arrived .. | .readFailed _ | .waited | .hostChanged => false

/-- Whether a deed leaves it to the reader what is held, queued and counted. -/
def isInner : Deed → Bool
  | .sent _ (.ok _) | .closed _ (.ok _) | .received _ (some _) | .arrived _ true => false
  | .sent _ (.error _) | .closed _ (.error _) | .received _ none | .arrived _ false | .connected ..
  | .paused .. | .restarted _ | .read _ | .readFailed _ | .waited | .hostChanged => true

theorem isInner_of_error {deed : Deed} {error : TransportError}
    (failed : deed.outcome? = some (.error error)) : deed.isInner = true := by
  cases deed <;> simp_all [outcome?, isInner]

end Session.Deed

/-! ### What the phases allow -/

namespace Phase

variable {phase : Phase}

theorem checkConnect_eq_ok_iff : phase.checkConnect = .ok () ↔ phase = .idle := by
  cases phase <;> simp [checkConnect]

theorem checkOpen_eq_ok_iff :
    phase.checkOpen = .ok () ↔ phase = .connected ∨ phase = .paused := by
  cases phase <;> simp [checkOpen]

theorem checkOpen_eq_error_iff {cause : PhaseError} :
    phase.checkOpen = .error cause ↔
      phase = .idle ∧ cause = .notConnected ∨ phase = .closed ∧ cause = .closed := by
  cases phase <;> simp [checkOpen, eq_comm]

end Phase

namespace Session.Deed

variable {phase : Phase} {cause : PhaseError} {deed : Deed}

def needsSocket : Deed → Bool
  | .sent .. | .paused .. | .restarted _ | .closed .. => true
  | .connected .. | .received .. | .arrived .. | .read _ | .readFailed _ | .waited
  | .hostChanged => false

theorem refusal_connected_error {address : String} {outcome : Except TransportError Unit}
    (checked : phase.checkConnect = .error cause) :
    (connected address outcome).refusal phase = some cause := by
  cases phase <;> cases checked <;> rfl

theorem refusal_of_checkOpen_error (needsSocket : deed.needsSocket = true)
    (checked : phase.checkOpen = .error cause) : deed.refusal phase = some cause := by
  cases deed with
  | sent | paused | restarted | closed => cases phase <;> cases checked <;> rfl
  | _ => cases needsSocket

theorem refusal_of_checkOpen_ok (needsSocket : deed.needsSocket = true)
    (checked : phase.checkOpen = .ok ()) : deed.refusal phase = none := by
  cases deed with
  | sent | paused | restarted | closed =>
      rcases Phase.checkOpen_eq_ok_iff.mp checked with rfl | rfl <;> rfl
  | _ => cases needsSocket

end Session.Deed

def TransportError.phase? : TransportError → Option PhaseError
  | .phase cause => some cause
  | .packet _ | .io _ | .invalidAddress _ | .bindExhausted .. | .connectionTimeout => none

namespace Session

/-- A deed is done to a link. What happens while a receiver waits are deeds of their own, and the
receiver takes part again when there is something for it or its time is up. The reader may be late:
time may pass before it takes what has come in. Each keep-alive that it writes meanwhile may be
refused by the socket, and so may a frame. -/
inductive Step (session : Session) : Deed → Session → Prop
  | connect (address : String) (reporting : Bool) (written : Except String Unit) :
      Step session (.connected address (session.connect address reporting written).2)
        (session.connect address reporting written).1
  | send (packet : Packet) (written : Except String Unit) :
      Step session (.sent packet (session.send packet written).2) (session.send packet written).1
  | pause (busy : Bool) (written : Except String Unit) :
      Step session (.paused busy (session.pause busy written).2) (session.pause busy written).1
  | restart (written : Except String Unit) :
      Step session (.restarted (session.restart written).2) (session.restart written).1
  | close (busy : Bool) (written : Except String Unit) :
      Step session (.closed busy (session.close busy written).2) (session.close busy written).1
  | receive {wait : Wait} {packet : Option Packet} {after : Session}
      (received : session.receive wait = some (after, packet)) :
      Step session (.received wait packet) after
  | arrive (datagram : List UInt8) :
      Step session (.arrived datagram session.socket.isSome) (session.arrive datagram)
  | read {datagram : List UInt8} {rest : List (List UInt8)}
      (listens : session.silentAt.isSome = true) (waiting : session.unread = datagram :: rest)
      (written : Except String Unit) :
      Step session (.read datagram) (session.readNext (some written))
  | failRead (listens : session.silentAt.isSome = true) (cause : ReadError)
      (written : Except String Unit) :
      Step session (.readFailed cause) (session.failRead cause written)
  | elapse {instant : Nat} (later : session.clock ≤ instant) :
      Step session .waited (session.elapse instant)
  | changeHost (host : Host) : Step session .hostChanged { session with host }

/-- The log has the latest deed first. -/
inductive Run (first : Session) : List Deed → Session → Prop
  | refl : Run first [] first
  | step {log : List Deed} {deed : Deed} {before after : Session} (run : Run first log before)
      (step : Step before deed after) : Run first (deed :: log) after

variable {session first before middle after last : Session} {deed : Deed} {log more : List Deed}

theorem Run.trans (run : Run first log middle) (rest : Run middle more last) :
    Run first (more ++ log) last := by
  induction rest with
  | refl => exact run
  | step _ step ih => exact ih.step step

theorem Run.single (step : Step before deed after) : Run before [deed] after := .step .refl step

/-! ### The parts of a link -/

/-- What the parts of a link are in each phase. -/
structure Coherent (session : Session) : Prop where
  reader : session.reader.isSome = true ↔ session.phase = .connected
  socket : session.socket.isSome = true ↔ session.phase = .connected ∨ session.phase = .paused
  peer : session.peer.isSome = true ↔ session.phase ≠ .idle
  accepting : session.accepting = true ↔ session.phase ≠ .closed
  reporting : session.reporting = true → session.phase = .connected ∨ session.phase = .paused
  untouched : session.phase = .idle → session.history = []

theorem coherent_new (settings : Settings) (host : Host) : (new settings host).Coherent :=
  ⟨by simp [new], by simp [new], by simp [new], by simp [new], by simp [new], fun _ => rfl⟩

theorem Coherent.socket_exists (coherent : session.Coherent)
    (held : session.phase = .connected ∨ session.phase = .paused) :
    ∃ socket, session.socket = some socket :=
  Option.isSome_iff_exists.mp (coherent.socket.mpr held)

/-- Only while a link is connected somebody listens. -/
theorem Coherent.connected (coherent : session.Coherent) (listens : session.silentAt.isSome = true) :
    session.phase = .connected :=
  coherent.reader.mp (reader_isSome_of_silentAt listens)

theorem Coherent.silentAt_eq_none (coherent : session.Coherent)
    (unread : session.phase ≠ .connected) : session.silentAt = none := by
  rw [← Option.not_isSome_iff_eq_none]
  exact fun listens => unread (coherent.connected listens)

/-! ### What a step comes to -/

/-- An idle link with a socket, a peer and a reader. -/
def opened (session : Session) (port : UInt16) (source : Address) (peer : Endpoint)
    (reporting : Bool) (written : Except String Unit) : Session :=
  { session.beginReading written with
    phase := .connected
    socket := some (.new port source)
    peer := some peer
    reporting := reporting }

def ended (session : Session) : Session :=
  { session with
    phase := .closed
    socket := none
    reporting := false
    accepting := false }

/-- A deed that succeeds and has nothing to do. -/
inductive Moot (session : Session) : Deed → Prop
  | paused {busy : Bool} (already : session.phase = .paused) : Moot session (.paused busy (.ok ()))
  | restarted (already : session.phase = .connected) : Moot session (.restarted (.ok ()))
  | received {wait : Wait} (empty : session.inbound = []) : Moot session (.received wait none)
  | arrived {datagram : List UInt8} (lost : session.socket = none) :
      Moot session (.arrived datagram false)

/-- All that a deed can make of a link whose parts fit together. -/
inductive Change (session : Session) : Deed → Session → Prop
  | failed {deed : Deed} {error : TransportError} (outcome : deed.outcome? = some (.error error))
      (refusal : deed.refusal session.phase = error.phase?) : Change session deed session
  | moot {deed : Deed} (moot : Moot session deed) : Change session deed session
  | connected {address : String} {ip source : Address} {port : UInt16} {reporting : Bool}
      {written : Except String Unit} (idle : session.phase = .idle)
      (parsed : Address.parse? address = some ip)
      (bound : (session.host.bind session.settings.localPortBase
        session.settings.maxBindAttempts).2 = some port)
      (routed : session.host.route ip = .ok source) :
      Change session (.connected address (.ok ()))
        (session.opened port source ⟨ip, session.settings.remotePort⟩ reporting written)
  | sent {packet : Packet} {frame : List UInt8} {socket : Socket}
      (usable : session.phase = .connected ∨ session.phase = .paused)
      (held : session.socket = some socket) (encoded : packet.encode = .ok frame) :
      Change session (.sent packet (.ok ()))
        { session.record (.sent frame) with socket := some socket.noteSend }
  | paused {busy : Bool} {written : Except String Unit} (connected : session.phase = .connected) :
      Change session (.paused busy (.ok ())) { session.stopReader busy written with phase := .paused }
  | restarted {written : Except String Unit} (paused : session.phase = .paused) :
      Change session (.restarted (.ok ())) { session.beginReading written with phase := .connected }
  | closed {busy : Bool} {written : Except String Unit}
      (usable : session.phase = .connected ∨ session.phase = .paused) :
      Change session (.closed busy (.ok ())) (session.stopReader busy written).ended
  | received {wait : Wait} {packet : Packet} {rest : List Packet}
      (queued : session.inbound = packet :: rest) :
      Change session (.received wait (some packet)) { session with inbound := rest }
  | arrived {socket : Socket} {datagram : List UInt8} (held : session.socket = some socket) :
      Change session (.arrived datagram true)
        { session with socket := some (socket.hold datagram) }
  | read {datagram : List UInt8} {rest : List (List UInt8)} {written : Except String Unit}
      (listens : session.silentAt.isSome = true) (waiting : session.unread = datagram :: rest) :
      Change session (.read datagram) (session.readNext (some written))
  | readFailed {cause : ReadError} {written : Except String Unit}
      (listens : session.silentAt.isSome = true) :
      Change session (.readFailed cause) (session.failRead cause written)
  | outwaited {wait : Wait} (instant : Nat) (empty : session.inbound = []) :
      Change session (.received wait none) (session.elapse instant)
  | elapsed (instant : Nat) : Change session .waited (session.elapse instant)
  | hostChanged (host : Host) : Change session .hostChanged { session with host }

theorem opened_reads (coherent : session.Coherent) (idle : session.phase = .idle) {port : UInt16}
    {source : Address} {peer : Endpoint} {reporting : Bool} (written : Except String Unit) :
    Reads session [] (session.opened port source peer reporting written) := by
  -- There was no socket at which anything could wait or be counted.
  have unbound : session.socket = none := by
    rw [← Option.not_isSome_iff_eq_none, coherent.socket, idle]
    simp
  have reads := session.beginReading_reads written
  refine ⟨reads.readings, ?_, reads.inbound, ?_, reads.sinceSend⟩
  · rw [unread, unbound]
    rfl
  · rw [keepAliveCount, keepAliveCount, unbound]
    rfl

theorem Change.refused_connect {address : String} {reporting : Bool} {written : Except String Unit}
    (error : TransportError)
    (same : session.connect address reporting written = (session, .error error))
    (refusal : (Deed.connected address (.error error)).refusal session.phase = error.phase?) :
    Change session (.connected address (session.connect address reporting written).2)
      (session.connect address reporting written).1 := by
  rw [same]
  exact .failed rfl refusal

/-- The reader of a link that has a port and a route has its socket and its queue, so that it
starts. -/
theorem connect_of_routed (coherent : session.Coherent) (idle : session.phase = .idle)
    {address : String} {ip source : Address} {port : UInt16} {reporting : Bool}
    (written : Except String Unit) (parsed : Address.parse? address = some ip)
    (bound : (session.host.bind session.settings.localPortBase
      session.settings.maxBindAttempts).2 = some port)
    (routed : session.host.route ip = .ok source) :
    session.connect address reporting written =
      (session.opened port source ⟨ip, session.settings.remotePort⟩ reporting written, .ok ()) := by
  have accepting : session.accepting = true :=
    coherent.accepting.mpr fun closed => by rw [idle] at closed; cases closed
  simp only [connect, idle, Phase.checkConnect, parsed, bound, routed, startReader]
  rw [if_pos accepting]
  rfl

theorem connect_change (coherent : session.Coherent) (address : String) (reporting : Bool)
    (written : Except String Unit) :
    Change session (.connected address (session.connect address reporting written).2)
      (session.connect address reporting written).1 := by
  cases checked : session.phase.checkConnect with
  | error cause =>
      refine .refused_connect (.phase cause) ?_ (Deed.refusal_connected_error checked)
      simp only [connect, checked]
  | ok =>
      have idle := Phase.checkConnect_eq_ok_iff.mp checked
      have unrefused (error : TransportError) :
          (Deed.connected address (.error error)).refusal session.phase = none := by
        rw [idle]
        rfl
      cases parsed : Address.parse? address with
      | none =>
          refine .refused_connect (.invalidAddress address) ?_ (unrefused _)
          simp only [connect, checked, parsed]
      | some ip =>
          cases bound : (session.host.bind session.settings.localPortBase
              session.settings.maxBindAttempts).2 with
          | none =>
              refine .refused_connect (.bindExhausted session.settings.localPortBase
                session.settings.maxBindAttempts) ?_ (unrefused _)
              simp only [connect, checked, parsed, bound]
          | some port =>
              cases routed : session.host.route ip with
              | error reason =>
                  refine .refused_connect (.io reason) ?_ (unrefused _)
                  simp only [connect, checked, parsed, bound, routed]
              | ok source =>
                  rw [connect_of_routed coherent idle written parsed bound routed]
                  exact .connected idle parsed bound routed

theorem send_change (coherent : session.Coherent) (packet : Packet) (written : Except String Unit) :
    Change session (.sent packet (session.send packet written).2)
      (session.send packet written).1 := by
  cases checked : session.phase.checkOpen with
  | error cause =>
      have same : session.send packet written = (session, .error (.phase cause)) := by
        simp only [send, checked]
      rw [same]
      exact .failed rfl (Deed.refusal_of_checkOpen_error rfl checked)
  | ok =>
      have usable := Phase.checkOpen_eq_ok_iff.mp checked
      have unrefused (error : TransportError) :
          (Deed.sent packet (.error error)).refusal session.phase = none :=
        Deed.refusal_of_checkOpen_ok rfl checked
      obtain ⟨socket, held⟩ := coherent.socket_exists usable
      cases encoded : packet.encode with
      | error cause =>
          have same : session.send packet written = (session, .error (.packet cause)) := by
            simp only [send, checked, held, encoded]
          rw [same]
          exact .failed rfl (unrefused _)
      | ok frame =>
          cases written with
          | error reason =>
              have same : session.send packet (.error reason) = (session, .error (.io reason)) := by
                simp only [send, checked, held, encoded]
              rw [same]
              exact .failed rfl (unrefused _)
          | ok =>
              have same : session.send packet (.ok ()) =
                  ({ session.record (.sent frame) with socket := some socket.noteSend },
                    .ok ()) := by
                simp only [send, checked, held, encoded]
              rw [same]
              exact .sent usable held encoded

theorem pause_of_connected (connected : session.phase = .connected) (busy : Bool)
    (written : Except String Unit) : session.pause busy written =
      ({ session.stopReader busy written with phase := .paused }, .ok ()) := by
  simp [pause, connected, Phase.checkOpen, Phase.isReceiving]

theorem pause_change (session : Session) (busy : Bool) (written : Except String Unit) :
    Change session (.paused busy (session.pause busy written).2) (session.pause busy written).1 := by
  cases checked : session.phase.checkOpen with
  | error cause =>
      have same : session.pause busy written = (session, .error (.phase cause)) := by
        simp only [pause, checked]
      rw [same]
      exact .failed rfl (Deed.refusal_of_checkOpen_error rfl checked)
  | ok =>
      rcases Phase.checkOpen_eq_ok_iff.mp checked with connected | paused
      · rw [pause_of_connected connected]
        exact .paused connected
      · have same : session.pause busy written = (session, .ok ()) := by
          simp [pause, paused, Phase.checkOpen, Phase.isReceiving]
        rw [same]
        exact .moot (.paused paused)

theorem restart_of_routed (coherent : session.Coherent) (paused : session.phase = .paused)
    {peer : Endpoint} {source : Address} (known : session.peer = some peer)
    (routed : session.host.route peer.address = .ok source) (written : Except String Unit) :
    session.restart written =
      ({ session.beginReading written with phase := .connected }, .ok ()) := by
  obtain ⟨socket, held⟩ := coherent.socket_exists (.inr paused)
  have accepting : session.accepting = true :=
    coherent.accepting.mpr (by rw [paused]; exact Phase.noConfusion)
  simp [restart, paused, Phase.checkOpen, Phase.isReceiving, known, held, routed, startReader,
    accepting]

theorem restart_change (coherent : session.Coherent) (written : Except String Unit) :
    Change session (.restarted (session.restart written).2) (session.restart written).1 := by
  cases checked : session.phase.checkOpen with
  | error cause =>
      have same : session.restart written = (session, .error (.phase cause)) := by
        simp only [restart, checked]
      rw [same]
      exact .failed rfl (Deed.refusal_of_checkOpen_error rfl checked)
  | ok =>
      have usable := Phase.checkOpen_eq_ok_iff.mp checked
      rcases usable with connected | paused
      · have same : session.restart written = (session, .ok ()) := by
          simp [restart, connected, Phase.checkOpen, Phase.isReceiving]
        rw [same]
        exact .moot (.restarted connected)
      · obtain ⟨socket, held⟩ := coherent.socket_exists (.inr paused)
        obtain ⟨peer, known⟩ := Option.isSome_iff_exists.mp
          (coherent.peer.mpr (by rw [paused]; exact Phase.noConfusion))
        cases routed : session.host.route peer.address with
        | error reason =>
            have same : session.restart written = (session, .error (.io reason)) := by
              simp [restart, paused, Phase.checkOpen, Phase.isReceiving, known, held, routed]
            rw [same]
            exact .failed rfl (Deed.refusal_of_checkOpen_ok rfl checked)
        | ok source =>
            rw [restart_of_routed coherent paused known routed]
            exact .restarted paused

theorem close_of_open (checked : session.phase.checkOpen = .ok ()) (busy : Bool)
    (written : Except String Unit) :
    session.close busy written = ((session.stopReader busy written).ended, .ok ()) := by
  simp only [close, checked, ended]

theorem close_change (session : Session) (busy : Bool) (written : Except String Unit) :
    Change session (.closed busy (session.close busy written).2) (session.close busy written).1 := by
  cases checked : session.phase.checkOpen with
  | error cause =>
      have same : session.close busy written = (session, .error (.phase cause)) := by
        simp only [close, checked]
      rw [same]
      exact .failed rfl (Deed.refusal_of_checkOpen_error rfl checked)
  | ok =>
      rw [close_of_open checked]
      exact .closed (Phase.checkOpen_eq_ok_iff.mp checked)

theorem receive_change {wait : Wait} {packet : Option Packet}
    (received : session.receive wait = some (after, packet)) :
    Change session (.received wait packet) after := by
  cases queued : session.inbound with
  | cons first rest =>
      simp only [receive, queued, Option.some.injEq, Prod.mk.injEq] at received
      obtain ⟨rfl, rfl⟩ := received
      exact .received queued
  | nil =>
      cases accepting : session.accepting with
      | false =>
          simp [receive, queued, accepting] at received
          obtain ⟨rfl, rfl⟩ := received
          exact .moot (.received queued)
      | true =>
          cases wait with
          | none =>
              simp [receive, queued, accepting] at received
              obtain ⟨rfl, rfl⟩ := received
              exact .moot (.received queued)
          | forever => simp [receive, queued, accepting] at received
          | atMost nanoseconds =>
              simp [receive, queued, accepting] at received
              obtain ⟨rfl, rfl⟩ := received
              exact .outwaited _ queued

theorem arrive_change (session : Session) (datagram : List UInt8) :
    Change session (.arrived datagram session.socket.isSome) (session.arrive datagram) := by
  cases held : session.socket with
  | none =>
      have same : session.arrive datagram = session := by
        rw [arrive, held, Option.map_none, ← held]
      rw [same]
      exact .moot (.arrived held)
  | some socket =>
      rw [arrive, held, Option.map_some]
      exact .arrived held

/-- Whatever is to be kept by every step is shown by cases on what the step comes to. -/
theorem Step.change (coherent : before.Coherent) (step : Step before deed after) :
    Change before deed after := by
  cases step with
  | connect address reporting written => exact connect_change coherent address reporting written
  | send packet written => exact send_change coherent packet written
  | pause busy written => exact pause_change before busy written
  | restart written => exact restart_change coherent written
  | close busy written => exact close_change before busy written
  | receive received => exact receive_change received
  | arrive datagram => exact arrive_change before datagram
  | read listens waiting written => exact .read listens waiting
  | failRead listens cause written => exact .readFailed listens
  | elapse => exact .elapsed _
  | changeHost host => exact .hostChanged host

/-! ### What a run keeps -/

theorem Change.coherent (coherent : session.Coherent) (change : Change session deed after) :
    after.Coherent := by
  obtain ⟨reader, socket, peer, accepting, reporting, untouched⟩ := coherent
  cases change with
  | failed | moot => exact ⟨reader, socket, peer, accepting, reporting, untouched⟩
  | connected idle =>
      refine ⟨?_, ?_, ?_, ?_, ?_, ?_⟩ <;> simp [opened, beginReading, listen, record]
      rw [accepting, idle]
      exact Phase.noConfusion
  | sent usable held =>
      refine ⟨reader, ?_, peer, accepting, reporting, ?_⟩
      · exact iff_of_true rfl usable
      · intro idle
        rcases usable with connected | paused
        · cases idle.symm.trans connected
        · cases idle.symm.trans paused
  | @paused busy written connected =>
      obtain ⟨_, _, _, same, held⟩ := session.stopReader_frame busy written
      rw [same]
      refine ⟨by simp, ?_, ?_, ?_, ?_, Phase.noConfusion⟩
      · simp only [held, socket, connected]
        simp
      · simp only [peer, connected]
        simp
      · simp only [accepting, connected]
        simp
      · exact fun _ => .inr rfl
  | restarted paused =>
      refine ⟨by simp [beginReading, listen], ?_, ?_, ?_, ?_, Phase.noConfusion⟩
      · simp [beginReading, listen, record, socket, paused]
      · simp [beginReading, listen, record, peer, paused]
      · simp [beginReading, listen, record, accepting, paused]
      · exact fun _ => .inl rfl
  | @closed busy written usable =>
      obtain ⟨_, _, _, same, _⟩ := session.stopReader_frame busy written
      rw [same]
      refine ⟨by simp [ended], by simp [ended], ?_, by simp [ended], by simp [ended],
        Phase.noConfusion⟩
      have met : session.peer.isSome = true := by
        rw [peer]
        rcases usable with connected | paused
        · rw [connected]
          exact Phase.noConfusion
        · rw [paused]
          exact Phase.noConfusion
      exact iff_of_true met Phase.noConfusion
  | received => exact ⟨reader, socket, peer, accepting, reporting, untouched⟩
  | arrived held =>
      rw [held] at socket
      exact ⟨reader, socket, peer, accepting, reporting, untouched⟩
  | @read _ _ written listens =>
      obtain ⟨_, _, _, _, same, held, kept, _⟩ := session.readNext_frame (some written)
      rw [same]
      refine ⟨?_, ?_, peer, accepting, reporting, ?_⟩
      · rw [kept]
        exact reader
      · rw [held]
        exact socket
      · intro idle
        cases idle.symm.trans (reader.mp (reader_isSome_of_silentAt listens))
  | @readFailed cause written listens =>
      obtain ⟨_, _, same, _⟩ := session.failRead_frame cause written
      have connected := reader.mp (reader_isSome_of_silentAt listens)
      rw [same]
      refine ⟨iff_of_true rfl connected, socket, peer, accepting, reporting, ?_⟩
      intro idle
      cases idle.symm.trans connected
  | outwaited instant | elapsed instant =>
      obtain ⟨_, _, same, kept, _, silent⟩ := session.elapse_frame instant
      rw [same]
      refine ⟨?_, socket, peer, accepting, reporting, ?_⟩
      · rw [kept]
        exact reader
      · intro idle
        have unread := Coherent.silentAt_eq_none
          ⟨reader, socket, peer, accepting, reporting, untouched⟩
          fun connected => by cases connected.symm.trans idle
        exact (silent unread).trans (untouched idle)
  | hostChanged => exact ⟨reader, socket, peer, accepting, reporting, untouched⟩

theorem Change.settings (change : Change session deed after) :
    after.settings = session.settings := by
  cases change with
  | @paused busy written =>
      obtain ⟨_, _, _, same, _⟩ := session.stopReader_frame busy written
      rw [same]
  | @closed busy written =>
      obtain ⟨_, _, _, same, _⟩ := session.stopReader_frame busy written
      rw [same]
      rfl
  | @read _ _ written =>
      obtain ⟨_, _, _, _, same, _⟩ := session.readNext_frame (some written)
      rw [same]
  | @readFailed cause written =>
      obtain ⟨_, _, same, _⟩ := session.failRead_frame cause written
      rw [same]
  | outwaited instant | elapsed instant =>
      obtain ⟨_, _, same, _⟩ := session.elapse_frame instant
      rw [same]
  | _ => rfl

theorem Coherent.unread_of_closed (coherent : session.Coherent)
    (closed : session.phase = .closed) : session.unread = [] := by
  have unbound : session.socket = none := by
    rw [← Option.not_isSome_iff_eq_none, coherent.socket, closed]
    simp
  rw [unread, unbound]

theorem Change.reads (coherent : session.Coherent) (change : Change session deed after)
    (inner : deed.isInner = true) :
    ∃ datagrams, Reads session datagrams after ∧ (deed.mayRead = false → datagrams = []) := by
  cases change with
  | failed | moot => exact ⟨[], .refl session, fun _ => rfl⟩
  | connected idle => exact ⟨[], opened_reads coherent idle _, fun _ => rfl⟩
  | @paused busy written connected =>
      obtain ⟨datagrams, reads, idle⟩ := session.stopReader_reads busy written
      refine ⟨datagrams, reads.withPhase .paused, fun calm => idle ?_⟩
      cases busy with
      | false => rfl
      | true => cases calm
  | @restarted written =>
      exact ⟨[], (session.beginReading_reads written).withPhase .connected, fun _ => rfl⟩
  | @read _ _ written =>
      obtain ⟨datagrams, reads⟩ := session.readNext_reads (some written)
      exact ⟨datagrams, reads, nofun⟩
  | @readFailed cause written =>
      exact ⟨[], session.failRead_reads cause written, fun _ => rfl⟩
  | outwaited instant | elapsed instant =>
      exact ⟨[], session.elapse_reads instant, fun _ => rfl⟩
  | hostChanged => exact ⟨[], .nothing [] rfl (by simp) rfl rfl, fun _ => rfl⟩
  | sent | closed | received | arrived => cases inner

theorem Run.coherent (run : Run first log last) (coherent : first.Coherent) : last.Coherent := by
  induction run with
  | refl => exact coherent
  | step _ step ih => exact (step.change ih).coherent ih

theorem Run.settings (run : Run first log last) (coherent : first.Coherent) :
    last.settings = first.settings := by
  induction run with
  | refl => rfl
  | step run step ih => exact (step.change (run.coherent coherent)).settings.trans ih

end Session

end VehicleLink
