import VehicleLink.Proofs.Link.Counting

/-!
What the reader of a link does. Reading moves datagrams from the socket into the history and their
packets into the queue; it leaves all else alone.
-/

namespace VehicleLink.Session

variable {session before middle after : Session} {datagrams more : List (List UInt8)}

namespace Incident

def reading? : Incident → Option (List UInt8)
  | .read datagram => some datagram
  | .readerStarted | .readerStopped | .disturbed | .keptAlive | .refused _ | .sent _ | .silent => none

def traffic? : Incident → Option Socket.Traffic
  | .read _ => some .datagram
  | .sent _ => some .send
  | .readerStarted | .readerStopped | .disturbed | .keptAlive | .refused _ | .silent => none

@[simp] theorem reading?_read (datagram : List UInt8) : (read datagram).reading? = some datagram :=
  rfl

@[simp] theorem traffic?_read (datagram : List UInt8) : (read datagram).traffic? = some .datagram :=
  rfl

variable (written : Except String Unit)

@[simp] theorem reading?_keepAlive : (keepAlive written).reading? = none := by
  cases written <;> rfl

@[simp] theorem traffic?_keepAlive : (keepAlive written).traffic? = none := by
  cases written <;> rfl

@[simp] theorem keepAlive_ne_silent : keepAlive written ≠ .silent := by
  cases written <;> exact Incident.noConfusion

@[simp] theorem keepAlive_ne_sent (frame : List UInt8) : keepAlive written ≠ .sent frame := by
  cases written <;> exact Incident.noConfusion

end Incident

/-- The datagrams that have been read since the last application send. -/
def readSinceSend (session : Session) : Nat :=
  Socket.sinceSend (session.history.filterMap (·.2.traffic?))

/-- The datagrams that have been read, in order. -/
def readings (session : Session) : List (List UInt8) :=
  (session.history.filterMap (·.2.reading?)).reverse

/-- The packets of datagrams as far as these are read; what holds no packet is left out. -/
def packetsIn (settings : Settings) (datagrams : List (List UInt8)) : List Packet :=
  datagrams.filterMap fun datagram =>
    (Packet.decode (datagram.take settings.receiveBufferSize)).toOption

/-- What a reader does about a datagram that is counted at a socket. -/
def answerAt (session : Session) (socket : Socket) : Option (Except String Unit) → List Incident
  | some written =>
      if session.settings.keepAliveThreshold < socket.noteDatagram.2 then [.keepAlive written] else []
  | none => []

theorem answerAt_cases (session : Session) (socket : Socket)
    (written : Option (Except String Unit)) :
    session.answerAt socket written = [] ∨
      ∃ outcome, session.answerAt socket written = [.keepAlive outcome] := by
  cases written with
  | none => exact .inl rfl
  | some outcome =>
      rw [answerAt]
      split
      · exact .inr ⟨outcome, rfl⟩
      · exact .inl rfl

theorem enqueue_eq (bytes : List UInt8) :
    session.enqueue bytes =
      { session with inbound := session.inbound ++ (Packet.decode bytes).toOption.toList } := by
  cases decoded : Packet.decode bytes with
  | ok packet => simp [enqueue, decoded, Except.toOption]
  | error error => simp [enqueue, decoded, Except.toOption]

theorem read_eq (socket : Socket) (datagram : List UInt8) (written : Option (Except String Unit)) :
    session.read socket datagram written = { session with
      socket := some socket.noteDatagram.1
      reader := some (.listening session.nextSilence)
      inbound := session.inbound ++ packetsIn session.settings [datagram]
      history := (session.answerAt socket written).map (session.clock, ·) ++
        (session.clock, .read datagram) :: session.history } := by
  have queued : (Packet.decode (session.visible datagram)).toOption.toList =
      packetsIn session.settings [datagram] := by
    simp only [packetsIn, visible, List.filterMap_cons, List.filterMap_nil]
    cases (Packet.decode (datagram.take session.settings.receiveBufferSize)).toOption <;> rfl
  cases written with
  | none => simp only [read, enqueue_eq, queued]; rfl
  | some outcome =>
      simp only [read, enqueue_eq, queued, answerAt]
      split <;> rfl

theorem reader_isSome_of_silentAt (listens : session.silentAt.isSome = true) :
    session.reader.isSome = true := by
  cases reader : session.reader with
  | none => simp [silentAt, reader] at listens
  | some reader => rfl

theorem readNext_of_waiting {socket : Socket} {due : Nat} {datagram : List UInt8}
    {rest : List (List UInt8)} (listens : session.silentAt = some due)
    (held : session.socket = some socket) (waiting : socket.unread = datagram :: rest)
    (written : Option (Except String Unit)) :
    session.readNext written = session.read { socket with unread := rest } datagram written := by
  simp only [readNext, listens, held, waiting]

/-- A reader with nothing to read does nothing. -/
theorem readNext_cases (session : Session) (written : Option (Except String Unit)) :
    session.readNext written = session ∨
      ∃ due socket datagram rest, session.silentAt = some due ∧ session.socket = some socket ∧
        socket.unread = datagram :: rest ∧
        session.readNext written =
          session.read { socket with unread := rest } datagram written := by
  cases listens : session.silentAt with
  | none => exact .inl (by simp only [readNext, listens])
  | some due =>
      cases held : session.socket with
      | none => exact .inl (by simp only [readNext, listens, held])
      | some socket =>
          cases waiting : socket.unread with
          | nil => exact .inl (by simp only [readNext, listens, held, waiting])
          | cons datagram rest =>
              exact .inr ⟨due, socket, datagram, rest, rfl, rfl, waiting,
                readNext_of_waiting listens held waiting written⟩

theorem readNext_frame (session : Session) (written : Option (Except String Unit)) :
    ∃ socket reader inbound history,
      session.readNext written = { session with socket, reader, inbound, history } ∧
        socket.isSome = session.socket.isSome ∧ reader.isSome = session.reader.isSome ∧
        (reader.bind Reader.silentAt).isSome = session.silentAt.isSome := by
  rcases session.readNext_cases written with
    same | ⟨due, socket, datagram, rest, listens, held, _, same⟩
  · exact ⟨_, _, _, _, same, rfl, rfl, rfl⟩
  · rw [read_eq] at same
    have reader := reader_isSome_of_silentAt (by rw [listens]; rfl)
    exact ⟨_, _, _, _, same, by rw [held]; rfl, reader.symm, by rw [listens]; rfl⟩

theorem stopReader_frame (session : Session) (busy : Bool) (written : Except String Unit) :
    ∃ socket inbound history,
      session.stopReader busy written = { session with socket, reader := none, inbound, history } ∧
        socket.isSome = session.socket.isSome := by
  cases listens : session.silentAt with
  | none =>
      refine ⟨session.socket, session.inbound, session.history, ?_, rfl⟩
      simp only [stopReader, listens]
  | some due =>
      cases busy with
      | false =>
          refine ⟨session.socket, session.inbound, (session.endReading written).history, ?_, rfl⟩
          simp only [stopReader, listens]
          rfl
      | true =>
          obtain ⟨socket, reader, inbound, history, same, held, _⟩ := session.readNext_frame none
          refine ⟨socket, inbound, ((session.readNext none).endReading written).history, ?_, held⟩
          simp only [stopReader, listens, if_true, same]
          rfl

/-- A reader that cannot read stays the reader of its link. -/
theorem failRead_frame (session : Session) (cause : ReadError) (written : Except String Unit) :
    ∃ reader history,
      session.failRead cause written = { session with reader := some reader, history } ∧
      reader.silentAt.isSome = cause.isTransient := by
  unfold failRead
  cases transient : cause.isTransient with
  | true => exact ⟨.listening session.nextSilence, _, rfl, rfl⟩
  | false => exact ⟨.ended, _, rfl, rfl⟩

theorem elapse_frame (session : Session) (instant : Nat) :
    ∃ reader history,
      session.elapse instant = { session with clock := instant, reader, history } ∧
        reader.isSome = session.reader.isSome ∧
        (reader.bind Reader.silentAt).isSome = session.silentAt.isSome ∧
        (session.silentAt = none → history = session.history) := by
  cases listens : session.silentAt with
  | none =>
      refine ⟨session.reader, session.history, ?_, rfl, ?_, fun _ => rfl⟩
      · simp only [elapse, listens]
      · rw [← listens]
        rfl
  | some due =>
      have reader := reader_isSome_of_silentAt (by rw [listens]; rfl)
      refine ⟨(session.elapse instant).reader, (session.elapse instant).history, ?_, ?_, ?_, nofun⟩
      all_goals simp only [elapse, listens]
      · exact reader.symm
      · rfl

theorem elapse_history (session : Session) (instant : Nat) :
    ∃ recent, (session.elapse instant).history = recent ++ session.history ∧
      ∀ entry ∈ recent, entry.2 = .silent := by
  cases listens : session.silentAt with
  | none =>
      refine ⟨[], ?_, by simp⟩
      simp only [elapse, listens, List.nil_append]
  | some due =>
      simp only [elapse, listens]
      refine ⟨_, rfl, ?_⟩
      cases session.reporting <;> simp

/-! ### Reading -/

/-- Between two sessions these datagrams were read, and nothing else came in, was taken out or was
sent. -/
structure Reads (before : Session) (datagrams : List (List UInt8)) (after : Session) : Prop where
  readings : after.readings = before.readings ++ datagrams
  unread : before.unread = datagrams ++ after.unread
  inbound : after.inbound = before.inbound ++ packetsIn before.settings datagrams
  count : after.keepAliveCount = before.keepAliveCount + UInt32.ofNat datagrams.length
  sinceSend : after.readSinceSend = before.readSinceSend + datagrams.length

theorem Reads.nothing (recent : List (Nat × Incident))
    (history : after.history = recent ++ before.history)
    (quiet : ∀ entry ∈ recent, entry.2.traffic? = none) (socket : after.socket = before.socket)
    (inbound : after.inbound = before.inbound) : Reads before [] after where
  readings := by
    have none_read : recent.filterMap (·.2.reading?) = [] := by
      rw [List.filterMap_eq_nil_iff]
      intro entry member
      have quiet := quiet entry member
      cases incident : entry.2 <;> simp_all [Incident.traffic?, Incident.reading?]
    simp only [Session.readings, history, List.filterMap_append, none_read, List.nil_append,
      List.append_nil]
  unread := by simp only [Session.unread, socket, List.nil_append]
  inbound := by rw [inbound, packetsIn, List.filterMap_nil, List.append_nil]
  count := by simp [keepAliveCount, socket]
  sinceSend := by
    simp only [readSinceSend, history, List.filterMap_append, List.filterMap_eq_nil_iff.mpr quiet,
      List.nil_append, List.length_nil, Nat.add_zero]

theorem Reads.refl (session : Session) : Reads session [] session :=
  .nothing [] rfl (by simp) rfl rfl

theorem Reads.trans {datagrams later : List (List UInt8)} (first : Reads before datagrams middle)
    (rest : Reads middle later after) (settings : middle.settings = before.settings) :
    Reads before (datagrams ++ later) after where
  readings := by rw [rest.readings, first.readings, List.append_assoc]
  unread := by rw [first.unread, rest.unread, List.append_assoc]
  inbound := by
    rw [rest.inbound, first.inbound, settings, List.append_assoc]
    exact congrArg _ List.filterMap_append.symm
  count := by
    rw [rest.count, first.count, List.length_append, UInt32.ofNat_add, UInt32.add_assoc]
  sinceSend := by rw [rest.sinceSend, first.sinceSend, List.length_append, Nat.add_assoc]

theorem Reads.withPhase {datagrams : List (List UInt8)} (reads : Reads before datagrams after)
    (phase : Phase) : Reads before datagrams { after with phase } :=
  ⟨reads.readings, reads.unread, reads.inbound, reads.count, reads.sinceSend⟩

theorem reads_read {socket : Socket} {datagram : List UInt8} {rest : List (List UInt8)}
    (held : session.socket = some socket) (waiting : socket.unread = datagram :: rest)
    (written : Option (Except String Unit)) :
    Reads session [datagram]
      (session.read { socket with unread := rest } datagram written) := by
  rw [read_eq]
  refine ⟨?_, ?_, rfl, ?_, ?_⟩
  · rcases session.answerAt_cases { socket with unread := rest } written with same | ⟨_, same⟩ <;>
      simp [Session.readings, same]
  · simp only [unread, held, waiting]
    rfl
  · simp only [keepAliveCount, held]
    rfl
  · rcases session.answerAt_cases { socket with unread := rest } written with same | ⟨_, same⟩ <;>
      simp [readSinceSend, same, Socket.sinceSend]

theorem readNext_reads (session : Session) (written : Option (Except String Unit)) :
    ∃ datagrams, Reads session datagrams (session.readNext written) := by
  rcases session.readNext_cases written with
    same | ⟨_, socket, datagram, rest, _, held, waiting, same⟩
  · exact ⟨[], by rw [same]; exact .refl session⟩
  · exact ⟨[datagram], by rw [same]; exact reads_read held waiting written⟩

theorem beginReading_reads (session : Session) (written : Except String Unit) :
    Reads session [] (session.beginReading written) :=
  .nothing [(session.clock, .keepAlive written), (session.clock, .readerStarted)] rfl
    (by cases written <;> simp [Incident.keepAlive, Incident.traffic?]) rfl rfl

theorem endReading_reads (session : Session) (written : Except String Unit) :
    Reads session [] (session.endReading written) :=
  .nothing [(session.clock, .readerStopped), (session.clock, .keepAlive written)] rfl
    (by cases written <;> simp [Incident.keepAlive, Incident.traffic?]) rfl rfl

theorem Reads.withReader {datagrams : List (List UInt8)} (reads : Reads before datagrams after)
    (reader : Option Reader) : Reads before datagrams { after with reader } :=
  ⟨reads.readings, reads.unread, reads.inbound, reads.count, reads.sinceSend⟩

theorem failRead_reads (session : Session) (cause : ReadError) (written : Except String Unit) :
    Reads session [] (session.failRead cause written) := by
  unfold failRead
  split
  · exact .nothing [(session.clock, .disturbed)] rfl (by simp [Incident.traffic?]) rfl rfl
  · exact (session.endReading_reads written).withReader _

/-- A reader that is not busy takes nothing more. -/
theorem stopReader_reads (session : Session) (busy : Bool) (written : Except String Unit) :
    ∃ datagrams, Reads session datagrams (session.stopReader busy written) ∧
      (busy = false → datagrams = []) := by
  cases listens : session.silentAt with
  | none =>
      refine ⟨[], ?_, fun _ => rfl⟩
      simp only [stopReader, listens]
      exact (Reads.refl session).withReader none
  | some due =>
      cases busy with
      | false =>
          refine ⟨[], ?_, fun _ => rfl⟩
          simp only [stopReader, listens]
          exact session.endReading_reads written
      | true =>
          obtain ⟨datagrams, reads⟩ := session.readNext_reads none
          obtain ⟨_, _, _, _, same, _⟩ := session.readNext_frame none
          refine ⟨datagrams, ?_, nofun⟩
          have settings : (session.readNext none).settings = session.settings := by rw [same]
          have stopped := reads.trans (endReading_reads _ written) settings
          rw [List.append_nil] at stopped
          simpa only [stopReader, listens, if_true] using stopped

/-- While time passes nothing is read. -/
theorem elapse_reads (session : Session) (instant : Nat) :
    Reads session [] (session.elapse instant) := by
  obtain ⟨recent, history, silent⟩ := session.elapse_history instant
  obtain ⟨_, _, same, _⟩ := session.elapse_frame instant
  refine .nothing recent history ?_ (by rw [same]) (by rw [same])
  intro entry member
  rw [silent entry member]
  rfl

end VehicleLink.Session
