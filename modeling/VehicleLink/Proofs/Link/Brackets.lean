import VehicleLink.Proofs.Link.KeepAlive

/-!
How a link brackets what it receives. A reader writes a keep-alive before it takes the first datagram
and again after the last one, whatever starts it and stops it, and whatever the socket makes of it.
Without a reader nothing goes out but what the application sends, and over a closed link nothing at
all.
-/

namespace VehicleLink.Session

variable {settings : Settings} {host : Host} {session before middle after last : Session}
variable {deed : Deed} {log more : List Deed} {written : Except String Unit}
variable {recent later : List (Nat × Incident)}

/-- Between two sessions this has happened, in order. -/
def Adds (before : Session) (recent : List (Nat × Incident)) (after : Session) : Prop :=
  after.history = recent.reverse ++ before.history

theorem Adds.refl (session : Session) : Adds session [] session := rfl

theorem Adds.trans (first : Adds before recent middle) (rest : Adds middle later after) :
    Adds before (recent ++ later) after := by
  rw [Adds, rest, first, List.reverse_append, List.append_assoc]

/-! ### What starts and stops a reader -/

def Deed.starts : Deed → Phase → Bool
  | .connected _ (.ok _), _ | .restarted (.ok _), .paused => true
  | _, _ => false

def Deed.stops : Deed → Phase → Bool
  | .paused _ (.ok _), .connected | .closed _ (.ok _), .connected => true
  | _, _ => false

def Deed.isLifecycle : Deed → Bool
  | .connected .. | .paused .. | .restarted _ | .closed .. => true
  | .sent .. | .received .. | .arrived .. | .read _ | .readFailed _ | .waited | .hostChanged => false

/-- The frame that the application has sent in a deed. -/
def Deed.frame? : Deed → Option (List UInt8)
  | .sent packet (.ok _) => packet.encode.toOption
  | .sent _ (.error _) | .connected .. | .paused .. | .restarted _ | .closed .. | .received ..
  | .arrived .. | .read _ | .readFailed _ | .waited | .hostChanged => none

def frames (log : List Deed) : List (List UInt8) := (log.filterMap Deed.frame?).reverse

theorem Deed.frame?_of_error {error : TransportError}
    (failed : deed.outcome? = some (.error error)) : deed.frame? = none := by
  cases deed <;> simp_all [outcome?, frame?]

theorem Deed.starts_of_error {error : TransportError}
    (failed : deed.outcome? = some (.error error)) (phase : Phase) :
    deed.starts phase = false := by
  cases deed <;> simp_all [outcome?, starts]

theorem Moot.starts (moot : Moot session deed) : deed.starts session.phase = false := by
  cases moot with
  | restarted already => rw [already]; rfl
  | paused | received | arrived => rfl

/-- What a reader does when it starts. -/
def opening (session : Session) (written : Except String Unit) : List (Nat × Incident) :=
  [(session.clock, .readerStarted), (session.clock, .keepAlive written)]

/-- What a reader does when it stops, after the datagrams that it still takes. -/
def ending (session : Session) (datagrams : List (List UInt8)) (written : Except String Unit) :
    List (Nat × Incident) :=
  datagrams.map (session.clock, .read ·) ++
    [(session.clock, .keepAlive written), (session.clock, .readerStopped)]

theorem readNext_adds (session : Session) :
    ∃ datagrams : List (List UInt8), datagrams.length ≤ 1 ∧
      Adds session (datagrams.map (session.clock, .read ·)) (session.readNext none) ∧
      (session.readNext none).keepAliveCount =
        session.keepAliveCount + UInt32.ofNat datagrams.length := by
  rcases session.readNext_cases none with
    same | ⟨due, socket, datagram, rest, _, held, waiting, same⟩
  · refine ⟨[], Nat.zero_le _, ?_, ?_⟩
    · rw [same]
      exact .refl session
    · rw [same]
      exact (UInt32.add_zero _).symm
  · refine ⟨[datagram], Nat.le_refl _, ?_, ?_⟩
    · rw [same, read_eq]
      rfl
    · rw [same]
      exact (reads_read held waiting none).count

/-- A reader stops with a keep-alive. If it is busy it takes one more datagram before, which it
counts and does not answer. -/
theorem stopReader_adds (listens : session.silentAt.isSome = true) (busy : Bool)
    (written : Except String Unit) :
    ∃ datagrams : List (List UInt8), datagrams.length ≤ 1 ∧ (busy = false → datagrams = []) ∧
      Adds session (session.ending datagrams written) (session.stopReader busy written) ∧
      (session.stopReader busy written).keepAliveCount =
        session.keepAliveCount + UInt32.ofNat datagrams.length := by
  obtain ⟨due, listens⟩ := Option.isSome_iff_exists.mp listens
  simp only [stopReader, listens]
  cases busy with
  | false => exact ⟨[], Nat.zero_le _, fun _ => rfl, rfl, (UInt32.add_zero _).symm⟩
  | true =>
      obtain ⟨datagrams, few, adds, counted⟩ := session.readNext_adds
      obtain ⟨_, _, _, _, same, _⟩ := session.readNext_frame none
      have clock : (session.readNext none).clock = session.clock := by rw [same]
      refine ⟨datagrams, few, Bool.noConfusion, adds.trans ?_, counted⟩
      simp [Adds, endReading, record, clock]

/-- A reader that has ended is only forgotten. -/
theorem stopReader_of_silent (unread : session.silentAt = none) (busy : Bool)
    (written : Except String Unit) :
    session.stopReader busy written = { session with reader := none } := by
  simp only [stopReader, unread]

theorem Coherent.unread_of_paused (coherent : session.Coherent)
    (paused : session.phase = .paused) : session.silentAt = none :=
  coherent.silentAt_eq_none (by rw [paused]; exact Phase.noConfusion)

/-- What comes of a reader that cannot read. -/
def failure (session : Session) (cause : ReadError) (written : Except String Unit) :
    List (Nat × Incident) :=
  if cause.isTransient then [(session.clock, .disturbed)] else session.ending [] written

theorem failRead_adds (session : Session) (cause : ReadError) (written : Except String Unit) :
    Adds session (session.failure cause written) (session.failRead cause written) ∧
      (session.failRead cause written).keepAliveCount = session.keepAliveCount := by
  unfold failure failRead
  split <;> exact ⟨rfl, rfl⟩

/-- A reader that is started writes a keep-alive. -/
theorem connect_adds (coherent : session.Coherent) {address : String} {reporting : Bool}
    (connected : session.connect address reporting written = (after, .ok ())) :
    Adds session (session.opening written) after ∧
      after.keepAliveCount = session.keepAliveCount := by
  obtain ⟨idle, ip, port, source, parsed, bound, routed⟩ :=
    (connect_ok_iff coherent address reporting written).mp (congrArg Prod.snd connected)
  rw [connect_of_routed coherent idle written parsed bound routed] at connected
  cases connected
  refine ⟨rfl, ?_⟩
  rw [(opened_reads coherent idle written).count]
  exact UInt32.add_zero _

theorem restart_adds (coherent : session.Coherent) (paused : session.phase = .paused)
    (restarted : session.restart written = (after, .ok ())) :
    Adds session (session.opening written) after ∧
      after.keepAliveCount = session.keepAliveCount := by
  rcases (restart_ok_iff coherent written).mp (congrArg Prod.snd restarted) with
    connected | ⟨_, peer, source, known, routed⟩
  · cases paused.symm.trans connected
  · rw [restart_of_routed coherent paused known routed] at restarted
    cases restarted
    exact ⟨rfl, rfl⟩

/-! ### One deed -/

theorem Change.starts (change : Change session deed after)
    (starts : deed.starts session.phase = true) : after.phase = .connected := by
  cases change with
  | failed outcome => simp [Deed.starts_of_error outcome] at starts
  | moot moot => simp [moot.starts] at starts
  | connected | restarted => rfl
  | sent | paused | closed | received | arrived | read | readFailed | outwaited | elapsed
  | hostChanged => cases starts

theorem Change.idles (coherent : session.Coherent) (change : Change session deed after)
    (lifecycle : deed.isLifecycle = true) (unstarted : deed.starts session.phase = false)
    (unstopped : deed.stops session.phase = false) : after.history = session.history := by
  cases change with
  | failed | moot => rfl
  | connected => cases unstarted
  | paused connected =>
      rw [connected] at unstopped
      cases unstopped
  | restarted paused =>
      rw [paused] at unstarted
      cases unstarted
  | closed usable =>
      rcases usable with connected | paused
      · rw [connected] at unstopped
        cases unstopped
      · rw [stopReader_of_silent (coherent.unread_of_paused paused)]
        rfl
  | sent | received | arrived | read | readFailed | outwaited | elapsed | hostChanged =>
      cases lifecycle

/-- Without a reader nothing happens but what the application sends. -/
theorem Change.apart (coherent : session.Coherent) (change : Change session deed after)
    (unread : session.phase ≠ .connected) (unstarted : deed.starts session.phase = false) :
    Adds session (deed.frame?.toList.map (session.clock, .sent ·)) after := by
  have silent := coherent.silentAt_eq_none unread
  cases change with
  | failed outcome => rw [Deed.frame?_of_error outcome]; rfl
  | moot moot => cases moot <;> rfl
  | connected => cases unstarted
  | sent usable held encoded => simp [Adds, Deed.frame?, encoded, Except.toOption, record]
  | paused connected => exact absurd connected unread
  | restarted paused =>
      rw [paused] at unstarted
      cases unstarted
  | closed usable => rw [stopReader_of_silent silent]; rfl
  | read listens | readFailed listens => rw [silent] at listens; cases listens
  | outwaited instant | elapsed instant =>
      obtain ⟨_, _, same, _, _, kept⟩ := session.elapse_frame instant
      rw [same]
      exact kept silent
  | received | arrived | hostChanged => rfl

theorem Change.frame?_of_closed (change : Change session deed after)
    (closed : session.phase = .closed) : deed.frame? = none := by
  cases change with
  | failed outcome => exact Deed.frame?_of_error outcome
  | moot moot => cases moot <;> rfl
  | sent usable => rw [closed] at usable; rcases usable with usable | usable <;> cases usable
  | connected | paused | restarted | closed | received | arrived | read | readFailed | outwaited
  | elapsed | hostChanged => rfl

theorem Change.unstarted (change : Change session deed after)
    (unread : after.phase ≠ .connected) : deed.starts session.phase = false := by
  rw [← Bool.not_eq_true]
  exact fun starts => unread (change.starts starts)

/-! ### All of a link's life -/

/-- What can have happened when a link is in a phase, with or without a reader that listens, the
latest first. A reader is there from one keep-alive to another, in between it says no more than its
answers, and without it frames are all that is sent. -/
inductive Bracketed : Phase → Bool → List Incident → Prop
  | idle : Bracketed .idle false []
  | started {phase : Phase} {incidents : List Incident} (written : Except String Unit)
      (unread : phase = .idle ∨ phase = .paused) (before : Bracketed phase false incidents) :
      Bracketed .connected true (.keepAlive written :: .readerStarted :: incidents)
  | sent {phase : Phase} {listens : Bool} {incidents : List Incident} {frame : List UInt8}
      (usable : phase = .connected ∨ phase = .paused) (before : Bracketed phase listens incidents) :
      Bracketed phase listens (.sent frame :: incidents)
  | read {incidents : List Incident} {datagram : List UInt8}
      (before : Bracketed .connected true incidents) :
      Bracketed .connected true (.read datagram :: incidents)
  | answered {incidents : List Incident} {datagram : List UInt8} (written : Except String Unit)
      (before : Bracketed .connected true (.read datagram :: incidents)) :
      Bracketed .connected true (.keepAlive written :: .read datagram :: incidents)
  | silent {incidents : List Incident} (before : Bracketed .connected true incidents) :
      Bracketed .connected true (.silent :: incidents)
  | disturbed {incidents : List Incident} (before : Bracketed .connected true incidents) :
      Bracketed .connected true (.disturbed :: incidents)
  /-- A reader is stopped, or it has come to its end while the link stays connected. -/
  | stopped {phase : Phase} {incidents : List Incident} (written : Except String Unit)
      (begun : phase ≠ .idle) (before : Bracketed .connected true incidents) :
      Bracketed phase false (.readerStopped :: .keepAlive written :: incidents)
  | forgotten {phase : Phase} {incidents : List Incident} (begun : phase ≠ .idle)
      (before : Bracketed .connected false incidents) : Bracketed phase false incidents
  | closed {incidents : List Incident} (before : Bracketed .paused false incidents) :
      Bracketed .closed false incidents

/-- What has happened so far, without the time and the latest first. -/
def incidents (session : Session) : List Incident := session.history.map (·.2)

theorem Adds.incidents (adds : Adds before recent after) :
    after.incidents = (recent.map (·.2)).reverse ++ before.incidents := by
  rw [Session.incidents, adds, List.map_append, List.map_reverse]
  rfl

theorem Bracketed.reads {incidents : List Incident} (before : Bracketed .connected true incidents)
    (datagrams : List (List UInt8)) :
    Bracketed .connected true ((datagrams.map .read).reverse ++ incidents) := by
  induction datagrams generalizing incidents with
  | nil => exact before
  | cons datagram rest ih =>
      rw [List.map_cons, List.reverse_cons, List.append_assoc]
      exact ih before.read

theorem Bracketed.silences {incidents : List Incident}
    (before : Bracketed .connected true incidents) (recent : List (Nat × Incident))
    (silent : ∀ entry ∈ recent, entry.2 = .silent) :
    Bracketed .connected true (recent.map (·.2) ++ incidents) := by
  induction recent with
  | nil => exact before
  | cons entry rest ih =>
      rw [List.map_cons, silent entry (.head _)]
      exact (ih fun entry member => silent entry (.tail _ member)).silent

/-- What a link has done is bracketed as its phase and its reader have it. -/
def IsBracketed (session : Session) : Prop :=
  Bracketed session.phase session.silentAt.isSome session.incidents

theorem IsBracketed.of_listening (bracketed : session.IsBracketed)
    (connected : session.phase = .connected) (listens : session.silentAt.isSome = true) :
    Bracketed .connected true session.incidents := by
  rwa [IsBracketed, connected, listens] at bracketed

theorem IsBracketed.of_silent {phase : Phase} (bracketed : session.IsBracketed)
    (same : session.phase = phase) (silent : session.silentAt = none) :
    Bracketed phase false session.incidents := by
  rwa [IsBracketed, same, silent] at bracketed

theorem stopReader_bracketed {phase : Phase} (bracketed : session.IsBracketed)
    (connected : session.phase = .connected) (begun : phase ≠ .idle) (busy : Bool)
    (written : Except String Unit) :
    Bracketed phase false (session.stopReader busy written).incidents := by
  cases reading : session.silentAt with
  | none =>
      rw [stopReader_of_silent reading]
      exact .forgotten begun (bracketed.of_silent connected reading)
  | some due =>
      have listens : session.silentAt.isSome = true := by rw [reading]; rfl
      obtain ⟨datagrams, _, _, adds, _⟩ := stopReader_adds listens busy written
      have incidents : (session.stopReader busy written).incidents = .readerStopped ::
          .keepAlive written :: ((datagrams.map .read).reverse ++ session.incidents) := by
        simp [adds.incidents, ending]
      rw [incidents]
      exact .stopped written begun ((bracketed.of_listening connected listens).reads datagrams)

theorem elapse_bracketed (coherent : session.Coherent) (bracketed : session.IsBracketed)
    (instant : Nat) : (session.elapse instant).IsBracketed := by
  obtain ⟨recent, history, silent⟩ := session.elapse_history instant
  obtain ⟨reader, extended, same, _, kept, still⟩ := session.elapse_frame instant
  have phase : (session.elapse instant).phase = session.phase := by rw [same]
  have listens : (session.elapse instant).silentAt.isSome = session.silentAt.isSome := by
    rw [same]
    exact kept
  rw [IsBracketed, phase, listens, incidents, history, List.map_append]
  cases reading : session.silentAt with
  | none =>
      have unmoved : recent ++ session.history = session.history := by
        rw [← history, same]
        exact still reading
      rw [List.append_left_eq_self.mp unmoved]
      exact bracketed.of_silent rfl reading
  | some due =>
      have listens : session.silentAt.isSome = true := by rw [reading]; rfl
      have connected := coherent.connected listens
      rw [connected]
      exact (bracketed.of_listening connected listens).silences recent silent

theorem Change.bracketed (coherent : session.Coherent) (change : Change session deed after)
    (bracketed : session.IsBracketed) : after.IsBracketed := by
  cases change with
  | failed | moot | received | arrived | hostChanged => exact bracketed
  | @connected _ _ _ _ _ written idle =>
      have silent := coherent.silentAt_eq_none (by rw [idle]; exact Phase.noConfusion)
      exact .started written (.inl rfl) (bracketed.of_silent idle silent)
  | sent usable => exact .sent usable bracketed
  | @paused busy written connected =>
      have stopped : Bracketed .paused false (session.stopReader busy written).incidents :=
        stopReader_bracketed bracketed connected Phase.noConfusion busy written
      obtain ⟨_, _, _, same, _⟩ := session.stopReader_frame busy written
      rw [same] at stopped ⊢
      exact stopped
  | @restarted written paused =>
      have silent := coherent.unread_of_paused paused
      exact .started written (.inr rfl) (bracketed.of_silent paused silent)
  | @closed busy written usable =>
      have closed : Bracketed .closed false (session.stopReader busy written).incidents := by
        rcases usable with connected | paused
        · exact stopReader_bracketed bracketed connected Phase.noConfusion busy written
        · have silent := coherent.unread_of_paused paused
          rw [stopReader_of_silent silent]
          exact .closed (bracketed.of_silent paused silent)
      obtain ⟨_, _, _, same, _⟩ := session.stopReader_frame busy written
      rw [same] at closed ⊢
      exact closed
  | @read datagram rest written listens waiting =>
      obtain ⟨socket, _, history⟩ := readNext_history listens waiting
      have connected := coherent.connected listens
      obtain ⟨_, _, _, _, same, _, _, kept⟩ := session.readNext_frame (some written)
      have phase : (session.readNext (some written)).phase = .connected := by rw [same, connected]
      have listening : (session.readNext (some written)).silentAt.isSome = true := by
        rw [same]
        exact kept.trans listens
      have read : Bracketed .connected true (.read datagram :: session.incidents) :=
        (bracketed.of_listening connected listens).read
      rw [IsBracketed, phase, listening, incidents, history]
      rcases session.answerAt_cases { socket with unread := rest } (some written) with
        unanswered | ⟨outcome, answered⟩
      · rw [unanswered]
        exact read
      · rw [answered]
        exact .answered outcome read
  | @readFailed cause written listens =>
      have before := bracketed.of_listening (coherent.connected listens) listens
      unfold failRead
      split
      · have disturbed := before.disturbed
        rw [← coherent.connected listens] at disturbed
        exact disturbed
      · have begun : session.phase ≠ .idle := by
          rw [coherent.connected listens]
          exact Phase.noConfusion
        have stopped := before.stopped written begun
        exact stopped
  | outwaited instant | elapsed instant => exact elapse_bracketed coherent bracketed instant

theorem Run.bracketed (run : Run session log last) (coherent : session.Coherent)
    (bracketed : session.IsBracketed) : last.IsBracketed := by
  induction run with
  | refl => exact bracketed
  | step run step ih =>
      have coherent := run.coherent coherent
      exact (step.change coherent).bracketed coherent ih

/-- What is selected from a log that has the latest entry first, in order. -/
theorem reverse_filterMap_cons {α β : Type} (select : α → Option β) (latest : α) (log : List α) :
    ((latest :: log).filterMap select).reverse =
      (log.filterMap select).reverse ++ (select latest).toList := by
  rw [List.filterMap_cons]
  cases select latest with
  | none => exact (List.append_nil _).symm
  | some selected => exact List.reverse_cons

theorem frames_cons (deed : Deed) (log : List Deed) :
    frames (deed :: log) = frames log ++ deed.frame?.toList :=
  reverse_filterMap_cons Deed.frame? deed log

/-- As long as a link is paused, all that happens to it is what the application sends. -/
theorem Run.apart (run : Run session more last) (coherent : session.Coherent)
    (paused : session.phase = .paused)
    (stays : ∀ deed ∈ more, deed.phaseAfter .paused = .paused) :
    last.phase = .paused ∧
      ∃ recent, Adds session recent last ∧ recent.map (·.2) = (frames more).map .sent := by
  induction run with
  | refl => exact ⟨paused, [], .refl _, rfl⟩
  | @step _ deed between next run step ih =>
      -- Nothing in between has started the reader, since it would still be there.
      obtain ⟨still, recent, adds, sent⟩ := ih fun deed member => stays deed (.tail _ member)
      have coherent := run.coherent coherent
      have change := step.change coherent
      have remains : next.phase = .paused := by rw [change.phase, still, stays deed (.head _)]
      have unstarted := change.unstarted (remains.trans_ne Phase.noConfusion)
      have latest := change.apart coherent (still.trans_ne Phase.noConfusion) unstarted
      refine ⟨remains, _, adds.trans latest, ?_⟩
      rw [List.map_append, sent, frames_cons, List.map_append, List.map_map]
      rfl

theorem Run.history_of_closed (run : Run session more last) (coherent : session.Coherent)
    (closed : session.phase = .closed) : last.history = session.history := by
  induction run with
  | refl => rfl
  | step run step ih =>
      have still := run.closed coherent closed
      have coherent := run.coherent coherent
      have change := step.change coherent
      have unstarted :=
        change.unstarted ((change.remains_closed still).trans_ne Phase.noConfusion)
      have adds := change.apart coherent (still.trans_ne Phase.noConfusion) unstarted
      rw [change.frame?_of_closed still] at adds
      exact Eq.trans adds ih

/-! ### The law -/

/-- How the receiving of a link is bracketed. What the socket makes of a keep-alive is free each time
one is written. -/
structure Brackets (log : List Deed) (session : Session) : Prop where
  /-- What starts a reader has one keep-alive written, and nothing is read before it. -/
  opens : ∀ written after,
    (∃ address reporting, session.connect address reporting written = (after, .ok ())) ∨
      session.phase = .paused ∧ session.restart written = (after, .ok ()) →
    Adds session [(session.clock, .readerStarted), (session.clock, .keepAlive written)] after ∧
      after.keepAliveCount = session.keepAliveCount
  /-- What stops a reader has one keep-alive written, and only a datagram that the reader already has
  in hand comes before it, which is counted and not answered. -/
  ends : session.phase = .connected → session.silentAt.isSome = true → ∀ busy written,
    ∃ datagrams : List (List UInt8), datagrams.length ≤ 1 ∧ (busy = false → datagrams = []) ∧
    (∀ after, after = (session.pause busy written).1 ∨ after = (session.close busy written).1 →
      Adds session (datagrams.map (session.clock, .read ·) ++
        [(session.clock, .keepAlive written), (session.clock, .readerStopped)]) after) ∧
    (session.pause busy written).1.keepAliveCount =
      session.keepAliveCount + UInt32.ofNat datagrams.length ∧
    (session.stopReader busy written).keepAliveCount =
      (session.pause busy written).1.keepAliveCount
  /-- There is a reader to stop while a link is connected, as long as none has come to its end by
  itself. -/
  listens : (∀ deed ∈ log, deed.breaksOff = false) → session.phase = .connected →
    session.silentAt.isSome = true
  /-- A reader that comes to its end by itself has its last keep-alive written then, and not again
  when it is stopped. -/
  breaks : ∀ cause written, cause.isTransient = false → session.silentAt.isSome = true →
    Adds session [(session.clock, .keepAlive written), (session.clock, .readerStopped)]
        (session.failRead cause written) ∧
      (session.failRead cause written).keepAliveCount = session.keepAliveCount
  broken : session.silentAt = none → ∀ busy written after,
    after = (session.pause busy written).1 ∨ after = (session.close busy written).1 →
    after.history = session.history
  /-- A reader that goes on after it could not read writes nothing. -/
  disturbs : ∀ cause written, cause.isTransient = true →
    Adds session [(session.clock, .disturbed)] (session.failRead cause written)
  /-- A call that has nothing to start or to stop, or that fails, sends nothing. -/
  idles : ∀ deed after, Step session deed after → deed.isLifecycle = true →
    deed.starts session.phase = false → deed.stops session.phase = false →
    after.history = session.history
  fails : ∀ deed after, Step session deed after → ∀ error,
    deed.outcome? = some (.error error) → after.history = session.history
  /-- A paused link sends what the application sends. -/
  apart : session.phase = .paused → ∀ more last, Run session more last →
    (∀ deed ∈ more, deed.phaseAfter .paused = .paused) →
    ∃ recent, Adds session recent last ∧ recent.map (·.2) = (frames more).map .sent
  /-- A closed link sends nothing. -/
  final : session.phase = .closed → ∀ more last, Run session more last →
    last.history = session.history
  bracketed : Bracketed session.phase session.silentAt.isSome (session.history.map (·.2))

theorem stops_of_silent (unread : session.silentAt = none) (busy : Bool)
    (written : Except String Unit)
    (stopped : after = (session.pause busy written).1 ∨ after = (session.close busy written).1) :
    after.history = session.history := by
  rcases stopped with rfl | rfl
  · unfold pause
    split
    · rfl
    · rw [stopReader_of_silent unread]
      split <;> rfl
  · unfold close
    split
    · rfl
    · rw [stopReader_of_silent unread]

theorem Run.brackets (run : Run (new settings host) log session) : Brackets log session := by
  have coherent := run.coherent (coherent_new settings host)
  exact
    { opens := by
        rintro written after (⟨address, reporting, connected⟩ | ⟨paused, restarted⟩)
        · exact connect_adds coherent connected
        · exact restart_adds coherent paused restarted
      ends := fun connected listens busy written => by
        obtain ⟨datagrams, few, calm, adds, counted⟩ := stopReader_adds listens busy written
        have checked := Phase.checkOpen_eq_ok_iff.mpr (.inl connected)
        simp only [pause_of_connected connected, close_of_open checked]
        refine ⟨datagrams, few, calm, ?_, counted, rfl⟩
        rintro after (rfl | rfl)
        · exact adds
        · exact adds
      listens := fun unbroken => run.listens (coherent_new _ _) unbroken Phase.noConfusion
      breaks := fun cause written final _ => by
        have adds := session.failRead_adds cause written
        rwa [failure, final] at adds
      broken := fun unread busy written _ => stops_of_silent unread busy written
      disturbs := fun cause written transient => by
        have adds := (session.failRead_adds cause written).1
        rwa [failure, if_pos transient] at adds
      idles := fun _ _ step => (step.change coherent).idles coherent
      fails := fun _ _ step _ failed =>
        congrArg history ((step.change coherent).unchanged failed)
      apart := fun paused _ _ rest stays => (rest.apart coherent paused stays).2
      final := fun closed _ _ rest => rest.history_of_closed coherent closed
      bracketed := run.bracketed (coherent_new settings host) .idle }

/-- A link that is paused as soon as it is connected, then with a datagram in the hand of its reader,
and that is closed while it is paused, with calls between that have nothing to do or fail. The peer
is gone when the reader starts anew, so that the socket refuses a keep-alive. -/
theorem brackets_interrupted : ∃ log last,
    Run (new (.ofChanges [.maxBindAttempts 1, .keepAliveThreshold 0]) .unhindered) log last ∧
    log.filterMap Deed.outcome? = [.ok (), .ok (), .ok (), .ok (),
      .error (.phase .alreadyConnected), .ok (), .ok (), .ok (), .ok ()] ∧
    Brackets log last ∧ last.incidents.reverse =
      [.readerStarted, .keptAlive, .keptAlive, .readerStopped,
        .readerStarted, .refused "connection refused", .disturbed, .read [0xff], .keptAlive,
        .readerStopped, .sent [0xff, 0xff]] := by
  have begun : Run (new (.ofChanges [.maxBindAttempts 1, .keepAliveThreshold 0]) .unhindered)
      _ _ :=
    .step (.step (.step (.step .refl (.connect "10.0.0.1" true (.ok ()))) (.pause false (.ok ())))
      (.restart (.error "connection refused"))) (.restart (.ok ()))
  have disturbed := Run.step (.step begun (.connect "10.0.0.1" true (.ok ())))
    (.failRead rfl .connectionRefused (.ok ()))
  have busy := Run.step (.step (.step disturbed (.arrive [0xff])) (.pause true (.ok ())))
    (.pause true (.ok ()))
  have run := Run.step (.step (.step (.step busy (.arrive [0xff]))
    (.send ⟨15, 3, [], by decide, by decide⟩ (.ok ()))) (.close true (.ok ()))) (.arrive [0xff])
  exact ⟨_, _, run, rfl, run.brackets, rfl⟩

end VehicleLink.Session
