import VehicleLink.Proofs.Link.Inbound

/-!
When a link that only listens says that it is still there. The count of a link is the number of
datagrams that were read since the application last sent something, and a datagram is answered by a
keep-alive if it takes that number past the threshold; all this as long as the count has not run out
of words.
-/

namespace VehicleLink.Session

variable {settings : Settings} {host : Host} {session before middle after last : Session}
variable {deed : Deed} {log more : List Deed} {datagrams : List (List UInt8)}

/-! ### The count -/

theorem Reads.counted (reads : Reads before datagrams after)
    (counted : before.keepAliveCount.toNat = before.readSinceSend % UInt32.size) :
    after.keepAliveCount.toNat = after.readSinceSend % UInt32.size := by
  rw [reads.count, reads.sinceSend, UInt32.toNat_add, counted, UInt32.toNat_ofNat']
  simp only [UInt32.size]
  omega

def Counted (session : Session) : Prop :=
  session.phase ≠ .closed → session.keepAliveCount.toNat = session.readSinceSend % UInt32.size

theorem Change.counted (coherent : session.Coherent) (change : Change session deed after)
    (counted : session.Counted) : after.Counted := by
  intro unclosed
  have counted := counted fun closed => unclosed (change.remains_closed closed)
  cases inner : deed.isInner with
  | true =>
      obtain ⟨datagrams, reads, _⟩ := change.reads coherent inner
      exact reads.counted counted
  | false =>
      cases change with
      | sent => rfl
      | closed => exact absurd rfl unclosed
      | received => exact counted
      | arrived held =>
          rw [keepAliveCount, held] at counted
          exact counted
      | failed outcome => cases inner.symm.trans (Deed.isInner_of_error outcome)
      | moot moot => cases moot <;> cases inner
      | connected | paused | restarted | read | readFailed | outwaited | elapsed | hostChanged =>
          cases inner

theorem Run.counted (run : Run session log last) (coherent : session.Coherent)
    (counted : session.Counted) : last.Counted := by
  induction run with
  | refl => exact counted
  | step run step ih =>
      have coherent := run.coherent coherent
      exact (step.change coherent).counted coherent ih

theorem counted_new (settings : Settings) (host : Host) : (new settings host).Counted :=
  fun _ => rfl

/-- Whether a deed sets the count back, or gives up the socket that keeps it. -/
def Deed.resets : Deed → Bool
  | .sent _ (.ok _) | .closed _ (.ok _) => true
  | .sent _ (.error _) | .closed _ (.error _) | .connected .. | .paused .. | .restarted _
  | .received .. | .arrived .. | .read _ | .readFailed _ | .waited | .hostChanged => false

theorem Change.count (coherent : session.Coherent) (change : Change session deed after)
    (kept : deed.resets = false) :
    ∃ datagrams, after.readings = session.readings ++ datagrams ∧
      (deed.mayRead = false → datagrams = []) ∧
      after.keepAliveCount = session.keepAliveCount + UInt32.ofNat datagrams.length := by
  cases inner : deed.isInner with
  | true =>
      obtain ⟨datagrams, reads, idle⟩ := change.reads coherent inner
      exact ⟨datagrams, reads.readings, idle, reads.count⟩
  | false =>
      cases change with
      | received => exact ⟨[], by simp [readings], fun _ => rfl, by simp [keepAliveCount]⟩
      | arrived held =>
          exact ⟨[], by simp [readings], fun _ => rfl, by simp [keepAliveCount, held, Socket.hold]⟩
      | sent | closed => cases kept
      | failed outcome => cases inner.symm.trans (Deed.isInner_of_error outcome)
      | moot moot => cases moot <;> cases inner
      | connected | paused | restarted | read | readFailed | outwaited | elapsed | hostChanged =>
          cases inner

/-! ### The answers -/

/-- What came of a keep-alive that was written. -/
def Incident.attempt? : Incident → Option (Except String Unit)
  | .keptAlive => some (.ok ())
  | .refused reason => some (.error reason)
  | .readerStarted | .readerStopped | .read _ | .disturbed | .sent _ | .silent => none

@[simp] theorem Incident.attempt?_keepAlive (written : Except String Unit) :
    (keepAlive written).attempt? = some written := by
  cases written <;> rfl

@[simp] theorem Incident.attempt?_read (datagram : List UInt8) : (read datagram).attempt? = none :=
  rfl

/-- What a reader that goes on does about the datagram of this number. -/
def answer (session : Session) (number : Nat) (written : Except String Unit) :
    List (Nat × Incident) :=
  if session.settings.keepAliveThreshold.toNat < number then [(session.clock, .keepAlive written)]
  else []

theorem since_eq {recent : List (Nat × Incident)}
    (history : after.history = recent ++ before.history) : after.since before = recent.reverse := by
  simp [since, history]

theorem readNext_of_unread {datagram : List UInt8} {rest : List (List UInt8)}
    (listens : session.silentAt.isSome = true) (waiting : session.unread = datagram :: rest) :
    ∃ socket, session.socket = some socket ∧ ∀ written, session.readNext written =
      session.read { socket with unread := rest } datagram written := by
  obtain ⟨due, listens⟩ := Option.isSome_iff_exists.mp listens
  cases held : session.socket with
  | none => simp [unread, held] at waiting
  | some socket =>
      have waiting : socket.unread = datagram :: rest := by simpa only [unread, held] using waiting
      exact ⟨socket, rfl, readNext_of_waiting listens held waiting⟩

theorem readNext_history {datagram : List UInt8} {rest : List (List UInt8)}
    (listens : session.silentAt.isSome = true) (waiting : session.unread = datagram :: rest) :
    ∃ socket, session.socket = some socket ∧ ∀ written, (session.readNext written).history =
      (session.answerAt { socket with unread := rest } written).map (session.clock, ·) ++
        (session.clock, .read datagram) :: session.history := by
  obtain ⟨socket, held, same⟩ := readNext_of_unread listens waiting
  exact ⟨socket, held, fun written => by rw [same, read_eq]⟩

/-- Which datagrams are answered, also when the count has begun anew. -/
theorem exceeds_iff {socket : Socket} (held : session.socket = some socket)
    (counted : session.keepAliveCount.toNat = session.readSinceSend % UInt32.size)
    (rest : List (List UInt8)) :
    session.settings.keepAliveThreshold < { socket with unread := rest }.noteDatagram.2 ↔
      session.settings.keepAliveThreshold.toNat ≤ session.readSinceSend % UInt32.size ∧
        session.settings.keepAliveThreshold.toNat < UInt32.size - 1 := by
  rw [keepAliveCount, held] at counted
  rw [Socket.lt_noteDatagram_reported_iff, counted]

theorem readNext_answer
    (counted : session.keepAliveCount.toNat = session.readSinceSend % UInt32.size)
    (few : session.readSinceSend + 1 < UInt32.size)
    {datagram : List UInt8} {rest : List (List UInt8)} (listens : session.silentAt.isSome = true)
    (waiting : session.unread = datagram :: rest) (written : Except String Unit) :
    (session.readNext (some written)).history =
      (session.answer (session.readSinceSend + 1) written ++ [(session.clock, .read datagram)]) ++
        session.history := by
  obtain ⟨socket, held, history⟩ := readNext_history listens waiting
  have answered : session.settings.keepAliveThreshold <
      { socket with unread := rest }.noteDatagram.2 ↔
      session.settings.keepAliveThreshold.toNat < session.readSinceSend + 1 := by
    rw [exceeds_iff held counted, Nat.mod_eq_of_lt (Nat.lt_of_succ_lt few)]
    omega
  rw [history, List.append_assoc, answer, answerAt]
  simp only [answered]
  split <;> rfl

theorem readNext_stopping {datagram : List UInt8} {rest : List (List UInt8)}
    (listens : session.silentAt.isSome = true) (waiting : session.unread = datagram :: rest) :
    (session.readNext none).since session = [(session.clock, .read datagram)] := by
  obtain ⟨socket, _, history⟩ := readNext_history listens waiting
  have reads : (session.readNext none).history =
      [(session.clock, .read datagram)] ++ session.history := history none
  exact since_eq reads

/-! ### Datagrams in a row -/

/-- Nothing is sent, whatever else happens. -/
def Unsent (recent : List (Nat × Incident)) : Prop :=
  ∀ entry ∈ recent, ∀ frame, entry.2 ≠ .sent frame

theorem Unsent.append {later recent : List (Nat × Incident)} (second : Unsent later)
    (first : Unsent recent) : Unsent (later ++ recent) :=
  fun entry member => (List.mem_append.mp member).elim (second entry) (first entry)

/-- Where nothing is sent, and no keep-alive refused, what goes out are the keep-alives. -/
theorem Unsent.transmissions_eq {recent : List (Nat × Incident)} (unsent : Unsent recent)
    (taken : ∀ reason, .error reason ∉ recent.filterMap (·.2.attempt?)) :
    recent.filterMap (·.2.transmission?) =
      .replicate (recent.filterMap (·.2.attempt?)).length keepAliveFrame := by
  induction recent with
  | nil => rfl
  | cons entry rest ih =>
      obtain ⟨instant, incident⟩ := entry
      have unsent_rest : Unsent rest := fun entry member => unsent entry (.tail _ member)
      have taken_rest : ∀ reason, .error reason ∉ rest.filterMap (·.2.attempt?) := by
        intro reason refused
        obtain ⟨other, among, same⟩ := List.mem_filterMap.mp refused
        exact taken reason (List.mem_filterMap.mpr ⟨other, .tail _ among, same⟩)
      cases incident with
      | sent frame => exact absurd rfl (unsent _ (.head _) frame)
      | refused reason => exact absurd (.head _) (taken reason)
      | keptAlive => exact congrArg _ (ih unsent_rest taken_rest)
      | readerStarted | readerStopped | read | disturbed | silent => exact ih unsent_rest taken_rest

/-- How many of the datagrams from one number to another are answered. -/
def answersBetween (session : Session) (first last : Nat) : Nat :=
  last - session.settings.keepAliveThreshold.toNat -
    (first - session.settings.keepAliveThreshold.toNat)

/-- A number of datagrams were read, and nothing was written but the answers to them. -/
structure Row (before : Session) (number : Nat) (after : Session) : Prop where
  settings : after.settings = before.settings
  sinceSend : after.readSinceSend = before.readSinceSend + number
  readings : after.readings.length = before.readings.length + number
  answered : before.readSinceSend + number < UInt32.size → ∃ recent,
    after.history = recent ++ before.history ∧ Unsent recent ∧
      (recent.filterMap (·.2.attempt?)).length =
        before.answersBetween before.readSinceSend (before.readSinceSend + number)

/-- Nothing has happened that concerns the datagrams. -/
def Incident.isAside : Incident → Bool
  | .silent | .disturbed => true
  | .readerStarted | .readerStopped | .read _ | .keptAlive | .refused _ | .sent _ => false

theorem Row.quiet {recent : List (Nat × Incident)} (settings : after.settings = before.settings)
    (history : after.history = recent ++ before.history)
    (aside : ∀ entry ∈ recent, entry.2.isAside = true) : Row before 0 after := by
  have none_of {α : Type} (kind : Incident → Option α)
      (none : ∀ incident : Incident, incident.isAside = true → kind incident = none) :
      recent.filterMap (kind ·.2) = [] :=
    List.filterMap_eq_nil_iff.mpr fun entry member => none _ (aside entry member)
  have uncounted : recent.filterMap (·.2.traffic?) = [] := by
    refine none_of Incident.traffic? fun incident aside => ?_
    cases incident <;> first | rfl | cases aside
  have unread : recent.filterMap (·.2.reading?) = [] := by
    refine none_of Incident.reading? fun incident aside => ?_
    cases incident <;> first | rfl | cases aside
  have unanswered : recent.filterMap (·.2.attempt?) = [] := by
    refine none_of Incident.attempt? fun incident aside => ?_
    cases incident <;> first | rfl | cases aside
  refine ⟨settings, ?_, ?_, fun _ => ⟨recent, history, ?_, ?_⟩⟩
  · simp [readSinceSend, history, uncounted]
  · simp [Session.readings, history, unread]
  · intro entry member frame sent
    have aside := aside entry member
    rw [sent] at aside
    cases aside
  · simp [answersBetween, unanswered]

theorem Row.trans {number further : Nat} (first : Row before number middle)
    (rest : Row middle further after) : Row before (number + further) after where
  settings := rest.settings.trans first.settings
  sinceSend := by rw [rest.sinceSend, first.sinceSend, Nat.add_assoc]
  readings := by rw [rest.readings, first.readings, Nat.add_assoc]
  answered few := by
    obtain ⟨recent, history, unsent, answers⟩ := first.answered (by omega)
    obtain ⟨later, laterHistory, laterUnsent, laterAnswers⟩ :=
      rest.answered (by rw [first.sinceSend]; omega)
    refine ⟨later ++ recent, by rw [laterHistory, history, List.append_assoc],
      laterUnsent.append unsent, ?_⟩
    -- Both stretches count from their own start, and the second starts where the first one ends.
    rw [List.filterMap_append, List.length_append, laterAnswers, answers, first.sinceSend]
    simp only [answersBetween, first.settings]
    omega

theorem readNext_row (counted : session.keepAliveCount.toNat = session.readSinceSend % UInt32.size)
    {datagram : List UInt8} {rest : List (List UInt8)} (listens : session.silentAt.isSome = true)
    (waiting : session.unread = datagram :: rest) (written : Except String Unit) :
    Row session 1 (session.readNext (some written)) := by
  obtain ⟨_, _, _, _, same, _⟩ := session.readNext_frame (some written)
  obtain ⟨socket, _, history⟩ := readNext_history listens waiting
  refine ⟨by rw [same], ?_, ?_,
    fun few => ⟨_, readNext_answer counted few listens waiting written, ?_, ?_⟩⟩
  · rcases session.answerAt_cases { socket with unread := rest } (some written) with
      answered | ⟨_, answered⟩ <;>
      simp [readSinceSend, history, answered, Socket.sinceSend]
  · rcases session.answerAt_cases { socket with unread := rest } (some written) with
      answered | ⟨_, answered⟩ <;>
      simp [Session.readings, history, answered]
  · rw [answer]
    split <;> simp [Unsent]
  · -- The threshold is passed by this datagram, by an earlier one, or not yet.
    have unanswered : [(session.clock, Incident.read datagram)].filterMap (·.2.attempt?) = [] := rfl
    rw [answer, answersBetween, List.filterMap_append, unanswered, List.append_nil]
    split <;> simp <;> omega

theorem Change.row (coherent : session.Coherent) (counted : session.Counted)
    (change : Change session deed after) (unsuccessful : deed.outcome? ≠ some (.ok ()))
    (unbroken : deed.breaksOff = false) : ∃ number, Row session number after := by
  have settings := change.settings
  cases change with
  | failed | moot => exact ⟨0, .quiet rfl (List.nil_append _).symm (by simp)⟩
  | received | arrived | hostChanged =>
      exact ⟨0, .quiet settings (List.nil_append _).symm (by simp)⟩
  | @read _ _ written listens waiting =>
      have unclosed : session.phase ≠ .closed := by
        rw [coherent.connected listens]
        exact Phase.noConfusion
      exact ⟨1, readNext_row (counted unclosed) listens waiting written⟩
  | @readFailed cause written =>
      have transient : cause.isTransient = true := by simpa [Deed.breaksOff] using unbroken
      have history : (session.failRead cause written).history =
          [(session.clock, .disturbed)] ++ session.history := by
        rw [failRead, if_pos transient]
        rfl
      exact ⟨0, .quiet settings history (by simp [Incident.isAside])⟩
  | outwaited instant | elapsed instant =>
      obtain ⟨recent, history, silent⟩ := session.elapse_history instant
      exact ⟨0, .quiet settings history fun entry member => by rw [silent entry member]; rfl⟩
  | connected | sent | paused | restarted | closed => exact absurd rfl unsuccessful

theorem Run.row (run : Run session more last) (coherent : session.Coherent)
    (counted : session.Counted) (unsuccessful : ∀ deed ∈ more, deed.outcome? ≠ some (.ok ()))
    (unbroken : ∀ deed ∈ more, deed.breaksOff = false) : ∃ number, Row session number last := by
  induction run with
  | refl => exact ⟨0, .quiet rfl (List.nil_append _).symm (by simp)⟩
  | @step _ deed _ _ run step ih =>
      obtain ⟨number, row⟩ := ih (fun deed member => unsuccessful deed (.tail _ member))
        fun deed member => unbroken deed (.tail _ member)
      have between := run.coherent coherent
      obtain ⟨further, next⟩ := (step.change between).row between (run.counted coherent counted)
        (unsuccessful deed (.head _)) (unbroken deed (.head _))
      exact ⟨number + further, row.trans next⟩

/-! ### The law -/

/-- How a link keeps itself alive. Whatever the socket makes of a keep-alive, it is written when it is
due. -/
structure KeepsAlive (session : Session) : Prop where
  counts : session.keepAliveCount.toNat = session.readSinceSend
  answers : ∀ datagram rest written, session.silentAt.isSome = true →
    session.unread = datagram :: rest → session.readSinceSend + 1 < UInt32.size →
    (session.readNext (some written)).since session = (session.clock, .read datagram) ::
      if session.settings.keepAliveThreshold.toNat < session.readSinceSend + 1
        then [(session.clock, .keepAlive written)] else []
  stops : ∀ datagram rest, session.silentAt.isSome = true → session.unread = datagram :: rest →
    (session.readNext none).since session = [(session.clock, .read datagram)]
  /-- Nothing but reading, a successful send and the end of the socket has to do with the count. -/
  keeps : ∀ deed after, Step session deed after → deed.resets = false →
    ∃ datagrams, after.readings = session.readings ++ datagrams ∧
      (deed.mayRead = false → datagrams = []) ∧
      after.keepAliveCount = session.keepAliveCount + UInt32.ofNat datagrams.length
  resets : ∀ packet after, Step session (.sent packet (.ok ())) after → after.keepAliveCount = 0
  /-- Datagrams in a row from the first on, whatever fails or takes time between them: this many
  keep-alives are written, and if the socket takes them all, they are what goes out. -/
  row : session.readSinceSend = 0 → ∀ more last datagrams, Run session more last →
    (∀ deed ∈ more, deed.outcome? ≠ some (.ok ())) → (∀ deed ∈ more, deed.breaksOff = false) →
    last.readings = session.readings ++ datagrams → datagrams.length < UInt32.size →
    ((last.since session).filterMap (·.2.attempt?)).length =
      datagrams.length - session.settings.keepAliveThreshold.toNat ∧
    ((∀ reason, .error reason ∉ (last.since session).filterMap (·.2.attempt?)) →
      (last.since session).filterMap (·.2.transmission?) =
        .replicate (datagrams.length - session.settings.keepAliveThreshold.toNat) keepAliveFrame)

theorem Run.keeps_alive (run : Run (new settings host) log session)
    (unclosed : session.phase ≠ .closed) (few : session.readSinceSend < UInt32.size) :
    KeepsAlive session := by
  have coherent := run.coherent (coherent_new settings host)
  have counted := run.counted (coherent_new settings host) (counted_new settings host)
  have now := counted unclosed
  refine
    { counts := now.trans (Nat.mod_eq_of_lt few)
      answers := ?_
      stops := fun _ _ => readNext_stopping
      keeps := fun _ _ step kept => (step.change coherent).count coherent kept
      resets := ?_
      row := ?_ }
  · intro datagram rest written listens waiting further
    rw [since_eq (readNext_answer now further listens waiting written), answer]
    split <;> rfl
  · intro packet after step
    have change := step.change coherent
    cases change with
    | sent => rfl
    | failed outcome => simp [Deed.outcome?] at outcome
    | moot moot => cases moot
  · intro reset more last datagrams rest unsuccessful unbroken readings short
    obtain ⟨number, row⟩ := rest.row coherent counted unsuccessful unbroken
    have length := row.readings
    rw [readings, List.length_append, Nat.add_left_cancel_iff] at length
    obtain ⟨recent, history, unsent, answered⟩ := row.answered (by rw [reset]; omega)
    rw [answersBetween, reset, ← length, Nat.zero_add, Nat.zero_sub, Nat.sub_zero] at answered
    rw [since_eq history, List.filterMap_reverse, List.filterMap_reverse, List.length_reverse,
      answered]
    refine ⟨rfl, fun taken => ?_⟩
    rw [unsent.transmissions_eq fun reason among => taken reason (List.mem_reverse.mpr among),
      answered, List.reverse_replicate]

/-- A link that was just connected and answers every datagram but the first. -/
def eager : Session :=
  ((new (.ofChanges [.maxBindAttempts 1, .keepAliveThreshold 1]) .unhindered).connect
    "10.0.0.1" true (.ok ())).1

/-- Three datagrams, of which two hold no packet, with failures and a wait between them. -/
def listening : List Deed :=
  [.read [0xff, 1], .arrived [0xff, 1] true, .waited, .readFailed .connectionRefused,
    .sent ⟨15, 3, [], by decide, by decide⟩ (.error (.io "unreachable")), .read [], .read [0xff],
    .arrived [] true, .arrived [0xff] true]

theorem keeps_alive_listening :
    Run (new (.ofChanges [.maxBindAttempts 1, .keepAliveThreshold 1]) .unhindered)
      [.connected "10.0.0.1" (.ok ())] eager ∧
    eager.phase ≠ .closed ∧ eager.readSinceSend < UInt32.size ∧ KeepsAlive eager ∧
    ∃ last, Run eager listening last ∧ last.readSinceSend = 3 ∧
      (last.since eager).filterMap (·.2.transmission?) = [keepAliveFrame, keepAliveFrame] := by
  have connected : Run (new (.ofChanges [.maxBindAttempts 1, .keepAliveThreshold 1]) .unhindered)
      [.connected "10.0.0.1" (.ok ())] eager := .single (.connect "10.0.0.1" true (.ok ()))
  have alive : KeepsAlive eager := connected.keeps_alive nofun (by decide)
  have twice : Run eager [.read [], .read [0xff], .arrived [] true, .arrived [0xff] true] _ :=
    .step (.step (.step (.step .refl (.arrive [0xff])) (.arrive [])) (.read rfl rfl (.ok ())))
      (.read rfl rfl (.ok ()))
  have waited : Run eager (listening.drop 2) _ :=
    .step (.step (.step twice
      (.send ⟨15, 3, [], by decide, by decide⟩ (.error "unreachable")))
      (.failRead rfl .connectionRefused (.error "never written"))) (.elapse (Nat.zero_le 7000))
  have listened : Run eager listening _ :=
    .step (.step waited (.arrive [0xff, 1])) (.read rfl rfl (.ok ()))
  have readings := alive.row rfl listening _ [[0xff], [], [0xff, 1]] listened
    (by simp [listening, Deed.outcome?]) (by decide) rfl (by decide)
  refine ⟨connected, nofun, by decide, alive, _, listened, rfl, readings.2 ?_⟩
  intro reason among
  have taken : ∀ outcome ∈ [Except.ok (), .ok ()], outcome ≠ .error reason := by simp
  exact taken _ among rfl

end VehicleLink.Session
