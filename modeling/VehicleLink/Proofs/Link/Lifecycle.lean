import VehicleLink.Proofs.Link.Run

/-!
The life of a link. Whatever is done to it, its parts are those of its phase, it is connected at
most once and closed for good, an operation that its phase forbids is refused for that reason and for
no other, and an operation that fails leaves all as it was.
-/

namespace VehicleLink.Session

variable {settings : Settings} {host : Host} {session before middle after last : Session}
variable {deed : Deed} {log : List Deed}

/-- Whether a deed connects a link. -/
def Deed.connects : Deed → Bool
  | .connected _ (.ok _) => true
  | .connected _ (.error _) | .sent .. | .paused .. | .restarted _ | .closed .. | .received ..
  | .arrived .. | .read _ | .readFailed _ | .waited | .hostChanged => false

/-- Whether in a deed the reader comes to its end by itself. -/
def Deed.breaksOff : Deed → Bool
  | .readFailed cause => !cause.isTransient
  | .connected .. | .sent .. | .paused .. | .restarted _ | .closed .. | .received .. | .arrived ..
  | .read _ | .waited | .hostChanged => false

theorem Deed.connects_of_error {error : TransportError}
    (failed : deed.outcome? = some (.error error)) : deed.connects = false := by
  cases deed <;> simp_all [outcome?, connects]

theorem Deed.phaseAfter_eq_idle_iff (unconnected : deed.connects = false) (phase : Phase) :
    deed.phaseAfter phase = .idle ↔ phase = .idle := by
  unfold phaseAfter
  split <;> simp_all [connects]

theorem Deed.phaseAfter_closed (deed : Deed) : deed.phaseAfter .closed = .closed := by
  unfold phaseAfter
  split <;> simp_all

/-! ### What one deed does -/

theorem Moot.phaseAfter (moot : Moot session deed) :
    deed.phaseAfter session.phase = session.phase := by
  cases moot with
  | paused already => rw [already]; rfl
  | restarted already => rw [already]; rfl
  | received | arrived => rfl

theorem Moot.connects (moot : Moot session deed) : deed.connects = false := by
  cases moot <;> rfl

theorem Change.phase (change : Change session deed after) :
    after.phase = deed.phaseAfter session.phase := by
  cases change with
  | failed outcome => exact (Deed.phaseAfter_of_error outcome _).symm
  | moot moot => exact moot.phaseAfter.symm
  | connected idle => rw [idle]; rfl
  | paused connected => rw [connected]; rfl
  | restarted paused => rw [paused]; rfl
  | closed usable => rcases usable with usable | usable <;> rw [usable] <;> rfl
  | @read _ _ written =>
      obtain ⟨_, _, _, _, same, _⟩ := session.readNext_frame (some written)
      rw [same]
      rfl
  | @readFailed cause written =>
      obtain ⟨_, _, same, _⟩ := session.failRead_frame cause written
      rw [same]
      rfl
  | outwaited instant | elapsed instant =>
      obtain ⟨_, _, same, _⟩ := session.elapse_frame instant
      rw [same]
      rfl
  | sent | received | arrived | hostChanged => rfl

theorem Change.remains_closed (change : Change session deed after)
    (closed : session.phase = .closed) : after.phase = .closed := by
  rw [change.phase, closed, Deed.phaseAfter_closed]

/-- Nothing but a connection gives a link another peer. -/
theorem Change.peer (change : Change session deed after) (unconnected : deed.connects = false) :
    after.peer = session.peer := by
  cases change with
  | connected => cases unconnected
  | @paused busy written =>
      obtain ⟨_, _, _, same, _⟩ := session.stopReader_frame busy written
      rw [same]
  | @closed busy written =>
      obtain ⟨_, _, _, same, _⟩ := session.stopReader_frame busy written
      rw [same]
      rfl
  | @read _ _ written =>
      obtain ⟨_, _, _, _, same, _⟩ := session.readNext_frame (some written)
      rw [same]
  | @readFailed cause written =>
      obtain ⟨_, _, same, _⟩ := session.failRead_frame cause written
      rw [same]
  | outwaited instant | elapsed instant =>
      obtain ⟨_, _, same, _⟩ := session.elapse_frame instant
      rw [same]
  | failed | moot | sent | restarted | received | arrived | hostChanged => rfl

/-- The result of an operation is a matter of phase exactly where the phase forbids it. -/
theorem Change.refusal (change : Change session deed after) {cause : PhaseError} :
    deed.outcome? = some (.error (.phase cause)) ↔ deed.refusal session.phase = some cause := by
  cases change with
  | @failed _ error outcome refusal =>
      rw [outcome, refusal]
      cases error <;> simp [TransportError.phase?]
  | moot moot =>
      cases moot with
      | paused already => simp [Deed.outcome?, Deed.refusal, already]
      | restarted already => simp [Deed.outcome?, Deed.refusal, already]
      | received | arrived => simp [Deed.outcome?, Deed.refusal]
  | connected idle => simp [Deed.outcome?, Deed.refusal, idle]
  | sent usable =>
      rcases usable with usable | usable <;> simp [Deed.outcome?, Deed.refusal, usable]
  | paused connected => simp [Deed.outcome?, Deed.refusal, connected]
  | restarted paused => simp [Deed.outcome?, Deed.refusal, paused]
  | closed usable =>
      rcases usable with usable | usable <;> simp [Deed.outcome?, Deed.refusal, usable]
  | received | arrived | read | readFailed | outwaited | elapsed | hostChanged =>
      simp [Deed.outcome?, Deed.refusal]

theorem Change.unchanged (change : Change session deed after) {error : TransportError}
    (failed : deed.outcome? = some (.error error)) : after = session := by
  cases change with
  | failed | moot => rfl
  | connected | sent | paused | restarted | closed => simp [Deed.outcome?] at failed
  | received | arrived | read | readFailed | outwaited | elapsed | hostChanged => cases failed

/-- As long as the reader has not come to its end by itself, it listens while the link is connected. -/
theorem Change.listens (change : Change session deed after) (unbroken : deed.breaksOff = false)
    (listens : session.phase = .connected → session.silentAt.isSome = true) :
    after.phase = .connected → after.silentAt.isSome = true := by
  cases change with
  | failed | moot | sent | received | arrived | hostChanged => exact listens
  | connected | restarted => exact fun _ => rfl
  | paused | closed => exact fun connected => Phase.noConfusion connected
  | @read _ _ written listening =>
      obtain ⟨_, _, _, _, same, _, _, kept⟩ := session.readNext_frame (some written)
      rw [same]
      exact fun _ => kept.trans listening
  | @readFailed cause written =>
      obtain ⟨reader, _, same, transient⟩ := session.failRead_frame cause written
      rw [same]
      exact fun _ => transient.trans (by simpa [Deed.breaksOff] using unbroken)
  | outwaited instant | elapsed instant =>
      obtain ⟨_, _, same, _, kept, _⟩ := session.elapse_frame instant
      rw [same]
      exact fun connected => kept.trans (listens connected)

/-! ### When an operation succeeds -/

theorem connect_ok_iff (coherent : session.Coherent) (address : String) (reporting : Bool)
    (written : Except String Unit) : (session.connect address reporting written).2 = .ok () ↔
      session.phase = .idle ∧ ∃ ip port source, Address.parse? address = some ip ∧
        (session.host.bind session.settings.localPortBase
          session.settings.maxBindAttempts).2 = some port ∧
        session.host.route ip = .ok source := by
  constructor
  · intro succeeded
    have change := connect_change coherent address reporting written
    rw [succeeded] at change
    generalize (session.connect address reporting written).1 = after at change
    cases change with
    | failed outcome => simp [Deed.outcome?] at outcome
    | moot moot => cases moot
    | connected idle parsed bound routed => exact ⟨idle, _, _, _, parsed, bound, routed⟩
  · rintro ⟨idle, ip, port, source, parsed, bound, routed⟩
    have accepting : session.accepting = true :=
      coherent.accepting.mpr (by rw [idle]; exact Phase.noConfusion)
    simp [connect, idle, Phase.checkConnect, parsed, bound, routed, startReader, accepting]

theorem pause_ok_iff (session : Session) (busy : Bool) (written : Except String Unit) :
    (session.pause busy written).2 = .ok () ↔
      session.phase = .connected ∨ session.phase = .paused := by
  rw [← Phase.checkOpen_eq_ok_iff, pause]
  cases session.phase.checkOpen with
  | error cause => simp
  | ok => simp only [iff_true]; split <;> rfl

theorem close_ok_iff (session : Session) (busy : Bool) (written : Except String Unit) :
    (session.close busy written).2 = .ok () ↔
      session.phase = .connected ∨ session.phase = .paused := by
  rw [← Phase.checkOpen_eq_ok_iff, close]
  cases session.phase.checkOpen <;> simp

theorem restart_ok_iff (coherent : session.Coherent) (written : Except String Unit) :
    (session.restart written).2 = .ok () ↔ session.phase = .connected ∨
      session.phase = .paused ∧
        ∃ peer source, session.peer = some peer ∧ session.host.route peer.address = .ok source := by
  cases phase : session.phase with
  | idle | closed => simp [restart, phase, Phase.checkOpen]
  | connected => simp [restart, phase, Phase.checkOpen, Phase.isReceiving]
  | paused =>
      obtain ⟨socket, held⟩ := coherent.socket_exists (.inr phase)
      obtain ⟨peer, known⟩ := Option.isSome_iff_exists.mp
        (coherent.peer.mpr (by rw [phase]; exact Phase.noConfusion))
      cases routed : session.host.route peer.address with
      | error reason =>
          simp [restart, phase, Phase.checkOpen, Phase.isReceiving, known, held, routed]
      | ok source =>
          rw [restart_of_routed coherent phase known routed]
          exact iff_of_true rfl (.inr ⟨rfl, peer, source, known, routed⟩)

/-! ### What a whole run does -/

/-- A link that is not idle has been connected once and has the peer of that connection. -/
def Met (log : List Deed) (session : Session) : Prop :=
  session.phase = .idle ∧ log.filter Deed.connects = [] ∧ session.peer = none ∨
    session.phase ≠ .idle ∧ ∃ address ip, log.filter Deed.connects = [.connected address (.ok ())] ∧
      Address.parse? address = some ip ∧
      session.peer = some ⟨ip, session.settings.remotePort⟩

theorem Change.met (change : Change before deed after) (met : Met log before) :
    Met (deed :: log) after := by
  cases connects : deed.connects with
  | false =>
      have idle : after.phase = .idle ↔ before.phase = .idle := by
        rw [change.phase, Deed.phaseAfter_eq_idle_iff connects]
      simp only [Met, ne_eq, idle, change.peer connects, change.settings,
        List.filter_cons_of_neg (show ¬ deed.connects = true by simp [connects])]
      exact met
  | true =>
      cases change with
      | failed outcome => cases connects.symm.trans (Deed.connects_of_error outcome)
      | moot moot => cases connects.symm.trans moot.connects
      | connected idle parsed =>
          rcases met with ⟨_, unconnected, _⟩ | ⟨busy, _⟩
          · exact .inr ⟨Phase.noConfusion, _, _, by
              rw [List.filter_cons_of_pos connects, unconnected], parsed, rfl⟩
          · exact absurd idle busy
      | sent | paused | restarted | closed | received | arrived | read | readFailed | outwaited
      | elapsed | hostChanged => cases connects

theorem Run.met (run : Run (new settings host) log session) : Met log session := by
  induction run with
  | refl => exact .inl ⟨rfl, rfl, rfl⟩
  | step run step ih => exact (step.change (run.coherent (coherent_new _ _))).met ih

theorem Run.closed (run : Run session log last) (coherent : session.Coherent)
    (closed : session.phase = .closed) : last.phase = .closed := by
  induction run with
  | refl => exact closed
  | step run step ih => exact (step.change (run.coherent coherent)).remains_closed ih

theorem Run.listens (run : Run session log last) (coherent : session.Coherent)
    (unbroken : ∀ deed ∈ log, deed.breaksOff = false)
    (listens : session.phase = .connected → session.silentAt.isSome = true) :
    last.phase = .connected → last.silentAt.isSome = true := by
  induction run with
  | refl => exact listens
  | step run step ih =>
      have listens := ih fun deed member => unbroken deed (.tail _ member)
      exact (step.change (run.coherent coherent)).listens (unbroken _ (.head _)) listens

/-- What is true of a link at every point of its life. -/
structure Lifecycle (log : List Deed) (session : Session) : Prop where
  /-- Reader, socket, peer, queue and report are there as the phase has it. -/
  coherent : session.Coherent
  /-- The reader listens while the link is connected, unless it has come to its end by itself. -/
  listens : (∀ deed ∈ log, deed.breaksOff = false) →
    (session.silentAt.isSome = true ↔ session.phase = .connected)
  /-- The peer is there from the one connection on. -/
  met : Met log session
  /-- The phase goes where the next deed leads it. -/
  moves : ∀ deed after, Step session deed after → after.phase = deed.phaseAfter session.phase
  /-- What the phase forbids is refused for that reason, and nothing else is. -/
  refuses : ∀ deed after, Step session deed after → ∀ cause,
    deed.outcome? = some (.error (.phase cause)) ↔ deed.refusal session.phase = some cause
  /-- What fails changes nothing. -/
  fails : ∀ deed after, Step session deed after → ∀ error,
    deed.outcome? = some (.error error) → after = session
  connects : ∀ address reporting written, (session.connect address reporting written).2 = .ok () ↔
    session.phase = .idle ∧ ∃ ip port source, Address.parse? address = some ip ∧
      (session.host.bind session.settings.localPortBase
        session.settings.maxBindAttempts).2 = some port ∧
      session.host.route ip = .ok source
  pauses : ∀ busy written, (session.pause busy written).2 = .ok () ↔
    session.phase = .connected ∨ session.phase = .paused
  restarts : ∀ written, (session.restart written).2 = .ok () ↔ session.phase = .connected ∨
    session.phase = .paused ∧
      ∃ peer source, session.peer = some peer ∧ session.host.route peer.address = .ok source
  closes : ∀ busy written, (session.close busy written).2 = .ok () ↔
    session.phase = .connected ∨ session.phase = .paused
  /-- A closed link stays closed. -/
  final : session.phase = .closed → ∀ more last, Run session more last → last.phase = .closed

theorem Run.lifecycle (run : Run (new settings host) log session) : Lifecycle log session := by
  have coherent := run.coherent (coherent_new settings host)
  exact
    { coherent
      listens := fun unbroken =>
        ⟨coherent.connected, run.listens (coherent_new _ _) unbroken Phase.noConfusion⟩
      met := run.met
      moves := fun _ _ step => (step.change coherent).phase
      refuses := fun _ _ step _ => (step.change coherent).refusal
      fails := fun _ _ step _ => (step.change coherent).unchanged
      connects := connect_ok_iff coherent
      pauses := session.pause_ok_iff
      restarts := restart_ok_iff coherent
      closes := session.close_ok_iff
      final := fun closed _ _ rest => rest.closed coherent closed }

/-- A link that is connected at the second attempt, paused, started again and closed. -/
def fullLife : List Deed :=
  [.closed false (.ok ()), .restarted (.ok ()), .paused false (.ok ()),
    .connected "10.0.0.1" (.ok ()), .connected "nowhere" (.error (.invalidAddress "nowhere"))]

theorem lifecycle_fullLife : ∃ session,
    Run (new (.ofChanges [.maxBindAttempts 1]) .unhindered) fullLife session ∧
    Lifecycle fullLife session ∧ session.phase = .closed ∧
    session.peer = some ⟨.v4 [10, 0, 0, 1], 2390⟩ := by
  have run : Run (new (.ofChanges [.maxBindAttempts 1]) .unhindered) fullLife _ :=
    .step (.step (.step (.step (.step .refl (.connect "nowhere" false (.ok ())))
      (.connect "10.0.0.1" true (.ok ()))) (.pause false (.ok ()))) (.restart (.ok ())))
      (.close false (.ok ()))
  exact ⟨_, run, run.lifecycle, rfl, rfl⟩

end VehicleLink.Session
