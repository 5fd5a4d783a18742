import VehicleLink.Proofs.Frames
import VehicleLink.Proofs.Link.Brackets

/-!
What a link sends. A packet goes out as one frame or the link stays as it was; over all of a link's
life, what goes out beside the keep-alives of its readers are the frames of the packets that were
sent.
-/

namespace VehicleLink.Session

variable {settings : Settings} {host : Host} {session before after : Session} {deed : Deed}
variable {log : List Deed} {recent : List (Nat × Incident)} {packet : Packet}

/-! ### One packet -/

/-- A packet is sent over an open link if it is not too long. -/
theorem send_cases (coherent : session.Coherent) (packet : Packet) :
    ((session.phase = .connected ∨ session.phase = .paused) ∧ packet.payload.length ≤ 30 ∧
      ∃ socket, session.socket = some socket ∧ session.send packet (.ok ()) =
        ({ session.record (.sent packet.frame) with socket := some socket.noteSend }, .ok ())) ∨
    ∃ error, session.send packet (.ok ()) = (session, .error error) ∧
      (session.phase = .idle ∧ error = .phase .notConnected ∨
        session.phase = .closed ∧ error = .phase .closed ∨
        (session.phase = .connected ∨ session.phase = .paused) ∧ 30 < packet.payload.length ∧
          error = .packet (.payloadTooLarge packet.payload.length 30)) := by
  cases checked : session.phase.checkOpen with
  | error cause =>
      refine .inr ⟨.phase cause, by simp only [send, checked], ?_⟩
      rcases Phase.checkOpen_eq_error_iff.mp checked with ⟨idle, rfl⟩ | ⟨closed, rfl⟩
      · exact .inl ⟨idle, rfl⟩
      · exact .inr (.inl ⟨closed, rfl⟩)
  | ok =>
      have usable := Phase.checkOpen_eq_ok_iff.mp checked
      obtain ⟨socket, held⟩ := coherent.socket_exists usable
      rcases Nat.lt_or_ge 30 packet.payload.length with large | fits
      · have encoded : packet.encode = .error (.payloadTooLarge packet.payload.length 30) :=
          if_neg large.not_ge
        exact .inr ⟨_, by simp only [send, checked, held, encoded],
          .inr (.inr ⟨usable, large, rfl⟩)⟩
      · have encoded := (packet.encode_and_decode fits).1
        exact .inl ⟨usable, fits, socket, held, by simp only [send, checked, held, encoded]⟩

/-! ### All that goes out -/

/-- What goes out in a series of incidents, keep-alives apart. -/
def Incident.frames (incidents : List Incident) : List (List UInt8) :=
  (incidents.filter (· ≠ .keptAlive)).filterMap transmission?

theorem Incident.frames_append (later earlier : List Incident) :
    Incident.frames (later ++ earlier) = Incident.frames later ++ Incident.frames earlier := by
  rw [frames, List.filter_append, List.filterMap_append, frames, frames]

/-- What has gone out over a link, the keep-alives of its readers apart. -/
def transmissions (session : Session) : List (List UInt8) :=
  (Incident.frames session.incidents).reverse

def Deed.dispatched? : Deed → Option Packet
  | .sent packet (.ok _) => some packet
  | .sent _ (.error _) | .connected .. | .paused .. | .restarted _ | .closed .. | .received ..
  | .arrived .. | .read _ | .readFailed _ | .waited | .hostChanged => none

/-- The packets that were sent with success, in order. -/
def dispatched (log : List Deed) : List Packet := (log.filterMap Deed.dispatched?).reverse

theorem Deed.dispatched?_of_error {error : TransportError}
    (failed : deed.outcome? = some (.error error)) : deed.dispatched? = none := by
  cases deed <;> simp_all [outcome?, dispatched?]

theorem dispatched_cons (deed : Deed) (log : List Deed) :
    dispatched (deed :: log) = dispatched log ++ deed.dispatched?.toList :=
  reverse_filterMap_cons Deed.dispatched? deed log

theorem Unsent.transmissions (unsent : Unsent recent)
    (history : after.history = recent ++ before.history) :
    after.transmissions = before.transmissions := by
  have nothing : Incident.frames (recent.map (·.2)) = [] := by
    rw [Incident.frames, List.filterMap_eq_nil_iff]
    intro incident member
    obtain ⟨among, unalive⟩ := List.mem_filter.mp member
    obtain ⟨entry, recently, rfl⟩ := List.mem_map.mp among
    cases same : entry.2 with
    | keptAlive =>
        rw [same] at unalive
        cases unalive
    | sent frame => exact absurd same (unsent entry recently frame)
    | readerStarted | readerStopped | read | disturbed | refused | silent => rfl
  rw [Session.transmissions, incidents, history, List.map_append, Incident.frames_append, nothing,
    List.nil_append]
  rfl

theorem Adds.unsent (adds : Adds session recent after)
    (unsent : ∀ entry ∈ recent, ∀ frame, entry.2 ≠ .sent frame) :
    ∃ recent, after.history = recent ++ session.history ∧ Unsent recent :=
  ⟨_, adds, fun entry member => unsent entry (List.mem_reverse.mp member)⟩

theorem stopReader_unsent (session : Session) (busy : Bool) (written : Except String Unit) :
    ∃ recent, (session.stopReader busy written).history = recent ++ session.history ∧
      Unsent recent := by
  cases listens : session.silentAt with
  | none =>
      rw [stopReader_of_silent listens]
      exact ⟨[], rfl, by simp [Unsent]⟩
  | some due =>
      obtain ⟨datagrams, _, _, adds, _⟩ := stopReader_adds (by rw [listens]; rfl) busy written
      exact adds.unsent (by simp [ending, or_imp, forall_and])

/-- Unless a packet is sent, all that goes out are keep-alives. -/
theorem Change.unsent (change : Change session deed after) (none : deed.dispatched? = none) :
    ∃ recent, after.history = recent ++ session.history ∧ Unsent recent := by
  -- Only a reader that begins, answers or ends writes a keep-alive; all other entries send nothing.
  cases change with
  | failed | moot | received | arrived | hostChanged => exact ⟨[], rfl, by simp [Unsent]⟩
  | sent => cases none
  | @connected _ _ _ _ _ written | @restarted written =>
      have adds : Adds session (session.opening written) (session.beginReading written) := rfl
      exact adds.unsent (by simp [opening])
  | @paused busy written | @closed busy written => exact session.stopReader_unsent busy written
  | @read datagram rest written listens waiting =>
      obtain ⟨socket, _, history⟩ := readNext_history listens waiting
      refine ⟨_, (history (some written)).trans (List.append_cons _ _ _), ?_⟩
      rcases session.answerAt_cases { socket with unread := rest } (some written) with
        answered | ⟨_, answered⟩ <;>
        simp [Unsent, answered]
  | @readFailed cause written =>
      refine (session.failRead_adds cause written).1.unsent ?_
      unfold failure
      split <;> simp [ending]
  | outwaited instant | elapsed instant =>
      obtain ⟨recent, history, silent⟩ := session.elapse_history instant
      refine ⟨recent, history, ?_⟩
      intro entry member frame
      rw [silent entry member]
      exact Incident.noConfusion

theorem Change.transmits (change : Change session deed after) :
    after.transmissions.map .ok =
      session.transmissions.map .ok ++ deed.dispatched?.toList.map Packet.encode := by
  cases dispatched : deed.dispatched? with
  | none =>
      obtain ⟨recent, history, unsent⟩ := change.unsent dispatched
      rw [unsent.transmissions history]
      exact (List.append_nil _).symm
  | some packet =>
      cases change with
      | failed outcome => cases (Deed.dispatched?_of_error outcome).symm.trans dispatched
      | moot moot => cases moot <;> cases dispatched
      | @sent _ frame socket _ _ encoded =>
          cases dispatched
          rw [Option.toList_some, List.map_singleton, encoded, ← List.map_singleton,
            ← List.map_append]
          exact congrArg (List.map Except.ok) List.reverse_cons
      | connected | paused | restarted | closed | received | arrived | read | readFailed | outwaited
      | elapsed | hostChanged => cases dispatched

theorem Run.transmits (run : Run (new settings host) log session) :
    session.transmissions.map .ok = (dispatched log).map Packet.encode := by
  induction run with
  | refl => rfl
  | step run step ih =>
      have change := step.change (run.coherent (coherent_new settings host))
      rw [change.transmits, ih, dispatched_cons, List.map_append]

/-! ### The law -/

/-- How a link sends packets. -/
structure AllOrNothing (log : List Deed) (session : Session) : Prop where
  succeeds : ∀ packet, (session.send packet (.ok ())).2 = .ok () ↔
    (session.phase = .connected ∨ session.phase = .paused) ∧ packet.payload.length ≤ 30
  /-- A packet that is sent goes out as one frame and begins the count of datagrams anew. -/
  sends : ∀ packet, (session.send packet (.ok ())).2 = .ok () →
    ∃ frame, packet.encode = .ok frame ∧
      Adds session [(session.clock, .sent frame)] (session.send packet (.ok ())).1 ∧
      (session.send packet (.ok ())).1.keepAliveCount = 0 ∧
      (session.send packet (.ok ())).1.phase = session.phase ∧
      (session.send packet (.ok ())).1.inbound = session.inbound
  /-- A packet that is refused changes nothing. The phase is judged before the packet. -/
  refuses : ∀ packet error, (session.send packet (.ok ())).2 = .error error →
    (session.send packet (.ok ())).1 = session ∧
      (session.phase = .idle ∧ error = .phase .notConnected ∨
        session.phase = .closed ∧ error = .phase .closed ∨
        (session.phase = .connected ∨ session.phase = .paused) ∧ 30 < packet.payload.length ∧
          error = .packet (.payloadTooLarge packet.payload.length 30))
  /-- Beside the keep-alives of readers, what has gone out is what was sent. -/
  transmits : session.transmissions.map .ok = (dispatched log).map Packet.encode

theorem Run.all_or_nothing (run : Run (new settings host) log session) :
    AllOrNothing log session := by
  have coherent := run.coherent (coherent_new settings host)
  refine ⟨?_, ?_, ?_, run.transmits⟩
  · intro packet
    rcases send_cases coherent packet with ⟨usable, fits, socket, _, same⟩ | ⟨error, same, cause⟩
    · rw [same]
      exact iff_of_true rfl ⟨usable, fits⟩
    · rw [same]
      refine iff_of_false nofun ?_
      rintro ⟨usable, fits⟩
      rcases cause with ⟨idle, _⟩ | ⟨closed, _⟩ | ⟨_, large, _⟩
      · simp [idle] at usable
      · simp [closed] at usable
      · exact large.not_ge fits
  · intro packet sent
    rcases send_cases coherent packet with ⟨_, fits, socket, _, same⟩ | ⟨error, same, _⟩
    · rw [same]
      exact ⟨packet.frame, (packet.encode_and_decode fits).1, rfl, rfl, rfl, rfl⟩
    · rw [same] at sent
      cases sent
  · intro packet error refused
    rcases send_cases coherent packet with ⟨_, _, _, _, same⟩ | ⟨other, same, cause⟩
    · rw [same] at refused
      cases refused
    · rw [same] at refused ⊢
      cases refused
      exact ⟨rfl, cause⟩

/-- A link that sends before it is connected, while it is connected, while it is paused and when it is
closed, now a packet with an empty payload and now one that is too long. -/
theorem all_or_nothing_everyPhase : ∃ log last,
    Run (new (.ofChanges [.maxBindAttempts 1, .keepAliveThreshold 0]) .unhindered) log last ∧
    AllOrNothing log last ∧
    log.filterMap Deed.outcome? = [.error (.phase .closed), .ok (), .ok (), .ok (),
      .error (.packet (.payloadTooLarge 31 30)), .ok (), .ok (), .error (.phase .notConnected)] ∧
    last.transmissions = [[0xff, 0xff], keepAliveFrame] ∧
    last.history.filterMap (·.2.transmission?) =
      [keepAliveFrame, keepAliveFrame, keepAliveFrame, [0xff, 0xff], keepAliveFrame] := by
  let empty : Packet := ⟨15, 3, [], by decide, by decide⟩
  let alike : Packet := ⟨15, 3, [1, 1], by decide, by decide⟩
  let oversized : Packet := ⟨15, 3, List.replicate 31 0xff, by decide, by decide⟩
  have early : Run (new (.ofChanges [.maxBindAttempts 1, .keepAliveThreshold 0]) .unhindered) _ _ :=
    .step (.step .refl (.send empty (.ok ()))) (.connect "10.0.0.1" true (.ok ()))
  have connected := Run.step (.step (.step (.step early (.send empty (.ok ()))) (.arrive [0xff]))
    (.read rfl rfl (.ok ()))) (.send oversized (.ok ()))
  have run := Run.step (.step (.step (.step connected (.pause false (.ok ())))
    (.send alike (.ok ()))) (.close false (.ok ()))) (.send oversized (.ok ()))
  exact ⟨_, _, run, run.all_or_nothing, by decide +kernel, by decide +kernel, by decide +kernel⟩

end VehicleLink.Session
