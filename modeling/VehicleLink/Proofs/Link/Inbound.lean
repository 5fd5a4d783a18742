import VehicleLink.Proofs.Frames
import VehicleLink.Proofs.Link.Lifecycle

/-!
What comes in goes out in the same order. The datagrams that reach a link pass through the socket,
the reader and the queue of packets; whatever is done to the link, what a receiver gets is a prefix
of the packets of what the reader has taken, and what the reader has taken is a prefix of what came
in.
-/

namespace VehicleLink.Session

variable {settings : Settings} {host : Host} {session before middle after last : Session}
variable {deed : Deed} {log more : List Deed} {datagrams later : List (List UInt8)}

def Deed.delivery? : Deed → Option Packet
  | .received _ packet => packet
  | .connected .. | .sent .. | .paused .. | .restarted _ | .closed .. | .arrived .. | .read _
  | .readFailed _ | .waited | .hostChanged => none

def Deed.arrival? : Deed → Option (List UInt8)
  | .arrived datagram true => some datagram
  | .arrived _ false | .connected .. | .sent .. | .paused .. | .restarted _ | .closed ..
  | .received .. | .read _ | .readFailed _ | .waited | .hostChanged => none

/-- The packets that were received, in order. -/
def deliveries (log : List Deed) : List Packet := (log.filterMap Deed.delivery?).reverse

/-- The datagrams that reached the socket, in order. -/
def arrivals (log : List Deed) : List (List UInt8) := (log.filterMap Deed.arrival?).reverse

theorem deliveries_append (log more : List Deed) :
    deliveries (more ++ log) = deliveries log ++ deliveries more := by
  simp [deliveries]

theorem arrivals_append (log more : List Deed) :
    arrivals (more ++ log) = arrivals log ++ arrivals more := by
  simp [arrivals]

theorem deliveries_single (deed : Deed) : deliveries [deed] = deed.delivery?.toList := by
  cases delivered : deed.delivery? <;> simp [deliveries, delivered]

theorem arrivals_single (deed : Deed) : arrivals [deed] = deed.arrival?.toList := by
  cases arrived : deed.arrival? <;> simp [arrivals, arrived]

theorem packetsIn_append (settings : Settings) (datagrams later : List (List UInt8)) :
    packetsIn settings (datagrams ++ later) =
      packetsIn settings datagrams ++ packetsIn settings later :=
  List.filterMap_append

theorem packetsIn_single_eq_nil_iff (settings : Settings) (datagram : List UInt8) :
    packetsIn settings [datagram] = [] ↔
      (datagram.take settings.receiveBufferSize).length < 2 := by
  cases decoded : Packet.decode (datagram.take settings.receiveBufferSize) with
  | ok packet =>
      have long : ¬ (datagram.take settings.receiveBufferSize).length < 2 := by
        intro short
        rw [Packet.decode_eq_error_iff.mpr ⟨short, rfl⟩] at decoded
        cases decoded
      refine iff_of_false ?_ long
      simp [packetsIn, decoded, Except.toOption]
  | error error =>
      refine iff_of_true ?_ (Packet.decode_eq_error_iff.mp decoded).1
      simp [packetsIn, decoded, Except.toOption]

/-! ### Flow -/

/-- Along the deeds of a log the reader takes these datagrams, the queue passes on their packets,
and the socket yields them as they came in. -/
structure Flow (before : Session) (log : List Deed) (datagrams : List (List UInt8))
    (after : Session) : Prop where
  settings : after.settings = before.settings
  closed : before.phase = .closed → after.phase = .closed
  readings : after.readings = before.readings ++ datagrams
  queue : before.inbound ++ packetsIn before.settings datagrams = deliveries log ++ after.inbound
  taken : datagrams <+: before.unread ++ arrivals log
  held : after.phase ≠ .closed → before.unread ++ arrivals log = datagrams ++ after.unread
  still : before.phase = .closed → datagrams = []

theorem Flow.refl (session : Session) : Flow session [] [] session where
  settings := rfl
  closed closed := closed
  readings := (List.append_nil _).symm
  queue := List.append_nil _
  taken := List.nil_prefix
  held _ := List.append_nil _
  still _ := rfl

theorem Flow.trans (first : Flow before log datagrams middle)
    (rest : Flow middle more later after) : Flow before (more ++ log) (datagrams ++ later) after where
  settings := rest.settings.trans first.settings
  closed closed := rest.closed (first.closed closed)
  readings := by rw [rest.readings, first.readings, List.append_assoc]
  queue := by
    rw [packetsIn_append, ← List.append_assoc, first.queue, List.append_assoc, ← first.settings,
      rest.queue, deliveries_append, List.append_assoc]
  taken := by
    rw [arrivals_append, ← List.append_assoc]
    -- A link may be closed while datagrams wait. From then on nothing is read.
    by_cases closed : middle.phase = .closed
    · rw [rest.still closed, List.append_nil]
      exact first.taken.trans (List.prefix_append _ _)
    · rw [first.held closed, List.append_assoc]
      exact (List.prefix_append_right_inj datagrams).mpr rest.taken
  held unclosed := by
    have held := first.held fun closed => unclosed (rest.closed closed)
    rw [arrivals_append, ← List.append_assoc, held, List.append_assoc, rest.held unclosed,
      List.append_assoc]
  still closed := by rw [first.still closed, rest.still (first.closed closed), List.append_nil]

theorem Flow.of_reads (coherent : session.Coherent) (change : Change session deed after)
    (inner : deed.isInner = true) (reads : Reads session datagrams after) :
    Flow session [deed] datagrams after := by
  have nothing : deed.delivery? = none ∧ deed.arrival? = none := by
    unfold Deed.isInner at inner
    split at inner <;> simp_all [Deed.delivery?, Deed.arrival?]
  refine ⟨change.settings, change.remains_closed, reads.readings, ?_, ?_, fun _ => ?_,
    fun closed => ?_⟩
  · rw [deliveries_single, nothing.1]
    exact reads.inbound.symm
  · rw [reads.unread, List.append_assoc]
    exact List.prefix_append _ _
  · rw [arrivals_single, nothing.2, reads.unread]
    exact List.append_nil _
  · -- Nothing waits at a closed link, so that nothing was read.
    have unread := reads.unread
    rw [coherent.unread_of_closed closed] at unread
    exact (List.append_eq_nil_iff.mp unread.symm).1

theorem Change.flow (coherent : session.Coherent) (change : Change session deed after) :
    ∃ datagrams, Flow session [deed] datagrams after := by
  cases inner : deed.isInner with
  | true =>
      obtain ⟨datagrams, reads, _⟩ := change.reads coherent inner
      exact ⟨datagrams, .of_reads coherent change inner reads⟩
  | false =>
      have settings := change.settings
      cases change with
      | sent usable held =>
          refine ⟨[], rfl, id, ?_, List.append_nil _, List.nil_prefix, fun _ => ?_, fun _ => rfl⟩
          · simp [readings, record, Incident.reading?]
          · simp only [unread, held]
            exact List.append_nil _
      | @closed busy written usable =>
          obtain ⟨datagrams, reads, _⟩ := session.stopReader_reads busy written
          refine ⟨datagrams, settings, fun _ => rfl, reads.readings, reads.inbound.symm, ?_,
            fun unclosed => absurd rfl unclosed, fun closed => ?_⟩
          · rw [reads.unread, List.append_assoc]
            exact List.prefix_append _ _
          · rw [closed] at usable
            rcases usable with usable | usable <;> cases usable
      | received queued =>
          refine ⟨[], rfl, id, (List.append_nil _).symm, ?_, List.nil_prefix,
            fun _ => List.append_nil _, fun _ => rfl⟩
          rw [queued]
          exact List.append_nil _
      | arrived held =>
          refine ⟨[], rfl, id, (List.append_nil _).symm, List.append_nil _, List.nil_prefix,
            fun _ => ?_, fun _ => rfl⟩
          simp only [unread, held]
          rfl
      | failed outcome => cases inner.symm.trans (Deed.isInner_of_error outcome)
      | moot moot => cases moot <;> cases inner
      | connected | paused | restarted | read | readFailed | outwaited | elapsed | hostChanged =>
          cases inner

theorem Run.flow (run : Run session log last) (coherent : session.Coherent) :
    ∃ datagrams, Flow session log datagrams last := by
  induction run with
  | refl => exact ⟨[], .refl session⟩
  | step run step ih =>
      obtain ⟨datagrams, flow⟩ := ih
      have coherent := run.coherent coherent
      obtain ⟨later, rest⟩ := (step.change coherent).flow coherent
      exact ⟨datagrams ++ later, flow.trans rest⟩

/-! ### Pause, restart and reception -/

theorem pause_reads (coherent : session.Coherent) (busy : Bool) (written : Except String Unit) :
    ∃ datagrams, Reads session datagrams (session.pause busy written).1 ∧
      (busy = false → datagrams = []) := by
  obtain ⟨datagrams, reads, idle⟩ := (session.pause_change busy written).reads coherent rfl
  refine ⟨datagrams, reads, fun calm => idle ?_⟩
  rw [calm]
  rfl

theorem restart_reads (coherent : session.Coherent) (written : Except String Unit) :
    Reads session [] (session.restart written).1 := by
  obtain ⟨datagrams, reads, idle⟩ := (restart_change coherent written).reads coherent rfl
  rwa [idle rfl] at reads

theorem receive_at_once (coherent : session.Coherent)
    (ready : session.inbound ≠ [] ∨ session.phase = .closed) (wait : Wait) :
    session.receive wait =
      some ({ session with inbound := session.inbound.tail }, session.inbound.head?) := by
  cases queued : session.inbound with
  | cons packet rest => simp only [receive, queued, List.tail_cons, List.head?_cons]
  | nil =>
      have closed := ready.resolve_left (not_not_intro queued)
      have accepting : ¬ session.accepting = true := by
        rw [coherent.accepting]
        exact not_not_intro closed
      simp only [receive, queued]
      rw [if_neg accepting, List.tail_nil, List.head?_nil, ← queued]

/-- What comes in is received in order. -/
structure Orderly (log : List Deed) (session : Session) : Prop where
  /-- Receivers have got the packets of what was read, but for those that still wait. -/
  queue : deliveries log ++ session.inbound = packetsIn session.settings session.readings
  delivered : deliveries log <+: packetsIn session.settings session.readings
  /-- A datagram has no packet only if too little of it is read. -/
  dropped : ∀ datagram, packetsIn session.settings [datagram] = [] ↔
    (datagram.take session.settings.receiveBufferSize).length < 2
  taken : session.readings <+: arrivals log
  held : session.phase ≠ .closed → session.readings ++ session.unread = arrivals log
  /-- A pause adds, drops and reorders nothing, even while the reader takes one more datagram. -/
  paused : ∀ busy written, ∃ datagrams, Reads session datagrams (session.pause busy written).1 ∧
    (busy = false → datagrams = [])
  restarted : ∀ written, Reads session [] (session.restart written).1
  /-- Nobody waits for a packet that is there, nor for any at a closed link. -/
  received : session.inbound ≠ [] ∨ session.phase = .closed → ∀ wait, session.receive wait =
    some ({ session with inbound := session.inbound.tail }, session.inbound.head?)
  /-- A closed link yields the packets that were queued when it was closed, and no more. -/
  drained : session.phase = .closed → ∀ more last, Run session more last →
    deliveries more ++ last.inbound = session.inbound

theorem Run.orderly (run : Run (new settings host) log session) : Orderly log session := by
  have coherent := run.coherent (coherent_new settings host)
  obtain ⟨datagrams, flow⟩ := run.flow (coherent_new settings host)
  have readings : session.readings = datagrams := flow.readings
  have queue : deliveries log ++ session.inbound = packetsIn session.settings session.readings := by
    rw [readings, flow.settings]
    exact flow.queue.symm
  exact
    { queue
      delivered := ⟨session.inbound, queue⟩
      dropped := packetsIn_single_eq_nil_iff session.settings
      taken := by
        rw [readings]
        exact flow.taken
      held := fun unclosed => by
        rw [readings]
        exact (flow.held unclosed).symm
      paused := pause_reads coherent
      restarted := restart_reads coherent
      received := receive_at_once coherent
      drained := by
        intro closed more last rest
        obtain ⟨later, rest⟩ := rest.flow coherent
        have queue := rest.queue
        rw [rest.still closed] at queue
        exact queue.symm.trans (List.append_nil _) }

/-- Datagrams that hold no packet, that are too long and that come during a pause; the last packet
is received after the link is closed. -/
def fullQueue : List Deed :=
  [.received .forever none, .received .forever (some ⟨5, 1, [], by decide, by decide⟩),
    .closed false (.ok ()), .received .none (some ⟨5, 0, [1, 2], by decide, by decide⟩),
    .read [0x5d, 7], .restarted (.ok ()), .arrived [0x5d, 7] true, .paused true (.ok ()),
    .read [0xff], .arrived [0x5c, 1, 2, 3, 4, 5] true, .arrived [0xff] true,
    .connected "10.0.0.1" (.ok ())]

theorem orderly_fullQueue : ∃ session,
    Run (new (.ofChanges [.maxBindAttempts 1, .receiveBufferSize 4]) .unhindered) fullQueue
      session ∧
    Orderly fullQueue session ∧ session.phase = .closed ∧
    session.readings = [[0xff], [0x5c, 1, 2, 3, 4, 5], [0x5d, 7]] := by
  have first : Run (new (.ofChanges [.maxBindAttempts 1, .receiveBufferSize 4]) .unhindered)
      [.read [0xff], .arrived [0x5c, 1, 2, 3, 4, 5] true, .arrived [0xff] true,
        .connected "10.0.0.1" (.ok ())] _ :=
    .step (.step (.step (.step .refl (.connect "10.0.0.1" true (.ok ()))) (.arrive [0xff]))
      (.arrive [0x5c, 1, 2, 3, 4, 5])) (.read rfl rfl (.ok ()))
  have run : Run (new (.ofChanges [.maxBindAttempts 1, .receiveBufferSize 4]) .unhindered)
      fullQueue _ :=
    .step (.step (.step (.step (.step (.step (.step (.step first (.pause true (.ok ())))
      (.arrive [0x5d, 7])) (.restart (.ok ()))) (.read rfl rfl (.ok ()))) (.receive rfl))
      (.close false (.ok ()))) (.receive rfl)) (.receive rfl)
  exact ⟨_, run, run.orderly, rfl, rfl⟩

end VehicleLink.Session
