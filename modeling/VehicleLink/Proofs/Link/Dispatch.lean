import VehicleLink.Link.Scenario
import VehicleLink.Proofs.Routing
import VehicleLink.Proofs.Link.Inbound

/-!
From the wire to the handlers: what a peer sends as frames is read, queued, received and routed.
Each subscription gets the packets that fit it, in the order in which they were sent.
-/

namespace VehicleLink.Session

open Exchange (invocations)
open Router (routeOn HandedOut)

variable {settings : Settings} {host : Host} {first last : Session} {log earlier : List Deed}
variable {datagrams : List (List UInt8)} {packets : List Packet}

/-- A peer sends packets as frames, and now and then a datagram too short for one. -/
inductive Transmits : List Packet → List (List UInt8) → Prop
  | nil : Transmits [] []
  | packet {port channel : UInt8} {payload frame : List UInt8} {packet : Packet}
      {packets : List Packet} {datagrams : List (List UInt8)}
      (made : Packet.make port channel payload = .ok packet) (encoded : packet.encode = .ok frame)
      (rest : Transmits packets datagrams) : Transmits (packet :: packets) (frame :: datagrams)
  | noise {datagram : List UInt8} {packets : List Packet} {datagrams : List (List UInt8)}
      (short : datagram.length < 2) (rest : Transmits packets datagrams) :
      Transmits packets (datagram :: datagrams)

theorem Transmits.frame {packet : Packet} (fits : packet.payload.length ≤ 30)
    (rest : Transmits packets datagrams) :
    Transmits (packet :: packets) (packet.frame :: datagrams) :=
  .packet (Packet.make_eq_ok_iff.mpr ⟨fits, rfl, rfl, rfl⟩)
    (Packet.encode_eq_ok_iff.mpr ⟨fits, rfl⟩) rest

theorem Transmits.packetsIn_eq (sent : Transmits packets datagrams)
    (room : 32 ≤ settings.receiveBufferSize) : packetsIn settings datagrams = packets := by
  induction sent with
  | nil => rfl
  | @packet port channel payload frame packet packets datagrams made encoded rest ih =>
      obtain ⟨fits, rfl⟩ := Packet.encode_eq_ok_iff.mp encoded
      have whole : packet.frame.take settings.receiveBufferSize = packet.frame := by
        apply List.take_of_length_le
        rw [Packet.frame_length]
        omega
      rw [packetsIn, List.filterMap_cons, whole, packet.decode_frame]
      exact congrArg _ ih
  | @noise datagram packets datagrams short rest ih =>
      have nothing : packetsIn settings [datagram] = [] := by
        rw [packetsIn_single_eq_nil_iff, List.length_take]
        omega
      rw [← List.singleton_append, packetsIn_append, nothing, List.nil_append, ih]

variable {α : Type} {wait : Wait} {route : Packet → α → α} {session after : Session}
variable {course final : α} {count : Nat}

/-- Packets are received and routed until none is left. -/
inductive Drains (wait : Wait) (route : Packet → α → α) :
    Session → α → Nat → Session → α → Prop
  | done {session after : Session} {course final : α}
      (none : session.dispatchNext wait route course = some (after, final, false)) :
      Drains wait route session course 0 after final
  | more {session middle after : Session} {course next final : α} {count : Nat}
      (dispatched : session.dispatchNext wait route course = some (middle, next, true))
      (rest : Drains wait route middle next count after final) :
      Drains wait route session course (count + 1) after final

theorem dispatchNext_of_queued {packet : Packet} {rest : List Packet}
    (queued : session.inbound = packet :: rest) (course : α) :
    session.dispatchNext wait route course =
      some ({ session with inbound := rest }, route packet course, true) := by
  simp only [dispatchNext, receive, queued]

theorem dispatchNext_of_empty (empty : session.inbound = []) {course : α}
    {result : Session × α × Bool}
    (ran : session.dispatchNext wait route course = some result) :
    result.2 = (course, false) := by
  simp only [dispatchNext, receive, empty] at ran
  split at ran
  · cases ran
  · cases ran
    rfl
  · next received =>
    split at received
    · cases wait <;> cases received
    · cases received

theorem Drains.exact (drains : Drains wait route session course count after final) :
    count = session.inbound.length ∧
      final = session.inbound.foldl (fun course packet => route packet course) course := by
  induction drains with
  | @done session after course final none =>
      cases queued : session.inbound with
      | nil => exact ⟨rfl, congrArg Prod.fst (dispatchNext_of_empty queued none)⟩
      | cons packet rest =>
          rw [dispatchNext_of_queued queued] at none
          cases none
  | @more session middle after course next final count dispatched rest ih =>
      cases queued : session.inbound with
      | nil => cases dispatchNext_of_empty queued dispatched
      | cons packet waiting =>
          rw [dispatchNext_of_queued queued] at dispatched
          cases dispatched
          rw [ih.1, ih.2]
          exact ⟨rfl, rfl⟩

theorem drains_exists (returns : wait ≠ .forever ∨ ¬ session.accepting) (route : Packet → α → α)
    (course : α) :
    ∃ after final, Drains wait route session course session.inbound.length after final := by
  induction queued : session.inbound generalizing session course with
  | nil =>
      obtain ⟨after, received⟩ : ∃ after, session.receive wait = some (after, none) := by
        simp only [receive, queued]
        split
        · next accepting =>
          cases wait with
          | none | atMost => exact ⟨_, rfl⟩
          | forever => exact absurd accepting (returns.resolve_left (not_not_intro rfl))
        · exact ⟨_, rfl⟩
      refine ⟨after, course, .done ?_⟩
      simp only [dispatchNext, received]
  | cons packet rest ih =>
      obtain ⟨after, final, drains⟩ :=
        @ih { session with inbound := rest } returns (route packet course) rfl
      exact ⟨after, final, .more (dispatchNext_of_queued queued course) drains⟩

/-- What a peer sends to a link that nobody else receives from comes to the handlers. -/
theorem Run.dispatches
    {conduct : Router.Behaviour} {router : Router} {limit : Nat}
    {course : Course Router.Desk Router.Request Router.Recipient Router.Message Router.Answer}
    (opened : Run (new settings host) earlier first) (run : Run first log last)
    (empty : first.inbound = []) (untouched : deliveries log = [])
    (caughtUp : last.readings = first.readings ++ arrivals log)
    (room : 32 ≤ settings.receiveBufferSize) (sent : Transmits packets (arrivals log))
    (nodup : router.entries.Nodup) (starts : course.state.router = router)
    (fixed : ∀ packet ∈ packets, ∀ course, course.state.router = router →
      (routeOn conduct limit packet course).state.router = router) :
    (wait ≠ .forever ∨ last.phase = .closed → ∃ after final,
      Drains wait (routeOn conduct limit) last course packets.length after final) ∧
    ∀ count after final, Drains wait (routeOn conduct limit) last course count after final →
      count = packets.length ∧
        HandedOut router packets (invocations 0 (final.since course)) := by
  have coherent := opened.coherent (coherent_new settings host)
  have queued : last.inbound = packets := by
    obtain ⟨datagrams, flow⟩ := run.flow coherent
    have taken : datagrams = arrivals log :=
      List.append_cancel_left (flow.readings.symm.trans caughtUp)
    have queue := flow.queue
    rw [empty, untouched, taken, opened.settings (coherent_new settings host), List.nil_append,
      List.nil_append] at queue
    exact queue.symm.trans (sent.packetsIn_eq room)
  constructor
  · intro returns
    rw [← queued]
    apply drains_exists
    apply returns.imp_right
    intro closed accepting
    exact (run.coherent coherent).accepting.mp accepting closed
  · intro count after final drains
    obtain ⟨counted, rfl⟩ := drains.exact
    rw [queued] at counted ⊢
    refine ⟨counted, ?_⟩
    obtain ⟨happenings, ran, invoked⟩ := Router.foldl_routeOn fixed starts
    rw [ran, Exchange.since_replay, invoked]
    exact Router.handedOut nodup packets

/-- A handler that fails and one that is for one channel. -/
def unevenRouter : Router :=
  ⟨[⟨6, none, .named "failing"⟩, ⟨6, some maxChannel, .named "narrow"⟩]⟩

/-- All ask how many are subscribed. -/
def unevenHandlers : Router.Behaviour where
  handle _ name _ := .scripted [.count 6] (name ≠ "failing")
  receive _ _ _ _ := .scripted [] true

def unevenCourse :
    Course Router.Desk Router.Request Router.Recipient Router.Message Router.Answer :=
  ⟨{ Router.Desk.empty with router := unevenRouter }, []⟩

/-- For no handler of the router. -/
def strayPacket : Packet := { Router.firstPacket with port := 3, port_le := by decide }

def unevenLog : List Deed :=
  [.read Router.firstPacket.frame, .arrived Router.firstPacket.frame true,
    .read strayPacket.frame, .read [], .arrived strayPacket.frame true, .arrived [] true,
    .read Router.secondPacket.frame, .read [0xff], .arrived Router.secondPacket.frame true,
    .arrived [0xff] true]

def unevenStart : Session :=
  ((new (.ofChanges [.maxBindAttempts 1, .receiveBufferSize 32]) .unhindered).connect
    "10.0.0.1" true (.ok ())).1

theorem dispatches_uneven : ∃ last after final,
    Run (new (.ofChanges [.maxBindAttempts 1, .receiveBufferSize 32]) .unhindered)
      [.connected "10.0.0.1" (.ok ())] unevenStart ∧
    Run unevenStart unevenLog last ∧
    Transmits [Router.secondPacket, strayPacket, Router.firstPacket] (arrivals unevenLog) ∧
    Drains .none (routeOn unevenHandlers 1) last unevenCourse 3 after final ∧
    HandedOut unevenRouter [Router.secondPacket, strayPacket, Router.firstPacket]
      (invocations 0 (final.since unevenCourse)) := by
  have opened : Run (new (.ofChanges [.maxBindAttempts 1, .receiveBufferSize 32]) .unhindered)
      [.connected "10.0.0.1" (.ok ())] unevenStart := .step .refl (.connect "10.0.0.1" true (.ok ()))
  have begun : Run unevenStart [.read Router.secondPacket.frame, .read [0xff],
      .arrived Router.secondPacket.frame true, .arrived [0xff] true] _ :=
    .step (.step (.step (.step .refl (.arrive [0xff])) (.arrive Router.secondPacket.frame))
      (.read rfl rfl (.ok ()))) (.read rfl rfl (.ok ()))
  have run : Run unevenStart unevenLog _ :=
    .step (.step (.step (.step (.step (.step begun (.arrive [])) (.arrive strayPacket.frame))
      (.read rfl rfl (.ok ()))) (.read rfl rfl (.ok ()))) (.arrive Router.firstPacket.frame))
      (.read rfl rfl (.ok ()))
  have sent : Transmits [Router.secondPacket, strayPacket, Router.firstPacket]
      (arrivals unevenLog) :=
    .noise (by decide) (.frame (by decide) (.noise (by decide) (.frame (by decide)
      (.frame (by decide) .nil))))
  have fixed : ∀ packet ∈ [Router.secondPacket, strayPacket, Router.firstPacket], ∀ course,
      course.state.router = unevenRouter →
        (routeOn unevenHandlers 1 packet course).state.router = unevenRouter := by
    intro packet _ course
    apply Router.routeOn_router
    exact ⟨fun _ _ _ => ⟨fun _ => rfl, fun _ => trivial⟩, fun _ _ _ _ => trivial⟩
  obtain ⟨ends, handed⟩ := opened.dispatches run rfl rfl rfl (by decide) sent (by decide)
    (show unevenCourse.state.router = unevenRouter from rfl) fixed
  obtain ⟨after, final, drains⟩ := ends (.inl (show Wait.none ≠ .forever from nofun))
  exact ⟨_, after, final, opened, run, sent, drains, (handed 3 after final drains).2⟩

end VehicleLink.Session
