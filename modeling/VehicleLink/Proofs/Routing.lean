import VehicleLink.Router
import VehicleLink.Proofs.Registry
import VehicleLink.Proofs.Delivery.Execution
import Mathlib.Data.List.Count

/-!
Routers while handlers register, unregister and route further packets themselves. The subscriptions
of any moment are those that the calls until then ask for; a packet goes to the handlers of the
moment at which it is routed.
-/

namespace VehicleLink.Router

open Registry (Call Wanted)
open Exchange (past during invocations Visit TakeInTurn)

/-! ### Calls on the registry -/

/-- The listeners made so far after one more request. -/
def Request.makes (made : List Listener) : Request → List Listener
  | .attach name => ⟨made.length, name⟩ :: made
  | .register .. | .unregister .. | .route _ | .dispatch _ | .count _ | .describe | .detach _
  | .signal .. | .emit .. => made

/-- What a request is to the registry, by the listeners made so far. -/
def Request.call? (made : List Listener) : Request → Option (Call Subscription)
  | .register port channel handler => some (.insert ⟨port, channel, .named handler⟩)
  | .unregister port channel handler => some (.remove ⟨port, channel, .named handler⟩)
  | .attach name => some (.insert (listening ⟨made.length, name⟩))
  | .detach name => (made.find? (·.name = name)).map fun listener => .remove (listening listener)
  | .route _ | .dispatch _ | .count _ | .describe | .signal .. | .emit .. => none

/-- The calls on a registry that requests are, by the listeners made until then. -/
def calls {α : Type} (call? : List Listener → Request → Option (Call α)) (made : List Listener) :
    List Request → List (Call α)
  | [] => []
  | request :: rest => (call? made request).toList ++ calls call? (request.makes made) rest

/-- The calls on the registry of a new router, those of handlers included. -/
def callsAmong (happenings : List (Happening Request Recipient Message Answer)) :
    List (Call Subscription) :=
  calls Request.call? [] (happenings.filterMap Happening.request?)

/-- The subscriptions that calls ask for on a port. -/
def wantedOn (calls : List (Call Subscription)) (port : UInt8) : Set Subscription :=
  {subscription | Wanted calls subscription ∧ subscription.port = port}

/-- A router holds what calls ask for, and its counts agree with it. -/
structure Lawful (router : Router) (calls : List (Call Subscription)) : Prop where
  reflects : router.Reflects calls
  counts : ∀ port, handlerCount router port = (wantedOn calls port).ncard
  /-- The number that is shown is the sum of the counts of all ports. -/
  shown : describe router = "PortRouter \x7b subscriptions: " ++
    toString (∑ port ∈ Finset.range 256, handlerCount router (UInt8.ofNat port)) ++ " \x7d"

variable {conduct : Behaviour}
variable {router : Router} {request : Request}

theorem settle_router (desk : Desk) (request : Request) :
    ((exchange conduct).settle desk request).router =
      (request.call? desk.listeners).toList.foldl Registry.apply desk.router := by
  cases request with
  | dispatch frame =>
      simp only [Exchange.settle, exchange, effect]
      cases Packet.decode frame <;> rfl
  | detach name =>
      simp only [Exchange.settle, exchange, effect, Desk.detach, Request.call?]
      cases desk.listeners.find? (·.name = name) <;> rfl
  | signal name request =>
      simp only [Exchange.settle, exchange, effect, Request.call?]
      cases desk.listeners.find? (·.name = name) with
      | none => rfl
      | some listener => cases request <;> rfl
  | register | unregister | route | count | describe | attach | emit => rfl

theorem settle_listeners (desk : Desk) (request : Request) :
    ((exchange conduct).settle desk request).listeners = request.makes desk.listeners := by
  cases request with
  | dispatch frame =>
      simp only [Exchange.settle, exchange, effect]
      cases Packet.decode frame <;> rfl
  | detach name =>
      simp only [Exchange.settle, exchange, effect, Desk.detach]
      cases desk.listeners.find? (·.name = name) <;> rfl
  | signal name request =>
      simp only [Exchange.settle, exchange, effect]
      cases desk.listeners.find? (·.name = name) with
      | none => rfl
      | some listener => cases request <;> rfl
  | register | unregister | route | count | describe | attach | emit => rfl

/-- A registry of a desk follows the calls on it if it does so with each request. -/
theorem foldl_settle {α : Type} [DecidableEq α] (registry : Desk → Registry α)
    (call? : List Listener → Request → Option (Call α))
    (settles : ∀ desk request, registry ((exchange conduct).settle desk request) =
      (call? desk.listeners request).toList.foldl Registry.apply (registry desk))
    (desk : Desk) (requests : List Request) :
    registry (requests.foldl (exchange conduct).settle desk) =
      (calls call? desk.listeners requests).foldl Registry.apply (registry desk) := by
  induction requests generalizing desk with
  | nil => rfl
  | cons request rest ih =>
      rw [List.foldl_cons, ih, settles, settle_listeners, calls, List.foldl_append]

theorem replay_router (happenings : List (Happening Request Recipient Message Answer)) :
    ((exchange conduct).replay ⟨.empty, []⟩ happenings).state.router =
      Registry.ofCalls (callsAmong happenings) := by
  rw [Exchange.state_replay, foldl_settle Desk.router Request.call? settle_router]
  rfl

/-! ### What the registry holds -/

theorem sum_handlerCount (router : Router) :
    ∑ port ∈ Finset.range 256, handlerCount router (UInt8.ofNat port) = router.size := by
  have ported : ∀ subscription ∈ router.entries,
      subscription.port.toNat ∈ Finset.range 256 :=
    fun subscription _ => Finset.mem_range.mpr subscription.port.toNat_lt
  rw [← Registry.sum_count ported]
  apply Finset.sum_congr rfl
  intro port small
  have kept : (UInt8.ofNat port).toNat = port :=
    UInt8.toNat_ofNat_of_lt' (Finset.mem_range.mp small)
  have same (subscription : Subscription) :
      subscription.port = UInt8.ofNat port ↔ subscription.port.toNat = port := by
    rw [← UInt8.toNat_inj, kept]
  simp only [handlerCount, same]

theorem Lawful.of_reflects {calls : List (Call Subscription)} (reflects : router.Reflects calls) :
    Lawful router calls where
  reflects := reflects
  counts port := by
    rw [handlerCount, reflects.count_eq]
    simp only [decide_eq_true_eq, wantedOn]
  shown := by
    rw [sum_handlerCount]
    rfl

theorem lawful_replay (happenings : List (Happening Request Recipient Message Answer)) :
    Lawful ((exchange conduct).replay ⟨.empty, []⟩ happenings).state.router
      (callsAmong happenings) := by
  rw [replay_router]
  exact .of_reflects (Registry.reflects_ofCalls _)

/-- What a router says of itself at a moment. -/
structure Tells (request : Request) (calls : List (Call Subscription))
    (inside : List (Happening Request Recipient Message Answer)) : Prop where
  counts : ∀ port, request = .count port →
    inside = [.answered (.count (wantedOn calls port).ncard)]
  shown : request = .describe → inside = [.answered (.text ("PortRouter \x7b subscriptions: " ++
    toString {subscription | Wanted calls subscription}.ncard ++ " \x7d"))]

theorem Lawful.tells {calls : List (Call Subscription)} {limit depth : Nat}
    {course : Course Desk Request Recipient Message Answer}
    {inside : List (Happening Request Recipient Message Answer)}
    (lawful : Lawful course.state.router calls)
    (served : (exchange conduct).Served limit depth request course inside) :
    Tells request calls inside where
  counts := by
    rintro port rfl
    rw [← lawful.counts]
    exact served
  shown := by
    rintro rfl
    rw [← lawful.reflects.size_eq]
    exact served

variable {limit depth : Nat} {requests : List Request}
variable {before after : List (Happening Request Recipient Message Answer)}
variable {reply : Exchange.Reply Desk Request Recipient Message Answer}
variable {earlier rest : List (Exchange.Reply Desk Request Recipient Message Answer)}

/-- However often and however deep handlers call a new router, and whether or not they complete, it
holds what the calls until then ask for: after each request and at each moment of it. -/
theorem run_lawful
    (replies : (exchange conduct).run limit requests ⟨.empty, []⟩ = earlier ++ reply :: rest) :
    Lawful reply.state.router (callsAmong (past (earlier ++ [reply]))) ∧
      ∀ before depth request after,
        reply.chronicle = before ++ .requested depth request :: after →
        Lawful ((exchange conduct).replay ⟨.empty, []⟩ (past earlier ++ before)).state.router
            (callsAmong (past earlier ++ before)) ∧
          Tells request (callsAmong (past earlier ++ before)) (during depth after) := by
  constructor
  · obtain ⟨_, _, _, _, made, _⟩ := Exchange.run_handles replies
    rw [made]
    exact lawful_replay _
  · intro before depth request after moment
    have lawful : Lawful
        ((exchange conduct).replay ⟨.empty, []⟩ (past earlier ++ before)).state.router
        (callsAmong (past earlier ++ before)) := lawful_replay _
    exact ⟨lawful, lawful.tells (Exchange.run_served replies moment)⟩

def firstPacket : Packet := ⟨6, 2, [1], by decide, by decide⟩

/-- For another channel of the same port. -/
def secondPacket : Packet :=
  { firstPacket with channel := maxChannel, channel_le := UInt8.le_refl maxChannel, payload := [] }

/-- A guide that lets another handler in, takes itself out, routes a packet, comes back in and then
fails; all others ask how many they are. -/
def guided : Behaviour where
  handle _ name _ :=
    if name = "guide" then
      .scripted [.register 6 none "late", .unregister 6 none "guide",
        .route secondPacket, .register 6 none "guide"] false
    else .scripted [.count 6, .describe] true
  receive _ _ _ _ := .scripted [] true

def guidedRequests : List Request :=
  [.register 6 none "guide", .register 6 (some 2) "steady", .route firstPacket]

theorem run_lawful_guided : ∃ earlier reply before after,
    (exchange guided).run 2 guidedRequests ⟨.empty, []⟩ = earlier ++ [reply] ∧
    Lawful reply.state.router (callsAmong (past (earlier ++ [reply]))) ∧
    reply.state.router.entries = [⟨6, some 2, .named "steady"⟩, ⟨6, none, .named "late"⟩,
      ⟨6, none, .named "guide"⟩] ∧
    reply.chronicle = before ++ .requested 2 (.count 6) :: after ∧
    Tells (.count 6) (callsAmong (past earlier ++ before)) (during 2 after) ∧
    during 2 after = [.answered (.count 2)] := by
  have replies : (exchange guided).run 2 guidedRequests ⟨.empty, []⟩ = [_, _] ++ [_] := rfl
  have law := run_lawful replies
  exact ⟨_, _, [_, _, _, _, _, _, _, _], _, replies, law.1, rfl, rfl, (law.2 _ _ _ _ rfl).2, rfl⟩

/-! ### Where packets go -/

/-- The packet that a request hands to the handlers. -/
def Request.packet? : Request → Option Packet
  | .route packet => some packet
  | .dispatch frame => (Packet.decode frame).toOption
  | .register .. | .unregister .. | .count _ | .describe | .attach _ | .detach _ | .signal ..
  | .emit .. => none

/-- Whether a packet has the port of a subscription, and its channel if it asks for one. -/
def Fits (packet : Packet) (subscription : Subscription) : Prop :=
  subscription.port = packet.port ∧
    (subscription.channel = none ∨ subscription.channel = some packet.channel)

instance (packet : Packet) : DecidablePred (Fits packet) :=
  fun _ => inferInstanceAs (Decidable (_ ∧ _))

def matching (router : Router) (packet : Packet) : List Subscription :=
  router.entries.filter (Fits packet ·)

theorem accepts_eq (packet : Packet) (subscription : Subscription) :
    subscription.accepts packet = decide (Fits packet subscription) := by
  cases channel : subscription.channel <;> simp [Subscription.accepts, Fits, channel]

theorem handlers_eq (router : Router) (packet : Packet) :
    handlers router packet = (matching router packet).map (·.handler) := by
  simp only [handlers, matching, accepts_eq]

theorem effect_of_packet {packet : Packet} (carries : request.packet? = some packet)
    (desk : Desk) : effect request desk = desk.route packet := by
  cases request with
  | route given =>
      cases carries
      rfl
  | dispatch frame =>
      cases read : Packet.decode frame with
      | ok given =>
          simp only [Request.packet?, read, Except.toOption, Option.some.injEq] at carries
          simp only [effect, read, carries]
      | error error =>
          simp only [Request.packet?, read, Except.toOption, reduceCtorEq] at carries
  | register | unregister | count | describe | attach | detach | signal | emit => cases carries

/-- Whatever the handlers do, and at any depth, a packet is handed to the matching subscriptions of
the moment, to each once and in their order, and the answer is the number that complete. -/
theorem run_routes {course : Course Desk Request Recipient Message Answer} {packet : Packet}
    (replies : (exchange conduct).run limit requests course = earlier ++ reply :: rest)
    (moment : reply.chronicle = before ++ .requested depth request :: after)
    (carries : request.packet? = some packet) :
    let now := (exchange conduct).replay course (past earlier ++ before)
    ∃ visits : List (Visit Request Recipient Message Answer),
      visits.map (·.target) = (matching now.state.router packet).map (.handler ·.handler) ∧
      during depth after = visits.flatMap (·.happenings depth (.packet packet)) ++
        [.answered (.completed (visits.countP (·.completed)))] ∧
      (exchange conduct).TakeInTurn limit depth (.packet packet)
        (.requested depth request :: now.trace) visits := by
  intro now
  have served := Exchange.run_served replies moment
  rw [Exchange.Served, show (exchange conduct).effect = effect from rfl,
    effect_of_packet carries, Desk.route, handlers_eq, List.map_map] at served
  exact served

/-- The guide's own changes are met by the packet that it routes, not by the one that it takes. -/
theorem run_routes_guided : ∃ earlier reply before later after,
    (exchange guided).run 2 guidedRequests ⟨.empty, []⟩ = earlier ++ [reply] ∧
    reply.chronicle = [] ++ .requested 0 (.route firstPacket) :: after ∧
    reply.chronicle = before ++ .requested 1 (.route secondPacket) :: later ∧
    reply.answer = .completed 1 ∧
    (∃ visits : List (Visit Request Recipient Message Answer),
      visits.map (·.target) = [.handler (.named "guide"), .handler (.named "steady")] ∧
      during 0 after = visits.flatMap (·.happenings 0 (.packet firstPacket)) ++
        [.answered (.completed (visits.countP (·.completed)))]) ∧
    ∃ visits : List (Visit Request Recipient Message Answer),
      visits.map (·.target) = [.handler (.named "late")] ∧
      during 1 later = visits.flatMap (·.happenings 1 (.packet secondPacket)) ++
        [.answered (.completed (visits.countP (·.completed)))] := by
  have replies : (exchange guided).run 2 guidedRequests ⟨.empty, []⟩ = [_, _] ++ [_] := rfl
  have first := run_routes replies
    (show Exchange.Reply.chronicle _ = [] ++ .requested 0 (Request.route firstPacket) :: _ from rfl)
    rfl
  have second := run_routes replies
    (show Exchange.Reply.chronicle _ =
      [_, _, _, _, _, _] ++ .requested 1 (Request.route secondPacket) :: _ from rfl)
    rfl
  obtain ⟨visits, targets, inside, -⟩ := first
  obtain ⟨nested, nestedTargets, nestedInside, -⟩ := second
  exact ⟨_, _, [_, _, _, _, _, _], _, _, replies, rfl, rfl, rfl, ⟨visits, targets, inside⟩,
    nested, nestedTargets, nestedInside⟩

/-! ### Packets one after the other -/

variable {packets : List Packet} {course : Course Desk Request Recipient Message Answer}

/-- Routes a packet and goes on whatever the answer. -/
def routeOn (conduct : Behaviour) (limit : Nat) (packet : Packet)
    (course : Course Desk Request Recipient Message Answer) :
    Course Desk Request Recipient Message Answer :=
  ((exchange conduct).handle limit 0 (.route packet) course).1

/-- Packets with the subscriptions that they fit, packet by packet. -/
def shares (router : Router) (packets : List Packet) : List (Subscription × Packet) :=
  packets.flatMap fun packet => (matching router packet).map (·, packet)

/-- Handlers are called for the packets that fit their subscriptions, in order. -/
structure HandedOut (router : Router) (packets : List Packet)
    (calls : List (Recipient × Message)) : Prop where
  /-- Each call is for a subscription. -/
  shared : calls = (shares router packets).map fun (subscription, packet) =>
    (.handler subscription.handler, .packet packet)
  /-- A subscription gets what fits it. -/
  share : ∀ subscription ∈ router.entries,
    ((shares router packets).filter (·.1 = subscription)).map (·.2) =
      packets.filter (Fits · subscription)
  /-- A handler with no other subscription is called for what fits this one. -/
  sole : ∀ subscription ∈ router.entries,
    (∀ other ∈ router.entries, other.handler = subscription.handler → other = subscription) →
    (calls.filter (·.1 = .handler subscription.handler)).map (·.2) =
      (packets.filter (Fits · subscription)).map .packet

theorem routeOn_invokes (conduct : Behaviour) (limit : Nat) (packet : Packet)
    (course : Course Desk Request Recipient Message Answer) :
    ∃ happenings, routeOn conduct limit packet course =
        (exchange conduct).replay course happenings ∧
      invocations 0 happenings =
        (matching course.state.router packet).map fun subscription =>
          (.handler subscription.handler, .packet packet) := by
  obtain ⟨happenings, ran, invoked⟩ := Exchange.handle_invokes (exchange conduct) limit 0
    (.route packet) course rfl
  refine ⟨happenings, ran, ?_⟩
  rw [invoked, handlers_eq, List.map_map, List.map_map]
  rfl

/-- All that handlers and callbacks ask for is allowed. -/
structure Behaviour.Asks (behaviour : Behaviour) (allowed : Request → Prop) : Prop where
  handle : ∀ trace name packet,
    Exchange.Asks allowed (behaviour.handle trace name packet).reaction
  receive : ∀ trace listener name report,
    Exchange.Asks allowed (behaviour.receive trace listener name report).reaction

/-- Nobody but a listener that gets a packet asks for more. -/
theorem Behaviour.Asks.others {behaviour : Behaviour} {allowed : Request → Prop}
    (asks : behaviour.Asks allowed) (trace : List (Happening Request Recipient Message Answer))
    {recipient : Recipient} {message : Message}
    (other : ¬ ∃ listener packet, recipient = .handler (.listener listener) ∧
      message = .packet packet) :
    Exchange.Asks allowed ((exchange behaviour).conduct trace recipient message).reaction := by
  cases recipient with
  | handler handler =>
      cases handler with
      | named name =>
          cases message with
          | packet packet => exact asks.handle trace name packet
          | report => trivial
      | listener listener =>
          cases message with
          | packet packet => exact absurd ⟨listener, packet, rfl, rfl⟩ other
          | report => trivial
  | callback listener name =>
      cases message with
      | packet => trivial
      | report report => exact asks.receive trace listener name report

/-- If listeners may call their signals, nobody asks for more than is allowed. -/
theorem Behaviour.Asks.everyone {behaviour : Behaviour} {allowed : Request → Prop}
    (asks : behaviour.Asks allowed) (emits : ∀ listener report, allowed (.emit listener report))
    (trace : List (Happening Request Recipient Message Answer)) (recipient : Recipient)
    (message : Message) :
    Exchange.Asks allowed ((exchange behaviour).conduct trace recipient message).reaction := by
  by_cases listens : ∃ listener packet, recipient = .handler (.listener listener) ∧
      message = .packet packet
  · obtain ⟨listener, packet, rfl, rfl⟩ := listens
    simp only [exchange, listen]
    cases Localization.Report.parse packet with
    | ok report => exact ⟨emits listener report, fun _ => trivial⟩
    | error error => trivial
  · exact asks.others trace listens

/-- Subscriptions stay fixed while no handler makes a call on the registry. -/
theorem routeOn_router {limit : Nat} {packet : Packet}
    (harmless : conduct.Asks fun request => ∀ made, request.call? made = none)
    (starts : course.state.router = router) :
    (routeOn conduct limit packet course).state.router = router := by
  apply Exchange.handle_keeps (fun desk : Desk => desk.router = router)
    fun request => ∀ made, request.call? made = none
  · intro request desk harmless kept
    rw [settle_router, harmless, ← kept]
    rfl
  · exact harmless.everyone fun _ _ _ => rfl
  · intro made
    rfl
  · exact starts

/-- Along a series of packets nobody else comes to be subscribed. -/
theorem foldl_routeOn {limit : Nat}
    (fixed : ∀ packet ∈ packets, ∀ course, course.state.router = router →
      (routeOn conduct limit packet course).state.router = router)
    (starts : course.state.router = router) :
    ∃ happenings, packets.foldl (fun course packet => routeOn conduct limit packet course) course =
        (exchange conduct).replay course happenings ∧
      invocations 0 happenings = (shares router packets).map fun (subscription, packet) =>
        (.handler subscription.handler, .packet packet) := by
  induction packets generalizing course with
  | nil => exact ⟨[], rfl, rfl⟩
  | cons packet rest ih =>
      obtain ⟨first, others⟩ := List.forall_mem_cons.mp fixed
      obtain ⟨here, ran, invoked⟩ := routeOn_invokes conduct limit packet course
      obtain ⟨later, ranOn, invokedOn⟩ := ih others (first course starts)
      refine ⟨here ++ later, ?_, ?_⟩
      · rw [List.foldl_cons, ranOn, ran, Exchange.replay_append]
      · rw [Exchange.invocations_append, invoked, invokedOn, starts, shares, shares,
          List.flatMap_cons, List.map_append, List.map_map]
        rfl

theorem filter_matching (nodup : router.entries.Nodup) {subscription : Subscription}
    (member : subscription ∈ router.entries) (packet : Packet) :
    (matching router packet).filter (· = subscription) =
      if Fits packet subscription then [subscription] else [] := by
  have once := (nodup.filter (Fits packet ·)).count (a := subscription)
  rw [matching, List.filter_eq, once]
  by_cases fits : Fits packet subscription
  · simp [fits, member]
  · simp [fits]

theorem share_eq (nodup : router.entries.Nodup) {subscription : Subscription}
    (member : subscription ∈ router.entries) (packets : List Packet) :
    ((shares router packets).filter (·.1 = subscription)).map (·.2) =
      packets.filter (Fits · subscription) := by
  induction packets with
  | nil => rfl
  | cons packet rest ih =>
      have here : (((matching router packet).map (·, packet)).filter (·.1 = subscription)).map
          (·.2) = if Fits packet subscription then [packet] else [] := by
        calc
          (((matching router packet).map (·, packet)).filter (·.1 = subscription)).map (·.2)
            = ((matching router packet).filter (· = subscription)).map fun _ => packet := by
                rw [List.filter_map, List.map_map]
                rfl
          _ = if Fits packet subscription then [packet] else [] := by
                rw [filter_matching nodup member]
                split <;> rfl
      rw [shares, List.flatMap_cons, List.filter_append, List.map_append, here, ← shares, ih,
        List.filter_cons]
      by_cases fits : Fits packet subscription
      · simp [fits]
      · simp [fits]

theorem mem_entries_of_share {shared : Subscription × Packet}
    (member : shared ∈ shares router packets) : shared.1 ∈ router.entries := by
  obtain ⟨packet, _, inside⟩ := List.mem_flatMap.mp member
  obtain ⟨subscription, matched, rfl⟩ := List.mem_map.mp inside
  exact List.mem_of_mem_filter matched

theorem handedOut (nodup : router.entries.Nodup) (packets : List Packet) :
    HandedOut router packets ((shares router packets).map fun (subscription, packet) =>
      (.handler subscription.handler, .packet packet)) where
  shared := rfl
  share _ member := share_eq nodup member packets
  sole := by
    intro subscription member sole
    have same : ∀ shared ∈ shares router packets,
        decide (Recipient.handler shared.1.handler = .handler subscription.handler) =
          decide (shared.1 = subscription) := by
      intro shared inside
      apply decide_eq_decide.mpr
      constructor
      · intro alike
        exact sole shared.1 (mem_entries_of_share inside) (Recipient.handler.inj alike)
      · rintro rfl
        rfl
    rw [← share_eq nodup member, ← List.filter_congr same, List.filter_map, List.map_map,
      List.map_map]
    rfl

end VehicleLink.Router
