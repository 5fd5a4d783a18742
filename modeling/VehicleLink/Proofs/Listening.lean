import VehicleLink.Proofs.Listeners
import VehicleLink.Proofs.Delivery.Histories

/-!
What listeners make of packets. Each calls its signal with the reports of the well-formed packets of
the localization port, once for each time such a packet is handed out while the listener is
subscribed, whatever its callbacks and other handlers do.
-/

namespace VehicleLink

open VehicleLink.Localization (Report)

namespace Exchange

variable {Request Answer Target Message : Type}

/-- A subscriber that asks for nothing more has nothing more happen on its account. -/
theorem Reacts.finished {depth : Nat} {completes completed : Bool}
    {within : List (Happening Request Target Message Answer)}
    (reacts : Reacts depth (.finish completes : Reaction Request Answer) within completed) :
    within = [] ∧ completed = completes := by
  cases reacts
  exact ⟨rfl, rfl⟩

end Exchange

namespace Router

open Exchange (Visit Reacts TakeInTurn during past invocations)

variable {conduct : Behaviour} {limit depth : Nat} {desk : Desk} {packet : Packet}
variable {request : Request} {requests : List Request} {listener : Listener}
variable {trace happenings later before after : List (Happening Request Recipient Message Answer)}
variable {visit : Visit Request Recipient Message Answer}
variable {visits front back : List (Visit Request Recipient Message Answer)}
variable {reply : Exchange.Reply Desk Request Recipient Message Answer}
variable {earlier rest : List (Exchange.Reply Desk Request Recipient Message Answer)}

/-! ### One listener -/

/-- A listener is visited. If the packet is well formed it calls its signal, once and with the report,
which visits the callbacks of the moment in turn; else it does nothing. Either way it completes. -/
structure Attends (conduct : Behaviour) (limit depth : Nat) (packet : Packet) (listener : Listener)
    (now : Course Desk Request Recipient Message Answer)
    (visit : Visit Request Recipient Message Answer) : Prop where
  calls : ∀ report, Report.parse packet = .ok report →
    ∃ calls : List (Visit Request Recipient Message Answer),
      calls.map (·.target) = (now.state.received listener).entries.map (.callback listener) ∧
      visit.within = .requested (depth + 1) (.emit listener report) ::
        (calls.flatMap (·.happenings (depth + 1) (.report report)) ++
          [.answered (.signal .done)]) ∧
      (exchange conduct).TakeInTurn limit (depth + 1) (.report report)
        (.requested (depth + 1) (.emit listener report) ::
          .invoked depth (.handler (.listener listener)) (.packet packet) :: now.trace) calls
  drops : ∀ error, Report.parse packet = .error error → visit.within = []
  completed : visit.completed = true

theorem attends_of_reacts {ending : List (Happening Request Recipient Message Answer)}
    (replies : (exchange conduct).run limit requests ⟨.empty, []⟩ = earlier ++ reply :: rest)
    (moment : reply.chronicle = before ++ .requested depth request :: after)
    (visited : during depth after =
      (front ++ visit :: back).flatMap (·.happenings depth (.packet packet)) ++ ending)
    (listens : visit.target = .handler (.listener listener))
    (reacts : Reacts (depth + 1) (listen listener packet).reaction visit.within visit.completed) :
    Attends conduct limit depth packet listener
      ((exchange conduct).replay ⟨.empty, []⟩ (past earlier ++ before ++
        .requested depth request :: front.flatMap (·.happenings depth (.packet packet)))) visit := by
  cases parsed : Report.parse packet with
  | error error =>
      have idle : (listen listener packet).reaction = .finish true := by
        simp only [listen, parsed]
      rw [idle] at reacts
      obtain ⟨nothing, completed⟩ := reacts.finished
      refine ⟨fun report well_formed => ?_, fun _ _ => nothing, completed⟩
      cases parsed.symm.trans well_formed
  | ok report =>
      have calling : (listen listener packet).reaction =
          .ask (.emit listener report) fun answer => .finish (answer = .signal .done) := by
        simp only [listen, parsed]
      rw [calling] at reacts
      obtain ⟨inside, answer, others, within, served, goes_on⟩ :=
        Exchange.run_reacts replies moment visited reacts
      obtain ⟨rfl, completed⟩ := goes_on.finished
      -- A signal answers when all its callbacks have been visited, whether or not they complete.
      obtain ⟨calls, targets, split, turn⟩ := served
      obtain ⟨rfl, answered⟩ := List.append_inj' split rfl
      cases answered
      rw [List.append_nil, List.cons_append] at within
      rw [listens] at turn
      refine ⟨fun other well_formed => ?_, fun error malformed => ?_, completed⟩
      · cases parsed.symm.trans well_formed
        exact ⟨calls, targets, within, turn⟩
      · cases parsed.symm.trans malformed

/-! ### All listeners -/

/-- How a packet finds the listeners of a desk: those that are subscribed are visited once each if
the packet is for their port, and no others; where the nesting limit leaves room, they attend to
it. -/
structure Attended (conduct : Behaviour) (limit depth : Nat) (request : Request) (packet : Packet)
    (now : Course Desk Request Recipient Message Answer)
    (visits : List (Visit Request Recipient Message Answer)) : Prop where
  each : packet.port = Service.localization.port → ∀ listener,
    listening listener ∈ now.state.router.entries → ∃ front visit back,
      visits = front ++ visit :: back ∧
      visit.target = .handler (.listener listener) ∧
      (∀ other ∈ front ++ back, other.target ≠ .handler (.listener listener)) ∧
      visit.completed = true ∧
      (depth < limit → Attends conduct limit depth packet listener
        ((exchange conduct).replay now
          (.requested depth request :: front.flatMap (·.happenings depth (.packet packet)))) visit)
  others : ∀ visit ∈ visits, ∀ listener, visit.target = .handler (.listener listener) →
    packet.port = Service.localization.port ∧ listening listener ∈ now.state.router.entries

theorem takes_of_mem {message : Message}
    (turn : (exchange conduct).TakeInTurn limit depth message trace visits)
    (member : visit ∈ visits) :
    ∃ trace, (exchange conduct).Takes limit depth message trace visit := by
  induction visits generalizing trace with
  | nil => cases member
  | cons first rest ih =>
      rcases List.mem_cons.mp member with rfl | later
      · exact ⟨trace, turn.1⟩
      · exact ih turn.2 later

theorem filter_visits (formed : desk.Formed)
    (targets : visits.map (·.target) = (handlers desk.router packet).map .handler)
    (listener : Listener) :
    (visits.filter (·.target = .handler (.listener listener))).map (·.target) =
      if packet.port = Service.localization.port ∧ listening listener ∈ desk.router.entries
        then [.handler (.listener listener)] else [] := by
  have alike (handler : Handler) :
      decide (Recipient.handler handler = .handler (.listener listener)) =
        decide (handler = .listener listener) :=
    decide_eq_decide.mpr ⟨Recipient.handler.inj, congrArg _⟩
  calc
    (visits.filter (·.target = .handler (.listener listener))).map (·.target)
      = (visits.map (·.target)).filter (· = .handler (.listener listener)) := by
          rw [List.filter_map]
          rfl
    _ = ((handlers desk.router packet).filter (· = .listener listener)).map .handler := by
          rw [targets, List.filter_map, Function.comp_def]
          simp only [alike]
    _ = _ := by
          rw [filter_handlers formed]
          split <;> rfl

theorem attended
    (replies : (exchange conduct).run limit requests ⟨.empty, []⟩ = earlier ++ reply :: rest)
    (moment : reply.chronicle = before ++ .requested depth request :: after)
    (carries : request.packet? = some packet) :
    ∃ visits : List (Visit Request Recipient Message Answer),
      during depth after = visits.flatMap (·.happenings depth (.packet packet)) ++
        [.answered (.completed (visits.countP (·.completed)))] ∧
      Attended conduct limit depth request packet
        ((exchange conduct).replay ⟨.empty, []⟩ (past earlier ++ before)) visits := by
  obtain ⟨visits, targets, inside, turn⟩ := run_routes replies moment carries
  have formed := formed_replay conduct (past earlier ++ before)
  have chosen := filter_visits formed (targets.trans (by rw [handlers_eq, List.map_map]; rfl))
  refine ⟨visits, inside, fun here listener subscribed => ?_, fun visit member listener listens => ?_⟩
  · have once := chosen listener
    rw [if_pos ⟨here, subscribed⟩] at once
    obtain ⟨visit, only, listens⟩ := List.map_eq_singleton_iff.mp once
    obtain ⟨front, back, rfl, absent, -, none_left⟩ := List.filter_eq_cons_iff.mp only
    obtain ⟨trace, takes⟩ := takes_of_mem turn (List.mem_append_right _ (.head _))
    have conducts : (exchange conduct).conduct trace visit.target (.packet packet) =
        listen listener packet := by
      rw [listens]
      rfl
    obtain ⟨reacts, bare, -⟩ := takes
    rw [conducts] at reacts bare
    have attends (room : depth < limit) :=
      attends_of_reacts replies moment inside listens (reacts room)
    refine ⟨front, visit, back, rfl, listens, ?_, ?_, fun room => ?_⟩
    · intro other among
      rcases List.mem_append.mp among with first | last
      · simpa using absent other first
      · simpa using List.filter_eq_nil_iff.mp none_left other last
    · by_cases room : depth < limit
      · exact (attends room).completed
      · exact (bare (Nat.le_of_not_lt room)).2
    · rw [← Exchange.replay_append]
      exact attends room
  · by_contra unfit
    have none := chosen listener
    rw [if_neg unfit, List.map_eq_nil_iff, List.filter_eq_nil_iff] at none
    exact none visit member (decide_eq_true listens)

/-! ### All calls of listeners -/

/-- The report that a listener is to make of a packet. -/
def report? (packet : Packet) : Option Report := (Report.parse packet).toOption

/-- What a request has a listener call its signal with. -/
def Request.emission? : Request → Option (Listener × Report)
  | .emit listener report => some (listener, report)
  | .register .. | .unregister .. | .route _ | .dispatch _ | .count _ | .describe | .attach _
  | .detach _ | .signal .. => none

def emission? (happening : Happening Request Recipient Message Answer) :
    Option (Listener × Report) :=
  happening.request?.bind Request.emission?

def emissions (happenings : List (Happening Request Recipient Message Answer)) :
    List (Listener × Report) :=
  happenings.filterMap emission?

/-- What somebody is to call when something is handed to them: a listener its signal, if it gets a
well-formed packet. -/
def duty? : Recipient → Message → Option (Listener × Report)
  | .handler (.listener listener), .packet packet => (report? packet).map (listener, ·)
  | .handler (.listener _), .report _ | .handler (.named _), _ | .callback .., _ => none

/-- What is to be called on account of a happening, where the nesting limit leaves room for it. -/
def owing? (limit : Nat) : Happening Request Recipient Message Answer → Option (Listener × Report)
  | .invoked depth recipient message => if depth < limit then duty? recipient message else none
  | .requested .. | .answered _ | .ended .. => none

/-- The calls that listeners are to make for what is handed to them, in order. -/
def owed (limit : Nat) (happenings : List (Happening Request Recipient Message Answer)) :
    List (Listener × Report) :=
  happenings.filterMap (owing? limit)

/-- Handlers and callbacks leave it to the listeners to call their signals with what they get. -/
def Silent (conduct : Behaviour) : Prop := conduct.Asks fun request => request.emission? = none

theorem emissions_cons (happening : Happening Request Recipient Message Answer)
    (trace : List (Happening Request Recipient Message Answer)) :
    emissions (happening :: trace).reverse =
      emissions trace.reverse ++ (emission? happening).toList := by
  rw [List.reverse_cons, emissions, List.filterMap_append, List.filterMap_cons]
  cases emission? happening <;> rfl

theorem owed_cons (limit : Nat) (happening : Happening Request Recipient Message Answer)
    (trace : List (Happening Request Recipient Message Answer)) :
    owed limit (happening :: trace).reverse =
      owed limit trace.reverse ++ (owing? limit happening).toList := by
  rw [List.reverse_cons, owed, List.filterMap_append, List.filterMap_cons]
  cases owing? limit happening <;> rfl

/-- No listener owes a call or has made one too many. -/
def Settled (limit : Nat) (trace : List (Happening Request Recipient Message Answer)) : Prop :=
  emissions trace.reverse = owed limit trace.reverse

/-- Nothing is owed but what a request is about to have called. -/
def Ready (limit : Nat) (request : Request)
    (trace : List (Happening Request Recipient Message Answer)) : Prop :=
  emissions trace.reverse ++ request.emission?.toList = owed limit trace.reverse

theorem Settled.ready (settled : Settled limit trace) (quiet : request.emission? = none) :
    Ready limit request trace := by
  rw [Ready, quiet]
  exact (List.append_nil _).trans settled

theorem Settled.cons {happening : Happening Request Recipient Message Answer}
    (settled : Settled limit trace) (same : emission? happening = owing? limit happening) :
    Settled limit (happening :: trace) := by
  rw [Settled, emissions_cons, owed_cons, settled, same]

theorem duty?_of_other {recipient : Recipient} {message : Message}
    (other : ¬ ∃ listener packet, recipient = .handler (.listener listener) ∧
      message = .packet packet) : duty? recipient message = none := by
  unfold duty?
  split
  · next listener packet => exact absurd ⟨listener, packet, rfl, rfl⟩ other
  all_goals rfl

/-- But for the moment between the invocation of a listener and its call, the calls that were made
are those that are owed. -/
theorem steady_settled (silent : Silent conduct) :
    (exchange conduct).Steady limit (Settled limit) (fun _ => Ready limit)
      fun _ _ _ => True where
  requested depth request trace ready := by
    rw [Settled, emissions_cons, owed_cons]
    exact ready.trans (List.append_nil _).symm
  answered _ _ settled := settled.cons rfl
  ended _ _ _ _ settled := settled.cons rfl
  delivers _ _ _ _ _ _ _ _ _ _ _ := trivial
  bare depth target message trace spent _ settled :=
    settled.cons (if_neg (Nat.not_lt_of_le spent)).symm
  reacts depth target message trace room _ settled := by
    have owing : owing? limit (.invoked depth target message) = duty? target message := if_pos room
    by_cases listens : ∃ listener packet, target = .handler (.listener listener) ∧
        message = .packet packet
    · obtain ⟨listener, packet, rfl, rfl⟩ := listens
      simp only [exchange, listen]
      cases parsed : Report.parse packet with
      | error error =>
          have free : duty? (.handler (.listener listener)) (.packet packet) = none := by
            simp only [duty?, report?, parsed, Except.toOption, Option.map_none]
          exact settled.cons (owing.trans free).symm
      | ok report =>
          have duty : duty? (.handler (.listener listener)) (.packet packet) =
              some (listener, report) := by
            simp only [duty?, report?, parsed, Except.toOption, Option.map_some]
          have ready : Ready limit (.emit listener report)
              (.invoked depth (.handler (.listener listener)) (.packet packet) :: trace) := by
            rw [Ready, emissions_cons, owed_cons, owing, duty, settled]
            exact congrArg (· ++ _) (List.append_nil _)
          exact ⟨ready, fun _ _ kept => kept⟩
    · have kept : Settled limit (.invoked depth target message :: trace) :=
        settled.cons (owing.trans (duty?_of_other listens)).symm
      exact (silent.others trace listens).fitting (fun _ _ quiet settled => settled.ready quiet) kept

/-! ### Handlers that hand nothing on -/

/-- Handlers and callbacks may come and go and attach and detach listeners, but hand out no packets
themselves. -/
def Plain (conduct : Behaviour) : Prop := conduct.Asks fun request => request.packet? = none

def Desk.attending (desk : Desk) : List Listener :=
  desk.router.entries.filterMap fun subscription =>
    match subscription.handler with
    | .named _ => none
    | .listener listener => some listener

/-- The calls that a packet leads to where it is handed out. -/
def Desk.calls (desk : Desk) (packet : Packet) : List (Listener × Report) :=
  if packet.port = Service.localization.port
    then desk.attending.filterMap fun listener => (report? packet).map (listener, ·)
    else []

/-- The calls that a request by itself leads to. -/
def Desk.emits (desk : Desk) (request : Request) : List (Listener × Report) :=
  match request.packet? with
  | none => []
  | some packet => desk.calls packet

theorem filterMap_duty? (formed : desk.Formed) (packet : Packet) :
    (handlers desk.router packet).filterMap
      (fun handler => duty? (.handler handler) (.packet packet)) = desk.calls packet := by
  have own := formed.own
  rw [handlers_eq, matching, Desk.calls, Desk.attending]
  -- The induction is on the subscriptions. A subscription of a listener fits if the port does.
  generalize desk.router.entries = subscriptions at own ⊢
  induction subscriptions with
  | nil => exact (ite_self _).symm
  | cons first rest ih =>
      obtain ⟨here, others⟩ := List.forall_mem_cons.mp own
      have ih := ih others
      obtain ⟨port, channel, handler⟩ := first
      cases handler with
      | named name =>
          rw [List.filterMap_cons, ← ih, List.filter_cons]
          split <;> rfl
      | listener listener =>
          rw [(here listener rfl).1]
          by_cases localized : packet.port = Service.localization.port
          · rw [if_pos localized] at ih ⊢
            have kept : (listening listener :: rest).filter (Fits packet ·) =
                listening listener :: rest.filter (Fits packet ·) :=
              List.filter_cons_of_pos (decide_eq_true (fits_listening_iff.mpr localized))
            rw [kept, List.map_cons, List.filterMap_cons, ih]
            rfl
          · rw [if_neg localized] at ih ⊢
            have dropped : (listening listener :: rest).filter (Fits packet ·) =
                rest.filter (Fits packet ·) :=
              List.filter_cons_of_neg (by simp [fits_listening_iff, localized])
            rw [dropped, ih]

variable {targets : List Recipient} {message : Message} {answer : Nat → Answer}

theorem callbacks_of_ask {asked : Signal.Request Report}
    (delivers : desk.ask listener asked = .deliver targets message answer) :
    ∀ target ∈ targets, ∃ name, target = .callback listener name := by
  cases asked with
  | call report =>
      cases delivers
      intro target among
      obtain ⟨name, _, rfl⟩ := List.mem_map.mp among
      exact ⟨name, rfl⟩
  | add | remove | describe => cases delivers

/-- Without a packet only callbacks are reached. -/
theorem callbacks_of_no_packet (carries : request.packet? = none)
    (delivers : effect request desk = .deliver targets message answer) :
    ∀ target ∈ targets, ∃ listener name, target = .callback listener name := by
  cases request with
  | dispatch frame =>
      cases read : Packet.decode frame with
      | ok packet => simp [Request.packet?, read, Except.toOption] at carries
      | error error => simp only [effect, read, reduceCtorEq] at delivers
  | signal name request =>
      simp only [effect] at delivers
      split at delivers
      · exact fun target among => ⟨_, callbacks_of_ask delivers target among⟩
      · cases delivers
  | emit listener report =>
      have asked : desk.ask listener (.call report) = .deliver targets message answer := delivers
      exact fun target among => ⟨listener, callbacks_of_ask asked target among⟩
  | route => cases carries
  | register | unregister | count | describe | attach | detach => cases delivers

/-- Handlers are invoked for requests alone, not for what others ask for on account of them. -/
def Shallow (trace : List (Happening Request Recipient Message Answer)) : Prop :=
  ∀ depth handler message, .invoked depth (.handler handler) message ∈ trace → depth = 0

theorem Shallow.cons {happening : Happening Request Recipient Message Answer}
    (shallow : Shallow trace)
    (fits : ∀ depth handler message, happening = .invoked depth (.handler handler) message →
      depth = 0) : Shallow (happening :: trace) := by
  intro depth handler message member
  rcases List.mem_cons.mp member with same | earlier
  · exact fits depth handler message same.symm
  · exact shallow depth handler message earlier

theorem Shallow.invoked {recipient : Recipient} (shallow : Shallow trace)
    (reached : 0 < depth → ∀ handler, recipient ≠ .handler handler) :
    Shallow (.invoked depth recipient message :: trace) := by
  refine shallow.cons fun _ handler _ same => ?_
  cases same
  exact Nat.eq_zero_of_not_pos fun deep => reached deep handler rfl

theorem steady_shallow (plain : Plain conduct) :
    (exchange conduct).Steady limit Shallow
      (fun depth request trace => Shallow trace ∧ (0 < depth → request.packet? = none))
      fun depth recipient _ => 0 < depth → ∀ handler, recipient ≠ .handler handler where
  requested _ _ _ ready := ready.1.cons nofun
  answered _ _ shallow := shallow.cons nofun
  ended _ _ _ _ shallow := shallow.cons nofun
  delivers depth request trace desk targets message answer ready delivers target among deep := by
    obtain ⟨listener, name, rfl⟩ := callbacks_of_no_packet (ready.2 deep) delivers target among
    nofun
  bare depth target message trace _ reached shallow := shallow.invoked reached
  reacts depth target message trace _ reached shallow :=
    (plain.everyone (fun _ _ => rfl) trace target message).fitting
      (fun _ _ quiet shallow => ⟨shallow, fun _ => quiet⟩) (shallow.invoked reached)

/-- Of what happens while a request is carried out, only the invocations for its own packet ask for
calls. -/
theorem owed_of_shallow (room : 0 < limit) (shallow : Shallow happenings) :
    owed limit happenings =
      (invocations 0 happenings).filterMap fun (recipient, message) => duty? recipient message := by
  rw [invocations, List.filterMap_filterMap, owed]
  refine List.filterMap_congr fun happening member => ?_
  cases happening with
  | invoked depth recipient message =>
      cases recipient with
      | handler handler =>
          obtain rfl := shallow depth handler message member
          simp [owing?, Exchange.invocation?, room]
      | callback listener name =>
          simp only [owing?, Exchange.invocation?, duty?, ite_self]
          split <;> rfl
  | requested | answered | ended => rfl

theorem invocations_emits {inside : List (Happening Request Recipient Message Answer)}
    {now : Course Desk Request Recipient Message Answer} (formed : now.state.Formed)
    (served : (exchange conduct).Served limit 0 request now (inside ++ [.answered reply.answer])) :
    (invocations 0 inside).filterMap (fun (recipient, message) => duty? recipient message) =
      now.state.emits request := by
  cases carries : request.packet? with
  | some packet =>
      have delivers : (exchange conduct).effect request now.state = now.state.route packet :=
        effect_of_packet carries now.state
      rw [served.invokes delivers, List.filterMap_map, List.filterMap_map, Desk.emits, carries]
      exact filterMap_duty? formed packet
  | none =>
      rw [Desk.emits, carries]
      cases delivers : (exchange conduct).effect request now.state with
      | reply answer state =>
          rw [Exchange.Served, delivers] at served
          obtain ⟨rfl, -⟩ := List.append_inj' (served.trans (List.nil_append _).symm) rfl
          rfl
      | deliver targets message answer =>
          rw [served.invokes delivers, List.filterMap_map]
          refine List.filterMap_eq_nil_iff.mpr fun target among => ?_
          obtain ⟨listener, name, rfl⟩ := callbacks_of_no_packet carries delivers target among
          rfl

/-! ### The law -/

/-- How listeners fare at a new router, of which requests are made, up to the answer to one of
them. -/
structure Listens (conduct : Behaviour) (limit : Nat) (requests : List Request)
    (earlier : List (Exchange.Reply Desk Request Recipient Message Answer))
    (reply : Exchange.Reply Desk Request Recipient Message Answer) : Prop where
  /-- A packet is handed to the listeners of the moment, at any depth. Each calls all callbacks that
  are at its signal then, and counts. -/
  dispatches : ∀ before depth request after packet,
    reply.chronicle = before ++ .requested depth request :: after →
    request.packet? = some packet →
    ∃ visits : List (Visit Request Recipient Message Answer),
      during depth after = visits.flatMap (·.happenings depth (.packet packet)) ++
        [.answered (.completed (visits.countP (·.completed)))] ∧
      Attended conduct limit depth request packet
        ((exchange conduct).replay ⟨.empty, []⟩ (past earlier ++ before)) visits
  /-- At a signal are the callbacks that were asked for until then. -/
  signals : ∀ before after, reply.chronicle = before ++ after → ∀ listener,
    Signal.Lawful
      (((exchange conduct).replay ⟨.empty, []⟩ (past earlier ++ before)).state.received listener)
      (signalCalls listener (past earlier ++ before))
  /-- All calls of listeners are for the packets that they get, in this order. -/
  calls : Silent conduct → (∀ request ∈ requests, request.emission? = none) →
    emissions (past (earlier ++ [reply])) = owed limit (past (earlier ++ [reply]))
  /-- Unless packets are handed on, the calls come in the order of the requests. -/
  order : Silent conduct → (∀ request ∈ requests, request.emission? = none) → Plain conduct →
    0 < limit → ∃ request inside, reply.happenings = .requested 0 request :: inside ∧
      emissions (past (earlier ++ [reply])) = emissions (past earlier) ++
        ((exchange conduct).replay ⟨.empty, []⟩ (past earlier)).state.emits request
  separate : ∀ before after, reply.chronicle = before ++ after →
    ((exchange conduct).replay ⟨.empty, []⟩ (past earlier ++ before)).state.Separate

theorem settled_past (silent : Silent conduct)
    (quiet : ∀ request ∈ requests, request.emission? = none)
    (replies : (exchange conduct).run limit requests ⟨.empty, []⟩ = earlier ++ rest) :
    emissions (past earlier) = owed limit (past earlier) := by
  have start : Settled limit ([] : List (Happening Request Recipient Message Answer)) := rfl
  have settled := (steady_settled silent).run
    (fun request among _ settled => Settled.ready settled (quiet request among)) start replies
  rwa [Settled, Exchange.reverse_trace_replay] at settled

theorem shallow_past (plain : Plain conduct)
    (replies : (exchange conduct).run limit requests ⟨.empty, []⟩ = earlier ++ rest) :
    Shallow (past earlier) := by
  have start : Shallow ([] : List (Happening Request Recipient Message Answer)) := nofun
  have shallow := (steady_shallow plain).run
    (fun _ _ _ shallow => ⟨shallow, fun deep => absurd deep (Nat.lt_irrefl 0)⟩) start replies
  intro depth handler message member
  refine shallow depth handler message ?_
  rw [Exchange.trace_replay]
  exact List.mem_append_left _ (List.mem_reverse.mpr member)

theorem run_listens
    (replies : (exchange conduct).run limit requests ⟨.empty, []⟩ = earlier ++ reply :: rest) :
    Listens conduct limit requests earlier reply := by
  have whole : (exchange conduct).run limit requests ⟨.empty, []⟩ =
      (earlier ++ [reply]) ++ rest := by
    rw [replies, List.append_assoc]
    rfl
  exact
    { dispatches := fun _ _ _ _ _ moment carries => attended replies moment carries
      signals := fun _ _ _ listener => lawful_received conduct listener _
      calls := fun silent quiet => settled_past silent quiet whole
      order := fun silent quiet plain room => by
        obtain ⟨request, _, inside, happened, _, _, handled⟩ := Exchange.run_handles replies
        have shallow : Shallow inside := fun depth handler message member =>
          shallow_past plain whole depth handler message (List.mem_flatMap.mpr
            ⟨reply, List.mem_append_right _ (.head _), by rw [happened]; exact .tail _ member⟩)
        have together : past (earlier ++ [reply]) =
            past earlier ++ .requested 0 request :: inside := by
          rw [Exchange.past_concat, happened]
        refine ⟨request, inside, happened, ?_⟩
        rw [settled_past silent quiet whole, settled_past silent quiet replies, together, owed,
          List.filterMap_append]
        refine congrArg _ ((owed_of_shallow room shallow).trans ?_)
        exact invocations_emits (formed_replay conduct _) handled.served
      separate := fun _ _ _ => (formed_replay conduct _).separate }

/-- A callback that takes itself out, lets another in and fails; all handlers ask how many they are,
and one of them fails. -/
def leavingOnce : Behaviour where
  handle _ name _ := .scripted [.count 6] (name ≠ "failing")
  receive _ _ name _ :=
    if name = "once" then
      .scripted [.signal "first" (.remove "once"), .signal "first" (.add "late")] false
    else .scripted [] true

def wellFormed : Packet := { firstPacket with payload := [3] }

/-- A report of ranges without a whole record. -/
def malformed : Packet := { firstPacket with payload := [0, 7] }

def elsewhere : Packet :=
  { wellFormed with port := maxPort, port_le := UInt8.le_refl maxPort }

/-- Two listeners, of which one has callbacks and is detached twice. -/
def listenerRequests : List Request :=
  [.attach "first", .signal "first" (.add "once"), .signal "first" (.add "steady"),
    .attach "second", .register 6 none "failing", .route wellFormed, .route malformed,
    .route elsewhere, .route wellFormed, .detach "first", .detach "first", .route wellFormed]

theorem run_listens_leavingOnce : ∃ earlier reply,
    (exchange leavingOnce).run 3 listenerRequests ⟨.empty, []⟩ = earlier ++ [reply] ∧
    Listens leavingOnce 3 listenerRequests earlier reply ∧
    Silent leavingOnce ∧ Plain leavingOnce ∧
    emissions (past (earlier ++ [reply])) =
      [(⟨0, "first"⟩, ⟨3, [], none⟩), (⟨1, "second"⟩, ⟨3, [], none⟩),
        (⟨0, "first"⟩, ⟨3, [], none⟩), (⟨1, "second"⟩, ⟨3, [], none⟩),
        (⟨1, "second"⟩, ⟨3, [], none⟩)] ∧
    invocations 1 (past (earlier ++ [reply])) =
      [(.callback ⟨0, "first"⟩ "once", .report ⟨3, [], none⟩),
        (.callback ⟨0, "first"⟩ "steady", .report ⟨3, [], none⟩),
        (.callback ⟨0, "first"⟩ "steady", .report ⟨3, [], none⟩),
        (.callback ⟨0, "first"⟩ "late", .report ⟨3, [], none⟩)] ∧
    earlier.map (·.answer) = [.done, .signal .done, .signal .done, .done, .done, .completed 2,
      .completed 2, .completed 0, .completed 2, .done, .done] ∧
    reply.answer = .completed 1 := by
  have replies := (List.dropLast_concat_getLast
    (l := (exchange leavingOnce).run 3 listenerRequests ⟨.empty, []⟩) nofun).symm
  have asks {allowed : Request → Prop} (counts : allowed (.count 6))
      (signals : ∀ request, allowed (.signal "first" request)) : leavingOnce.Asks allowed := by
    refine ⟨fun _ _ _ => ⟨counts, fun _ => trivial⟩, fun _ _ name _ => ?_⟩
    simp only [leavingOnce]
    split
    · exact ⟨signals _, fun _ => ⟨signals _, fun _ => trivial⟩⟩
    · trivial
  refine ⟨_, _, replies, run_listens replies, asks rfl fun _ => rfl, asks rfl fun _ => rfl, ?_⟩
  decide +kernel

end Router

end VehicleLink
