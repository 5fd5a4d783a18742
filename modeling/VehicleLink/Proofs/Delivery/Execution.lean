import VehicleLink.Proofs.Delivery.Serving

/-!
Requests are carried out as they should be, whatever the subscribers do: what happens on account of
several requests is sound, the requests of subscribers included.
-/

namespace VehicleLink.Exchange

variable {State Request Answer Target Message : Type}
variable {exchange : Exchange State Request Answer Target Message}
variable {limit depth other : Nat} {request : Request} {message : Message}
variable {happenings later : List (Happening Request Target Message Answer)}
variable {course before middle after : Course State Request Target Message Answer}

/-! ### Reactions -/

/-- From one course to the other requests at a depth are carried out, none of them in part. -/
structure Unfolds (exchange : Exchange State Request Answer Target Message)
    (limit depth : Nat) (before : Course State Request Target Message Answer)
    (happenings : List (Happening Request Target Message Answer))
    (after : Course State Request Target Message Answer) : Prop where
  leads : after = exchange.replay before happenings
  sound : exchange.Sound limit depth before happenings
  deep : Deep depth happenings
  closing : Closing depth happenings

/-- A request is carried out. With the answer recorded, as it is for subscribers, nothing of it is
left to happen. -/
structure Handles (exchange : Exchange State Request Answer Target Message)
    (limit depth : Nat) (request : Request)
    (before : Course State Request Target Message Answer)
    (inside : List (Happening Request Target Message Answer))
    (after : Course State Request Target Message Answer) (answer : Answer) : Prop where
  leads : after = exchange.replay before (.requested depth request :: inside)
  unfolds : exchange.Unfolds limit depth before
    (.requested depth request :: inside ++ [.answered answer]) (after.record (.answered answer))
  whole : ∀ happening ∈ inside, happening.closes depth = false

/-- A way to carry out requests carries out each of them. -/
def Obeys (exchange : Exchange State Request Answer Target Message) (limit depth : Nat)
    (handle : Request → Course State Request Target Message Answer →
      Course State Request Target Message Answer × Answer) : Prop :=
  ∀ request course, ∃ inside, exchange.Handles limit depth request course inside
    (handle request course).1 (handle request course).2

theorem Unfolds.refl (course : Course State Request Target Message Answer) :
    exchange.Unfolds limit depth course [] course :=
  ⟨rfl, .nil, List.forall_mem_nil _, nofun⟩

theorem Unfolds.trans (first : exchange.Unfolds limit depth before happenings middle)
    (rest : exchange.Unfolds limit depth middle later after) :
    exchange.Unfolds limit depth before (happenings ++ later) after where
  leads := by rw [rest.leads, first.leads, replay_append]
  sound := first.sound.append (first.leads ▸ rest.sound) rest.closing
  deep := first.deep.append rest.deep
  closing := first.closing.append rest.closing

theorem Handles.served {inside : List (Happening Request Target Message Answer)}
    {answer : Answer} (handled : exchange.Handles limit depth request before inside after answer) :
    exchange.Served limit depth request before (inside ++ [.answered answer]) := by
  rw [← during_answered handled.whole]
  cases handled.unfolds.sound with
  | quiet quiet => cases quiet
  | request _ served => exact served

theorem react_unfolds {handle : Request → Course State Request Target Message Answer →
      Course State Request Target Message Answer × Answer}
    (obeys : exchange.Obeys limit depth handle) (reaction : Reaction Request Answer)
    (course : Course State Request Target Message Answer) :
    ∃ happenings, exchange.Unfolds limit depth course happenings
        (react handle reaction course).1 ∧
      Reacts depth reaction happenings (react handle reaction course).2 := by
  induction reaction generalizing course with
  | finish completes => exact ⟨[], .refl course, .finish⟩
  | ask request next ih =>
      obtain ⟨inside, handled⟩ := obeys request course
      obtain ⟨rest, unfolds, reacts⟩ := ih (handle request course).2
        ((handle request course).1.record (.answered (handle request course).2))
      exact ⟨_, handled.unfolds.trans unfolds, .ask handled.whole reacts⟩

/-! ### Visits -/

/-- From one course to the other a subscriber is visited. -/
structure Visits (exchange : Exchange State Request Answer Target Message)
    (limit depth : Nat) (message : Message)
    (before : Course State Request Target Message Answer)
    (visit : Visit Request Target Message Answer)
    (after : Course State Request Target Message Answer) : Prop where
  takes : exchange.Takes limit depth message before.trace visit
  leads : after = exchange.replay before (visit.happenings depth message)
  /-- No request of a subscriber outlasts its visit, whatever comes afterwards. -/
  sound : ∀ later, exchange.Sound limit (depth + 1) after later →
    exchange.Sound limit (depth + 1) before (visit.happenings depth message ++ later)

/-- A way to invoke subscribers visits each of them. -/
def Invokes (exchange : Exchange State Request Answer Target Message)
    (limit depth : Nat) (message : Message)
    (invoke : Target → Course State Request Target Message Answer →
      Course State Request Target Message Answer × Bool) : Prop :=
  ∀ target course, ∃ visit : Visit Request Target Message Answer,
    visit.target = target ∧ visit.completed = (invoke target course).2 ∧
      exchange.Visits limit depth message course visit (invoke target course).1

/-- From one course to the other subscribers are visited in turn. -/
inductive Round (exchange : Exchange State Request Answer Target Message)
    (limit depth : Nat) (message : Message) : Course State Request Target Message Answer →
      List (Visit Request Target Message Answer) →
      Course State Request Target Message Answer → Prop
  | nil {course : Course State Request Target Message Answer} :
      Round exchange limit depth message course [] course
  | cons {before middle after : Course State Request Target Message Answer}
      {visit : Visit Request Target Message Answer}
      {visits : List (Visit Request Target Message Answer)}
      (visited : exchange.Visits limit depth message before visit middle)
      (rest : Round exchange limit depth message middle visits after) :
      Round exchange limit depth message before (visit :: visits) after

variable {visit : Visit Request Target Message Answer}
variable {visits : List (Visit Request Target Message Answer)}

theorem Visit.deep (deep : Deep (depth + 1) visit.within) :
    Deep depth (visit.happenings depth message) :=
  .here rfl (deep.shallower.append (.here rfl (List.forall_mem_nil _)))

theorem Visit.stays (deep : Deep (depth + 1) visit.within) :
    ∀ happening ∈ visit.happenings depth message, happening.closes depth = false := by
  rw [Visit.happenings, List.forall_mem_cons, List.forall_mem_append, List.forall_mem_singleton]
  exact ⟨rfl, deep.not_closes, decide_eq_false (Nat.lt_irrefl depth)⟩

/-- What a subscriber does while it is visited is served like all else. -/
theorem visits_of_unfolds
    (takes : exchange.Takes limit depth message before.trace visit)
    (unfolds : exchange.Unfolds limit (depth + 1)
      (before.record (.invoked depth visit.target message)) visit.within after) :
    exchange.Visits limit depth message before visit
      (after.record (.ended depth visit.target visit.completed)) where
  takes := takes
  leads := by
    rw [unfolds.leads, Visit.happenings, replay_cons, follow_quiet rfl, replay_concat_quiet rfl]
  sound later sound := by
    rw [Visit.happenings, List.cons_append, List.append_assoc]
    apply Sound.quiet rfl
    apply unfolds.sound.append
    · rw [← unfolds.leads]
      exact .quiet rfl sound
    · rintro _ ⟨⟩
      exact decide_eq_true (Nat.lt_succ_self depth)

theorem Round.leads (round : exchange.Round limit depth message before visits after) :
    after = exchange.replay before (visits.flatMap (·.happenings depth message)) := by
  induction round with
  | nil => rfl
  | cons visited _ ih => rw [ih, visited.leads, List.flatMap_cons, replay_append]

theorem Round.sound (round : exchange.Round limit depth message before visits after)
    (sound : exchange.Sound limit (depth + 1) after later) :
    exchange.Sound limit (depth + 1) before
      (visits.flatMap (·.happenings depth message) ++ later) := by
  induction round with
  | nil => exact sound
  | cons visited _ ih =>
      rw [List.flatMap_cons, List.append_assoc]
      exact visited.sound _ (ih sound)

theorem Round.takeInTurn (round : exchange.Round limit depth message before visits after) :
    exchange.TakeInTurn limit depth message before.trace visits := by
  induction round with
  | nil => trivial
  | cons visited _ ih =>
      rw [visited.leads, trace_replay] at ih
      exact ⟨visited.takes, ih⟩

theorem Round.deep (round : exchange.Round limit depth message before visits after) :
    Deep depth (visits.flatMap (·.happenings depth message)) := by
  intro happening member
  obtain ⟨visit, visited, inside⟩ := List.mem_flatMap.mp member
  exact Visit.deep (round.takeInTurn.within_deep visit visited) happening inside

theorem Round.stays (round : exchange.Round limit depth message before visits after) :
    ∀ happening ∈ visits.flatMap (·.happenings depth message),
      happening.closes depth = false := by
  intro happening member
  obtain ⟨visit, visited, inside⟩ := List.mem_flatMap.mp member
  exact Visit.stays (round.takeInTurn.within_deep visit visited) happening inside

theorem round_invokeAll {invoke : Target → Course State Request Target Message Answer →
      Course State Request Target Message Answer × Bool}
    (invokes : exchange.Invokes limit depth message invoke)
    (targets : List Target) (course : Course State Request Target Message Answer) :
    ∃ visits, visits.map (·.target) = targets ∧
      visits.countP (·.completed) = (invokeAll invoke targets course).2 ∧
      exchange.Round limit depth message course visits (invokeAll invoke targets course).1 := by
  induction targets generalizing course with
  | nil => exact ⟨[], rfl, rfl, .nil⟩
  | cons target rest ih =>
      obtain ⟨visit, there, completed, visited⟩ := invokes target course
      obtain ⟨visits, all, counted, round⟩ := ih (invoke target course).1
      refine ⟨visit :: visits, ?_, ?_, .cons visited round⟩
      · rw [List.map_cons, there, all]
      · have total : (invokeAll invoke (target :: rest) course).2 =
            (invoke target course).2.toNat +
              (invokeAll invoke rest (invoke target course).1).2 := rfl
        rw [List.countP_cons, counted, completed, total, Nat.add_comm]
        cases (invoke target course).2 <;> rfl

/-! ### Carrying out -/

theorem handles_reply {answer : Answer} {state : State}
    (effect : exchange.effect request course.state = .reply answer state) :
    exchange.Handles limit depth request course []
      { course.record (.requested depth request) with state } answer := by
  have settled : exchange.settle course.state request = state := by rw [settle, effect]
  have leads : { course.record (.requested depth request) with state } =
      exchange.follow course (.requested depth request) := by
    rw [follow, ← settled]
    rfl
  refine ⟨leads, ⟨?_, ?_, ?_, ?_⟩, List.forall_mem_nil _⟩
  · rw [leads]
    rfl
  · apply Sound.request (Nat.le_refl depth) _ (.quiet rfl .nil)
    rw [Served, effect]
    rfl
  · exact .here rfl (.untold rfl (List.forall_mem_nil _))
  · rintro _ ⟨⟩
    exact decide_eq_true (Nat.le_refl depth)

theorem handles_deliver {targets : List Target} {answer : Nat → Answer}
    (effect : exchange.effect request before.state = .deliver targets message answer)
    (all : visits.map (·.target) = targets)
    (round : exchange.Round limit depth message (before.record (.requested depth request))
      visits after) :
    exchange.Handles limit depth request before (visits.flatMap (·.happenings depth message)) after
      (answer (visits.countP (·.completed))) := by
  have asked : before.record (.requested depth request) =
      exchange.follow before (.requested depth request) := by
    rw [follow, Course.record, Happening.request?, Option.elim, settle, effect]
  have leads : after = exchange.replay before
      (.requested depth request :: visits.flatMap (·.happenings depth message)) := by
    rw [replay_cons, ← asked]
    exact round.leads
  refine ⟨leads, ⟨?_, ?_, ?_, ?_⟩, round.stays⟩
  · rw [replay_concat_quiet rfl, leads]
  · -- None of the visits closes the request, so that all of them are its own.
    rw [List.cons_append]
    apply Sound.request (Nat.le_refl depth)
    · rw [Served, effect, during_answered round.stays]
      exact ⟨visits, all, rfl, round.takeInTurn⟩
    · rw [← asked]
      exact (round.sound (.quiet rfl .nil)).shallower
  · exact .here rfl (round.deep.append (.untold rfl (List.forall_mem_nil _)))
  · rintro _ ⟨⟩
    exact decide_eq_true (Nat.le_refl depth)

theorem carryOut_obeys
    {run : Conduct Request Answer → Course State Request Target Message Answer →
      Course State Request Target Message Answer × Bool}
    (invokes : ∀ message,
      exchange.Invokes limit depth message (exchange.invoke depth run message)) :
    exchange.Obeys limit depth (exchange.carryOut depth run) := by
  intro request course
  unfold carryOut
  cases effect : exchange.effect request course.state with
  | reply answer state => exact ⟨_, handles_reply effect⟩
  | deliver targets message answer =>
      obtain ⟨visits, all, counted, round⟩ := round_invokeAll (invokes message) targets
        (course.record (.requested depth request))
      have handled := handles_deliver effect all round
      rw [counted] at handled
      exact ⟨_, handled⟩

/-- Where the nesting limit leaves no room. -/
theorem invoke_bare (spent : limit ≤ depth) (message : Message) :
    exchange.Invokes limit depth message (exchange.invoke depth
      (fun conduct course => (course, conduct.completesBare)) message) := by
  intro target course
  refine ⟨⟨target, [], (exchange.conduct course.trace target message).completesBare⟩, rfl, rfl, ?_⟩
  apply visits_of_unfolds _ (.refl _)
  exact ⟨fun room => by omega, fun _ => ⟨rfl, rfl⟩, List.forall_mem_nil _⟩

theorem invoke_reacting (room : depth < limit)
    {handle : Request → Course State Request Target Message Answer →
      Course State Request Target Message Answer × Answer}
    (obeys : exchange.Obeys limit (depth + 1) handle) (message : Message) :
    exchange.Invokes limit depth message (exchange.invoke depth
      (fun conduct course => react handle conduct.reaction course) message) := by
  intro target course
  obtain ⟨within, unfolds, reacts⟩ := react_unfolds obeys
    (exchange.conduct course.trace target message).reaction
    (course.record (.invoked depth target message))
  refine ⟨⟨target, within, _⟩, rfl, rfl, ?_⟩
  apply visits_of_unfolds _ unfolds
  exact ⟨fun _ => reacts, fun spent => by omega, unfolds.deep⟩

/-- A request is carried out, at any depth and whatever the subscribers do. -/
theorem handle_obeys (exchange : Exchange State Request Answer Target Message)
    (room depth : Nat) (limited : limit = depth + room) :
    exchange.Obeys limit depth (exchange.handle room depth) := by
  induction room generalizing depth with
  | zero =>
      apply carryOut_obeys
      apply invoke_bare
      omega
  | succ room ih =>
      apply carryOut_obeys
      apply invoke_reacting (by omega)
      exact ih (depth + 1) (by omega)

/-! ### Invocations -/

def invocation? (depth : Nat) :
    Happening Request Target Message Answer → Option (Target × Message)
  | .invoked other target message => if other = depth then some (target, message) else none
  | .requested .. | .answered _ | .ended .. => none

/-- Who is invoked at a depth, and with what message. -/
def invocations (depth : Nat)
    (happenings : List (Happening Request Target Message Answer)) : List (Target × Message) :=
  happenings.filterMap (invocation? depth)

theorem invocations_append : invocations depth (happenings ++ later) =
    invocations depth happenings ++ invocations depth later :=
  List.filterMap_append

theorem Deep.invocations_eq_nil (deep : Deep (depth + 1) happenings) :
    invocations depth happenings = [] := by
  apply List.filterMap_eq_nil_iff.mpr
  intro happening member
  cases happening with
  | invoked other target message =>
      have below := deep _ member other rfl
      exact if_neg (by omega)
  | requested | answered | ended => rfl

theorem Visit.invocations_eq (deep : Deep (depth + 1) visit.within) :
    invocations depth (visit.happenings depth message) = [(visit.target, message)] := by
  have opened : invocations depth [(.invoked depth visit.target message :
      Happening Request Target Message Answer)] = [(visit.target, message)] := by
    rw [invocations, List.filterMap_cons, invocation?, if_pos rfl]
    rfl
  rw [Visit.happenings, ← List.singleton_append, invocations_append, invocations_append, opened,
    deep.invocations_eq_nil]
  rfl

theorem invocations_visits (deep : ∀ visit ∈ visits, Deep (depth + 1) visit.within) :
    invocations depth (visits.flatMap (·.happenings depth message)) =
      visits.map fun visit => (visit.target, message) := by
  induction visits with
  | nil => rfl
  | cons visit rest ih =>
      obtain ⟨first, others⟩ := List.forall_mem_cons.mp deep
      rw [List.flatMap_cons, invocations_append, Visit.invocations_eq first, ih others]
      rfl

theorem Served.invokes {targets : List Target} {answer : Nat → Answer} {last : Answer}
    {inside : List (Happening Request Target Message Answer)}
    (served : exchange.Served limit depth request course (inside ++ [.answered last]))
    (effect : exchange.effect request course.state = .deliver targets message answer) :
    invocations depth inside = targets.map (·, message) := by
  rw [Served, effect] at served
  obtain ⟨visits, rfl, split, turn⟩ := served
  obtain ⟨rfl, -⟩ := List.append_inj' split rfl
  rw [invocations_visits turn.within_deep, List.map_map]
  rfl

/-- A delivery invokes its targets, each once and in order, whatever else comes of it. -/
theorem handle_invokes (exchange : Exchange State Request Answer Target Message)
    (limit depth : Nat) (request : Request)
    (course : Course State Request Target Message Answer) {targets : List Target}
    {answer : Nat → Answer}
    (effect : exchange.effect request course.state = .deliver targets message answer) :
    ∃ happenings, (exchange.handle limit depth request course).1 =
        exchange.replay course happenings ∧
      invocations depth happenings = targets.map (·, message) := by
  obtain ⟨inside, handled⟩ := handle_obeys exchange limit depth rfl request course
  exact ⟨_, handled.leads, handled.served.invokes effect⟩

/-! ### What requests leave alone -/

/-- All requests of a reaction are allowed ones. -/
def Asks (allowed : Request → Prop) : Reaction Request Answer → Prop
  | .finish _ => True
  | .ask request next => allowed request ∧ ∀ answer, Asks allowed (next answer)

variable {keeps : State → Prop} {allowed : Request → Prop}

theorem react_keeps {handle : Request → Course State Request Target Message Answer →
      Course State Request Target Message Answer × Answer}
    (handles : ∀ request course, allowed request → keeps course.state →
      keeps (handle request course).1.state)
    {reaction : Reaction Request Answer} (asks : Asks allowed reaction)
    (kept : keeps course.state) : keeps (react handle reaction course).1.state := by
  induction reaction generalizing course with
  | finish completes => exact kept
  | ask request next ih => exact ih _ (asks.2 _) (handles request course asks.1 kept)

theorem invokeAll_keeps {invoke : Target → Course State Request Target Message Answer →
      Course State Request Target Message Answer × Bool}
    (invokes : ∀ target course, keeps course.state → keeps (invoke target course).1.state)
    (targets : List Target) (kept : keeps course.state) :
    keeps (invokeAll invoke targets course).1.state := by
  induction targets generalizing course with
  | nil => exact kept
  | cons target rest ih => exact ih (invokes target course kept)

theorem carryOut_keeps
    {run : Conduct Request Answer → Course State Request Target Message Answer →
      Course State Request Target Message Answer × Bool}
    (settles : ∀ state, keeps state → keeps (exchange.settle state request))
    (runs : ∀ trace target message course, keeps course.state →
      keeps (run (exchange.conduct trace target message) course).1.state)
    (kept : keeps course.state) : keeps (exchange.carryOut depth run request course).1.state := by
  have settled := settles course.state kept
  unfold carryOut
  unfold settle at settled
  cases effect : exchange.effect request course.state with
  | reply answer state =>
      rw [effect] at settled
      exact settled
  | deliver targets message answer =>
      have invokes : ∀ target course, keeps course.state →
          keeps (exchange.invoke depth run message target course).1.state := by
        intro target course kept
        apply runs
        exact kept
      have requested : keeps (course.record (.requested depth request)).state := kept
      exact invokeAll_keeps invokes targets requested

/-- What no allowed request changes stays as it is while one is carried out, if all that subscribers
ask for is allowed. -/
theorem handle_keeps (keeps : State → Prop) (allowed : Request → Prop)
    (settles : ∀ request state, allowed request → keeps state →
      keeps (exchange.settle state request))
    (asks : ∀ trace target message,
      Asks allowed (exchange.conduct trace target message).reaction)
    (limit depth : Nat) (permitted : allowed request) (kept : keeps course.state) :
    keeps (exchange.handle limit depth request course).1.state := by
  induction limit generalizing depth request course with
  | zero =>
      apply carryOut_keeps (fun state => settles request state permitted) _ kept
      intro trace target message course kept
      exact kept
  | succ limit ih =>
      apply carryOut_keeps (fun state => settles request state permitted) _ kept
      intro trace target message course kept
      apply react_keeps _ (asks trace target message) kept
      intro nested begun
      exact ih (depth + 1)

/-! ### Several requests -/

/-- What happens on account of a request, its answer at the end. -/
def Reply.chronicle (reply : Reply State Request Target Message Answer) :
    List (Happening Request Target Message Answer) :=
  reply.happenings ++ [.answered reply.answer]

/-- What happened on account of several requests. -/
def past (replies : List (Reply State Request Target Message Answer)) :
    List (Happening Request Target Message Answer) :=
  replies.flatMap (·.happenings)

variable {requests : List Request} {reply : Reply State Request Target Message Answer}
variable {earlier rest : List (Reply State Request Target Message Answer)}

theorem run_cons (exchange : Exchange State Request Answer Target Message)
    (limit : Nat) (request : Request) (others : List Request)
    (course : Course State Request Target Message Answer) :
    ∃ inside, exchange.Handles limit 0 request course inside
        (exchange.handle limit 0 request course).1 (exchange.handle limit 0 request course).2 ∧
      exchange.run limit (request :: others) course =
        ⟨(exchange.handle limit 0 request course).2, .requested 0 request :: inside,
            (exchange.handle limit 0 request course).1.state⟩ ::
          exchange.run limit others (exchange.handle limit 0 request course).1 := by
  obtain ⟨inside, handled⟩ := handle_obeys exchange limit 0
    (Nat.zero_add limit).symm request course
  have since : (exchange.handle limit 0 request course).1.since course =
      .requested 0 request :: inside := by
    rw [handled.leads, since_replay]
  refine ⟨inside, handled, ?_⟩
  rw [← since]
  rfl

theorem past_concat (earlier : List (Reply State Request Target Message Answer))
    (reply : Reply State Request Target Message Answer) :
    past (earlier ++ [reply]) = past earlier ++ reply.happenings := by
  simp [past]

/-- Each of several requests is carried out where those before it have led. -/
theorem run_handles
    (replies : exchange.run limit requests course = earlier ++ reply :: rest) :
    ∃ request ∈ requests, ∃ inside, reply.happenings = .requested 0 request :: inside ∧
      reply.state = (exchange.replay course (past (earlier ++ [reply]))).state ∧
      (exchange.handle limit 0 request (exchange.replay course (past earlier))).1 =
        exchange.replay course (past (earlier ++ [reply])) ∧
      exchange.Handles limit 0 request (exchange.replay course (past earlier)) inside
        (exchange.replay course (past (earlier ++ [reply]))) reply.answer := by
  induction earlier generalizing requests course with
  | nil =>
      cases requests with
      | nil => cases replies
      | cons request others =>
          obtain ⟨inside, handled, ran⟩ := run_cons exchange limit request others course
          obtain ⟨rfl, -⟩ := List.cons.inj (ran.symm.trans replies)
          refine ⟨request, .head _, inside, rfl, ?_⟩
          simp only [past, List.nil_append, List.flatMap_nil, List.flatMap_singleton, replay_nil,
            ← handled.leads, true_and]
          exact handled
  | cons first between ih =>
      cases requests with
      | nil => cases replies
      | cons request others =>
          obtain ⟨inside, handled, ran⟩ := run_cons exchange limit request others course
          obtain ⟨rfl, further⟩ := List.cons.inj (ran.symm.trans replies)
          obtain ⟨later, among, left⟩ := ih further
          rw [handled.leads, ← replay_append, ← replay_append] at left
          exact ⟨later, .tail _ among, left⟩

theorem run_served
    (replies : exchange.run limit requests course = earlier ++ reply :: rest)
    (moment : reply.chronicle = happenings ++ .requested depth request :: later) :
    exchange.Served limit depth request (exchange.replay course (past earlier ++ happenings))
      (during depth later) := by
  obtain ⟨_, _, _, happened, _, _, handled⟩ := run_handles replies
  have sound : exchange.Sound limit 0 (exchange.replay course (past earlier)) reply.chronicle := by
    rw [Reply.chronicle, happened]
    exact handled.unfolds.sound
  rw [moment] at sound
  rw [replay_append]
  exact sound.served

theorem Reacts.closing {reaction : Reaction Request Answer} {completed : Bool}
    (reacts : Reacts depth reaction happenings completed) : Closing depth happenings := by
  cases reacts with
  | finish => nofun
  | ask =>
      rintro _ ⟨⟩
      exact decide_eq_true (Nat.le_refl depth)

/-- What a visited subscriber asks for first is served like any other request, and the reaction goes
on with the answer. -/
theorem run_reacts {asked : Request} {next : Answer → Reaction Request Answer}
    {front back : List (Visit Request Target Message Answer)}
    {ending : List (Happening Request Target Message Answer)}
    (replies : exchange.run limit requests course = earlier ++ reply :: rest)
    (moment : reply.chronicle = happenings ++ .requested depth request :: later)
    (visited : during depth later =
      (front ++ visit :: back).flatMap (·.happenings depth message) ++ ending)
    (reacts : Reacts (depth + 1) (.ask asked next) visit.within visit.completed) :
    let now := exchange.replay course (past earlier ++ happenings ++
      .requested depth request :: front.flatMap (·.happenings depth message))
    ∃ inside answer others,
      visit.within = .requested (depth + 1) asked :: inside ++ [.answered answer] ++ others ∧
      exchange.Served limit (depth + 1) asked
        (now.record (.invoked depth visit.target message)) (inside ++ [.answered answer]) ∧
      Reacts (depth + 1) (next answer) others visit.completed := by
  intro now
  generalize same : visit.within = within at reacts
  cases reacts with
  | @ask _ _ answer inside others _ whole goes_on =>
  -- Where the subscriber asks, its visit still has to end.
  let before := happenings ++ .requested depth request ::
    (front.flatMap (·.happenings depth message) ++ [.invoked depth visit.target message])
  let after := others ++ .ended depth visit.target visit.completed ::
    (back.flatMap (·.happenings depth message) ++ ending ++
      later.dropWhile (!·.closes depth))
  have asks : reply.chronicle = before ++
      .requested (depth + 1) asked :: (inside ++ [.answered answer] ++ after) := by
    have cut := List.takeWhile_append_dropWhile (p := (!·.closes depth)) (l := later)
    rw [moment, ← cut, show later.takeWhile (!·.closes depth) = _ from visited]
    simp [before, after, Visit.happenings, same]
  have closing : Closing (depth + 1) after := by
    refine goes_on.closing.append ?_
    rintro _ ⟨⟩
    exact decide_eq_true (Nat.lt_succ_self depth)
  have led : exchange.replay course (past earlier ++ before) =
      now.record (.invoked depth visit.target message) := by
    rw [← replay_concat_quiet rfl]
    simp [before]
  have served := run_served replies asks
  rw [during_append closing, during_answered whole, led] at served
  exact ⟨inside, answer, others, rfl, served, goes_on⟩

end VehicleLink.Exchange
