import Mathlib.Data.List.Induction
import VehicleLink.Proofs.Delivery.Execution

/-!
Histories of an exchange. What every happening keeps true of the history so far, as long as each
request finds what it needs, is true of the history of any requests.
-/

namespace VehicleLink.Exchange

variable {State Request Answer Target Message : Type}
variable {exchange : Exchange State Request Answer Target Message}
variable {limit depth : Nat} {request : Request} {requests : List Request} {message : Message}
variable {course : Course State Request Target Message Answer}
variable {keeps : List (Happening Request Target Message Answer) → Prop}
variable {ready : Nat → Request → List (Happening Request Target Message Answer) → Prop}
variable {reaches : Nat → Target → Message → Prop} {allowed : Request → Prop}

/-- A reaction whose requests find what they need, whatever has happened on account of those before
them. -/
def Fitting (keeps : List (Happening Request Target Message Answer) → Prop)
    (ready : Nat → Request → List (Happening Request Target Message Answer) → Prop) (depth : Nat) :
    Reaction Request Answer → List (Happening Request Target Message Answer) → Prop
  | .finish _, trace => keeps trace
  | .ask request next, trace => ready depth request trace ∧
      ∀ answer later, keeps later → Fitting keeps ready depth (next answer) later

/-- A property of histories, the latest first, that whatever happens keeps, if each request finds what
it needs. Only some subscribers are reached by such requests. -/
structure Steady (exchange : Exchange State Request Answer Target Message) (limit : Nat)
    (keeps : List (Happening Request Target Message Answer) → Prop)
    (ready : Nat → Request → List (Happening Request Target Message Answer) → Prop)
    (reaches : Nat → Target → Message → Prop) : Prop where
  requested : ∀ depth request trace, ready depth request trace →
    keeps (.requested depth request :: trace)
  answered : ∀ answer trace, keeps trace → keeps (.answered answer :: trace)
  ended : ∀ depth target completed trace, keeps trace →
    keeps (.ended depth target completed :: trace)
  delivers : ∀ depth request trace state targets message answer, ready depth request trace →
    exchange.effect request state = .deliver targets message answer →
    ∀ target ∈ targets, reaches depth target message
  bare : ∀ depth target message trace, limit ≤ depth → reaches depth target message →
    keeps trace → keeps (.invoked depth target message :: trace)
  reacts : ∀ depth target message trace, depth < limit → reaches depth target message →
    keeps trace → Fitting keeps ready (depth + 1)
      (exchange.conduct trace target message).reaction (.invoked depth target message :: trace)

theorem Asks.fitting {reaction : Reaction Request Answer} (asks : Asks allowed reaction)
    (allows : ∀ request trace, allowed request → keeps trace → ready depth request trace)
    {trace : List (Happening Request Target Message Answer)} (kept : keeps trace) :
    Fitting keeps ready depth reaction trace := by
  induction reaction generalizing trace with
  | finish completes => exact kept
  | ask request next ih =>
      exact ⟨allows request trace asks.1 kept, fun answer later => ih answer (asks.2 answer)⟩

theorem reverse_trace_replay (state : State)
    (happenings : List (Happening Request Target Message Answer)) :
    (exchange.replay ⟨state, []⟩ happenings).trace.reverse = happenings := by
  rw [trace_replay, List.append_nil, List.reverse_reverse]

theorem Steady.react (steady : exchange.Steady limit keeps ready reaches)
    {handle : Request → Course State Request Target Message Answer →
      Course State Request Target Message Answer × Answer}
    (handles : ∀ request course, ready depth request course.trace →
      keeps (handle request course).1.trace)
    {reaction : Reaction Request Answer} (fitting : Fitting keeps ready depth reaction course.trace) :
    keeps (react handle reaction course).1.trace := by
  induction reaction generalizing course with
  | finish completes => exact fitting
  | ask request next ih =>
      exact ih _ (fitting.2 _ _ (steady.answered _ _ (handles request course fitting.1)))

theorem invokeAll_steady {invoke : Target → Course State Request Target Message Answer →
      Course State Request Target Message Answer × Bool} {targets : List Target}
    (invokes : ∀ target ∈ targets, ∀ course, keeps course.trace →
      keeps (invoke target course).1.trace)
    (kept : keeps course.trace) : keeps (invokeAll invoke targets course).1.trace := by
  induction targets generalizing course with
  | nil => exact kept
  | cons target rest ih =>
      obtain ⟨first, others⟩ := List.forall_mem_cons.mp invokes
      exact ih others (first course kept)

theorem Steady.carryOut (steady : exchange.Steady limit keeps ready reaches)
    {run : Conduct Request Answer → Course State Request Target Message Answer →
      Course State Request Target Message Answer × Bool}
    (runs : ∀ message target (course : Course State Request Target Message Answer),
      reaches depth target message → keeps course.trace →
      keeps (run (exchange.conduct course.trace target message)
        (course.record (.invoked depth target message))).1.trace)
    (fits : ready depth request course.trace) :
    keeps (exchange.carryOut depth run request course).1.trace := by
  have requested := steady.requested depth request course.trace fits
  unfold Exchange.carryOut
  cases effect : exchange.effect request course.state with
  | reply answer state => exact requested
  | deliver targets message answer =>
      have reached := steady.delivers depth request _ _ _ _ _ fits effect
      have delivered : keeps (course.record (.requested depth request)).trace := requested
      refine invokeAll_steady (fun target among course kept => ?_) delivered
      exact steady.ended _ _ _ _ (runs message target course (reached target among) kept)

theorem Steady.handle (steady : exchange.Steady limit keeps ready reaches) (room : Nat)
    (limited : limit = depth + room) (fits : ready depth request course.trace) :
    keeps (exchange.handle room depth request course).1.trace := by
  induction room generalizing depth request course with
  | zero =>
      refine steady.carryOut (fun message target course reached kept => ?_) fits
      exact steady.bare depth target message course.trace (by omega) reached kept
  | succ room ih =>
      refine steady.carryOut (fun message target course reached kept => ?_) fits
      have fitting := steady.reacts depth target message course.trace (by omega) reached kept
      exact steady.react (fun request course => ih (by omega)) fitting

/-! ### Several requests -/

variable {reply : Reply State Request Target Message Answer}
variable {earlier rest : List (Reply State Request Target Message Answer)}

theorem Steady.run (steady : exchange.Steady limit keeps ready reaches)
    (allows : ∀ request ∈ requests, ∀ trace, keeps trace → ready 0 request trace)
    (kept : keeps course.trace) (replies : exchange.run limit requests course = earlier ++ rest) :
    keeps (exchange.replay course (past earlier)).trace := by
  induction earlier using List.reverseRecOn generalizing rest with
  | nil => exact kept
  | append_singleton earlier reply ih =>
      rw [List.append_assoc] at replies
      obtain ⟨request, among, _, _, _, handled, _⟩ := run_handles replies
      rw [← handled]
      exact steady.handle limit (Nat.zero_add limit).symm (allows request among _ (ih replies))

end VehicleLink.Exchange
