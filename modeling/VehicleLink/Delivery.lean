/-!
Delivery to subscribers that make requests themselves. A request either is answered at once or
delivers a message to the subscribers of that moment. Each of them in turn runs its reaction, whose
requests are carried out before the next subscriber is invoked, and may deliver further messages
down to a nesting limit. A subscriber that fails stops no other.
-/

namespace VehicleLink

/-- What a subscriber does: requests, each chosen with the answers to those before it in hand, and
at last completion or failure. -/
inductive Reaction (Request Answer : Type) where
  | finish (completes : Bool)
  | ask (request : Request) (next : Answer → Reaction Request Answer)

/-- A reaction whose requests are known beforehand. -/
def Reaction.ofList {Request Answer : Type} (completes : Bool) :
    List Request → Reaction Request Answer
  | [] => .finish completes
  | request :: rest => .ask request fun _ => ofList completes rest

/-- How a subscriber takes a message. -/
structure Conduct (Request Answer : Type) where
  reaction : Reaction Request Answer
  /-- Whether it completes where the nesting limit leaves no room for its reaction. -/
  completesBare : Bool

/-- Takes every message by the same requests. -/
def Conduct.scripted {Request Answer : Type} (requests : List Request) (completes : Bool) :
    Conduct Request Answer where
  reaction := .ofList completes requests
  completesBare := completes

/-- What a request comes to. -/
inductive Effect (State Target Message Answer : Type) where
  | reply (answer : Answer) (state : State)
  /-- The answer is made from the number of subscribers that complete. -/
  | deliver (targets : List Target) (message : Message) (answer : Nat → Answer)

/-- What happens in the course of deliveries; the depth is that of the delivery in others. -/
inductive Happening (Request Target Message Answer : Type) where
  | requested (depth : Nat) (request : Request)
  | invoked (depth : Nat) (target : Target) (message : Message)
  | answered (answer : Answer)
  | ended (depth : Nat) (target : Target) (completed : Bool)
  deriving DecidableEq, Repr

/-- A registry with its requests and the subscribers behind it. A subscriber may act on all that
has happened so far, the latest first. -/
structure Exchange (State Request Answer Target Message : Type) where
  effect : Request → State → Effect State Target Message Answer
  conduct : List (Happening Request Target Message Answer) → Target → Message →
    Conduct Request Answer

/-- A state and what has happened so far, the latest first. -/
structure Course (State Request Target Message Answer : Type) where
  state : State
  trace : List (Happening Request Target Message Answer)

namespace Course

variable {State Request Answer Target Message : Type}

def record (course : Course State Request Target Message Answer)
    (happening : Happening Request Target Message Answer) :
    Course State Request Target Message Answer :=
  { course with trace := happening :: course.trace }

/-- What has happened since an earlier course, in order. -/
def since (course earlier : Course State Request Target Message Answer) :
    List (Happening Request Target Message Answer) :=
  (course.trace.take (course.trace.length - earlier.trace.length)).reverse

end Course

namespace Exchange

variable {State Request Answer Target Message : Type}

/-- Invokes subscribers one after the other and counts those that complete. -/
def invokeAll (invoke : Target → Course State Request Target Message Answer →
      Course State Request Target Message Answer × Bool) :
    List Target → Course State Request Target Message Answer →
      Course State Request Target Message Answer × Nat
  | [], course => (course, 0)
  | target :: rest, course =>
      let (invoked, completed) := invoke target course
      let (last, count) := invokeAll invoke rest invoked
      (last, completed.toNat + count)

/-- Runs a reaction by a way to carry out its requests. -/
def react (handle : Request → Course State Request Target Message Answer →
      Course State Request Target Message Answer × Answer) :
    Reaction Request Answer → Course State Request Target Message Answer →
      Course State Request Target Message Answer × Bool
  | .finish completes, course => (course, completes)
  | .ask request next, course =>
      let (handled, answer) := handle request course
      react handle (next answer) (handled.record (.answered answer))

variable (exchange : Exchange State Request Answer Target Message)

/-- Invokes one subscriber by a way to run its reaction. -/
def invoke (depth : Nat)
    (run : Conduct Request Answer → Course State Request Target Message Answer →
      Course State Request Target Message Answer × Bool)
    (message : Message) (target : Target)
    (course : Course State Request Target Message Answer) :
    Course State Request Target Message Answer × Bool :=
  let conduct := exchange.conduct course.trace target message
  let begun := course.record (.invoked depth target message)
  let (reacted, completed) := run conduct begun
  (reacted.record (.ended depth target completed), completed)

/-- Carries out a request by a way to run the reactions of subscribers. -/
def carryOut (depth : Nat)
    (run : Conduct Request Answer → Course State Request Target Message Answer →
      Course State Request Target Message Answer × Bool)
    (request : Request) (course : Course State Request Target Message Answer) :
    Course State Request Target Message Answer × Answer :=
  let requested := course.record (.requested depth request)
  match exchange.effect request course.state with
  | .reply answer state => ({ requested with state }, answer)
  | .deliver targets message answer =>
      let (delivered, count) :=
        invokeAll (exchange.invoke depth run message) targets requested
      (delivered, answer count)

/-- Carries out a request at a depth. A subscriber reacts as long as fewer than `limit` reactions
have been begun around it. -/
def handle : (limit depth : Nat) → Request →
    Course State Request Target Message Answer →
      Course State Request Target Message Answer × Answer
  | 0, depth => exchange.carryOut depth fun conduct course => (course, conduct.completesBare)
  | limit + 1, depth => exchange.carryOut depth fun conduct course =>
      react (handle limit (depth + 1)) conduct.reaction course

/-- The answer to one of several requests, what happened while it was carried out and the state
after it. -/
structure Reply (State Request Target Message Answer : Type) where
  answer : Answer
  happenings : List (Happening Request Target Message Answer)
  state : State

/-- Carries out requests one after the other. -/
def run (limit : Nat) : List Request → Course State Request Target Message Answer →
    List (Reply State Request Target Message Answer)
  | [], _ => []
  | request :: rest, course =>
      let (after, answer) := exchange.handle limit 0 request course
      ⟨answer, after.since course, after.state⟩ :: run limit rest after

end Exchange

end VehicleLink
