import VehicleLink.Delivery

/-!
Requests and what happens on account of them. However deep requests are made within others, what
happens is one list, and the state at any moment follows from the requests before that moment, one
after the other.
-/

namespace VehicleLink

variable {State Request Answer Target Message : Type}

namespace Happening

/-- How deep a happening is in deliveries, where this is told. -/
def depth? : Happening Request Target Message Answer → Option Nat
  | .requested depth _ | .invoked depth _ _ | .ended depth _ _ => some depth
  | .answered _ => none

def request? : Happening Request Target Message Answer → Option Request
  | .requested _ request => some request
  | .invoked .. | .answered _ | .ended .. => none

end Happening

namespace Exchange

variable (exchange : Exchange State Request Answer Target Message)

/-- The state after a request by itself: a delivery changes nothing but by further requests. -/
def settle (state : State) (request : Request) : State :=
  match exchange.effect request state with
  | .reply _ next => next
  | .deliver .. => state

def follow (course : Course State Request Target Message Answer)
    (happening : Happening Request Target Message Answer) :
    Course State Request Target Message Answer where
  state := happening.request?.elim course.state (exchange.settle course.state)
  trace := happening :: course.trace

/-- The course after several happenings. -/
def replay (course : Course State Request Target Message Answer)
    (happenings : List (Happening Request Target Message Answer)) :
    Course State Request Target Message Answer :=
  happenings.foldl exchange.follow course

variable {exchange} {course : Course State Request Target Message Answer}
variable {happening : Happening Request Target Message Answer}
variable {happenings later : List (Happening Request Target Message Answer)}

theorem follow_quiet (quiet : happening.request? = none) :
    exchange.follow course happening = course.record happening := by
  rw [follow, quiet]
  rfl

@[simp] theorem replay_nil : exchange.replay course [] = course := rfl

@[simp] theorem replay_cons :
    exchange.replay course (happening :: happenings) =
      exchange.replay (exchange.follow course happening) happenings := rfl

theorem replay_append :
    exchange.replay course (happenings ++ later) =
      exchange.replay (exchange.replay course happenings) later :=
  List.foldl_append

theorem replay_concat_quiet (quiet : happening.request? = none) :
    exchange.replay course (happenings ++ [happening]) =
      (exchange.replay course happenings).record happening := by
  rw [replay_append, replay_cons, follow_quiet quiet, replay_nil]

theorem trace_replay : (exchange.replay course happenings).trace =
    happenings.reverse ++ course.trace := by
  induction happenings generalizing course with
  | nil => rfl
  | cons happening rest ih =>
      rw [replay_cons, ih, List.reverse_cons, List.append_assoc]
      rfl

theorem state_replay : (exchange.replay course happenings).state =
    (happenings.filterMap Happening.request?).foldl exchange.settle course.state := by
  induction happenings generalizing course with
  | nil => rfl
  | cons happening rest ih =>
      rw [replay_cons, ih, List.filterMap_cons]
      cases asked : happening.request? with
      | none => rw [follow_quiet asked]; rfl
      | some request => rw [follow, asked]; rfl

theorem since_replay : (exchange.replay course happenings).since course = happenings := by
  rw [Course.since, trace_replay, List.length_append, Nat.add_sub_cancel, List.take_left,
    List.reverse_reverse]

end Exchange

end VehicleLink
