import VehicleLink.Signal
import VehicleLink.Proofs.Registry
import VehicleLink.Proofs.Delivery.Execution

/-!
Signals while callbacks subscribe, unsubscribe and call the signal themselves. Who is subscribed at
any moment is what the calls until then ask for, and a signal is passed to the callbacks of the
moment at which it is called.
-/

namespace VehicleLink.Signal

open Registry (Call Wanted)
open Exchange (past during Visit TakeInTurn)

variable {Argument : Type}

/-- How callbacks behave, by what has happened until they are invoked. -/
abbrev Behaviour (Argument : Type) : Type :=
  List (Happening (Request Argument) String Argument Answer) → String → Argument →
    Conduct (Request Argument) Answer

/-- What a request is to the registry. -/
def Request.call? : Request Argument → Option (Call String)
  | .add callback => some (.insert callback)
  | .remove callback => some (.remove callback)
  | .call _ | .describe => none

/-- The calls on the registry, those of callbacks included. -/
def callsAmong (happenings : List (Happening (Request Argument) String Argument Answer)) :
    List (Call String) :=
  (happenings.filterMap Happening.request?).filterMap Request.call?

/-- A signal holds what calls ask for, and its size agrees with it. -/
structure Lawful (signal : Signal) (calls : List (Call String)) : Prop where
  reflects : signal.Reflects calls
  size : signal.size = {callback | Wanted calls callback}.ncard
  isEmpty : signal.isEmpty ↔ ∀ callback, ¬ Wanted calls callback
  insert : ∀ callback, Wanted calls callback → signal.insert callback = signal
  remove : ∀ callback, ¬ Wanted calls callback → signal.remove callback = signal

/-- How a signal answers at a moment. Each of its subscribers is visited once, in their order. -/
structure Responds (conduct : Behaviour Argument) (limit depth : Nat) (request : Request Argument)
    (now : Course Signal (Request Argument) String Argument Answer)
    (inside : List (Happening (Request Argument) String Argument Answer)) : Prop where
  visits : ∀ argument, request = .call argument →
    ∃ visits : List (Visit (Request Argument) String Argument Answer),
      visits.map (·.target) = now.state.entries ∧
      inside = visits.flatMap (·.happenings depth argument) ++ [.answered .done] ∧
      (exchange conduct).TakeInTurn limit depth argument (.requested depth request :: now.trace)
        visits
  shown : request = .describe →
    inside = [.answered (.text ("EventSource \x7b callbacks: " ++
      toString now.state.size ++ " \x7d"))]

variable {conduct : Behaviour Argument} {signal : Signal} {calls : List (Call String)}
variable {limit depth : Nat} {request : Request Argument}

theorem Lawful.of_reflects (reflects : signal.Reflects calls) : Lawful signal calls where
  reflects := reflects
  size := reflects.size_eq
  isEmpty := reflects.isEmpty_iff
  insert callback wanted := Registry.insert_eq_self ((reflects.mem_iff callback).mpr wanted)
  remove callback unwanted :=
    Registry.remove_eq_self fun member => unwanted ((reflects.mem_iff callback).mp member)

theorem foldl_settle (signal : Signal) (requests : List (Request Argument)) :
    requests.foldl (exchange conduct).settle signal =
      (requests.filterMap Request.call?).foldl Registry.apply signal := by
  induction requests generalizing signal with
  | nil => rfl
  | cons request rest ih =>
      rw [List.foldl_cons, ih]
      cases request <;> rfl

theorem replay_state (happenings : List (Happening (Request Argument) String Argument Answer)) :
    ((exchange conduct).replay ⟨.empty, []⟩ happenings).state =
      Registry.ofCalls (callsAmong happenings) := by
  rw [Exchange.state_replay, foldl_settle]
  rfl

theorem lawful_replay (happenings : List (Happening (Request Argument) String Argument Answer)) :
    Lawful ((exchange conduct).replay ⟨.empty, []⟩ happenings).state (callsAmong happenings) := by
  rw [replay_state]
  exact .of_reflects (Registry.reflects_ofCalls _)

theorem responds_of_served {now : Course Signal (Request Argument) String Argument Answer}
    {inside : List (Happening (Request Argument) String Argument Answer)}
    (served : (exchange conduct).Served limit depth request now inside) :
    Responds conduct limit depth request now inside where
  visits := by
    rintro argument rfl
    exact served
  shown := by
    rintro rfl
    exact served

variable {requests : List (Request Argument)}
variable {reply : Exchange.Reply Signal (Request Argument) String Argument Answer}
variable {earlier rest : List (Exchange.Reply Signal (Request Argument) String Argument Answer)}

/-- However often and however deep callbacks use a new signal, and whether or not they complete, it
holds what the calls until then ask for and passes arguments to the subscribers of the moment. -/
theorem run_signals
    (replies : (exchange conduct).run limit requests ⟨.empty, []⟩ = earlier ++ reply :: rest) :
    Lawful reply.state (callsAmong (past (earlier ++ [reply]))) ∧
      ∀ before depth request after,
        reply.chronicle = before ++ .requested depth request :: after →
        let now := (exchange conduct).replay ⟨.empty, []⟩ (past earlier ++ before)
        Lawful now.state (callsAmong (past earlier ++ before)) ∧
          Responds conduct limit depth request now (during depth after) := by
  constructor
  · obtain ⟨_, _, _, _, made, _⟩ := Exchange.run_handles replies
    rw [made]
    exact lawful_replay _
  · intro before depth request after moment now
    exact ⟨lawful_replay _, responds_of_served (Exchange.run_served replies moment)⟩

/-- A callback that takes itself out, lets another in, calls the signal again and fails. -/
def leaving : Behaviour String := fun _ callback _ =>
  if callback = "once" then .scripted [.remove "once", .add "late", .call "again"] false
  else .scripted [.describe] true

def leavingRequests : List (Request String) :=
  [.add "once", .add "steady", .add "once", .call "first"]

/-- The nested call is for the callbacks that are left, the outer one for those of its beginning. -/
theorem run_signals_leaving : ∃ earlier reply before later after,
    (exchange leaving).run 2 leavingRequests ⟨.empty, []⟩ = earlier ++ [reply] ∧
    Lawful reply.state (callsAmong (past (earlier ++ [reply]))) ∧
    reply.state.entries = ["steady", "late"] ∧
    reply.chronicle = [] ++ .requested 0 (.call "first") :: after ∧
    reply.chronicle = before ++ .requested 1 (.call "again") :: later ∧
    (∃ visits : List (Visit (Request String) String String Answer),
      visits.map (·.target) = ["once", "steady"] ∧
      during 0 after = visits.flatMap (·.happenings 0 "first") ++ [.answered .done]) ∧
    ∃ visits : List (Visit (Request String) String String Answer),
      visits.map (·.target) = ["steady", "late"] ∧
      during 1 later = visits.flatMap (·.happenings 1 "again") ++ [.answered .done] := by
  have replies : (exchange leaving).run 2 leavingRequests ⟨.empty, []⟩ = [_, _, _] ++ [_] := rfl
  obtain ⟨lawful, responds⟩ := run_signals replies
  have first := responds [] 0 (.call "first") _ rfl
  have second := responds [_, _, _, _, _, _] 1 (.call "again") _ rfl
  obtain ⟨visits, targets, inside, -⟩ := first.2.visits "first" rfl
  obtain ⟨nested, nestedTargets, nestedInside, -⟩ := second.2.visits "again" rfl
  exact ⟨_, _, [_, _, _, _, _, _], _, _, replies, lawful, rfl, rfl, rfl,
    ⟨visits, targets, inside⟩, nested, nestedTargets, nestedInside⟩

end VehicleLink.Signal
