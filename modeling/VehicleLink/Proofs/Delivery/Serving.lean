import VehicleLink.Proofs.Delivery.Replay

/-!
What it is to serve a request. A delivery visits the subscribers of its moment one after the other,
each of them to its end, whatever they and others do meanwhile; its answer is made from the number
of those that complete. In a sound history every request is served, at whatever depth it stands.
-/

namespace VehicleLink

variable {State Request Answer Target Message : Type}

namespace Happening

/-- Whether a request at a depth must have been carried out when this happens. -/
def closes (depth : Nat) : Happening Request Target Message Answer → Bool
  | .requested other _ => other ≤ depth
  | .ended other _ _ => other < depth
  | .invoked .. | .answered _ => false

variable {happening : Happening Request Target Message Answer} {depth other : Nat}

theorem closes_of_le (le : depth ≤ other) (closes : happening.closes depth = true) :
    happening.closes other = true := by
  cases happening with
  | requested place | ended place =>
      simp only [Happening.closes, decide_eq_true_eq] at closes ⊢
      omega
  | invoked | answered => cases closes

end Happening

namespace Exchange

/-- What happens while a request at a depth is carried out, of all that happens after it, the answer
included. -/
def during (depth : Nat) (later : List (Happening Request Target Message Answer)) :
    List (Happening Request Target Message Answer) :=
  later.takeWhile (!·.closes depth)

/-- Nothing happens at less than a depth. -/
def Deep (depth : Nat) (happenings : List (Happening Request Target Message Answer)) : Prop :=
  ∀ happening ∈ happenings, ∀ other, happening.depth? = some other → depth ≤ other

/-- What comes first, if anything does, comes after all requests at a depth. -/
def Closing (depth : Nat) (happenings : List (Happening Request Target Message Answer)) :
    Prop :=
  ∀ happening ∈ happenings.head?, happening.closes depth = true

/-- A subscriber that was invoked: what happened while it reacted, and whether it completed. -/
structure Visit (Request Target Message Answer : Type) where
  target : Target
  within : List (Happening Request Target Message Answer)
  completed : Bool
  deriving DecidableEq, Repr

def Visit.happenings (depth : Nat) (message : Message)
    (visit : Visit Request Target Message Answer) :
    List (Happening Request Target Message Answer) :=
  .invoked depth visit.target message ::
    (visit.within ++ [.ended depth visit.target visit.completed])

/-- A reaction whose requests are at a depth runs to its end: each request is followed by what
happens on its account and by its answer, from which the reaction goes on. -/
inductive Reacts (depth : Nat) : Reaction Request Answer →
    List (Happening Request Target Message Answer) → Bool → Prop
  | finish {completes : Bool} : Reacts depth (.finish completes) [] completes
  | ask {request : Request} {next : Answer → Reaction Request Answer} {answer : Answer}
      {inside rest : List (Happening Request Target Message Answer)} {completes : Bool}
      (whole : ∀ happening ∈ inside, happening.closes depth = false)
      (reacts : Reacts depth (next answer) rest completes) :
      Reacts depth (.ask request next)
        (.requested depth request :: inside ++ [.answered answer] ++ rest) completes

variable (exchange : Exchange State Request Answer Target Message)

/-- What a subscriber does at a visit is its conduct, by what has happened until then. Where the
nesting limit leaves no room it does not react. -/
structure Takes (limit depth : Nat) (message : Message)
    (trace : List (Happening Request Target Message Answer))
    (visit : Visit Request Target Message Answer) : Prop where
  reacts : depth < limit → Reacts (depth + 1)
    (exchange.conduct trace visit.target message).reaction visit.within visit.completed
  bare : limit ≤ depth → visit.within = [] ∧
    visit.completed = (exchange.conduct trace visit.target message).completesBare
  deep : Deep (depth + 1) visit.within

/-- Subscribers are visited one after the other. -/
def TakeInTurn (limit depth : Nat) (message : Message) :
    List (Happening Request Target Message Answer) →
      List (Visit Request Target Message Answer) → Prop
  | _, [] => True
  | trace, visit :: rest => exchange.Takes limit depth message trace visit ∧
      TakeInTurn limit depth message ((visit.happenings depth message).reverse ++ trace) rest

/-- How a request is served: by an answer alone, or by a visit to each subscriber. -/
def Served (limit depth : Nat) (request : Request)
    (course : Course State Request Target Message Answer)
    (inside : List (Happening Request Target Message Answer)) : Prop :=
  match exchange.effect request course.state with
  | .reply answer _ => inside = [.answered answer]
  | .deliver targets message answer =>
      ∃ visits : List (Visit Request Target Message Answer),
        visits.map (·.target) = targets ∧
        inside = visits.flatMap (·.happenings depth message) ++
          [.answered (answer (visits.countP (·.completed)))] ∧
        exchange.TakeInTurn limit depth message (.requested depth request :: course.trace) visits

/-- All requests are at least so deep, and each is served. -/
inductive Sound (limit depth : Nat) : Course State Request Target Message Answer →
    List (Happening Request Target Message Answer) → Prop
  | nil {course : Course State Request Target Message Answer} : Sound limit depth course []
  | quiet {course : Course State Request Target Message Answer}
      {happening : Happening Request Target Message Answer}
      {rest : List (Happening Request Target Message Answer)}
      (quiet : happening.request? = none)
      (sound : Sound limit depth (course.record happening) rest) :
      Sound limit depth course (happening :: rest)
  | request {course : Course State Request Target Message Answer} {other : Nat}
      {request : Request} {rest : List (Happening Request Target Message Answer)}
      (deep : depth ≤ other)
      (served : exchange.Served limit other request course (during other rest))
      (sound : Sound limit depth (exchange.follow course (.requested other request)) rest) :
      Sound limit depth course (.requested other request :: rest)

variable {exchange} {limit depth other : Nat} {request : Request} {message : Message}
variable {happening : Happening Request Target Message Answer}
variable {happenings later : List (Happening Request Target Message Answer)}
variable {course before middle after : Course State Request Target Message Answer}

theorem during_append (closing : Closing depth later) :
    during depth (happenings ++ later) = during depth happenings := by
  induction happenings with
  | nil =>
      cases later with
      | nil => rfl
      | cons first rest =>
          have closes := closing first rfl
          simp [during, closes]
  | cons happening rest ih =>
      simp only [during, List.cons_append, List.takeWhile_cons] at ih ⊢
      rw [ih]

theorem during_eq_self (stays : ∀ happening ∈ happenings, happening.closes depth = false) :
    during depth happenings = happenings := by
  have passed : ∀ happening ∈ happenings, (!happening.closes depth) = true := by
    intro happening member
    rw [stays happening member]
    rfl
  have taken : during depth (happenings ++ []) = happenings ++ during depth [] :=
    List.takeWhile_append_of_pos passed
  rw [List.append_nil] at taken
  exact taken.trans (List.append_nil happenings)

theorem during_answered (whole : ∀ happening ∈ happenings, happening.closes depth = false)
    (answer : Answer) :
    during depth (happenings ++ [.answered answer]) = happenings ++ [.answered answer] := by
  apply during_eq_self
  rw [List.forall_mem_append, List.forall_mem_singleton]
  exact ⟨whole, rfl⟩

theorem Closing.mono (closing : Closing depth happenings) (le : depth ≤ other) :
    Closing other happenings :=
  fun happening first => Happening.closes_of_le le (closing happening first)

theorem Closing.append (closing : Closing depth happenings) (next : Closing depth later) :
    Closing depth (happenings ++ later) := by
  cases happenings with
  | nil => exact next
  | cons first rest => exact closing

theorem Deep.here (here : happening.depth? = some depth) (deep : Deep depth happenings) :
    Deep depth (happening :: happenings) := by
  refine List.forall_mem_cons.mpr ⟨?_, deep⟩
  intro other told
  exact Nat.le_of_eq (Option.some.inj (here.symm.trans told))

theorem Deep.untold (untold : happening.depth? = none) (deep : Deep depth happenings) :
    Deep depth (happening :: happenings) := by
  refine List.forall_mem_cons.mpr ⟨?_, deep⟩
  intro other told
  cases untold.symm.trans told

theorem Deep.append (deep : Deep depth happenings) (next : Deep depth later) :
    Deep depth (happenings ++ later) := by
  intro happening member
  rcases List.mem_append.mp member with front | back
  · exact deep happening front
  · exact next happening back

theorem Deep.not_closes (deep : Deep (depth + 1) happenings) :
    ∀ happening ∈ happenings, happening.closes depth = false := by
  intro happening member
  have deep := deep happening member
  cases happening with
  | requested place | ended place =>
      have := deep place rfl
      simp only [Happening.closes, decide_eq_false_iff_not]
      omega
  | invoked | answered => rfl

theorem Deep.shallower (deep : Deep (depth + 1) happenings) : Deep depth happenings := by
  intro happening member other told
  have := deep happening member other told
  omega

theorem TakeInTurn.within_deep {trace : List (Happening Request Target Message Answer)}
    {visits : List (Visit Request Target Message Answer)}
    (turn : exchange.TakeInTurn limit depth message trace visits) :
    ∀ visit ∈ visits, Deep (depth + 1) visit.within := by
  induction visits generalizing trace with
  | nil => exact List.forall_mem_nil _
  | cons visit rest ih => exact List.forall_mem_cons.mpr ⟨turn.1.deep, ih turn.2⟩

/-! ### Sound histories -/

theorem Sound.shallower (sound : exchange.Sound limit (depth + 1) course happenings) :
    exchange.Sound limit depth course happenings := by
  induction sound with
  | nil => exact .nil
  | quiet quiet _ ih => exact .quiet quiet ih
  | request deep served _ ih => exact .request (by omega) served ih

theorem Sound.append (sound : exchange.Sound limit depth course happenings)
    (rest : exchange.Sound limit depth (exchange.replay course happenings) later)
    (closing : Closing depth later) : exchange.Sound limit depth course (happenings ++ later) := by
  induction sound with
  | nil => exact rest
  | quiet quiet _ ih =>
      rw [replay_cons, follow_quiet quiet] at rest
      exact .quiet quiet (ih rest)
  | request deep served _ ih =>
      rw [List.cons_append]
      apply Sound.request deep
      · rw [during_append (closing.mono deep)]
        exact served
      · exact ih rest

/-- Wherever a request stands, it is served from the course until then. -/
theorem Sound.served (sound : exchange.Sound limit depth course
      (happenings ++ .requested other request :: later)) :
    exchange.Served limit other request (exchange.replay course happenings)
      (during other later) := by
  induction happenings generalizing course with
  | nil =>
      cases sound with
      | quiet quiet => cases quiet
      | request _ served => exact served
  | cons happening rest ih =>
      rw [replay_cons]
      cases sound with
      | quiet quiet sound =>
          rw [follow_quiet quiet]
          exact ih sound
      | request _ _ sound => exact ih sound

end Exchange

end VehicleLink
