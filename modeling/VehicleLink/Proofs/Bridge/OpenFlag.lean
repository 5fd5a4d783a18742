import VehicleLink.Proofs.Bridge.Actors

/-!
When a bridge passes for open. The flag is set after the wait for the outcome of an attempt, so it
misses the loss of a link that comes after the outcome and before the end of the wait.
-/

namespace VehicleLink.Bridge

namespace Moment

def asksOpen (number : Nat) : Moment → Bool
  | .incident (.called (.openLink bridge _)) => bridge = number
  | _ => false

def asksClose (number : Nat) : Moment → Bool
  | .incident (.called (.closeLink bridge)) => bridge = number
  | _ => false

def opens (number : Nat) : Moment → Bool
  | .done (.opened bridge (.ok _)) => bridge = number
  | _ => false

end Moment

namespace Station

variable {station before after : Station} {deed : Deed} {log moments : List Moment} {number : Nat}
  {incidents : List Incident}

/-- What has happened since a bridge last subscribed and asked the driver to open the link. -/
def sinceAttempt (number : Nat) (log : List Moment) : List Moment :=
  sinceLast (·.asksOpen number) log

/-- The last attempt of a bridge succeeded and the bridge was not closed since. -/
def Kept (number : Nat) (log : List Moment) : Prop :=
  (sinceAttempt number log).any (·.opens number) = true ∧
    (sinceAttempt number log).any (·.asksClose number) = false

/-- The link that a bridge keeps was not lost since the bridge subscribed. -/
def StillOpen (number : Nat) (log : List Moment) : Prop :=
  Kept number log ∧ (sinceAttempt number log).any (·.loses) = false

/-- The link that a bridge keeps was lost before the attempt had come to its end. -/
def LostWhileOpening (number : Nat) (log : List Moment) : Prop :=
  Kept number log ∧ ((sinceAttempt number log).dropWhile (!·.opens number)).any (·.loses) = true

instance (number : Nat) (log : List Moment) : Decidable (StillOpen number log) :=
  inferInstanceAs (Decidable ((_ ∧ _) ∧ _))

instance (number : Nat) (log : List Moment) : Decidable (LostWhileOpening number log) :=
  inferInstanceAs (Decidable ((_ ∧ _) ∧ _))

theorem not_lostWhileOpening (still : StillOpen number log) : ¬ LostWhileOpening number log := by
  intro lost
  obtain ⟨moment, member, loses⟩ := List.any_eq_true.mp lost.2
  have earlier := (List.dropWhile_sublist _).subset member
  exact List.any_eq_false.mp still.2 moment earlier loses

/-! ### Moments of others -/

/-- A moment in which a bridge neither begins nor ends an attempt and is not closed. -/
structure Aside (number : Nat) (moment : Moment) : Prop where
  asksOpen : moment.asksOpen number = false
  asksClose : moment.asksClose number = false
  opens : moment.opens number = false

theorem aside_of_party {moment : Moment} (other : moment.party ≠ some (.link number)) :
    Aside number moment := by
  cases moment with
  | incident happened =>
      cases happened with
      | called call =>
          cases call with
          | openLink bridge uri =>
              have different : bridge ≠ number := fun same => other (by rw [same]; rfl)
              refine ⟨?_, rfl, rfl⟩
              simp [Moment.asksOpen, different]
          | closeLink bridge =>
              have different : bridge ≠ number := fun same => other (by rw [same]; rfl)
              refine ⟨rfl, ?_, rfl⟩
              simp [Moment.asksClose, different]
          | _ => exact ⟨rfl, rfl, rfl⟩
      | _ => exact ⟨rfl, rfl, rfl⟩
  | done deed =>
      cases deed with
      | opened bridge outcome =>
          have different : bridge ≠ number := fun same => other (by rw [same]; rfl)
          refine ⟨rfl, rfl, ?_⟩
          cases outcome <;> simp [Moment.opens, different]
      | _ => exact ⟨rfl, rfl, rfl⟩

theorem aside_incident {incident : Incident} (calls : CalledBy none incidents)
    (happened : incident ∈ incidents) : Aside number (.incident incident) :=
  aside_of_party (calls.foreign_incident happened _)

theorem sinceAttempt_aside (aside : ∀ moment ∈ moments, Aside number moment) :
    sinceAttempt number (moments ++ log) = moments ++ sinceAttempt number log :=
  sinceLast_append (fun moment member => (aside moment member).asksOpen) log

theorem kept_aside (aside : ∀ moment ∈ moments, Aside number moment) :
    Kept number (moments ++ log) ↔ Kept number log := by
  have noClose : moments.any (·.asksClose number) = false :=
    any_eq_false_of_forall fun moment member => (aside moment member).asksClose
  have noOpen : moments.any (·.opens number) = false :=
    any_eq_false_of_forall fun moment member => (aside moment member).opens
  simp only [Kept, sinceAttempt_aside aside, List.any_append, noClose, noOpen, Bool.false_or]

theorem stillOpen_aside (aside : ∀ moment ∈ moments, Aside number moment) :
    StillOpen number (moments ++ log) ↔ StillOpen number log ∧ moments.any (·.loses) = false := by
  simp only [StillOpen, kept_aside aside, sinceAttempt_aside aside, List.any_append,
    Bool.or_eq_false_iff]
  exact and_congr_right (fun _ => and_comm) |>.trans and_assoc.symm

theorem lostWhileOpening_aside (aside : ∀ moment ∈ moments, Aside number moment) :
    LostWhileOpening number (moments ++ log) ↔ LostWhileOpening number log := by
  have noOpen : ∀ moment ∈ moments, (!moment.opens number) = true :=
    fun moment member => by simp [(aside moment member).opens]
  simp only [LostWhileOpening, kept_aside aside, sinceAttempt_aside aside,
    List.dropWhile_append_of_pos noOpen]

/-! ### Moments of the bridge itself -/

theorem asksOpen_moments (calls : CalledBy none incidents) :
    ∀ moment ∈ deed.moments incidents, moment.asksOpen number = false :=
  Deed.unmarked_moments rfl fun _ happened => (aside_incident calls happened).asksOpen

/-- Once the driver has reported the outcome of an attempt, only what it reported counts. -/
theorem sinceAttempt_asked (calls : CalledBy none incidents) (uri : String) :
    sinceAttempt number (deed.moments (.called (.openLink number uri) :: incidents) ++ log) =
      deed.moments incidents := by
  rw [deed.moments_called]
  exact sinceLast_append_mark (asksOpen_moments calls) (by simp [Moment.asksOpen]) log

theorem kept_opened (calls : CalledBy none incidents) (uri : String) :
    Kept number ((Deed.opened number (.ok ())).moments (.called (.openLink number uri) :: incidents) ++
      log) := by
  have unclosed : ∀ moment ∈ (Deed.opened number (.ok ())).moments incidents,
      moment.asksClose number = false :=
    Deed.unmarked_moments rfl fun _ happened => (aside_incident calls happened).asksClose
  rw [Kept, sinceAttempt_asked calls]
  refine ⟨?_, any_eq_false_of_forall unclosed⟩
  simp [Deed.moments, Moment.opens]

theorem stillOpen_opened (calls : CalledBy none incidents) (uri : String) :
    StillOpen number ((Deed.opened number (.ok ())).moments
      (.called (.openLink number uri) :: incidents) ++ log) ↔ .disconnected ∉ incidents := by
  rw [StillOpen, sinceAttempt_asked calls, ← Bool.not_eq_true, Deed.loses_moments]
  exact and_iff_right (kept_opened calls uri)

theorem lostWhileOpening_opened (calls : CalledBy none incidents) (uri : String) :
    LostWhileOpening number ((Deed.opened number (.ok ())).moments
      (.called (.openLink number uri) :: incidents) ++ log) ↔ .disconnected ∈ incidents := by
  have whole : ((Deed.opened number (.ok ())).moments incidents).dropWhile (!·.opens number) =
      (Deed.opened number (.ok ())).moments incidents :=
    List.dropWhile_cons_of_neg (by simp [Moment.opens])
  rw [LostWhileOpening, sinceAttempt_asked calls, whole, Deed.loses_moments]
  exact and_iff_right (kept_opened calls uri)

theorem not_kept_refused (calls : CalledBy none incidents) (uri : String) (error : LinkError) :
    ¬ Kept number ((Deed.opened number (.error error)).moments
      (.called (.openLink number uri) :: incidents) ++ log) := by
  have unopened : ∀ moment ∈ (Deed.opened number (.error error)).moments incidents,
      moment.opens number = false :=
    Deed.unmarked_moments rfl fun _ happened => (aside_incident calls happened).opens
  rw [Kept, sinceAttempt_asked calls, any_eq_false_of_forall unopened]
  exact fun kept => nomatch kept.1

theorem not_kept_closed (calls : CalledBy none incidents) :
    ¬ Kept number (deed.moments (.called (.closeLink number) :: incidents) ++ log) := by
  intro kept
  have closed : (sinceAttempt number
      (deed.moments (.called (.closeLink number) :: incidents) ++ log)).any
        (·.asksClose number) = true := by
    rw [deed.moments_called, sinceAttempt, sinceLast_append (asksOpen_moments calls)]
    simp [sinceLast, Moment.asksOpen, Moment.asksClose]
  rw [kept.2] at closed
  cases closed

/-! ### The flag follows the log -/

/-- What the log of a run tells of a bridge between two operations. -/
structure Follows (bridge : LinkBridge) (number : Nat) (log : List Moment) : Prop where
  resting : bridge.attempt = .none
  subscribed : bridge.lifecycle.isSome = true ↔ StillOpen number log
  isOpen : bridge.isOpen = true ↔ StillOpen number log ∨ LostWhileOpening number log

theorem Follows.aside {bridge : LinkBridge} (follows : Follows bridge number log)
    (others : ∀ moment ∈ deed.moments incidents, Aside number moment) (uri : String) :
    Follows { incidents.foldl .hear bridge with uri } number (deed.moments incidents ++ log) := by
  have still : StillOpen number (deed.moments incidents ++ log) ↔ _ := stillOpen_aside others
  have lost : LostWhileOpening number (deed.moments incidents ++ log) ↔ _ :=
    lostWhileOpening_aside others
  rw [← Bool.not_eq_true, Deed.loses_moments] at still
  refine ⟨LinkBridge.attempt_foldl_hear_of_resting follows.resting incidents, ?_, ?_⟩
  · rw [still, ← follows.subscribed]
    exact bridge.isSome_lifecycle_foldl_hear incidents
  · rw [still, lost]
    refine (bridge.isOpen_foldl_hear incidents).trans ?_
    rw [follows.isOpen, follows.subscribed]
    -- A bridge whose loss was missed has no callback left, so it hears of no other loss.
    constructor
    · intro heard
      rcases heard with ⟨still | missed, unheard⟩
      · exact .inl ⟨still, unheard still⟩
      · exact .inr missed
    · intro kept
      rcases kept with ⟨still, unheard⟩ | missed
      · exact ⟨.inl still, fun _ => unheard⟩
      · exact ⟨.inr missed, fun still => absurd missed (not_lostWhileOpening still)⟩

theorem Follows.ended {bridge : LinkBridge} (resting : bridge.attempt = .none)
    (unsubscribed : bridge.lifecycle = none) (closed : bridge.isOpen = false)
    (notKept : ¬ Kept number log) : Follows bridge number log where
  resting := resting
  subscribed := iff_of_false (by simp [unsubscribed]) fun still => notKept still.1
  isOpen := iff_of_false (ne_true_of_eq_false closed)
    fun kept => kept.elim (fun still => notKept still.1) fun lost => notKept lost.1

theorem Follows.opened {bridge : LinkBridge} (calls : CalledBy none incidents) (uri : String) :
    Follows ((incidents.foldl .hear bridge.begin).settle true) number
      ((Deed.opened number (.ok ())).moments (.called (.openLink number uri) :: incidents) ++
        log) where
  resting := rfl
  subscribed := by
    rw [stillOpen_opened calls]
    refine (bridge.begin.isSome_lifecycle_foldl_hear incidents).trans ?_
    exact and_iff_right rfl
  isOpen := by
    rw [stillOpen_opened calls, lostWhileOpening_opened calls]
    exact iff_of_true rfl (Classical.em _).symm

theorem LinkActs.follows {bridge next : LinkBridge}
    (acts : LinkActs number bridge deed incidents next) (follows : Follows bridge number log) :
    Follows next number (deed.moments incidents ++ log) := by
  cases acts with
  | refused isOpen =>
      -- Refused without a call: the attempt before stays the last one.
      exact follows.aside (Deed.forall_quiet ⟨rfl, rfl, rfl⟩) _
  | opened closed reports => exact .opened reports _
  | failed closed reports => exact .ended rfl rfl rfl (not_kept_refused reports _ _)
  | closed _ reports => exact .ended rfl rfl rfl (not_kept_closed reports)
  | givenUp closed =>
      -- A closed bridge is not subscribed, so that nothing is left to give up.
      have free : bridge.lifecycle = none := by
        rw [← Option.not_isSome_iff_eq_none, follows.subscribed]
        exact fun still => ne_true_of_eq_false closed (follows.isOpen.mpr (.inl still))
      have same : bridge.release = bridge := by rw [LinkBridge.release, ← free]
      rw [same]
      exact follows.aside (Deed.forall_quiet ⟨rfl, rfl, rfl⟩) _

theorem Step.follows (consistent : before.Consistent)
    (follows : Follows (before.bridge number) number log) (step : Step before deed after) :
    Follows (after.bridge number) number (deed.moments (after.since before) ++ log) := by
  by_cases own : deed.actor = some (.link number)
  · exact (step.linkActs consistent own).follows follows
  · have account := step.account consistent
    obtain ⟨uri, same⟩ := account.bridge number own
    rw [same]
    have others := account.calls.foreign_moments own
    exact follows.aside (fun moment member => aside_of_party (others moment member)) uri

theorem follows_new (number : Nat) : Follows (.new "") number [] :=
  .ended rfl rfl rfl fun kept => nomatch kept.1

theorem Run.follows (run : Run log station) (number : Nat) :
    Follows (station.bridge number) number log := by
  -- On the steps of the run; the registries are right at each of them.
  induction run with
  | start => exact follows_new number
  | step run step ih => exact step.follows run.consistent ih

/-! ### A link that is lost at once -/

/-- The driver will report a link and its loss before it returns from opening it. -/
def flickering : Station :=
  { empty with bridges := [.new "10.0.0.1"], onOpen := [.connected, .disconnected] }

def lossOnOpening : List Moment :=
  [.done (.opened 0 (.ok ())), .incident .disconnected, .incident .connected,
    .incident (.called (.openLink 0 "10.0.0.1")), .done (.addedBridge "10.0.0.1"), .done .arranged]

theorem run_lossOnOpening : ∃ station, flickering.openLink 0 = some (station, .ok ()) ∧
    Run lossOnOpening station ∧ (station.bridge 0).isOpen = true ∧
      station.disconnected.entries = [] := by
  have ready : Run [.done (.addedBridge "10.0.0.1"), .done .arranged] flickering :=
    .step (.step .start (.onOpen [.connected, .disconnected])) (.addBridge "10.0.0.1")
  refine ⟨_, rfl, ?_, rfl, rfl⟩
  have inside : 0 < flickering.bridges.length := by decide
  exact .step ready (.openLink inside rfl)

/-! ### The flag -/

/-- A callback of a bridge awaits each of the three events. -/
def Awaits (station : Station) (number : Nat) : Prop :=
  ∀ registry ∈ [station.connected, station.failed, station.disconnected],
    ∃ session, .link number session ∈ registry.entries

theorem Consistent.link_mem_iff (consistent : station.Consistent) {registry : Registry Subscriber}
    (member : registry ∈ [station.connected, station.failed, station.disconnected]) :
    (∃ session, .link number session ∈ registry.entries) ↔
      (station.bridge number).lifecycle.isSome = true := by
  rw [Option.isSome_iff_exists]
  simp only [List.mem_cons, List.not_mem_nil, or_false] at member
  rcases member with rfl | rfl | rfl
  · exact exists_congr fun session => consistent.connected.mem_iff _
  · exact exists_congr fun session => consistent.failed.mem_iff _
  · exact exists_congr fun session => consistent.disconnected.mem_iff _

theorem Consistent.awaits_iff (consistent : station.Consistent) :
    station.Awaits number ↔ (station.bridge number).lifecycle.isSome = true := by
  constructor
  · intro awaits
    exact (consistent.link_mem_iff List.mem_cons_self).mp (awaits _ List.mem_cons_self)
  · exact fun held registry member => (consistent.link_mem_iff member).mpr held

/-- A bridge passes for open exactly if its last attempt succeeded and since the bridge subscribed
for that attempt it was not closed, and the link was either not lost at all or lost before the
attempt came to its end. Its callbacks are there, all of them, in the first case and none of them
otherwise, so that the second case is the one in which the flag is wrong. -/
theorem Run.open_flag_exact (run : Run log station) (number : Nat) :
    ((station.bridge number).isOpen = true ↔
      StillOpen number log ∨ LostWhileOpening number log) ∧
    (station.Awaits number ↔ StillOpen number log) ∧
    (¬ StillOpen number log →
      ∀ registry ∈ [station.connected, station.failed, station.disconnected],
        ¬ ∃ session, .link number session ∈ registry.entries) ∧
    (((station.bridge number).isOpen = true ↔ StillOpen number log) ∧
        ((station.bridge number).isOpen = true ↔ station.Awaits number) ↔
      ¬ LostWhileOpening number log) := by
  have consistent := run.consistent
  have follows := run.follows number
  have awaits : station.Awaits number ↔ StillOpen number log :=
    consistent.awaits_iff.trans follows.subscribed
  refine ⟨follows.isOpen, awaits, ?_, ?_⟩
  · intro gone registry member
    rw [consistent.link_mem_iff member, follows.subscribed]
    exact gone
  · rw [awaits, and_self, follows.isOpen]
    constructor
    · intro same lost
      exact not_lostWhileOpening (same.mp (.inr lost)) lost
    · exact or_iff_left

theorem open_flag_exact_lossOnOpening : LostWhileOpening 0 lossOnOpening ∧
    ∃ station, Run lossOnOpening station ∧ (station.bridge 0).isOpen = true := by
  have lost : LostWhileOpening 0 lossOnOpening := by decide
  obtain ⟨station, _, run, _⟩ := run_lossOnOpening
  exact ⟨lost, station, run, (run.open_flag_exact 0).1.mpr (.inr lost)⟩

/-- The bridge is left open with the loss of its link behind it, and no callback awaits another. -/
theorem open_after_loss : ∃ station, Run lossOnOpening station ∧
    ¬ ((station.bridge 0).isOpen = true ↔ StillOpen 0 lossOnOpening) ∧
    ¬ ((station.bridge 0).isOpen = true ↔ station.Awaits 0) := by
  obtain ⟨station, _, run, isOpen, deserted⟩ := run_lossOnOpening
  have lost : ¬ StillOpen 0 lossOnOpening := by decide
  refine ⟨station, run, fun same => lost (same.mp isOpen), fun same => ?_⟩
  obtain ⟨session, held⟩ := same.mp isOpen station.disconnected (by simp)
  rw [deserted] at held
  cases held

end Station

end VehicleLink.Bridge
