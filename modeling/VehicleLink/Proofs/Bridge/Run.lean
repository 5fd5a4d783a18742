import VehicleLink.Bridge.Console
import VehicleLink.Proofs.Bridge.Operations

/-!
Runs of a station: any number of bridges, streams and blocks are added, asked and given up in any
order, and the driver reports whatever it likes between the calls and inside them. The log of a run
keeps what happened at the driver and what each operation came to, the latest first.
-/

namespace VehicleLink.Bridge

/-- What was done at the station, and what came of it. -/
inductive Deed where
  | arranged
  | reported (event : Event)
  | addedBlock (name : String)
  | addedBridge (uri : String)
  | addedStream (block : Nat)
  | opened (bridge : Nat) (outcome : Except LinkError Unit)
  | closed (bridge : Nat)
  | droppedBridge (bridge : Nat)
  | connected (stream : Nat) (outcome : Except LinkError Unit)
  | disconnected (stream : Nat)
  | read (stream : Nat) (entry : Option Entry)

inductive Moment where
  | incident (incident : Incident)
  | done (deed : Deed)

def Call.party : Call → Party
  | .openLink bridge _ | .closeLink bridge => .link bridge
  | .addConfig stream _ | .start stream _ | .stop stream _ | .delete stream _ => .stream stream

/-- Who may call the driver for a deed. -/
def Deed.actor : Deed → Option Party
  | .opened bridge _ | .closed bridge | .droppedBridge bridge => some (.link bridge)
  | .connected stream _ | .disconnected stream | .read stream _ => some (.stream stream)
  | .arranged | .reported _ | .addedBlock _ | .addedBridge _ | .addedStream _ => none

/-- A deed after what happened at the driver meanwhile, the latest first. -/
def Deed.moments (deed : Deed) (incidents : List Incident) : List Moment :=
  .done deed :: incidents.reverse.map .incident

def Moment.incident? : Moment → Option Incident
  | .incident happened => some happened
  | .done _ => none

def Moment.loses : Moment → Bool
  | .incident .disconnected => true
  | _ => false

def Incident.call? : Incident → Option Call
  | .called call => some call
  | .connected | .failed _ | .disconnected | .sampled .. => none

/-- Whose doing a moment is. -/
def Moment.party : Moment → Option Party
  | .incident (.called call) => some call.party
  | .incident _ => none
  | .done deed => deed.actor

theorem Deed.moments_any (deed : Deed) (incidents : List Incident) (mark : Moment → Bool) :
    (deed.moments incidents).any mark =
      (mark (.done deed) || incidents.any fun incident => mark (.incident incident)) := by
  simp only [Deed.moments, List.any_cons, List.any_map, List.any_reverse, Function.comp_def]

theorem Deed.unmarked_moments {deed : Deed} {incidents : List Incident} {mark : Moment → Bool}
    (done : mark (.done deed) = false)
    (unmarked : ∀ incident ∈ incidents, mark (.incident incident) = false) :
    ∀ moment ∈ deed.moments incidents, mark moment = false := by
  intro moment member
  rcases List.mem_cons.mp member with rfl | earlier
  · exact done
  · obtain ⟨incident, happened, rfl⟩ := List.mem_map.mp earlier
    exact unmarked incident (List.mem_reverse.mp happened)

theorem any_eq_false_of_forall {moments : List Moment} {mark : Moment → Bool}
    (unmarked : ∀ moment ∈ moments, mark moment = false) : moments.any mark = false :=
  List.any_eq_false.mpr fun moment member => ne_true_of_eq_false (unmarked moment member)

theorem Deed.forall_quiet {deed : Deed} {property : Moment → Prop} (holds : property (.done deed)) :
    ∀ moment ∈ deed.moments [], property moment :=
  List.forall_mem_singleton.mpr holds

theorem Deed.moments_called (deed : Deed) (call : Call) (incidents : List Incident)
    (log : List Moment) :
    deed.moments (.called call :: incidents) ++ log =
      deed.moments incidents ++ .incident (.called call) :: log := by
  simp only [Deed.moments, List.reverse_cons, List.map_append, List.map_singleton,
    List.cons_append, List.append_assoc, List.nil_append]

theorem Deed.loses_moments (deed : Deed) (incidents : List Incident) :
    (deed.moments incidents).any (·.loses) = true ↔ .disconnected ∈ incidents := by
  have done : (Moment.done deed).loses = false := rfl
  rw [deed.moments_any, done, Bool.false_or, List.any_eq_true]
  constructor
  · intro lost
    obtain ⟨incident, happened, loses⟩ := lost
    cases incident with
    | disconnected => exact happened
    | _ => cases loses
  · exact fun happened => ⟨.disconnected, happened, rfl⟩

namespace Station

/-- The station does a deed. An attempt or a reader that would wait for ever does nothing; what the
driver reports while an attempt waits is part of what it reports on opening. -/
inductive Step (station : Station) : Deed → Station → Prop
  | onOpen (events : List Event) : Step station .arranged { station with onOpen := events }
  | onClose (events : List Event) : Step station .arranged { station with onClose := events }
  | reject (rejection : Option String) : Step station .arranged { station with rejection }
  | report (event : Event) : Step station (.reported event) (station.fire event)
  | addBlock (name title : String) (onStart onStop onDelete : List Event) :
      Step station (.addedBlock name) { station with
        blocks := station.blocks ++ [⟨title, .empty, onStart, onStop, onDelete⟩]
        blockNames := Console.bind station.blockNames name station.blocks.length }
  /-- The driver reports something else when a block is started, stopped or deleted the next time. -/
  | onBlock (number : Nat) (onStart onStop onDelete : List Event) :
      Step station .arranged (station.updateBlock number (·.reporting onStart onStop onDelete))
  | addBridge (uri : String) :
      Step station (.addedBridge uri) { station with bridges := station.bridges ++ [.new uri] }
  | addStream {block : Nat} (inside : block < station.blocks.length) :
      Step station (.addedStream block) { station with streams := station.streams ++ [.new block] }
  | openLink {number : Nat} {outcome : Except LinkError Unit} {after : Station}
      (inside : number < station.bridges.length)
      (opened : station.openLink number = some (after, outcome)) :
      Step station (.opened number outcome) after
  | closeLink {number : Nat} (inside : number < station.bridges.length) :
      Step station (.closed number) (station.closeLink number)
  | dropBridge {number : Nat} (inside : number < station.bridges.length) :
      Step station (.droppedBridge number) (station.dropBridge number)
  | connect {number : Nat} (inside : number < station.streams.length) :
      Step station (.connected number (station.connectStream number).2)
        (station.connectStream number).1
  /-- A stream that is given up is disconnected in the same way. -/
  | disconnect {number : Nat} (inside : number < station.streams.length) :
      Step station (.disconnected number) (station.disconnectStream number)
  | read {number : Nat} {entry : Option Entry} {after : Station}
      (inside : number < station.streams.length)
      (taken : station.nextEntry number = some (after, entry)) :
      Step station (.read number entry) after

/-- What has happened at the driver since an earlier station. -/
def since (station earlier : Station) : List Incident :=
  (station.history.take (station.history.length - earlier.history.length)).reverse

inductive Run : List Moment → Station → Prop
  | start : Run [] .empty
  | step {log : List Moment} {deed : Deed} {before after : Station} (run : Run log before)
      (step : Step before deed after) :
      Run (deed.moments (after.since before) ++ log) after

variable {station before after : Station} {deed : Deed} {log moments : List Moment}
  {incidents : List Incident} {number : Nat}

theorem since_eq (history : after.history = incidents.reverse ++ before.history) :
    after.since before = incidents := by
  rw [since, history, List.length_append, Nat.add_sub_cancel, List.take_left,
    List.reverse_reverse]

/-! ### Additions -/

theorem lookup_unbind (names : List (String × Nat)) (name other : String) :
    (Console.unbind names name).lookup other = if other = name then none else names.lookup other := by
  induction names with
  | nil => simp [Console.unbind]
  | cons bound rest ih =>
      obtain ⟨first, number⟩ := bound
      have kept : Console.unbind ((first, number) :: rest) name =
          if first = name then Console.unbind rest name
          else (first, number) :: Console.unbind rest name := by
        by_cases unbound : first = name <;> simp [Console.unbind, unbound]
      rw [kept, List.lookup_cons]
      by_cases unbound : first = name
      · rw [if_pos unbound, ih]
        by_cases same : other = name
        · rw [if_pos same, if_pos same]
        · have different : (other == first) = false := beq_eq_false_iff_ne.mpr (unbound ▸ same)
          rw [if_neg same, if_neg same, different]
      · rw [if_neg unbound, List.lookup_cons, ih]
        by_cases same : other = first
        · simp [same, unbound]
        · rw [beq_eq_false_iff_ne.mpr same]

theorem lookup_bind (names : List (String × Nat)) (name other : String) (number : Nat) :
    (Console.bind names name number).lookup other =
      if other = name then some number else names.lookup other := by
  rw [Console.bind, List.lookup_cons, lookup_unbind]
  by_cases same : other = name
  · simp [same]
  · have different : (other == name) = false := beq_eq_false_iff_ne.mpr same
    simp [same, different]

theorem bridge_addBridge (station : Station) (uri : String) (number : Nat) :
    ∃ address, Station.bridge { station with bridges := station.bridges ++ [.new uri] } number =
      { station.bridge number with uri := address } := by
  simp only [bridge, List.getElem?_append]
  by_cases inside : number < station.bridges.length
  · rw [if_pos inside]
    exact ⟨_, rfl⟩
  · rw [if_neg inside, List.getElem?_eq_none (Nat.le_of_not_lt inside)]
    cases number - station.bridges.length with
    | zero => exact ⟨uri, rfl⟩
    | succ beyond => exact ⟨"", rfl⟩

theorem stream_addStream (station : Station) (block number : Nat) :
    Station.stream { station with streams := station.streams ++ [.new block] } number =
      if number = station.streams.length then .new block else station.stream number := by
  simp only [stream, List.getElem?_append]
  by_cases inside : number < station.streams.length
  · rw [if_pos inside, if_neg (Nat.ne_of_lt inside)]
  · rw [if_neg inside, List.getElem?_eq_none (Nat.le_of_not_lt inside)]
    cases beyond : number - station.streams.length with
    | zero =>
        have last : number = station.streams.length := by omega
        rw [if_pos last]
        rfl
    | succ more =>
        have outside : number ≠ station.streams.length := by omega
        rw [if_neg outside]
        rfl

theorem block_addBlock {block : Block} (fresh : block.receivers = .empty) (station : Station)
    (blockNames : List (String × Nat)) (number : Nat) :
    (Station.block { station with blocks := station.blocks ++ [block], blockNames }
      number).receivers = (station.block number).receivers := by
  simp only [Station.block, List.getElem?_append]
  by_cases inside : number < station.blocks.length
  · rw [if_pos inside]
  · rw [if_neg inside, List.getElem?_eq_none (Nat.le_of_not_lt inside)]
    cases number - station.blocks.length with
    | zero => exact fresh
    | succ beyond => rfl

theorem Consistent.addBlock {block : Block} (consistent : station.Consistent)
    (fresh : block.receivers = .empty) (blockNames : List (String × Nat)) :
    Consistent { station with blocks := station.blocks ++ [block], blockNames } := by
  refine consistent.congr ⟨rfl, rfl, rfl⟩ (block_addBlock fresh station blockNames) (fun _ => rfl)
    (fun _ => rfl) (fun _ _ _ => rfl) fun number inside => ?_
  have onBlock := consistent.onBlocks number inside
  simp only [List.length_append, List.length_singleton]
  exact Nat.lt_succ_of_lt onBlock

theorem Consistent.addBridge (consistent : station.Consistent) (uri : String) :
    Consistent { station with bridges := station.bridges ++ [.new uri] } := by
  refine consistent.congr ⟨rfl, rfl, rfl⟩ (fun _ => rfl) (fun number => ?_) (fun _ => rfl)
    (fun _ _ _ => rfl) consistent.onBlocks
  obtain ⟨address, same⟩ := bridge_addBridge station uri number
  rw [same]

theorem Consistent.addStream {block : Nat} (consistent : station.Consistent)
    (inside : block < station.blocks.length) :
    Consistent { station with streams := station.streams ++ [.new block] } := by
  have vacant : (station.stream station.streams.length).subscription = none := by
    rw [stream_outside (Nat.le_refl _)]
    rfl
  refine consistent.congr ⟨rfl, rfl, rfl⟩ (fun _ => rfl) (fun _ => rfl) (fun number => ?_)
    (fun number session held => ?_) fun number within => ?_
  all_goals rw [stream_addStream]
  · by_cases last : number = station.streams.length
    · rw [if_pos last, last, vacant]
      rfl
    · rw [if_neg last]
  · rw [if_neg (Nat.ne_of_lt (subscription_inside held))]
  · by_cases last : number = station.streams.length
    · rw [if_pos last]
      exact inside
    · rw [if_neg last]
      simp only [List.length_append, List.length_singleton] at within
      exact consistent.onBlocks number (by omega)

/-! ### Steps -/

def CalledBy (actor : Option Party) (incidents : List Incident) : Prop :=
  ∀ call, .called call ∈ incidents → actor = some call.party

theorem calledBy_nil (actor : Option Party) : CalledBy actor [] :=
  fun _ member => absurd member List.not_mem_nil

theorem CalledBy.cons {actor : Option Party} {call : Call} (own : actor = some call.party)
    (rest : CalledBy actor incidents) : CalledBy actor (.called call :: incidents) := by
  intro other member
  cases member with
  | head => exact own
  | tail _ later => exact rest other later

theorem CalledBy.append {actor : Option Party} {later : List Incident}
    (first : CalledBy actor incidents) (second : CalledBy actor later) :
    CalledBy actor (incidents ++ later) :=
  fun call member => (List.mem_append.mp member).elim (first call) (second call)

theorem CalledBy.calls_eq_nil (calls : CalledBy none incidents) :
    incidents.filterMap Incident.call? = [] := by
  refine List.filterMap_eq_nil_iff.mpr fun incident happened => ?_
  cases incident with
  | called call => cases calls call happened
  | connected | failed | disconnected | sampled => rfl

theorem calledBy_reports (station : Station) (actor : Option Party) (events : List Event) :
    CalledBy actor (events.filterMap station.incident?) :=
  fun call member => absurd member (reports_not_called events call)

def NamesBlocks (station : Station) : Prop :=
  ∀ name number, station.blockNames.lookup name = some number → number < station.blocks.length

/-- Nothing that was added is taken away, and a block keeps its name. -/
structure Grows (before after : Station) : Prop where
  bridges : before.bridges.length ≤ after.bridges.length
  streams : before.streams.length ≤ after.streams.length
  blocks : before.blocks.length ≤ after.blocks.length
  blockName : ∀ number, number < before.blocks.length →
    (after.block number).name = (before.block number).name
  namesBlocks : before.NamesBlocks → after.NamesBlocks

theorem Fixed.grows (fixed : Fixed before after) : Grows before after := by
  refine ⟨Nat.le_of_eq fixed.bridges.symm, Nat.le_of_eq fixed.streams.symm,
    Nat.le_of_eq fixed.blocks.symm, fun number _ => (Block.eq_of_script (fixed.block number)).1,
    fun named name number found => ?_⟩
  rw [fixed.blocks]
  exact named name number (fixed.blockNames ▸ found)

/-- What a step comes to for everybody: bridges and streams other than the actor have heard what
happened since, and nobody else called the driver. An added bridge or stream has the address or
block that it was added with. -/
structure Account (actor : Option Party) (before after : Station) : Prop where
  consistent : after.Consistent
  grows : Grows before after
  history : after.history = (after.since before).reverse ++ before.history
  bridge : ∀ number, actor ≠ some (.link number) → ∃ uri,
    after.bridge number = { (after.since before).foldl .hear (before.bridge number) with uri }
  stream : ∀ number, actor ≠ some (.stream number) → ∃ block,
    after.stream number = { (after.since before).foldl .hear (before.stream number) with block } ∧
      (number < before.streams.length → block = (before.stream number).block)
  calls : CalledBy actor (after.since before)

/-- What an operation of a bridge or a stream, or a report, comes to: everybody else has heard what
happened meanwhile, and nobody but the actor called the driver. -/
structure Performs (actor : Option Party) (before after : Station) : Prop where
  consistent : after.Consistent
  passes : Passes actor before (after.since before) after
  calls : CalledBy actor (after.since before)

theorem Performs.of_passes {actor : Option Party} (consistent : after.Consistent)
    (passes : Passes actor before incidents after) (calls : CalledBy actor incidents) :
    Performs actor before after := by
  have happened := since_eq passes.history
  exact ⟨consistent, by rwa [happened], by rwa [happened]⟩

theorem Performs.account {actor : Option Party} (performs : Performs actor before after) :
    Account actor before after where
  consistent := performs.consistent
  grows := performs.passes.fixed.grows
  history := performs.passes.history
  bridge number aside := ⟨_, performs.passes.bridge number aside⟩
  stream number aside :=
    ⟨_, performs.passes.stream number aside, fun _ => LogStream.block_foldl_hear _ _⟩
  calls := performs.calls

theorem Account.of_quiet (actor : Option Party) (consistent : after.Consistent)
    (grows : Grows before after) (history : after.history = before.history)
    (bridge : ∀ number, ∃ uri, after.bridge number = { before.bridge number with uri })
    (stream : ∀ number, ∃ block, after.stream number = { before.stream number with block } ∧
      (number < before.streams.length → block = (before.stream number).block)) :
    Account actor before after := by
  have nothing : after.since before = [] :=
    since_eq (show after.history = [].reverse ++ before.history from history)
  refine ⟨consistent, grows, ?_, ?_, ?_, ?_⟩
  all_goals rw [nothing]
  · exact history
  · exact fun number _ => bridge number
  · exact fun number _ => stream number
  · exact calledBy_nil actor

theorem Account.of_arranged (consistent : before.Consistent)
    (same : after = { before with
      onOpen := after.onOpen
      onClose := after.onClose
      rejection := after.rejection }) : Account none before after := by
  rw [same]
  have grows : Grows before { before with
      onOpen := after.onOpen
      onClose := after.onClose
      rejection := after.rejection } :=
    ⟨Nat.le_refl _, Nat.le_refl _, Nat.le_refl _, fun _ _ => rfl, id⟩
  exact .of_quiet none ⟨consistent.connected, consistent.failed, consistent.disconnected,
    consistent.receivers, consistent.onBlocks⟩ grows rfl (fun _ => ⟨_, rfl⟩)
      fun _ => ⟨_, rfl, fun _ => rfl⟩

theorem Account.of_updateBlock (consistent : before.Consistent) (number : Nat)
    (change : Block → Block) (keeps : ∀ block, (change block).name = block.name ∧
      (change block).receivers = block.receivers) :
    Account none before (before.updateBlock number change) := by
  have length : (before.updateBlock number change).blocks.length = before.blocks.length :=
    List.length_modify ..
  have kept : ∀ other, ((before.updateBlock number change).block other).name =
      (before.block other).name ∧ ((before.updateBlock number change).block other).receivers =
        (before.block other).receivers := by
    intro other
    by_cases inside : number < before.blocks.length
    · rw [block_updateBlock inside]
      by_cases same : other = number
      · rw [if_pos same]
        exact keeps _
      · rw [if_neg same]
        exact ⟨rfl, rfl⟩
    · rw [updateBlock_outside (Nat.le_of_not_lt inside)]
      exact ⟨rfl, rfl⟩
  have formed : (before.updateBlock number change).Consistent :=
    consistent.congr ⟨rfl, rfl, rfl⟩ (fun other => (kept other).2) (fun _ => rfl) (fun _ => rfl)
      (fun _ _ _ => rfl) fun other inside => length.symm ▸ consistent.onBlocks other inside
  refine .of_quiet none formed ⟨Nat.le_refl _, Nat.le_refl _, Nat.le_of_eq length.symm,
    fun other _ => (kept other).1, fun named name place found => ?_⟩ rfl (fun _ => ⟨_, rfl⟩)
      fun _ => ⟨_, rfl, fun _ => rfl⟩
  rw [length]
  exact named name place found

theorem grows_addBlock (station : Station) (block : Block) (name : String) :
    Grows station { station with
      blocks := station.blocks ++ [block]
      blockNames := Console.bind station.blockNames name station.blocks.length } := by
  have grows : (station.blocks ++ [block]).length = station.blocks.length + 1 :=
    List.length_append
  refine ⟨Nat.le_refl _, Nat.le_refl _, by rw [grows]; omega, fun number inside => ?_,
    fun named other number found => ?_⟩
  · simp only [Station.block, List.getElem?_append_left inside]
  · rw [lookup_bind] at found
    rw [grows]
    by_cases same : other = name
    · rw [if_pos same, Option.some.injEq] at found
      omega
    · rw [if_neg same] at found
      exact Nat.lt_succ_of_lt (named other number found)

theorem Step.performs (consistent : before.Consistent) (step : Step before deed after)
    (acts : deed.actor ≠ none) : Performs deed.actor before after := by
  cases step with
  | @openLink number outcome _ inside opened =>
      cases isOpen : (before.bridge number).isOpen with
      | true =>
          rw [openLink_of_open isOpen] at opened
          cases opened
          exact .of_passes consistent (Passes.refl _ _) (calledBy_nil _)
      | false =>
          obtain ⟨formed, passes, _⟩ := openLink_of_closed consistent inside isOpen opened
          exact .of_passes formed passes (.cons rfl (calledBy_reports _ _ _))
  | @closeLink number inside =>
      obtain ⟨formed, passes, _⟩ := closeLink_passes consistent number
      exact .of_passes formed passes (.cons rfl (calledBy_reports _ _ _))
  | @dropBridge number inside =>
      cases isOpen : (before.bridge number).isOpen with
      | true =>
          rw [dropBridge_of_open isOpen]
          obtain ⟨formed, passes, _⟩ := closeLink_passes consistent number
          exact .of_passes formed passes (.cons rfl (calledBy_reports _ _ _))
      | false =>
          rw [dropBridge_of_closed isOpen]
          exact .of_passes (consistent.unsubscribeBridge number)
            (passes_unsubscribeBridge before number) (calledBy_nil _)
  | @connect number inside =>
      cases connected : (before.stream number).isConnected with
      | true =>
          rw [connectStream_of_connected connected]
          exact .of_passes consistent (Passes.refl _ _) (calledBy_nil _)
      | false =>
          cases rejected : before.rejection with
          | some reason =>
              obtain ⟨_, same, formed, passes, _⟩ :=
                connectStream_of_rejected consistent connected rejected
              rw [same]
              exact .of_passes formed passes (.cons rfl (calledBy_nil _))
          | none =>
              obtain ⟨_, same, formed, passes, _⟩ :=
                connectStream_of_accepted consistent inside connected rejected
              rw [same]
              exact .of_passes formed passes (.cons rfl (.cons rfl (calledBy_reports _ _ _)))
  | @disconnect number inside =>
      cases connected : (before.stream number).isConnected with
      | true =>
          obtain ⟨formed, passes, _⟩ := disconnectStream_of_connected consistent inside connected
          exact .of_passes formed passes
            (.append (.cons rfl (calledBy_reports _ _ _)) (.cons rfl (calledBy_reports _ _ _)))
      | false =>
          obtain ⟨formed, passes, _⟩ := disconnectStream_of_idle consistent connected
          exact .of_passes formed passes (calledBy_nil _)
  | @read number entry _ inside taken =>
      rcases nextEntry_cases taken with ⟨_, _, rfl⟩ | ⟨_, _, _, rfl⟩ | ⟨first, rest, _, _, _, rfl⟩
      · exact .of_passes consistent (Passes.refl _ _) (calledBy_nil _)
      · exact .of_passes (consistent.updateStream ⟨rfl, rfl⟩) (passes_updateStream _ _ _)
          (calledBy_nil _)
      · exact .of_passes (consistent.updateStream ⟨rfl, rfl⟩) (passes_updateStream _ _ _)
          (calledBy_nil _)
  | _ => exact absurd rfl acts

theorem Step.account (consistent : before.Consistent) (step : Step before deed after) :
    Account deed.actor before after := by
  cases step with
  | onOpen events => exact .of_arranged consistent rfl
  | onClose events => exact .of_arranged consistent rfl
  | reject reason => exact .of_arranged consistent rfl
  | addBlock name title onStart onStop onDelete =>
      exact .of_quiet _ (consistent.addBlock rfl _) (grows_addBlock before _ name) rfl
        (fun _ => ⟨_, rfl⟩) fun _ => ⟨_, rfl, fun _ => rfl⟩
  | onBlock number onStart onStop onDelete =>
      exact .of_updateBlock consistent number _ fun _ => ⟨rfl, rfl⟩
  | addBridge uri =>
      have grows : before.bridges.length ≤ (before.bridges ++ [LinkBridge.new uri]).length := by simp
      exact .of_quiet _ (consistent.addBridge uri)
        ⟨grows, Nat.le_refl _, Nat.le_refl _, fun _ _ => rfl, id⟩ rfl
        (bridge_addBridge before uri) fun _ => ⟨_, rfl, fun _ => rfl⟩
  | @addStream block inside =>
      have grows : before.streams.length ≤ (before.streams ++ [LogStream.new block]).length := by simp
      refine .of_quiet _ (consistent.addStream inside)
        ⟨Nat.le_refl _, grows, Nat.le_refl _, fun _ _ => rfl, id⟩ rfl (fun _ => ⟨_, rfl⟩)
        fun number => ?_
      rw [stream_addStream]
      by_cases last : number = before.streams.length
      · rw [if_pos last, stream_outside (Nat.le_of_eq last.symm)]
        exact ⟨block, rfl, fun within => absurd within (by omega)⟩
      · rw [if_neg last]
        exact ⟨_, rfl, fun _ => rfl⟩
  | report event =>
      obtain ⟨formed, passes⟩ := fireAll_passes consistent [event]
      exact (Performs.of_passes formed passes (calledBy_reports before none [event])).account
  | openLink inside opened => exact ((Step.openLink inside opened).performs consistent nofun).account
  | closeLink inside => exact ((Step.closeLink inside).performs consistent nofun).account
  | dropBridge inside => exact ((Step.dropBridge inside).performs consistent nofun).account
  | connect inside => exact ((Step.connect inside).performs consistent nofun).account
  | disconnect inside => exact ((Step.disconnect inside).performs consistent nofun).account
  | read inside taken => exact ((Step.read inside taken).performs consistent nofun).account

theorem CalledBy.party_incident {actor : Option Party} {incident : Incident}
    (calls : CalledBy actor incidents) (happened : incident ∈ incidents) :
    (Moment.incident incident).party = actor ∨ (Moment.incident incident).party = none := by
  cases incident with
  | called call => exact .inl (calls call happened).symm
  | _ => exact .inr rfl

theorem CalledBy.foreign_incident {incident : Incident} (calls : CalledBy none incidents)
    (happened : incident ∈ incidents) (party : Party) :
    (Moment.incident incident).party ≠ some party := by
  have nobody : (Moment.incident incident).party = none :=
    (calls.party_incident happened).elim id id
  rw [nobody]
  exact Option.some_ne_none party |>.symm

theorem CalledBy.foreign_moments {party : Party} (calls : CalledBy deed.actor incidents)
    (other : deed.actor ≠ some party) :
    ∀ moment ∈ deed.moments incidents, moment.party ≠ some party := by
  intro moment member
  rcases List.mem_cons.mp member with rfl | earlier
  · exact other
  · obtain ⟨incident, happened, rfl⟩ := List.mem_map.mp earlier
    rcases calls.party_incident (List.mem_reverse.mp happened) with same | nobody
    · rwa [same]
    · rw [nobody]
      exact Option.some_ne_none party |>.symm

theorem Run.consistent (run : Run log station) : station.Consistent := by
  induction run with
  | start => exact consistent_empty
  | step _ step ih => exact (step.account ih).consistent

theorem Run.namesBlocks (run : Run log station) : station.NamesBlocks := by
  induction run with
  | start => exact nofun
  | step run step ih => exact (step.account run.consistent).grows.namesBlocks ih

/-- The log of a run holds all that ever happened at the driver. -/
theorem Run.history (run : Run log station) : log.filterMap Moment.incident? = station.history := by
  induction run with
  | start => rfl
  | step run step ih =>
      have account := step.account run.consistent
      rw [account.history, List.filterMap_append, ih]
      simp only [Deed.moments, List.filterMap_cons, List.filterMap_map, Moment.incident?]
      congr 1
      exact List.filterMap_some

/-- A run of the station from any point on. -/
inductive Path (station : Station) : List Moment → Station → Prop
  | refl : Path station [] station
  | step {moments : List Moment} {deed : Deed} {before after : Station}
      (path : Path station moments before) (step : Step before deed after) :
      Path station (deed.moments (after.since before) ++ moments) after

theorem Run.path (run : Run log station) (path : Path station moments after) :
    Run (moments ++ log) after := by
  induction path with
  | refl => exact run
  | step _ step ih =>
      rw [List.append_assoc]
      exact .step ih step

/-! ### Looking back -/

/-- The moments since the last one of a kind. -/
def sinceLast (mark : Moment → Bool) (log : List Moment) : List Moment :=
  log.takeWhile (!mark ·)

theorem sinceLast_append {mark : Moment → Bool} {moments : List Moment}
    (unmarked : ∀ moment ∈ moments, mark moment = false) (log : List Moment) :
    sinceLast mark (moments ++ log) = moments ++ sinceLast mark log :=
  List.takeWhile_append_of_pos fun moment member => by rw [unmarked moment member]; rfl

theorem sinceLast_append_mark {mark : Moment → Bool} {moments : List Moment} {last : Moment}
    (unmarked : ∀ moment ∈ moments, mark moment = false) (marked : mark last = true)
    (log : List Moment) : sinceLast mark (moments ++ last :: log) = moments := by
  rw [sinceLast_append unmarked, sinceLast, List.takeWhile_cons_of_neg (by simp [marked]),
    List.append_nil]

end Station

end VehicleLink.Bridge
