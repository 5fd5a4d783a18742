import VehicleLink.Proofs.Bridge.Renumbering
import VehicleLink.Proofs.Bridge.Run

/-!
A bridge that was closed, or that has failed to open, is as good as a new one: nothing that is done
from then on, at this bridge or at any other, shows that it was used before.
-/

namespace VehicleLink.Bridge

def Subscriber.party : Subscriber → Party
  | .link owner _ => .link owner
  | .stream owner _ => .stream owner

/-- What can be seen of a station: the address and the flag of each bridge, the flag of each stream,
and how many subscribers each event and each block has. -/
structure View where
  bridges : List (String × Bool)
  streams : List Bool
  connected : Nat
  failed : Nat
  disconnected : Nat
  receivers : List Nat
  deriving DecidableEq, Repr

def Station.view (station : Station) : View where
  bridges := station.bridges.map fun bridge => (bridge.uri, bridge.isOpen)
  streams := station.streams.map (·.isConnected)
  connected := station.connected.size
  failed := station.failed.size
  disconnected := station.disconnected.size
  receivers := station.blocks.map (·.receivers.size)

/-- What can be seen of a command: its answer, the calls of the driver and the station after it. -/
def Console.Reply.view (reply : Console.Reply) : Answer × List Call × View :=
  (reply.answer, reply.calls, reply.console.station.view)

/-- What can be seen of commands one after the other, or why one has no answer. -/
def Console.views (console : Console) (commands : List Command) :
    Except Stuck (List (Answer × List Call × View)) :=
  (Console.run commands console).map (·.map Reply.view)

/-! ### The numbers of subscriptions cannot be seen -/

theorem map_mapIdx {Part Seen : Type} {shift : Nat → Part → Part} {see : Part → Seen}
    (same : ∀ number part, see (shift number part) = see part) (parts : List Part) :
    (parts.mapIdx shift).map see = parts.map see := by
  refine List.ext_getElem? fun place => ?_
  simp only [List.getElem?_map, List.getElem?_mapIdx, Option.map_map, Function.comp_def, same]

theorem Station.Alike.view {earlier : Party → Nat} {left right : Station}
    (alike : Alike earlier left right) : left.view = right.view := by
  have bridges : (right.bridges.mapIdx fun number bridge =>
      bridge.advance (earlier (.link number))).map (fun bridge => (bridge.uri, bridge.isOpen)) =
      right.bridges.map fun bridge => (bridge.uri, bridge.isOpen) := by
    refine map_mapIdx (fun number bridge => ?_) _
    rfl
  have streams : (right.streams.mapIdx fun number stream =>
      stream.advance (earlier (.stream number))).map (·.isConnected) =
      right.streams.map (·.isConnected) := by
    refine map_mapIdx (fun number stream => ?_) _
    rfl
  rw [alike.advanced]
  simp only [Station.view, advance, Registry.size_map, bridges, streams, List.map_map,
    Function.comp_def, Block.advance]

theorem Console.views_of_error {console : Console} {command : Command} {stuck : Stuck}
    (fails : console.perform command = .error stuck) (rest : List Command) :
    console.views (command :: rest) = .error stuck := by
  simp only [views, Console.run, fails]
  rfl

theorem Console.views_of_ok {console after : Console} {command : Command} {answer : Answer}
    (performed : console.perform command = .ok (after, answer)) (rest : List Command) :
    console.views (command :: rest) =
      (after.views rest).map ((answer, after.callsSince console, after.station.view) :: ·) := by
  simp only [views, Console.run, performed]
  change (Console.run rest after >>= fun replies => pure (_ :: replies)).map _ = _
  cases Console.run rest after <;> rfl

theorem Console.Alike.views {earlier : Party → Nat} {left right : Console}
    (alike : Console.Alike earlier left right) (commands : List Command) :
    left.views commands = right.views commands := by
  induction commands generalizing left right with
  | nil => rfl
  | cons command rest ih =>
      rcases alike.perform command with
        ⟨stuck, fails, still⟩ | ⟨after, other, answer, performed, same, performing⟩
      · rw [views_of_error fails, views_of_error still]
      · rw [views_of_ok performed, views_of_ok same, performing.callsSince alike,
          performing.station.view, ih performing]

namespace Station

variable {station after : Station} {log : List Moment} {number : Nat}

/-- The same is seen now and whatever is done from now on, whatever names there are. -/
def Indistinguishable (left right : Station) : Prop :=
  left.view = right.view ∧ ∀ (links streams : List (String × Nat)) (commands : List Command),
    Console.views ⟨left, links, streams⟩ commands = Console.views ⟨right, links, streams⟩ commands

/-- Puts a new bridge of the same address in the place of a bridge. -/
def renew (station : Station) (number : Nat) : Station :=
  station.updateBridge number fun bridge => .new bridge.uri

/-! ### Who is subscribed nowhere -/

/-- The subscription that a bridge or a stream holds. -/
def subscriptionOf (station : Station) : Party → Option Nat
  | .link number => (station.bridge number).lifecycle
  | .stream number => (station.stream number).subscription

/-- As often as a bridge or stream has subscribed, and for everybody else not at all. -/
def madeBy (station : Station) (party other : Party) : Nat :=
  if other = party then
    match party with
    | .link number => (station.bridge number).sessions
    | .stream number => (station.stream number).sessions
  else 0

theorem madeBy_other {party other : Party} (different : other ≠ party) :
    station.madeBy party other = 0 := if_neg different

theorem map_advance (station : Station) {party : Party} {registry : Registry Subscriber}
    {kind : Subscriber → Prop} (lists : registry.Lists kind)
    (absent : ∀ subscriber, kind subscriber → subscriber.party ≠ party) :
    registry.map (.advance (station.madeBy party)) = registry := by
  obtain ⟨entries⟩ := registry
  have same : ∀ subscriber ∈ entries,
      Subscriber.advance (station.madeBy party) subscriber = subscriber := by
    intro subscriber member
    have none : station.madeBy party subscriber.party = 0 :=
      madeBy_other (absent subscriber ((lists.mem_iff subscriber).mp member))
    cases subscriber with
    | link owner session => exact congrArg (Subscriber.link owner) (congrArg (session + ·) none)
    | stream owner session => exact congrArg (Subscriber.stream owner) (congrArg (session + ·) none)
  exact congrArg Registry.mk ((List.map_congr_left same).trans (List.map_id _))

/-- The numbers of a party that is subscribed nowhere stand in no registry. -/
theorem registries_advance {party : Party} (consistent : station.Consistent)
    (unsubscribed : station.subscriptionOf party = none) :
    station.connected.map (.advance (station.madeBy party)) = station.connected ∧
      station.failed.map (.advance (station.madeBy party)) = station.failed ∧
      station.disconnected.map (.advance (station.madeBy party)) = station.disconnected ∧
      station.blocks.map (.advance (station.madeBy party)) = station.blocks := by
  have loss : ∀ subscriber, station.awaitsLoss subscriber → subscriber.party ≠ party := by
    rintro subscriber awaits rfl
    cases subscriber with
    | link owner session => cases Eq.trans (Eq.symm unsubscribed) awaits
    | stream owner session => cases Eq.trans (Eq.symm unsubscribed) awaits
  have outcome : ∀ subscriber, station.awaitsOutcome subscriber → subscriber.party ≠ party := by
    intro subscriber awaits
    cases subscriber with
    | link owner session => exact loss (.link owner session) awaits
    | stream owner session => exact awaits.elim
  have samples : ∀ block subscriber, station.awaitsSamples block subscriber →
      subscriber.party ≠ party := by
    intro block subscriber awaits
    cases subscriber with
    | link owner session => exact awaits.elim
    | stream owner session => exact loss (.stream owner session) awaits.2
  refine ⟨map_advance station consistent.connected outcome,
    map_advance station consistent.failed outcome, map_advance station consistent.disconnected loss,
    ?_⟩
  refine (List.map_congr_left fun block member => ?_).trans (List.map_id _)
  obtain ⟨place, found⟩ := List.mem_iff_getElem?.mp member
  have this : station.block place = block := by rw [Station.block, found]; rfl
  have receivers := map_advance station (consistent.receivers place) (samples place)
  rw [this] at receivers
  exact congrArg (Block.mk _ · _ _ _) receivers

theorem mapIdx_eq_self {Part : Type} {shift : Nat → Part → Part}
    (same : ∀ place part, shift place part = part) (parts : List Part) :
    parts.mapIdx shift = parts := by
  refine List.ext_getElem? fun place => ?_
  rw [List.getElem?_mapIdx]
  cases parts[place]? with
  | none => rfl
  | some part => exact congrArg some (same place part)

/-- A shift that undoes a change in one place and does nothing elsewhere. -/
theorem mapIdx_modify {Part : Type} {shift : Nat → Part → Part} {change : Part → Part}
    {parts : List Part} {number : Nat}
    (here : ∀ part, parts[number]? = some part → shift number (change part) = part)
    (elsewhere : ∀ place part, place ≠ number → shift place part = part) :
    (parts.modify number change).mapIdx shift = parts := by
  refine List.ext_getElem? fun place => ?_
  simp only [List.getElem?_mapIdx, List.getElem?_modify]
  cases found : parts[place]? with
  | none => rfl
  | some part =>
      by_cases same : number = place
      · subst same
        simp [here part found]
      · simp [same, elsewhere place part (Ne.symm same)]

/-! ### A bridge at rest -/

/-- A bridge that differs from a new one in how often it has subscribed at most. -/
def AtRest (station : Station) (number : Nat) : Prop :=
  station.bridge number =
    { LinkBridge.new (station.bridge number).uri with
      sessions := (station.bridge number).sessions }

theorem bridges_renew (rest : station.AtRest number) :
    ((station.renew number).bridges.mapIdx fun other bridge =>
      bridge.advance (station.madeBy (.link number) (.link other))) = station.bridges := by
  refine mapIdx_modify (fun bridge found => ?_) fun other bridge different => ?_
  · have this : station.bridge number = bridge := by rw [Station.bridge, found]; rfl
    rw [AtRest, this] at rest
    simp only [madeBy, if_true, this]
    conv_rhs => rw [rest]
    simp [LinkBridge.advance, LinkBridge.new]
  · rw [madeBy_other fun same => different (Party.link.inj same), LinkBridge.advance_zero]

theorem alike_renew (consistent : station.Consistent) (rest : station.AtRest number) :
    Alike (station.madeBy (.link number)) station (station.renew number) := by
  have unsubscribed : station.subscriptionOf (.link number) = none := by
    rw [subscriptionOf, rest]
    rfl
  obtain ⟨connected, failed, disconnected, blocks⟩ := registries_advance consistent unsubscribed
  have streams : (station.streams.mapIdx fun other stream =>
      stream.advance (station.madeBy (.link number) (.stream other))) = station.streams :=
    mapIdx_eq_self (fun _ stream => stream.advance_zero) _
  refine ⟨?_, fun other outside => ?_, fun _ _ => rfl⟩
  · rw [advance, bridges_renew rest]
    simp only [renew, updateBridge, connected, failed, disconnected, blocks, streams]
  · rw [madeBy]
    split
    · next same =>
      cases same
      have beyond : station.bridges.length ≤ number := by
        simpa [renew, updateBridge] using outside
      simp only [bridge_outside beyond]
      rfl
    · rfl

theorem Alike.indistinguishable {earlier : Party → Nat} {left right : Station}
    (alike : Alike earlier left right) : left.Indistinguishable right := by
  refine ⟨alike.view, fun links streams commands => ?_⟩
  have consoles : Console.Alike earlier ⟨left, links, streams⟩ ⟨right, links, streams⟩ :=
    ⟨alike, rfl, rfl⟩
  exact consoles.views commands

theorem AtRest.indistinguishable (consistent : station.Consistent) (rest : station.AtRest number) :
    station.Indistinguishable (station.renew number) :=
  (alike_renew consistent rest).indistinguishable

theorem atRest_closeLink (consistent : station.Consistent) (number : Nat) :
    (station.closeLink number).AtRest number := by
  obtain ⟨_, _, closed⟩ := closeLink_passes consistent number
  rw [AtRest, closed]
  rfl

theorem openLink_failed {uri reason : String} (consistent : station.Consistent)
    (inside : number < station.bridges.length)
    (failed : station.openLink number = some (after, .error (.bridge (.linkOpen uri reason)))) :
    after.Consistent ∧ after.AtRest number := by
  cases isOpen : (station.bridge number).isOpen with
  | true =>
      rw [openLink_of_open isOpen] at failed
      cases failed
  | false =>
      obtain ⟨formed, _, ⟨_, succeeded, _⟩ | ⟨_, _, _, left⟩⟩ :=
        openLink_of_closed consistent inside isOpen failed
      · cases succeeded
      · refine ⟨formed, ?_⟩
        rw [AtRest, left]
        rfl

/-! ### The law -/

def callsSince (station earlier : Station) : List Call :=
  (station.since earlier).filterMap Incident.call?

theorem callsSince_closeLink (consistent : station.Consistent) (number : Nat) :
    (station.closeLink number).callsSince station = [.closeLink number] := by
  obtain ⟨_, passes, _⟩ := closeLink_passes consistent number
  rw [callsSince, since_eq passes.history, List.filterMap_cons]
  exact congrArg (_ :: ·) (calledBy_reports station none station.onClose).calls_eq_nil

/-- How a bridge ends an attempt or its use. -/
structure Renewable (station : Station) (number : Nat) : Prop where
  /-- An open bridge is refused, and nothing is called or changed. -/
  refuses : (station.bridge number).isOpen = true →
    station.openLink number = some (station, .error (.phase .alreadyOpen))
  /-- A bridge that fails to open cannot be told from a new one. -/
  fails : ∀ uri reason after,
    station.openLink number = some (after, .error (.bridge (.linkOpen uri reason))) →
    after.Indistinguishable (after.renew number)
  /-- Nor can one that is closed, whatever it was before. -/
  closes : (station.closeLink number).Indistinguishable
    ((station.closeLink number).renew number)
  /-- Closing always closes the link, once. -/
  calls : (station.closeLink number).callsSince station = [.closeLink number]
  /-- Giving up a bridge closes the link, once, if the bridge is open. -/
  drops : (station.dropBridge number).callsSince station =
    if (station.bridge number).isOpen then [.closeLink number] else []

theorem Run.renewable (run : Run log station) (inside : number < station.bridges.length) :
    Renewable station number where
  refuses := openLink_of_open
  fails _ _ _ failed :=
    have ⟨formed, rest⟩ := openLink_failed run.consistent inside failed
    rest.indistinguishable formed
  closes := (atRest_closeLink run.consistent number).indistinguishable
    (closeLink_passes run.consistent number).1
  calls := callsSince_closeLink run.consistent number
  drops := by
    cases isOpen : (station.bridge number).isOpen with
    | true => rw [dropBridge_of_open isOpen, callsSince_closeLink run.consistent]; rfl
    | false =>
        have passes := passes_unsubscribeBridge station number
        rw [dropBridge_of_closed isOpen, callsSince, since_eq passes.history]
        rfl

/-- A bridge that was closed after it had failed to open, and that fails once more. -/
theorem renewable_twice : ∃ log station after, Run log station ∧ 0 < station.bridges.length ∧
    Renewable station 0 ∧
    station.openLink 0 = some (after, .error (.bridge (.linkOpen "usb" "busy"))) ∧
    (after.bridge 0).sessions = 2 ∧ after.Indistinguishable (after.renew 0) := by
  have added : Run _ _ := .step (.step .start (.addBridge "usb"))
    (.onOpen [.failed "busy", .connected])
  have failed : Run _ _ := .step added (.openLink Nat.one_pos rfl)
  have closed : Run _ _ := .step failed (.closeLink Nat.one_pos)
  have renewable := closed.renewable Nat.one_pos
  exact ⟨_, _, _, closed, Nat.one_pos, renewable, rfl, rfl, renewable.fails _ _ _ rfl⟩

end Station

end VehicleLink.Bridge
