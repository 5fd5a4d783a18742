import Mathlib.Data.List.Basic
import Mathlib.Data.Option.Basic
import Mathlib.Logic.Function.Basic
import VehicleLink.Bridge.Console
import VehicleLink.Proofs.Bridge.Operations

/-!
The numbers of subscriptions do not matter. Two stations of which one counts the subscriptions of
its bridges and streams from later numbers on do the same, whatever is done at both.
-/

namespace VehicleLink

namespace Registry

variable {α β : Type}

def map (change : α → β) (registry : Registry α) : Registry β := ⟨registry.entries.map change⟩

theorem size_map (change : α → β) (registry : Registry α) :
    (registry.map change).size = registry.size := List.length_map change

variable [DecidableEq α] [DecidableEq β] {change : α → β}

theorem insert_map (injective : change.Injective) (registry : Registry α) (entry : α) :
    (registry.map change).insert (change entry) = (registry.insert entry).map change := by
  by_cases present : entry ∈ registry.entries
  · simp [insert, map, present, List.mem_map_of_mem]
  · simp [insert, map, present, injective.eq_iff]

theorem remove_map (injective : change.Injective) (registry : Registry α) (entry : α) :
    (registry.map change).remove (change entry) = (registry.remove entry).map change := by
  simp [remove, map, List.filter_map, Function.comp_def, injective.eq_iff]

end Registry

namespace Bridge

/-! ### Later numbers -/

/-- The same callback where each bridge and each stream has subscribed some times before. -/
def Subscriber.advance (earlier : Party → Nat) : Subscriber → Subscriber
  | .link owner session => .link owner (session + earlier (.link owner))
  | .stream owner session => .stream owner (session + earlier (.stream owner))

theorem Subscriber.advance_injective (earlier : Party → Nat) :
    Function.Injective (Subscriber.advance earlier) := by
  rintro (⟨owner, session⟩ | ⟨owner, session⟩) (⟨other, later⟩ | ⟨other, later⟩) same
  · simp only [advance, link.injEq] at same
    obtain ⟨rfl, same⟩ := same
    rw [Nat.add_right_cancel same]
  · cases same
  · cases same
  · simp only [advance, stream.injEq] at same
    obtain ⟨rfl, same⟩ := same
    rw [Nat.add_right_cancel same]

def LinkBridge.advance (earlier : Nat) (bridge : LinkBridge) : LinkBridge :=
  { bridge with
    sessions := bridge.sessions + earlier
    lifecycle := bridge.lifecycle.map (· + earlier) }

theorem LinkBridge.advance_zero (bridge : LinkBridge) : bridge.advance 0 = bridge := by
  simp [advance]

theorem LinkBridge.decide_advance (outcome : Except String Unit) (earlier : Nat)
    (bridge : LinkBridge) :
    (bridge.advance earlier).decide outcome = (bridge.decide outcome).advance earlier := by
  have attempt : (bridge.advance earlier).attempt = bridge.attempt := rfl
  unfold LinkBridge.decide
  rw [attempt]
  cases bridge.attempt <;> rfl

def LogStream.advance (earlier : Nat) (stream : LogStream) : LogStream :=
  { stream with
    sessions := stream.sessions + earlier
    subscription := stream.subscription.map (· + earlier) }

theorem LogStream.advance_zero (stream : LogStream) : stream.advance 0 = stream := by
  simp [advance]

theorem LogStream.accept_advance (entry : Entry) (earlier : Nat) (stream : LogStream) :
    (stream.advance earlier).accept entry = (stream.accept entry).advance earlier := by
  have accepting : (stream.advance earlier).accepting = stream.accepting := rfl
  unfold accept
  rw [accepting]
  split <;> rfl

def Block.advance (earlier : Party → Nat) (block : Block) : Block :=
  { block with receivers := block.receivers.map (.advance earlier) }

namespace Station

variable {earlier : Party → Nat} {left right : Station} {number : Nat}

def advance (earlier : Party → Nat) (station : Station) : Station :=
  { station with
    connected := station.connected.map (.advance earlier)
    failed := station.failed.map (.advance earlier)
    disconnected := station.disconnected.map (.advance earlier)
    bridges := station.bridges.mapIdx fun number bridge => bridge.advance (earlier (.link number))
    streams := station.streams.mapIdx fun number stream => stream.advance (earlier (.stream number))
    blocks := station.blocks.map (.advance earlier) }

/-- Two stations that differ in the numbers of subscriptions alone. A bridge or stream that is still
to be added counts from the first number on in both. -/
structure Alike (earlier : Party → Nat) (left right : Station) : Prop where
  advanced : left = right.advance earlier
  freshLink : ∀ number, right.bridges.length ≤ number → earlier (.link number) = 0
  freshStream : ∀ number, right.streams.length ≤ number → earlier (.stream number) = 0

namespace Alike

theorem bridge (alike : Alike earlier left right) (number : Nat) :
    left.bridge number = (right.bridge number).advance (earlier (.link number)) := by
  rw [alike.advanced, Station.bridge, Station.bridge, advance, List.getElem?_mapIdx]
  by_cases inside : number < right.bridges.length
  · simp [inside]
  · have outside := Nat.le_of_not_lt inside
    simp [alike.freshLink number outside, LinkBridge.advance_zero, outside]

theorem stream (alike : Alike earlier left right) (number : Nat) :
    left.stream number = (right.stream number).advance (earlier (.stream number)) := by
  rw [alike.advanced, Station.stream, Station.stream, advance, List.getElem?_mapIdx]
  by_cases inside : number < right.streams.length
  · simp [inside]
  · have outside := Nat.le_of_not_lt inside
    simp [alike.freshStream number outside, LogStream.advance_zero, outside]

theorem block (alike : Alike earlier left right) (number : Nat) :
    left.block number = (right.block number).advance earlier := by
  rw [alike.advanced, Station.block, Station.block, advance, List.getElem?_map]
  cases right.blocks[number]? <;> rfl

theorem isOpen (alike : Alike earlier left right) (number : Nat) :
    (left.bridge number).isOpen = (right.bridge number).isOpen := by
  rw [alike.bridge]
  rfl

theorem uri (alike : Alike earlier left right) (number : Nat) :
    (left.bridge number).uri = (right.bridge number).uri := by
  rw [alike.bridge]
  rfl

theorem attempt (alike : Alike earlier left right) (number : Nat) :
    (left.bridge number).attempt = (right.bridge number).attempt := by
  rw [alike.bridge]
  rfl

/-! ### Changes -/

theorem modify_mapIdx {Part : Type} (shift : Nat → Part → Part) {number : Nat}
    {change other : Part → Part}
    (same : ∀ part, change (shift number part) = shift number (other part)) (parts : List Part) :
    (parts.mapIdx shift).modify number change = (parts.modify number other).mapIdx shift := by
  refine List.ext_getElem? fun place => ?_
  simp only [List.getElem?_modify, List.getElem?_mapIdx]
  by_cases here : number = place
  · subst here
    cases parts[number]? <;> simp [same]
  · cases parts[place]? <;> simp [here]

/-- A change that neither depends on the numbers nor adds a bridge or a stream. -/
theorem change (alike : Alike earlier left right) (change : Station → Station)
    (same : ∀ station : Station,
      change (station.advance earlier) = (change station).advance earlier)
    (kept : ∀ station : Station, (change station).bridges.length = station.bridges.length ∧
      (change station).streams.length = station.streams.length) :
    Alike earlier (change left) (change right) where
  advanced := by rw [alike.advanced, same]
  freshLink number outside := alike.freshLink number (by rwa [(kept right).1] at outside)
  freshStream number outside := alike.freshStream number (by rwa [(kept right).2] at outside)

theorem record (alike : Alike earlier left right) (incident : Incident) :
    Alike earlier (left.record incident) (right.record incident) :=
  alike.change (·.record incident) (fun _ => rfl) fun _ => ⟨rfl, rfl⟩

theorem updateBridge (alike : Alike earlier left right) (number : Nat)
    {change other : LinkBridge → LinkBridge}
    (same : ∀ bridge : LinkBridge, change (bridge.advance (earlier (.link number))) =
      (other bridge).advance (earlier (.link number))) :
    Alike earlier (left.updateBridge number change) (right.updateBridge number other) := by
  refine ⟨?_, fun place outside => ?_, alike.freshStream⟩
  · have bridges := modify_mapIdx (fun number bridge =>
      LinkBridge.advance (earlier (.link number)) bridge) same right.bridges
    rw [alike.advanced]
    simp only [Station.updateBridge, advance, bridges]
  · exact alike.freshLink place (by simpa [Station.updateBridge] using outside)

theorem updateStream (alike : Alike earlier left right) (number : Nat)
    {change other : LogStream → LogStream}
    (same : ∀ stream : LogStream, change (stream.advance (earlier (.stream number))) =
      (other stream).advance (earlier (.stream number))) :
    Alike earlier (left.updateStream number change) (right.updateStream number other) := by
  refine ⟨?_, alike.freshLink, fun place outside => ?_⟩
  · have streams := modify_mapIdx (fun number stream =>
      LogStream.advance (earlier (.stream number)) stream) same right.streams
    rw [alike.advanced]
    simp only [Station.updateStream, advance, streams]
  · exact alike.freshStream place (by simpa [Station.updateStream] using outside)

theorem updateBlock (alike : Alike earlier left right) (number : Nat)
    {change other : Block → Block}
    (same : ∀ block : Block, change (block.advance earlier) = (other block).advance earlier) :
    Alike earlier (left.updateBlock number change) (right.updateBlock number other) := by
  refine ⟨?_, alike.freshLink, alike.freshStream⟩
  have blocks : (right.blocks.map (Block.advance earlier)).modify number change =
      (right.blocks.modify number other).map (Block.advance earlier) := by
    refine List.ext_getElem? fun place => ?_
    simp only [List.getElem?_modify, List.getElem?_map]
    by_cases here : number = place
    · subst here
      cases right.blocks[number]? <;> simp [same]
    · cases right.blocks[place]? <;> simp [here]
  rw [alike.advanced]
  simp only [Station.updateBlock, advance, blocks]

/-! ### Subscriptions -/

theorem changeRegistries (alike : Alike earlier left right)
    (change other : Registry Subscriber → Registry Subscriber)
    (same : ∀ registry : Registry Subscriber,
      change (registry.map (.advance earlier)) = (other registry).map (.advance earlier)) :
    Alike earlier
      { left with
        connected := change left.connected
        failed := change left.failed
        disconnected := change left.disconnected }
      { right with
        connected := other right.connected
        failed := other right.failed
        disconnected := other right.disconnected } := by
  refine ⟨?_, alike.freshLink, alike.freshStream⟩
  rw [alike.advanced]
  simp only [advance, same]

theorem changeDisconnected (alike : Alike earlier left right)
    (change other : Registry Subscriber → Registry Subscriber)
    (same : ∀ registry : Registry Subscriber,
      change (registry.map (.advance earlier)) = (other registry).map (.advance earlier)) :
    Alike earlier { left with disconnected := change left.disconnected }
      { right with disconnected := other right.disconnected } := by
  refine ⟨?_, alike.freshLink, alike.freshStream⟩
  rw [alike.advanced]
  simp only [advance, same]

theorem unsubscribeBridge (alike : Alike earlier left right) (number : Nat) :
    Alike earlier (left.unsubscribeBridge number) (right.unsubscribeBridge number) := by
  have held := congrArg LinkBridge.lifecycle (alike.bridge number)
  cases lifecycle : (right.bridge number).lifecycle with
  | none =>
      simp only [LinkBridge.advance, lifecycle, Option.map_none] at held
      simp only [Station.unsubscribeBridge, held, lifecycle]
      exact alike
  | some session =>
      simp only [LinkBridge.advance, lifecycle, Option.map_some] at held
      simp only [Station.unsubscribeBridge, held, lifecycle]
      have removed (registry : Registry Subscriber) :=
        registry.remove_map (Subscriber.advance_injective earlier) (.link number session)
      exact (alike.changeRegistries (·.remove (.link number (session + earlier (.link number))))
        (·.remove (.link number session)) removed).updateBridge number fun _ => rfl

theorem subscribeBridge (alike : Alike earlier left right) (number : Nat) :
    Alike earlier (left.subscribeBridge number) (right.subscribeBridge number) := by
  have freed := alike.unsubscribeBridge number
  have sessions : ((left.unsubscribeBridge number).bridge number).sessions =
      ((right.unsubscribeBridge number).bridge number).sessions + earlier (.link number) :=
    congrArg LinkBridge.sessions (freed.bridge number)
  simp only [Station.subscribeBridge, sessions]
  generalize ((right.unsubscribeBridge number).bridge number).sessions = session
  have inserted (registry : Registry Subscriber) :=
    registry.insert_map (Subscriber.advance_injective earlier) (.link number session)
  refine (freed.changeRegistries (·.insert (.link number (session + earlier (.link number))))
    (·.insert (.link number session)) inserted).updateBridge number fun bridge => ?_
  simp [LinkBridge.advance, Nat.add_right_comm]

theorem releaseStream (alike : Alike earlier left right) (number : Nat) :
    Alike earlier (left.releaseStream number) (right.releaseStream number) := by
  simp only [Station.releaseStream, alike.stream number]
  refine Alike.updateStream ?_ number fun _ => rfl
  cases held : (right.stream number).subscription with
  | none =>
      simp only [LogStream.advance, held, Option.map_none]
      exact alike
  | some session =>
      have removed (registry : Registry Subscriber) :=
        registry.remove_map (Subscriber.advance_injective earlier) (.stream number session)
      simp only [LogStream.advance, held, Option.map_some]
      refine (alike.changeDisconnected (·.remove (.stream number (session + earlier (.stream number))))
        (·.remove (.stream number session)) removed).updateBlock _ fun block => ?_
      exact congrArg (Block.mk _ · _ _ _) (removed block.receivers)

theorem subscribeStream (alike : Alike earlier left right) (number : Nat) :
    Alike earlier (left.subscribeStream number) (right.subscribeStream number) := by
  simp only [Station.subscribeStream, alike.stream number, LogStream.advance]
  generalize (right.stream number).sessions = session
  have inserted (registry : Registry Subscriber) :=
    registry.insert_map (Subscriber.advance_injective earlier) (.stream number session)
  refine ((alike.changeDisconnected (·.insert (.stream number (session + earlier (.stream number))))
    (·.insert (.stream number session)) inserted).updateBlock _ fun block => ?_).updateStream
      number fun stream => ?_
  · exact congrArg (Block.mk _ · _ _ _) (inserted block.receivers)
  · simp [LogStream.advance, Nat.add_right_comm]

/-! ### Reports -/

theorem foldl {callback : Station → Subscriber → Station}
    (each : ∀ {left right : Station} subscriber, Alike earlier left right →
      Alike earlier (callback left (subscriber.advance earlier)) (callback right subscriber))
    (alike : Alike earlier left right) (registry : Registry Subscriber) :
    Alike earlier ((registry.map (.advance earlier)).entries.foldl callback left)
      (registry.entries.foldl callback right) := by
  obtain ⟨subscribers⟩ := registry
  induction subscribers generalizing left right with
  | nil => exact alike
  | cons subscriber rest ih => exact ih (each subscriber alike)

theorem decideAttempt (outcome : Except String Unit) (subscriber : Subscriber)
    (alike : Alike earlier left right) :
    Alike earlier (left.decideAttempt outcome (subscriber.advance earlier))
      (right.decideAttempt outcome subscriber) := by
  cases subscriber with
  | link owner session =>
      exact alike.updateBridge owner (LinkBridge.decide_advance outcome (earlier (.link owner)))
  | stream => exact alike

theorem loseLink (subscriber : Subscriber) (alike : Alike earlier left right) :
    Alike earlier (left.loseLink (subscriber.advance earlier)) (right.loseLink subscriber) := by
  cases subscriber with
  | link owner session =>
      exact (alike.updateBridge owner fun bridge => LinkBridge.decide_advance _
        (earlier (.link owner)) { bridge with isOpen := false }).unsubscribeBridge owner
  | stream owner session => exact alike.updateStream owner fun _ => rfl

theorem queueSample (entry : Entry) (subscriber : Subscriber) (alike : Alike earlier left right) :
    Alike earlier (left.queueSample entry (subscriber.advance earlier))
      (right.queueSample entry subscriber) := by
  cases subscriber with
  | link => exact alike
  | stream owner session =>
      exact alike.updateStream owner (LogStream.accept_advance entry (earlier (.stream owner)))

theorem fire (alike : Alike earlier left right) (event : Event) :
    Alike earlier (left.fire event) (right.fire event) := by
  have advanced := alike.advanced
  cases event with
  | connected =>
      have subscribers : left.connected = right.connected.map (.advance earlier) := by
        rw [advanced]; rfl
      simp only [Station.fire, subscribers]
      exact foldl (decideAttempt (.ok ())) (alike.record .connected) right.connected
  | failed reason =>
      have subscribers : left.failed = right.failed.map (.advance earlier) := by rw [advanced]; rfl
      simp only [Station.fire, subscribers]
      exact foldl (decideAttempt (.error reason)) (alike.record (.failed reason)) right.failed
  | disconnected =>
      have subscribers : left.disconnected = right.disconnected.map (.advance earlier) := by
        rw [advanced]; rfl
      simp only [Station.fire, subscribers]
      exact foldl loseLink (alike.record .disconnected) right.disconnected
  | sample name timestamp values =>
      have names : left.blockNames = right.blockNames := by rw [advanced]; rfl
      simp only [Station.fire, names]
      cases right.blockNames.lookup name with
      | none => exact alike
      | some number =>
          simp only [alike.block number]
          exact foldl (queueSample _) (alike.record _) (right.block number).receivers

theorem fireAll (alike : Alike earlier left right) (events : List Event) :
    Alike earlier (left.fireAll events) (right.fireAll events) := by
  induction events generalizing left right with
  | nil => exact alike
  | cons event rest ih => exact ih (alike.fire event)

theorem call_fireAll (alike : Alike earlier left right) (call : Call) (events : List Event) :
    Alike earlier ((left.call call).fireAll events) ((right.call call).fireAll events) :=
  (alike.record (.called call)).fireAll events

/-! ### Operations -/

/-- Neither operation has a result, or both have the same and the stations are alike after it. -/
def Results (earlier : Party → Nat) {Result : Type} (left right : Option (Station × Result)) : Prop :=
  left = none ∧ right = none ∨ ∃ after other result, left = some (after, result) ∧
    right = some (other, result) ∧ Alike earlier after other

theorem result {Result : Type} (alike : Alike earlier left right) (result : Result) :
    Results earlier (some (left, result)) (some (right, result)) :=
  .inr ⟨left, right, result, rfl, rfl, alike⟩

theorem attempted (alike : Alike earlier left right) (number : Nat) :
    Alike earlier (left.attempted number) (right.attempted number) := by
  have waiting : Alike earlier (left.updateBridge number ({ · with attempt := .waiting }))
      (right.updateBridge number ({ · with attempt := .waiting })) :=
    alike.updateBridge number fun _ => rfl
  have subscribed := waiting.subscribeBridge number
  have reports := congrArg Station.onOpen subscribed.advanced
  have called := subscribed.call_fireAll (.openLink number (right.bridge number).uri)
    ((right.updateBridge number ({ · with attempt := .waiting })).subscribeBridge number).onOpen
  simp only [Station.attempted, alike.uri number, reports]
  exact called

theorem settled (alike : Alike earlier left right) (number : Nat) :
    Alike earlier (left.settled number) (right.settled number) :=
  (alike.attempted number).updateBridge number fun _ => rfl

theorem openLink (alike : Alike earlier left right) (number : Nat) :
    Results earlier (left.openLink number) (right.openLink number) := by
  cases isOpen : (right.bridge number).isOpen with
  | true =>
      rw [openLink_of_open isOpen, openLink_of_open (isOpen ▸ alike.isOpen number)]
      exact alike.result _
  | false =>
      have settled := alike.settled number
      rw [openLink_eq isOpen, openLink_eq (isOpen ▸ alike.isOpen number),
        (alike.attempted number).attempt number, alike.uri number]
      cases ((right.attempted number).bridge number).attempt with
      | waiting => exact .inl ⟨rfl, rfl⟩
      | none => exact (settled.unsubscribeBridge number).result _
      | decided outcome =>
          cases outcome with
          | ok =>
              have opened : Alike earlier
                  ((left.settled number).updateBridge number ({ · with isOpen := true }))
                  ((right.settled number).updateBridge number ({ · with isOpen := true })) :=
                settled.updateBridge number fun _ => rfl
              exact opened.result _
          | error reason => exact (settled.unsubscribeBridge number).result _

theorem closeLink (alike : Alike earlier left right) (number : Nat) :
    Alike earlier (left.closeLink number) (right.closeLink number) := by
  have reports : left.onClose = right.onClose := by rw [alike.advanced]; rfl
  simp only [Station.closeLink, reports]
  exact ((alike.call_fireAll _ _).unsubscribeBridge number).updateBridge number fun _ => rfl

theorem dropBridge (alike : Alike earlier left right) (number : Nat) :
    Alike earlier (left.dropBridge number) (right.dropBridge number) := by
  simp only [Station.dropBridge, alike.isOpen number]
  split
  · exact alike.closeLink number
  · exact alike.unsubscribeBridge number

theorem script (alike : Alike earlier left right) (number : Nat) :
    (left.block (left.stream number).block).script =
      (right.block (right.stream number).block).script := by
  rw [alike.stream, alike.block]
  rfl

theorem isConnected (alike : Alike earlier left right) (number : Nat) :
    (left.stream number).isConnected = (right.stream number).isConnected := by
  rw [alike.stream]
  rfl

theorem registered (alike : Alike earlier left right) (number : Nat) :
    Alike earlier (left.registered number) (right.registered number) := by
  have name : left.blockName number = right.blockName number :=
    (Block.eq_of_script (alike.script number)).1
  simp only [Station.registered, name]
  exact (alike.releaseStream number).record _

theorem started (alike : Alike earlier left right) (number : Nat) :
    Alike earlier (left.started number) (right.started number) := by
  obtain ⟨name, onStart, _, _⟩ := Block.eq_of_script (alike.script number)
  simp only [Station.started, Station.blockName, name, onStart]
  exact ((alike.registered number).subscribeStream number).call_fireAll _ _

theorem connectStream (alike : Alike earlier left right) (number : Nat) :
    Alike earlier (left.connectStream number).1 (right.connectStream number).1 ∧
      (left.connectStream number).2 = (right.connectStream number).2 := by
  have same := alike.isConnected number
  cases connected : (right.stream number).isConnected with
  | true =>
      rw [connectStream_of_connected connected, connectStream_of_connected (same.trans connected)]
      exact ⟨alike, rfl⟩
  | false =>
      have rejection : left.rejection = right.rejection := by rw [alike.advanced]; rfl
      rw [connectStream_eq connected, connectStream_eq (same.trans connected), rejection]
      cases right.rejection with
      | some reason => exact ⟨alike.registered number, rfl⟩
      | none => exact ⟨(alike.started number).updateStream number fun _ => rfl, rfl⟩

theorem disconnectStream (alike : Alike earlier left right) (number : Nat) :
    Alike earlier (left.disconnectStream number) (right.disconnectStream number) := by
  simp only [Station.disconnectStream, alike.stream number, alike.block, Block.advance,
    LogStream.advance]
  refine Alike.releaseStream ?_ number
  split
  · have idle : Alike earlier (left.updateStream number ({ · with isConnected := false }))
        (right.updateStream number ({ · with isConnected := false })) :=
      alike.updateStream number fun _ => rfl
    exact (idle.call_fireAll _ _).call_fireAll _ _
  · exact alike

theorem nextEntry (alike : Alike earlier left right) (number : Nat) :
    Results earlier (left.nextEntry number) (right.nextEntry number) := by
  simp only [Station.nextEntry, alike.stream number, LogStream.advance]
  split
  · split
    · refine Alike.result (alike.updateStream number ?_) _
      exact fun _ => rfl
    · split
      · exact .inl ⟨rfl, rfl⟩
      · refine Alike.result (alike.updateStream number ?_) _
        exact fun _ => rfl
  · exact alike.result _

theorem nextWhile (alike : Alike earlier left right) (number : Nat) (events : List Event) :
    Results earlier (left.nextWhile number events) (right.nextWhile number events) := by
  unfold Station.nextWhile
  rcases alike.nextEntry number with ⟨waits, still⟩ | ⟨after, other, entry, taken, same, taking⟩
  · rw [waits, still]
    exact (alike.fireAll events).nextEntry number
  · rw [taken, same]
    exact (taking.fireAll events).result entry

theorem takeEntries (alike : Alike earlier left right) (number count : Nat) :
    Results earlier (left.takeEntries number count) (right.takeEntries number count) := by
  induction count generalizing left right with
  | zero => exact alike.result _
  | succ count ih =>
      unfold Station.takeEntries
      rcases alike.nextEntry number with ⟨waits, still⟩ | ⟨after, other, entry, taken, same, taking⟩
      · rw [waits, still]
        exact .inl ⟨rfl, rfl⟩
      · rw [taken, same]
        cases entry with
        | none => exact taking.result _
        | some entry =>
            rcases ih taking with ⟨waits, still⟩ | ⟨after, other, entries, taken, same, alike⟩
            · simp only [waits, still, Option.map_none]
              exact .inl ⟨rfl, rfl⟩
            · simp only [taken, same, Option.map_some]
              exact alike.result _

/-! ### Additions -/

theorem addBridge (alike : Alike earlier left right) (uri : String) :
    Alike earlier { left with bridges := left.bridges ++ [.new uri] }
      { right with bridges := right.bridges ++ [.new uri] } := by
  refine ⟨?_, fun number outside => ?_, alike.freshStream⟩
  · have first := alike.freshLink right.bridges.length (Nat.le_refl _)
    have added : (right.bridges.mapIdx fun number bridge =>
          bridge.advance (earlier (.link number))) ++ [LinkBridge.new uri] =
        (right.bridges ++ [LinkBridge.new uri]).mapIdx fun number bridge =>
          bridge.advance (earlier (.link number)) := by
      rw [List.mapIdx_concat, first, LinkBridge.advance_zero]
    rw [alike.advanced]
    simp only [advance, added]
  · exact alike.freshLink number (Nat.le_of_succ_le (by simpa using outside))

theorem addStream (alike : Alike earlier left right) (block : Nat) :
    Alike earlier { left with streams := left.streams ++ [.new block] }
      { right with streams := right.streams ++ [.new block] } := by
  refine ⟨?_, alike.freshLink, fun number outside => ?_⟩
  · have first := alike.freshStream right.streams.length (Nat.le_refl _)
    have added : (right.streams.mapIdx fun number stream =>
          stream.advance (earlier (.stream number))) ++ [LogStream.new block] =
        (right.streams ++ [LogStream.new block]).mapIdx fun number stream =>
          stream.advance (earlier (.stream number)) := by
      rw [List.mapIdx_concat, first, LogStream.advance_zero]
    rw [alike.advanced]
    simp only [advance, added]
  · exact alike.freshStream number (Nat.le_of_succ_le (by simpa using outside))

theorem addBlock (alike : Alike earlier left right) (title name : String)
    (onStart onStop onDelete : List Event) :
    Alike earlier
      { left with
        blocks := left.blocks ++ [⟨title, .empty, onStart, onStop, onDelete⟩]
        blockNames := Console.bind left.blockNames name left.blocks.length }
      { right with
        blocks := right.blocks ++ [⟨title, .empty, onStart, onStop, onDelete⟩]
        blockNames := Console.bind right.blockNames name right.blocks.length } := by
  refine ⟨?_, alike.freshLink, alike.freshStream⟩
  rw [alike.advanced]
  simp only [advance, List.map_append, List.length_map]
  rfl

end Alike

end Station

namespace Console

open Station

variable {earlier : Party → Nat} {left right : Console}

/-! ### Consoles -/

/-- Two consoles with the same names, the stations of which differ in the numbers of subscriptions
alone. -/
structure Alike (earlier : Party → Nat) (left right : Console) : Prop where
  station : Station.Alike earlier left.station right.station
  links : left.links = right.links
  streams : left.streams = right.streams

/-- Neither command has an answer, for the same reason, or both have the same and the consoles are
alike after it. -/
def Answers (earlier : Party → Nat) (left right : Except Stuck (Console × Answer)) : Prop :=
  (∃ stuck, left = .error stuck ∧ right = .error stuck) ∨ ∃ after other answer,
    left = .ok (after, answer) ∧ right = .ok (other, answer) ∧ Alike earlier after other

theorem Answers.bind {Value : Type} (found : Except Stuck Value)
    {first second : Value → Except Stuck (Console × Answer)}
    (rest : ∀ value, Answers earlier (first value) (second value)) :
    Answers earlier (found >>= first) (found >>= second) := by
  cases found with
  | error stuck => exact .inl ⟨stuck, rfl, rfl⟩
  | ok value => exact rest value

namespace Alike

theorem answer (alike : Alike earlier left right) (answer : Answer) :
    Answers earlier (.ok (left, answer)) (.ok (right, answer)) :=
  .inr ⟨left, right, answer, rfl, rfl, alike⟩

theorem withStation (alike : Alike earlier left right) {after other : Station}
    (station : Station.Alike earlier after other) :
    Alike earlier (left.withStation after) (right.withStation other) :=
  ⟨station, alike.links, alike.streams⟩

theorem addLink (alike : Alike earlier left right) (name uri : String) :
    Alike earlier (left.addLink name uri) (right.addLink name uri) := by
  have added := alike.station.addBridge uri
  have number : left.station.bridges.length = right.station.bridges.length := by
    rw [alike.station.advanced]
    exact List.length_mapIdx
  refine ⟨?_, ?_, alike.streams⟩
  · simp only [Console.addLink, alike.links]
    cases right.links.lookup name with
    | none => exact added
    | some old => exact added.dropBridge old
  · simp only [Console.addLink, alike.links, number]

theorem addStream (alike : Alike earlier left right) (name : String) (block : Nat) :
    Alike earlier (left.addStream name block) (right.addStream name block) := by
  have added := alike.station.addStream block
  have number : left.station.streams.length = right.station.streams.length := by
    rw [alike.station.advanced]
    exact List.length_mapIdx
  refine ⟨?_, alike.links, ?_⟩
  · simp only [Console.addStream, alike.streams]
    cases right.streams.lookup name with
    | none => exact added
    | some old => exact added.disconnectStream old
  · simp only [Console.addStream, alike.streams, number]

theorem removeLink (alike : Alike earlier left right) (name : String) :
    Alike earlier (left.removeLink name) (right.removeLink name) := by
  simp only [Console.removeLink, alike.links]
  cases right.links.lookup name with
  | none => exact alike
  | some number => exact ⟨alike.station.dropBridge number, rfl, alike.streams⟩

theorem removeStream (alike : Alike earlier left right) (name : String) :
    Alike earlier (left.removeStream name) (right.removeStream name) := by
  simp only [Console.removeStream, alike.streams]
  cases right.streams.lookup name with
  | none => exact alike
  | some number => exact ⟨alike.station.disconnectStream number, alike.links, rfl⟩

theorem perform (alike : Alike earlier left right) (command : Command) :
    Answers earlier (left.perform command) (right.perform command) := by
  have station := alike.station
  cases command with
  | onOpen events =>
      have arranged :=
        station.change ({ · with onOpen := events }) (fun _ => rfl) fun _ => ⟨rfl, rfl⟩
      exact (alike.withStation arranged).answer _
  | onClose events =>
      have arranged :=
        station.change ({ · with onClose := events }) (fun _ => rfl) fun _ => ⟨rfl, rfl⟩
      exact (alike.withStation arranged).answer _
  | reject reason =>
      have arranged :=
        station.change ({ · with rejection := reason }) (fun _ => rfl) fun _ => ⟨rfl, rfl⟩
      exact (alike.withStation arranged).answer _
  | fire event => exact (alike.withStation (station.fire event)).answer _
  | block name title onStart onStop onDelete =>
      exact (alike.withStation (station.addBlock title name onStart onStop onDelete)).answer _
  | onBlock number onStart onStop onDelete =>
      have arranged : Station.Alike earlier
          (left.station.updateBlock number (·.reporting onStart onStop onDelete))
          (right.station.updateBlock number (·.reporting onStart onStop onDelete)) :=
        station.updateBlock number fun _ => rfl
      exact (alike.withStation arranged).answer _
  | link name uri => exact (alike.addLink name uri).answer _
  | openLink name =>
      simp only [Console.perform, alike.links]
      refine .bind _ fun number => ?_
      rcases station.openLink number with
        ⟨waits, still⟩ | ⟨after, other, outcome, opened, same, opening⟩
      · rw [waits, still]
        exact .inl ⟨_, rfl, rfl⟩
      · rw [opened, same]
        exact (alike.withStation opening).answer _
  | closeLink name =>
      simp only [Console.perform, alike.links]
      exact .bind _ fun number => (alike.withStation (station.closeLink number)).answer _
  | uri name =>
      simp only [Console.perform, alike.links, station.uri]
      exact .bind _ fun number => alike.answer _
  | describeLink name =>
      simp only [Console.perform, alike.links, station.bridge]
      exact .bind _ fun number => alike.answer _
  | dropLink name => exact (alike.removeLink name).answer _
  | stream name block =>
      have names : left.station.blockNames = right.station.blockNames := by
        rw [station.advanced]; rfl
      simp only [Console.perform, names]
      exact .bind _ fun number => (alike.addStream name number).answer _
  | connect name =>
      simp only [Console.perform, alike.streams]
      refine .bind _ fun number => ?_
      obtain ⟨connecting, outcome⟩ := station.connectStream number
      rw [outcome]
      exact (alike.withStation connecting).answer _
  | disconnect name =>
      simp only [Console.perform, alike.streams]
      exact .bind _ fun number => (alike.withStation (station.disconnectStream number)).answer _
  | next name meanwhile =>
      simp only [Console.perform, alike.streams]
      refine .bind _ fun number => ?_
      rcases station.nextWhile number meanwhile.toList with
        ⟨waits, still⟩ | ⟨after, other, entry, taken, same, taking⟩
      · rw [waits, still]
        exact .inl ⟨_, rfl, rfl⟩
      · rw [taken, same]
        exact (alike.withStation taking).answer _
  | take name count =>
      simp only [Console.perform, alike.streams]
      refine .bind _ fun number => ?_
      rcases station.takeEntries number count with
        ⟨waits, still⟩ | ⟨after, other, entries, taken, same, taking⟩
      · rw [waits, still]
        exact .inl ⟨_, rfl, rfl⟩
      · rw [taken, same]
        exact (alike.withStation taking).answer _
  | describeStream name =>
      simp only [Console.perform, alike.streams, station.stream, station.block]
      exact .bind _ fun number => alike.answer _
  | dropStream name => exact (alike.removeStream name).answer _

theorem callsSince {before first : Console} (alike : Alike earlier left right)
    (earliest : Alike earlier before first) : left.callsSince before = right.callsSince first := by
  have history : left.station.history = right.station.history := by
    rw [alike.station.advanced]; rfl
  have past : before.station.history = first.station.history := by
    rw [earliest.station.advanced]; rfl
  simp only [Console.callsSince, history, past]

end Alike

end Console

end Bridge

end VehicleLink
