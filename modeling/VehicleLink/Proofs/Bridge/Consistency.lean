import VehicleLink.Bridge.Station

/-!
Which callbacks the registries of a station hold. A bridge is subscribed to all three events or to
none, a log stream to its block and to the loss of the link or to neither, and nothing else is
subscribed; every operation keeps it so.
-/

namespace VehicleLink

namespace Registry

variable {α : Type} {registry : Registry α} {kind : α → Prop}

/-- The entries are all those of a kind, each once. -/
structure Lists (registry : Registry α) (kind : α → Prop) : Prop where
  nodup : registry.entries.Nodup
  mem_iff : ∀ entry, entry ∈ registry.entries ↔ kind entry

theorem Lists.congr {other : α → Prop} (lists : registry.Lists kind)
    (same : ∀ entry, kind entry ↔ other entry) : registry.Lists other :=
  ⟨lists.nodup, fun entry => (lists.mem_iff entry).trans (same entry)⟩

theorem Lists.empty (none : ∀ entry, ¬ kind entry) : (Registry.empty : Registry α).Lists kind :=
  ⟨List.nodup_nil, fun entry => iff_of_false List.not_mem_nil (none entry)⟩

/-- Where at most one entry can be of a second kind, choosing by it finds that entry. -/
theorem Lists.filter_eq_toList {chosen : α → Bool} {only : Option α} (lists : registry.Lists kind)
    (unique : ∀ entry, kind entry ∧ chosen entry = true ↔ entry ∈ only) :
    registry.entries.filter chosen = only.toList := by
  have members : ∀ entry, entry ∈ registry.entries.filter chosen ↔ entry ∈ only := by
    intro entry
    rw [List.mem_filter, lists.mem_iff]
    exact unique entry
  have nodup := lists.nodup.filter chosen
  cases only with
  | none => exact List.eq_nil_iff_forall_not_mem.mpr fun entry => by simp [members]
  | some entry =>
      apply List.perm_singleton.mp
      refine (List.perm_ext_iff_of_nodup nodup (List.pairwise_singleton _ entry)).mpr fun other => ?_
      rw [members, Option.mem_some, List.mem_singleton, eq_comm]

variable [DecidableEq α]

theorem Lists.insert (lists : registry.Lists kind) (entry : α) :
    (registry.insert entry).Lists fun other => kind other ∨ other = entry :=
  ⟨nodup_insert lists.nodup, fun other => mem_insert.trans (or_congr_left (lists.mem_iff other))⟩

theorem Lists.remove (lists : registry.Lists kind) (entry : α) :
    (registry.remove entry).Lists fun other => kind other ∧ other ≠ entry :=
  ⟨nodup_remove lists.nodup, fun other => mem_remove.trans (and_congr_left' (lists.mem_iff other))⟩

end Registry

namespace Bridge

namespace Subscriber

def isLink (number : Nat) : Subscriber → Bool
  | .link owner _ => number = owner
  | .stream .. => false

def isStream (number : Nat) : Subscriber → Bool
  | .link .. => false
  | .stream owner _ => number = owner

end Subscriber

/-! ### What subscribing does to the bridge or stream itself -/

def LinkBridge.release (bridge : LinkBridge) : LinkBridge := { bridge with lifecycle := none }

def LinkBridge.enroll (bridge : LinkBridge) : LinkBridge :=
  { bridge with sessions := bridge.sessions + 1, lifecycle := some bridge.sessions }

def LogStream.release (stream : LogStream) : LogStream :=
  { stream with subscription := none, accepting := false, queue := [] }

def LogStream.enroll (stream : LogStream) : LogStream :=
  { stream with
    sessions := stream.sessions + 1
    subscription := some stream.sessions
    accepting := true
    queue := [] }

namespace Station

variable {station : Station} {number other : Nat}

def awaitsOutcome (station : Station) : Subscriber → Prop
  | .link number session => (station.bridge number).lifecycle = some session
  | .stream .. => False

def awaitsLoss (station : Station) : Subscriber → Prop
  | .link number session => (station.bridge number).lifecycle = some session
  | .stream number session => (station.stream number).subscription = some session

def awaitsSamples (station : Station) (block : Nat) : Subscriber → Prop
  | .link .. => False
  | .stream number session =>
      (station.stream number).block = block ∧ (station.stream number).subscription = some session

/-- The registries hold the subscriptions that bridges and streams hold themselves. -/
structure Consistent (station : Station) : Prop where
  connected : station.connected.Lists station.awaitsOutcome
  failed : station.failed.Lists station.awaitsOutcome
  disconnected : station.disconnected.Lists station.awaitsLoss
  receivers : ∀ number, (station.block number).receivers.Lists (station.awaitsSamples number)
  onBlocks : ∀ number, number < station.streams.length →
    (station.stream number).block < station.blocks.length

theorem consistent_empty : Consistent .empty where
  connected := Registry.Lists.empty fun subscriber => by cases subscriber <;> exact nofun
  failed := Registry.Lists.empty fun subscriber => by cases subscriber <;> exact nofun
  disconnected := Registry.Lists.empty fun subscriber => by cases subscriber <;> exact nofun
  receivers := fun _ => Registry.Lists.empty fun subscriber => by
    cases subscriber with
    | link => exact nofun
    | stream => exact fun awaited => nomatch awaited.2
  onBlocks := nofun

/-! ### Looking at bridges, streams and blocks -/

theorem bridge_updateBridge {change : LinkBridge → LinkBridge}
    (inside : change (.new "") = .new "" ∨ number < station.bridges.length) :
    (station.updateBridge number change).bridge other =
      if other = number then change (station.bridge other) else station.bridge other := by
  simp only [bridge, updateBridge, List.getElem?_modify]
  by_cases same : other = number
  · subst same
    cases found : station.bridges[other]? with
    | some bridge => simp
    | none =>
        have outside := List.getElem?_eq_none_iff.mp found
        have fixes : change (.new "") = .new "" := inside.resolve_right (by omega)
        simp [fixes]
  · simp [same, Ne.symm same]

theorem stream_updateStream {change : LogStream → LogStream}
    (inside : change (.new 0) = .new 0 ∨ number < station.streams.length) :
    (station.updateStream number change).stream other =
      if other = number then change (station.stream other) else station.stream other := by
  simp only [stream, updateStream, List.getElem?_modify]
  by_cases same : other = number
  · subst same
    cases found : station.streams[other]? with
    | some stream => simp
    | none =>
        have outside := List.getElem?_eq_none_iff.mp found
        have fixes : change (.new 0) = .new 0 := inside.resolve_right (by omega)
        simp [fixes]
  · simp [same, Ne.symm same]

theorem block_updateBlock {change : Block → Block}
    (inside : number < station.blocks.length) :
    (station.updateBlock number change).block other =
      if other = number then change (station.block other) else station.block other := by
  simp only [block, updateBlock, List.getElem?_modify]
  by_cases same : other = number
  · subst same
    simp [List.getElem?_eq_getElem inside]
  · simp [same, Ne.symm same]

theorem updateBlock_outside {change : Block → Block} (outside : station.blocks.length ≤ number) :
    station.updateBlock number change = station := by
  rw [updateBlock, List.modify_eq_self outside]

theorem bridge_outside (outside : station.bridges.length ≤ number) :
    station.bridge number = .new "" := by
  rw [bridge, List.getElem?_eq_none outside]
  rfl

theorem stream_outside (outside : station.streams.length ≤ number) :
    station.stream number = .new 0 := by
  rw [stream, List.getElem?_eq_none outside]
  rfl

theorem subscription_inside {session : Nat}
    (held : (station.stream number).subscription = some session) :
    number < station.streams.length := by
  refine Nat.lt_of_not_le fun outside => ?_
  rw [stream_outside outside] at held
  exact nomatch held

/-! ### Each bridge and stream is subscribed at most once -/

theorem filter_isLink {registry : Registry Subscriber} {kind : Subscriber → Prop}
    (lists : registry.Lists kind)
    (links : ∀ bridge session,
      kind (.link bridge session) ↔ (station.bridge bridge).lifecycle = some session) :
    registry.entries.filter (·.isLink number) =
      ((station.bridge number).lifecycle.map (Subscriber.link number)).toList := by
  apply lists.filter_eq_toList
  rintro (⟨bridge, session⟩ | ⟨stream, session⟩)
  · by_cases same : bridge = number
    · subst same
      simp [links, Subscriber.isLink]
    · simp [Subscriber.isLink, Ne.symm same]
  · simp [Subscriber.isLink]

theorem filter_isStream {registry : Registry Subscriber} {kind : Subscriber → Prop}
    (only : Option Nat) (lists : registry.Lists kind)
    (streams : ∀ session, kind (.stream number session) ↔ only = some session) :
    registry.entries.filter (·.isStream number) = (only.map (Subscriber.stream number)).toList := by
  apply lists.filter_eq_toList
  rintro (⟨bridge, session⟩ | ⟨stream, session⟩)
  · simp [Subscriber.isStream]
  · by_cases same : stream = number
    · subst same
      simp [streams, Subscriber.isStream]
    · simp [Subscriber.isStream, Ne.symm same]

/-- The subscription of a stream as its block sees it. -/
def subscriptionOn (station : Station) (block number : Nat) : Option Nat :=
  if (station.stream number).block = block then (station.stream number).subscription else none

theorem awaitsSamples_iff (block number session : Nat) :
    station.awaitsSamples block (.stream number session) ↔
      station.subscriptionOn block number = some session := by
  unfold subscriptionOn
  split
  · next here => exact and_iff_right here
  · next elsewhere => exact iff_of_false (fun awaits => elsewhere awaits.1) nofun

/-! ### Operations that keep the registries right -/

/-- Where no registry and no subscription changed, the registries are right as they were. -/
theorem Consistent.congr {after : Station} (consistent : station.Consistent)
    (registries : after.connected = station.connected ∧ after.failed = station.failed ∧
      after.disconnected = station.disconnected)
    (receivers : ∀ number, (after.block number).receivers = (station.block number).receivers)
    (lifecycle : ∀ number, (after.bridge number).lifecycle = (station.bridge number).lifecycle)
    (subscription : ∀ number,
      (after.stream number).subscription = (station.stream number).subscription)
    (block : ∀ number session, (station.stream number).subscription = some session →
      (after.stream number).block = (station.stream number).block)
    (onBlocks : ∀ number, number < after.streams.length →
      (after.stream number).block < after.blocks.length) : after.Consistent := by
  obtain ⟨connected, failed, disconnected⟩ := registries
  have outcome : ∀ subscriber,
      station.awaitsOutcome subscriber ↔ after.awaitsOutcome subscriber := by
    intro subscriber
    cases subscriber with
    | link number session => simp only [awaitsOutcome, lifecycle]
    | stream => exact Iff.rfl
  have loss : ∀ subscriber, station.awaitsLoss subscriber ↔ after.awaitsLoss subscriber := by
    intro subscriber
    cases subscriber with
    | link number session => simp only [awaitsLoss, lifecycle]
    | stream number session => simp only [awaitsLoss, subscription]
  have samples : ∀ number subscriber,
      station.awaitsSamples number subscriber ↔ after.awaitsSamples number subscriber := by
    intro number subscriber
    cases subscriber with
    | link => exact Iff.rfl
    | stream other session =>
        simp only [awaitsSamples, subscription]
        exact and_congr_left fun held => by rw [block other session held]
  refine ⟨?_, ?_, ?_, fun number => ?_, onBlocks⟩
  · rw [connected]
    exact consistent.connected.congr outcome
  · rw [failed]
    exact consistent.failed.congr outcome
  · rw [disconnected]
    exact consistent.disconnected.congr loss
  · rw [receivers]
    exact (consistent.receivers number).congr (samples number)

theorem Consistent.updateBridge (consistent : station.Consistent) {change : LinkBridge → LinkBridge}
    (keeps : (change (station.bridge number)).lifecycle = (station.bridge number).lifecycle) :
    (station.updateBridge number change).Consistent := by
  refine consistent.congr ⟨rfl, rfl, rfl⟩ (fun _ => rfl) (fun other => ?_) (fun _ => rfl)
    (fun _ _ _ => rfl) consistent.onBlocks
  by_cases same : number = other
  · subst same
    simp only [bridge, Station.updateBridge, List.getElem?_modify] at keeps ⊢
    cases found : station.bridges[number]? with
    | none => rfl
    | some bridge => simpa [found] using keeps
  · simp [bridge, Station.updateBridge, same]

theorem Consistent.updateStream (consistent : station.Consistent) {change : LogStream → LogStream}
    (keeps : (change (station.stream number)).subscription = (station.stream number).subscription ∧
      (change (station.stream number)).block = (station.stream number).block) :
    (station.updateStream number change).Consistent := by
  have held : ∀ other, ((station.updateStream number change).stream other).subscription =
        (station.stream other).subscription ∧
      ((station.updateStream number change).stream other).block = (station.stream other).block := by
    intro other
    by_cases same : number = other
    · subst same
      simp only [stream, Station.updateStream, List.getElem?_modify] at keeps ⊢
      cases found : station.streams[number]? with
      | none => exact ⟨rfl, rfl⟩
      | some stream => simpa [found] using keeps
    · simp [stream, Station.updateStream, same]
  refine consistent.congr ⟨rfl, rfl, rfl⟩ (fun _ => rfl) (fun _ => rfl) (fun other => (held other).1)
    (fun other _ _ => (held other).2) fun other inside => ?_
  rw [(held other).2]
  exact consistent.onBlocks other (by simpa [Station.updateStream] using inside)

theorem Consistent.unsubscribeBridge (consistent : station.Consistent) (number : Nat) :
    (station.unsubscribeBridge number).Consistent := by
  unfold Station.unsubscribeBridge
  cases held : (station.bridge number).lifecycle with
  | none => exact consistent
  | some session =>
      -- Removing the one callback of the bridge leaves those of the others.
      have released : ∀ other otherSession,
          ((station.bridge other).lifecycle = some otherSession ∧
            Subscriber.link other otherSession ≠ .link number session) ↔
          ((station.updateBridge number LinkBridge.release).bridge other).lifecycle =
            some otherSession := by
        intro other otherSession
        rw [bridge_updateBridge (.inl rfl)]
        by_cases same : other = number
        · subst same
          simp only [held, if_pos, Option.some.injEq, ne_eq, Subscriber.link.injEq, true_and,
            LinkBridge.release, reduceCtorEq, iff_false, not_and]
          exact fun equal different => different equal.symm
        · simp [same]
      refine ⟨(consistent.connected.remove _).congr ?_, (consistent.failed.remove _).congr ?_,
        (consistent.disconnected.remove _).congr ?_, consistent.receivers, consistent.onBlocks⟩
      all_goals rintro (⟨other, otherSession⟩ | ⟨stream, otherSession⟩)
      · exact released other otherSession
      · simp [awaitsOutcome]
      · exact released other otherSession
      · simp [awaitsOutcome]
      · exact released other otherSession
      · simp only [awaitsLoss, ne_eq, reduceCtorEq, not_false_eq_true, and_true]
        exact Iff.rfl

theorem bridges_length_unsubscribeBridge :
    (station.unsubscribeBridge number).bridges.length = station.bridges.length := by
  unfold unsubscribeBridge
  split
  · rfl
  · exact List.length_modify ..

theorem bridge_unsubscribeBridge :
    (station.unsubscribeBridge number).bridge other =
      if other = number then (station.bridge other).release else station.bridge other := by
  unfold unsubscribeBridge
  cases held : (station.bridge number).lifecycle with
  | none =>
      by_cases same : other = number
      · subst same
        simp [LinkBridge.release, ← held]
      · simp [same]
  | some session => exact bridge_updateBridge (.inl rfl)

theorem Consistent.subscribeBridge (consistent : station.Consistent)
    (inside : number < station.bridges.length) : (station.subscribeBridge number).Consistent := by
  have freed := consistent.unsubscribeBridge number
  have still : number < (station.unsubscribeBridge number).bridges.length := by
    rwa [bridges_length_unsubscribeBridge]
  have vacant : ((station.unsubscribeBridge number).bridge number).lifecycle = none := by
    rw [bridge_unsubscribeBridge, if_pos rfl]
    rfl
  unfold Station.subscribeBridge
  generalize station.unsubscribeBridge number = station at freed still vacant ⊢
  have taken : ∀ other otherSession,
      ((station.bridge other).lifecycle = some otherSession ∨
        Subscriber.link other otherSession = .link number (station.bridge number).sessions) ↔
      ((station.updateBridge number fun bridge => { bridge with
        sessions := (station.bridge number).sessions + 1
        lifecycle := some (station.bridge number).sessions }).bridge other).lifecycle =
          some otherSession := by
    intro other otherSession
    rw [bridge_updateBridge (.inr still)]
    by_cases same : other = number
    · subst same
      simp [vacant, eq_comm]
    · simp [same]
  refine ⟨(freed.connected.insert _).congr ?_, (freed.failed.insert _).congr ?_,
    (freed.disconnected.insert _).congr ?_, freed.receivers, freed.onBlocks⟩
  all_goals rintro (⟨other, otherSession⟩ | ⟨stream, otherSession⟩)
  · exact taken other otherSession
  · simp [awaitsOutcome]
  · exact taken other otherSession
  · simp [awaitsOutcome]
  · exact taken other otherSession
  · simp only [awaitsLoss, reduceCtorEq, or_false]
    exact Iff.rfl

theorem bridge_subscribeBridge (inside : number < station.bridges.length) :
    (station.subscribeBridge number).bridge other =
      if other = number then (station.bridge other).enroll else station.bridge other := by
  have still : number < (station.unsubscribeBridge number).bridges.length := by
    rwa [bridges_length_unsubscribeBridge]
  change ((station.unsubscribeBridge number).updateBridge number _).bridge other = _
  rw [bridge_updateBridge (.inr still), bridge_unsubscribeBridge, bridge_unsubscribeBridge]
  by_cases same : other = number
  · subst same
    simp [LinkBridge.release, LinkBridge.enroll]
  · simp [same]

theorem releaseStream_of_none (free : (station.stream number).subscription = none) :
    station.releaseStream number = station.updateStream number LogStream.release := by
  simp only [releaseStream, free]
  rfl

def withoutStream (station : Station) (number session : Nat) : Station :=
  { station with disconnected := station.disconnected.remove (.stream number session) }
    |>.updateBlock (station.stream number).block fun block =>
      { block with receivers := block.receivers.remove (.stream number session) }

theorem releaseStream_of_some {session : Nat}
    (held : (station.stream number).subscription = some session) :
    station.releaseStream number =
      (station.withoutStream number session).updateStream number LogStream.release := by
  simp only [releaseStream, held]
  rfl

theorem stream_releaseStream :
    (station.releaseStream number).stream other =
      if other = number then (station.stream other).release else station.stream other := by
  cases held : (station.stream number).subscription with
  | none =>
      rw [releaseStream_of_none held]
      exact stream_updateStream (.inl rfl)
  | some session =>
      rw [releaseStream_of_some held]
      exact stream_updateStream (.inl rfl)

theorem Consistent.releaseStream (consistent : station.Consistent) (number : Nat) :
    (station.releaseStream number).Consistent := by
  cases held : (station.stream number).subscription with
  | none =>
      rw [releaseStream_of_none held]
      exact consistent.updateStream ⟨held.symm, rfl⟩
  | some session =>
      have onBlock := consistent.onBlocks number (subscription_inside held)
      have streams : ∀ other, (station.releaseStream number).stream other =
          if other = number then (station.stream other).release else station.stream other :=
        fun _ => stream_releaseStream
      -- Removing the callbacks of the stream leaves those of the others.
      have released : ∀ other otherSession,
          ((station.stream other).subscription = some otherSession ∧
            Subscriber.stream other otherSession ≠ .stream number session) ↔
          ((station.releaseStream number).stream other).subscription = some otherSession := by
        intro other otherSession
        rw [streams]
        by_cases same : other = number
        · subst same
          simp only [held, if_pos, Option.some.injEq, ne_eq, Subscriber.stream.injEq, true_and,
            LogStream.release, reduceCtorEq, iff_false, not_and]
          exact fun equal different => different equal.symm
        · simp [same]
      have blocks : ∀ other,
          ((station.releaseStream number).stream other).block = (station.stream other).block := by
        intro other
        rw [streams]
        split <;> rfl
      rw [releaseStream_of_some held] at released blocks ⊢
      refine ⟨consistent.connected, consistent.failed,
        (consistent.disconnected.remove _).congr ?_, fun block => ?_, fun other inside => ?_⟩
      · rintro (⟨other, otherSession⟩ | ⟨other, otherSession⟩)
        · simp only [awaitsLoss, ne_eq, reduceCtorEq, not_false_eq_true, and_true]
          exact Iff.rfl
        · exact released other otherSession
      · change (Station.block (station.updateBlock _ _) block).receivers.Lists _
        rw [block_updateBlock onBlock]
        have lists := consistent.receivers block
        split
        · next here =>
          refine (lists.remove (.stream number session)).congr ?_
          rintro (_ | ⟨other, otherSession⟩)
          · simp [awaitsSamples]
          · simp only [awaitsSamples, blocks, ← released, and_assoc]
        · next elsewhere =>
          refine lists.congr ?_
          rintro (_ | ⟨other, otherSession⟩)
          · exact Iff.rfl
          · simp only [awaitsSamples, blocks, ← released]
            refine and_congr_right fun onThis => (and_iff_left ?_).symm
            intro same
            obtain ⟨rfl, _⟩ := Subscriber.stream.inj same
            exact elsewhere onThis.symm
      · rw [blocks]
        simp only [Station.updateStream, withoutStream, updateBlock, List.length_modify] at inside ⊢
        exact consistent.onBlocks other inside

def withStream (station : Station) (number : Nat) : Station :=
  let subscriber := Subscriber.stream number (station.stream number).sessions
  { station with disconnected := station.disconnected.insert subscriber }
    |>.updateBlock (station.stream number).block fun block =>
      { block with receivers := block.receivers.insert subscriber }

theorem stream_subscribeStream (inside : number < station.streams.length) :
    (station.subscribeStream number).stream other =
      if other = number then (station.stream other).enroll else station.stream other := by
  have within : number < (station.withStream number).streams.length := inside
  change ((station.withStream number).updateStream number _).stream other = _
  rw [stream_updateStream (.inr within)]
  by_cases same : other = number
  · subst same
    rfl
  · simp only [same, if_false]
    rfl

theorem Consistent.subscribeStream (consistent : station.Consistent)
    (inside : number < station.streams.length)
    (vacant : (station.stream number).subscription = none) :
    (station.subscribeStream number).Consistent := by
  have onBlock := consistent.onBlocks number inside
  have taken : ∀ other otherSession,
      ((station.stream other).subscription = some otherSession ∨
        Subscriber.stream other otherSession =
          .stream number (station.stream number).sessions) ↔
      ((station.subscribeStream number).stream other).subscription = some otherSession := by
    intro other otherSession
    rw [stream_subscribeStream inside]
    by_cases same : other = number
    · subst same
      simp [LogStream.enroll, vacant, eq_comm]
    · simp [same]
  have blocks : ∀ other,
      ((station.subscribeStream number).stream other).block = (station.stream other).block := by
    intro other
    rw [stream_subscribeStream inside]
    split <;> rfl
  refine ⟨consistent.connected, consistent.failed, (consistent.disconnected.insert _).congr ?_,
    fun block => ?_, fun other within => ?_⟩
  · rintro (⟨other, otherSession⟩ | ⟨other, otherSession⟩)
    · simp only [awaitsLoss, reduceCtorEq, or_false]
      exact Iff.rfl
    · exact taken other otherSession
  · change (Station.block (station.updateBlock _ _) block).receivers.Lists _
    rw [block_updateBlock onBlock]
    have lists := consistent.receivers block
    split
    · next here =>
      refine (lists.insert (.stream number (station.stream number).sessions)).congr ?_
      rintro (_ | ⟨other, otherSession⟩)
      · simp [awaitsSamples]
      · simp only [awaitsSamples, blocks, ← taken]
        constructor
        · rintro (⟨onThis, held⟩ | same)
          · exact ⟨onThis, .inl held⟩
          · refine ⟨?_, .inr same⟩
            rw [(Subscriber.stream.inj same).1, here]
        · rintro ⟨onThis, held | same⟩
          · exact .inl ⟨onThis, held⟩
          · exact .inr same
    · next elsewhere =>
      refine lists.congr ?_
      rintro (_ | ⟨other, otherSession⟩)
      · exact Iff.rfl
      · simp only [awaitsSamples, blocks, ← taken]
        refine and_congr_right fun onThis => (or_iff_left ?_).symm
        intro same
        rw [(Subscriber.stream.inj same).1] at onThis
        exact elsewhere onThis.symm
  · rw [blocks]
    simp only [Station.subscribeStream, Station.updateStream, updateBlock, List.length_modify]
      at within ⊢
    exact consistent.onBlocks other within

end Station

end Bridge

end VehicleLink
