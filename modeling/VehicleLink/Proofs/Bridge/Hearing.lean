import VehicleLink.Proofs.Bridge.Consistency
import Mathlib.Data.List.Basic

/-!
What bridges and streams make of what happens at the driver. In a consistent station every bridge
and every stream hears each incident by itself, as if it were alone: the callbacks of one never
touch another.
-/

namespace VehicleLink.Bridge

/-! ### One bridge, one stream -/

def LinkBridge.lose (bridge : LinkBridge) : LinkBridge :=
  LinkBridge.release ({ bridge with isOpen := false }.decide (.error Station.lostWhileOpening))

/-- What an incident does to a bridge. One that is not subscribed hears nothing. -/
def LinkBridge.hear (bridge : LinkBridge) : Incident → LinkBridge
  | .connected => if bridge.lifecycle.isSome then bridge.decide (.ok ()) else bridge
  | .failed reason => if bridge.lifecycle.isSome then bridge.decide (.error reason) else bridge
  | .disconnected => if bridge.lifecycle.isSome then bridge.lose else bridge
  | .called _ | .sampled .. => bridge

def LogStream.lose (stream : LogStream) : LogStream :=
  { stream with isConnected := false, accepting := false }

def LogStream.accept (entry : Entry) (stream : LogStream) : LogStream :=
  if stream.accepting then { stream with queue := stream.queue ++ [entry] } else stream

/-- What an incident does to a stream. One that is not subscribed hears nothing. -/
def LogStream.hear (stream : LogStream) : Incident → LogStream
  | .disconnected => if stream.subscription.isSome then stream.lose else stream
  | .sampled block entry =>
      if stream.block = block ∧ stream.subscription.isSome then stream.accept entry else stream
  | .called _ | .connected | .failed _ => stream

theorem LinkBridge.lifecycle_decide (bridge : LinkBridge) (outcome : Except String Unit) :
    (bridge.decide outcome).lifecycle = bridge.lifecycle := by
  unfold LinkBridge.decide
  split <;> rfl

theorem LinkBridge.isOpen_decide (bridge : LinkBridge) (outcome : Except String Unit) :
    (bridge.decide outcome).isOpen = bridge.isOpen := by
  unfold LinkBridge.decide
  split <;> rfl

theorem LinkBridge.attempt_decide (bridge : LinkBridge) (outcome : Except String Unit)
    (pending : bridge.attempt ≠ .none) : (bridge.decide outcome).attempt ≠ .none := by
  unfold LinkBridge.decide
  split
  · exact nofun
  · exact pending
  · exact pending

theorem LinkBridge.hear_cases (bridge : LinkBridge) (incident : Incident) :
    bridge.hear incident = bridge ∨ (∃ outcome, bridge.hear incident = bridge.decide outcome) ∨
      bridge.hear incident = bridge.lose := by
  cases incident with
  | connected =>
      simp only [hear]
      split
      · exact .inr (.inl ⟨_, rfl⟩)
      · exact .inl rfl
  | failed reason =>
      simp only [hear]
      split
      · exact .inr (.inl ⟨_, rfl⟩)
      · exact .inl rfl
  | disconnected =>
      simp only [hear]
      split
      · exact .inr (.inr rfl)
      · exact .inl rfl
  | called => exact .inl rfl
  | sampled => exact .inl rfl

theorem LinkBridge.attempt_foldl_hear (bridge : LinkBridge) (incidents : List Incident)
    (pending : bridge.attempt ≠ .none) : (incidents.foldl hear bridge).attempt ≠ .none := by
  induction incidents generalizing bridge with
  | nil => exact pending
  | cons incident rest ih =>
      apply ih
      rcases bridge.hear_cases incident with same | ⟨outcome, decided⟩ | lost
      · rwa [same]
      · rw [decided]
        exact bridge.attempt_decide outcome pending
      · rw [lost]
        exact attempt_decide { bridge with isOpen := false } _ pending

theorem LinkBridge.attempt_foldl_hear_of_resting {bridge : LinkBridge} (resting : bridge.attempt = .none)
    (incidents : List Incident) :
    (incidents.foldl hear bridge).attempt = .none := by
  have decided : ∀ outcome, bridge.decide outcome = bridge := fun outcome => by
    simp only [decide, resting]
  induction incidents generalizing bridge with
  | nil => exact resting
  | cons incident rest ih =>
      have rests : (bridge.hear incident).attempt = .none := by
        rcases bridge.hear_cases incident with same | ⟨outcome, heard⟩ | lost
        · rwa [same]
        · rwa [heard, decided]
        · rw [lost]
          simp only [lose, release, decide, resting]
      exact ih rests fun outcome => by simp only [decide, rests]

theorem LinkBridge.lifecycle_hear (bridge : LinkBridge) (incident : Incident) :
    (bridge.hear incident).lifecycle =
      if incident = .disconnected then none else bridge.lifecycle := by
  cases incident with
  | connected =>
      simp only [hear, apply_ite LinkBridge.lifecycle, lifecycle_decide, ite_self, reduceCtorEq,
        if_false]
  | failed reason =>
      simp only [hear, apply_ite LinkBridge.lifecycle, lifecycle_decide, ite_self, reduceCtorEq,
        if_false]
  | disconnected =>
      simp only [hear, apply_ite LinkBridge.lifecycle, if_true]
      cases held : bridge.lifecycle with
      | none => rfl
      | some session => rfl
  | called => rfl
  | sampled => rfl

theorem LinkBridge.isOpen_hear (bridge : LinkBridge) (incident : Incident) :
    (bridge.hear incident).isOpen =
      (bridge.isOpen && !(bridge.lifecycle.isSome && incident = .disconnected)) := by
  cases incident with
  | connected => simp [hear, apply_ite LinkBridge.isOpen, isOpen_decide]
  | failed reason => simp [hear, apply_ite LinkBridge.isOpen, isOpen_decide]
  | disconnected => cases held : bridge.lifecycle <;> simp [hear, held, lose, release, isOpen_decide]
  | called => simp [hear]
  | sampled => simp [hear]

theorem LinkBridge.isSome_lifecycle_foldl_hear (bridge : LinkBridge) (incidents : List Incident) :
    (incidents.foldl hear bridge).lifecycle.isSome = true ↔
      bridge.lifecycle.isSome = true ∧ .disconnected ∉ incidents := by
  induction incidents generalizing bridge with
  | nil => simp
  | cons incident rest ih =>
      rw [List.foldl_cons, ih, lifecycle_hear, List.mem_cons]
      by_cases lost : incident = .disconnected
      · simp [lost]
      · simp [lost, Ne.symm lost]

theorem LinkBridge.isOpen_foldl_hear (bridge : LinkBridge) (incidents : List Incident) :
    (incidents.foldl hear bridge).isOpen = true ↔ bridge.isOpen = true ∧
      (bridge.lifecycle.isSome = true → .disconnected ∉ incidents) := by
  induction incidents generalizing bridge with
  | nil => simp
  | cons incident rest ih =>
      rw [List.foldl_cons, ih, lifecycle_hear, isOpen_hear, List.mem_cons]
      by_cases lost : incident = .disconnected
      · simp [lost]
      · simp [lost, Ne.symm lost]

theorem LogStream.accept_keeps (stream : LogStream) (entry : Entry) :
    (stream.accept entry).subscription = stream.subscription ∧
      (stream.accept entry).block = stream.block := by
  unfold LogStream.accept
  split <;> exact ⟨rfl, rfl⟩

theorem LogStream.hear_cases (stream : LogStream) (incident : Incident) :
    stream.hear incident = stream ∨ stream.hear incident = stream.lose ∨
      ∃ entry, stream.accepting = true ∧
        stream.hear incident = { stream with queue := stream.queue ++ [entry] } := by
  cases incident with
  | disconnected =>
      simp only [hear]
      split
      · exact .inr (.inl rfl)
      · exact .inl rfl
  | sampled block entry =>
      simp only [hear, accept]
      split
      · split
        · next accepting => exact .inr (.inr ⟨entry, accepting, rfl⟩)
        · exact .inl rfl
      · exact .inl rfl
  | called => exact .inl rfl
  | connected => exact .inl rfl
  | failed => exact .inl rfl

/-- What a stream has heard is forgotten once it is released, the loss of the link apart. -/
theorem LogStream.release_foldl_hear (stream : LogStream) (incidents : List Incident)
    (idle : stream.isConnected = false) : (incidents.foldl hear stream).release = stream.release := by
  induction incidents generalizing stream with
  | nil => rfl
  | cons incident rest ih =>
      rw [List.foldl_cons]
      rcases stream.hear_cases incident with same | lost | ⟨entry, _, queued⟩
      · rw [same, ih stream idle]
      · rw [lost, ih stream.lose rfl]
        simp only [release, lose, idle]
      · rw [queued, ih { stream with queue := stream.queue ++ [entry] } idle]
        rfl

theorem LogStream.subscription_foldl_hear (stream : LogStream) (incidents : List Incident) :
    (incidents.foldl hear stream).subscription = stream.subscription := by
  induction incidents generalizing stream with
  | nil => rfl
  | cons incident rest ih =>
      rw [List.foldl_cons, ih]
      rcases stream.hear_cases incident with same | lost | ⟨entry, _, queued⟩
      · rw [same]
      · rw [lost]
        rfl
      · rw [queued]

theorem LogStream.block_foldl_hear (stream : LogStream) (incidents : List Incident) :
    (incidents.foldl hear stream).block = stream.block := by
  induction incidents generalizing stream with
  | nil => rfl
  | cons incident rest ih =>
      rw [List.foldl_cons, ih]
      rcases stream.hear_cases incident with same | lost | ⟨entry, _, queued⟩
      · rw [same]
      · rw [lost]
        rfl
      · rw [queued]

/-- A flag that only the loss of the link takes away. -/
theorem LogStream.flag_hear {flag : LogStream → Bool}
    (lost : ∀ stream : LogStream, flag stream.lose = false)
    (kept : ∀ stream queue, flag { stream with queue } = flag stream) (stream : LogStream)
    (incident : Incident) :
    flag (stream.hear incident) =
      (flag stream && !(stream.subscription.isSome && incident = .disconnected)) := by
  cases incident with
  | disconnected => cases held : stream.subscription <;> simp [hear, held, lost]
  | sampled block entry => simp [hear, accept, apply_ite flag, kept]
  | called => simp [hear]
  | connected => simp [hear]
  | failed => simp [hear]

theorem LogStream.flag_foldl_hear {flag : LogStream → Bool}
    (lost : ∀ stream : LogStream, flag stream.lose = false)
    (kept : ∀ stream queue, flag { stream with queue } = flag stream) (stream : LogStream)
    (incidents : List Incident) :
    flag (incidents.foldl hear stream) = true ↔
      flag stream = true ∧ (stream.subscription.isSome = true → .disconnected ∉ incidents) := by
  induction incidents generalizing stream with
  | nil => simp
  | cons incident rest ih =>
      have held : (stream.hear incident).subscription = stream.subscription :=
        stream.subscription_foldl_hear [incident]
      rw [List.foldl_cons, ih, held, flag_hear lost kept, List.mem_cons]
      by_cases loses : incident = .disconnected
      · cases stream.subscription <;> simp [loses]
      · simp [loses, Ne.symm loses]

theorem LogStream.isConnected_foldl_hear (stream : LogStream) (incidents : List Incident) :
    (incidents.foldl hear stream).isConnected = true ↔ stream.isConnected = true ∧
      (stream.subscription.isSome = true → .disconnected ∉ incidents) :=
  flag_foldl_hear (fun _ => rfl) (fun _ _ => rfl) stream incidents

theorem LogStream.accepting_foldl_hear (stream : LogStream) (incidents : List Incident) :
    (incidents.foldl hear stream).accepting = true ↔ stream.accepting = true ∧
      (stream.subscription.isSome = true → .disconnected ∉ incidents) :=
  flag_foldl_hear (fun _ => rfl) (fun _ _ => rfl) stream incidents

/-- A block apart from who receives its samples. -/
def Block.script (block : Block) : Block := { block with receivers := .empty }

theorem Block.eq_of_script {block other : Block} (same : block.script = other.script) :
    block.name = other.name ∧ block.onStart = other.onStart ∧ block.onStop = other.onStop ∧
      block.onDelete = other.onDelete := by
  simp only [Block.script, Block.mk.injEq, true_and] at same
  exact same

inductive Party where
  | link (bridge : Nat)
  | stream (stream : Nat)
  deriving DecidableEq

namespace Station

variable {station before middle after : Station}

/-! ### What stays as it is -/

/-- All but the registries, the bridges, the streams and the history are as before. -/
structure Fixed (before after : Station) : Prop where
  bridges : after.bridges.length = before.bridges.length
  streams : after.streams.length = before.streams.length
  blocks : after.blocks.length = before.blocks.length
  block : ∀ number, (after.block number).script = (before.block number).script
  blockNames : after.blockNames = before.blockNames
  onOpen : after.onOpen = before.onOpen
  onClose : after.onClose = before.onClose
  rejection : after.rejection = before.rejection

theorem Fixed.refl (station : Station) : Fixed station station :=
  ⟨rfl, rfl, rfl, fun _ => rfl, rfl, rfl, rfl, rfl⟩

theorem Fixed.trans (first : Fixed before middle) (second : Fixed middle after) :
    Fixed before after :=
  ⟨second.bridges.trans first.bridges, second.streams.trans first.streams,
    second.blocks.trans first.blocks, fun number => (second.block number).trans (first.block number),
    second.blockNames.trans first.blockNames, second.onOpen.trans first.onOpen,
    second.onClose.trans first.onClose, second.rejection.trans first.rejection⟩

theorem fixed_record (station : Station) (incident : Incident) :
    Fixed station (station.record incident) :=
  ⟨rfl, rfl, rfl, fun _ => rfl, rfl, rfl, rfl, rfl⟩

theorem fixed_updateBridge (station : Station) (number : Nat) (change : LinkBridge → LinkBridge) :
    Fixed station (station.updateBridge number change) :=
  { Fixed.refl station with bridges := List.length_modify .. }

theorem fixed_updateStream (station : Station) (number : Nat) (change : LogStream → LogStream) :
    Fixed station (station.updateStream number change) :=
  { Fixed.refl station with streams := List.length_modify .. }

theorem fixed_unsubscribeBridge (station : Station) (number : Nat) :
    Fixed station (station.unsubscribeBridge number) := by
  unfold unsubscribeBridge
  split
  · exact Fixed.refl station
  · exact { Fixed.refl station with bridges := List.length_modify .. }

/-! ### Callbacks one after the other -/

/-- The callback of a subscriber changes the bridge by `atLink` or the stream by `atStream` that it
belongs to, and no other. -/
structure Touches (subscriber : Subscriber) (atLink : LinkBridge → LinkBridge)
    (atStream : LogStream → LogStream) (before after : Station) : Prop where
  fixed : Fixed before after
  history : after.history = before.history
  bridge : ∀ number, after.bridge number =
    if subscriber.isLink number then atLink (before.bridge number) else before.bridge number
  stream : ∀ number, after.stream number =
    if subscriber.isStream number then atStream (before.stream number) else before.stream number

/-- Every bridge and stream is changed once for each callback of its own. -/
theorem foldl_touches {callback : Station → Subscriber → Station}
    {atLink : LinkBridge → LinkBridge} {atStream : LogStream → LogStream}
    (touches : ∀ station subscriber, Consistent station →
      Consistent (callback station subscriber) ∧
        Touches subscriber atLink atStream station (callback station subscriber))
    (subscribers : List Subscriber) (consistent : station.Consistent) :
    (subscribers.foldl callback station).Consistent ∧
      Fixed station (subscribers.foldl callback station) ∧
      (subscribers.foldl callback station).history = station.history ∧
      (∀ number, (subscribers.foldl callback station).bridge number =
        (subscribers.filter (·.isLink number)).foldl (fun bridge _ => atLink bridge)
          (station.bridge number)) ∧
      ∀ number, (subscribers.foldl callback station).stream number =
        (subscribers.filter (·.isStream number)).foldl (fun stream _ => atStream stream)
          (station.stream number) := by
  induction subscribers generalizing station with
  | nil => exact ⟨consistent, Fixed.refl station, rfl, fun _ => rfl, fun _ => rfl⟩
  | cons subscriber rest ih =>
      obtain ⟨next, touched⟩ := touches station subscriber consistent
      obtain ⟨last, fixed, history, bridge, stream⟩ := ih next
      refine ⟨last, touched.fixed.trans fixed, history.trans touched.history,
        fun number => ?_, fun number => ?_⟩
      · rw [List.foldl_cons, bridge, touched.bridge, List.filter_cons]
        split <;> rfl
      · rw [List.foldl_cons, stream, touched.stream, List.filter_cons]
        split <;> rfl

theorem decideAttempt_touches (outcome : Except String Unit) (subscriber : Subscriber)
    (consistent : station.Consistent) :
    (decideAttempt outcome station subscriber).Consistent ∧
      Touches subscriber (.decide outcome) id station (decideAttempt outcome station subscriber) := by
  cases subscriber with
  | link owner session =>
      refine ⟨consistent.updateBridge (LinkBridge.lifecycle_decide _ _),
        fixed_updateBridge station owner _, rfl, fun number => ?_, fun _ => rfl⟩
      simp only [Subscriber.isLink, decide_eq_true_eq]
      exact bridge_updateBridge (.inl rfl)
  | stream owner session =>
      refine ⟨consistent, Fixed.refl station, rfl, fun _ => rfl, fun number => ?_⟩
      simp [decideAttempt]

theorem history_unsubscribeBridge (station : Station) (number : Nat) :
    (station.unsubscribeBridge number).history = station.history := by
  unfold unsubscribeBridge
  split <;> rfl

theorem stream_unsubscribeBridge (station : Station) (number other : Nat) :
    (station.unsubscribeBridge number).stream other = station.stream other := by
  unfold unsubscribeBridge
  split <;> rfl

theorem loseLink_touches (subscriber : Subscriber) (consistent : station.Consistent) :
    (loseLink station subscriber).Consistent ∧
      Touches subscriber .lose .lose station (loseLink station subscriber) := by
  cases subscriber with
  | link owner session =>
      have closed : (station.updateBridge owner fun bridge =>
          { bridge with isOpen := false }.decide (.error lostWhileOpening)).Consistent :=
        consistent.updateBridge (LinkBridge.lifecycle_decide _ _)
      refine ⟨closed.unsubscribeBridge owner,
        (fixed_updateBridge station owner _).trans (fixed_unsubscribeBridge _ owner),
        history_unsubscribeBridge _ owner, fun number => ?_,
        fun number => stream_unsubscribeBridge _ owner number⟩
      simp only [loseLink, Subscriber.isLink, decide_eq_true_eq]
      rw [bridge_unsubscribeBridge, bridge_updateBridge (.inl rfl)]
      split <;> rfl
  | stream owner session =>
      refine ⟨consistent.updateStream ⟨rfl, rfl⟩, fixed_updateStream station owner _, rfl,
        fun _ => rfl, fun number => ?_⟩
      simp only [Subscriber.isStream, decide_eq_true_eq]
      exact stream_updateStream (.inl rfl)

theorem queueSample_touches (entry : Entry) (subscriber : Subscriber)
    (consistent : station.Consistent) :
    (queueSample entry station subscriber).Consistent ∧
      Touches subscriber id (.accept entry) station (queueSample entry station subscriber) := by
  cases subscriber with
  | link owner session =>
      refine ⟨consistent, Fixed.refl station, rfl, fun number => ?_, fun _ => rfl⟩
      simp [queueSample]
  | stream owner session =>
      refine ⟨consistent.updateStream (LogStream.accept_keeps _ entry),
        fixed_updateStream station owner _, rfl, fun _ => rfl, fun number => ?_⟩
      simp only [Subscriber.isStream, decide_eq_true_eq]
      exact stream_updateStream (.inl rfl)

/-! ### Incidents -/

/-- What is recorded of a report. A sample under a name that no block has is lost. -/
def incident? (station : Station) : Event → Option Incident
  | .connected => some .connected
  | .failed reason => some (.failed reason)
  | .disconnected => some .disconnected
  | .sample name timestamp values =>
      (station.blockNames.lookup name).map fun number =>
        .sampled number ⟨timestamp, values, (station.block number).name⟩

/-- From one station to another incidents were recorded, and every bridge and every stream but the
one that acted has only heard them. -/
structure Passes (actor : Option Party) (before : Station) (incidents : List Incident)
    (after : Station) : Prop where
  fixed : Fixed before after
  history : after.history = incidents.reverse ++ before.history
  bridge : ∀ number, actor ≠ some (.link number) →
    after.bridge number = incidents.foldl .hear (before.bridge number)
  stream : ∀ number, actor ≠ some (.stream number) →
    after.stream number = incidents.foldl .hear (before.stream number)

theorem Passes.refl (actor : Option Party) (station : Station) : Passes actor station [] station :=
  ⟨Fixed.refl station, rfl, fun _ _ => rfl, fun _ _ => rfl⟩

theorem Passes.trans {actor : Option Party} {first second : List Incident}
    (left : Passes actor before first middle) (right : Passes actor middle second after) :
    Passes actor before (first ++ second) after := by
  refine ⟨left.fixed.trans right.fixed, ?_, fun number aside => ?_, fun number aside => ?_⟩
  · rw [right.history, left.history, List.reverse_append, List.append_assoc]
  · rw [right.bridge number aside, left.bridge number aside, List.foldl_append]
  · rw [right.stream number aside, left.stream number aside, List.foldl_append]

theorem Passes.by {incidents : List Incident} (passes : Passes none before incidents after)
    (actor : Option Party) : Passes actor before incidents after :=
  ⟨passes.fixed, passes.history, fun number _ => passes.bridge number nofun,
    fun number _ => passes.stream number nofun⟩

theorem Consistent.record (consistent : station.Consistent) (incident : Incident) :
    (station.record incident).Consistent :=
  ⟨consistent.connected, consistent.failed, consistent.disconnected, consistent.receivers,
    consistent.onBlocks⟩

theorem passes_call (station : Station) (call : Call) :
    Passes none station [.called call] (station.call call) :=
  ⟨fixed_record station _, rfl, fun _ _ => rfl, fun _ _ => rfl⟩

private theorem foldl_toList_map {State : Type} (change : State → State) (state : State)
    (held : Option Nat) (subscriber : Nat → Subscriber) :
    (held.map subscriber).toList.foldl (fun state _ => change state) state =
      if held.isSome then change state else state := by
  cases held <;> rfl

theorem foldl_decideAttempt (consistent : station.Consistent) {registry : Registry Subscriber}
    (lists : registry.Lists station.awaitsOutcome) (outcome : Except String Unit) :
    let after := registry.entries.foldl (decideAttempt outcome) station
    after.Consistent ∧ Fixed station after ∧ after.history = station.history ∧
      (∀ number, after.bridge number =
        if (station.bridge number).lifecycle.isSome then (station.bridge number).decide outcome
        else station.bridge number) ∧
      ∀ number, after.stream number = station.stream number := by
  obtain ⟨last, fixed, history, bridge, stream⟩ :=
    foldl_touches (fun _ subscriber => decideAttempt_touches outcome subscriber)
      registry.entries consistent
  refine ⟨last, fixed, history, fun number => ?_, fun number => ?_⟩
  · rw [bridge, filter_isLink lists fun _ _ => Iff.rfl, foldl_toList_map]
  · rw [stream]
    exact List.foldl_fixed ..

theorem fire_passes (consistent : station.Consistent) (event : Event) :
    (station.fire event).Consistent ∧
      Passes none station (station.incident? event).toList (station.fire event) := by
  cases event with
  | connected =>
      have recorded := consistent.record .connected
      obtain ⟨last, fixed, history, bridge, stream⟩ :=
        foldl_decideAttempt recorded consistent.connected (.ok ())
      exact ⟨last, (fixed_record station _).trans fixed, history, fun number _ => bridge number,
        fun number _ => stream number⟩
  | failed reason =>
      have recorded := consistent.record (.failed reason)
      obtain ⟨last, fixed, history, bridge, stream⟩ :=
        foldl_decideAttempt recorded consistent.failed (.error reason)
      exact ⟨last, (fixed_record station _).trans fixed, history, fun number _ => bridge number,
        fun number _ => stream number⟩
  | disconnected =>
      have recorded := consistent.record .disconnected
      obtain ⟨last, fixed, history, bridge, stream⟩ :=
        foldl_touches (fun _ => loseLink_touches) station.disconnected.entries recorded
      -- Each party has one callback at most, so the fold over them is one change or none.
      refine ⟨last, (fixed_record station _).trans fixed, history, fun number _ => ?_,
        fun number _ => ?_⟩
      · refine (bridge number).trans ?_
        rw [filter_isLink consistent.disconnected fun _ _ => Iff.rfl, foldl_toList_map]
        rfl
      · refine (stream number).trans ?_
        rw [filter_isStream _ consistent.disconnected fun _ => Iff.rfl, foldl_toList_map]
        rfl
  | sample name timestamp values =>
      cases found : station.blockNames.lookup name with
      | none =>
          simp only [fire, incident?, found, Option.map_none, Option.toList_none]
          exact ⟨consistent, Passes.refl none station⟩
      | some block =>
          simp only [fire, incident?, found, Option.map_some, Option.toList_some]
          have recorded := consistent.record
            (.sampled block ⟨timestamp, values, (station.block block).name⟩)
          obtain ⟨last, fixed, history, bridge, stream⟩ :=
            foldl_touches (fun _ => queueSample_touches _)
              (station.block block).receivers.entries recorded
          refine ⟨last, (fixed_record station _).trans fixed, history, fun number _ => ?_,
            fun number _ => ?_⟩
          · refine (bridge number).trans ?_
            exact List.foldl_fixed ..
          · refine (stream number).trans ?_
            by_cases onThis : (station.stream number).block = block
            · rw [filter_isStream _ (consistent.receivers block) fun _ => and_iff_right onThis,
                foldl_toList_map]
              simp only [List.foldl_cons, List.foldl_nil, LogStream.hear, onThis, true_and]
              rfl
            · rw [filter_isStream none (consistent.receivers block) fun _ => by
                simp [awaitsSamples, onThis]]
              simp only [List.foldl_cons, List.foldl_nil, LogStream.hear, onThis, false_and,
                if_false]
              rfl

/-- What is recorded of a report does not depend on what was reported before. -/
theorem Fixed.incident? (fixed : Fixed before after) (event : Event) :
    after.incident? event = before.incident? event := by
  cases event with
  | sample name timestamp values =>
      have names : ∀ number, (after.block number).name = (before.block number).name :=
        fun number => (Block.eq_of_script (fixed.block number)).1
      simp only [Station.incident?, fixed.blockNames, names]
  | _ => rfl

theorem fireAll_passes (consistent : station.Consistent) (events : List Event) :
    (station.fireAll events).Consistent ∧
      Passes none station (events.filterMap station.incident?) (station.fireAll events) := by
  induction events generalizing station with
  | nil => exact ⟨consistent, Passes.refl none station⟩
  | cons event rest ih =>
      obtain ⟨fired, first⟩ := fire_passes consistent event
      obtain ⟨last, others⟩ := ih fired
      have recorded : (event :: rest).filterMap station.incident? =
          (station.incident? event).toList ++ rest.filterMap (station.fire event).incident? := by
        have same : (station.fire event).incident? = station.incident? :=
          funext first.fixed.incident?
        rw [same, List.filterMap_cons]
        cases station.incident? event <;> rfl
      rw [recorded]
      exact ⟨last, first.trans others⟩

theorem call_fireAll_passes (consistent : station.Consistent) (call : Call) (events : List Event) :
    ((station.call call).fireAll events).Consistent ∧
      Passes none station (.called call :: events.filterMap station.incident?)
        ((station.call call).fireAll events) := by
  have calls := passes_call station call
  obtain ⟨last, reports⟩ := fireAll_passes (consistent.record (.called call)) events
  have same : (station.record (.called call)).incident? = station.incident? :=
    funext calls.fixed.incident?
  rw [same] at reports
  exact ⟨last, calls.trans reports⟩

theorem reports_not_called (events : List Event) (call : Call) :
    .called call ∉ events.filterMap station.incident? := by
  intro member
  obtain ⟨event, _, recorded⟩ := List.mem_filterMap.mp member
  cases event with
  | sample name timestamp values =>
      obtain ⟨_, _, sampled⟩ := Option.map_eq_some_iff.mp recorded
      cases sampled
  | connected => cases recorded
  | failed reason => cases recorded
  | disconnected => cases recorded

end Station

end VehicleLink.Bridge
