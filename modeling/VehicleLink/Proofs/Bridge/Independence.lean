import VehicleLink.Proofs.Bridge.OpenFlag

/-!
Bridges and streams that share a driver leave each other alone. As long as the driver neither loses
the link nor reports a sample, an operation of one of them changes nothing for any other, whatever
else the driver reports.
-/

namespace VehicleLink.Bridge

/-- An incident of which nobody takes note who is not opening the link. -/
def Incident.harmless : Incident → Bool
  | .called _ | .connected | .failed _ => true
  | .disconnected | .sampled .. => false

theorem LinkBridge.hear_harmless {bridge : LinkBridge} (resting : bridge.attempt = .none)
    {incident : Incident} (harmless : incident.harmless = true) :
    bridge.hear incident = bridge := by
  have undecided : ∀ outcome, bridge.decide outcome = bridge := fun outcome => by
    simp only [decide, resting]
  cases incident with
  | called => rfl
  | connected | failed => simp only [hear, undecided, ite_self]
  | disconnected | sampled => cases harmless

theorem LogStream.hear_harmless (stream : LogStream) {incident : Incident}
    (harmless : incident.harmless = true) : stream.hear incident = stream := by
  cases incident with
  | called | connected | failed => rfl
  | disconnected | sampled => cases harmless

namespace Station

variable {before after station : Station} {deed : Deed} {log : List Moment} {party : Party}
  {incidents : List Incident} {number : Nat}

/-! ### The callbacks of one bridge or stream -/

/-- The callbacks of a bridge at each of the three events. -/
def linkCallbacks (station : Station) (number : Nat) : List (List Subscriber) :=
  [station.connected, station.failed, station.disconnected].map
    (·.entries.filter (·.isLink number))

/-- The callbacks of a stream at the loss of the link and at a block. -/
def streamCallbacks (station : Station) (number block : Nat) : List (List Subscriber) :=
  [station.disconnected, (station.block block).receivers].map (·.entries.filter (·.isStream number))

theorem Consistent.linkCallbacks_eq (consistent : station.Consistent) :
    station.linkCallbacks number =
      List.replicate 3
        ((station.bridge number).lifecycle.map (Subscriber.link number)).toList := by
  simp only [linkCallbacks, List.map_cons, List.map_nil,
    filter_isLink consistent.connected fun _ _ => Iff.rfl,
    filter_isLink consistent.failed fun _ _ => Iff.rfl,
    filter_isLink consistent.disconnected fun _ _ => Iff.rfl]
  rfl

theorem Consistent.streamCallbacks_eq (consistent : station.Consistent) (block : Nat) :
    station.streamCallbacks number block =
      [((station.stream number).subscription.map (Subscriber.stream number)).toList,
        ((station.subscriptionOn block number).map (Subscriber.stream number)).toList] := by
  simp only [streamCallbacks, List.map_cons, List.map_nil,
    filter_isStream _ consistent.disconnected fun _ => Iff.rfl,
    filter_isStream _ (consistent.receivers block) (awaitsSamples_iff block number)]

/-! ### What others do -/

theorem foldl_hear_of_unmoved {Member : Type} {hear : Member → Incident → Member} {member : Member}
    (unmoved : ∀ incident ∈ incidents, hear member incident = member) :
    incidents.foldl hear member = member := by
  induction incidents with
  | nil => rfl
  | cons incident rest ih =>
      obtain ⟨first, later⟩ := List.forall_mem_cons.mp unmoved
      rw [List.foldl_cons, first, ih later]

theorem Passes.bridge_of_harmless {actor : Option Party}
    (passes : Passes actor before incidents after) (other : actor ≠ some (.link number))
    (resting : (before.bridge number).attempt = .none)
    (harmless : ∀ incident ∈ incidents, incident.harmless = true) :
    after.bridge number = before.bridge number := by
  rw [passes.bridge number other]
  exact foldl_hear_of_unmoved fun incident happened =>
    LinkBridge.hear_harmless resting (harmless incident happened)

theorem Passes.stream_of_harmless {actor : Option Party}
    (passes : Passes actor before incidents after) (other : actor ≠ some (.stream number))
    (harmless : ∀ incident ∈ incidents, incident.harmless = true) :
    after.stream number = before.stream number := by
  rw [passes.stream number other]
  exact foldl_hear_of_unmoved fun incident happened =>
    LogStream.hear_harmless _ (harmless incident happened)

/-- An operation of one bridge or stream, during which the link is not lost and no sample reported,
leaves the flag, the attempt, the queue and the callbacks of every other one as they were, also if
they share an address or a block. -/
theorem Run.others_undisturbed (run : Run log before) (step : Step before deed after)
    (acts : deed.actor = some party)
    (harmless : ∀ incident ∈ after.since before, incident.harmless = true) :
    (∀ number, party ≠ .link number → after.bridge number = before.bridge number ∧
      after.linkCallbacks number = before.linkCallbacks number) ∧
    ∀ number, party ≠ .stream number → after.stream number = before.stream number ∧
      ∀ block, after.streamCallbacks number block = before.streamCallbacks number block := by
  have acting : deed.actor ≠ none := by
    rw [acts]
    exact nofun
  have performs := step.performs run.consistent acting
  refine ⟨fun number other => ?_, fun number other => ?_⟩
  · have aside : deed.actor ≠ some (.link number) := by
      rw [acts]
      exact fun same => other (Option.some.inj same)
    have same := performs.passes.bridge_of_harmless aside (run.follows number).resting harmless
    refine ⟨same, ?_⟩
    rw [performs.consistent.linkCallbacks_eq, run.consistent.linkCallbacks_eq, same]
  · have aside : deed.actor ≠ some (.stream number) := by
      rw [acts]
      exact fun same => other (Option.some.inj same)
    have same := performs.passes.stream_of_harmless aside harmless
    refine ⟨same, fun block => ?_⟩
    rw [performs.consistent.streamCallbacks_eq, run.consistent.streamCallbacks_eq, subscriptionOn,
      subscriptionOn, same]

/-- Two streams share a block. The first lost the link while the block was started and is still
connected, the second was started after that and holds a sample, and a bridge is open. Then the
first is disconnected, and the driver reports while it stops the block. -/
theorem others_undisturbed_sharedBlock : ∃ log before after, Run log before ∧
    (before.stream 0).isConnected = true ∧ (before.stream 0).accepting = false ∧
    (before.stream 1).accepting = true ∧ (before.stream 1).queue = [⟨1, [], "gyro"⟩] ∧
    (before.bridge 0).isOpen = true ∧ Step before (.disconnected 0) after ∧
    after.since before = [.called (.stop 0 "gyro"), .connected, .failed "Too many packets lost!",
      .called (.delete 0 "gyro")] ∧
    after.stream 1 = before.stream 1 ∧ after.streamCallbacks 1 0 = before.streamCallbacks 1 0 ∧
    after.bridge 0 = before.bridge 0 ∧ after.linkCallbacks 0 = before.linkCallbacks 0 := by
  have onBlock : 0 < 1 := by decide
  have first : 0 < 2 := by decide
  have second : 1 < 2 := by decide
  have streams := Run.step (.step (.step .start (.addBlock "block" "gyro" [.disconnected] [] []))
    (.addStream onBlock)) (.addStream onBlock)
  have cut := Run.step (.step streams (.connect first)) (.onBlock 0 [.sample "block" 1 []]
    [.connected, .failed "Too many packets lost!"] [])
  have live := Run.step (.step cut (.connect second)) (.onOpen [.connected])
  have run := Run.step (.step live (.addBridge "10.0.0.1")) (.openLink onBlock rfl)
  obtain ⟨links, others⟩ := run.others_undisturbed (.disconnect first) rfl (by decide)
  obtain ⟨bridge, watching⟩ := links 0 nofun
  obtain ⟨stream, listening⟩ := others 1 nofun
  exact ⟨_, _, _, run, rfl, rfl, rfl, rfl, rfl, .disconnect first, rfl, stream, listening 0,
    bridge, watching⟩

end Station

end VehicleLink.Bridge
