import VehicleLink.Proofs.Bridge.Renewal

/-!
A stream that was disconnected, or whose configuration was rejected, is as good as a new one on the
same block: nothing is left of its subscriptions and samples, and nothing that is done from then on
shows that it was used before.
-/

namespace VehicleLink.Bridge.Station

variable {station after : Station} {log : List Moment} {number : Nat}

/-- Puts a new stream on the same block in the place of a stream. -/
def renewStream (station : Station) (number : Nat) : Station :=
  station.updateStream number fun stream => .new stream.block

/-! ### A stream at rest -/

/-- A stream that differs from a new one in how often it has subscribed at most. -/
def StreamAtRest (station : Station) (number : Nat) : Prop :=
  station.stream number =
    { LogStream.new (station.stream number).block with
      sessions := (station.stream number).sessions }

theorem streams_renewStream (rest : station.StreamAtRest number) :
    ((station.renewStream number).streams.mapIdx fun other stream =>
      stream.advance (station.madeBy (.stream number) (.stream other))) = station.streams := by
  refine mapIdx_modify (fun stream found => ?_) fun other stream different => ?_
  · have this : station.stream number = stream := by rw [Station.stream, found]; rfl
    rw [StreamAtRest, this] at rest
    simp only [madeBy, if_true, this]
    conv_rhs => rw [rest]
    simp [LogStream.advance, LogStream.new]
  · rw [madeBy_other fun same => different (Party.stream.inj same), LogStream.advance_zero]

theorem alike_renewStream (consistent : station.Consistent) (rest : station.StreamAtRest number) :
    Alike (station.madeBy (.stream number)) station (station.renewStream number) := by
  have unsubscribed : station.subscriptionOf (.stream number) = none := by
    rw [subscriptionOf, rest]
    rfl
  obtain ⟨connected, failed, disconnected, blocks⟩ := registries_advance consistent unsubscribed
  have bridges : (station.bridges.mapIdx fun other bridge =>
      bridge.advance (station.madeBy (.stream number) (.link other))) = station.bridges :=
    mapIdx_eq_self (fun _ bridge => bridge.advance_zero) _
  refine ⟨?_, fun _ _ => rfl, fun other outside => ?_⟩
  · rw [advance, streams_renewStream rest]
    simp only [renewStream, updateStream, connected, failed, disconnected, blocks, bridges]
  · rw [madeBy]
    split
    · next same =>
      cases same
      have beyond : station.streams.length ≤ number := by
        simpa [renewStream, updateStream] using outside
      simp only [stream_outside beyond]
      rfl
    · rfl

theorem StreamAtRest.indistinguishable (consistent : station.Consistent)
    (rest : station.StreamAtRest number) :
    station.Indistinguishable (station.renewStream number) :=
  (alike_renewStream consistent rest).indistinguishable

/-! ### What is left of a stream -/

/-- The stream is not connected, holds no sample, and neither an event nor a block calls it. -/
structure Vacated (station : Station) (number : Nat) : Prop where
  idle : (station.stream number).isConnected = false
  empty : (station.stream number).queue = []
  refusing : (station.stream number).accepting = false
  unheard : ∀ session, .stream number session ∉ station.disconnected.entries ∧
    ∀ block, .stream number session ∉ (station.block block).receivers.entries

theorem StreamAtRest.vacated (consistent : station.Consistent)
    (rest : station.StreamAtRest number) : station.Vacated number := by
  have unsubscribed : (station.stream number).subscription = none := by rw [rest]; rfl
  refine ⟨by rw [rest]; rfl, by rw [rest]; rfl, by rw [rest]; rfl, fun session => ⟨?_, ?_⟩⟩
  · intro listed
    cases unsubscribed.symm.trans ((consistent.disconnected.mem_iff _).mp listed)
  · intro block listed
    cases unsubscribed.symm.trans (((consistent.receivers block).mem_iff _).mp listed).2

theorem streamAtRest_release {stream : LogStream} (idle : stream.isConnected = false)
    (same : station.stream number = stream.release) : station.StreamAtRest number := by
  rw [StreamAtRest, same, LogStream.release, idle]
  rfl

theorem disconnectStream_atRest (consistent : station.Consistent)
    (inside : number < station.streams.length) :
    (station.disconnectStream number).Consistent ∧
      (station.disconnectStream number).StreamAtRest number := by
  cases connected : (station.stream number).isConnected with
  | true =>
      obtain ⟨formed, _, left⟩ := disconnectStream_of_connected consistent inside connected
      have idle : { station.stream number with isConnected := false }.isConnected = false := rfl
      exact ⟨formed, streamAtRest_release idle left⟩
  | false =>
      obtain ⟨formed, _, left⟩ := disconnectStream_of_idle consistent connected
      exact ⟨formed, streamAtRest_release connected left⟩

/-! ### The law -/

/-- A stream whose configuration is rejected: it gets the reason, the driver was asked for nothing
else, and the stream cannot be told from a new one. -/
structure Rejects (station : Station) (number : Nat) (reason : String) (after : Station) :
    Prop where
  outcome : station.connectStream number = (after, .error (.bridge (.logConfig reason)))
  calls : after.callsSince station = [.addConfig number (station.blockName number)]
  vacated : after.Vacated number
  renewed : after.Indistinguishable (after.renewStream number)

/-- How a stream is refused, rejected and disconnected. -/
structure Reusable (station : Station) (number : Nat) : Prop where
  /-- A connected stream is refused, and nothing is called or changed. -/
  refuses : (station.stream number).isConnected = true →
    station.connectStream number = (station, .error (.phase .alreadyConnected))
  /-- Whatever a lost connection has left behind, a rejection takes it away. -/
  rejects : ∀ reason, (station.stream number).isConnected = false →
    station.rejection = some reason → ∃ after, Rejects station number reason after
  /-- A disconnected stream has nothing left and cannot be told from a new one. -/
  disconnects : (station.disconnectStream number).Vacated number ∧
    (station.disconnectStream number).Indistinguishable
      ((station.disconnectStream number).renewStream number)

theorem Run.reusable (run : Run log station) (inside : number < station.streams.length) :
    Reusable station number where
  refuses := connectStream_of_connected
  rejects reason idle rejected := by
    obtain ⟨after, outcome, formed, passes, left⟩ :=
      connectStream_of_rejected run.consistent idle rejected
    have rest := streamAtRest_release idle left
    refine ⟨after, outcome, ?_, rest.vacated formed, rest.indistinguishable formed⟩
    rw [callsSince, since_eq passes.history]
    rfl
  disconnects :=
    have ⟨formed, rest⟩ := disconnectStream_atRest run.consistent inside
    ⟨rest.vacated formed, rest.indistinguishable formed⟩

/-- A stream that lost its link with a sample still queued, and that is then rejected. -/
theorem reusable_lost : ∃ log station after, Run log station ∧ 0 < station.streams.length ∧
    Reusable station 0 ∧ (station.stream 0).isConnected = false ∧
    (station.stream 0).queue = [⟨7, [], "battery"⟩] ∧
    (station.stream 0).subscription = some 0 ∧ station.rejection = some "full" ∧
    Rejects station 0 "full" after := by
  have added : Run _ _ := .step (.step .start (.addBlock "battery" "battery" [] [] []))
    (.addStream Nat.one_pos)
  have connected : Run _ _ := .step added (.connect Nat.one_pos)
  have sampled : Run _ _ := .step connected (.report (.sample "battery" 7 []))
  have lost : Run _ _ := .step sampled (.report .disconnected)
  have full : Run _ _ := .step lost (.reject (some "full"))
  have reusable := full.reusable Nat.one_pos
  obtain ⟨after, rejects⟩ := reusable.rejects "full" rfl rfl
  exact ⟨_, _, after, full, Nat.one_pos, reusable, rfl, rfl, rfl, rfl, rejects⟩

end VehicleLink.Bridge.Station
