import VehicleLink.Proofs.Bridge.Delivery

/-!
What a stream asks of the driver in the course of its life. A registration of its block is rejected,
or else the block is started at once; a block that was started is stopped and deleted at most once
before it is registered anew, and exactly once if the link lasts until the stream disconnects.
-/

namespace VehicleLink.Bridge

def Incident.callBy? (party : Party) : Incident → Option Call
  | .called call => if call.party = party then some call else none
  | .connected | .failed _ | .disconnected | .sampled .. => none

namespace Moment

def asksConfig (number : Nat) : Moment → Bool
  | .incident (.called (.addConfig stream _)) => stream = number
  | _ => false

/-- What came of a registration that a stream asked for. A connected stream asks for none. -/
def registration? (number : Nat) : Moment → Option (Except LinkError Unit)
  | .done (.connected _ (.error (.phase _))) => none
  | .done (.connected stream outcome) => if stream = number then some outcome else none
  | _ => none

end Moment

/-- A registration of the block of a stream and what became of the block until the next one. -/
inductive Episode where
  | rejected (reason : String)
  | accepted (halted : Bool)

namespace Episode

def calls (number : Nat) (name : String) : Episode → List Call
  | .rejected _ => [.addConfig number name]
  | .accepted false => [.addConfig number name, .start number name]
  | .accepted true =>
      [.addConfig number name, .start number name, .stop number name, .delete number name]

def outcome : Episode → Except LinkError Unit
  | .rejected reason => .error (.bridge (.logConfig reason))
  | .accepted _ => .ok ()

end Episode

namespace Station

variable {station before after started halted : Station} {stream next : LogStream} {deed : Deed}
  {log moments later : List Moment} {incidents : List Incident} {episodes : List Episode}
  {name : String} {number : Nat} {party : Party}

/-! ### Calls and registrations -/

def callsAmong (party : Party) (incidents : List Incident) : List Call :=
  incidents.filterMap (·.callBy? party)

def callsBy (station : Station) (party : Party) : List Call :=
  callsAmong party station.history.reverse

def registrations (number : Nat) (log : List Moment) : List (Except LinkError Unit) :=
  log.reverse.filterMap (·.registration? number)

theorem callsAmong_append (incidents later : List Incident) :
    callsAmong party (incidents ++ later) =
      callsAmong party incidents ++ callsAmong party later := List.filterMap_append

theorem callsAmong_called (party : Party) (call : Call) (incidents : List Incident) :
    callsAmong party (.called call :: incidents) =
      if call.party = party then call :: callsAmong party incidents
      else callsAmong party incidents := by
  by_cases own : call.party = party <;> simp [callsAmong, Incident.callBy?, own]

theorem callsAmong_eq_nil
    (others : ∀ incident ∈ incidents, (Moment.incident incident).party ≠ some party) :
    callsAmong party incidents = [] := by
  refine List.filterMap_eq_nil_iff.mpr fun incident happened => ?_
  cases incident with
  | called call => exact if_neg fun same => others (.called call) happened (congrArg some same)
  | connected | failed | disconnected | sampled => rfl

theorem CalledBy.callsAmong_eq_nil {actor : Option Party} (calls : CalledBy actor incidents)
    (other : actor ≠ some party) : callsAmong party incidents = [] := by
  refine Station.callsAmong_eq_nil fun incident happened => ?_
  rcases calls.party_incident happened with same | nobody
  · rwa [same]
  · rw [nobody]
    exact nofun

theorem Account.callsBy {actor : Option Party} (account : Account actor before after)
    (party : Party) :
    after.callsBy party = before.callsBy party ++ callsAmong party (after.since before) := by
  rw [Station.callsBy, account.history, List.reverse_append, List.reverse_reverse,
    callsAmong_append]
  rfl

theorem Account.callsBy_of_other {actor : Option Party} (account : Account actor before after)
    (other : actor ≠ some party) : after.callsBy party = before.callsBy party := by
  rw [account.callsBy, account.calls.callsAmong_eq_nil other, List.append_nil]

theorem registrations_moments (deed : Deed) (incidents : List Incident) (log : List Moment) :
    registrations number (deed.moments incidents ++ log) =
      registrations number log ++ ((Moment.done deed).registration? number).toList := by
  rw [registrations, List.reverse_append, List.filterMap_append,
    filterMap_moments (fun _ => rfl)]
  rfl

theorem registration_of_party {moment : Moment} (other : moment.party ≠ some (.stream number)) :
    moment.registration? number = none := by
  cases moment with
  | incident happened => rfl
  | done deed =>
      cases deed with
      | connected stream outcome =>
          have different : stream ≠ number := fun same => other (by rw [same]; rfl)
          unfold Moment.registration?
          split
          · rfl
          · next same =>
            cases same
            exact if_neg different
          · rfl
      | _ => rfl

/-! ### The name of the block -/

theorem Acts.block_eq (acts : Acts number name stream deed incidents next) :
    next.block = stream.block := by
  cases acts with
  | accepted idle reports => exact stream.release.enroll.block_foldl_hear _
  | _ => rfl

theorem Step.blockName (step : Step before deed after) (consistent : before.Consistent)
    (inside : number < before.streams.length) :
    after.blockName number = before.blockName number := by
  have account := step.account consistent
  have kept : (after.stream number).block = (before.stream number).block := by
    by_cases own : deed.actor = some (.stream number)
    · exact (step.acts consistent own).block_eq
    · obtain ⟨block, same, kept⟩ := account.stream number own
      rw [same]
      exact kept inside
  rw [Station.blockName, kept]
  exact account.grows.blockName _ (consistent.onBlocks number inside)

/-! ### One episode after the other -/

/-- The block of a connected stream is neither stopped nor deleted yet. -/
def Current (episodes : List Episode) (stream : LogStream) : Prop :=
  stream.isConnected = true → ∃ earlier, episodes = earlier ++ [.accepted false]

theorem current_of_idle (idle : stream.isConnected = false) : Current episodes stream :=
  fun connected => absurd connected (ne_true_of_eq_false idle)

/-- The episodes say what a stream asked of the driver and what it was told. -/
structure Tells (episodes : List Episode) (station : Station) (number : Nat) (log : List Moment) :
    Prop where
  calls : station.callsBy (.stream number) =
    episodes.flatMap (·.calls number (station.blockName number))
  registrations : registrations number log = episodes.map (·.outcome)
  current : Current episodes (station.stream number)

theorem callsAmong_connecting (reports : CalledBy none incidents) :
    callsAmong (.stream number)
        (.called (.addConfig number name) :: .called (.start number name) :: incidents) =
      (Episode.accepted false).calls number name := by
  have silent : callsAmong (.stream number) incidents = [] := reports.callsAmong_eq_nil nofun
  simp only [callsAmong_called, Call.party, if_true, silent, Episode.calls]

theorem callsAmong_disconnecting {onStop onDelete : List Incident} (stops : CalledBy none onStop)
    (deletes : CalledBy none onDelete) :
    callsAmong (.stream number)
        (.called (.stop number name) :: onStop ++ .called (.delete number name) :: onDelete) =
      [.stop number name, .delete number name] := by
  have stopping : callsAmong (.stream number) onStop = [] := stops.callsAmong_eq_nil nofun
  have deleting : callsAmong (.stream number) onDelete = [] := deletes.callsAmong_eq_nil nofun
  simp only [List.cons_append, callsAmong_called, callsAmong_append, Call.party, if_true, stopping,
    deleting, List.nil_append]

/-- An operation of a stream begins an episode, ends one or leaves them as they are. -/
theorem Acts.tells (acts : Acts number name stream deed incidents next)
    (current : Current episodes stream) :
    ∃ told : List Episode,
      told.flatMap (·.calls number name) =
        episodes.flatMap (·.calls number name) ++ callsAmong (.stream number) incidents ∧
      told.map (·.outcome) =
        episodes.map (·.outcome) ++ ((Moment.done deed).registration? number).toList ∧
      Current told next := by
  have uncalled : episodes.flatMap (·.calls number name) =
      episodes.flatMap (·.calls number name) ++ callsAmong (.stream number) [] :=
    (List.append_nil _).symm
  have unregistered : episodes.map (·.outcome) = episodes.map (·.outcome) ++ [] :=
    (List.append_nil _).symm
  cases acts with
  | refused connected => exact ⟨episodes, uncalled, unregistered, current⟩
  | @rejected reason idle =>
      refine ⟨episodes ++ [.rejected reason], ?_, ?_, current_of_idle idle⟩
      · simp [callsAmong, Incident.callBy?, Call.party, Episode.calls]
      · simp [Episode.outcome, Moment.registration?]
  | @accepted reported idle reports =>
      refine ⟨episodes ++ [.accepted false], ?_, ?_, fun _ => ⟨episodes, rfl⟩⟩
      · rw [List.flatMap_append, callsAmong_connecting reports, List.flatMap_singleton]
      · simp [Episode.outcome, Moment.registration?]
  | @stopped onStop onDelete connected stops deletes =>
      obtain ⟨earlier, rfl⟩ := current connected
      refine ⟨earlier ++ [.accepted true], ?_, ?_, current_of_idle rfl⟩
      · rw [callsAmong_disconnecting stops deletes, List.flatMap_append, List.flatMap_append,
          List.append_assoc]
        rfl
      · simp [Episode.outcome, Moment.registration?]
  | givenUp idle => exact ⟨episodes, uncalled, unregistered, current⟩
  | ended idle => exact ⟨episodes, uncalled, unregistered, current⟩
  | noticed refusing => exact ⟨episodes, uncalled, unregistered, current_of_idle rfl⟩
  | taken connected queued => exact ⟨episodes, uncalled, unregistered, current⟩

theorem Run.tells_nothing (run : Run log station) (outside : station.streams.length ≤ number) :
    Tells [] station number log where
  calls := by
    refine callsAmong_eq_nil fun incident happened => ?_
    rw [List.mem_reverse, ← run.history] at happened
    obtain ⟨moment, member, same⟩ := List.mem_filterMap.mp happened
    cases moment with
    | incident recorded =>
        cases same
        exact run.absent outside _ member
    | done deed => cases same
  registrations := List.filterMap_eq_nil_iff.mpr fun moment member =>
    registration_of_party (run.absent outside moment (List.mem_reverse.mp member))
  current := current_of_idle (by rw [stream_outside outside]; rfl)

theorem Step.tells (step : Step before deed after) (run : Run log before)
    (tells : Tells episodes before number log) :
    ∃ told, Tells told after number (deed.moments (after.since before) ++ log) := by
  have account := step.account run.consistent
  by_cases own : deed.actor = some (.stream number)
  · have name := step.blockName run.consistent (step.inside own)
    obtain ⟨told, calls, registered, current⟩ :=
      (step.acts run.consistent own).tells tells.current
    refine ⟨told, ?_, ?_, current⟩
    · rw [account.callsBy, tells.calls, name, calls]
    · rw [registrations_moments, tells.registrations, registered]
  · -- The step may add the stream or its block; then there is nothing to tell so far.
    have known : ∃ told, Tells told before number log ∧
        told.flatMap (·.calls number (after.blockName number)) =
          told.flatMap (·.calls number (before.blockName number)) := by
      rcases Nat.lt_or_ge number before.streams.length with inside | outside
      · exact ⟨episodes, tells, by rw [step.blockName run.consistent inside]⟩
      · exact ⟨[], run.tells_nothing outside, rfl⟩
    obtain ⟨told, tells, named⟩ := known
    have unregistered : (Moment.done deed).registration? number = none :=
      registration_of_party own
    obtain ⟨block, same, _⟩ := account.stream number own
    refine ⟨told, ?_, ?_, fun connected => tells.current ?_⟩
    · rw [account.callsBy_of_other own, tells.calls, named]
    · rw [registrations_moments, tells.registrations, unregistered, Option.toList_none,
        List.append_nil]
    · rw [same] at connected
      exact (((before.stream number).isConnected_foldl_hear _).mp connected).1

theorem Run.tells (run : Run log station) (number : Nat) :
    ∃ episodes, Tells episodes station number log := by
  induction run with
  | start => exact ⟨[], Run.start.tells_nothing (Nat.zero_le number)⟩
  | step run step ih =>
      obtain ⟨episodes, tells⟩ := ih
      exact step.tells run tells

/-! ### While the link lasts -/

/-- Nothing in which the link is lost or the stream disconnects. -/
def Unbroken (number : Nat) (moments : List Moment) : Prop :=
  ∀ moment ∈ moments, moment.loses = false ∧ moment.disconnects number = false

instance (number : Nat) (moments : List Moment) : Decidable (Unbroken number moments) :=
  inferInstanceAs (Decidable (∀ moment ∈ moments, _))

/-- A connected stream stays connected, asks nothing of the driver and keeps accepting samples.
Only a reader who finds that it does not accept any can end it. -/
theorem Acts.lasts (acts : Acts number name stream deed incidents next)
    (connected : stream.isConnected = true) (unbroken : Unbroken number (deed.moments incidents))
    (unended : stream.accepting = true ∨
      ∀ moment ∈ deed.moments incidents, moment.ends number = false) :
    next.isConnected = true ∧ (stream.accepting = true → next.accepting = true) ∧
      callsAmong (.stream number) incidents = [] := by
  have stays := (unbroken (.done deed) List.mem_cons_self).2
  cases acts with
  | refused => exact ⟨connected, id, rfl⟩
  | taken => exact ⟨connected, id, rfl⟩
  | rejected idle | accepted idle | ended idle =>
      rw [connected] at idle
      cases idle
  | stopped | givenUp => simp [Moment.disconnects] at stays
  | noticed refusing =>
      rcases unended with accepting | unended
      · rw [accepting] at refusing
        cases refusing
      · have untold := unended (.done (.read number none)) List.mem_cons_self
        simp [Moment.ends] at untold

/-- A stream that is not connected asks nothing of the driver unless it registers its block. -/
theorem Acts.rests (acts : Acts number name stream deed incidents next)
    (idle : stream.isConnected = false)
    (unasked : ∀ moment ∈ deed.moments incidents, moment.asksConfig number = false) :
    next.isConnected = false ∧ callsAmong (.stream number) incidents = [] := by
  cases acts with
  | refused connected | stopped connected | taken connected =>
      rw [connected] at idle
      cases idle
  | rejected | accepted =>
      have asked := unasked (.incident (.called (.addConfig number name))) (by simp [Deed.moments])
      simp [Moment.asksConfig] at asked
  | givenUp | ended => exact ⟨idle, rfl⟩
  | noticed => exact ⟨rfl, rfl⟩

theorem Unbroken.undisconnected (unbroken : Unbroken number (deed.moments incidents)) :
    .disconnected ∉ incidents := by
  rw [← deed.loses_moments, Bool.not_eq_true]
  exact any_eq_false_of_forall fun moment member => (unbroken moment member).1

/-- From one station to a later one a stream is connected all along. -/
structure Lasts (number : Nat) (before after : Station) : Prop where
  connected : (after.stream number).isConnected = true
  accepting : (before.stream number).accepting = true → (after.stream number).accepting = true
  calls : after.callsBy (.stream number) = before.callsBy (.stream number)

theorem Step.lasts (step : Step before deed after) (consistent : before.Consistent)
    (connected : (before.stream number).isConnected = true)
    (unbroken : Unbroken number (deed.moments (after.since before)))
    (unended : (before.stream number).accepting = true ∨
      ∀ moment ∈ deed.moments (after.since before), moment.ends number = false) :
    Lasts number before after := by
  have account := step.account consistent
  by_cases own : deed.actor = some (.stream number)
  · obtain ⟨still, accepting, silent⟩ :=
      (step.acts consistent own).lasts connected unbroken unended
    exact ⟨still, accepting, by rw [account.callsBy, silent, List.append_nil]⟩
  · obtain ⟨block, same, _⟩ := account.stream number own
    have unlost := unbroken.undisconnected
    refine ⟨?_, fun accepting => ?_, account.callsBy_of_other own⟩
    · rw [same]
      exact (LogStream.isConnected_foldl_hear _ _).mpr ⟨connected, fun _ => unlost⟩
    · rw [same]
      exact (LogStream.accepting_foldl_hear _ _).mpr ⟨accepting, fun _ => unlost⟩

theorem Path.lasts (path : Path started moments before) (run : Run log started)
    (connected : (started.stream number).isConnected = true) (unbroken : Unbroken number moments)
    (unended : (started.stream number).accepting = true ∨
      ∀ moment ∈ moments, moment.ends number = false) : Lasts number started before := by
  -- While samples are accepted no reader comes to the end, so that one of the two is enough.
  induction path with
  | refl => exact ⟨connected, id, rfl⟩
  | step path step ih =>
      obtain ⟨now, earlier⟩ := List.forall_mem_append.mp unbroken
      have lasting := ih earlier (unended.imp_right fun unended =>
        (List.forall_mem_append.mp unended).2)
      have lasts := step.lasts (run.path path).consistent lasting.connected now
        (unended.imp lasting.accepting fun unended => (List.forall_mem_append.mp unended).1)
      exact ⟨lasts.connected, lasts.accepting ∘ lasting.accepting,
        lasts.calls.trans lasting.calls⟩

/-- From one station to a later one a stream is not connected and does not ask to be. -/
structure Rests (number : Nat) (before after : Station) : Prop where
  idle : (after.stream number).isConnected = false
  calls : after.callsBy (.stream number) = before.callsBy (.stream number)

theorem Step.rests (step : Step before deed after) (consistent : before.Consistent)
    (idle : (before.stream number).isConnected = false)
    (unasked : ∀ moment ∈ deed.moments (after.since before), moment.asksConfig number = false) :
    Rests number before after := by
  have account := step.account consistent
  by_cases own : deed.actor = some (.stream number)
  · obtain ⟨still, silent⟩ := (step.acts consistent own).rests idle unasked
    exact ⟨still, by rw [account.callsBy, silent, List.append_nil]⟩
  · obtain ⟨block, same, _⟩ := account.stream number own
    refine ⟨?_, account.callsBy_of_other own⟩
    rw [same]
    exact LogStream.idle_foldl_hear idle _

theorem Path.rests (path : Path halted later after) (run : Run log halted)
    (idle : (halted.stream number).isConnected = false)
    (unasked : ∀ moment ∈ later, moment.asksConfig number = false) :
    Rests number halted after := by
  induction path with
  | refl => exact ⟨idle, rfl⟩
  | step path step ih =>
      obtain ⟨now, earlier⟩ := List.forall_mem_append.mp unasked
      have resting := ih earlier
      have rests := step.rests (run.path path).consistent resting.idle now
      exact ⟨rests.idle, rests.calls.trans resting.calls⟩

theorem Path.blockName (path : Path station moments after) (run : Run log station)
    (inside : number < station.streams.length) :
    number < after.streams.length ∧ after.blockName number = station.blockName number := by
  induction path with
  | refl => exact ⟨inside, rfl⟩
  | step path step ih =>
      obtain ⟨within, name⟩ := ih
      have consistent := (run.path path).consistent
      have grows := (step.account consistent).grows.streams
      exact ⟨Nat.lt_of_lt_of_le within grows, (step.blockName consistent within).trans name⟩

theorem Step.connected_calls (step : Step before (.connected number (.ok ())) after)
    (consistent : before.Consistent) :
    (after.stream number).isConnected = true ∧
      (.disconnected ∉ after.since before → (after.stream number).accepting = true) ∧
      after.callsBy (.stream number) = before.callsBy (.stream number) ++
        (Episode.accepted false).calls number (before.blockName number) := by
  have acts : Acts number (before.blockName number) _ _ _ _ := step.acts consistent rfl
  rw [(step.account consistent).callsBy]
  generalize after.since before = incidents at acts
  generalize after.stream number = next at acts
  cases acts with
  | accepted idle reports =>
      refine ⟨rfl, fun unlost => ?_, by rw [callsAmong_connecting reports]⟩
      refine (LogStream.accepting_foldl_hear _ _).mpr ⟨rfl, fun _ lost => unlost ?_⟩
      exact List.mem_cons_of_mem _ (List.mem_cons_of_mem _ lost)

theorem Step.disconnected_calls (step : Step before (.disconnected number) after)
    (consistent : before.Consistent) (connected : (before.stream number).isConnected = true) :
    (after.stream number).isConnected = false ∧
      after.callsBy (.stream number) = before.callsBy (.stream number) ++
        [.stop number (before.blockName number), .delete number (before.blockName number)] := by
  have acts : Acts number (before.blockName number) _ _ _ _ := step.acts consistent rfl
  rw [(step.account consistent).callsBy]
  generalize after.since before = incidents at acts
  generalize after.stream number = next at acts
  cases acts with
  | stopped _ stops deletes => exact ⟨rfl, by rw [callsAmong_disconnecting stops deletes]⟩
  | givenUp idle =>
      rw [connected] at idle
      cases idle

/-- The calls of a stream are those of its registrations, one after the other: a rejected one is a
call by itself, an accepted one is followed by the start of the block and then at most once by its
stop and its deletion. If the link is not lost from the beginning of an accepted one until the
stream disconnects, the block has been stopped and deleted exactly once when it is registered
again, however often the stream is asked to disconnect meanwhile. A loss while the block is started
does not matter as long as no reader has come to the end. -/
theorem Run.block_life_cycle (run : Run log station) (number : Nat) :
    (∃ episodes : List Episode,
      station.callsBy (.stream number) =
        episodes.flatMap (·.calls number (station.blockName number)) ∧
      registrations number log = episodes.map (·.outcome)) ∧
    ∀ started moments before halted later after,
      Step station (.connected number (.ok ())) started → Path started moments before →
      Unbroken number moments →
      (.disconnected ∉ started.since station ∨ ∀ moment ∈ moments, moment.ends number = false) →
      Step before (.disconnected number) halted → Path halted later after →
      (∀ moment ∈ later, moment.asksConfig number = false) →
      after.callsBy (.stream number) = station.callsBy (.stream number) ++
        (Episode.accepted true).calls number (station.blockName number) := by
  obtain ⟨episodes, tells⟩ := run.tells number
  refine ⟨⟨episodes, tells.calls, tells.registrations⟩, ?_⟩
  intro started moments before halted later after connects lasting unbroken unended disconnects
    resting unasked
  have consistent := run.consistent
  have runStarted := Run.step run connects
  have runBefore := runStarted.path lasting
  have inside := connects.inside rfl
  obtain ⟨connected, accepting, starts⟩ := connects.connected_calls consistent
  have lasts := lasting.lasts runStarted connected unbroken (unended.imp_left accepting)
  obtain ⟨idle, stops⟩ := disconnects.disconnected_calls runBefore.consistent lasts.connected
  have rests := resting.rests (.step runBefore disconnects) idle unasked
  have within := Nat.lt_of_lt_of_le inside (connects.account consistent).grows.streams
  have name : before.blockName number = station.blockName number :=
    (lasting.blockName runStarted within).2.trans (connects.blockName consistent inside)
  calc after.callsBy (.stream number)
    _ = before.callsBy (.stream number) ++ [.stop number (station.blockName number),
          .delete number (station.blockName number)] := by rw [rests.calls, stops, name]
    _ = station.callsBy (.stream number) ++
          (Episode.accepted true).calls number (station.blockName number) := by
        rw [lasts.calls, starts, List.append_assoc]
        rfl

/-- A block that reports while it is started, stopped and deleted, also the loss of the link. It was
rejected once. -/
def onceRejected : Station :=
  { empty with
    blocks := [⟨"gyro", .empty, [.sample "block" 1 []], [.disconnected, .sample "block" 2 []],
      [.disconnected]⟩]
    blockNames := [("block", 0)]
    streams := [.new 0]
    history := [.called (.addConfig 0 "gyro")] }

theorem block_life_cycle_disconnectedTwice : ∃ log after, Run log onceRejected ∧
    registrations 0 log = [.error (.bridge (.logConfig "too big"))] ∧
    Path (onceRejected.connectStream 0).1 [.done (.read 0 (some (gyroAt 1)))] after ∧
    (((after.disconnectStream 0).disconnectStream 0).callsBy (.stream 0) =
      [.addConfig 0 "gyro", .addConfig 0 "gyro", .start 0 "gyro", .stop 0 "gyro",
        .delete 0 "gyro"]) := by
  have onBlock : 0 < 1 := by decide
  have ready := Run.step (.step (.step .start (.addBlock "block" "gyro" [.sample "block" 1 []]
    [.disconnected, .sample "block" 2 []] [.disconnected])) (.addStream onBlock))
    (.reject (some "too big"))
  have run : Run _ onceRejected := .step (.step ready (.connect onBlock)) (.reject none)
  have taken := Path.step (@Path.refl (onceRejected.connectStream 0).1) (.read onBlock rfl)
  have reading : Path _ [.done (.read 0 (some (gyroAt 1)))] _ := taken
  obtain ⟨_, whole⟩ := run.block_life_cycle 0
  have calls := whole _ _ _ _ _ _ (.connect onBlock) reading (by decide) (.inl (by decide))
    (.disconnect onBlock) (.step .refl (.disconnect onBlock)) (by decide)
  exact ⟨_, _, run, rfl, reading, calls⟩

end Station

end VehicleLink.Bridge
