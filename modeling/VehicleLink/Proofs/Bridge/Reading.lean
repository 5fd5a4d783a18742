import VehicleLink.Proofs.Bridge.Delivery

/-!
When a reader of a stream waits. It waits only for a live stream with an empty queue. Once the link
is lost, readers get what was queued before at most, and after that they are told the end of the
stream again and again until it connects anew.
-/

namespace VehicleLink.Bridge.Station

variable {station before after : Station} {stream next : LogStream} {deed : Deed}
  {log moments : List Moment} {incidents : List Incident} {queue : List Entry}
  {told : List (Option Entry)} {number : Nat}

/-! ### Waiting -/

theorem nextEntry_eq_none_iff :
    station.nextEntry number = none ↔ (station.stream number).isConnected = true ∧
      (station.stream number).queue = [] ∧ (station.stream number).accepting = true := by
  unfold nextEntry
  cases connected : (station.stream number).isConnected with
  | false => simp [connected]
  | true =>
      cases queued : (station.stream number).queue with
      | cons first rest => simp [connected, queued]
      | nil =>
          cases accepting : (station.stream number).accepting <;>
            simp [connected, queued, accepting]

theorem Carries.accepting_iff (carries : Carries stream number log)
    (connected : stream.isConnected = true) :
    stream.accepting = true ↔ (sinceStart number log).any (·.loses) = false ∧
      (sinceStart number log).any (·.disconnects number) = false := by
  rw [carries.accepting]
  constructor
  · exact fun streaming => ⟨streaming.2.2, streaming.2.1⟩
  · intro unbroken
    refine (carries.isConnected.mp connected).resolve_right fun lost => ?_
    exact ne_true_of_eq_false unbroken.1 (any_loses_of_lostWhileStarting lost)

theorem Run.nextEntry_waits_iff (run : Run log station) (number : Nat) :
    station.nextEntry number = none ↔ (station.stream number).isConnected = true ∧
      (station.stream number).queue = [] ∧ (sinceStart number log).any (·.loses) = false ∧
      (sinceStart number log).any (·.disconnects number) = false := by
  rw [nextEntry_eq_none_iff]
  exact and_congr_right fun connected =>
    and_congr_right fun _ => (run.carries number).accepting_iff connected

theorem Run.woken (run : Run log station) (waits : station.nextEntry number = none) :
    ∃ after, (station.fire .disconnected).nextEntry number = some (after, none) := by
  obtain ⟨_, _, accepting⟩ := nextEntry_eq_none_iff.mp waits
  have subscribed := ((run.carries number).attached accepting).2
  obtain ⟨_, passes⟩ := fire_passes run.consistent .disconnected
  have lost : (station.fire .disconnected).stream number = (station.stream number).lose :=
    (passes.stream number nofun).trans (if_pos subscribed)
  refine ⟨station.fire .disconnected, ?_⟩
  rw [nextEntry, lost]
  rfl

/-! ### Running dry -/

/-- Readers of a stream were told some of the queue, in order, and then only that it has ended. -/
structure Drained (queue : List Entry) (told : List (Option Entry)) (stream : LogStream) :
    Prop where
  refusing : stream.accepting = false
  told : ∃ taken count, told = taken.map some ++ List.replicate count none ∧
    taken ++ stream.queue <+: queue ∧ (0 < count → stream.isConnected = false)

theorem drained_refl (refusing : stream.accepting = false) : Drained stream.queue [] stream :=
  ⟨refusing, [], 0, rfl, List.prefix_rfl, nofun⟩

/-- Where no reader is told anything, the stream keeps what it has or drops it. -/
theorem Drained.silent (drained : Drained queue told stream)
    (unanswered : (Moment.done deed).answer? number = none) (refusing : next.accepting = false)
    (rest : next.queue <+: stream.queue)
    (idle : stream.isConnected = false → next.isConnected = false) :
    Drained queue (told ++ ((Moment.done deed).answer? number).toList) next := by
  obtain ⟨taken, count, answered, within, ended⟩ := drained.told
  rw [unanswered, Option.toList_none, List.append_nil]
  exact ⟨refusing, taken, count, answered,
    ((List.prefix_append_right_inj taken).mpr rest).trans within,
    fun positive => idle (ended positive)⟩

theorem Drained.ended (drained : Drained queue told stream) (refusing : next.accepting = false)
    (rest : next.queue = stream.queue) (idle : next.isConnected = false) :
    Drained queue (told ++ [none]) next := by
  obtain ⟨taken, count, answered, within, _⟩ := drained.told
  refine ⟨refusing, taken, count + 1, ?_, rest ▸ within, fun _ => idle⟩
  rw [answered, List.replicate_succ', List.append_assoc]

theorem Drained.taken {entry : Entry} {rest : List Entry} (drained : Drained queue told stream)
    (connected : stream.isConnected = true) (queued : stream.queue = entry :: rest) :
    Drained queue (told ++ [some entry]) { stream with queue := rest } := by
  obtain ⟨taken, count, answered, within, ended⟩ := drained.told
  have none : count = 0 := by
    refine Nat.eq_zero_of_not_pos fun positive => ?_
    rw [ended positive] at connected
    cases connected
  subst none
  refine ⟨drained.refusing, taken ++ [entry], 0, ?_, ?_, nofun⟩
  · rw [answered]
    simp
  · rwa [List.append_assoc, List.singleton_append, ← queued]

theorem Acts.drained {name : String} (acts : Acts number name stream deed incidents next)
    (unstarted : ∀ moment ∈ deed.moments incidents, moment.asksStart number = false)
    (drained : Drained queue told stream) :
    Drained queue (told ++ answers number (deed.moments incidents)) next := by
  rw [answers_moments]
  cases acts with
  | refused connected => exact drained.silent rfl drained.refusing List.prefix_rfl id
  | rejected idle => exact drained.silent rfl rfl List.nil_prefix id
  | @accepted reported idle reports =>
      have started := unstarted (.incident (.called (.start number name))) (by simp [Deed.moments])
      simp [Moment.asksStart] at started
  | stopped connected stops deletes => exact drained.silent rfl rfl List.nil_prefix fun _ => rfl
  | givenUp idle => exact drained.silent rfl rfl List.nil_prefix id
  | ended idle =>
      rw [Moment.answer?, if_pos rfl]
      exact drained.ended drained.refusing rfl idle
  | noticed refusing =>
      rw [Moment.answer?, if_pos rfl]
      exact drained.ended refusing rfl rfl
  | taken connected queued =>
      rw [Moment.answer?, if_pos rfl]
      exact drained.taken connected queued

theorem Step.drained (step : Step before deed after) (consistent : before.Consistent)
    (unstarted : ∀ moment ∈ deed.moments (after.since before), moment.asksStart number = false)
    (drained : Drained queue told (before.stream number)) :
    Drained queue (told ++ answers number (deed.moments (after.since before)))
      (after.stream number) := by
  by_cases own : deed.actor = some (.stream number)
  · exact (step.acts consistent own).drained unstarted drained
  · have unanswered := (step.unrelated consistent own).unanswered
    obtain ⟨block, same, _⟩ := (step.account consistent).stream number own
    have queue := LogStream.queue_foldl_hear_of_refusing drained.refusing (after.since before)
    rw [answers_moments, same]
    exact drained.silent unanswered (LogStream.refusing_foldl_hear drained.refusing _)
      (queue ▸ List.prefix_rfl) fun idle => LogStream.idle_foldl_hear idle _

theorem Path.drained (path : Path station moments after) (run : Run log station)
    (refusing : (station.stream number).accepting = false)
    (unstarted : ∀ moment ∈ moments, moment.asksStart number = false) :
    Drained (station.stream number).queue (answers number moments) (after.stream number) := by
  induction path with
  | refl => exact drained_refl refusing
  | step path step ih =>
      obtain ⟨later, earlier⟩ := List.forall_mem_append.mp unstarted
      rw [answers_append]
      exact step.drained (run.path path).consistent later (ih earlier)

/-- A reader waits for a connected stream whose queue is empty and which neither the loss of the
link nor a disconnection has ended since it subscribed, and a loss of the link wakes it. After the
loss readers get at most the samples that were queued, which the block reported before the loss,
and then they are told of the end until the stream subscribes anew. -/
theorem Run.reads_to_the_end (run : Run log station) (number : Nat) :
    (station.nextEntry number = none ↔ (station.stream number).isConnected = true ∧
      (station.stream number).queue = [] ∧ (sinceStart number log).any (·.loses) = false ∧
      (sinceStart number log).any (·.disconnects number) = false) ∧
    (station.nextEntry number = none →
      ∃ after, (station.fire .disconnected).nextEntry number = some (after, none)) ∧
    ((sinceStart number log).any (·.loses) = true →
      returned number log ++ (station.stream number).queue <+:
        due (station.stream number).block number log ∧
      ∀ moments after, Path station moments after →
        (∀ moment ∈ moments, moment.asksStart number = false) →
        after.nextEntry number ≠ none ∧
        ∃ taken count, answers number moments = taken.map some ++ List.replicate count none ∧
          taken <+: (station.stream number).queue) := by
  refine ⟨run.nextEntry_waits_iff number, run.woken, fun lost => ⟨(run.serves number).ahead,
    fun moments after path unstarted => ⟨fun waits => ?_, ?_⟩⟩⟩
  · have unlost := (((run.path path).nextEntry_waits_iff number).mp waits).2.2.1
    rw [sinceStart_append unstarted, List.any_append, lost, Bool.or_true] at unlost
    cases unlost
  · have refusing : (station.stream number).accepting = false := by
      rw [← Bool.not_eq_true, (run.carries number).accepting]
      exact fun streaming => ne_true_of_eq_false streaming.2.2 lost
    obtain ⟨taken, count, answered, within, _⟩ := (path.drained run refusing unstarted).told
    exact ⟨taken, count, answered, (List.prefix_append _ _).trans within⟩

/-- The driver will lose the link while it starts the block of a stream, between two samples. -/
def breaking : Station :=
  { empty with
    blocks :=
      [⟨"gyro", .empty, [.sample "block" 1 [], .disconnected, .sample "block" 2 []], [], []⟩]
    blockNames := [("block", 0)]
    streams := [.new 0] }

def cutShort : List Moment :=
  [.done (.connected 0 (.ok ())), .incident (.sampled 0 (gyroAt 2)), .incident .disconnected,
    .incident (.sampled 0 (gyroAt 1)), .incident (.called (.start 0 "gyro")),
    .incident (.called (.addConfig 0 "gyro")), .done (.addedStream 0), .done (.addedBlock "block")]

def readings : List Moment :=
  [.done (.read 0 none), .done (.read 0 none), .done (.read 0 (some (gyroAt 1)))]

theorem reads_to_the_end_cutShort : Run cutShort (breaking.connectStream 0).1 ∧
    ∃ after, Path (breaking.connectStream 0).1 readings after ∧ after.nextEntry 0 ≠ none ∧
      ∃ taken count, answers 0 readings = taken.map some ++ List.replicate count none ∧
        taken <+: ((breaking.connectStream 0).1.stream 0).queue := by
  have onBlock : 0 < 1 := by decide
  have ready : Run [.done (.addedStream 0), .done (.addedBlock "block")] breaking :=
    .step (.step .start (.addBlock "block" "gyro"
      [.sample "block" 1 [], .disconnected, .sample "block" 2 []] [] [])) (.addStream onBlock)
  have run : Run cutShort (breaking.connectStream 0).1 := .step ready (.connect onBlock)
  have first := Path.step (@Path.refl (breaking.connectStream 0).1) (.read onBlock rfl)
  have second := Path.step first (.read onBlock rfl)
  have path : Path _ readings _ := .step second (.read onBlock rfl)
  obtain ⟨_, _, drains⟩ := run.reads_to_the_end 0
  obtain ⟨_, dry⟩ := drains (by decide)
  exact ⟨run, _, path, dry readings _ path (by decide)⟩

end VehicleLink.Bridge.Station
