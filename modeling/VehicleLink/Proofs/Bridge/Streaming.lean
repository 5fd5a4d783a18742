import VehicleLink.Proofs.Bridge.Actors

/-!
When a stream passes for connected. The flag is set after the block has been started, so it misses
the loss of a link that the driver reports while it starts the block. Such a stream takes no samples.
-/

namespace VehicleLink.Bridge

namespace Moment

def asksStart (number : Nat) : Moment → Bool
  | .incident (.called (.start stream _)) => stream = number
  | _ => false

def connects (number : Nat) : Moment → Bool
  | .done (.connected stream (.ok _)) => stream = number
  | _ => false

def disconnects (number : Nat) : Moment → Bool
  | .done (.disconnected stream) => stream = number
  | _ => false

/-- A reader is told that the stream has ended. -/
def ends (number : Nat) : Moment → Bool
  | .done (.read stream none) => stream = number
  | _ => false

end Moment

namespace Station

variable {station before after : Station} {stream next : LogStream} {deed : Deed}
  {log moments : List Moment} {number : Nat} {incidents : List Incident}

/-- What has happened since a stream last subscribed and asked the driver to start its block. -/
def sinceStart (number : Nat) (log : List Moment) : List Moment :=
  sinceLast (·.asksStart number) log

/-- The stream connected, and since it subscribed it was not disconnected and the link not lost. -/
def Streaming (number : Nat) (log : List Moment) : Prop :=
  (sinceStart number log).any (·.connects number) = true ∧
    (sinceStart number log).any (·.disconnects number) = false ∧
    (sinceStart number log).any (·.loses) = false

def afterStart (number : Nat) (log : List Moment) : List Moment :=
  (sinceStart number log).takeWhile (!·.connects number)

/-- The moments from the start of the block until the stream was connected. -/
def whileStarting (number : Nat) (log : List Moment) : List Moment :=
  (sinceStart number log).dropWhile (!·.connects number)

/-- The link was lost while the block was started, and nothing has ended the stream since. -/
def LostWhileStarting (number : Nat) (log : List Moment) : Prop :=
  (whileStarting number log).any (·.loses) = true ∧
    (afterStart number log).any (·.disconnects number) = false ∧
    (afterStart number log).any (·.ends number) = false ∧
    (afterStart number log).any (·.loses) = false

instance (number : Nat) (log : List Moment) : Decidable (LostWhileStarting number log) :=
  inferInstanceAs (Decidable (_ ∧ _ ∧ _ ∧ _))

theorem any_loses_of_lostWhileStarting (lost : LostWhileStarting number log) :
    (sinceStart number log).any (·.loses) = true := by
  obtain ⟨moment, member, loses⟩ := List.any_eq_true.mp lost.1
  exact List.any_eq_true.mpr ⟨moment, (List.dropWhile_sublist _).subset member, loses⟩

theorem not_lostWhileStarting (streaming : Streaming number log) :
    ¬ LostWhileStarting number log := by
  intro lost
  have loses := any_loses_of_lostWhileStarting lost
  rw [streaming.2.2] at loses
  cases loses

/-! ### Moments of others -/

/-- A moment in which a stream is neither started nor ended. -/
structure Apart (number : Nat) (moment : Moment) : Prop where
  asksStart : moment.asksStart number = false
  connects : moment.connects number = false
  disconnects : moment.disconnects number = false
  ends : moment.ends number = false

theorem apart_of_party {moment : Moment} (other : moment.party ≠ some (.stream number)) :
    Apart number moment := by
  cases moment with
  | incident happened =>
      cases happened with
      | called call =>
          cases call with
          | start stream name =>
              have different : stream ≠ number := fun same => other (by rw [same]; rfl)
              refine ⟨?_, rfl, rfl, rfl⟩
              simp [Moment.asksStart, different]
          | _ => exact ⟨rfl, rfl, rfl, rfl⟩
      | _ => exact ⟨rfl, rfl, rfl, rfl⟩
  | done deed =>
      cases deed with
      | connected stream outcome =>
          have different : stream ≠ number := fun same => other (by rw [same]; rfl)
          refine ⟨rfl, ?_, rfl, rfl⟩
          cases outcome <;> simp [Moment.connects, different]
      | disconnected stream =>
          have different : stream ≠ number := fun same => other (by rw [same]; rfl)
          refine ⟨rfl, rfl, ?_, rfl⟩
          simp [Moment.disconnects, different]
      | read stream entry =>
          have different : stream ≠ number := fun same => other (by rw [same]; rfl)
          refine ⟨rfl, rfl, rfl, ?_⟩
          cases entry <;> simp [Moment.ends, different]
      | _ => exact ⟨rfl, rfl, rfl, rfl⟩

theorem sinceStart_apart (apart : ∀ moment ∈ moments, Apart number moment) :
    sinceStart number (moments ++ log) = moments ++ sinceStart number log :=
  sinceLast_append (fun moment member => (apart moment member).asksStart) log

theorem streaming_apart (apart : ∀ moment ∈ moments, Apart number moment) :
    Streaming number (moments ++ log) ↔
      Streaming number log ∧ moments.any (·.loses) = false := by
  have unconnected : moments.any (·.connects number) = false :=
    any_eq_false_of_forall fun moment member => (apart moment member).connects
  have kept : moments.any (·.disconnects number) = false :=
    any_eq_false_of_forall fun moment member => (apart moment member).disconnects
  simp only [Streaming, sinceStart_apart apart, List.any_append, unconnected, kept, Bool.false_or,
    Bool.or_eq_false_iff]
  constructor
  · intro streaming
    obtain ⟨connected, stays, heard, unbroken⟩ := streaming
    exact ⟨⟨connected, stays, unbroken⟩, heard⟩
  · intro streaming
    obtain ⟨⟨connected, stays, unbroken⟩, heard⟩ := streaming
    exact ⟨connected, stays, heard, unbroken⟩

theorem lostWhileStarting_apart (apart : ∀ moment ∈ moments, Apart number moment) :
    LostWhileStarting number (moments ++ log) ↔
      LostWhileStarting number log ∧ moments.any (·.loses) = false := by
  have unconnected : ∀ moment ∈ moments, (!moment.connects number) = true :=
    fun moment member => by simp [(apart moment member).connects]
  have kept : moments.any (·.disconnects number) = false :=
    any_eq_false_of_forall fun moment member => (apart moment member).disconnects
  have unended : moments.any (·.ends number) = false :=
    any_eq_false_of_forall fun moment member => (apart moment member).ends
  simp only [LostWhileStarting, whileStarting, afterStart, sinceStart_apart apart,
    List.dropWhile_append_of_pos unconnected, List.takeWhile_append_of_pos unconnected,
    List.any_append, kept, unended, Bool.false_or, Bool.or_eq_false_iff]
  constructor
  · intro missed
    obtain ⟨lost, stays, ongoing, heard, unbroken⟩ := missed
    exact ⟨⟨lost, stays, ongoing, unbroken⟩, heard⟩
  · intro missed
    obtain ⟨⟨lost, stays, ongoing, unbroken⟩, heard⟩ := missed
    exact ⟨lost, stays, ongoing, heard, unbroken⟩

/-! ### Moments of the stream itself -/

theorem apart_incident {incident : Incident} (calls : CalledBy none incidents)
    (happened : incident ∈ incidents) : Apart number (.incident incident) :=
  apart_of_party (calls.foreign_incident happened _)

theorem sinceStart_asked (calls : CalledBy none incidents) (name : String) (before : Incident) :
    sinceStart number (deed.moments (before :: .called (.start number name) :: incidents) ++ log) =
      deed.moments incidents := by
  have split : deed.moments (before :: .called (.start number name) :: incidents) ++ log =
      deed.moments incidents ++
        .incident (.called (.start number name)) :: .incident before :: log := by
    simp [Deed.moments]
  have unasked : ∀ moment ∈ deed.moments incidents, moment.asksStart number = false :=
    Deed.unmarked_moments rfl fun _ happened => (apart_incident calls happened).asksStart
  rw [split]
  exact sinceLast_append_mark unasked (by simp [Moment.asksStart]) _

theorem streaming_connected (calls : CalledBy none incidents) (name : String)
    (before : Incident) :
    Streaming number ((Deed.connected number (.ok ())).moments
      (before :: .called (.start number name) :: incidents) ++ log) ↔
        .disconnected ∉ incidents := by
  have undisconnected : ∀ moment ∈ (Deed.connected number (.ok ())).moments incidents,
      moment.disconnects number = false := Deed.unmarked_moments rfl fun _ _ => rfl
  rw [Streaming, sinceStart_asked calls, any_eq_false_of_forall undisconnected,
    ← Bool.not_eq_true ((Deed.moments _ _).any _), Deed.loses_moments]
  refine (and_iff_right ?_).trans (and_iff_right rfl)
  simp [Deed.moments, Moment.connects]

theorem lostWhileStarting_connected (calls : CalledBy none incidents) (name : String)
    (before : Incident) :
    LostWhileStarting number ((Deed.connected number (.ok ())).moments
      (before :: .called (.start number name) :: incidents) ++ log) ↔
        .disconnected ∈ incidents := by
  have first : ¬ (!(Moment.done (.connected number (.ok ()))).connects number) = true := by
    simp [Moment.connects]
  have starting : ((Deed.connected number (.ok ())).moments incidents).dropWhile
      (!·.connects number) = (Deed.connected number (.ok ())).moments incidents :=
    List.dropWhile_cons_of_neg first
  have nothing : ((Deed.connected number (.ok ())).moments incidents).takeWhile
      (!·.connects number) = [] := List.takeWhile_cons_of_neg first
  rw [LostWhileStarting, whileStarting, afterStart, sinceStart_asked calls, starting, nothing,
    Deed.loses_moments]
  exact and_iff_left ⟨rfl, rfl, rfl⟩

theorem not_streaming_disconnected :
    ¬ Streaming number ((Deed.disconnected number).moments incidents ++ log) := by
  intro streaming
  have kept := streaming.2.1
  simp [Deed.moments, sinceStart, sinceLast, Moment.asksStart, Moment.disconnects] at kept

theorem not_lostWhileStarting_disconnected :
    ¬ LostWhileStarting number ((Deed.disconnected number).moments incidents ++ log) := by
  intro lost
  have kept := lost.2.1
  simp [Deed.moments, afterStart, sinceStart, sinceLast, Moment.asksStart, Moment.connects,
    Moment.disconnects] at kept

theorem not_lostWhileStarting_ended :
    ¬ LostWhileStarting number ((Deed.read number none).moments incidents ++ log) := by
  intro lost
  have unended := lost.2.2.1
  simp [Deed.moments, afterStart, sinceStart, sinceLast, Moment.asksStart, Moment.connects,
    Moment.ends] at unended

theorem streaming_of_ended (streaming : Streaming number ((Deed.read number none).moments [] ++ log)) :
    Streaming number log := by
  have added : sinceStart number ((Deed.read number none).moments [] ++ log) =
      .done (.read number none) :: sinceStart number log := rfl
  rw [Streaming, added] at streaming
  exact streaming

/-! ### The flag follows the log -/

/-- What the log of a run tells of a stream between two operations. -/
structure Carries (stream : LogStream) (number : Nat) (log : List Moment) : Prop where
  accepting : stream.accepting = true ↔ Streaming number log
  isConnected : stream.isConnected = true ↔ Streaming number log ∨ LostWhileStarting number log
  subscribed : stream.isConnected = true → stream.subscription.isSome = true

theorem Carries.apart (carries : Carries stream number log)
    (others : ∀ moment ∈ deed.moments incidents, Apart number moment) (block : Nat) :
    Carries { incidents.foldl .hear stream with block } number (deed.moments incidents ++ log) := by
  have streaming : Streaming number (deed.moments incidents ++ log) ↔ _ := streaming_apart others
  have lost : LostWhileStarting number (deed.moments incidents ++ log) ↔ _ :=
    lostWhileStarting_apart others
  rw [← Bool.not_eq_true, Deed.loses_moments] at streaming lost
  have connected : Streaming number log → stream.isConnected = true :=
    fun streaming => carries.isConnected.mpr (.inl streaming)
  have subscribed := carries.subscribed
  refine ⟨?_, ?_, ?_⟩
  · rw [streaming]
    refine (stream.accepting_foldl_hear incidents).trans ?_
    rw [carries.accepting]
    exact and_congr_right fun streaming => imp_iff_right (subscribed (connected streaming))
  · rw [streaming, lost, ← or_and_right, ← carries.isConnected]
    refine (stream.isConnected_foldl_hear incidents).trans ?_
    exact and_congr_right fun connected => imp_iff_right (subscribed connected)
  · intro still
    change (incidents.foldl LogStream.hear stream).subscription.isSome = true
    rw [stream.subscription_foldl_hear]
    exact subscribed ((stream.isConnected_foldl_hear incidents).mp still).1

theorem Carries.ended (idle : stream.isConnected = false)
    (refusing : stream.accepting = false) (notStreaming : ¬ Streaming number log)
    (notLost : ¬ LostWhileStarting number log) : Carries stream number log where
  accepting := iff_of_false (ne_true_of_eq_false refusing) notStreaming
  isConnected := iff_of_false (ne_true_of_eq_false idle) fun kept => kept.elim notStreaming notLost
  subscribed := fun connected => absurd connected (ne_true_of_eq_false idle)

theorem Carries.not_streaming (carries : Carries stream number log)
    (idle : stream.isConnected = false) : ¬ Streaming number log ∧ ¬ LostWhileStarting number log :=
  not_or.mp fun kept => ne_true_of_eq_false idle (carries.isConnected.mpr kept)

theorem Carries.refusing (carries : Carries stream number log)
    (idle : stream.isConnected = false) : stream.accepting = false := by
  rw [← Bool.not_eq_true, carries.accepting]
  exact (carries.not_streaming idle).1

theorem Carries.connected (calls : CalledBy none incidents) (name : String)
    (before : Incident) :
    Carries { incidents.foldl .hear stream.enroll with isConnected := true } number
      ((Deed.connected number (.ok ())).moments
        (before :: .called (.start number name) :: incidents) ++ log) where
  accepting := by
    rw [streaming_connected calls]
    refine (stream.enroll.accepting_foldl_hear incidents).trans ?_
    exact (and_iff_right rfl).trans (imp_iff_right rfl)
  isConnected := by
    rw [streaming_connected calls, lostWhileStarting_connected calls]
    exact iff_of_true rfl (Classical.em _).symm
  subscribed := fun _ => by
    change (incidents.foldl LogStream.hear stream.enroll).subscription.isSome = true
    rw [stream.enroll.subscription_foldl_hear]
    rfl

theorem Acts.carries {name : String} (acts : Acts number name stream deed incidents next)
    (carries : Carries stream number log) :
    Carries next number (deed.moments incidents ++ log) := by
  cases acts with
  | refused connected => exact carries.apart (Deed.forall_quiet ⟨rfl, rfl, rfl, rfl⟩) _
  | @rejected reason idle =>
      -- A rejected stream never subscribed: what came before still counts.
      have others : ∀ moment ∈ (Deed.connected number
          (.error (.bridge (.logConfig reason)))).moments [.called (.addConfig number name)],
          Apart number moment := by
        intro moment member
        rcases List.mem_cons.mp member with rfl | asked
        · exact ⟨rfl, rfl, rfl, rfl⟩
        · rw [List.mem_singleton.mp asked]
          exact ⟨rfl, rfl, rfl, rfl⟩
      obtain ⟨notStreaming, notLost⟩ := carries.not_streaming idle
      exact .ended idle rfl
        (fun streaming => notStreaming ((streaming_apart others).mp streaming).1)
        fun lost => notLost ((lostWhileStarting_apart others).mp lost).1
  | accepted idle reports => exact .connected reports _ _
  | stopped connected stops deletes =>
      exact .ended rfl rfl not_streaming_disconnected not_lostWhileStarting_disconnected
  | givenUp idle =>
      exact .ended idle rfl not_streaming_disconnected not_lostWhileStarting_disconnected
  | ended idle =>
      -- The reader of an idle stream is told so again.
      obtain ⟨notStreaming, _⟩ := carries.not_streaming idle
      exact .ended idle (carries.refusing idle) (notStreaming ∘ streaming_of_ended)
        not_lostWhileStarting_ended
  | noticed refusing =>
      -- Here a loss that came while the block was started is noticed at last.
      have notStreaming : ¬ Streaming number log := by
        rw [← carries.accepting]
        exact ne_true_of_eq_false refusing
      exact .ended rfl refusing (notStreaming ∘ streaming_of_ended) not_lostWhileStarting_ended
  | @taken entry rest connected queued =>
      have others : ∀ moment ∈ (Deed.read number (some entry)).moments [],
          Apart number moment := Deed.forall_quiet ⟨rfl, rfl, rfl, rfl⟩
      have taking := carries.apart others stream.block
      exact ⟨taking.accepting, taking.isConnected, taking.subscribed⟩

theorem Step.carries (consistent : before.Consistent)
    (carries : Carries (before.stream number) number log) (step : Step before deed after) :
    Carries (after.stream number) number (deed.moments (after.since before) ++ log) := by
  by_cases own : deed.actor = some (.stream number)
  · exact (step.acts consistent own).carries carries
  · have account := step.account consistent
    obtain ⟨block, same, _⟩ := account.stream number own
    rw [same]
    have others := account.calls.foreign_moments own
    exact carries.apart (fun moment member => apart_of_party (others moment member)) block

theorem carries_new (number : Nat) : Carries (.new 0) number [] :=
  .ended rfl rfl (fun streaming => nomatch streaming.1) fun lost => nomatch lost.1

theorem Run.carries (run : Run log station) (number : Nat) :
    Carries (station.stream number) number log := by
  induction run with
  | start => exact carries_new number
  | step run step ih => exact step.carries run.consistent ih

/-! ### Live streams -/

/-- Every sample that its block reports at present is queued. -/
def Live (station : Station) (number : Nat) : Prop :=
  (station.stream number).accepting = true ∧ ∀ name timestamp values,
    station.blockNames.lookup name = some (station.stream number).block →
    ((station.fire (.sample name timestamp values)).stream number).queue =
      (station.stream number).queue ++
        [⟨timestamp, values, (station.block (station.stream number).block).name⟩]

/-- A callback of the stream awaits the samples of its block and the loss of the link. -/
def Attached (station : Station) (number : Nat) : Prop :=
  ∃ session,
    .stream number session ∈
      (station.block (station.stream number).block).receivers.entries ∧
    .stream number session ∈ station.disconnected.entries

theorem Consistent.attached_iff (consistent : station.Consistent) :
    station.Attached number ↔ (station.stream number).subscription.isSome = true := by
  rw [Option.isSome_iff_exists]
  refine exists_congr fun session => ?_
  rw [(consistent.receivers _).mem_iff, consistent.disconnected.mem_iff]
  simp only [awaitsSamples, awaitsLoss, true_and, and_self]

theorem Consistent.live_iff (consistent : station.Consistent)
    (subscribed : (station.stream number).accepting = true →
      (station.stream number).subscription.isSome = true) :
    station.Live number ↔ (station.stream number).accepting = true := by
  refine and_iff_left_of_imp fun accepting name timestamp values named => ?_
  obtain ⟨_, passes⟩ := fire_passes consistent (.sample name timestamp values)
  rw [passes.stream number nofun]
  simp only [incident?, named, Option.map_some, Option.toList_some, List.foldl_cons,
    List.foldl_nil, LogStream.hear, subscribed accepting, and_self, if_true, LogStream.accept,
    accepting]

/-! ### A link that is lost while a block is started -/

/-- The driver will lose the link while it starts the block of a stream. -/
def failing : Station :=
  { empty with
    blocks := [⟨"stabilizer", .empty, [.disconnected], [], []⟩]
    blockNames := [("block", 0)]
    streams := [.new 0] }

def lossOnStart : List Moment :=
  [.done (.connected 0 (.ok ())), .incident .disconnected,
    .incident (.called (.start 0 "stabilizer")), .incident (.called (.addConfig 0 "stabilizer")),
    .done (.addedStream 0), .done (.addedBlock "block")]

theorem run_lossOnStart : Run lossOnStart (failing.connectStream 0).1 := by
  have ready : Run [.done (.addedStream 0), .done (.addedBlock "block")] failing :=
    .step (.step .start (.addBlock "block" "stabilizer" [.disconnected] [] []))
      (.addStream (show 0 < 1 by decide))
  have inside : 0 < failing.streams.length := by decide
  exact .step ready (.connect inside)

/-! ### The flag -/

/-- A stream passes for connected exactly if it is live or the link was lost while its block was
started. Its callbacks are subscribed either way, but in the second case no sample reaches it: that
is the one case in which the flag is wrong and the loss of a link does not clear it. -/
theorem Run.stream_flag_exact (run : Run log station) (number : Nat) :
    ((station.stream number).isConnected = true ↔
      Streaming number log ∨ LostWhileStarting number log) ∧
    ((station.stream number).isConnected = true → station.Attached number) ∧
    (station.Live number ↔ Streaming number log) ∧
    (((station.stream number).isConnected = true → station.Live number) ↔
      ¬ LostWhileStarting number log) ∧
    (((sinceStart number log).any (·.loses) = true → (station.stream number).isConnected = false) ↔
      ¬ LostWhileStarting number log) := by
  have consistent := run.consistent
  have carries := run.carries number
  have isConnected := carries.isConnected
  have subscribed : (station.stream number).accepting = true →
      (station.stream number).subscription.isSome = true := fun accepting =>
    carries.subscribed (isConnected.mpr (.inl (carries.accepting.mp accepting)))
  have live : station.Live number ↔ Streaming number log :=
    (consistent.live_iff subscribed).trans carries.accepting
  refine ⟨isConnected, ?_, live, ?_, ?_⟩
  · rw [consistent.attached_iff]
    exact carries.subscribed
  · rw [live, isConnected]
    constructor
    · intro queues lost
      exact not_lostWhileStarting (queues (.inr lost)) lost
    · exact fun unlost passes => passes.resolve_right unlost
  · rw [← Bool.not_eq_true, isConnected]
    constructor
    · intro clears lost
      exact clears (any_loses_of_lostWhileStarting lost) (.inr lost)
    · intro unlost loses passes
      have streaming := passes.resolve_right unlost
      exact ne_true_of_eq_false streaming.2.2 loses

theorem stream_flag_exact_lossOnStart : LostWhileStarting 0 lossOnStart ∧
    ((failing.connectStream 0).1.stream 0).isConnected = true := by
  have lost : LostWhileStarting 0 lossOnStart := by decide
  exact ⟨lost, (run_lossOnStart.stream_flag_exact 0).1.mpr (.inr lost)⟩

/-- The stream is left connected, though no sample will reach it. -/
theorem connected_after_loss : Run lossOnStart (failing.connectStream 0).1 ∧
    ¬ (((failing.connectStream 0).1.stream 0).isConnected = true →
      (failing.connectStream 0).1.Live 0) ∧
    ¬ ((sinceStart 0 lossOnStart).any (·.loses) = true →
      ((failing.connectStream 0).1.stream 0).isConnected = false) := by
  refine ⟨run_lossOnStart, fun live => ?_, by decide⟩
  have accepting := (live rfl).1
  revert accepting
  decide

end Station

end VehicleLink.Bridge
