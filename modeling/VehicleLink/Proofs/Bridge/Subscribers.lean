import Mathlib.Data.List.Nodup
import VehicleLink.Proofs.Bridge.OpenFlag
import VehicleLink.Proofs.Bridge.Streaming

/-!
How many subscribers each registry of a station has. A bridge counts once from an attempt that
succeeds until it is closed or given up, fails to open or loses its link. A stream counts once from
its connection until it disconnects or its block is rejected; the loss of the link does not matter.
Nothing is left behind, and nothing is subscribed twice.
-/

namespace VehicleLink.Bridge

namespace Moment

/-- A bridge has failed to open, or is closed or given up. -/
def endsLink (number : Nat) : Moment → Bool
  | .done (.opened bridge (.error (.bridge _))) => bridge = number
  | .done (.closed bridge) | .done (.droppedBridge bridge) => bridge = number
  | _ => false

/-- A stream disconnects, or its block is rejected. -/
def endsStream (number : Nat) : Moment → Bool
  | .done (.connected stream (.error (.bridge _))) => stream = number
  | .done (.disconnected stream) => stream = number
  | _ => false

end Moment

namespace Station

variable {station before after : Station} {bridge nextBridge : LinkBridge}
  {stream nextStream : LogStream} {deed : Deed} {log moments : List Moment}
  {incidents : List Incident} {moment : Moment} {name : String} {number : Nat}

/-- The last attempt of a bridge succeeded, and since the bridge subscribed for it, it was not
ended and the link not lost. An open bridge that is to open again makes no attempt. -/
def LinkSubscribed (number : Nat) (log : List Moment) : Prop :=
  (sinceAttempt number log).any (·.opens number) = true ∧
    (sinceAttempt number log).any (·.endsLink number) = false ∧
    (sinceAttempt number log).any (·.loses) = false

/-- A stream was connected, and it was not ended since it last was. -/
def StreamSubscribed (number : Nat) (log : List Moment) : Prop :=
  log.any (·.connects number) = true ∧
    (sinceLast (·.connects number) log).any (·.endsStream number) = false

instance (number : Nat) (log : List Moment) : Decidable (LinkSubscribed number log) :=
  inferInstanceAs (Decidable (_ ∧ _ ∧ _))

instance (number : Nat) (log : List Moment) : Decidable (StreamSubscribed number log) :=
  inferInstanceAs (Decidable (_ ∧ _))

/-! ### Bridges -/

theorem endsLink_of_party (other : moment.party ≠ some (.link number)) :
    moment.endsLink number = false := by
  cases moment with
  | incident happened => rfl
  | done deed =>
      cases deed with
      | opened bridge outcome =>
          have different : bridge ≠ number := fun same => other (by rw [same]; rfl)
          rcases outcome with (_ | _) | _ <;> simp [Moment.endsLink, different]
      | closed bridge | droppedBridge bridge =>
          have different : bridge ≠ number := fun same => other (by rw [same]; rfl)
          exact decide_eq_false different
      | _ => rfl

theorem linkSubscribed_aside (aside : ∀ moment ∈ moments, Aside number moment)
    (kept : ∀ moment ∈ moments, moment.endsLink number = false) :
    LinkSubscribed number (moments ++ log) ↔
      LinkSubscribed number log ∧ moments.any (·.loses) = false := by
  have unopened : moments.any (·.opens number) = false :=
    any_eq_false_of_forall fun moment member => (aside moment member).opens
  simp only [LinkSubscribed, sinceAttempt_aside aside, List.any_append, unopened,
    any_eq_false_of_forall kept, Bool.false_or, Bool.or_eq_false_iff]
  constructor
  · intro subscribed
    obtain ⟨opened, stays, heard, unlost⟩ := subscribed
    exact ⟨⟨opened, stays, unlost⟩, heard⟩
  · intro subscribed
    obtain ⟨⟨opened, stays, unlost⟩, heard⟩ := subscribed
    exact ⟨opened, stays, heard, unlost⟩

theorem linkSubscribed_opened (reports : CalledBy none incidents) (uri : String) :
    LinkSubscribed number ((Deed.opened number (.ok ())).moments
      (.called (.openLink number uri) :: incidents) ++ log) ↔ .disconnected ∉ incidents := by
  have stays : ((Deed.opened number (.ok ())).moments incidents).any (·.endsLink number) = false :=
    any_eq_false_of_forall (Deed.unmarked_moments rfl fun _ _ => rfl)
  rw [LinkSubscribed, sinceAttempt_asked reports, stays,
    ← Bool.not_eq_true ((Deed.moments _ _).any _), Deed.loses_moments]
  refine (and_iff_right ?_).trans (and_iff_right rfl)
  simp [Deed.moments, Moment.opens]

theorem not_linkSubscribed_ended (ends : (Moment.done deed).endsLink number = true) :
    ¬ LinkSubscribed number (deed.moments incidents ++ log) := by
  intro subscribed
  have stays := subscribed.2.1
  simp [Deed.moments, sinceAttempt, sinceLast, Moment.asksOpen, ends] at stays

theorem LinkActs.subscribed (acts : LinkActs number bridge deed incidents nextBridge)
    (subscribed : bridge.lifecycle.isSome = true ↔ LinkSubscribed number log) :
    nextBridge.lifecycle.isSome = true ↔ LinkSubscribed number (deed.moments incidents ++ log) := by
  cases acts with
  | refused isOpen =>
      rw [subscribed, linkSubscribed_aside (Deed.forall_quiet ⟨rfl, rfl, rfl⟩)
        (Deed.forall_quiet rfl)]
      exact (and_iff_left rfl).symm
  | opened closed reports =>
      rw [linkSubscribed_opened reports]
      exact (bridge.begin.isSome_lifecycle_foldl_hear _).trans (and_iff_right rfl)
  | failed => exact iff_of_false nofun (not_linkSubscribed_ended (decide_eq_true rfl))
  | closed deeds =>
      refine iff_of_false nofun (not_linkSubscribed_ended ?_)
      rcases deeds with rfl | rfl <;> exact decide_eq_true rfl
  | givenUp => exact iff_of_false nofun (not_linkSubscribed_ended (decide_eq_true rfl))

theorem Step.linkSubscribed (step : Step before deed after) (consistent : before.Consistent)
    (subscribed : (before.bridge number).lifecycle.isSome = true ↔ LinkSubscribed number log) :
    (after.bridge number).lifecycle.isSome = true ↔
      LinkSubscribed number (deed.moments (after.since before) ++ log) := by
  by_cases own : deed.actor = some (.link number)
  · exact (step.linkActs consistent own).subscribed subscribed
  · have account := step.account consistent
    have others := account.calls.foreign_moments own
    obtain ⟨uri, same⟩ := account.bridge number own
    rw [same, linkSubscribed_aside (fun moment member => aside_of_party (others moment member))
      fun moment member => endsLink_of_party (others moment member), ← Bool.not_eq_true,
      Deed.loses_moments, ← subscribed]
    exact (before.bridge number).isSome_lifecycle_foldl_hear _

theorem Run.linkSubscribed (run : Run log station) (number : Nat) :
    (station.bridge number).lifecycle.isSome = true ↔ LinkSubscribed number log := by
  induction run with
  | start => exact iff_of_false nofun fun subscribed => nomatch subscribed.1
  | step run step ih => exact step.linkSubscribed run.consistent ih

/-! ### Streams -/

theorem endsStream_of_party (other : moment.party ≠ some (.stream number)) :
    moment.endsStream number = false := by
  cases moment with
  | incident happened => rfl
  | done deed =>
      cases deed with
      | connected stream outcome =>
          have different : stream ≠ number := fun same => other (by rw [same]; rfl)
          rcases outcome with (_ | _) | _ <;> simp [Moment.endsStream, different]
      | disconnected stream =>
          have different : stream ≠ number := fun same => other (by rw [same]; rfl)
          exact decide_eq_false different
      | _ => rfl

theorem streamSubscribed_apart (unconnected : ∀ moment ∈ moments, moment.connects number = false)
    (kept : ∀ moment ∈ moments, moment.endsStream number = false) :
    StreamSubscribed number (moments ++ log) ↔ StreamSubscribed number log := by
  rw [StreamSubscribed, StreamSubscribed, sinceLast_append unconnected, List.any_append,
    List.any_append, any_eq_false_of_forall unconnected, any_eq_false_of_forall kept,
    Bool.false_or, Bool.false_or]

theorem streamSubscribed_connected :
    StreamSubscribed number ((Deed.connected number (.ok ())).moments incidents ++ log) := by
  simp [StreamSubscribed, Deed.moments, sinceLast, Moment.connects]

theorem not_streamSubscribed_ended (unconnected : (Moment.done deed).connects number = false)
    (ends : (Moment.done deed).endsStream number = true) :
    ¬ StreamSubscribed number (deed.moments incidents ++ log) := by
  intro subscribed
  have stays := subscribed.2
  simp [Deed.moments, sinceLast, unconnected, ends] at stays

theorem Acts.subscribed (acts : Acts number name stream deed incidents nextStream)
    (subscribed : stream.subscription.isSome = true ↔ StreamSubscribed number log) :
    nextStream.subscription.isSome = true ↔
      StreamSubscribed number (deed.moments incidents ++ log) := by
  cases acts with
  | refused connected =>
      rw [streamSubscribed_apart (Deed.forall_quiet rfl) (Deed.forall_quiet rfl)]
      exact subscribed
  | rejected => exact iff_of_false nofun (not_streamSubscribed_ended rfl (decide_eq_true rfl))
  | accepted idle reports =>
      refine iff_of_true ?_ streamSubscribed_connected
      rw [LogStream.subscription_foldl_hear]
      rfl
  | stopped | givenUp =>
      exact iff_of_false nofun (not_streamSubscribed_ended rfl (decide_eq_true rfl))
  | ended | noticed | taken =>
      rw [streamSubscribed_apart (Deed.forall_quiet rfl) (Deed.forall_quiet rfl)]
      exact subscribed

theorem Step.streamSubscribed (step : Step before deed after) (consistent : before.Consistent)
    (subscribed : (before.stream number).subscription.isSome = true ↔
      StreamSubscribed number log) :
    (after.stream number).subscription.isSome = true ↔
      StreamSubscribed number (deed.moments (after.since before) ++ log) := by
  by_cases own : deed.actor = some (.stream number)
  · exact (step.acts consistent own).subscribed subscribed
  · have account := step.account consistent
    have others := account.calls.foreign_moments own
    obtain ⟨block, same, _⟩ := account.stream number own
    have unconnected : ∀ moment ∈ deed.moments (after.since before),
        moment.connects number = false :=
      fun moment member => (apart_of_party (others moment member)).connects
    rw [streamSubscribed_apart unconnected fun moment member =>
      endsStream_of_party (others moment member), same, ← subscribed]
    exact iff_of_eq (congrArg (·.isSome = true) (LogStream.subscription_foldl_hear _ _))

theorem Run.streamSubscribed (run : Run log station) (number : Nat) :
    (station.stream number).subscription.isSome = true ↔ StreamSubscribed number log := by
  induction run with
  | start => exact iff_of_false nofun fun subscribed => nomatch subscribed.1
  | step run step ih => exact step.streamSubscribed run.consistent ih

/-! ### Counting -/

/-- The callbacks of those who hold a subscription, among the first so many. -/
def enlisted (count : Nat) (enlist : Nat → Nat → Subscriber) (held : Nat → Option Nat) :
    List Subscriber :=
  (List.range count).filterMap fun number => (held number).map (enlist number)

theorem length_enlisted (count : Nat) (enlist : Nat → Nat → Subscriber) (held : Nat → Option Nat) :
    (enlisted count enlist held).length =
      (List.range count).countP fun number => (held number).isSome := by
  simp only [enlisted, List.length_filterMap_eq_countP, Option.isSome_map]

theorem mem_enlisted {count : Nat} {enlist : Nat → Nat → Subscriber} {held : Nat → Option Nat}
    (outside : ∀ number, count ≤ number → held number = none) (subscriber : Subscriber) :
    subscriber ∈ enlisted count enlist held ↔
      ∃ number session, held number = some session ∧ enlist number session = subscriber := by
  simp only [enlisted, List.mem_filterMap, List.mem_range, Option.map_eq_some_iff]
  constructor
  · rintro ⟨number, _, session, holds, rfl⟩
    exact ⟨number, session, holds, rfl⟩
  · rintro ⟨number, session, holds, rfl⟩
    refine ⟨number, Nat.lt_of_not_le fun beyond => ?_, session, holds, rfl⟩
    rw [outside number beyond] at holds
    cases holds

theorem nodup_enlisted {enlist : Nat → Nat → Subscriber}
    (distinct : ∀ first session second other,
      enlist first session = enlist second other → first = second) (count : Nat)
    (held : Nat → Option Nat) : (enlisted count enlist held).Nodup := by
  refine List.nodup_range.filterMap fun first second subscriber one two => ?_
  obtain ⟨session, _, rfl⟩ := Option.map_eq_some_iff.mp one
  obtain ⟨other, _, same⟩ := Option.map_eq_some_iff.mp two
  exact (distinct second other first session same).symm

/-- A registry has one entry for each bridge and for each stream that holds a subscription. -/
theorem size_eq_countP {registry : Registry Subscriber} {kind : Subscriber → Prop}
    (lists : registry.Lists kind) (bridges streams : Nat) (links entries : Nat → Option Nat)
    (ofLink : ∀ number session, kind (.link number session) ↔ links number = some session)
    (ofStream : ∀ number session, kind (.stream number session) ↔ entries number = some session)
    (noLink : ∀ number, bridges ≤ number → links number = none)
    (noStream : ∀ number, streams ≤ number → entries number = none) :
    registry.size = ((List.range bridges).countP fun number => (links number).isSome) +
      (List.range streams).countP fun number => (entries number).isSome := by
  have members : ∀ subscriber, subscriber ∈ registry.entries ↔
      subscriber ∈ enlisted bridges .link links ++ enlisted streams .stream entries := by
    intro subscriber
    rw [lists.mem_iff, List.mem_append, mem_enlisted noLink, mem_enlisted noStream]
    cases subscriber <;> simp [ofLink, ofStream]
  have distinct : (enlisted bridges .link links ++ enlisted streams .stream entries).Nodup := by
    refine List.nodup_append'.mpr ⟨nodup_enlisted (by simp) _ _, nodup_enlisted (by simp) _ _, ?_⟩
    intro subscriber asLink asStream
    obtain ⟨_, _, _, rfl⟩ := (mem_enlisted noLink _).mp asLink
    obtain ⟨_, _, _, same⟩ := (mem_enlisted noStream _).mp asStream
    cases same
  have same := ((List.perm_ext_iff_of_nodup lists.nodup distinct).mpr members).length_eq
  rw [Registry.size, same, List.length_append, length_enlisted, length_enlisted]

theorem lifecycle_outside (number : Nat) (outside : station.bridges.length ≤ number) :
    (station.bridge number).lifecycle = none := by
  rw [bridge_outside outside]
  rfl

theorem subscription_outside (number : Nat) (outside : station.streams.length ≤ number) :
    (station.stream number).subscription = none := by
  rw [stream_outside outside]
  rfl

theorem length_toList_map (enlist : Nat → Subscriber) (held : Option Nat) :
    (held.map enlist).toList.length = if held.isSome then 1 else 0 := by
  cases held <;> rfl

def subscribedLinks (station : Station) (log : List Moment) : Nat :=
  (List.range station.bridges.length).countP (LinkSubscribed · log)

def subscribedStreams (station : Station) (log : List Moment) : Nat :=
  (List.range station.streams.length).countP (StreamSubscribed · log)

def subscribedStreamsOn (station : Station) (block : Nat) (log : List Moment) : Nat :=
  (List.range station.streams.length).countP fun number =>
    (station.stream number).block = block ∧ StreamSubscribed number log

theorem Run.countP_lifecycle (run : Run log station) :
    ((List.range station.bridges.length).countP fun number =>
      (station.bridge number).lifecycle.isSome) = station.subscribedLinks log :=
  List.countP_congr fun number _ => (run.linkSubscribed number).trans decide_eq_true_iff.symm

theorem Run.countP_subscription (run : Run log station) :
    ((List.range station.streams.length).countP fun number =>
      (station.stream number).subscription.isSome) = station.subscribedStreams log :=
  List.countP_congr fun number _ => (run.streamSubscribed number).trans decide_eq_true_iff.symm

theorem Run.subscriptionOn_isSome (run : Run log station) (block number : Nat) :
    (station.subscriptionOn block number).isSome = true ↔
      (station.stream number).block = block ∧ StreamSubscribed number log := by
  rw [← run.streamSubscribed number, subscriptionOn]
  split
  · next here => exact (and_iff_right here).symm
  · next elsewhere => exact iff_of_false nofun fun both => elsewhere both.1

theorem Run.size_outcomes (run : Run log station) {registry : Registry Subscriber}
    (lists : registry.Lists station.awaitsOutcome) :
    registry.size = station.subscribedLinks log := by
  rw [← run.countP_lifecycle]
  exact size_eq_countP lists _ 0 (fun number => (station.bridge number).lifecycle) (fun _ => none)
    (fun _ _ => Iff.rfl) (fun _ _ => iff_of_false id nofun) lifecycle_outside fun _ _ => rfl

theorem Run.size_disconnected (run : Run log station) :
    station.disconnected.size = station.subscribedLinks log + station.subscribedStreams log := by
  rw [← run.countP_lifecycle, ← run.countP_subscription]
  exact size_eq_countP run.consistent.disconnected _ _ _ _ (fun _ _ => Iff.rfl)
    (fun _ _ => Iff.rfl) lifecycle_outside subscription_outside

theorem Run.size_receivers (run : Run log station) (block : Nat) :
    (station.block block).receivers.size = station.subscribedStreamsOn block log := by
  have onBlock := size_eq_countP (run.consistent.receivers block) 0 station.streams.length
    (fun _ => none) (station.subscriptionOn block) (fun _ _ => iff_of_false id nofun)
    (awaitsSamples_iff block) (fun _ _ => rfl) fun number outside => by
      rw [subscriptionOn, subscription_outside number outside, ite_self]
  refine onBlock.trans ((Nat.zero_add _).trans (List.countP_congr fun number _ => ?_))
  exact (run.subscriptionOn_isSome block number).trans decide_eq_true_iff.symm

theorem Run.count_isLink (run : Run log station) {registry : Registry Subscriber}
    {kind : Subscriber → Prop} (lists : registry.Lists kind)
    (links : ∀ bridge session,
      kind (.link bridge session) ↔ (station.bridge bridge).lifecycle = some session)
    (number : Nat) :
    registry.count (·.isLink number) = if LinkSubscribed number log then 1 else 0 := by
  rw [Registry.count, filter_isLink lists links, length_toList_map]
  exact if_congr (run.linkSubscribed number) rfl rfl

/-- After every operation the outcomes of attempts are awaited by the bridges that are subscribed,
the loss of the link by these and by the streams that are subscribed, and the samples of a block by
those of the streams that are on it; each of them has one callback there and no other has any. -/
theorem Run.subscribers_exact (run : Run log station) :
    station.connected.size = station.subscribedLinks log ∧
    station.failed.size = station.subscribedLinks log ∧
    station.disconnected.size = station.subscribedLinks log + station.subscribedStreams log ∧
    (∀ block, (station.block block).receivers.size = station.subscribedStreamsOn block log) ∧
    (∀ number, ∀ registry ∈ [station.connected, station.failed, station.disconnected],
      registry.count (·.isLink number) = if LinkSubscribed number log then 1 else 0) ∧
    ∀ number,
      (station.disconnected.count (·.isStream number) =
        if StreamSubscribed number log then 1 else 0) ∧
      ∀ block, (station.block block).receivers.count (·.isStream number) =
        if (station.stream number).block = block ∧ StreamSubscribed number log then 1 else 0 := by
  have consistent := run.consistent
  refine ⟨run.size_outcomes consistent.connected, run.size_outcomes consistent.failed,
    run.size_disconnected, run.size_receivers, fun number registry member => ?_,
    fun number => ⟨?_, fun block => ?_⟩⟩
  · simp only [List.mem_cons, List.not_mem_nil, or_false] at member
    rcases member with rfl | rfl | rfl
    · exact run.count_isLink consistent.connected (fun _ _ => Iff.rfl) number
    · exact run.count_isLink consistent.failed (fun _ _ => Iff.rfl) number
    · exact run.count_isLink consistent.disconnected (fun _ _ => Iff.rfl) number
  · rw [Registry.count, filter_isStream _ consistent.disconnected fun _ => Iff.rfl,
      length_toList_map]
    exact if_congr (run.streamSubscribed number) rfl rfl
  · rw [Registry.count,
      filter_isStream _ (consistent.receivers block) (awaitsSamples_iff block number),
      length_toList_map]
    exact if_congr (run.subscriptionOn_isSome block number) rfl rfl

/-- Two bridges and two streams of one block lose the link. Then one bridge opens it anew, and the
block is rejected when one stream connects anew. -/
def regained : List Moment :=
  [.done (.connected 0 (.error (.bridge (.logConfig "too big")))),
    .incident (.called (.addConfig 0 "gyro")), .done .arranged,
    .done (.opened 0 (.ok ())), .incident .connected,
    .incident (.called (.openLink 0 "10.0.0.1")),
    .done (.reported .disconnected), .incident .disconnected,
    .done (.connected 1 (.ok ())), .incident (.called (.start 1 "gyro")),
    .incident (.called (.addConfig 1 "gyro")),
    .done (.connected 0 (.ok ())), .incident (.called (.start 0 "gyro")),
    .incident (.called (.addConfig 0 "gyro")),
    .done (.opened 1 (.ok ())), .incident .connected,
    .incident (.called (.openLink 1 "10.0.0.1")),
    .done (.opened 0 (.ok ())), .incident .connected,
    .incident (.called (.openLink 0 "10.0.0.1")),
    .done .arranged, .done (.addedBridge "10.0.0.1"), .done (.addedBridge "10.0.0.1"),
    .done (.addedStream 0), .done (.addedStream 0), .done (.addedBlock "block")]

theorem subscribers_exact_regained : ∃ station, Run regained station ∧
    station.connected.size = 1 ∧ station.failed.size = 1 ∧ station.disconnected.size = 2 ∧
    (station.block 0).receivers.size = 1 ∧ station.connected.count (·.isLink 0) = 1 ∧
    station.connected.count (·.isLink 1) = 0 := by
  have onBlock : 0 < 1 := by decide
  have first : 0 < 2 := by decide
  have second : 1 < 2 := by decide
  have streams := Run.step (.step (.step .start (.addBlock "block" "gyro" [] [] []))
    (.addStream onBlock)) (.addStream onBlock)
  have ready := Run.step (.step (.step streams (.addBridge "10.0.0.1")) (.addBridge "10.0.0.1"))
    (.onOpen [.connected])
  have opened := Run.step (.step ready (.openLink first rfl)) (.openLink second rfl)
  have connected := Run.step (.step opened (.connect first)) (.connect second)
  have lost := Run.step (.step connected (.report .disconnected)) (.openLink first rfl)
  have run : Run regained _ := .step (.step lost (.reject (some "too big"))) (.connect first)
  obtain ⟨awaited, failures, losses, receivers, links, _⟩ := run.subscribers_exact
  exact ⟨_, run, awaited, failures, losses, receivers 0, links 0 _ List.mem_cons_self,
    links 1 _ List.mem_cons_self⟩

end Station

end VehicleLink.Bridge
