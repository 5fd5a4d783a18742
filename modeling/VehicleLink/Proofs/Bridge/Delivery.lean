import Mathlib.Data.List.TakeWhile
import VehicleLink.Proofs.Bridge.Streaming

/-!
What a reader gets from a stream. From the moment at which a stream subscribes until the link is
lost or the stream disconnects, each sample of its block is queued once. A reader gets these samples
one by one in the order in which they were reported, and none of an earlier connection.
-/

namespace VehicleLink.Bridge

def Incident.sample? (block : Nat) : Incident → Option Entry
  | .sampled number entry => if number = block then some entry else none
  | .called _ | .connected | .failed _ | .disconnected => none

namespace Moment

def sample? (block : Nat) : Moment → Option Entry
  | .incident happened => happened.sample? block
  | .done _ => none

def answer? (number : Nat) : Moment → Option (Option Entry)
  | .done (.read stream entry) => if stream = number then some entry else none
  | _ => none

/-- From here on no sample is meant for a stream: the link is lost, or the stream disconnects. A
connected stream disconnects by stopping its block. -/
def cutsOff (number : Nat) : Moment → Bool
  | .incident .disconnected => true
  | .incident (.called (.stop stream _)) => stream = number
  | .done (.disconnected stream) => stream = number
  | _ => false

end Moment

def samplesUntilLoss (block : Nat) (incidents : List Incident) : List Entry :=
  (incidents.takeWhile (· ≠ .disconnected)).filterMap (·.sample? block)

/-! ### The queue of a stream -/

namespace LogStream

theorem queue_foldl_hear_of_refusing {stream : LogStream} (refusing : stream.accepting = false)
    (incidents : List Incident) : (incidents.foldl hear stream).queue = stream.queue := by
  induction incidents generalizing stream with
  | nil => rfl
  | cons incident rest ih =>
      rw [List.foldl_cons]
      rcases stream.hear_cases incident with same | lost | ⟨entry, accepting, _⟩
      · rw [same, ih refusing]
      · rw [lost, ih rfl]
        rfl
      · rw [refusing] at accepting
        cases accepting

theorem queue_foldl_hear (stream : LogStream) (accepting : stream.accepting = true)
    (subscribed : stream.subscription.isSome = true) (incidents : List Incident) :
    (incidents.foldl hear stream).queue =
      stream.queue ++ samplesUntilLoss stream.block incidents := by
  induction incidents generalizing stream with
  | nil => exact (List.append_nil _).symm
  | cons incident rest ih =>
      rw [List.foldl_cons]
      cases incident with
      | disconnected =>
          have lost : stream.hear .disconnected = stream.lose := if_pos subscribed
          rw [lost, queue_foldl_hear_of_refusing rfl]
          exact (List.append_nil _).symm
      | sampled block entry =>
          by_cases here : block = stream.block
          · have queued : stream.hear (.sampled block entry) =
                { stream with queue := stream.queue ++ [entry] } := by
              simp only [hear, here, subscribed, and_self, if_true, accept, accepting]
            rw [queued, ih { stream with queue := stream.queue ++ [entry] } accepting subscribed]
            simp [samplesUntilLoss, Incident.sample?, here]
          · have unheard : stream.hear (.sampled block entry) = stream :=
              if_neg fun both => here both.1.symm
            rw [unheard, ih stream accepting subscribed]
            simp [samplesUntilLoss, Incident.sample?, here]
      | called | connected | failed => exact ih stream accepting subscribed

theorem idle_foldl_hear {stream : LogStream} (idle : stream.isConnected = false)
    (incidents : List Incident) : (incidents.foldl hear stream).isConnected = false := by
  rw [← Bool.not_eq_true, stream.isConnected_foldl_hear, idle]
  exact nofun

theorem refusing_foldl_hear {stream : LogStream} (refusing : stream.accepting = false)
    (incidents : List Incident) : (incidents.foldl hear stream).accepting = false := by
  rw [← Bool.not_eq_true, stream.accepting_foldl_hear, refusing]
  exact nofun

end LogStream

namespace Station

variable {station before after : Station} {stream next : LogStream} {deed : Deed}
  {log moments : List Moment} {incidents : List Incident} {block number : Nat}

/-! ### What is due and what was returned -/

def answers (number : Nat) (moments : List Moment) : List (Option Entry) :=
  moments.reverse.filterMap (·.answer? number)

/-- The samples that readers have got since the stream last subscribed. -/
def returned (number : Nat) (log : List Moment) : List Entry :=
  (answers number (sinceStart number log)).filterMap id

/-- The samples of its block that are meant for a stream since it last subscribed. -/
def due (block number : Nat) (log : List Moment) : List Entry :=
  if log.any (·.asksStart number) then
    ((sinceStart number log).reverse.takeWhile (!·.cutsOff number)).filterMap (·.sample? block)
  else []

structure Uninterrupted (number : Nat) (log : List Moment) : Prop where
  started : log.any (·.asksStart number) = true
  uncut : ∀ moment ∈ sinceStart number log, moment.cutsOff number = false

theorem answers_append (moments log : List Moment) :
    answers number (moments ++ log) = answers number log ++ answers number moments := by
  rw [answers, List.reverse_append, List.filterMap_append]
  rfl

theorem reverse_moments (deed : Deed) (incidents : List Incident) :
    (deed.moments incidents).reverse = incidents.map .incident ++ [.done deed] := by
  rw [Deed.moments, List.reverse_cons, ← List.map_reverse, List.reverse_reverse]

theorem filterMap_moments {Seen : Type} {view : Moment → Option Seen}
    (unseen : ∀ incident, view (.incident incident) = none) (deed : Deed)
    (incidents : List Incident) :
    (deed.moments incidents).reverse.filterMap view = (view (.done deed)).toList := by
  have nothing : (incidents.map Moment.incident).filterMap view = [] := by
    rw [List.filterMap_map]
    exact List.filterMap_eq_nil_iff.mpr fun incident _ => unseen incident
  rw [reverse_moments, List.filterMap_append, nothing, List.nil_append]
  cases seen : view (.done deed) <;> simp [seen]

theorem answers_moments (deed : Deed) (incidents : List Incident) :
    answers number (deed.moments incidents) = ((Moment.done deed).answer? number).toList :=
  filterMap_moments (fun _ => rfl) deed incidents

theorem sinceStart_append (unasked : ∀ moment ∈ moments, moment.asksStart number = false) :
    sinceStart number (moments ++ log) = moments ++ sinceStart number log :=
  sinceLast_append unasked log

theorem returned_append (unasked : ∀ moment ∈ moments, moment.asksStart number = false) :
    returned number (moments ++ log) =
      returned number log ++ (answers number moments).filterMap id := by
  rw [returned, sinceStart_append unasked, answers_append, List.filterMap_append]
  rfl

theorem any_asksStart_append (unasked : ∀ moment ∈ moments, moment.asksStart number = false) :
    (moments ++ log).any (·.asksStart number) = log.any (·.asksStart number) := by
  rw [List.any_append, any_eq_false_of_forall unasked, Bool.false_or]

theorem due_append (unasked : ∀ moment ∈ moments, moment.asksStart number = false) :
    due block number log <+: due block number (moments ++ log) := by
  rw [due, due, any_asksStart_append unasked, sinceStart_append unasked, List.reverse_append,
    List.takeWhile_append]
  split
  · refine List.IsPrefix.filterMap _ ?_
    split
    · exact (List.takeWhile_prefix _).trans (List.prefix_append _ _)
    · exact List.prefix_rfl
  · exact List.prefix_rfl

theorem due_append_of_cut (unasked : ∀ moment ∈ moments, moment.asksStart number = false)
    (cut : (sinceStart number log).any (·.cutsOff number) = true) :
    due block number (moments ++ log) = due block number log := by
  have ends : ((sinceStart number log).reverse.takeWhile (!·.cutsOff number)).length ≠
      (sinceStart number log).reverse.length := by
    intro whole
    obtain ⟨moment, member, cutsOff⟩ := List.any_eq_true.mp cut
    have kept := List.takeWhile_eq_self_iff.mp ((List.takeWhile_prefix _).eq_of_length whole) moment
      (List.mem_reverse.mpr member)
    rw [cutsOff] at kept
    cases kept
  rw [due, due, any_asksStart_append unasked, sinceStart_append unasked, List.reverse_append,
    List.takeWhile_append, if_neg ends]

/-- Incidents that neither start nor stop the block of a stream. -/
def Calm (number : Nat) (incidents : List Incident) : Prop :=
  ∀ incident ∈ incidents, (Moment.incident incident).asksStart number = false ∧
    (Moment.incident incident).cutsOff number = decide (incident = .disconnected)

theorem Calm.unasked (calm : Calm number incidents)
    (done : (Moment.done deed).asksStart number = false) :
    ∀ moment ∈ deed.moments incidents, moment.asksStart number = false :=
  Deed.unmarked_moments done fun incident happened => (calm incident happened).1

theorem Calm.uncut (calm : Calm number incidents) (unlost : .disconnected ∉ incidents)
    (done : (Moment.done deed).cutsOff number = false) :
    ∀ moment ∈ deed.moments incidents, moment.cutsOff number = false := by
  refine Deed.unmarked_moments done fun incident happened => ?_
  rw [(calm incident happened).2]
  exact decide_eq_false fun lost => unlost (lost ▸ happened)

theorem takeWhile_moments (calm : Calm number incidents) (deed : Deed) :
    ((deed.moments incidents).reverse.takeWhile (!·.cutsOff number)).filterMap (·.sample? block) =
      samplesUntilLoss block incidents := by
  rw [reverse_moments]
  induction incidents with
  | nil =>
      cases cut : (Moment.done deed).cutsOff number <;>
        simp [cut, samplesUntilLoss, Moment.sample?]
  | cons incident rest ih =>
      obtain ⟨⟨_, cut⟩, others⟩ := List.forall_mem_cons.mp calm
      by_cases lost : incident = .disconnected
      · simp [lost, Moment.cutsOff, samplesUntilLoss]
      · rw [List.map_cons, List.cons_append, samplesUntilLoss,
          List.takeWhile_cons_of_pos (by simp [cut, lost]),
          List.takeWhile_cons_of_pos (by simp [lost]), List.filterMap_cons, List.filterMap_cons,
          ih others]
        rfl

/-- While nothing cuts a stream off, all samples of its block until the link is lost are due. -/
theorem due_moments (uninterrupted : Uninterrupted number log)
    (done : (Moment.done deed).asksStart number = false) (calm : Calm number incidents) :
    due block number (deed.moments incidents ++ log) =
      due block number log ++ samplesUntilLoss block incidents := by
  have unasked := calm.unasked done
  have whole : ∀ moment ∈ (sinceStart number log).reverse, (!moment.cutsOff number) = true :=
    fun moment member => by rw [uninterrupted.uncut moment (List.mem_reverse.mp member)]; rfl
  rw [due, due, any_asksStart_append unasked, uninterrupted.started, if_pos rfl, if_pos rfl,
    sinceStart_append unasked, List.reverse_append, List.takeWhile_append_of_pos whole,
    List.filterMap_append, takeWhile_moments calm, List.takeWhile_eq_self_iff.mpr whole]

/-! ### Nothing is lost, nothing comes twice -/

/-- Between two operations, what readers have got and what is queued is what is due. After a loss
of the link or a disconnection some of it may never be read. -/
structure Serves (stream : LogStream) (number : Nat) (log : List Moment) : Prop where
  ahead : returned number log ++ stream.queue <+: due stream.block number log
  whole : stream.isConnected = true →
    returned number log ++ stream.queue = due stream.block number log
  uninterrupted : stream.accepting = true → Uninterrupted number log

theorem Serves.of_whole (whole : returned number log ++ stream.queue = due stream.block number log)
    (uninterrupted : stream.accepting = true → Uninterrupted number log) :
    Serves stream number log :=
  ⟨whole ▸ List.prefix_rfl, fun _ => whole, uninterrupted⟩

theorem Carries.attached (carries : Carries stream number log)
    (accepting : stream.accepting = true) :
    stream.isConnected = true ∧ stream.subscription.isSome = true := by
  have connected := carries.isConnected.mpr (.inl (carries.accepting.mp accepting))
  exact ⟨connected, carries.subscribed connected⟩

theorem Carries.cut (carries : Carries stream number log) (connected : stream.isConnected = true)
    (refusing : stream.accepting = false) :
    (sinceStart number log).any (·.cutsOff number) = true := by
  have lost := (carries.isConnected.mp connected).resolve_left fun streaming => by
    rw [carries.accepting.mpr streaming] at refusing
    cases refusing
  obtain ⟨moment, member, loses⟩ := List.any_eq_true.mp (any_loses_of_lostWhileStarting lost)
  refine List.any_eq_true.mpr ⟨moment, member, ?_⟩
  unfold Moment.loses at loses
  split at loses
  · rfl
  · cases loses

/-- A connected stream queues just what becomes due. -/
theorem Serves.gains (serves : Serves stream number log) (carries : Carries stream number log)
    (connected : stream.isConnected = true) (done : (Moment.done deed).asksStart number = false)
    (calm : Calm number incidents) :
    ∃ gained, (incidents.foldl .hear stream).queue = stream.queue ++ gained ∧
      due stream.block number (deed.moments incidents ++ log) =
        due stream.block number log ++ gained := by
  cases accepting : stream.accepting with
  | true =>
      have queued := stream.queue_foldl_hear accepting (carries.attached accepting).2 incidents
      exact ⟨_, queued, due_moments (serves.uninterrupted accepting) done calm⟩
  | false =>
      have cut := carries.cut connected accepting
      refine ⟨[], ?_, ?_⟩
      · rw [LogStream.queue_foldl_hear_of_refusing accepting, List.append_nil]
      · rw [due_append_of_cut (calm.unasked done) cut, List.append_nil]

/-- A stream that is no longer connected keeps what it has, or drops it. -/
theorem Serves.idle (serves : Serves stream number log)
    (unasked : ∀ moment ∈ moments, moment.asksStart number = false)
    (unread : (answers number moments).filterMap id = []) (queue : next.queue <+: stream.queue)
    (block : next.block = stream.block) (idle : next.isConnected = false)
    (refusing : next.accepting = false) : Serves next number (moments ++ log) := by
  refine ⟨?_, fun connected => ?_, fun accepting => ?_⟩
  · have kept := (List.prefix_append_right_inj (returned number log)).mpr queue
    rw [returned_append unasked, unread, List.append_nil, block]
    exact (kept.trans serves.ahead).trans (due_append unasked)
  · rw [idle] at connected
    cases connected
  · rw [refusing] at accepting
    cases accepting

theorem Uninterrupted.append (uninterrupted : Uninterrupted number log)
    (unasked : ∀ moment ∈ moments, moment.asksStart number = false)
    (uncut : ∀ moment ∈ moments, moment.cutsOff number = false) :
    Uninterrupted number (moments ++ log) := by
  refine ⟨(any_asksStart_append unasked).trans uninterrupted.started, fun moment member => ?_⟩
  rw [sinceStart_append unasked] at member
  exact (List.mem_append.mp member).elim (uncut moment) (uninterrupted.uncut moment)

/-- An operation without effect, or one that takes from the front of the queue. -/
theorem Serves.quiet (serves : Serves stream number log) (carries : Carries stream number log)
    (connected : stream.isConnected = true) {queue : List Entry}
    (unasked : (Moment.done deed).asksStart number = false)
    (uncut : (Moment.done deed).cutsOff number = false)
    (taken : ((Moment.done deed).answer? number).toList.filterMap id ++ queue = stream.queue) :
    Serves { stream with queue } number (deed.moments [] ++ log) := by
  have calm : Calm number [] := nofun
  obtain ⟨gained, queued, due⟩ := serves.gains carries connected unasked calm
  have nothing : gained = [] := List.append_right_eq_self.mp queued.symm
  refine .of_whole ?_ fun accepting => ?_
  · rw [returned_append (Deed.forall_quiet unasked), answers_moments, List.append_assoc, taken, due,
      nothing, List.append_nil]
    exact serves.whole connected
  · exact (serves.uninterrupted accepting).append (Deed.forall_quiet unasked)
      (Deed.forall_quiet uncut)

structure Unrelated (number : Nat) (deed : Deed) (incidents : List Incident) : Prop where
  unasked : (Moment.done deed).asksStart number = false
  uncut : (Moment.done deed).cutsOff number = false
  unanswered : (Moment.done deed).answer? number = none
  calm : Calm number incidents

theorem Unrelated.returned (unrelated : Unrelated number deed incidents) :
    returned number (deed.moments incidents ++ log) = returned number log := by
  rw [returned_append (unrelated.calm.unasked unrelated.unasked), answers_moments,
    unrelated.unanswered]
  exact List.append_nil _

theorem Serves.hear (serves : Serves stream number log) (carries : Carries stream number log)
    (unrelated : Unrelated number deed incidents) :
    Serves (incidents.foldl .hear stream) number (deed.moments incidents ++ log) := by
  have kept := stream.block_foldl_hear incidents
  cases connected : stream.isConnected with
  | true =>
      obtain ⟨gained, queued, due⟩ :=
        serves.gains carries connected unrelated.unasked unrelated.calm
      refine .of_whole ?_ fun accepting => ?_
      · rw [unrelated.returned, queued, ← List.append_assoc, serves.whole connected, kept, due]
      · obtain ⟨still, unlost⟩ := (stream.accepting_foldl_hear incidents).mp accepting
        have unlost := unlost (carries.attached still).2
        exact (serves.uninterrupted still).append (unrelated.calm.unasked unrelated.unasked)
          (unrelated.calm.uncut unlost unrelated.uncut)
  | false =>
      have refusing := carries.refusing connected
      have queue := LogStream.queue_foldl_hear_of_refusing refusing incidents
      refine serves.idle (unrelated.calm.unasked unrelated.unasked) ?_ (queue ▸ List.prefix_rfl)
        kept (LogStream.idle_foldl_hear connected _) (LogStream.refusing_foldl_hear refusing _)
      rw [answers_moments, unrelated.unanswered]
      rfl

theorem calm_of_reports (reports : CalledBy none incidents) : Calm number incidents := by
  intro incident happened
  refine ⟨(apart_incident reports happened).asksStart, ?_⟩
  cases incident with
  | called call => cases reports call happened
  | connected | failed | disconnected | sampled => rfl

theorem serves_accepted (reports : CalledBy none incidents) (name : String) (before : Incident) :
    Serves { incidents.foldl .hear stream.release.enroll with isConnected := true } number
      ((Deed.connected number (.ok ())).moments
        (before :: .called (.start number name) :: incidents) ++ log) := by
  have calm : Calm number incidents := calm_of_reports reports
  have queued := stream.release.enroll.queue_foldl_hear rfl rfl incidents
  have kept := stream.release.enroll.block_foldl_hear incidents
  have started : ((Deed.connected number (.ok ())).moments
      (before :: .called (.start number name) :: incidents) ++ log).any (·.asksStart number) =
        true := by
    rw [List.any_append, Deed.moments_any]
    simp [Moment.asksStart]
  refine .of_whole ?_ fun accepting => ⟨started, ?_⟩
  · simp only [queued, kept, returned, due]
    rw [if_pos started, sinceStart_asked reports, answers_moments, takeWhile_moments calm]
    rfl
  · have unlost := ((stream.release.enroll.accepting_foldl_hear incidents).mp accepting).2 rfl
    rw [sinceStart_asked reports]
    exact calm.uncut unlost rfl

theorem unasked_of_stopping {name : String} {onStop onDelete : List Incident}
    (stops : CalledBy none onStop) (deletes : CalledBy none onDelete) :
    ∀ incident ∈ .called (.stop number name) :: onStop ++ .called (.delete number name) :: onDelete,
      (Moment.incident incident).asksStart number = false := by
  refine List.forall_mem_append.mpr ⟨List.forall_mem_cons.mpr ⟨rfl, ?_⟩,
    List.forall_mem_cons.mpr ⟨rfl, ?_⟩⟩
  · exact fun incident happened => (apart_incident stops happened).asksStart
  · exact fun incident happened => (apart_incident deletes happened).asksStart

theorem Acts.serves {name : String} (acts : Acts number name stream deed incidents next)
    (serves : Serves stream number log) (carries : Carries stream number log) :
    Serves next number (deed.moments incidents ++ log) := by
  cases acts with
  | refused connected => exact serves.quiet carries connected rfl rfl rfl
  | rejected idle =>
      refine serves.idle (Deed.unmarked_moments rfl ?_) ?_ List.nil_prefix rfl idle rfl
      · exact List.forall_mem_singleton.mpr rfl
      · rw [answers_moments]
        rfl
  | accepted idle reports => exact serves_accepted reports _ _
  | stopped connected stops deletes =>
      refine serves.idle (Deed.unmarked_moments rfl (unasked_of_stopping stops deletes)) ?_
        List.nil_prefix rfl rfl rfl
      rw [answers_moments]
      rfl
  | givenUp idle =>
      exact serves.idle (Deed.forall_quiet rfl) rfl List.nil_prefix rfl idle rfl
  | ended idle =>
      refine serves.idle (Deed.forall_quiet rfl) ?_ List.prefix_rfl rfl idle
        (carries.refusing idle)
      rw [answers_moments]
      simp [Moment.answer?]
  | noticed refusing =>
      refine serves.idle (Deed.forall_quiet rfl) ?_ List.prefix_rfl rfl rfl refusing
      rw [answers_moments]
      simp [Moment.answer?]
  | taken connected queued =>
      refine serves.quiet carries connected rfl rfl ?_
      rw [queued]
      simp [Moment.answer?]

/-! ### What others do -/

theorem unrelated_of_party {moment : Moment} (other : moment.party ≠ some (.stream number)) :
    moment.cutsOff number = moment.loses ∧ moment.answer? number = none := by
  cases moment with
  | incident happened =>
      cases happened with
      | called call =>
          cases call with
          | stop stream name =>
              have different : stream ≠ number := fun same => other (by rw [same]; rfl)
              exact ⟨decide_eq_false different, rfl⟩
          | openLink | closeLink | addConfig | start | delete => exact ⟨rfl, rfl⟩
      | connected | failed | disconnected | sampled => exact ⟨rfl, rfl⟩
  | done deed =>
      cases deed with
      | disconnected stream =>
          have different : stream ≠ number := fun same => other (by rw [same]; rfl)
          exact ⟨decide_eq_false different, rfl⟩
      | read stream entry =>
          have different : stream ≠ number := fun same => other (by rw [same]; rfl)
          exact ⟨rfl, if_neg different⟩
      | _ => exact ⟨rfl, rfl⟩

theorem calm_of_party
    (others : ∀ moment ∈ deed.moments incidents, moment.party ≠ some (.stream number)) :
    Calm number incidents := by
  intro incident happened
  have other := others (.incident incident)
    (List.mem_cons_of_mem _ (List.mem_map_of_mem (List.mem_reverse.mpr happened)))
  refine ⟨(apart_of_party other).asksStart, (unrelated_of_party other).1.trans ?_⟩
  cases incident <;> rfl

theorem Step.unrelated (step : Step before deed after) (consistent : before.Consistent)
    (other : deed.actor ≠ some (.stream number)) : Unrelated number deed (after.since before) := by
  have others := (step.account consistent).calls.foreign_moments other
  have done := others (.done deed) List.mem_cons_self
  obtain ⟨uncut, unanswered⟩ := unrelated_of_party done
  exact ⟨(apart_of_party done).asksStart, uncut, unanswered, calm_of_party others⟩

/-- A stream that does not exist yet has no reader. -/
theorem Run.returned_outside (run : Run log station) (outside : station.streams.length ≤ number) :
    returned number log = [] := by
  have unanswered : answers number (sinceStart number log) = [] :=
    List.filterMap_eq_nil_iff.mpr fun moment member =>
      have earlier := (List.takeWhile_sublist _).subset (List.mem_reverse.mp member)
      (unrelated_of_party (run.absent outside moment earlier)).2
  rw [returned, unanswered]
  rfl

theorem serves_vacant (unread : returned number log = []) (empty : stream.queue = [])
    (idle : stream.isConnected = false) (refusing : stream.accepting = false) :
    Serves stream number log := by
  refine ⟨?_, fun connected => ?_, fun accepting => ?_⟩
  · rw [unread, empty]
    exact List.nil_prefix
  · rw [idle] at connected
    cases connected
  · rw [refusing] at accepting
    cases accepting

theorem Step.serves (step : Step before deed after) (run : Run log before)
    (serves : Serves (before.stream number) number log) :
    Serves (after.stream number) number (deed.moments (after.since before) ++ log) := by
  have carries := run.carries number
  by_cases own : deed.actor = some (.stream number)
  · exact (step.acts run.consistent own).serves serves carries
  · have unrelated := step.unrelated run.consistent own
    obtain ⟨block, same, kept⟩ := (step.account run.consistent).stream number own
    rcases Nat.lt_or_ge number before.streams.length with inside | outside
    · have heard : after.stream number =
          (after.since before).foldl .hear (before.stream number) := by
        rw [same, kept inside, ← LogStream.block_foldl_hear _ (after.since before)]
      rw [heard]
      exact serves.hear carries unrelated
    · rw [same, stream_outside outside]
      exact serves_vacant (unrelated.returned.trans (run.returned_outside outside))
        (LogStream.queue_foldl_hear_of_refusing rfl _) (LogStream.idle_foldl_hear rfl _)
        (LogStream.refusing_foldl_hear rfl _)

theorem Run.serves (run : Run log station) (number : Nat) :
    Serves (station.stream number) number log := by
  induction run with
  | start => exact serves_vacant rfl rfl rfl rfl
  | step run step ih => exact step.serves run ih

theorem nextEntry_of_queued {entry : Entry} {rest : List Entry}
    (connected : (station.stream number).isConnected = true)
    (queued : (station.stream number).queue = entry :: rest) :
    station.nextEntry number =
      some (station.updateStream number ({ · with queue := rest }), some entry) := by
  simp only [nextEntry, connected, queued, if_true]

/-- What readers of a stream have got since it last subscribed is the beginning of what was due to
them, a connected stream yields what is due next, and no stream ever yields anything else. -/
theorem Run.delivers_in_order (run : Run log station) (number : Nat) :
    returned number log <+: due (station.stream number).block number log ∧
    ((station.stream number).isConnected = true → ∀ entry rest,
      due (station.stream number).block number log = returned number log ++ entry :: rest →
      ∃ after, station.nextEntry number = some (after, some entry)) ∧
    ∀ after entry, station.nextEntry number = some (after, some entry) →
      ∃ rest, due (station.stream number).block number log =
        returned number log ++ entry :: rest := by
  have serves := run.serves number
  refine ⟨(List.prefix_append _ _).trans serves.ahead, fun connected entry rest next => ?_,
    fun after entry taken => ?_⟩
  · have whole := (serves.whole connected).trans next
    exact ⟨_, nextEntry_of_queued connected (List.append_cancel_left whole)⟩
  · rcases nextEntry_cases taken with ⟨_, none, _⟩ | ⟨_, _, none, _⟩ |
      ⟨first, rest, connected, queued, some, _⟩
    · cases none
    · cases none
    · cases some
      rw [← serves.whole connected, queued]
      exact ⟨rest, rfl⟩

def gyroAt (timestamp : Nat) : Entry := ⟨timestamp, [], "gyro"⟩

/-- Two streams of one block, which reports a sample whenever it is started. The link is lost while
the block is started for the second stream, and the first one, which has not read its samples, then
connects anew. -/
def reconnected : List Moment :=
  [.done (.read 0 (some (gyroAt 1))),
    .done (.reported (.sample "block" 2 [])), .incident (.sampled 0 (gyroAt 2)),
    .done (.connected 0 (.ok ())), .incident (.sampled 0 (gyroAt 1)),
    .incident (.called (.start 0 "gyro")), .incident (.called (.addConfig 0 "gyro")), .done .arranged,
    .done (.connected 1 (.ok ())), .incident .disconnected, .incident (.sampled 0 (gyroAt 1)),
    .incident (.called (.start 1 "gyro")), .incident (.called (.addConfig 1 "gyro")), .done .arranged,
    .done (.connected 0 (.ok ())), .incident (.sampled 0 (gyroAt 1)),
    .incident (.called (.start 0 "gyro")), .incident (.called (.addConfig 0 "gyro")),
    .done (.addedStream 0), .done (.addedStream 0), .done (.addedBlock "block")]

/-- The samples that were queued when the link was lost are not returned. -/
theorem delivers_in_order_reconnected : ∃ station after, Run reconnected station ∧
    returned 0 reconnected = [gyroAt 1] ∧ due 0 0 reconnected = [gyroAt 1, gyroAt 2] ∧
    station.nextEntry 0 = some (after, some (gyroAt 2)) := by
  have onBlock : 0 < 1 := by decide
  have ready := Run.step (.step (.step .start
    (.addBlock "block" "gyro" [.sample "block" 1 []] [] [])) (.addStream onBlock))
    (.addStream onBlock)
  have first : 0 < 2 := by decide
  have second : 1 < 2 := by decide
  have armed := Run.step (.step ready (.connect first))
    (.onBlock 0 [.sample "block" 1 [], .disconnected] [] [])
  have lost := Run.step (.step armed (.connect second)) (.onBlock 0 [.sample "block" 1 []] [] [])
  have again := Run.step (.step lost (.connect first)) (.report (.sample "block" 2 []))
  have run : Run reconnected _ := .step again (.read first rfl)
  obtain ⟨_, next, _⟩ := run.delivers_in_order 0
  obtain ⟨after, taken⟩ := next rfl (gyroAt 2) [] rfl
  exact ⟨_, after, run, rfl, rfl, taken⟩

end Station

end VehicleLink.Bridge
