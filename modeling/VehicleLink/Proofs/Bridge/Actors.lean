import VehicleLink.Proofs.Bridge.Run

/-!
What a bridge or a stream comes to by an operation of its own. One inversion for bridges and one for
streams says all that such a step can do; what every run keeps is proved by cases on them.
-/

namespace VehicleLink.Bridge.Station

variable {before after : Station} {deed : Deed} {number : Nat}

/-! ### What a bridge does -/

/-- All that a bridge can come to by an operation of its own, and what is recorded meanwhile. -/
inductive LinkActs (number : Nat) (bridge : LinkBridge) : Deed → List Incident → LinkBridge → Prop
  | refused (isOpen : bridge.isOpen = true) :
      LinkActs number bridge (.opened number (.error (.phase .alreadyOpen))) [] bridge
  | opened {reported : List Incident} (closed : bridge.isOpen = false)
      (reports : CalledBy none reported)
      (decided : (reported.foldl .hear bridge.begin).attempt = .decided (.ok ())) :
      LinkActs number bridge (.opened number (.ok ()))
        (.called (.openLink number bridge.uri) :: reported)
        ((reported.foldl .hear bridge.begin).settle true)
  | failed {reported : List Incident} {reason : String} (closed : bridge.isOpen = false)
      (reports : CalledBy none reported)
      (decided : (reported.foldl .hear bridge.begin).attempt = .decided (.error reason)) :
      LinkActs number bridge (.opened number (.error (.bridge (.linkOpen bridge.uri reason))))
        (.called (.openLink number bridge.uri) :: reported)
        ((reported.foldl .hear bridge.begin).settle false).release
  | closed {deed : Deed} {reported : List Incident}
      (deeds : deed = .closed number ∨ deed = .droppedBridge number)
      (reports : CalledBy none reported) :
      LinkActs number bridge deed (.called (.closeLink number) :: reported)
        ((reported.foldl .hear bridge).release.settle false)
  | givenUp (closed : bridge.isOpen = false) :
      LinkActs number bridge (.droppedBridge number) [] bridge.release

theorem Step.linkActs (step : Step before deed after) (consistent : before.Consistent)
    (own : deed.actor = some (.link number)) :
    LinkActs number (before.bridge number) deed (after.since before) (after.bridge number) := by
  cases step with
  | openLink inside opened =>
      cases own
      cases isOpen : (before.bridge number).isOpen with
      | true =>
          rw [openLink_of_open isOpen] at opened
          cases opened
          rw [since_eq (Passes.refl none before).history]
          exact .refused isOpen
      | false =>
          obtain ⟨_, passes, outcomes⟩ := openLink_of_closed consistent inside isOpen opened
          have reports := calledBy_reports before none before.onOpen
          rw [since_eq passes.history]
          rcases outcomes with ⟨decided, rfl, same⟩ | ⟨reason, decided, rfl, same⟩
          · rw [same]
            exact .opened isOpen reports decided
          · rw [same]
            exact .failed isOpen reports decided
  | closeLink inside =>
      cases own
      obtain ⟨_, passes, same⟩ := closeLink_passes consistent number
      rw [since_eq passes.history, same]
      exact .closed (.inl rfl) (calledBy_reports before none before.onClose)
  | dropBridge inside =>
      cases own
      cases isOpen : (before.bridge number).isOpen with
      | true =>
          obtain ⟨_, passes, same⟩ := closeLink_passes consistent number
          rw [dropBridge_of_open isOpen, since_eq passes.history, same]
          exact .closed (.inr rfl) (calledBy_reports before none before.onClose)
      | false =>
          rw [dropBridge_of_closed isOpen, bridge_unsubscribeBridge, if_pos rfl,
            since_eq (passes_unsubscribeBridge before number).history]
          exact .givenUp isOpen
  | _ => cases own

/-! ### What a stream does -/

/-- All that a stream can come to by an operation of its own, and what is recorded meanwhile; the
name is that of its block. -/
inductive Acts (number : Nat) (name : String) (stream : LogStream) :
    Deed → List Incident → LogStream → Prop
  | refused (connected : stream.isConnected = true) :
      Acts number name stream (.connected number (.error (.phase .alreadyConnected))) [] stream
  | rejected {reason : String} (idle : stream.isConnected = false) :
      Acts number name stream (.connected number (.error (.bridge (.logConfig reason))))
        [.called (.addConfig number name)] stream.release
  | accepted {reported : List Incident} (idle : stream.isConnected = false)
      (reports : CalledBy none reported) :
      Acts number name stream (.connected number (.ok ()))
        (.called (.addConfig number name) :: .called (.start number name) :: reported)
        { reported.foldl .hear stream.release.enroll with isConnected := true }
  | stopped {onStop onDelete : List Incident} (connected : stream.isConnected = true)
      (stops : CalledBy none onStop) (deletes : CalledBy none onDelete) :
      Acts number name stream (.disconnected number)
        (.called (.stop number name) :: onStop ++ .called (.delete number name) :: onDelete)
        { stream.release with isConnected := false }
  | givenUp (idle : stream.isConnected = false) :
      Acts number name stream (.disconnected number) [] stream.release
  | ended (idle : stream.isConnected = false) :
      Acts number name stream (.read number none) [] stream
  | noticed (refusing : stream.accepting = false) :
      Acts number name stream (.read number none) [] { stream with isConnected := false }
  | taken {entry : Entry} {rest : List Entry} (connected : stream.isConnected = true)
      (queued : stream.queue = entry :: rest) :
      Acts number name stream (.read number (some entry)) [] { stream with queue := rest }

theorem Step.acts (step : Step before deed after) (consistent : before.Consistent)
    (own : deed.actor = some (.stream number)) :
    Acts number (before.blockName number) (before.stream number) deed (after.since before)
      (after.stream number) := by
  cases step with
  | connect inside =>
      cases own
      cases connected : (before.stream number).isConnected with
      | true =>
          rw [connectStream_of_connected connected, since_eq (Passes.refl none before).history]
          exact .refused connected
      | false =>
          cases rejected : before.rejection with
          | some reason =>
              obtain ⟨_, same, _, passes, released⟩ :=
                connectStream_of_rejected consistent connected rejected
              rw [same, since_eq passes.history, released]
              exact .rejected connected
          | none =>
              obtain ⟨_, same, _, passes, started⟩ :=
                connectStream_of_accepted consistent inside connected rejected
              rw [same, since_eq passes.history, started]
              exact .accepted connected (calledBy_reports before none _)
  | disconnect inside =>
      cases own
      cases connected : (before.stream number).isConnected with
      | true =>
          obtain ⟨_, passes, released⟩ := disconnectStream_of_connected consistent inside connected
          rw [since_eq passes.history, released]
          exact .stopped connected (calledBy_reports before none _) (calledBy_reports before none _)
      | false =>
          obtain ⟨_, passes, released⟩ := disconnectStream_of_idle consistent connected
          rw [since_eq passes.history, released]
          exact .givenUp connected
  | read inside taken =>
      cases own
      rcases nextEntry_cases taken with ⟨idle, rfl, same⟩ | ⟨_, refusing, rfl, same⟩ |
        ⟨first, rest, connected, queued, rfl, same⟩
      · rw [same, since_eq (Passes.refl none before).history]
        exact .ended idle
      · rw [same, since_eq (passes_updateStream before number _).history,
          stream_updateStream (.inr inside), if_pos rfl]
        exact .noticed refusing
      · rw [same, since_eq (passes_updateStream before number _).history,
          stream_updateStream (.inr inside), if_pos rfl]
        exact .taken connected queued
  | _ => cases own

theorem Step.inside (step : Step before deed after) (own : deed.actor = some (.stream number)) :
    number < before.streams.length := by
  cases step with
  | connect inside | disconnect inside | read inside =>
      cases own
      exact inside
  | _ => cases own

/-- Nothing is told of a stream that does not exist yet. -/
theorem Run.absent {log : List Moment} {station : Station} (run : Run log station)
    (outside : station.streams.length ≤ number) :
    ∀ moment ∈ log, moment.party ≠ some (.stream number) := by
  induction run with
  | start => exact nofun
  | step run step ih =>
      have account := step.account run.consistent
      have vacant := Nat.le_trans account.grows.streams outside
      refine List.forall_mem_append.mpr ⟨account.calls.foreign_moments fun own => ?_, ih vacant⟩
      exact Nat.not_lt_of_le vacant (step.inside own)

end VehicleLink.Bridge.Station
