import VehicleLink.Proofs.Bridge.OpenFlag

/-!
What decides an attempt to open the link. While a bridge waits, the driver may report any number of
events; the first of them that is no sample decides. Later reports do not, nor does anything that
an earlier attempt has left.
-/

namespace VehicleLink.Bridge

/-- What a report decides about an attempt to open the link. A sample decides nothing. -/
def Event.verdict? : Event → Option (Except String Unit)
  | .connected => some (.ok ())
  | .failed reason => some (.error reason)
  | .disconnected => some (.error "link disconnected while opening")
  | .sample .. => none

def Incident.verdict? : Incident → Option (Except String Unit)
  | .connected => some (.ok ())
  | .failed reason => some (.error reason)
  | .disconnected => some (.error Station.lostWhileOpening)
  | .called _ | .sampled .. => none

namespace LinkBridge

/-- What the caller of an attempt is told. -/
def outcome (bridge : LinkBridge) : Except String Unit → Except LinkError Unit
  | .ok () => .ok ()
  | .error reason => .error (.bridge (.linkOpen bridge.uri reason))

variable {bridge : LinkBridge} {verdict : Except String Unit}

theorem attempt_hear_of_decided (decided : bridge.attempt = .decided verdict)
    (incident : Incident) : (bridge.hear incident).attempt = .decided verdict := by
  rcases bridge.hear_cases incident with same | ⟨outcome, heard⟩ | lost
  · rw [same, decided]
  · simp only [heard, decide, decided]
  · simp only [lost, lose, release, decide, decided]

theorem attempt_foldl_hear_of_decided (decided : bridge.attempt = .decided verdict)
    (incidents : List Incident) : (incidents.foldl hear bridge).attempt = .decided verdict := by
  induction incidents generalizing bridge with
  | nil => exact decided
  | cons incident rest ih => exact ih (attempt_hear_of_decided decided incident)

theorem attempt_hear_of_waiting (waiting : bridge.attempt = .waiting)
    (subscribed : bridge.lifecycle.isSome = true) {incident : Incident}
    (decides : incident.verdict? = some verdict) :
    (bridge.hear incident).attempt = .decided verdict := by
  cases incident with
  | connected | failed | disconnected =>
      cases decides
      simp only [hear, subscribed, if_true, lose, release, decide, waiting]
  | called | sampled => cases decides

theorem hear_of_undecided {incident : Incident} (undecided : incident.verdict? = none) :
    bridge.hear incident = bridge := by
  cases incident with
  | called | sampled => rfl
  | connected | failed | disconnected => cases undecided

/-- A waiting bridge takes the verdict of the first incident that has one. -/
theorem attempt_foldl_hear_of_waiting (waiting : bridge.attempt = .waiting)
    (subscribed : bridge.lifecycle.isSome = true) (incidents : List Incident) :
    (incidents.foldl hear bridge).attempt =
      (incidents.findSome? Incident.verdict?).elim .waiting .decided := by
  induction incidents with
  | nil => exact waiting
  | cons incident rest ih =>
      rw [List.foldl_cons, List.findSome?_cons]
      cases decides : incident.verdict? with
      | none => rw [hear_of_undecided decides, ih]
      | some verdict =>
          have decided := attempt_hear_of_waiting waiting subscribed decides
          exact attempt_foldl_hear_of_decided decided rest

end LinkBridge

theorem failed_of_outcome {bridge : LinkBridge} {verdict : Except String Unit} {event : Event}
    (same : bridge.outcome verdict = bridge.outcome (.error Station.closedWhileOpening))
    (decides : event.verdict? = some verdict) : event = .failed Station.closedWhileOpening := by
  cases event with
  | connected =>
      cases decides
      cases same
  | failed reason =>
      cases decides
      simpa [LinkBridge.outcome] using same
  | disconnected =>
      cases decides
      simp [LinkBridge.outcome, Station.closedWhileOpening] at same
  | sample => cases decides

namespace Station

variable {station after : Station} {log : List Moment} {number : Nat}
  {verdict : Except String Unit}

theorem verdict?_incident? (station : Station) (event : Event) :
    (station.incident? event).bind Incident.verdict? = event.verdict? := by
  cases event with
  | sample name timestamp values =>
      simp only [incident?, Option.bind_map]
      exact Option.bind_eq_none_iff.mpr fun _ _ => rfl
  | connected | failed | disconnected => rfl

theorem findSome?_reportedOnOpen (station : Station) :
    station.reportedOnOpen.findSome? Incident.verdict? =
      station.onOpen.findSome? Event.verdict? := by
  rw [reportedOnOpen, ← List.head?_filterMap, List.filterMap_filterMap,
    funext station.verdict?_incident?, List.head?_filterMap]

/-- At the end of the wait the attempt has the first verdict of what the driver reported. -/
theorem attempt_attempted (consistent : station.Consistent)
    (inside : number < station.bridges.length) :
    ((station.attempted number).bridge number).attempt =
      (station.onOpen.findSome? Event.verdict?).elim .waiting .decided := by
  obtain ⟨_, _, heard⟩ := attempted_passes consistent inside
  rw [heard, ← station.findSome?_reportedOnOpen]
  exact LinkBridge.attempt_foldl_hear_of_waiting rfl rfl _

/-- While one bridge waits, no attempt of another is under way. -/
theorem Run.attempt_attempted_other (run : Run log station)
    (inside : number < station.bridges.length) {other : Nat} (different : other ≠ number) :
    ((station.attempted number).bridge other).attempt = .none := by
  obtain ⟨_, passes, _⟩ := attempted_passes run.consistent inside
  have aside : some (Party.link number) ≠ some (.link other) :=
    fun same => different (Party.link.inj (Option.some.inj same)).symm
  rw [passes.bridge other aside]
  exact LinkBridge.attempt_foldl_hear_of_resting (run.follows other).resting _

theorem openLink_eq_none_iff (consistent : station.Consistent)
    (inside : number < station.bridges.length)
    (closed : (station.bridge number).isOpen = false) :
    station.openLink number = none ↔ station.onOpen.findSome? Event.verdict? = none := by
  rw [openLink_eq closed, attempt_attempted consistent inside]
  cases decides : station.onOpen.findSome? Event.verdict? with
  | none => simp
  | some verdict => cases verdict <;> simp

theorem openLink_of_verdict (consistent : station.Consistent)
    (inside : number < station.bridges.length)
    (closed : (station.bridge number).isOpen = false)
    (decides : station.onOpen.findSome? Event.verdict? = some verdict) :
    ∃ after, station.openLink number = some (after, (station.bridge number).outcome verdict) := by
  rw [openLink_eq closed, attempt_attempted consistent inside, decides]
  cases verdict with
  | ok done => exact ⟨_, rfl⟩
  | error reason => exact ⟨_, rfl⟩

theorem calls_openLink {outcome : Except LinkError Unit} (consistent : station.Consistent)
    (inside : number < station.bridges.length)
    (closed : (station.bridge number).isOpen = false)
    (opened : station.openLink number = some (after, outcome)) :
    (after.since station).filterMap Incident.call? =
      [.openLink number (station.bridge number).uri] := by
  obtain ⟨_, passes, _⟩ := openLink_of_closed consistent inside closed opened
  rw [since_eq passes.history]
  have unasked : station.reportedOnOpen.filterMap Incident.call? = [] :=
    (calledBy_reports station none station.onOpen).calls_eq_nil
  simp only [List.filterMap_cons, Incident.call?, unasked]

/-- A bridge that is not open asks the driver once to open the link and takes the verdict of the
first report that has one, whatever is reported after it; only a driver that reports nothing of the
kind keeps it waiting. No attempt of a bridge is under way unless it waits itself, and at the end
of a wait the report has decided it, so that the reason of an attempt that nobody can decide is
never given unless the driver itself reports it. -/
theorem Run.first_report_decides (run : Run log station)
    (inside : number < station.bridges.length)
    (closed : (station.bridge number).isOpen = false) :
    (∀ quiet first later verdict, station.onOpen = quiet ++ first :: later →
      (∀ event ∈ quiet, event.verdict? = none) → first.verdict? = some verdict →
      ((station.attempted number).bridge number).attempt = .decided verdict ∧
      ∃ after, station.openLink number = some (after, (station.bridge number).outcome verdict) ∧
        (after.since station).filterMap Incident.call? =
          [.openLink number (station.bridge number).uri]) ∧
    (station.openLink number = none ↔ ∀ event ∈ station.onOpen, event.verdict? = none) ∧
    (∀ other, (station.bridge other).attempt = .none ∧
      (other ≠ number → ((station.attempted number).bridge other).attempt = .none)) ∧
    ∀ after, station.openLink number =
        some (after, (station.bridge number).outcome (.error closedWhileOpening)) →
      ∃ quiet later, station.onOpen = quiet ++ .failed closedWhileOpening :: later ∧
        ∀ event ∈ quiet, event.verdict? = none := by
  have consistent := run.consistent
  have waits := openLink_eq_none_iff consistent inside closed
  refine ⟨fun quiet first later verdict reports undecided decides => ?_,
    waits.trans List.findSome?_eq_none_iff,
    fun other => ⟨(run.follows other).resting, run.attempt_attempted_other inside⟩,
    fun after opened => ?_⟩
  · have firstVerdict : station.onOpen.findSome? Event.verdict? = some verdict :=
      List.findSome?_eq_some_iff.mpr ⟨quiet, first, later, reports, decides, undecided⟩
    obtain ⟨after, opened⟩ := openLink_of_verdict consistent inside closed firstVerdict
    refine ⟨?_, after, opened, calls_openLink consistent inside closed opened⟩
    rw [attempt_attempted consistent inside, firstVerdict]
    rfl
  · cases decides : station.onOpen.findSome? Event.verdict? with
    | none =>
        rw [waits.mpr decides] at opened
        cases opened
    | some verdict =>
        obtain ⟨_, result⟩ := openLink_of_verdict consistent inside closed decides
        rw [result] at opened
        obtain ⟨quiet, first, later, reports, decided, undecided⟩ :=
          List.findSome?_eq_some_iff.mp decides
        have same := (Prod.mk.inj (Option.some.inj opened)).2
        refine ⟨quiet, later, ?_, undecided⟩
        rw [reports, failed_of_outcome same decided]

/-- The driver lost the link in the first attempt. In the second one a failure comes before two
other reports, and decides. -/
theorem first_report_decides_secondAttempt : ∃ log station after, Run log station ∧
    station.openLink 0 = some (after,
      .error (.bridge (.linkOpen "10.0.0.1" "Too many packets lost!"))) ∧
    (after.since station).filterMap Incident.call? = [.openLink 0 "10.0.0.1"] := by
  have inside : 0 < 1 := by decide
  have ready := Run.step (.step .start (.onOpen [.disconnected, .connected]))
    (.addBridge "10.0.0.1")
  have run := Run.step (.step ready (.openLink inside rfl))
    (.onOpen [.sample "gyro" 1 [], .failed "Too many packets lost!", .connected, .disconnected])
  obtain ⟨decides, _⟩ := run.first_report_decides inside rfl
  have undecided : ∀ event ∈ [Event.sample "gyro" 1 []], event.verdict? = none :=
    List.forall_mem_singleton.mpr rfl
  obtain ⟨_, after, opened, asked⟩ := decides [.sample "gyro" 1 []]
    (.failed "Too many packets lost!") [.connected, .disconnected] _ rfl undecided rfl
  exact ⟨_, _, after, run, opened, asked⟩

end Station

end VehicleLink.Bridge
