import VehicleLink.Proofs.Link.Sending

/-!
When a link reports silence. The reader counts silence from when it starts and from every datagram
that it reads, be there a packet in it or not; it counts anew, too, where it could not read and goes
on. It says so after every full period that ends before the next datagram or before the reader
stops.
-/

namespace VehicleLink.Session

variable {settings : Settings} {host : Host} {session before after last : Session}
variable {deed : Deed} {log more : List Deed} {history : List (Nat × Incident)}
variable {period start now later : Nat} {reporting : Bool}

/-! ### Periods -/

/-- The instants before an end that are one period or more after a start. -/
def beats (period start finish : Nat) : List Nat :=
  (List.range ((finish - 1 - start) / period)).map fun count => start + (count + 1) * period

/-- The first instant of that kind that is not past. -/
def nextBeat (period now start : Nat) : Nat := start + ((now - 1 - start) / period + 1) * period

theorem mem_beats (positive : 0 < period) (start finish instant : Nat) :
    instant ∈ beats period start finish ↔
      instant < finish ∧ ∃ count, 0 < count ∧ instant = start + count * period := by
  unfold beats
  constructor
  · intro member
    obtain ⟨count, few, rfl⟩ := List.mem_map.mp member
    have fits : (count + 1) * period ≤ finish - 1 - start :=
      (Nat.le_div_iff_mul_le positive).mp (List.mem_range.mp few)
    have some_time : 0 < (count + 1) * period := Nat.mul_pos count.succ_pos positive
    exact ⟨by omega, count + 1, count.succ_pos, rfl⟩
  · rintro ⟨before, number, some_periods, rfl⟩
    obtain ⟨count, rfl⟩ := Nat.exists_eq_add_one_of_ne_zero some_periods.ne'
    have few : count + 1 ≤ (finish - 1 - start) / period :=
      (Nat.le_div_iff_mul_le positive).mpr (by omega)
    exact List.mem_map.mpr ⟨count, List.mem_range.mpr few, rfl⟩

theorem beats_self (period start : Nat) : beats period start start = [] := by
  have none_left : start - 1 - start = 0 := by omega
  simp [beats, none_left]

theorem nextBeat_self (period start : Nat) : nextBeat period start start = start + period := by
  have none_left : start - 1 - start = 0 := by omega
  simp [nextBeat, none_left]

theorem le_nextBeat (positive : 0 < period) (now start : Nat) :
    now ≤ nextBeat period now start := by
  have next := Nat.lt_mul_div_succ (now - 1 - start) positive
  rw [Nat.mul_comm] at next
  rw [nextBeat]
  omega

/-- What is due before an end are the beats after those that are past. -/
theorem instants_nextBeat (positive : 0 < period) (passes : now ≤ later) :
    instants (nextBeat period now start) period later =
      (List.range ((later - 1 - start) / period - (now - 1 - start) / period)).map
        fun count => start + ((now - 1 - start) / period + count + 1) * period := by
  have past : (now - 1 - start) / period ≤ (later - 1 - start) / period :=
    Nat.div_le_div_right (by omega)
  unfold instants nextBeat
  -- Either the first of these beats is before the end, or no other period is over by then.
  split
  next come =>
    have counted : (now - 1 - start) / period + 1 ≤ (later - 1 - start) / period :=
      (Nat.le_div_iff_mul_le positive).mpr (by omega)
    have left : (later - 1 - (start + ((now - 1 - start) / period + 1) * period)) / period + 1 =
        (later - 1 - start) / period - (now - 1 - start) / period := by
      rw [Nat.sub_add_eq, Nat.mul_comm, Nat.sub_mul_div]
      omega
    rw [left]
    refine List.map_congr_left fun count _ => ?_
    rw [Nat.add_assoc, ← Nat.add_mul, Nat.add_right_comm]
  next ahead =>
    have some_time : 0 < ((now - 1 - start) / period + 1) * period :=
      Nat.mul_pos (Nat.succ_pos _) positive
    have none_left : (later - 1 - start) / period < (now - 1 - start) / period + 1 :=
      (Nat.div_lt_iff_lt_mul positive).mpr (by omega)
    rw [Nat.sub_eq_zero_of_le (Nat.le_of_lt_succ none_left)]
    rfl

theorem beats_append (positive : 0 < period) (passes : now ≤ later) :
    beats period start later =
      beats period start now ++ instants (nextBeat period now start) period later := by
  have past : (now - 1 - start) / period ≤ (later - 1 - start) / period :=
    Nat.div_le_div_right (by omega)
  rw [instants_nextBeat positive passes, beats, beats,
    ← Nat.add_sub_cancel' past, List.range_add, List.map_append, Nat.add_sub_cancel_left,
    List.map_map]
  rfl

/-! ### Silence -/

/-- Since when nothing has come, while a reader listens. -/
def silentSince : List (Nat × Incident) → Option Nat
  | [] => none
  | (instant, .readerStarted) :: _ | (instant, .read _) :: _ | (instant, .disturbed) :: _ =>
      some instant
  | (_, .readerStopped) :: _ => none
  | (_, .keptAlive) :: earlier | (_, .refused _) :: earlier | (_, .sent _) :: earlier
  | (_, .silent) :: earlier => silentSince earlier

/-- All instants before now at which silence has lasted for a number of periods, each before what
ended that silence. -/
def due (period : Nat) : List (Nat × Incident) → Nat → List Nat
  | [], _ => []
  | (instant, .readerStarted) :: earlier, now | (instant, .read _) :: earlier, now
  | (instant, .disturbed) :: earlier, now => due period earlier instant ++ beats period instant now
  | (instant, .readerStopped) :: earlier, _ => due period earlier instant
  | (_, .keptAlive) :: earlier, now | (_, .refused _) :: earlier, now
  | (_, .sent _) :: earlier, now | (_, .silent) :: earlier, now => due period earlier now

/-- What somebody is told of an incident, and when. -/
def report? : Nat × Incident → Option (Nat × String)
  | (instant, .silent) => some (instant, TransportError.connectionTimeout.message)
  | (_, .readerStarted) | (_, .readerStopped) | (_, .read _) | (_, .disturbed) | (_, .keptAlive)
  | (_, .refused _) | (_, .sent _) => none

/-- What has been reported and when, in order. -/
def reports (session : Session) : List (Nat × String) :=
  (session.history.filterMap report?).reverse

/-- Time does not go back, and whatever comes after a report happens strictly later. -/
def Chronological (history : List (Nat × Incident)) : Prop :=
  history.Pairwise fun late early => early.1 ≤ late.1 ∧ (early.2 = .silent → early.1 < late.1)

theorem silentSince_keepAlive (instant : Nat) (written : Except String Unit) :
    silentSince ((instant, .keepAlive written) :: history) = silentSince history := by
  cases written <;> rfl

theorem due_cons_now (period now : Nat) (incident : Incident) (history : List (Nat × Incident)) :
    due period ((now, incident) :: history) now = due period history now := by
  cases incident with
  | readerStarted | read | disturbed => rw [due, beats_self, List.append_nil]
  | readerStopped | keptAlive | refused | sent | silent => rfl

theorem due_append_now (period now : Nat) (incidents : List Incident)
    (history : List (Nat × Incident)) :
    due period (incidents.map (now, ·) ++ history) now = due period history now := by
  induction incidents with
  | nil => rfl
  | cons incident rest ih => exact (due_cons_now period now incident _).trans ih

theorem due_append_silent {recent : List (Nat × Incident)}
    (silent : ∀ entry ∈ recent, entry.2 = .silent) :
    due period (recent ++ history) now = due period history now := by
  induction recent with
  | nil => rfl
  | cons entry rest ih =>
      obtain ⟨instant, incident⟩ := entry
      obtain rfl : incident = .silent := silent _ (.head _)
      exact ih fun entry member => silent entry (.tail _ member)

/-- A report does not end the silence. -/
theorem silentSince_append_silent {recent : List (Nat × Incident)}
    (silent : ∀ entry ∈ recent, entry.2 = .silent) :
    silentSince (recent ++ history) = silentSince history := by
  induction recent with
  | nil => rfl
  | cons entry rest ih =>
      obtain ⟨instant, incident⟩ := entry
      obtain rfl : incident = .silent := silent _ (.head _)
      exact ih fun entry member => silent entry (.tail _ member)

/-- While time passes, all that becomes due are the further beats of the silence that lasts. -/
theorem due_later (positive : 0 < period) (passes : now ≤ later) :
    due period history later = due period history now ++
      ((silentSince history).map (nextBeat period now)).elim [] (instants · period later) := by
  -- Only the latest start or datagram counts: the silences before it have their ends in the history.
  induction history with
  | nil => rfl
  | cons entry earlier ih =>
      obtain ⟨instant, incident⟩ := entry
      cases incident with
      | readerStarted | read | disturbed =>
          rw [due, due, beats_append positive passes, List.append_assoc]
          rfl
      | readerStopped => exact (List.append_nil _).symm
      | keptAlive | refused | sent | silent => exact ih

/-- Whatever is due until now is past. -/
theorem lt_of_mem_due {instant : Nat} (positive : 0 < period)
    (chronological : Chronological history) (past : ∀ entry ∈ history, entry.1 ≤ now)
    (member : instant ∈ due period history now) : instant < now := by
  induction history generalizing now with
  | nil => cases member
  | cons entry earlier ih =>
      obtain ⟨moment, incident⟩ := entry
      obtain ⟨ordered, sorted⟩ := List.pairwise_cons.mp chronological
      have before : ∀ entry ∈ earlier, entry.1 ≤ moment :=
        fun entry among => (ordered entry among).1
      have passed : moment ≤ now := past _ (.head _)
      cases incident with
      | readerStarted | read | disturbed =>
          rcases List.mem_append.mp member with earlier | latest
          · exact (ih sorted before earlier).trans_le passed
          · exact ((mem_beats positive _ _ _).mp latest).1
      | readerStopped => exact (ih sorted before member).trans_le passed
      | keptAlive | refused | sent | silent =>
          exact ih sorted (fun entry among => past entry (.tail _ among)) member

/-- While silence lasts, what is due since it began are the beats of this silence. -/
theorem mem_due_iff {instant : Nat} (positive : 0 < period) (chronological : Chronological history)
    (since : silentSince history = some start) (late : start < instant) :
    instant ∈ due period history now ↔ instant ∈ beats period start now := by
  induction history with
  | nil => cases since
  | cons entry earlier ih =>
      obtain ⟨moment, incident⟩ := entry
      obtain ⟨ordered, sorted⟩ := List.pairwise_cons.mp chronological
      cases incident with
      | readerStarted | read | disturbed =>
          cases since
          have undue : instant ∉ due period earlier start := fun member =>
            late.not_gt (lt_of_mem_due positive sorted
              (fun entry among => (ordered entry among).1) member)
          simp [due, undue]
      | readerStopped => cases since
      | keptAlive | refused | sent | silent => exact ih sorted since

/-! ### Time passes -/

theorem mem_instants {due finish instant : Nat} (member : instant ∈ instants due period finish) :
    due ≤ instant ∧ instant < finish := by
  unfold instants at member
  split at member
  next come =>
    obtain ⟨count, few, rfl⟩ := List.mem_map.mp member
    have fits := Nat.mul_le_of_le_div _ _ _ (Nat.le_of_lt_succ (List.mem_range.mp few))
    exact ⟨Nat.le_add_right _ _, by omega⟩
  next => cases member

theorem instants_increasing (positive : 0 < period) (due finish : Nat) :
    (instants due period finish).Pairwise (· < ·) := by
  unfold instants
  split
  next =>
    refine List.pairwise_map.mpr (List.pairwise_lt_range.imp fun fewer => ?_)
    exact Nat.add_lt_add_left (Nat.mul_lt_mul_of_pos_right fewer positive) _
  next => exact .nil

/-- The reader is then due at the first beat that is not past. -/
theorem nextBeat_later (positive : 0 < period) (passes : now ≤ later) :
    nextBeat period now start +
        (instants (nextBeat period now start) period later).length * period =
      nextBeat period later start := by
  have past : (now - 1 - start) / period ≤ (later - 1 - start) / period :=
    Nat.div_le_div_right (by omega)
  rw [instants_nextBeat positive passes, List.length_map, List.length_range, nextBeat,
    nextBeat, Nat.add_assoc, ← Nat.add_mul]
  congr 2
  omega

/-- The instants at which somebody is told of silence while time passes. -/
def told (session : Session) (instant : Nat) : List Nat :=
  if session.reporting then
    session.silentAt.elim [] (instants · session.settings.readTimeout instant)
  else []

theorem told_increasing (session : Session) (positive : 0 < session.settings.readTimeout)
    (instant : Nat) : (session.told instant).Pairwise (· < ·) := by
  unfold told
  split
  next =>
    cases session.silentAt with
    | none => exact .nil
    | some due => exact instants_increasing positive due instant
  next => exact .nil

theorem elapse_told (session : Session) (instant : Nat) :
    (session.elapse instant).clock = instant ∧
      (session.elapse instant).history =
        ((session.told instant).map (·, .silent)).reverse ++ session.history ∧
      (session.elapse instant).silentAt = session.silentAt.map fun due =>
        due + (instants due session.settings.readTimeout instant).length *
          session.settings.readTimeout := by
  cases listens : session.silentAt with
  | none =>
      have same : session.elapse instant = { session with clock := instant } := by
        simp only [elapse, listens]
      rw [same]
      exact ⟨rfl, by simp [told, listens], listens⟩
  | some due =>
      simp only [elapse, listens]
      refine ⟨trivial, ?_, rfl⟩
      cases heard : session.reporting <;> simp [told, listens, heard]

theorem reports_append (session : Session) (recent : List (Nat × Incident))
    (adds : after.history = recent ++ session.history) :
    after.reports = session.reports ++ (recent.filterMap report?).reverse := by
  rw [reports, adds, List.filterMap_append, List.reverse_append]
  rfl

/-! ### What is done at an instant -/

def Deed.mayWait : Deed → Bool
  | .received .. | .waited => true
  | .connected .. | .sent .. | .paused .. | .restarted _ | .closed .. | .arrived .. | .read _
  | .readFailed _ | .hostChanged => false

/-- What is done at an instant, the latest first. It may start or stop the reader or make it read,
and none of it is a report. -/
structure Acts (session : Session) (incidents : List Incident) (after : Session) : Prop where
  unsilent : ∀ incident ∈ incidents, incident ≠ .silent
  history : after.history = incidents.map (session.clock, ·) ++ session.history
  clock : after.clock = session.clock
  armed : session.silentAt =
      (silentSince session.history).map (nextBeat session.settings.readTimeout session.clock) →
    after.silentAt =
      (silentSince after.history).map (nextBeat session.settings.readTimeout session.clock)

theorem Acts.refl (session : Session) : Acts session [] session := ⟨by simp, rfl, rfl, id⟩

theorem acts_beginReading (session : Session) (written : Except String Unit) :
    Acts session [.keepAlive written, .readerStarted] (session.beginReading written) := by
  have since : silentSince (session.beginReading written).history = some session.clock :=
    silentSince_keepAlive session.clock written
  refine ⟨by simp, rfl, rfl, fun _ => ?_⟩
  rw [since]
  exact congrArg some (nextBeat_self _ _).symm

/-- With every datagram the silence begins anew. -/
theorem acts_read (session : Session) (socket : Socket) (datagram : List UInt8)
    (written : Option (Except String Unit)) :
    ∃ incidents, Acts session incidents (session.read socket datagram written) := by
  let armed := (nextBeat session.settings.readTimeout session.clock)
  have rearmed := congrArg some (nextBeat_self session.settings.readTimeout session.clock).symm
  rw [read_eq]
  rcases session.answerAt_cases socket written with unanswered | ⟨outcome, answered⟩
  · rw [unanswered]
    exact ⟨[.read datagram], by simp, rfl, rfl, fun _ => rearmed⟩
  · have since : silentSince ((session.clock, .keepAlive outcome) ::
        (session.clock, .read datagram) :: session.history) = some session.clock :=
      silentSince_keepAlive session.clock outcome
    rw [answered]
    refine ⟨[.keepAlive outcome, .read datagram], by simp, rfl, rfl, fun _ => ?_⟩
    exact rearmed.trans (congrArg (Option.map armed) since.symm)

theorem acts_stopReader (session : Session) (busy : Bool) (written : Except String Unit) :
    ∃ incidents, Acts session incidents (session.stopReader busy written) := by
  cases listens : session.silentAt with
  | none =>
      rw [stopReader_of_silent listens]
      exact ⟨[], by simp, rfl, rfl, fun armed => listens.symm.trans armed⟩
  | some due =>
      obtain ⟨datagrams, _, _, adds, _⟩ := stopReader_adds (by rw [listens]; rfl) busy written
      obtain ⟨_, _, _, same, _⟩ := session.stopReader_frame busy written
      let incidents : List Incident :=
        .readerStopped :: .keepAlive written :: (datagrams.map .read).reverse
      have history : (session.stopReader busy written).history =
          incidents.map (session.clock, ·) ++ session.history := by
        rw [adds]
        simp [incidents, ending]
      refine ⟨incidents, by simp [incidents], history, by rw [same], fun _ => ?_⟩
      rw [history, same]
      rfl

/-- A reader that could not read counts silence anew or not at all. -/
theorem acts_failRead (session : Session) (cause : ReadError) (written : Except String Unit) :
    ∃ incidents, Acts session incidents (session.failRead cause written) := by
  unfold failRead
  split
  · have armed := congrArg some (nextBeat_self session.settings.readTimeout session.clock).symm
    exact ⟨[.disturbed], by simp, rfl, rfl, fun _ => armed⟩
  · exact ⟨[.readerStopped, .keepAlive written], by simp, rfl, rfl, fun _ => rfl⟩

/-- A link lets time pass or acts. -/
theorem Change.acts (change : Change session deed after) :
    (deed.mayWait = true ∧ ∃ instant, after = session.elapse instant) ∨
      ∃ incidents, Acts session incidents after := by
  cases change with
  | failed | moot => exact .inr ⟨[], .refl session⟩
  | received | arrived | hostChanged => exact .inr ⟨[], by simp, rfl, rfl, id⟩
  | @connected _ _ _ _ _ written | @restarted written =>
      obtain ⟨unsilent, history, clock, armed⟩ := session.acts_beginReading written
      exact .inr ⟨_, unsilent, history, clock, armed⟩
  | @sent packet frame => exact .inr ⟨[.sent frame], by simp, rfl, rfl, id⟩
  | @paused busy written | @closed busy written =>
      obtain ⟨incidents, unsilent, history, clock, armed⟩ := session.acts_stopReader busy written
      exact .inr ⟨incidents, unsilent, history, clock, armed⟩
  | @read datagram rest written listens waiting =>
      obtain ⟨socket, _, same⟩ := readNext_of_unread listens waiting
      rw [same]
      exact .inr (session.acts_read _ datagram (some written))
  | @readFailed cause written => exact .inr (session.acts_failRead cause written)
  | outwaited instant | elapsed instant => exact .inl ⟨rfl, instant, rfl⟩

theorem Acts.reports {incidents : List Incident} (acts : Acts session incidents after) :
    after.reports = session.reports := by
  have untold : (incidents.map (session.clock, ·)).filterMap report? = [] := by
    rw [List.filterMap_eq_nil_iff]
    intro entry member
    obtain ⟨incident, among, rfl⟩ := List.mem_map.mp member
    cases incident with
    | silent => exact absurd rfl (acts.unsilent _ among)
    | readerStarted | readerStopped | read | disturbed | keptAlive | refused | sent => rfl
  rw [reports_append session _ acts.history, untold]
  exact List.append_nil _

/-! ### What a link keeps -/

/-- A link that has reported silence on time. -/
structure OnTime (reporting : Bool) (session : Session) : Prop where
  heard : session.phase ≠ .closed → session.reporting = reporting
  past : ∀ entry ∈ session.history,
    entry.1 ≤ session.clock ∧ (entry.2 = .silent → entry.1 < session.clock)
  armed : session.silentAt =
    (silentSince session.history).map (nextBeat session.settings.readTimeout session.clock)
  reports : session.reports =
    if reporting then
      (due session.settings.readTimeout session.history session.clock).map
        (·, "Connection timeout!")
    else []
  chronological : Chronological session.history

/-- What is done at an instant does not make silence due at it. -/
theorem OnTime.acts {incidents : List Incident} (onTime : OnTime reporting session)
    (acts : Acts session incidents after) (settings : after.settings = session.settings)
    (heard : after.phase ≠ .closed → after.reporting = reporting) : OnTime reporting after := by
  refine ⟨heard, ?_, ?_, ?_, ?_⟩
  · rw [acts.history, acts.clock]
    intro entry member
    rcases List.mem_append.mp member with recent | before
    · obtain ⟨incident, among, rfl⟩ := List.mem_map.mp recent
      exact ⟨Nat.le_refl _, fun silent => absurd silent (acts.unsilent incident among)⟩
    · exact onTime.past entry before
  · rw [acts.clock, settings, acts.armed onTime.armed]
  · rw [acts.reports, acts.clock, settings, acts.history, due_append_now, onTime.reports]
  · rw [acts.history]
    refine List.pairwise_append.mpr ⟨?_, onTime.chronological, ?_⟩
    · refine List.pairwise_map.mpr (List.pairwise_of_forall_mem_list fun _ _ early among => ?_)
      exact ⟨Nat.le_refl _, fun silent => absurd silent (acts.unsilent early among)⟩
    · intro late recent early before
      obtain ⟨incident, among, rfl⟩ := List.mem_map.mp recent
      exact onTime.past early before

theorem OnTime.told (onTime : OnTime reporting session) (coherent : session.Coherent)
    (instant : Nat) : session.told instant =
      if reporting then
        session.silentAt.elim [] (instants · session.settings.readTimeout instant)
      else [] := by
  by_cases closed : session.phase = .closed
  · have unread := coherent.silentAt_eq_none (closed.trans_ne Phase.noConfusion)
    simp [Session.told, unread]
  · rw [Session.told, onTime.heard closed]

theorem filterMap_report? (instants : List Nat) :
    ((instants.map (·, Incident.silent)).reverse.filterMap report?).reverse =
      instants.map (·, "Connection timeout!") := by
  rw [List.filterMap_reverse, List.reverse_reverse, List.filterMap_map]
  exact congrFun (List.filterMap_eq_map (f := (·, "Connection timeout!"))) instants

theorem OnTime.told_ahead (onTime : OnTime reporting session) (coherent : session.Coherent)
    (positive : 0 < session.settings.readTimeout) {instant : Nat}
    (member : instant ∈ session.told later) : session.clock ≤ instant ∧ instant < later := by
  rw [onTime.told coherent, onTime.armed] at member
  cases since : silentSince session.history with
  | none => simp [since] at member
  | some start =>
      rw [since] at member
      split at member
      next =>
        obtain ⟨reached, within⟩ := mem_instants member
        exact ⟨(le_nextBeat positive _ _).trans reached, within⟩
      next => cases member

theorem OnTime.elapse (onTime : OnTime reporting session) (coherent : session.Coherent)
    (positive : 0 < session.settings.readTimeout) (passes : session.clock ≤ later) :
    OnTime reporting (session.elapse later) := by
  have silent : ∀ entry ∈ ((session.told later).map (·, Incident.silent)).reverse,
      entry.2 = .silent := by simp
  obtain ⟨clock, history, armed⟩ := session.elapse_told later
  obtain ⟨_, _, same, _⟩ := session.elapse_frame later
  have settings : (session.elapse later).settings = session.settings := by rw [same]
  refine ⟨?_, ?_, ?_, ?_, ?_⟩
  · rw [same]
    exact onTime.heard
  · rw [history, clock]
    intro entry member
    rcases List.mem_append.mp member with recent | before
    · obtain ⟨instant, among, rfl⟩ := List.mem_map.mp (List.mem_reverse.mp recent)
      have within := (onTime.told_ahead coherent positive among).2
      exact ⟨within.le, fun _ => within⟩
    · have past := onTime.past entry before
      exact ⟨past.1.trans passes, fun silent => (past.2 silent).trans_le passes⟩
  · rw [armed, settings, clock, history, silentSince_append_silent silent, onTime.armed]
    cases since : silentSince session.history with
    | none => rfl
    | some start => exact congrArg some (nextBeat_later positive passes)
  · rw [settings, clock, reports_append session _ history, filterMap_report?, onTime.reports,
      onTime.told coherent, history, due_append_silent silent, due_later positive passes,
      ← onTime.armed]
    cases reporting with
    | false => rfl
    | true => exact List.map_append.symm
  · rw [history]
    refine List.pairwise_append.mpr ⟨?_, onTime.chronological, ?_⟩
    · refine List.pairwise_reverse.mpr (List.pairwise_map.mpr ?_)
      have increasing := session.told_increasing positive later
      exact increasing.imp fun earlier => ⟨earlier.le, fun _ => earlier⟩
    · intro late recent early before
      obtain ⟨instant, among, rfl⟩ := List.mem_map.mp (List.mem_reverse.mp recent)
      have ahead := (onTime.told_ahead coherent positive among).1
      have past := onTime.past early before
      exact ⟨past.1.trans ahead, fun silent => (past.2 silent).trans_le ahead⟩

theorem receive_passes {wait : Wait} {packet : Option Packet}
    (received : session.receive wait = some (after, packet)) : session.clock ≤ after.clock := by
  unfold receive at received
  split at received
  next =>
    cases received
    exact Nat.le_refl _
  next =>
    split at received
    next =>
      cases wait with
      | none =>
          cases received
          exact Nat.le_refl _
      | forever => cases received
      | atMost nanoseconds =>
          cases received
          rw [(session.elapse_told _).1]
          exact Nat.le_add_right _ _
    next =>
      cases received
      exact Nat.le_refl _

/-- Time does not go back where somebody waits. -/
theorem Step.passes (step : Step before deed after) (waits : deed.mayWait = true) :
    before.clock ≤ after.clock := by
  cases step with
  | receive received => exact receive_passes received
  | elapse later =>
      rw [(before.elapse_told _).1]
      exact later
  | connect | send | pause | restart | close | arrive | read | failRead | changeHost => cases waits

/-- Only a link that is connected or closed changes whether somebody is told. -/
theorem Change.heard (change : Change session deed after) (opened : session.phase ≠ .idle)
    (heard : session.phase ≠ .closed → session.reporting = reporting) :
    after.phase ≠ .closed → after.reporting = reporting := by
  cases change with
  | failed | moot | sent | received | arrived | hostChanged => exact heard
  | connected idle => exact absurd idle opened
  | closed => exact absurd rfl
  | restarted paused => exact fun _ => heard (paused.trans_ne Phase.noConfusion)
  | @paused busy written connected =>
      obtain ⟨_, _, _, same, _⟩ := session.stopReader_frame busy written
      rw [same]
      exact fun _ => heard (connected.trans_ne Phase.noConfusion)
  | @read _ _ written =>
      obtain ⟨_, _, _, _, same, _⟩ := session.readNext_frame (some written)
      rw [same]
      exact heard
  | @readFailed cause written =>
      obtain ⟨_, _, same, _⟩ := session.failRead_frame cause written
      rw [same]
      exact heard
  | outwaited instant | elapsed instant =>
      obtain ⟨_, _, same, _⟩ := session.elapse_frame instant
      rw [same]
      exact heard

theorem Change.remains_open (change : Change session deed after) (opened : session.phase ≠ .idle) :
    after.phase ≠ .idle := by
  rw [change.phase]
  unfold Deed.phaseAfter
  split <;> simp_all

theorem Step.onTime (step : Step session deed after) (onTime : OnTime reporting session)
    (coherent : session.Coherent) (opened : session.phase ≠ .idle)
    (positive : 0 < session.settings.readTimeout) : OnTime reporting after := by
  have change := step.change coherent
  rcases change.acts with ⟨waits, instant, rfl⟩ | ⟨incidents, acts⟩
  · have passes := step.passes waits
    rw [(session.elapse_told instant).1] at passes
    exact onTime.elapse coherent positive passes
  · exact onTime.acts acts change.settings (change.heard opened onTime.heard)

theorem Run.onTime (run : Run session log last) (onTime : OnTime reporting session)
    (coherent : session.Coherent) (opened : session.phase ≠ .idle)
    (positive : 0 < session.settings.readTimeout) :
    last.phase ≠ .idle ∧ OnTime reporting last := by
  -- A link that is not idle is never connected again, so that the same somebody is told all along.
  induction run with
  | refl => exact ⟨opened, onTime⟩
  | step run step ih =>
      obtain ⟨begun, onTime⟩ := ih
      have settings := run.settings coherent
      have coherent := run.coherent coherent
      exact ⟨(step.change coherent).remains_open begun,
        step.onTime onTime coherent begun (by rw [settings]; exact positive)⟩

/-- A link that has just been connected has reported nothing. -/
theorem onTime_connect (coherent : session.Coherent) {address : String}
    {written : Except String Unit}
    (connected : (session.connect address reporting written).2 = .ok ()) :
    (session.connect address reporting written).1.phase = .connected ∧
      OnTime reporting (session.connect address reporting written).1 := by
  obtain ⟨idle, ip, port, source, parsed, bound, routed⟩ :=
    (connect_ok_iff coherent address reporting written).mp connected
  have unread := coherent.silentAt_eq_none (idle.trans_ne Phase.noConfusion)
  have untouched := coherent.untouched idle
  have onTime : OnTime reporting { session with reporting } := by
    refine ⟨fun _ => rfl, ?_, ?_, ?_, ?_⟩
    · simp [untouched]
    · simp only [untouched, silentSince]
      exact unread
    · simp [Session.reports, untouched, due]
    · simp [Chronological, untouched]
  obtain ⟨unsilent, history, clock, armed⟩ := acts_beginReading { session with reporting } written
  rw [connect_of_routed coherent idle written parsed bound routed]
  exact ⟨rfl, onTime.acts ⟨unsilent, history, clock, armed⟩ rfl fun _ => rfl⟩

/-! ### What silence is counted from -/

/-- Whether a reader begins to wait anew in a deed. -/
def Deed.rearms : Deed → Bool
  | .read _ => true
  | .readFailed cause => cause.isTransient
  | .connected .. | .sent .. | .paused .. | .restarted _ | .closed .. | .received .. | .arrived ..
  | .waited | .hostChanged => false

/-- Since when silence is counted after a deed. -/
def silentSinceAfter (session : Session) (deed : Deed) : Option Nat :=
  if deed.starts session.phase || deed.rearms then some session.clock
  else if deed.stops session.phase || deed.breaksOff then none
  else silentSince session.history

theorem Deed.rearms_of_error {error : TransportError}
    (failed : deed.outcome? = some (.error error)) (phase : Phase) :
    deed.rearms = false ∧ deed.stops phase = false ∧ deed.breaksOff = false := by
  cases deed <;> simp_all [outcome?, rearms, stops, breaksOff]

/-- A reader that listens counts silence, and one that has ended does not. -/
theorem stopReader_silentSince
    (listens : session.silentAt.isSome = (silentSince session.history).isSome) (busy : Bool)
    (written : Except String Unit) :
    silentSince (session.stopReader busy written).history = none := by
  cases unread : session.silentAt with
  | none =>
      rw [stopReader_of_silent unread]
      simpa [unread] using listens.symm
  | some due =>
      obtain ⟨datagrams, _, _, adds, _⟩ := stopReader_adds (by rw [unread]; rfl) busy written
      rw [adds, ending, List.reverse_append]
      rfl

theorem Change.silentSince (coherent : session.Coherent)
    (listens : session.silentAt.isSome = (Session.silentSince session.history).isSome)
    (change : Change session deed after) :
    Session.silentSince after.history = session.silentSinceAfter deed := by
  unfold silentSinceAfter
  cases change with
  | failed outcome =>
      obtain ⟨unread, unstopped, unbroken⟩ := Deed.rearms_of_error outcome session.phase
      rw [Deed.starts_of_error outcome, unread, unstopped, unbroken]
      rfl
  | moot moot =>
      cases moot with
      | paused already | restarted already => rw [already]; rfl
      | received | arrived => rfl
  | @connected _ _ _ _ _ written => exact silentSince_keepAlive _ written
  | @restarted written paused =>
      rw [paused]
      exact silentSince_keepAlive _ written
  | sent | received | arrived | hostChanged => rfl
  | @paused busy written connected =>
      rw [connected]
      exact stopReader_silentSince listens busy written
  | @closed busy written usable =>
      rcases usable with connected | paused
      · rw [connected]
        exact stopReader_silentSince listens busy written
      · rw [paused, stopReader_of_silent (coherent.unread_of_paused paused)]
        rfl
  | @read datagram rest written listening waiting =>
      obtain ⟨socket, _, history⟩ := readNext_history listening waiting
      rw [history]
      rcases session.answerAt_cases { socket with unread := rest } (some written) with
        unanswered | ⟨outcome, answered⟩
      · rw [unanswered]
        rfl
      · rw [answered]
        exact silentSince_keepAlive _ outcome
  | @readFailed cause written =>
      unfold failRead
      cases transient : cause.isTransient <;>
        simp [transient, Deed.starts, Deed.stops, Deed.rearms, Deed.breaksOff, Session.silentSince,
          endReading, record, listen]
  | outwaited instant | elapsed instant =>
      obtain ⟨_, history, silent⟩ := session.elapse_history instant
      rw [history]
      exact silentSince_append_silent silent

/-! ### The law -/

/-- How a link reports silence that lasts. -/
structure ReportsSilence (reporting : Bool) (session : Session) : Prop where
  /-- At the end of every full period of silence there is a report, if somebody is told and if this is
  before what ends the silence; and there is no other. -/
  reports : session.reports =
    if reporting then
      (due session.settings.readTimeout session.history session.clock).map
        (·, "Connection timeout!")
    else []
  /-- While silence lasts, the reports of it are those of all full periods that are over. -/
  regular : reporting = true → ∀ start, silentSince session.history = some start →
    ∀ instant, start < instant → ((instant, "Connection timeout!") ∈ session.reports ↔
      instant < session.clock ∧
        ∃ count, 0 < count ∧ instant = start + count * session.settings.readTimeout)
  /-- The datagram or the stop that ends a silence is strictly later than every report of it. -/
  chronological : Chronological session.history
  /-- Silence is counted from the start of the reader, from each datagram and from each failure that
  the reader survives. What the application sends or receives does not end it. -/
  counts : ∀ deed after, Step session deed after →
    silentSince after.history = session.silentSinceAfter deed
  /-- There is no report while a link is paused or when it is closed. -/
  apart : session.phase ≠ .connected → ∀ deed after, Step session deed after →
    after.reports = session.reports
  /-- Nothing is reported unless time passes, and while time passes nothing else happens. The reader
  goes on. -/
  harmless : ∀ deed after, Step session deed after →
    after.clock = session.clock ∧ after.reports = session.reports ∨
      ∃ clock reader history, after = { session with clock, reader, history } ∧
        reader.isSome = session.reader.isSome ∧ after.silentAt.isSome = session.silentAt.isSome ∧
        history.filterMap (·.2.transmission?) = session.history.filterMap (·.2.transmission?)

theorem OnTime.regular (onTime : OnTime true session)
    (positive : 0 < session.settings.readTimeout) (since : silentSince session.history = some start)
    {instant : Nat} (late : start < instant) :
    (instant, "Connection timeout!") ∈ session.reports ↔
      instant < session.clock ∧
        ∃ count, 0 < count ∧ instant = start + count * session.settings.readTimeout := by
  rw [← mem_beats positive, ← mem_due_iff positive onTime.chronological since late, onTime.reports]
  simp

theorem Change.reports_apart (coherent : session.Coherent) (change : Change session deed after)
    (unread : session.phase ≠ .connected) : after.reports = session.reports := by
  rcases change.acts with ⟨_, instant, rfl⟩ | ⟨incidents, acts⟩
  · obtain ⟨_, _, same, _, _, kept⟩ := session.elapse_frame instant
    rw [same, Session.reports, kept (coherent.silentAt_eq_none unread)]
    rfl
  · exact acts.reports

theorem Change.harmless (change : Change session deed after) :
    after.clock = session.clock ∧ after.reports = session.reports ∨
      ∃ clock reader history, after = { session with clock, reader, history } ∧
        reader.isSome = session.reader.isSome ∧ after.silentAt.isSome = session.silentAt.isSome ∧
        history.filterMap (·.2.transmission?) = session.history.filterMap (·.2.transmission?) := by
  rcases change.acts with ⟨_, instant, rfl⟩ | ⟨incidents, acts⟩
  · obtain ⟨recent, history, silent⟩ := session.elapse_history instant
    have unsent : recent.filterMap (·.2.transmission?) = [] :=
      List.filterMap_eq_nil_iff.mpr fun entry member => by rw [silent entry member]; rfl
    obtain ⟨_, extended, same, kept, listens, _⟩ := session.elapse_frame instant
    have longer : extended = recent ++ session.history := by rw [← history, same]
    refine .inr ⟨_, _, _, same, kept, by rw [same]; exact listens, ?_⟩
    rw [longer, List.filterMap_append, unsent]
    rfl
  · exact .inl ⟨acts.clock, acts.reports⟩

theorem Run.reports_silence {address : String} {written : Except String Unit}
    (run : Run (new settings host) log before)
    (connected : (before.connect address reporting written).2 = .ok ())
    (rest : Run (before.connect address reporting written).1 more session)
    (positive : 0 < settings.readTimeout) : ReportsSilence reporting session := by
  have begun := run.step (.connect address reporting written)
  have opened := begun.coherent (coherent_new settings host)
  have same := begun.settings (coherent_new settings host)
  obtain ⟨phase, onTime⟩ := onTime_connect (run.coherent (coherent_new settings host)) connected
  obtain ⟨_, onTime⟩ := rest.onTime onTime opened (phase.trans_ne Phase.noConfusion)
    (by rw [same]; exact positive)
  have coherent := rest.coherent opened
  have listens : session.silentAt.isSome = (silentSince session.history).isSome := by
    rw [onTime.armed, Option.isSome_map]
  have settled := (rest.settings opened).trans same
  exact
    { reports := onTime.reports
      regular := by
        rintro rfl start since instant late
        exact onTime.regular (by rw [settled]; exact positive) since late
      chronological := onTime.chronological
      counts := fun _ _ step => (step.change coherent).silentSince coherent listens
      apart := fun unread _ _ step => (step.change coherent).reports_apart coherent unread
      harmless := fun _ _ step => (step.change coherent).harmless }

/-- A link that hears something in the middle of a period and again at the very end of one, and that
cannot read for a moment; it is paused and closed at the very end of a period as well. None of these
ends is reported. -/
theorem reports_silence_twoReaders : ∃ more last,
    Run ((new (.ofChanges [.maxBindAttempts 1, .readTimeout 100]) .unhindered).connect
      "10.0.0.1" true (.ok ())).1 more last ∧
    ReportsSilence true last ∧
    last.history.reverse.filterMap (fun entry => entry.2.reading?.map (entry.1, ·)) =
      [(250, [0xff]), (350, [0xff])] ∧
    last.reports = [100, 200, 500, 1100].map (·, "Connection timeout!") ∧
    last.clock = 2000 := by
  let connected := ((new (.ofChanges [.maxBindAttempts 1, .readTimeout 100])
    .unhindered).connect "10.0.0.1" true (.ok ())).1
  have first : Run connected _ _ :=
    .step (.step (.step .refl (.elapse (show _ ≤ 250 by decide))) (.arrive [0xff]))
      (.read rfl rfl (.ok ()))
  have second := Run.step (.step (.step (.step first
    (.send ⟨15, 3, [], by decide, by decide⟩ (.ok ())))
    (.receive (show receive _ (.atMost 100000000) = some (_, _) from rfl)))
    (.arrive [0xff])) (.read rfl rfl (.ok ()))
  have disturbed := Run.step (.step second (.elapse (show _ ≤ 400 by decide +kernel)))
    (.failRead rfl .connectionRefused (.ok ()))
  have paused := Run.step (.step (.step disturbed (.elapse (show _ ≤ 600 by decide +kernel)))
    (.pause false (.ok ()))) (.elapse (show _ ≤ 1000 by decide +kernel))
  have run := Run.step (.step (.step (.step paused (.restart (.ok ())))
    (.elapse (show _ ≤ 1200 by decide +kernel))) (.close false (.ok ())))
    (.elapse (show _ ≤ 2000 by decide +kernel))
  refine ⟨_, _, run, ?_, by decide +kernel, by decide +kernel, by decide +kernel⟩
  exact Run.reports_silence .refl rfl run (by decide)

end VehicleLink.Session
