import VehicleLink.Bridge.Open
import VehicleLink.Bridge.Stream
import VehicleLink.Proofs.Bridge.Hearing

/-!
What each operation on a bridge or a stream comes to: the driver is called, everybody hears what it
reports meanwhile, and only the bridge or stream that was asked changes beyond that.
-/

namespace VehicleLink.Bridge

/-- A bridge that has just subscribed to the outcome of an attempt. -/
def LinkBridge.begin (bridge : LinkBridge) : LinkBridge :=
  LinkBridge.enroll { bridge with attempt := .waiting }

def LinkBridge.settle (bridge : LinkBridge) (isOpen : Bool) : LinkBridge :=
  { bridge with attempt := .none, isOpen }

namespace Station

variable {station before middle after : Station} {number : Nat}

/-! ### Changes of the bridge or stream that acts -/

theorem passes_updateBridge (station : Station) (number : Nat) (change : LinkBridge → LinkBridge) :
    Passes (some (.link number)) station [] (station.updateBridge number change) := by
  refine ⟨fixed_updateBridge station number change, rfl, fun other aside => ?_, fun _ _ => rfl⟩
  have different : number ≠ other := fun same => aside (congrArg (some ∘ Party.link) same)
  simp [bridge, updateBridge, different]

theorem passes_updateStream (station : Station) (number : Nat) (change : LogStream → LogStream) :
    Passes (some (.stream number)) station [] (station.updateStream number change) := by
  refine ⟨fixed_updateStream station number change, rfl, fun _ _ => rfl, fun other aside => ?_⟩
  have different : number ≠ other := fun same => aside (congrArg (some ∘ Party.stream) same)
  simp [stream, updateStream, different]

theorem passes_unsubscribeBridge (station : Station) (number : Nat) :
    Passes (some (.link number)) station [] (station.unsubscribeBridge number) := by
  refine ⟨fixed_unsubscribeBridge station number, history_unsubscribeBridge station number,
    fun other aside => ?_, fun other _ => stream_unsubscribeBridge station number other⟩
  have different : other ≠ number := fun same => aside (congrArg (some ∘ Party.link) same.symm)
  rw [bridge_unsubscribeBridge, if_neg different]
  rfl

theorem passes_subscribeBridge (station : Station) (number : Nat) :
    Passes (some (.link number)) station [] (station.subscribeBridge number) := by
  have enrolled := passes_updateBridge (station.unsubscribeBridge number) number fun bridge =>
    { bridge with
      sessions := ((station.unsubscribeBridge number).bridge number).sessions + 1
      lifecycle := some ((station.unsubscribeBridge number).bridge number).sessions }
  have passed := (passes_unsubscribeBridge station number).trans enrolled
  have fixed : Fixed station (station.subscribeBridge number) :=
    (fixed_unsubscribeBridge station number).trans
      { Fixed.refl _ with bridges := List.length_modify .. }
  exact ⟨fixed, passed.history, passed.bridge, passed.stream⟩

theorem fixed_registries (station : Station) (disconnected : Registry Subscriber) :
    Fixed station { station with disconnected } :=
  ⟨rfl, rfl, rfl, fun _ => rfl, rfl, rfl, rfl, rfl⟩

theorem fixed_updateBlock (station : Station) (number : Nat) {change : Block → Block}
    (keeps : ∀ block, (change block).script = block.script) :
    Fixed station (station.updateBlock number change) := by
  refine { Fixed.refl station with blocks := List.length_modify .., block := fun other => ?_ }
  simp only [block, updateBlock, List.getElem?_modify]
  cases station.blocks[other]? with
  | none => rfl
  | some block =>
      by_cases same : number = other
      · simpa [same] using keeps block
      · simp [same]

theorem passes_releaseStream (station : Station) (number : Nat) :
    Passes (some (.stream number)) station [] (station.releaseStream number) := by
  have aside : ∀ other, some (Party.stream number) ≠ some (.stream other) →
      (station.releaseStream number).stream other = station.stream other := by
    intro other different
    rw [stream_releaseStream, if_neg]
    exact fun same => different (congrArg (some ∘ Party.stream) same.symm)
  cases held : (station.stream number).subscription with
  | none =>
      rw [releaseStream_of_none held] at aside ⊢
      exact ⟨fixed_updateStream station number _, rfl, fun _ _ => rfl, aside⟩
  | some session =>
      rw [releaseStream_of_some held] at aside ⊢
      have removed : Fixed station (station.withoutStream number session) :=
        (fixed_registries station _).trans (fixed_updateBlock _ _ fun _ => rfl)
      exact ⟨removed.trans (fixed_updateStream _ number _), rfl, fun _ _ => rfl, aside⟩

theorem passes_subscribeStream (station : Station) (inside : number < station.streams.length) :
    Passes (some (.stream number)) station [] (station.subscribeStream number) := by
  have inserted : Fixed station (station.withStream number) :=
    (fixed_registries station _).trans (fixed_updateBlock _ _ fun _ => rfl)
  refine ⟨inserted.trans (fixed_updateStream _ number _), rfl, fun _ _ => rfl,
    fun other different => ?_⟩
  rw [stream_subscribeStream inside, if_neg]
  · rfl
  · exact fun same => different (congrArg (some ∘ Party.stream) same.symm)

/-! ### Bridges -/

def attempted (station : Station) (number : Nat) : Station :=
  let subscribed := (station.updateBridge number ({ · with attempt := .waiting }))
    |>.subscribeBridge number
  (subscribed.call (.openLink number (station.bridge number).uri)).fireAll subscribed.onOpen

def reportedOnOpen (station : Station) : List Incident :=
  station.onOpen.filterMap station.incident?

def reportedOnClose (station : Station) : List Incident :=
  station.onClose.filterMap station.incident?

theorem attempted_passes (consistent : station.Consistent)
    (inside : number < station.bridges.length) :
    (station.attempted number).Consistent ∧
      Passes (some (.link number)) station
        (.called (.openLink number (station.bridge number).uri) :: station.reportedOnOpen)
        (station.attempted number) ∧
      (station.attempted number).bridge number =
        station.reportedOnOpen.foldl .hear (station.bridge number).begin := by
  let waiting := station.updateBridge number ({ · with attempt := .waiting })
  let subscribed := waiting.subscribeBridge number
  have waits := passes_updateBridge station number ({ · with attempt := .waiting })
  have within : number < waiting.bridges.length := by rwa [waits.fixed.bridges]
  have ready : subscribed.Consistent := (consistent.updateBridge rfl).subscribeBridge within
  have subscribes := waits.trans (passes_subscribeBridge waiting number)
  obtain ⟨last, reports⟩ := call_fireAll_passes ready
    (.openLink number (station.bridge number).uri) subscribed.onOpen
  have reported : subscribed.onOpen.filterMap subscribed.incident? = station.reportedOnOpen := by
    rw [funext subscribes.fixed.incident?,
      show subscribed.onOpen = station.onOpen from subscribes.fixed.onOpen]
    rfl
  rw [reported] at reports
  refine ⟨last, subscribes.trans (reports.by _), ?_⟩
  have heard : (station.attempted number).bridge number = _ := reports.bridge number nofun
  have enrolled : subscribed.bridge number = (station.bridge number).begin := by
    rw [bridge_subscribeBridge within, if_pos rfl, bridge_updateBridge (.inr inside), if_pos rfl]
    rfl
  rw [heard, enrolled]
  rfl

theorem openLink_of_open (isOpen : (station.bridge number).isOpen = true) :
    station.openLink number = some (station, .error (.phase .alreadyOpen)) := by
  unfold openLink
  rw [if_pos isOpen]

def settled (station : Station) (number : Nat) : Station :=
  (station.attempted number).updateBridge number ({ · with attempt := .none })

theorem openLink_eq (closed : (station.bridge number).isOpen = false) :
    station.openLink number =
      match ((station.attempted number).bridge number).attempt with
      | .waiting => none
      | .decided (.ok ()) =>
          some ((station.settled number).updateBridge number ({ · with isOpen := true }), .ok ())
      | .decided (.error reason) =>
          some ((station.settled number).unsubscribeBridge number,
            .error (.bridge (.linkOpen (station.bridge number).uri reason)))
      | .none =>
          some ((station.settled number).unsubscribeBridge number,
            .error (.bridge (.linkOpen (station.bridge number).uri closedWhileOpening))) := by
  unfold openLink
  rw [if_neg (ne_true_of_eq_false closed)]
  rfl

theorem openLink_cases {outcome : Except LinkError Unit}
    (closed : (station.bridge number).isOpen = false)
    (pending : ((station.attempted number).bridge number).attempt ≠ .none)
    (opened : station.openLink number = some (after, outcome)) :
    (((station.attempted number).bridge number).attempt = .decided (.ok ()) ∧ outcome = .ok () ∧
      after = (station.settled number).updateBridge number ({ · with isOpen := true })) ∨
    ∃ reason, ((station.attempted number).bridge number).attempt = .decided (.error reason) ∧
      outcome = .error (.bridge (.linkOpen (station.bridge number).uri reason)) ∧
      after = (station.settled number).unsubscribeBridge number := by
  rw [openLink_eq closed] at opened
  cases decided : ((station.attempted number).bridge number).attempt with
  | none => exact absurd decided pending
  | waiting => simp [decided] at opened
  | decided result =>
      cases result with
      | ok done =>
          simp only [decided, Option.some.injEq, Prod.mk.injEq] at opened
          exact .inl ⟨rfl, opened.2.symm, opened.1.symm⟩
      | error reason =>
          simp only [decided, Option.some.injEq, Prod.mk.injEq] at opened
          exact .inr ⟨reason, rfl, opened.2.symm, opened.1.symm⟩

/-- The bridge keeps its subscription only if the attempt succeeds. -/
theorem openLink_of_closed {outcome : Except LinkError Unit} (consistent : station.Consistent)
    (inside : number < station.bridges.length) (closed : (station.bridge number).isOpen = false)
    (opened : station.openLink number = some (after, outcome)) :
    after.Consistent ∧
      Passes (some (.link number)) station
        (.called (.openLink number (station.bridge number).uri) :: station.reportedOnOpen) after ∧
      ((station.reportedOnOpen.foldl .hear (station.bridge number).begin).attempt =
          .decided (.ok ()) ∧ outcome = .ok () ∧
        after.bridge number =
          (station.reportedOnOpen.foldl .hear (station.bridge number).begin).settle true ∨
      ∃ reason, (station.reportedOnOpen.foldl .hear (station.bridge number).begin).attempt =
          .decided (.error reason) ∧
        outcome = .error (.bridge (.linkOpen (station.bridge number).uri reason)) ∧
        after.bridge number =
          ((station.reportedOnOpen.foldl .hear (station.bridge number).begin).settle
            false).release) := by
  obtain ⟨formed, passed, heard⟩ := attempted_passes consistent inside
  have stillClosed : ((station.attempted number).bridge number).isOpen = false := by
    rw [heard, ← Bool.not_eq_true, LinkBridge.isOpen_foldl_hear]
    exact fun opened => ne_true_of_eq_false closed opened.1
  have pending : ((station.attempted number).bridge number).attempt ≠ .none := by
    rw [heard]
    exact LinkBridge.attempt_foldl_hear _ _ (by simp [LinkBridge.begin, LinkBridge.enroll])
  have within : number < (station.attempted number).bridges.length := by
    rwa [passed.fixed.bridges]
  have settles : Passes _ (station.attempted number) [] (station.settled number) :=
    passes_updateBridge _ number _
  have stays : (station.settled number).Consistent := formed.updateBridge rfl
  have rests : (station.settled number).bridge number =
      { (station.attempted number).bridge number with attempt := .none } := by
    rw [settled, bridge_updateBridge (.inr within), if_pos rfl]
  rw [← heard]
  rcases openLink_cases closed pending opened with
    ⟨decided, rfl, rfl⟩ | ⟨reason, decided, rfl, rfl⟩
  · have opens := passes_updateBridge (station.settled number) number ({ · with isOpen := true })
    refine ⟨stays.updateBridge rfl, ?_, .inl ⟨decided, rfl, ?_⟩⟩
    · simpa using (passed.trans settles).trans opens
    · rw [bridge_updateBridge (.inr (by rwa [settles.fixed.bridges])), if_pos rfl, rests]
      rfl
  · have leaves := passes_unsubscribeBridge (station.settled number) number
    refine ⟨stays.unsubscribeBridge number, ?_, .inr ⟨reason, decided, rfl, ?_⟩⟩
    · simpa using (passed.trans settles).trans leaves
    · rw [bridge_unsubscribeBridge, if_pos rfl, rests]
      simp only [LinkBridge.settle, stillClosed]

theorem closeLink_passes (consistent : station.Consistent) (number : Nat) :
    (station.closeLink number).Consistent ∧
      Passes (some (.link number)) station
        (.called (.closeLink number) :: station.reportedOnClose) (station.closeLink number) ∧
      (station.closeLink number).bridge number =
        ((station.reportedOnClose.foldl .hear (station.bridge number)).release.settle false) := by
  let heard := (station.call (.closeLink number)).fireAll station.onClose
  obtain ⟨formed, reports⟩ :=
    call_fireAll_passes consistent (.closeLink number) station.onClose
  have leaves := passes_unsubscribeBridge heard number
  have settles := passes_updateBridge (heard.unsubscribeBridge number) number (·.settle false)
  refine ⟨(formed.unsubscribeBridge number).updateBridge rfl, ?_, ?_⟩
  · have whole := ((reports.by (some (.link number))).trans leaves).trans settles
    rw [List.append_nil, List.append_nil] at whole
    exact whole
  · change ((heard.unsubscribeBridge number).updateBridge number (·.settle false)).bridge number = _
    rw [bridge_updateBridge (.inl rfl), if_pos rfl, bridge_unsubscribeBridge, if_pos rfl]
    exact congrArg (·.release.settle false) (reports.bridge number nofun)

theorem dropBridge_of_open (isOpen : (station.bridge number).isOpen = true) :
    station.dropBridge number = station.closeLink number := if_pos isOpen

theorem dropBridge_of_closed (closed : (station.bridge number).isOpen = false) :
    station.dropBridge number = station.unsubscribeBridge number :=
  if_neg (ne_true_of_eq_false closed)

/-! ### Streams -/

def reportedOnStart (station : Station) (number : Nat) : List Incident :=
  (station.block (station.stream number).block).onStart.filterMap station.incident?

def reportedOnStop (station : Station) (number : Nat) : List Incident :=
  (station.block (station.stream number).block).onStop.filterMap station.incident?

def reportedOnDelete (station : Station) (number : Nat) : List Incident :=
  (station.block (station.stream number).block).onDelete.filterMap station.incident?

def blockName (station : Station) (number : Nat) : String :=
  (station.block (station.stream number).block).name

/-- A reader gets the first sample of a connected stream, or nothing once no sample can come. -/
theorem nextEntry_cases {entry : Option Entry}
    (taken : station.nextEntry number = some (after, entry)) :
    ((station.stream number).isConnected = false ∧ entry = none ∧ after = station) ∨
    ((station.stream number).isConnected = true ∧ (station.stream number).accepting = false ∧
      entry = none ∧ after = station.updateStream number ({ · with isConnected := false })) ∨
    ∃ first rest, (station.stream number).isConnected = true ∧
      (station.stream number).queue = first :: rest ∧ entry = some first ∧
      after = station.updateStream number ({ · with queue := rest }) := by
  cases connected : (station.stream number).isConnected with
  | false =>
      simp only [nextEntry, connected, Bool.false_eq_true, if_false, Option.some.injEq,
        Prod.mk.injEq] at taken
      obtain ⟨rfl, rfl⟩ := taken
      exact .inl ⟨rfl, rfl, rfl⟩
  | true =>
      cases queued : (station.stream number).queue with
      | cons first rest =>
          simp only [nextEntry, connected, queued, if_true, Option.some.injEq,
            Prod.mk.injEq] at taken
          obtain ⟨rfl, rfl⟩ := taken
          exact .inr (.inr ⟨first, rest, rfl, rfl, rfl, rfl⟩)
      | nil =>
          cases accepting : (station.stream number).accepting with
          | true => simp [nextEntry, connected, queued, accepting] at taken
          | false =>
              simp only [nextEntry, connected, queued, accepting, Bool.false_eq_true, if_true,
                if_false, Option.some.injEq, Prod.mk.injEq] at taken
              obtain ⟨rfl, rfl⟩ := taken
              exact .inr (.inl ⟨rfl, rfl, rfl, rfl⟩)

theorem connectStream_of_connected (isConnected : (station.stream number).isConnected = true) :
    station.connectStream number = (station, .error (.phase .alreadyConnected)) := by
  unfold connectStream
  rw [if_pos isConnected]

theorem script_releaseStream (station : Station) (number : Nat) :
    ((station.releaseStream number).block
        ((station.releaseStream number).stream number).block).script =
      (station.block (station.stream number).block).script := by
  rw [stream_releaseStream, if_pos rfl]
  exact (passes_releaseStream station number).fixed.block _

def registered (station : Station) (number : Nat) : Station :=
  (station.releaseStream number).call (.addConfig number (station.blockName number))

theorem registered_passes (consistent : station.Consistent) (number : Nat) :
    (station.registered number).Consistent ∧
      Passes (some (.stream number)) station [.called (.addConfig number (station.blockName number))]
        (station.registered number) ∧
      (station.registered number).stream number = (station.stream number).release := by
  have calls := passes_call (station.releaseStream number)
    (.addConfig number (station.blockName number))
  refine ⟨(consistent.releaseStream number).record _,
    (passes_releaseStream station number).trans (calls.by _), ?_⟩
  change (station.releaseStream number).stream number = _
  rw [stream_releaseStream, if_pos rfl]

def started (station : Station) (number : Nat) : Station :=
  (((station.registered number).subscribeStream number).call
    (.start number (station.blockName number))).fireAll
      (station.block (station.stream number).block).onStart

theorem started_passes (consistent : station.Consistent)
    (inside : number < station.streams.length) :
    (station.started number).Consistent ∧
      Passes (some (.stream number)) station
        (.called (.addConfig number (station.blockName number)) ::
          .called (.start number (station.blockName number)) :: station.reportedOnStart number)
        (station.started number) ∧
      (station.started number).stream number =
        (station.reportedOnStart number).foldl .hear (station.stream number).release.enroll := by
  obtain ⟨formed, passed, released⟩ := registered_passes consistent number
  have within : number < (station.registered number).streams.length := by
    rwa [passed.fixed.streams]
  have vacant : ((station.registered number).stream number).subscription = none := by
    rw [released]
    rfl
  have subscribes := passed.trans (passes_subscribeStream _ within)
  obtain ⟨last, reports⟩ := call_fireAll_passes (formed.subscribeStream within vacant)
    (.start number (station.blockName number)) (station.block (station.stream number).block).onStart
  have reported : ((station.registered number).subscribeStream number).incident? =
      station.incident? := funext subscribes.fixed.incident?
  rw [reported] at reports
  refine ⟨last, subscribes.trans (reports.by _), ?_⟩
  have heard : (station.started number).stream number = _ := reports.stream number nofun
  rw [heard, stream_subscribeStream within, if_pos rfl, released]
  rfl

theorem connectStream_eq (idle : (station.stream number).isConnected = false) :
    station.connectStream number =
      match station.rejection with
      | some reason => (station.registered number, .error (.bridge (.logConfig reason)))
      | none => ((station.started number).updateStream number ({ · with isConnected := true }),
          .ok ()) := by
  obtain ⟨name, onStart, _, _⟩ := Block.eq_of_script (script_releaseStream station number)
  have rejection := (passes_releaseStream station number).fixed.rejection
  unfold connectStream
  rw [if_neg (ne_true_of_eq_false idle)]
  simp only [name, onStart]
  change (match (station.releaseStream number).rejection with
    | some reason => _
    | none => _) = _
  rw [rejection]
  rfl

theorem connectStream_of_rejected {reason : String} (consistent : station.Consistent)
    (idle : (station.stream number).isConnected = false)
    (rejected : station.rejection = some reason) :
    ∃ after, station.connectStream number = (after, .error (.bridge (.logConfig reason))) ∧
      after.Consistent ∧
      Passes (some (.stream number)) station
        [.called (.addConfig number (station.blockName number))] after ∧
      after.stream number = (station.stream number).release := by
  refine ⟨station.registered number, ?_, registered_passes consistent number⟩
  rw [connectStream_eq idle, rejected]

/-- The stream is connected whatever the driver has reported while it started the block. -/
theorem connectStream_of_accepted (consistent : station.Consistent)
    (inside : number < station.streams.length)
    (idle : (station.stream number).isConnected = false) (accepted : station.rejection = none) :
    ∃ after, station.connectStream number = (after, .ok ()) ∧ after.Consistent ∧
      Passes (some (.stream number)) station
        (.called (.addConfig number (station.blockName number)) ::
          .called (.start number (station.blockName number)) :: station.reportedOnStart number)
        after ∧
      after.stream number = { (station.reportedOnStart number).foldl .hear
        (station.stream number).release.enroll with isConnected := true } := by
  obtain ⟨formed, passed, heard⟩ := started_passes consistent inside
  have connects := passes_updateStream (station.started number) number
    ({ · with isConnected := true })
  have within : number < (station.started number).streams.length := by rwa [passed.fixed.streams]
  refine ⟨(station.started number).updateStream number ({ · with isConnected := true }), ?_,
    formed.updateStream ⟨rfl, rfl⟩, ?_, ?_⟩
  · rw [connectStream_eq idle, accepted]
  · have whole := passed.trans connects
    rw [List.append_nil] at whole
    exact whole
  · rw [stream_updateStream (.inr within), if_pos rfl, heard]

def halted (station : Station) (number : Nat) : Station :=
  let block := station.block (station.stream number).block
  let idle := station.updateStream number ({ · with isConnected := false })
  let stopped := (idle.call (.stop number block.name)).fireAll block.onStop
  (stopped.call (.delete number block.name)).fireAll block.onDelete

theorem halted_passes (consistent : station.Consistent) (inside : number < station.streams.length) :
    (station.halted number).Consistent ∧
      Passes (some (.stream number)) station
        (.called (.stop number (station.blockName number)) :: station.reportedOnStop number ++
          .called (.delete number (station.blockName number)) :: station.reportedOnDelete number)
        (station.halted number) ∧
      (station.halted number).stream number =
        (station.reportedOnDelete number).foldl .hear
          ((station.reportedOnStop number).foldl .hear
            { station.stream number with isConnected := false }) := by
  let block := station.block (station.stream number).block
  let idle := station.updateStream number ({ · with isConnected := false })
  let stopped := (idle.call (.stop number block.name)).fireAll block.onStop
  have forgets := passes_updateStream station number ({ · with isConnected := false })
  have formedIdle : idle.Consistent := consistent.updateStream ⟨rfl, rfl⟩
  obtain ⟨formedStopped, stops⟩ :=
    call_fireAll_passes formedIdle (.stop number block.name) block.onStop
  obtain ⟨formedDeleted, deletes⟩ :=
    call_fireAll_passes formedStopped (.delete number block.name) block.onDelete
  have same : idle.incident? = station.incident? := funext forgets.fixed.incident?
  have still : stopped.incident? = station.incident? :=
    (funext stops.fixed.incident?).trans same
  rw [same] at stops
  rw [still] at deletes
  refine ⟨formedDeleted, (forgets.trans (stops.by _)).trans (deletes.by _), ?_⟩
  have heardDelete : (station.halted number).stream number = _ := deletes.stream number nofun
  rw [heardDelete, stops.stream number nofun, stream_updateStream (.inr inside), if_pos rfl]
  rfl

theorem disconnectStream_eq (station : Station) (number : Nat) :
    station.disconnectStream number =
      (if (station.stream number).isConnected then station.halted number else station).releaseStream
        number := rfl

theorem disconnectStream_of_idle (consistent : station.Consistent)
    (idle : (station.stream number).isConnected = false) :
    (station.disconnectStream number).Consistent ∧
      Passes (some (.stream number)) station [] (station.disconnectStream number) ∧
      (station.disconnectStream number).stream number = (station.stream number).release := by
  rw [disconnectStream_eq, if_neg (ne_true_of_eq_false idle)]
  refine ⟨consistent.releaseStream number, passes_releaseStream station number, ?_⟩
  rw [stream_releaseStream, if_pos rfl]

/-- The block is stopped and then deleted, and the stream is left as one that never connected. -/
theorem disconnectStream_of_connected (consistent : station.Consistent)
    (inside : number < station.streams.length)
    (connected : (station.stream number).isConnected = true) :
    (station.disconnectStream number).Consistent ∧
      Passes (some (.stream number)) station
        (.called (.stop number (station.blockName number)) :: station.reportedOnStop number ++
          .called (.delete number (station.blockName number)) :: station.reportedOnDelete number)
        (station.disconnectStream number) ∧
      (station.disconnectStream number).stream number =
        { (station.stream number).release with isConnected := false } := by
  obtain ⟨formed, passed, heard⟩ := halted_passes consistent inside
  rw [disconnectStream_eq, if_pos connected]
  refine ⟨formed.releaseStream number, ?_, ?_⟩
  · have whole := passed.trans (passes_releaseStream (station.halted number) number)
    rw [List.append_nil] at whole
    exact whole
  · have idleStop : ((station.reportedOnStop number).foldl LogStream.hear
        { station.stream number with isConnected := false }).isConnected = false := by
      rw [← Bool.not_eq_true, LogStream.isConnected_foldl_hear]
      exact fun connected => nomatch connected.1
    rw [stream_releaseStream, if_pos rfl, heard, LogStream.release_foldl_hear _ _ idleStop,
      LogStream.release_foldl_hear _ _ rfl]
    rfl

end Station

end VehicleLink.Bridge
