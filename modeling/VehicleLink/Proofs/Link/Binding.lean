import Mathlib.Order.Bounds.Basic
import Mathlib.Tactic.IntervalCases
import VehicleLink.Proofs.Link.Run

/-!
How a link comes by its local port. Ports are tried upwards from the base, each at most once and none
past the last port, up to the first that can be bound; if there is none, the link stays idle.
-/

namespace VehicleLink

namespace Host

variable {host : Host} {base : UInt16} {attempts : UInt32} {attempt : Nat}

/-- The port of an attempt, counted from zero, if the sum has room. -/
def candidate? (base : UInt16) (attempt : UInt32) : Option UInt16 :=
  if base.toNat + attempt.toNat < UInt16.size then some (base + attempt.toUInt16) else none

/-- Makes attempts in turn, up to one that has no port or whose port can be bound. -/
def tryInTurn (host : Host) (base : UInt16) : List UInt32 → List UInt16 × Option UInt16
  | [] => ([], none)
  | attempt :: rest =>
      match candidate? base attempt with
      | none => ([], none)
      | some port =>
          if host.isFree port then ([port], some port)
          else
            let (tried, bound) := host.tryInTurn base rest
            (port :: tried, bound)

/-- An attempt, counted from zero, at a port that there is and that is not in use. -/
def Succeeds (host : Host) (base : UInt16) (attempts : UInt32) (attempt : Nat) : Prop :=
  attempt < attempts.toNat ∧ base.toNat + attempt ≤ 65535 ∧
    UInt16.ofNat (base.toNat + attempt) ∉ host.taken

theorem candidate_toNat (room : base.toNat + attempt < 65536) :
    (base + UInt16.ofNat attempt).toNat = base.toNat + attempt := by
  rw [UInt16.toNat_add, UInt16.toNat_ofNat_of_lt' (by change attempt < 65536; omega)]
  exact Nat.mod_eq_of_lt room

theorem candidate_eq (room : base.toNat + attempt < 65536) :
    base + UInt16.ofNat attempt = UInt16.ofNat (base.toNat + attempt) := by
  rw [← UInt16.toNat_inj, candidate_toNat room, UInt16.toNat_ofNat_of_lt' room]

/-- What is said of a free port is said of ports in use, since the host never chooses. -/
theorem isFree_iff {port : UInt16} (chosen : 1 ≤ port.toNat) :
    host.isFree port = true ↔ port ∉ host.taken := by
  have nonzero : port ≠ 0 := by
    rintro rfl
    cases chosen
  simp [isFree, nonzero]

theorem candidates_toNat (base : UInt16) (attempts : UInt32) :
    (candidates base attempts).map UInt16.toNat =
      List.range' base.toNat (min attempts.toNat (65536 - base.toNat)) := by
  rw [candidates, List.map_map, List.range'_eq_map_range]
  refine List.map_congr_left fun attempt within => candidate_toNat ?_
  have := List.mem_range.mp within
  omega

/-- A list of ports is tried up to the first that can be bound, or to its end. -/
theorem bindFirst_cases (host : Host) (ports : List UInt16) :
    (∃ refused port rest, ports = refused ++ port :: rest ∧
      (∀ other ∈ refused, host.isFree other = false) ∧ host.isFree port = true ∧
      host.bindFirst ports = (refused ++ [port], some port)) ∨
    (∀ port ∈ ports, host.isFree port = false) ∧ host.bindFirst ports = (ports, none) := by
  induction ports with
  | nil => exact .inr ⟨by simp, rfl⟩
  | cons port rest ih =>
      cases free : host.isFree port with
      | true =>
          refine .inl ⟨[], port, rest, rfl, by simp, free, ?_⟩
          rw [bindFirst, if_pos free]
          rfl
      | false =>
          have next : host.bindFirst (port :: rest) =
              (port :: (host.bindFirst rest).1, (host.bindFirst rest).2) := by
            rw [bindFirst, if_neg (by rw [free]; exact Bool.false_ne_true)]
          rcases ih with ⟨refused, other, more, rfl, before, isFree, same⟩ | ⟨all, same⟩
          · refine .inl ⟨port :: refused, other, more, rfl, ?_, isFree, by rw [next, same]; rfl⟩
            exact List.forall_mem_cons.mpr ⟨free, before⟩
          · exact .inr ⟨List.forall_mem_cons.mpr ⟨free, all⟩, by rw [next, same]⟩

/-- No attempt is counted past the last port, and no sum is made that has no room. -/
theorem tryInTurn_eq_bindFirst (host : Host) (base : UInt16) (first count : Nat)
    (room : first + count ≤ UInt32.size) :
    host.tryInTurn base ((List.range' first count).map UInt32.ofNat) =
      host.bindFirst ((List.range' first (min count (65536 - base.toNat - first))).map
        (base + UInt16.ofNat ·)) := by
  induction count generalizing first with
  | zero =>
      rw [Nat.zero_min]
      rfl
  | succ count ih =>
      have counted : (UInt32.ofNat first).toNat = first :=
        UInt32.toNat_ofNat_of_lt' (by omega)
      have port : (UInt32.ofNat first).toUInt16 = UInt16.ofNat first := by
        rw [← UInt16.toNat_inj, UInt32.toNat_toUInt16, counted, UInt16.toNat_ofNat']
      have candidate : candidate? base (UInt32.ofNat first) =
          if base.toNat + first < 65536 then some (base + UInt16.ofNat first) else none := by
        rw [candidate?, counted, port]
      rcases Nat.lt_or_ge (base.toNat + first) 65536 with within | past
      · have further : min (count + 1) (65536 - base.toNat - first) =
            min count (65536 - base.toNat - (first + 1)) + 1 := by omega
        rw [further, List.range'_succ, List.range'_succ, List.map_cons, List.map_cons, tryInTurn,
          candidate, if_pos within, ih (first + 1) (by omega), bindFirst]
      · have nothing : min (count + 1) (65536 - base.toNat - first) = 0 := by omega
        rw [nothing, List.range'_succ, List.map_cons, tryInTurn, candidate, if_neg past.not_gt]
        rfl

theorem bind_eq_tryInTurn (host : Host) (base : UInt16) (attempts : UInt32) :
    host.bind base attempts =
      host.tryInTurn base ((List.range attempts.toNat).map UInt32.ofNat) := by
  have room : 0 + attempts.toNat ≤ UInt32.size := by
    rw [Nat.zero_add]
    exact attempts.toNat_lt.le
  rw [List.range_eq_range', host.tryInTurn_eq_bindFirst base 0 _ room, ← List.range_eq_range']
  rfl

/-- Which attempts succeed can be read off the ports that are there to be tried. -/
theorem succeeds_iff (usable : 1 ≤ base) :
    host.Succeeds base attempts attempt ↔
      ∃ port, (candidates base attempts)[attempt]? = some port ∧ host.isFree port = true := by
  have usable : 1 ≤ base.toNat := UInt16.le_iff_toNat_le.mp usable
  rcases Nat.lt_or_ge attempt (min attempts.toNat (65536 - base.toNat)) with within | beyond
  · have room : base.toNat + attempt < 65536 := by omega
    have chosen : 1 ≤ (UInt16.ofNat (base.toNat + attempt)).toNat := by
      rw [UInt16.toNat_ofNat_of_lt' room]
      omega
    rw [candidates, List.getElem?_map, List.getElem?_range within, Option.map_some,
      candidate_eq room]
    simp only [Option.some.injEq, exists_eq_left', isFree_iff chosen, Succeeds]
    exact ⟨fun ⟨_, _, free⟩ => free, fun free => ⟨by omega, by omega, free⟩⟩
  · have none : (candidates base attempts)[attempt]? = .none := by
      rw [List.getElem?_eq_none_iff, candidates, List.length_map, List.length_range]
      exact beyond
    rw [none]
    refine iff_of_false (fun ⟨counted, there, _⟩ => ?_) (by simp)
    omega

/-! ### The law -/

/-- How local ports are tried. -/
structure BindsInTurn (host : Host) (base : UInt16) (attempts : UInt32) : Prop where
  /-- Attempts are counted and added to the base with a check of every sum. -/
  checked : host.bind base attempts =
    host.tryInTurn base ((List.range attempts.toNat).map UInt32.ofNat)
  /-- The ports tried are the base and those that follow it, each of them once. -/
  upwards : (host.bind base attempts).1.map UInt16.toNat =
    List.range' base.toNat (host.bind base attempts).1.length
  /-- The first attempt that succeeds is the last one. -/
  first : ∀ attempt, IsLeast {attempt | host.Succeeds base attempts attempt} attempt →
    (host.bind base attempts).1.length = attempt + 1 ∧
      ∃ port, (host.bind base attempts).2 = some port ∧ port.toNat = base.toNat + attempt
  exhausted : (∀ attempt, ¬ host.Succeeds base attempts attempt) →
    (host.bind base attempts).1.length = min attempts.toNat (65536 - base.toNat) ∧
      (host.bind base attempts).2 = none

theorem bindsInTurn (host : Host) (attempts : UInt32) (usable : 1 ≤ base) :
    BindsInTurn host base attempts := by
  have numbers := candidates_toNat base attempts
  have length : (candidates base attempts).length = min attempts.toNat (65536 - base.toNat) := by
    rw [candidates, List.length_map, List.length_range]
  have succeeds (attempt : Nat) : host.Succeeds base attempts attempt ↔
      ∃ port, (candidates base attempts)[attempt]? = some port ∧ host.isFree port = true :=
    succeeds_iff usable
  rcases host.bindFirst_cases (candidates base attempts) with
    ⟨refused, port, rest, split, before, free, same⟩ | ⟨all, same⟩
  · -- The ports before the free one are those that are refused, so that its attempt is the least.
    rw [split, List.map_append, List.map_cons, eq_comm, List.range'_eq_append_iff] at numbers
    obtain ⟨count, _, front, back⟩ := numbers
    rw [Nat.mul_one] at back
    have counted : refused.length = count := by
      simpa using congrArg List.length front
    obtain ⟨isPort, _⟩ := List.range'_eq_cons_iff.mp back.symm
    have least : IsLeast {attempt | host.Succeeds base attempts attempt} refused.length := by
      refine ⟨(succeeds _).mpr ⟨port, by rw [split]; simp, free⟩, ?_⟩
      intro attempt success
      obtain ⟨other, there, isFree⟩ := (succeeds attempt).mp success
      by_contra earlier
      rw [split, List.getElem?_append_left (Nat.lt_of_not_le earlier)] at there
      cases (before other (List.mem_of_getElem? there)).symm.trans isFree
    have bound : host.bind base attempts = (refused ++ [port], some port) := same
    refine ⟨host.bind_eq_tryInTurn base attempts, ?_, ?_, fun never => absurd least.1 (never _)⟩
    · rw [bound, List.map_append, front, List.length_append, List.length_singleton, counted,
        List.range'_concat, List.map_singleton, ← isPort, Nat.one_mul]
    · intro attempt other
      rw [bound, List.length_append, List.length_singleton, other.unique least]
      exact ⟨rfl, port, rfl, by rw [← isPort, counted]⟩
  · have bound : host.bind base attempts = (candidates base attempts, none) := same
    refine ⟨host.bind_eq_tryInTurn base attempts, ?_, ?_, fun _ => ?_⟩
    · rw [bound, numbers, length]
    · intro attempt least
      obtain ⟨port, there, free⟩ := (succeeds attempt).mp least.1
      cases (all port (List.mem_of_getElem? there)).symm.trans free
    · rw [bound, length]
      exact ⟨rfl, rfl⟩

end Host

namespace Session

variable {settings : Settings} {host : Host} {log : List Deed} {session : Session}

/-- How an idle link comes by its local port. -/
structure FindsPort (session : Session) : Prop where
  inTurn : session.host.BindsInTurn session.settings.localPortBase session.settings.maxBindAttempts
  finds : ∀ address ip reporting written attempt source, Address.parse? address = some ip →
    IsLeast {attempt | session.host.Succeeds session.settings.localPortBase
      session.settings.maxBindAttempts attempt} attempt →
    session.host.route ip = .ok source →
    (session.connect address reporting written).2 = .ok () ∧
      ∃ socket, (session.connect address reporting written).1.socket = some socket ∧
        socket.port.toNat = session.settings.localPortBase.toNat + attempt
  /-- The link is left as it was, idle. -/
  givesUp : ∀ address ip reporting written, Address.parse? address = some ip →
    (∀ attempt, ¬ session.host.Succeeds session.settings.localPortBase
      session.settings.maxBindAttempts attempt) →
    session.connect address reporting written = (session, .error (.bindExhausted
      session.settings.localPortBase session.settings.maxBindAttempts))

theorem Run.finds_port (run : Run (new settings host) log session)
    (usable : 1 ≤ settings.localPortBase) (idle : session.phase = .idle) : FindsPort session := by
  have coherent := run.coherent (coherent_new settings host)
  have same : session.settings = settings := run.settings (coherent_new settings host)
  have inTurn := session.host.bindsInTurn session.settings.maxBindAttempts (same ▸ usable)
  refine ⟨inTurn, ?_, ?_⟩
  · intro address ip reporting written attempt source parsed least routed
    obtain ⟨_, port, bound, number⟩ := inTurn.first attempt least
    rw [connect_of_routed coherent idle written parsed bound routed]
    exact ⟨rfl, _, rfl, number⟩
  · intro address ip reporting written parsed never
    obtain ⟨_, unbound⟩ := inTurn.exhausted never
    simp only [connect, idle, Phase.checkConnect, parsed, unbound]

/-- A machine of whose last three ports at least two are in use. -/
def crowded (last : List UInt16) : Host := { Host.unhindered with taken := 65533 :: 65535 :: last }

/-- At first all three ports are in use, and the attempts end with the last one, however many are
left; then one becomes free. -/
theorem finds_port_lastPorts : ∃ full freed,
    Run (new (.ofChanges [.localPortBase 65533, .maxBindAttempts 70000]) (crowded [65534])) [] full ∧
    full.connect "10.0.0.1" true (.ok ()) = (full, .error (.bindExhausted 65533 70000)) ∧
    (full.host.bind 65533 70000).1 = [65533, 65534, 65535] ∧
    Run full [.hostChanged] freed ∧ (freed.connect "10.0.0.1" true (.ok ())).2 = .ok () ∧
    ∃ socket, (freed.connect "10.0.0.1" true (.ok ())).1.socket = some socket ∧
      socket.port.toNat = 65534 := by
  have parsed : Address.parse? "10.0.0.1" = some (.v4 [10, 0, 0, 1]) := by decide +kernel
  have run : Run (new (.ofChanges [.localPortBase 65533, .maxBindAttempts 70000])
      (crowded [65534])) [] _ := .refl
  have freed := run.step (.changeHost (crowded []))
  refine ⟨_, _, run, ?_, by decide +kernel, .single (.changeHost (crowded [])), ?_⟩
  · refine (run.finds_port (by decide) rfl).givesUp _ _ true (.ok ()) parsed ?_
    rintro attempt ⟨_, there, free⟩
    have within : attempt ≤ 2 := by
      change 65533 + attempt ≤ 65535 at there
      omega
    interval_cases attempt <;> exact free (by decide)
  · refine (freed.finds_port (by decide) rfl).finds _ _ true (.ok ()) 1 _ parsed ⟨?_, ?_⟩ rfl
    · exact ⟨by decide, by decide, by decide⟩
    · rintro attempt ⟨_, _, free⟩
      by_contra earlier
      obtain rfl : attempt = 0 := by omega
      exact free (by decide)

end Session

end VehicleLink
