import VehicleLink.Link.Session

/-!
How a socket counts. The count that is kept is the number of datagrams since the last send, modulo
the number of words; the count that is reported of a datagram is one more than what was kept before
it, but for the largest word, which has no successor. The two part company at the largest word: from
there the count that is kept begins again at zero.
-/

namespace VehicleLink.Socket

/-- What passes through a socket and matters to its count. -/
inductive Traffic where
  | datagram
  | send
  deriving DecidableEq

def note (socket : Socket) : Traffic → Socket
  | .datagram => socket.noteDatagram.1
  | .send => socket.noteSend

/-- A socket after some traffic, of which the latest stands first. -/
def carrying (socket : Socket) : List Traffic → Socket
  | [] => socket
  | traffic :: earlier => (socket.carrying earlier).note traffic

/-- The datagrams since the last send, or of all the traffic if there was none. -/
def sinceSend : List Traffic → Nat
  | [] => 0
  | .datagram :: earlier => sinceSend earlier + 1
  | .send :: _ => 0

/-- The counts of a socket that stops counting at the largest word: what it keeps after a number of
datagrams, and what it reports of the next one. -/
def Saturates (socket : Socket) (datagrams : Nat) : Prop :=
  socket.unanswered.toNat = min datagrams (UInt32.size - 1) ∧
    socket.noteDatagram.2.toNat = min (datagrams + 1) (UInt32.size - 1)

theorem sinceSend_replicate_append (number : Nat) (traffic : List Traffic) :
    sinceSend (List.replicate number .datagram ++ traffic) = sinceSend traffic + number := by
  induction number with
  | zero => rfl
  | succ number ih =>
      rw [List.replicate_succ, List.cons_append, sinceSend, ih]
      rfl

theorem carrying_append (socket : Socket) (later traffic : List Traffic) :
    socket.carrying (later ++ traffic) = (socket.carrying traffic).carrying later := by
  induction later with
  | nil => rfl
  | cons item later ih => rw [List.cons_append, carrying, ih, carrying]

theorem noteDatagram_kept (socket : Socket) :
    socket.noteDatagram.1.unanswered = socket.unanswered + 1 := rfl

theorem noteDatagram_reported (socket : Socket) :
    socket.noteDatagram.2.toNat = min (socket.unanswered.toNat + 1) (UInt32.size - 1) := by
  have word := socket.unanswered.toNat_lt
  by_cases last : socket.unanswered = 0xffffffff
  · simp [noteDatagram, last]
  · -- Below the largest word the sum does not wrap.
    have small : socket.unanswered.toNat ≠ 4294967295 := by
      intro same
      exact last (UInt32.toNat_inj.mp same)
    simp only [noteDatagram, if_neg last, UInt32.toNat_add, UInt32.toNat_one, UInt32.size]
    omega

theorem lt_noteDatagram_reported_iff (socket : Socket) (threshold : UInt32) :
    threshold < socket.noteDatagram.2 ↔
      threshold.toNat ≤ socket.unanswered.toNat ∧ threshold.toNat < UInt32.size - 1 := by
  rw [UInt32.lt_iff_toNat_lt, noteDatagram_reported]
  omega

theorem unanswered_carrying (port : UInt16) (address : Address) (traffic : List Traffic) :
    ((new port address).carrying traffic).unanswered.toNat = sinceSend traffic % UInt32.size := by
  induction traffic with
  | nil => rfl
  | cons item earlier ih =>
      cases item with
      | datagram =>
          simp only [carrying, note, noteDatagram_kept, UInt32.toNat_add, UInt32.toNat_one, ih,
            sinceSend, UInt32.size]
          omega
      | send => rfl

/-- The counts of a socket are those of one that stops at the largest word up to that word, and
again just before the count that is kept begins anew. Up to that word a threshold that is exceeded
stays exceeded. -/
theorem counts_exact (port : UInt16) (address : Address) (traffic : List Traffic) :
    let socket := (new port address).carrying traffic
    socket.unanswered.toNat = sinceSend traffic % UInt32.size ∧
    socket.noteDatagram.2.toNat = min (sinceSend traffic % UInt32.size + 1) (UInt32.size - 1) ∧
    (∀ threshold, threshold < socket.noteDatagram.2 ↔
      threshold.toNat ≤ sinceSend traffic % UInt32.size ∧ threshold.toNat < UInt32.size - 1) ∧
    (∀ threshold number, threshold < socket.noteDatagram.2 →
      sinceSend traffic + number < UInt32.size →
      threshold < (socket.carrying (List.replicate number .datagram)).noteDatagram.2) ∧
    (socket.noteDatagram.1.unanswered < socket.unanswered ↔
      sinceSend traffic % UInt32.size = UInt32.size - 1) ∧
    (socket.Saturates (sinceSend traffic) ↔
      sinceSend traffic < UInt32.size ∨ sinceSend traffic % UInt32.size = UInt32.size - 1) := by
  intro socket
  have kept : socket.unanswered.toNat = sinceSend traffic % UInt32.size :=
    unanswered_carrying port address traffic
  refine ⟨kept, ?_, ?_, ?_, ?_, ?_⟩
  · rw [noteDatagram_reported, kept]
  · intro threshold
    rw [lt_noteDatagram_reported_iff, kept]
  · intro threshold number exceeded few
    have further := unanswered_carrying port address (List.replicate number .datagram ++ traffic)
    rw [carrying_append, sinceSend_replicate_append] at further
    rw [lt_noteDatagram_reported_iff, kept] at exceeded
    rw [lt_noteDatagram_reported_iff, further, Nat.mod_eq_of_lt few]
    have before := Nat.mod_le (sinceSend traffic) UInt32.size
    omega
  · rw [UInt32.lt_iff_toNat_lt, noteDatagram_kept, UInt32.toNat_add, UInt32.toNat_one, kept]
    simp only [UInt32.size]
    omega
  · rw [Saturates, noteDatagram_reported, kept]
    simp only [UInt32.size]
    omega

/-- After as many datagrams as there are words the count that is kept is zero again, and the next
datagram, which is reported as the first, exceeds no threshold but zero. -/
theorem counts_begin_anew :
    sinceSend (List.replicate UInt32.size .datagram) = UInt32.size ∧
    ((new 2390 (.v4 [10, 0, 0, 2])).carrying
      (List.replicate UInt32.size .datagram)).unanswered = 0 ∧
    ((new 2390 (.v4 [10, 0, 0, 2])).carrying
      (List.replicate UInt32.size .datagram)).noteDatagram.2 = 1 ∧
    ¬ ((new 2390 (.v4 [10, 0, 0, 2])).carrying
      (List.replicate UInt32.size .datagram)).Saturates UInt32.size := by
  have counted : sinceSend (List.replicate UInt32.size .datagram) = UInt32.size := by
    have counted := sinceSend_replicate_append UInt32.size []
    rwa [List.append_nil, sinceSend, Nat.zero_add] at counted
  have kept := unanswered_carrying 2390 (.v4 [10, 0, 0, 2]) (List.replicate UInt32.size .datagram)
  rw [counted, Nat.mod_self] at kept
  -- From here on the socket is known by its count alone; the traffic is never unfolded.
  generalize (new 2390 (.v4 [10, 0, 0, 2])).carrying (List.replicate UInt32.size .datagram) = socket
    at kept ⊢
  have zero : socket.unanswered = 0 := UInt32.toNat_inj.mp kept
  refine ⟨counted, zero, ?_, ?_⟩
  · simp [noteDatagram, zero]
  · rw [Saturates, kept]
    exact fun saturated => absurd saturated.1 (by decide)

end VehicleLink.Socket
