import VehicleLink.Link.Scenario
import VehicleLink.Proofs.Link.Run

/-!
Scenarios take place on links that runs lead to. Every act but the one by which a link is given up
comes to deeds that are done to the link one after the other.
-/

namespace VehicleLink.Session

variable {session first middle last : Session} {deed : Deed}

/-- Some deeds make one session of the other. -/
def LeadsTo (first last : Session) : Prop := ∃ log, Run first log last

theorem LeadsTo.refl (session : Session) : session.LeadsTo session := ⟨[], .refl⟩

theorem LeadsTo.trans (start : first.LeadsTo middle) (rest : middle.LeadsTo last) :
    first.LeadsTo last := by
  obtain ⟨log, run⟩ := start
  obtain ⟨more, rest⟩ := rest
  exact ⟨more ++ log, run.trans rest⟩

theorem Step.leadsTo (step : Step first deed last) : first.LeadsTo last := ⟨[deed], .single step⟩

theorem readNext_leadsTo (session : Session) (written : Except String Unit) :
    session.LeadsTo (session.readNext (some written)) := by
  rcases session.readNext_cases (some written) with
    same | ⟨due, socket, datagram, rest, listens, held, waiting, _⟩
  · rw [same]
    exact .refl session
  · have unread : session.unread = datagram :: rest := by simp only [unread, held, waiting]
    exact (Step.read (by rw [listens]; rfl) unread written).leadsTo

theorem catchUp_leadsTo (session : Session) : session.LeadsTo session.catchUp := by
  have reading (unread : List (List UInt8)) : ∀ session : Session,
      session.LeadsTo
        (unread.foldl (fun session _ => session.readNext (some (.ok ()))) session) := by
    induction unread with
    | nil => exact .refl
    | cons _ rest ih => exact fun session => (session.readNext_leadsTo _).trans (ih _)
  exact reading session.unread session

theorem receiveAll_leadsTo (session : Session) : session.LeadsTo session.receiveAll.1 := by
  obtain ⟨inbound, queued⟩ : ∃ inbound, session.inbound = inbound := ⟨_, rfl⟩
  induction inbound generalizing session with
  | nil =>
      have same : session.receiveAll.1 = session := by rw [receiveAll, ← queued]
      rw [same]
      exact .refl session
  | cons packet rest ih =>
      have received : session.receive .none =
          some ({ session with inbound := rest }, some packet) := by
        simp only [receive, queued]
      exact (Step.receive received).leadsTo.trans (ih { session with inbound := rest } rfl)

end VehicleLink.Session

namespace VehicleLink.Link.Scenario

variable {scenario after : Scenario} {act : Act} {answer : Answer}

theorem peerSend_leadsTo (scenario : Scenario) (datagram : List UInt8) :
    scenario.session.LeadsTo (scenario.peerSend datagram).1.session := by
  unfold peerSend
  split
  · exact (Session.Step.arrive datagram).leadsTo.trans (Session.catchUp_leadsTo _)
  · exact .refl _

theorem peerSendMany_leadsTo (scenario : Scenario) (datagram : List UInt8) (count : Nat) :
    scenario.session.LeadsTo (scenario.peerSendMany datagram count).session := by
  have sending (numbers : List Nat) : ∀ scenario : Scenario, scenario.session.LeadsTo
      (numbers.foldl (fun scenario number => (scenario.peerSend (numbered datagram number)).1)
        scenario).session := by
    induction numbers with
    | nil => exact fun scenario => .refl scenario.session
    | cons number rest ih => exact fun scenario => (scenario.peerSend_leadsTo _).trans (ih _)
  unfold peerSendMany
  split
  · exact sending _ scenario
  · exact .refl _

theorem interrupt_leadsTo (scenario : Scenario) (interruption : Interruption) :
    scenario.session.LeadsTo (scenario.interrupt interruption).1.session := by
  cases interruption with
  | peerSend datagram => exact scenario.peerSend_leadsTo datagram
  | pause => exact (Session.Step.pause false (.ok ())).leadsTo
  | close => exact (Session.Step.close false (.ok ())).leadsTo

theorem perform_leadsTo (performed : scenario.perform act = .ok (after, answer))
    (kept : act ≠ .drop) : scenario.session.LeadsTo after.session := by
  unfold perform at performed
  split at performed
  · cases performed
  · cases act with
    | connect address =>
        cases performed
        exact (Session.Step.connect address _ _).leadsTo.trans (Session.catchUp_leadsTo _)
    | send packet =>
        cases packet with
        | error error =>
            cases performed
            exact .refl _
        | ok packet =>
            cases performed
            exact (Session.Step.send packet _).leadsTo.trans (Session.catchUp_leadsTo _)
    | peerSend datagram =>
        cases performed
        exact scenario.peerSend_leadsTo datagram
    | peerSendMany datagram count =>
        cases performed
        exact scenario.peerSendMany_leadsTo datagram count
    | receive wait =>
        cases received : scenario.session.receive wait with
        | none => simp only [received] at performed; cases performed
        | some result =>
            simp only [received] at performed
            cases performed
            exact (Session.Step.receive received).leadsTo
    | receiveAll =>
        cases performed
        exact scenario.session.receiveAll_leadsTo
    | receiveWhile wait interruption =>
        have interrupted := scenario.interrupt_leadsTo interruption
        cases waits : scenario.session.waits wait with
        | true =>
            simp only [waits, if_true] at performed
            cases received : (scenario.interrupt interruption).1.session.receive wait with
            | none => simp only [received] at performed; cases performed
            | some result =>
                simp only [received] at performed
                cases performed
                exact interrupted.trans (Session.Step.receive received).leadsTo
        | false =>
            simp only [waits, Bool.false_eq_true, if_false] at performed
            cases received : scenario.session.receive wait with
            | none => simp only [received] at performed; cases performed
            | some result =>
                simp only [received] at performed
                cases performed
                exact (Session.Step.receive received).leadsTo.trans
                  ((scenario.withSession result.1).interrupt_leadsTo interruption)
    | dispatchNext wait =>
        cases received : scenario.session.receive wait with
        | none => simp only [Session.dispatchNext, received] at performed; cases performed
        | some result =>
            obtain ⟨next, packet⟩ := result
            have step := (Session.Step.receive received).leadsTo
            cases packet with
            | none =>
                simp only [Session.dispatchNext, received] at performed
                cases performed
                exact step
            | some packet =>
                simp only [Session.dispatchNext, received] at performed
                cases performed
                exact step
    | sleep milliseconds =>
        cases performed
        exact (Session.Step.elapse (Nat.le_add_right _ milliseconds)).leadsTo
    | pause =>
        cases performed
        exact (Session.Step.pause false (.ok ())).leadsTo.trans (Session.catchUp_leadsTo _)
    | restart =>
        cases performed
        exact (Session.Step.restart (.ok ())).leadsTo.trans (Session.catchUp_leadsTo _)
    | close =>
        cases performed
        exact (Session.Step.close false (.ok ())).leadsTo.trans (Session.catchUp_leadsTo _)
    | make | name | scan | addresses | describe | peerLeaves =>
        cases performed
        exact .refl _
    | drop => exact absurd rfl kept

/-- As long as a link is not given up, a run leads to it. -/
theorem run_leadsTo {acts : List Act} {replies : List Reply}
    (performed : run acts scenario = .ok replies) (kept : .drop ∉ acts) :
    ∀ reply ∈ replies, scenario.session.LeadsTo reply.scenario.session := by
  induction acts generalizing scenario replies with
  | nil =>
      cases performed
      exact List.forall_mem_nil _
  | cons act rest ih =>
      obtain ⟨other, kept⟩ := not_or.mp (fun same => kept (List.mem_cons.mpr same))
      unfold run at performed
      cases first : scenario.perform act with
      | error stuck =>
          rw [first] at performed
          cases performed
      | ok result =>
          obtain ⟨next, answer⟩ := result
          have reached := perform_leadsTo first (Ne.symm other)
          rw [first] at performed
          change (run rest next >>= _) = _ at performed
          cases later : run rest next with
          | error stuck =>
              rw [later] at performed
              cases performed
          | ok others =>
              rw [later] at performed
              cases performed
              exact List.forall_mem_cons.mpr
                ⟨reached, fun reply member => reached.trans (ih later kept reply member)⟩

theorem run_coherent {acts : List Act} {replies : List Reply}
    (performed : run acts scenario = .ok replies) (kept : .drop ∉ acts)
    (coherent : scenario.session.Coherent) :
    ∀ reply ∈ replies, reply.scenario.session.Coherent := by
  intro reply member
  obtain ⟨log, run⟩ := run_leadsTo performed kept reply member
  exact run.coherent coherent

end VehicleLink.Link.Scenario
