import VehicleLink.Proofs.Bridge.Run

/-!
Sessions of a console are runs of its station: what holds after every run holds after every session.
-/

namespace VehicleLink.Bridge

namespace Console

open Station

variable {console after : Console} {name : String} {number : Nat}

/-- The station can be reached, and names stand for bridges and streams that are there. -/
structure Valid (console : Console) : Prop where
  reached : ∃ log, Run log console.station
  links : ∀ name number, console.links.lookup name = some number →
    number < console.station.bridges.length
  streams : ∀ name number, console.streams.lookup name = some number →
    number < console.station.streams.length

theorem valid_empty : empty.Valid := ⟨⟨[], .start⟩, nofun, nofun⟩

theorem Valid.grows {deed : Deed} {station : Station} (valid : console.Valid)
    (step : Step console.station deed station) : Grows console.station station := by
  obtain ⟨log, run⟩ := valid.reached
  exact (step.account run.consistent).grows

theorem Valid.step {deed : Deed} {station : Station} (valid : console.Valid)
    (step : Step console.station deed station) : (console.withStation station).Valid := by
  obtain ⟨log, run⟩ := valid.reached
  have grows := valid.grows step
  exact ⟨⟨_, run.step step⟩,
    fun name number found => Nat.lt_of_lt_of_le (valid.links name number found) grows.bridges,
    fun name number found => Nat.lt_of_lt_of_le (valid.streams name number found) grows.streams⟩

theorem Valid.fireAll (valid : console.Valid) (events : List Event) :
    (console.withStation (console.station.fireAll events)).Valid := by
  induction events generalizing console with
  | nil => exact valid
  | cons event rest ih => exact ih (valid.step (.report event))

theorem Valid.nextWhile {station : Station} {events : List Event} {entry : Option Entry}
    (valid : console.Valid) (inside : number < console.station.streams.length)
    (taken : console.station.nextWhile number events = some (station, entry)) :
    (console.withStation station).Valid := by
  unfold Station.nextWhile at taken
  cases direct : console.station.nextEntry number with
  | some result =>
      simp only [direct, Option.some.injEq, Prod.mk.injEq] at taken
      obtain ⟨rfl, _⟩ := taken
      exact (valid.step (.read inside direct)).fireAll events
  | none =>
      simp only [direct] at taken
      obtain ⟨log, run⟩ := valid.reached
      have fixed := (fireAll_passes run.consistent events).2.fixed
      have within : number < (console.station.fireAll events).streams.length := by
        rwa [fixed.streams]
      exact (valid.fireAll events).step (.read within taken)

theorem Valid.takeEntries {station : Station} {entries : List Entry} (count : Nat)
    (valid : console.Valid) (inside : number < console.station.streams.length)
    (taken : console.station.takeEntries number count = some (station, entries)) :
    (console.withStation station).Valid := by
  induction count generalizing console entries with
  | zero =>
      simp only [Station.takeEntries, Option.some.injEq, Prod.mk.injEq] at taken
      obtain ⟨rfl, _⟩ := taken
      exact valid
  | succ count ih =>
      unfold Station.takeEntries at taken
      cases direct : console.station.nextEntry number with
      | none => simp [direct] at taken
      | some result =>
          obtain ⟨next, entry⟩ := result
          have read := valid.step (.read inside direct)
          have grows := valid.grows (.read inside direct)
          cases entry with
          | none =>
              simp only [direct, Option.some.injEq, Prod.mk.injEq] at taken
              obtain ⟨rfl, _⟩ := taken
              exact read
          | some entry =>
              simp only [direct, Option.map_eq_some_iff] at taken
              obtain ⟨⟨last, rest⟩, taken, same⟩ := taken
              cases same
              have last := ih read (Nat.lt_of_lt_of_le inside grows.streams) taken
              exact last

theorem Valid.bindLink (valid : console.Valid) (inside : number < console.station.bridges.length)
    (name : String) : { console with links := bind console.links name number }.Valid := by
  refine ⟨valid.reached, fun other found bound => ?_, valid.streams⟩
  rw [lookup_bind] at bound
  by_cases same : other = name
  · rw [if_pos same, Option.some.injEq] at bound
    rwa [← bound]
  · rw [if_neg same] at bound
    exact valid.links other found bound

theorem Valid.bindStream (valid : console.Valid) (inside : number < console.station.streams.length)
    (name : String) : { console with streams := bind console.streams name number }.Valid := by
  refine ⟨valid.reached, valid.links, fun other found bound => ?_⟩
  rw [lookup_bind] at bound
  by_cases same : other = name
  · rw [if_pos same, Option.some.injEq] at bound
    rwa [← bound]
  · rw [if_neg same] at bound
    exact valid.streams other found bound

theorem lookup_of_unbind {names : List (String × Nat)} {other : String} {found : Nat}
    (bound : (unbind names name).lookup other = some found) : names.lookup other = some found := by
  rw [lookup_unbind] at bound
  by_cases same : other = name
  · rw [if_pos same] at bound
    cases bound
  · rwa [if_neg same] at bound

theorem Valid.addLink (valid : console.Valid) (name uri : String) :
    (console.addLink name uri).Valid := by
  have added := valid.step (.addBridge uri)
  have inside : console.station.bridges.length <
      (console.station.bridges ++ [LinkBridge.new uri]).length := by simp
  unfold Console.addLink
  cases found : console.links.lookup name with
  | none => exact added.bindLink inside name
  | some old =>
      have drops := Step.dropBridge (added.links name old found)
      have kept := Nat.lt_of_lt_of_le inside (added.grows drops).bridges
      exact (added.step drops).bindLink kept name

theorem Valid.addStream {block : Nat} (valid : console.Valid) (name : String)
    (inside : block < console.station.blocks.length) : (console.addStream name block).Valid := by
  have added := valid.step (.addStream inside)
  have within : console.station.streams.length <
      (console.station.streams ++ [LogStream.new block]).length := by simp
  unfold Console.addStream
  cases found : console.streams.lookup name with
  | none => exact added.bindStream within name
  | some old =>
      have drops := Step.disconnect (added.streams name old found)
      have kept := Nat.lt_of_lt_of_le within (added.grows drops).streams
      exact (added.step drops).bindStream kept name

theorem Valid.removeLink (valid : console.Valid) (name : String) :
    (console.removeLink name).Valid := by
  unfold Console.removeLink
  cases found : console.links.lookup name with
  | none => exact valid
  | some number =>
      have dropped := valid.step (.dropBridge (valid.links name number found))
      exact ⟨dropped.reached, fun other number bound =>
        dropped.links other number (lookup_of_unbind bound), dropped.streams⟩

theorem Valid.removeStream (valid : console.Valid) (name : String) :
    (console.removeStream name).Valid := by
  unfold Console.removeStream
  cases found : console.streams.lookup name with
  | none => exact valid
  | some number =>
      have dropped := valid.step (.disconnect (valid.streams name number found))
      exact ⟨dropped.reached, dropped.links, fun other number bound =>
        dropped.streams other number (lookup_of_unbind bound)⟩

theorem find_eq_ok_iff {names : List (String × Nat)} :
    find names name = .ok number ↔ names.lookup name = some number := by
  unfold find
  cases names.lookup name <;> simp

theorem of_found {Result : Type} {result : Result} {names : List (String × Nat)}
    {rest : Nat → Except Stuck Result} (performed : (find names name >>= rest) = .ok result) :
    ∃ number, names.lookup name = some number ∧ rest number = .ok result := by
  cases found : find names name with
  | error stuck =>
      rw [found] at performed
      cases performed
  | ok number =>
      rw [found] at performed
      exact ⟨number, find_eq_ok_iff.mp found, performed⟩

theorem Valid.perform {command : Command} {answer : Answer} (valid : console.Valid)
    (performed : console.perform command = .ok (after, answer)) : after.Valid := by
  cases command with
  | onOpen events =>
      cases performed
      exact valid.step (.onOpen events)
  | onClose events =>
      cases performed
      exact valid.step (.onClose events)
  | reject reason =>
      cases performed
      exact valid.step (.reject reason)
  | fire event =>
      cases performed
      exact valid.step (.report event)
  | block name title onStart onStop onDelete =>
      cases performed
      exact valid.step (.addBlock name title onStart onStop onDelete)
  | onBlock number onStart onStop onDelete =>
      cases performed
      exact valid.step (.onBlock number onStart onStop onDelete)
  | link name uri =>
      cases performed
      exact valid.addLink name uri
  | openLink name =>
      obtain ⟨number, found, opening⟩ := of_found performed
      have inside := valid.links name number found
      cases opened : console.station.openLink number with
      | none =>
          rw [opened] at opening
          cases opening
      | some result =>
          rw [opened] at opening
          cases opening
          exact valid.step (.openLink inside opened)
  | closeLink name =>
      obtain ⟨number, found, closed⟩ := of_found performed
      cases closed
      exact valid.step (.closeLink (valid.links name number found))
  | uri name =>
      obtain ⟨number, found, told⟩ := of_found performed
      cases told
      exact valid
  | describeLink name =>
      obtain ⟨number, found, told⟩ := of_found performed
      cases told
      exact valid
  | dropLink name =>
      cases performed
      exact valid.removeLink name
  | stream name block =>
      obtain ⟨number, found, added⟩ := of_found performed
      cases added
      obtain ⟨log, run⟩ := valid.reached
      exact valid.addStream name (run.namesBlocks block number found)
  | connect name =>
      obtain ⟨number, found, connected⟩ := of_found performed
      cases connected
      exact valid.step (.connect (valid.streams name number found))
  | disconnect name =>
      obtain ⟨number, found, disconnected⟩ := of_found performed
      cases disconnected
      exact valid.step (.disconnect (valid.streams name number found))
  | next name meanwhile =>
      obtain ⟨number, found, reading⟩ := of_found performed
      have inside := valid.streams name number found
      cases taken : console.station.nextWhile number meanwhile.toList with
      | none =>
          rw [taken] at reading
          cases reading
      | some result =>
          rw [taken] at reading
          cases reading
          exact valid.nextWhile inside taken
  | take name count =>
      obtain ⟨number, found, reading⟩ := of_found performed
      have inside := valid.streams name number found
      cases taken : console.station.takeEntries number count with
      | none =>
          rw [taken] at reading
          cases reading
      | some result =>
          rw [taken] at reading
          cases reading
          exact valid.takeEntries count inside taken
  | describeStream name =>
      obtain ⟨number, found, told⟩ := of_found performed
      cases told
      exact valid
  | dropStream name =>
      cases performed
      exact valid.removeStream name

/-- Every console of a session is on a station that a run leads to. -/
theorem run_valid {commands : List Command} {replies : List Reply} (valid : console.Valid)
    (performed : run commands console = .ok replies) : ∀ reply ∈ replies, reply.console.Valid := by
  induction commands generalizing console replies with
  | nil =>
      cases performed
      exact nofun
  | cons command rest ih =>
      unfold run at performed
      cases first : console.perform command with
      | error stuck =>
          rw [first] at performed
          cases performed
      | ok result =>
          obtain ⟨next, answer⟩ := result
          have valid := valid.perform first
          rw [first] at performed
          change (run rest next >>= _) = _ at performed
          cases later : run rest next with
          | error stuck =>
              rw [later] at performed
              cases performed
          | ok others =>
              rw [later] at performed
              cases performed
              exact List.forall_mem_cons.mpr ⟨valid, ih valid later⟩

theorem run_reached {commands : List Command} {replies : List Reply}
    (performed : run commands empty = .ok replies) :
    ∀ reply ∈ replies, ∃ log, Run log reply.console.station :=
  fun reply member => (run_valid valid_empty performed reply member).reached

end Console

end VehicleLink.Bridge
