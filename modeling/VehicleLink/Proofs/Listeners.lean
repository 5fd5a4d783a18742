import VehicleLink.Proofs.Routing
import VehicleLink.Proofs.Signalling

/-!
Listeners among the subscribers of a router. Each has a subscription of its own, which comes and goes
without any other, and a signal whose callbacks are those that requests ask for.
-/

namespace VehicleLink.Router

open Registry (Call)

variable {conduct : Behaviour} {desk : Desk} {packet : Packet} {listener : Listener}

/-! ### Who is subscribed -/

/-- Listeners are subscribed to the localization port as they were attached, each of them at most
once, and a new one is none of them. -/
structure Desk.Formed (desk : Desk) : Prop where
  nodup : desk.router.entries.Nodup
  own : ∀ subscription ∈ desk.router.entries, ∀ listener,
    subscription.handler = .listener listener → subscription = listening listener ∧
      listener.serial < desk.listeners.length
  serials : ∀ listener ∈ desk.listeners, listener.serial < desk.listeners.length

theorem formed_empty : Desk.empty.Formed where
  nodup := List.nodup_nil
  own := List.forall_mem_nil _
  serials := List.forall_mem_nil _

theorem Desk.Formed.insert_named (formed : desk.Formed) (port : UInt8) (channel : Option UInt8)
    (name : String) :
    Desk.Formed { desk with router := desk.router.insert ⟨port, channel, .named name⟩ } where
  nodup := Registry.nodup_insert formed.nodup
  own subscription member listener is_listener := by
    rcases Registry.mem_insert.mp member with earlier | rfl
    · exact formed.own subscription earlier listener is_listener
    · cases is_listener
  serials := formed.serials

theorem Desk.Formed.remove (formed : desk.Formed) (subscription : Subscription) :
    Desk.Formed { desk with router := desk.router.remove subscription } where
  nodup := Registry.nodup_remove formed.nodup
  own other member := formed.own other (Registry.mem_remove.mp member).1
  serials := formed.serials

theorem Desk.Formed.attach (formed : desk.Formed) (name : String) : (desk.attach name).Formed where
  nodup := Registry.nodup_insert formed.nodup
  own subscription member listener is_listener := by
    simp only [Desk.attach, List.length_cons]
    rcases Registry.mem_insert.mp member with earlier | rfl
    · obtain ⟨own, small⟩ := formed.own subscription earlier listener is_listener
      exact ⟨own, Nat.lt_succ_of_lt small⟩
    · cases is_listener
      exact ⟨rfl, Nat.lt_succ_self _⟩
  serials := by
    simp only [Desk.attach, List.length_cons]
    refine List.forall_mem_cons.mpr ⟨Nat.lt_succ_self _, fun listener member => ?_⟩
    exact Nat.lt_succ_of_lt (formed.serials listener member)

theorem Desk.Formed.detach (formed : desk.Formed) (name : String) : (desk.detach name).Formed := by
  unfold Desk.detach
  split
  · exact formed.remove _
  · exact formed

/-- What becomes of signals is no matter of subscription. -/
theorem Desk.Formed.of_same {after : Desk} (formed : desk.Formed)
    (router : after.router = desk.router) (listeners : after.listeners = desk.listeners) :
    after.Formed where
  nodup := by rw [router]; exact formed.nodup
  own := by rw [router, listeners]; exact formed.own
  serials := by rw [listeners]; exact formed.serials

theorem Desk.Formed.settle (formed : desk.Formed) (request : Request) :
    ((exchange conduct).settle desk request).Formed := by
  have router : ((exchange conduct).settle desk request).router = _ := settle_router desk request
  have listeners : ((exchange conduct).settle desk request).listeners = _ :=
    settle_listeners desk request
  cases request with
  | register port channel handler => exact formed.insert_named port channel handler
  | unregister port channel handler => exact formed.remove _
  | attach name => exact formed.attach name
  | detach name => exact formed.detach name
  | route | dispatch | count | describe | signal | emit => exact formed.of_same router listeners

theorem formed_replay (conduct : Behaviour)
    (happenings : List (Happening Request Recipient Message Answer)) :
    ((exchange conduct).replay ⟨.empty, []⟩ happenings).state.Formed := by
  rw [Exchange.state_replay]
  induction happenings.filterMap Happening.request? using List.reverseRecOn with
  | nil => exact formed_empty
  | append_singleton requests request ih =>
      rw [List.foldl_append]
      exact ih.settle request

/-! ### Who gets a packet -/

theorem fits_listening_iff :
    Fits packet (listening listener) ↔ packet.port = Service.localization.port := by
  simp [Fits, listening, eq_comm]

theorem Desk.Formed.listens_iff (formed : desk.Formed) {subscription : Subscription}
    (member : subscription ∈ desk.router.entries) (listener : Listener) :
    subscription.handler = .listener listener ↔ subscription = listening listener := by
  constructor
  · exact fun listens => (formed.own subscription member listener listens).1
  · rintro rfl
    rfl

theorem filter_handlers (formed : desk.Formed) (packet : Packet) (listener : Listener) :
    (handlers desk.router packet).filter (· = .listener listener) =
      if packet.port = Service.localization.port ∧ listening listener ∈ desk.router.entries
        then [.listener listener] else [] := by
  have own : ∀ subscription ∈ matching desk.router packet,
      decide (subscription.handler = .listener listener) =
        decide (subscription = listening listener) := by
    intro subscription member
    exact decide_eq_decide.mpr (formed.listens_iff (List.mem_of_mem_filter member) listener)
  rw [handlers_eq, List.filter_map, Function.comp_def, List.filter_congr own]
  by_cases subscribed : listening listener ∈ desk.router.entries
  · rw [filter_matching formed.nodup subscribed, apply_ite (List.map _)]
    simp only [fits_listening_iff, subscribed, and_true]
    rfl
  · have absent : (matching desk.router packet).filter (· = listening listener) = [] := by
      rw [List.filter_eq_nil_iff]
      intro subscription member same
      rw [decide_eq_true_eq] at same
      exact subscribed (same ▸ List.mem_of_mem_filter member)
    rw [absent, if_neg fun both => subscribed both.2]
    rfl

/-! ### Who is at a signal -/

/-- What a request is to the signal of a listener, by the listeners made so far. -/
def Request.signalCall? (listener : Listener) (made : List Listener) :
    Request → Option (Call String)
  | .signal name request =>
      if made.find? (·.name = name) = some listener then request.call? else none
  | .register .. | .unregister .. | .route _ | .dispatch _ | .count _ | .describe | .attach _
  | .detach _ | .emit .. => none

/-- The calls on the signal of a listener, those of handlers and callbacks included. -/
def signalCalls (listener : Listener)
    (happenings : List (Happening Request Recipient Message Answer)) : List (Call String) :=
  calls (Request.signalCall? listener) [] (happenings.filterMap Happening.request?)

theorem settle_received (listener : Listener) (desk : Desk) (request : Request) :
    ((exchange conduct).settle desk request).received listener =
      (request.signalCall? listener desk.listeners).toList.foldl Registry.apply
        (desk.received listener) := by
  cases request with
  | dispatch frame =>
      simp only [Exchange.settle, exchange, effect]
      cases Packet.decode frame <;> rfl
  | detach name =>
      simp only [Exchange.settle, exchange, effect, Desk.detach]
      cases desk.listeners.find? (·.name = name) <;> rfl
  | signal name request =>
      simp only [Exchange.settle, exchange, effect, Request.signalCall?]
      cases desk.listeners.find? (·.name = name) with
      | none => rfl
      | some other =>
          by_cases same : listener = other
          · subst same
            cases request <;> simp [Desk.ask, Signal.effect, Signal.Request.call?, Registry.apply]
          · have unlike : ¬ (some other = some listener) := fun alike =>
              same (Option.some.inj alike).symm
            cases request <;> simp [Desk.ask, Signal.effect, same, unlike]
  | register | unregister | route | count | describe | attach | emit => rfl

/-- At any moment the callbacks of a listener are those that were asked for until then. -/
theorem lawful_received (conduct : Behaviour) (listener : Listener)
    (happenings : List (Happening Request Recipient Message Answer)) :
    Signal.Lawful (((exchange conduct).replay ⟨.empty, []⟩ happenings).state.received listener)
      (signalCalls listener happenings) := by
  rw [Exchange.state_replay, foldl_settle (fun desk => desk.received listener)
    (Request.signalCall? listener) (settle_received listener)]
  exact .of_reflects (Registry.reflects_ofCalls _)

/-! ### Coming and going -/

/-- Listeners are attached and detached each by itself. -/
structure Desk.Separate (desk : Desk) : Prop where
  attaches : ∀ name, (desk.attach name).router.entries =
    desk.router.entries ++ [listening ⟨desk.listeners.length, name⟩]
  detaches : ∀ name listener, desk.listeners.find? (·.name = name) = some listener →
    (desk.detach name).router.entries = desk.router.entries.filter (· ≠ listening listener) ∧
      (∀ packet, handlers (desk.detach name).router packet =
        (handlers desk.router packet).filter (· ≠ .listener listener)) ∧
      (desk.detach name).received = desk.received
  /-- A listener that is detached once more is not there. -/
  again : ∀ name, (∀ listener, desk.listeners.find? (·.name = name) = some listener →
    listening listener ∉ desk.router.entries) → desk.detach name = desk

theorem detach_of_find {name : String}
    (latest : desk.listeners.find? (·.name = name) = some listener) :
    desk.detach name = { desk with router := desk.router.remove (listening listener) } := by
  simp only [Desk.detach, latest]

theorem Desk.Formed.separate (formed : desk.Formed) : desk.Separate where
  attaches name := by
    have fresh : listening ⟨desk.listeners.length, name⟩ ∉ desk.router.entries := by
      intro member
      exact Nat.lt_irrefl _ (formed.own _ member _ rfl).2
    simp only [Desk.attach, Registry.insert, if_neg fresh]
  detaches name listener latest := by
    rw [detach_of_find latest]
    refine ⟨rfl, fun packet => ?_, rfl⟩
    have own : ∀ subscription ∈ matching desk.router packet,
        decide (subscription ≠ listening listener) =
          decide (subscription.handler ≠ .listener listener) := by
      intro subscription member
      exact decide_eq_decide.mpr
        (not_congr (formed.listens_iff (List.mem_of_mem_filter member) listener).symm)
    have left : matching (desk.router.remove (listening listener)) packet =
        (matching desk.router packet).filter (· ≠ listening listener) := List.filter_comm _ _ _
    rw [handlers_eq, handlers_eq, left, List.filter_congr own, List.filter_map]
    rfl
  again name absent := by
    cases latest : desk.listeners.find? (·.name = name) with
    | none => simp only [Desk.detach, latest]
    | some listener =>
        have unsubscribed := absent listener latest
        have same : desk.router.remove (listening listener) = desk.router := by
          refine congrArg Registry.mk (List.filter_eq_self.mpr fun subscription member => ?_)
          exact decide_eq_true fun same => unsubscribed (same ▸ member)
        rw [detach_of_find latest, same]

end VehicleLink.Router
