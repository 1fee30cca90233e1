import TrafficControl.Topology.Closing
import TrafficControl.Topology.Lanes

namespace TrafficControl

/-- What lanes, listeners and closings wait for returns in events of its own, in any order. -/
inductive Event where
  | subscribe (service : ServiceKey)
  | unsubscribe (service : ServiceKey) (listener : Nat)
  | refresh (service : ServiceKey)
  | start (lane : LaneName)
  | registerReturned (succeeded : Bool)
  | cancelReturned
  | fetchReturned (fetched? : Option Instances)
  | fetchBrokeOff
  | firstFetchReturned (listener : Nat) (fetched? : Option Instances)
  | firstFetchBrokeOff (listener : Nat)
  | retryDue (ticket : Nat)
  | close (order : List ServiceKey)
  | closeReturned (number : Nat)
  | shutdown
  | destroy
  | drained (order : List ServiceKey)

namespace Event

/-- What goes on while a topology is in use: nothing is closed or shut down, and every call to the
backend returns. -/
def isRoutine : Event → Bool
  | .fetchBrokeOff | .firstFetchBrokeOff _ | .close _ | .closeReturned _ | .shutdown | .destroy
  | .drained _ => false
  | _ => true

end Event

def Turn.forget (u : Turn α) : Turn Unit := ⟨(), u.after, u.happenings⟩

namespace Topology

def turn (t : Topology) : Event → Turn Unit
  | .subscribe service => (t.subscribe service).forget
  | .unsubscribe service listener => (t.unsubscribe service listener).forget
  | .refresh service => (t.refresh service).forget
  | .start lane => t.start lane
  | .registerReturned succeeded => t.registerReturned succeeded
  | .cancelReturned => t.cancelReturned
  | .fetchReturned fetched? => t.fetchReturned fetched?
  | .fetchBrokeOff => t.fetchBrokeOff
  | .firstFetchReturned listener fetched? => t.firstFetchReturned listener fetched?
  | .firstFetchBrokeOff listener => t.firstFetchBrokeOff listener
  | .retryDue ticket => t.retryDue ticket
  | .close order => (t.closeIn order).forget
  | .closeReturned number => t.closeReturned number
  | .shutdown => t.shutdown.quietly ()
  | .destroy => t.destroy.quietly ()
  | .drained order => t.drainedIn order

def run (t : Topology) (events : List Event) : Topology :=
  events.foldl (fun t e => (t.turn e).after) t

def Allows (t : Topology) : Event → Prop
  | .close order | .drained order => order.Perm t.services
  | _ => True

def Feasible (t : Topology) : List Event → Prop
  | [] => True
  | e :: rest => t.Allows e ∧ (t.turn e).after.Feasible rest

end Topology

/-- An event of a run, and the topology that it comes to. -/
structure Moment where
  before : Topology
  event : Event

namespace Moment

def after (m : Moment) : Topology := (m.before.turn m.event).after

def happenings (m : Moment) : List Happening := (m.before.turn m.event).happenings

end Moment

namespace Topology

def moments (t : Topology) : List Event → List Moment
  | [] => []
  | e :: rest => ⟨t, e⟩ :: (t.turn e).after.moments rest

def happenings (t : Topology) (events : List Event) : List Happening :=
  (t.moments events).flatMap Moment.happenings

variable {t : Topology} {events more : List Event}

@[simp]
theorem run_nil : t.run [] = t := rfl

@[simp]
theorem run_cons (e : Event) : t.run (e :: events) = (t.turn e).after.run events := rfl

@[simp]
theorem run_append : t.run (events ++ more) = (t.run events).run more := by
  simp [run, List.foldl_append]

@[simp]
theorem moments_append :
    t.moments (events ++ more) = t.moments events ++ (t.run events).moments more := by
  induction events generalizing t with
  | nil => rfl
  | cons e rest ih => simp [moments, ih]

theorem moments_getElem? (i : Nat) :
    (t.moments events)[i]? = events[i]?.map fun e => ⟨t.run (events.take i), e⟩ := by
  induction events generalizing t i with
  | nil => simp [moments]
  | cons e rest ih =>
    cases i with
    | zero => simp [moments]
    | succ i => simp [moments, ih]

theorem run_take_succ {p : Nat} {e : Event} (at_p : events[p]? = some e) :
    t.run (events.take (p + 1)) = ((t.run (events.take p)).turn e).after := by
  rw [List.take_add_one, at_p, run_append]
  rfl

theorem happenings_append :
    t.happenings (events ++ more) = t.happenings events ++ (t.run events).happenings more := by
  simp [happenings]

theorem happenings_split {p : Nat} {e : Event} (at_p : events[p]? = some e) :
    t.happenings events =
      t.happenings (events.take p) ++ ((t.run (events.take p)).turn e).happenings ++
        (t.run (events.take (p + 1))).happenings (events.drop (p + 1)) := by
  obtain ⟨bound, same⟩ := List.getElem?_eq_some_iff.mp at_p
  have split : events = events.take p ++ e :: events.drop (p + 1) := by
    rw [← same, List.getElem_cons_drop, List.take_append_drop]
  calc t.happenings events
      = t.happenings (events.take p ++ e :: events.drop (p + 1)) := by rw [← split]
    _ = t.happenings (events.take p) ++
          (t.run (events.take p)).happenings (e :: events.drop (p + 1)) := happenings_append
    _ = _ := by
      rw [run_take_succ at_p, List.append_assoc]
      simp [happenings, moments, Moment.happenings]

theorem moments_drop (k : Nat) :
    (t.moments events).drop k = (t.run (events.take k)).moments (events.drop k) := by
  induction events generalizing t k with
  | nil => simp [moments]
  | cons e rest ih =>
    cases k with
    | zero => rfl
    | succ k => simp [moments, ih]

theorem moment_iff {p : Nat} {m : Moment} :
    (t.moments events)[p]? = some m ↔
      ∃ e, events[p]? = some e ∧ m = ⟨t.run (events.take p), e⟩ := by
  rw [moments_getElem?, Option.map_eq_some_iff]
  simp only [eq_comm]

theorem moment_at {p : Nat} {m : Moment} (at_p : (t.moments events)[p]? = some m) :
    ∃ e, events[p]? = some e ∧ p < events.length ∧ m = ⟨t.run (events.take p), e⟩ := by
  obtain ⟨e, at_e, same⟩ := moment_iff.mp at_p
  exact ⟨e, at_e, (List.getElem?_eq_some_iff.mp at_e).1, same⟩

theorem holds_from (events : List Event) (Holds : Nat → Prop) (first : Nat) (start : Holds first)
    (step : ∀ p e, first ≤ p → events[p]? = some e → Holds p → Holds (p + 1)) :
    ∀ p, first ≤ p → p ≤ events.length → Holds p := by
  intro p reached
  induction reached with
  | refl => exact fun _ => start
  | @step p reached ih =>
    intro bound
    exact step p _ reached (List.getElem?_eq_getElem bound) (ih (Nat.le_of_lt bound))

theorem run_keeps {Kept : Topology → Prop} (step : ∀ t e, Kept t → Kept (t.turn e).after)
    (start : Kept t) : Kept (t.run events) := by
  induction events generalizing t with
  | nil => exact start
  | cons e rest ih => exact ih (step t e start)

end Topology

end TrafficControl
