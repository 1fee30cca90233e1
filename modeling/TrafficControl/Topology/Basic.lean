import TrafficControl.Dispatcher.Basic
import TrafficControl.Instance.Basic
import TrafficControl.Retry
import TrafficControl.Service.Basic

namespace TrafficControl

structure Subscription where
  service : ServiceKey
  /-- The topology answers for its service with this subscription. Once removed, it never does so
  again. -/
  isCurrent : Bool
  listeners : List Nat
  snapshot? : Option Instances
  registered : Bool
  fetchPending : Bool

namespace Subscription

def opened (service : ServiceKey) (listener : Nat) : Subscription where
  service := service
  isCurrent := true
  listeners := [listener]
  snapshot? := none
  registered := false
  fetchPending := false

end Subscription

/-- A task on a lane. Subscriptions are named by their numbers. -/
inductive Job where
  | watch (subscription : Nat) (attempt : UInt32)
  | cancel (service : ServiceKey)
  | fetch (subscription : Nat)
  deriving DecidableEq, Repr

inductive Caller where
  | lane
  | subscriber (listener : Nat)
  | closer (closing : Nat)
  deriving DecidableEq, Repr

inductive Happening where
  | fetching (caller : Caller) (subscription : Nat) (service : ServiceKey)
  | registering (subscription : Nat) (service : ServiceKey)
  | registered (subscription : Nat) (service : ServiceKey)
  | cancelling (caller : Caller) (service : ServiceKey)
  | delivered (listener : Nat) (service : ServiceKey) (instances : Instances)
  | retrying (ticket subscription : Nat) (attempt : UInt32) (delay : Nat)

structure Opening where
  listener : Nat
  subscription : Nat
  deriving DecidableEq, Repr

structure Closing where
  number : Nat
  left : List ServiceKey
  deriving DecidableEq, Repr

inductive Destruction where
  | ahead
  | draining
  | closing (number : Nat)
  | done
  deriving DecidableEq, Repr

structure Topology where
  retry : RetryPolicy
  includeBroken : Bool
  /-- By number, in the order in which they were opened, removed ones too. -/
  subscriptions : List Subscription
  dispatcher : Dispatcher Job
  openings : List Opening
  closings : List Closing
  destruction : Destruction
  nextListener : Nat
  nextClosing : Nat

/-- What a step gives back, the topology after it, and what happened in it. -/
structure Turn (α : Type) where
  result : α
  after : Topology
  happenings : List Happening

namespace Topology

def empty (retry : RetryPolicy) (includeBroken : Bool) : Topology where
  retry := retry
  includeBroken := includeBroken
  subscriptions := []
  dispatcher := .empty
  openings := []
  closings := []
  destruction := .ahead
  nextListener := 0
  nextClosing := 0

def current? (t : Topology) (service : ServiceKey) : Option (Nat × Subscription) :=
  (t.subscriptions.findIdx? fun s => s.isCurrent && decide (s.service = service)).bind fun n =>
    t.subscriptions[n]?.map fun s => (n, s)

theorem subscription_of_current? {t : Topology} {service : ServiceKey} {n : Nat} {s : Subscription}
    (found : t.current? service = some (n, s)) :
    t.subscriptions[n]? = some s ∧ s.isCurrent = true ∧ s.service = service := by
  obtain ⟨i, index, image⟩ := Option.bind_eq_some_iff.mp found
  obtain ⟨a, known, pair⟩ := Option.map_eq_some_iff.mp image
  cases pair
  obtain ⟨bound, holds, _⟩ := List.findIdx?_eq_some_iff_getElem.mp index
  obtain ⟨_, same⟩ := List.getElem?_eq_some_iff.mp known
  rw [same] at holds
  simp only [Bool.and_eq_true, decide_eq_true_eq] at holds
  exact ⟨known, holds.1, holds.2⟩

def isCurrent (t : Topology) (n : Nat) : Bool := (t.subscriptions[n]?).any Subscription.isCurrent

def modify (t : Topology) (n : Nat) (f : Subscription → Subscription) : Topology :=
  { t with subscriptions := t.subscriptions.modify n f }

def instances? (t : Topology) (service : ServiceKey) : Option Instances :=
  (t.current? service).bind fun (_, s) => s.snapshot?

def isRegistered (t : Topology) (service : ServiceKey) : Bool :=
  (t.current? service).any fun (_, s) => s.registered

def services (t : Topology) : List ServiceKey :=
  (t.subscriptions.filter Subscription.isCurrent).map Subscription.service

def quietly (t : Topology) (result : α) : Turn α := ⟨result, t, []⟩

/-- Queues a fetch for the subscription. One that is queued already will see the latest instances,
so a second one is not needed. -/
def scheduleFetch (t : Topology) (n : Nat) : Topology :=
  match t.subscriptions[n]? with
  | some s =>
    if s.fetchPending then t
    else
      match t.dispatcher.submit? .fetch (.fetch n) with
      | some d => { t with dispatcher := d }.modify n fun s => { s with fetchPending := true }
      | none => t
  | none => t

def publish (t : Topology) (n : Nat) (instances : Instances) : Turn Unit :=
  match t.subscriptions[n]? with
  | some s =>
    if s.isCurrent then
      { result := ()
        after := t.modify n fun s => { s with snapshot? := some instances }
        happenings := s.listeners.map fun l => .delivered l s.service instances }
    else t.quietly ()
  | none => t.quietly ()

def publishFetched (t : Topology) (n : Nat) : Option Instances → Turn Unit
  | some instances => t.publish n instances
  | none => t.quietly ()

def refresh (t : Topology) (service : ServiceKey) : Turn Bool :=
  match t.current? service with
  | some (n, _) => (t.scheduleFetch n).quietly true
  | none => t.quietly false

def shutdown (t : Topology) : Topology := { t with dispatcher := t.dispatcher.shutdown }

def isShutdown (t : Topology) : Bool := t.dispatcher.isShutdown

end Topology

end TrafficControl
